import CatalogImport.Proofs.Artifact.SharedFolder

/-!
# When all names are taken

A number has 32 bits, so a file has as many names.  What is refused depends on the files and not on the directories
that were made (`refuses_of_files_eq`), and where all names are taken no file is made.  Main statement: there a
writer comes to nothing, neither to a path nor to an error, however often it is its turn
(`result?_eq_none_of_allTaken`).
-/

namespace CatalogImport.SharedFolder

variable {dir : String} {d : Draft}

/-- What is refused depends on the files, not on the directories that were made. -/
theorem refuses_of_files_eq {t t' : FileTree} {e : FileError} (hfiles : t'.files = t.files)
    (h : t'.Refuses dir d e) : t.Refuses dir d e := by
  have hblocked (path : String) : t'.blocked path = t.blocked path := by
    unfold FileTree.blocked
    rw [hfiles]
  have hfile (path : String) : t'.isFile path = t.isFile path := by
    unfold FileTree.isFile
    rw [hfiles]
  refine h.imp (fun hfolder => ?_) fun ⟨hother, n, hn, hnew⟩ => ⟨hother, n, hn, ?_⟩
  · unfold FileTree.createFolders at hfolder ⊢
    rw [hblocked, hfile] at hfolder
    split at hfolder
    · next hlong => rw [if_pos hlong, hfolder]
    · next hfits =>
      rw [if_neg hfits]
      split at hfolder
      · next hbelow => rw [if_pos hbelow, hfolder]
      · next hway =>
        rw [if_neg hway]
        split at hfolder
        · next hthere => rw [if_pos hthere, hfolder]
        · cases hfolder
  · unfold FileTree.createNew at hnew ⊢
    rw [hblocked] at hnew
    split at hnew
    · next hlong => rw [if_pos hlong, hnew]
    · next hfits =>
      rw [if_neg hfits]
      split at hnew
      · next hbelow => rw [if_pos hbelow, hnew]
      · split at hnew
        · exact absurd (Except.error.inj hnew).symm hother
        · cases hnew

/-- Where the names of all numbers are taken, and nothing else is amiss, no writer comes to anything, however
often it is its turn. -/
theorem result?_eq_none_of_allTaken {t : FileTree} {dir : String} {drafts : List Draft}
    (htaken : ∀ d ∈ drafts, t.AllTaken dir d) (hgranted : ∀ d ∈ drafts, ∀ e, ¬ t.Refuses dir d e)
    (turns : List Nat) (i : Nat) : ((start t dir drafts).run turns).result? i = none := by
  obtain ⟨stages, h⟩ := exists_sound t dir drafts turns
  cases hresult : ((start t dir drafts).run turns).result? i with
  | none => rfl
  | some result =>
    cases result with
    | ok path =>
      obtain ⟨-, d, hd, -, n, hn, rfl, before, after, -, hfree, -⟩ := h.of_result?_ok hresult
      obtain ⟨stages', h'⟩ := exists_sound t dir drafts before
      have hwas := htaken d (List.mem_of_getElem? hd) n hn
      rw [h'.taken_eq_false hfree] at hwas
      cases hwas
    | error e =>
      obtain ⟨d, hd, before, after, -, hrefused⟩ := h.of_result?_error hresult
      obtain ⟨stages', h'⟩ := exists_sound t dir drafts before
      -- nobody has made a file
      have hfiles : ((start t dir drafts).run before).files.files = t.files :=
        Index.ext_find? fun key => h'.kept key fun j hclaim => by
          obtain ⟨d', n, hd', hn, -, hfree⟩ := h'.exists_free_of_claims hclaim
          have hwas := htaken d' (List.mem_of_getElem? hd') n hn
          rw [hfree] at hwas
          cases hwas
      exact absurd (refuses_of_files_eq hfiles hrefused) (hgranted d (List.mem_of_getElem? hd) e)

/-- What is below a path is longer. -/
theorem length_lt_of_isBelow {path entry : String} (h : isBelow path entry = true) :
    path.length < entry.length := by
  have hle := (List.isPrefixOf_iff_prefix.1 h).length_le
  rw [List.length_append, String.length_toList, String.length_toList] at hle
  exact hle

namespace Sample

/-- A file is to be written beside others. -/
def draft : Draft := ⟨"a", "x"⟩

/-- A directory in which files have the first so many names of the draft. -/
def numberedFiles (count : Nat) : FileTree :=
  ⟨((List.range count).map (draft.path "d")).foldl (fun files key => files.insert key "") .empty, ["d"]⟩

variable {n count : Nat}

theorem path_draft (n : Nat) : draft.path "d" n = "d/a" ++ numberEnd n := by
  rw [Draft.path, joinPath, startsWith_slash_numberedName, if_neg (by decide +kernel), if_neg (by decide +kernel),
    numberedName_eq, ← String.append_assoc]
  rfl

theorem pathComponents_draft (n : Nat) : pathComponents (draft.path "d" n) = ["d", "a" ++ numberEnd n] := by
  have hslash : '/' ∉ 'a' :: (numberEnd n).toList := by simp [slash_not_mem_numberEnd]
  have hsplit : (draft.path "d" n).toList.splitOn '/' = [['d'], 'a' :: (numberEnd n).toList] := by
    rw [path_draft, String.toList_append]
    change ('d' :: '/' :: 'a' :: (numberEnd n).toList).splitOn '/' = _
    rw [List.splitOn_cons_eq_if_modifyHead, if_neg (by decide), List.splitOn_cons_eq_if_modifyHead,
      if_pos (by decide), List.splitOn_eq_singleton hslash]
    rfl
  have hname : String.ofList ('a' :: (numberEnd n).toList) = "a" ++ numberEnd n := by
    rw [String.ofList_cons, String.ofList_toList]
    rfl
  have hlong : 3 ≤ ("a" ++ numberEnd n).length := by
    rw [String.length_append]
    exact Nat.add_le_add (by decide : 1 ≤ "a".length) (two_le_length_numberEnd n)
  have hkept : "a" ++ numberEnd n ≠ "" ∧ "a" ++ numberEnd n ≠ "." := by
    constructor <;> intro h <;> rw [h] at hlong <;> exact absurd hlong (by decide)
  rw [pathComponents, hsplit, List.map_cons, List.map_singleton, hname]
  simp [hkept]

theorem plainPath_draft (n : Nat) : plainPath (draft.path "d" n) = draft.path "d" n := by
  rw [plainPath, pathComponents_draft, path_draft, startsWith_slash_append _ (slash_not_mem_numberEnd n),
    if_neg (by decide +kernel), String.intercalate_cons_cons]
  simp [← String.append_assoc]

theorem pathFits_draft (hn : n < 2 ^ 32) : pathFits (draft.path "d" n) = true := by
  have hsize := utf8ByteSize_numberEnd_le hn
  have hdir : "d/a".utf8ByteSize = 3 ∧ "a".utf8ByteSize = 1 ∧ "d".utf8ByteSize = 1 := by decide
  rw [pathFits, pathComponents_draft, path_draft]
  simp only [String.utf8ByteSize_append, List.all_cons, List.all_nil, Bool.and_true, Bool.and_eq_true,
    decide_eq_true_eq]
  omega

theorem mem_keys_numberedFiles {key : String} :
    key ∈ (numberedFiles count).files.keys ↔ ∃ n < count, draft.path "d" n = key := by
  rw [Index.mem_keys_iff, numberedFiles, Index.find?_foldl_insert]
  simp

theorem three_lt_length_path (n : Nat) : 3 < (draft.path "d" n).length := by
  have hlong := two_le_length_numberEnd n
  have hdir : "d/a".length = 3 := by decide
  rw [path_draft, String.length_append]
  omega

theorem allTaken_numberedFiles : (numberedFiles (2 ^ 32)).AllTaken "d" draft := fun n hn => by
  have hfile : draft.path "d" n ∈ (numberedFiles (2 ^ 32)).files.keys := mem_keys_numberedFiles.2 ⟨n, hn, rfl⟩
  exact FileTree.taken_iff.2 (.inr (.inr ⟨_, List.mem_append_left _ hfile, .inl (plainPath_draft n).symm⟩))

theorem plainPath_folder : plainPath "d" = "d" := by decide +kernel

/-- No file lies on the way to the directory, nor in its place. -/
theorem blocked_folder : (numberedFiles count).blocked "d" = false := by
  refine Bool.eq_false_iff.2 fun hblocked => ?_
  obtain ⟨key, hkey, hbelow⟩ := List.any_eq_true.1 hblocked
  obtain ⟨m, -, rfl⟩ := mem_keys_numberedFiles.1 hkey
  have hlt := length_lt_of_isBelow hbelow
  rw [plainPath_folder] at hlt
  exact absurd ((three_lt_length_path m).trans hlt) (by decide)

theorem isFile_folder : (numberedFiles count).isFile "d" = false := by
  refine Bool.eq_false_iff.2 fun hfile => ?_
  rw [FileTree.isFile, plainPath_folder] at hfile
  obtain ⟨m, -, hm⟩ := mem_keys_numberedFiles.1 (Index.mem_keys_iff.2 hfile)
  have hlong := three_lt_length_path m
  rw [hm] at hlong
  exact absurd hlong (by decide)

/-- No file lies on the way to another. -/
theorem blocked_draft (n : Nat) : (numberedFiles count).blocked (draft.path "d" n) = false := by
  refine Bool.eq_false_iff.2 fun hblocked => ?_
  obtain ⟨key, hkey, hbelow⟩ := List.any_eq_true.1 hblocked
  obtain ⟨m, -, rfl⟩ := mem_keys_numberedFiles.1 hkey
  rw [plainPath_draft] at hbelow
  have hlt := length_lt_of_isBelow hbelow
  rw [path_draft, path_draft] at hbelow
  obtain rfl : m = n := eq_of_standsAt (.inr hbelow) (.inl rfl)
  exact absurd hlt (Nat.lt_irrefl _)

theorem not_refuses_numberedFiles (e : FileError) : ¬ (numberedFiles count).Refuses "d" draft e := by
  rintro (hfolder | ⟨hother, n, hn, hnew⟩)
  · rw [FileTree.createFolders, if_neg (by decide +kernel), blocked_folder, if_neg (by decide), isFile_folder,
      if_neg (by decide)] at hfolder
    cases hfolder
  · rw [FileTree.createNew, pathFits_draft hn, if_neg (by decide), blocked_draft, if_neg (by decide)] at hnew
    split at hnew
    · exact hother (Except.error.inj hnew).symm
    · cases hnew

end Sample

/-- The writer of a draft whose names are all taken does not come to an end. -/
theorem no_result_among_numberedFiles :
    ¬ ∃ turns : List Nat,
      (((start (Sample.numberedFiles (2 ^ 32)) "d" [Sample.draft]).run turns).result? 0).isSome := by
  rintro ⟨turns, hended⟩
  have htaken : ∀ d ∈ [Sample.draft], (Sample.numberedFiles (2 ^ 32)).AllTaken "d" d :=
    fun _ hd => List.mem_singleton.1 hd ▸ Sample.allTaken_numberedFiles
  have hgranted : ∀ d ∈ [Sample.draft], ∀ e, ¬ (Sample.numberedFiles (2 ^ 32)).Refuses "d" d e :=
    fun _ hd e => List.mem_singleton.1 hd ▸ Sample.not_refuses_numberedFiles e
  have hnone := result?_eq_none_of_allTaken htaken hgranted turns 0
  rw [hnone] at hended
  cases hended

end CatalogImport.SharedFolder
