import CatalogImport.Artifact.SharedFolder
import CatalogImport.Proofs.Index
import Mathlib.Data.List.Nodup
import Mathlib.Data.List.Perm.Subperm
import Mathlib.Data.Nat.Digits.Defs

/-!
# Numbered names

The names that are tried for one file differ at their ends only, and these ends have no slash.  So the paths
differ at their ends only, too, when what leads nowhere has been left out of them (`exists_plainPath_eq`), and
each file or directory stands in the way of one name at most.  Main statement: as many names as are taken, so
many files and directories there are (`le_length_of_taken`).
-/

namespace CatalogImport

open CatalogImport.Decimal

/-! ## Ends of names -/

/-- The end of a name with a number, behind the stem. -/
def numberEnd (n : Nat) : String := (if n = 0 then "" else "_" ++ numeral n) ++ ".json"

theorem numberedName_eq (stem : String) (n : Nat) : numberedName stem n = stem ++ numberEnd n := by
  unfold numberedName numberEnd
  split
  · rw [String.empty_append]
  · simp only [String.append_assoc]

theorem slash_not_mem_numberEnd (n : Nat) : '/' ∉ (numberEnd n).toList := by
  have hnumeral : '/' ∉ (numeral n).toList := by
    rw [numeral, String.toList_ofList]
    intro h
    have hdigit := Nat.isDigit_of_mem_toDigits (by decide) (by decide) h
    exact absurd hdigit (by decide)
  unfold numberEnd
  split <;> simp [hnumeral]

theorem two_le_length_numberEnd (n : Nat) : 2 ≤ (numberEnd n).length := by
  rw [numberEnd, String.length_append]
  exact Nat.le_add_left_of_le (by decide)

theorem numeral_injective {m n : Nat} (h : numeral m = numeral n) : m = n := by
  have hdigits : Nat.toDigits 10 m = Nat.toDigits 10 n := by
    have hlists := congrArg String.toList h
    rwa [numeral, numeral, String.toList_ofList, String.toList_ofList] at hlists
  calc
    m = Nat.ofDigitChars 10 (Nat.toDigits 10 m) 0 := Nat.ofDigitChars_ten_toDigits.symm
    _ = Nat.ofDigitChars 10 (Nat.toDigits 10 n) 0 := by rw [hdigits]
    _ = n := Nat.ofDigitChars_ten_toDigits

/-- Different numbers make different ends. -/
theorem numberEnd_injective {m n : Nat} (h : numberEnd m = numberEnd n) : m = n := by
  unfold numberEnd at h
  rw [String.append_left_inj] at h
  split at h <;> split at h
  · omega
  · exact absurd (String.append_eq_empty_iff.1 h.symm).1 (by decide)
  · exact absurd (String.append_eq_empty_iff.1 h).1 (by decide)
  · exact numeral_injective ((String.append_right_inj _).1 h)

theorem utf8ByteSize_digits {cs : List Char} (h : ∀ c ∈ cs, c.isDigit = true) :
    (String.ofList cs).utf8ByteSize = cs.length := by
  induction cs with
  | nil => rfl
  | cons c cs ih =>
    have hc : c.utf8Size = 1 := by
      have hdigit := h c List.mem_cons_self
      simp only [Char.isDigit, Bool.and_eq_true, decide_eq_true_eq] at hdigit
      exact Char.utf8Size_eq_one_iff.2 (UInt32.le_trans hdigit.2 (by decide))
    rw [String.ofList_cons, String.utf8ByteSize_append, String.utf8ByteSize_singleton, hc,
      ih fun d hd => h d (List.mem_cons_of_mem _ hd), List.length_cons, Nat.add_comm]

/-- A number of 32 bits has ten digits at most. -/
theorem utf8ByteSize_numberEnd_le {n : Nat} (hn : n < 2 ^ 32) : (numberEnd n).utf8ByteSize ≤ 16 := by
  have hnumeral : (numeral n).utf8ByteSize ≤ 10 := by
    rw [numeral, utf8ByteSize_digits fun c hc => Nat.isDigit_of_mem_toDigits (by decide) (by decide) hc]
    exact Nat.toDigits_length 10 n 10 (by decide) (by omega)
  unfold numberEnd
  split
  · decide
  · have hline : "_".utf8ByteSize = 1 := by decide
    have hjson : ".json".utf8ByteSize = 5 := by decide
    rw [String.utf8ByteSize_append, String.utf8ByteSize_append]
    omega

/-! ## Ends of paths -/

/-- What has no slash and is written behind a path comes to the last component. -/
theorem exists_splitOn_append (cs : List Char) : ∃ (before : List (List Char)) (last : List Char),
    ∀ ending, '/' ∉ ending → (cs ++ ending).splitOn '/' = before ++ [last ++ ending] := by
  induction cs with
  | nil => exact ⟨[], [], fun ending hslash => by simp [List.splitOn_eq_singleton hslash]⟩
  | cons c cs ih =>
    obtain ⟨before, last, hsplit⟩ := ih
    by_cases hc : c = '/'
    · refine ⟨[] :: before, last, fun ending hslash => ?_⟩
      rw [List.cons_append, List.splitOn_cons_eq_if_modifyHead, if_pos (by simp [hc]), hsplit ending hslash]
      rfl
    · cases before with
      | nil =>
        refine ⟨[], c :: last, fun ending hslash => ?_⟩
        rw [List.cons_append, List.splitOn_cons_eq_if_modifyHead, if_neg (by simp [hc]), hsplit ending hslash]
        rfl
      | cons first before =>
        refine ⟨(c :: first) :: before, last, fun ending hslash => ?_⟩
        rw [List.cons_append, List.splitOn_cons_eq_if_modifyHead, if_neg (by simp [hc]), hsplit ending hslash]
        rfl

theorem startsWith_slash_append (s : String) {ending : String} (hslash : '/' ∉ ending.toList) :
    (s ++ ending).startsWith "/" = s.startsWith "/" := by
  rw [Bool.eq_iff_iff, String.startsWith_string_iff, String.startsWith_string_iff, String.toList_append]
  cases s.toList with
  | nil =>
    refine ⟨fun h => absurd (h.subset (List.mem_singleton.2 rfl)) hslash, fun h => ?_⟩
    exact absurd h (by decide)
  | cons c cs => simp

theorem intercalate_append_singleton (parts : List String) (last ending : String) :
    "/".intercalate (parts ++ [last ++ ending]) = "/".intercalate (parts ++ [last]) ++ ending := by
  cases parts with
  | nil => simp
  | cons part parts =>
    rw [String.intercalate_append_of_ne_nil (by simp) (by simp), String.intercalate_append_of_ne_nil (by simp)
      (by simp), String.intercalate_singleton, String.intercalate_singleton]
    simp only [String.append_assoc]

/-- An end that is more than a dot stays when what leads nowhere is left out of a path. -/
theorem exists_plainPath_append (s : String) : ∃ q : String, ∀ ending : String, '/' ∉ ending.toList →
    2 ≤ ending.length → plainPath (s ++ ending) = q ++ ending := by
  obtain ⟨before, last, hsplit⟩ := exists_splitOn_append s.toList
  refine ⟨(if s.startsWith "/" then "/" else "") ++ "/".intercalate
    (((before.map String.ofList).filter fun c => c ≠ "" ∧ c ≠ ".") ++ [String.ofList last]), ?_⟩
  intro ending hslash hlength
  have hlong : 2 ≤ (String.ofList last ++ ending).length := by
    rw [String.length_append]
    omega
  have hkept : String.ofList last ++ ending ≠ "" ∧ String.ofList last ++ ending ≠ "." := by
    constructor <;> intro h <;> rw [h] at hlong <;> exact absurd hlong (by decide)
  have hlast : [String.ofList last ++ ending].filter (fun c => c ≠ "" ∧ c ≠ ".") =
      [String.ofList last ++ ending] :=
    List.filter_eq_self.2 fun c hc => decide_eq_true (List.mem_singleton.1 hc ▸ hkept)
  unfold plainPath pathComponents
  rw [startsWith_slash_append s hslash, String.toList_append, hsplit _ hslash, List.map_append,
    List.filter_append, List.map_singleton, String.ofList_append, String.ofList_toList, hlast,
    intercalate_append_singleton, String.append_assoc]

theorem startsWith_slash_numberedName {stem : String} (n : Nat) :
    (numberedName stem n).startsWith "/" = stem.startsWith "/" := by
  rw [numberedName_eq, startsWith_slash_append stem (slash_not_mem_numberEnd n)]

/-- The paths of the names of a file differ at their ends only. -/
theorem exists_joinPath_eq (dir stem : String) :
    ∃ s, ∀ n, joinPath dir (numberedName stem n) = s ++ numberEnd n := by
  have hjoin : ∀ n, joinPath dir (numberedName stem n) =
      if dir = "" ∨ stem.startsWith "/" = true then stem ++ numberEnd n
      else if dir.endsWith "/" = true then dir ++ (stem ++ numberEnd n)
      else dir ++ "/" ++ (stem ++ numberEnd n) := fun n => by
    rw [joinPath, startsWith_slash_numberedName, numberedName_eq]
  by_cases hfirst : dir = "" ∨ stem.startsWith "/" = true
  · exact ⟨stem, fun n => by rw [hjoin, if_pos hfirst]⟩
  · by_cases hlast : dir.endsWith "/" = true
    · exact ⟨dir ++ stem, fun n => by rw [hjoin, if_neg hfirst, if_pos hlast, String.append_assoc]⟩
    · exact ⟨dir ++ "/" ++ stem, fun n => by
      rw [hjoin, if_neg hfirst, if_neg hlast, ← String.append_assoc]⟩

/-- So do they without what leads nowhere. -/
theorem exists_plainPath_eq (dir stem : String) :
    ∃ q, ∀ n, plainPath (joinPath dir (numberedName stem n)) = q ++ numberEnd n := by
  obtain ⟨s, hs⟩ := exists_joinPath_eq dir stem
  obtain ⟨q, hq⟩ := exists_plainPath_append s
  exact ⟨q, fun n => by rw [hs, hq _ (slash_not_mem_numberEnd n) (two_le_length_numberEnd n)]⟩

/-! ## What stands in the way -/

/-- A file or directory is at a path or below it. -/
def StandsAt (path entry : String) : Prop := entry = path ∨ isBelow path entry = true

/-- What is at a path or below it goes on with a slash behind the path. -/
theorem StandsAt.leads {path entry : String} (h : StandsAt path entry) :
    path.toList ++ ['/'] <+: entry.toList ++ ['/'] := by
  rcases h with rfl | h
  · exact List.prefix_rfl
  · exact (List.isPrefixOf_iff_prefix.1 h).trans (List.prefix_append _ _)

/-- Of two ends with a slash behind them, one begins with the other only if they are the same. -/
theorem numberEnd_eq_of_leads {m n : Nat}
    (h : (numberEnd m).toList ++ ['/'] <+: (numberEnd n).toList ++ ['/']) : m = n := by
  obtain ⟨rest, hrest⟩ := h
  rw [List.append_assoc, List.singleton_append] at hrest
  have hends := (List.append_cons_inj_of_notMem (slash_not_mem_numberEnd n) List.not_mem_nil).1 hrest.symm
  exact numberEnd_injective (String.toList_injective hends.1.symm)

/-- Nothing stands in the way of two names of a file. -/
theorem eq_of_standsAt {q entry : String} {m n : Nat} (hm : StandsAt (q ++ numberEnd m) entry)
    (hn : StandsAt (q ++ numberEnd n) entry) : m = n := by
  have hleads := List.prefix_or_prefix_of_prefix hm.leads hn.leads
  simp only [String.toList_append, List.append_assoc, List.prefix_append_right_inj] at hleads
  rcases hleads with h | h
  · exact numberEnd_eq_of_leads h
  · exact (numberEnd_eq_of_leads h).symm

/-- What is taken is so because a file or a directory is there or below, but for the directories that are
always there. -/
theorem FileTree.taken_iff {t : FileTree} {path : String} : t.taken path = true ↔
    plainPath path = "" ∨ plainPath path = "/" ∨ ∃ entry ∈ t.entries, StandsAt (plainPath path) entry := by
  simp only [taken, isFile, isFolder, entries, Index.contains, ← Index.mem_keys_iff, Bool.or_eq_true, beq_iff_eq,
    List.contains_iff_mem, List.any_eq_true, List.mem_append, StandsAt]
  constructor
  · rintro (hfile | (((hempty | hroot) | hfolder) | ⟨file, hfile, hbelow⟩) | ⟨folder, hfolder, hbelow⟩)
    · exact .inr (.inr ⟨_, .inl hfile, .inl rfl⟩)
    · exact .inl hempty
    · exact .inr (.inl hroot)
    · exact .inr (.inr ⟨_, .inr hfolder, .inl rfl⟩)
    · exact .inr (.inr ⟨file, .inl hfile, .inr hbelow⟩)
    · exact .inr (.inr ⟨folder, .inr hfolder, .inr hbelow⟩)
  · rintro (hempty | hroot | ⟨entry, hfile | hfolder, rfl | hbelow⟩)
    · exact .inr (.inl (.inl (.inl (.inl hempty))))
    · exact .inr (.inl (.inl (.inl (.inr hroot))))
    · exact .inl hfile
    · exact .inr (.inl (.inr ⟨entry, hfile, hbelow⟩))
    · exact .inr (.inl (.inl (.inr hfolder)))
    · exact .inr (.inr ⟨entry, hfolder, hbelow⟩)

/-- What is taken stays so while nothing is deleted. -/
theorem FileTree.taken_of_subset {t t' : FileTree} (h : t.entries ⊆ t'.entries) {path : String}
    (htaken : t.taken path = true) : t'.taken path = true := by
  rw [taken_iff] at htaken ⊢
  exact htaken.imp_right fun hrest => hrest.imp_right fun ⟨entry, hentry, hstands⟩ => ⟨entry, h hentry, hstands⟩

/-- As many names of a file as are taken, so many files and directories there are. -/
theorem le_length_of_taken {t : FileTree} {dir stem : String} {n : Nat}
    (h : ∀ m < n, t.taken (joinPath dir (numberedName stem m)) = true) {entries : List String}
    (hentries : t.entries ⊆ entries) : n ≤ entries.length := by
  obtain ⟨q, hq⟩ := exists_plainPath_eq dir stem
  have hstands : ∀ m : Fin n, ∃ entry ∈ t.entries, StandsAt (q ++ numberEnd m) entry := fun m => by
    have hlong : 2 ≤ (q ++ numberEnd m).length := by
      rw [String.length_append]
      exact Nat.le_add_left_of_le (two_le_length_numberEnd m)
    rcases FileTree.taken_iff.1 (h m m.isLt) with hempty | hroot | hentry
    · rw [← hq, hempty] at hlong
      exact absurd hlong (by decide)
    · rw [← hq, hroot] at hlong
      exact absurd hlong (by decide)
    · exact hq m ▸ hentry
  choose entry hmem hat using hstands
  have hinjective : Function.Injective entry := fun m m' heq =>
    Fin.ext (eq_of_standsAt (hat m) (heq ▸ hat m'))
  have hnodup := (List.nodup_finRange n).map hinjective
  have hsubset : (List.finRange n).map entry ⊆ entries := fun e he => by
    obtain ⟨m, -, rfl⟩ := List.mem_map.1 he
    exact hentries (hmem m)
  calc
    n = ((List.finRange n).map entry).length := by rw [List.length_map, List.length_finRange]
    _ ≤ entries.length := (List.Nodup.subperm hnodup hsubset).length_le

end CatalogImport
