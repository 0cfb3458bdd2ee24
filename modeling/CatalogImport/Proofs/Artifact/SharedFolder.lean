import CatalogImport.Proofs.Artifact.Stages
import Mathlib.Data.List.Induction
import Mathlib.Logic.Function.Basic

/-!
# Writers that do not overwrite

Whatever the others do in between, a writer stands where its own turns have brought it (`Stands`), what it has
made nobody else makes, and nothing else has changed (`Sound`, `exists_sound`).  Main statements: each writer
comes to an end while names are left, and to a path of its own where nothing was before
(`writers_keep_every_file`), and a writer alone does what is done in one go (`exists_run_eq_writeArtifact`).
-/

namespace CatalogImport

/-! ## Where a writer stands -/

/-- The number is the least whose name is not taken. -/
def FileTree.LeastFree (dir : String) (d : Draft) (n : Nat) (t : FileTree) : Prop :=
  t.taken (d.path dir n) = false ∧ ∀ m < n, t.taken (d.path dir m) = true

/-- The directory is not made, or a file is not for another reason than that something is there. -/
def FileTree.Refuses (dir : String) (d : Draft) (e : FileError) (t : FileTree) : Prop :=
  t.createFolders dir = .error e ∨
    e ≠ .alreadyThere ∧ ∃ n < 2 ^ 32, t.createNew (d.path dir n) "" = .error e

/-- There is a name for each number. -/
def FileTree.AllTaken (dir : String) (d : Draft) (t : FileTree) : Prop :=
  ∀ n < 2 ^ 32, t.taken (d.path dir n) = true

namespace SharedFolder

theorem run_append_singleton (s : SharedFolder) (turns : List Nat) (i : Nat) :
    s.run (turns ++ [i]) = (s.run turns).turn i := by
  rw [run, run, List.foldl_append, List.foldl_cons, List.foldl_nil]

/-- When it was one of the writer's turns, the files were so. -/
def InTurn (s : SharedFolder) (turns : List Nat) (i : Nat) (P : FileTree → Prop) : Prop :=
  ∃ before after, turns = before ++ i :: after ∧ P (s.run before).files

variable {s : SharedFolder} {turns : List Nat} {i j : Nat} {dir : String} {d : Draft} {st st' : WriterStage}
  {t' : FileTree} {P : FileTree → Prop}

theorem InTurn.now (h : P (s.run turns).files) : s.InTurn (turns ++ [i]) i P := ⟨turns, [], rfl, h⟩

theorem InTurn.later (h : s.InTurn turns i P) (j : Nat) : s.InTurn (turns ++ [j]) i P := by
  obtain ⟨before, after, rfl, hP⟩ := h
  exact ⟨before, after ++ [j], by rw [List.append_assoc, List.cons_append], hP⟩

/-- Where the writer of a draft stands after turns, its own and those of others. -/
inductive Stands (s : SharedFolder) (turns : List Nat) (dir : String) (i : Nat) (d : Draft) : WriterStage → Prop
  | beginning (hturns : turns.count i = 0) : Stands s turns dir i d .beginning
  | trying {n : Nat} (hturns : turns.count i = n + 1) (hnumber : n < 2 ^ 32)
      (htaken : ∀ m < n, (s.run turns).files.taken (d.path dir m) = true) : Stands s turns dir i d (.trying n)
  | filling {n : Nat} (hturns : turns.count i = n + 2) (hnumber : n < 2 ^ 32)
      (hmade : s.InTurn turns i (FileTree.LeastFree dir d n))
      (hfile : (s.run turns).files.files.find? (plainPath (d.path dir n)) = some "") :
      Stands s turns dir i d (.filling n)
  | written {n : Nat} (hnumber : n < 2 ^ 32) (hmade : s.InTurn turns i (FileTree.LeastFree dir d n))
      (hfile : (s.run turns).files.files.find? (plainPath (d.path dir n)) = some d.text) :
      Stands s turns dir i d (.written n)
  | refused {e : FileError} (h : s.InTurn turns i (FileTree.Refuses dir d e)) : Stands s turns dir i d (.failed e)
  | allTaken (h : s.InTurn turns i (FileTree.AllTaken dir d)) : Stands s turns dir i d .outOfNumbers

namespace Stands

theorem hasNumber (h : Stands s turns dir i d st) : st.HasNumber := by
  cases h with
  | trying _ hnumber _ => exact hnumber
  | _ => exact trivial

/-- The file that a writer has made is there. -/
theorem exists_find? (h : Stands s turns dir i d st) {key : String} (hclaim : st.claim? dir d = some key) :
    ∃ text, (s.run turns).files.files.find? key = some text := by
  cases h with
  | filling _ _ _ hfile =>
    obtain rfl := Option.some.inj hclaim
    exact ⟨_, hfile⟩
  | written _ _ hfile =>
    obtain rfl := Option.some.inj hclaim
    exact ⟨_, hfile⟩
  | _ => cases hclaim

/-- A turn of the writer takes it to the next stage. -/
theorem own (h : Stands s turns dir i d st) (hturn : WriterStage.Turn dir d (s.run turns).files st t' st')
    (hfiles : (s.run (turns ++ [i])).files = t') : Stands s (turns ++ [i]) dir i d st' := by
  have hcount : (turns ++ [i]).count i = turns.count i + 1 := by simp
  cases h with
  | beginning hturns =>
    cases hturn with
    | folder hmade => exact .trying (by omega) (by decide) fun m hm => absurd hm (Nat.not_lt_zero m)
    | noFolder hrefused => exact .refused (.now (.inl hrefused))
  | @trying n hturns hnumber htaken =>
    have hmore (hthere : (s.run turns).files.createNew (d.path dir n) "" = .error .alreadyThere) :
        ∀ m < n + 1, (s.run turns).files.taken (d.path dir m) = true := fun m hm =>
      (Nat.lt_succ_iff_lt_or_eq.1 hm).elim (htaken m) fun heq => heq ▸ FileTree.taken_of_createNew hthere
    cases hturn with
    | made hmade =>
      obtain ⟨hfree, hafter⟩ := FileTree.eq_of_createNew hmade
      refine .filling (by omega) hnumber (.now ⟨hfree, htaken⟩) ?_
      rw [hfiles, hafter, Index.find?_insert, if_pos rfl]
    | taken hthere hnext => exact .trying (by omega) hnext (hfiles ▸ hmore hthere)
    | allTaken hthere hlast => exact .allTaken (.now fun m hm => hmore hthere m (hlast ▸ hm))
    | refused hrefused hother => exact .refused (.now (.inr ⟨hother, n, hnumber, hrefused⟩))
  | filling hturns hnumber hmade hfile =>
    cases hturn with
    | filled =>
      refine .written hnumber (hmade.later i) ?_
      rw [hfiles, FileTree.fill, Index.find?_insert, if_pos rfl]
  | written hnumber hmade hfile =>
    cases hturn with
    | done => exact .written hnumber (hmade.later i) (hfiles ▸ hfile)
  | refused hrefused =>
    cases hturn with
    | ended => exact .refused (hrefused.later i)
  | allTaken htaken =>
    cases hturn with
    | stuck => exact .allTaken (htaken.later i)

/-- A turn of another writer leaves it where it is. -/
theorem other (h : Stands s turns dir i d st) (hne : i ≠ j)
    (hentries : (s.run turns).files.entries ⊆ (s.run (turns ++ [j])).files.entries)
    (hfile : ∀ key, st.claim? dir d = some key →
      (s.run (turns ++ [j])).files.files.find? key = (s.run turns).files.files.find? key) :
    Stands s (turns ++ [j]) dir i d st := by
  have hcount : (turns ++ [j]).count i = turns.count i := by simp [hne.symm]
  cases h with
  | beginning hturns => exact .beginning (hcount.trans hturns)
  | trying hturns hnumber htaken =>
    exact .trying (hcount.trans hturns) hnumber fun m hm => FileTree.taken_of_subset hentries (htaken m hm)
  | filling hturns hnumber hmade hmine =>
    exact .filling (hcount.trans hturns) hnumber (hmade.later j) ((hfile _ rfl).trans hmine)
  | written hnumber hmade hmine => exact .written hnumber (hmade.later j) ((hfile _ rfl).trans hmine)
  | refused hrefused => exact .refused (hrefused.later j)
  | allTaken htaken => exact .allTaken (htaken.later j)

end Stands

/-! ## Writers side by side -/

variable {t : FileTree} {drafts : List Draft} {stages : Nat → WriterStage} {key : String}

/-- A writer has made the file at the key. -/
def Claims (dir : String) (drafts : List Draft) (stages : Nat → WriterStage) (i : Nat) (key : String) : Prop :=
  ∃ d, drafts[i]? = some d ∧ (stages i).claim? dir d = some key

/-- Each writer is at its stage, no two have made the same file, and nothing has changed but what they made. -/
structure Sound (t : FileTree) (dir : String) (drafts : List Draft) (turns : List Nat)
    (stages : Nat → WriterStage) : Prop where
  writings : ∀ i, ((start t dir drafts).run turns).writings[i]? =
    drafts[i]?.map fun d => (stages i).writing dir d
  stands : ∀ i d, drafts[i]? = some d → Stands (start t dir drafts) turns dir i d (stages i)
  alone : ∀ i j key, Claims dir drafts stages i key → Claims dir drafts stages j key → i = j
  grown : t.entries ⊆ ((start t dir drafts).run turns).files.entries
  entries : ∀ entry ∈ ((start t dir drafts).run turns).files.entries,
    entry ∈ t.entries ∨ entry = plainPath dir ∨ ∃ i, Claims dir drafts stages i entry
  kept : ∀ key, (∀ i, ¬ Claims dir drafts stages i key) →
    ((start t dir drafts).run turns).files.files.find? key = t.files.find? key

theorem sound_start (t : FileTree) (dir : String) (drafts : List Draft) :
    Sound t dir drafts [] fun _ => .beginning where
  writings := fun i => by simp [run, start, WriterStage.writing]
  stands := fun i d _ => .beginning rfl
  alone := fun i j key ⟨_, _, hclaim⟩ => by cases hclaim
  grown := List.Subset.refl _
  entries := fun entry hentry => .inl hentry
  kept := fun key _ => rfl

/-- A turn that nobody takes. -/
theorem Sound.nobody (h : Sound t dir drafts turns stages) (hi : drafts[i]? = none) :
    Sound t dir drafts (turns ++ [i]) stages := by
  have hrun : (start t dir drafts).run (turns ++ [i]) = (start t dir drafts).run turns := by
    rw [run_append_singleton, turn, h.writings, hi, Option.map_none]
  refine ⟨hrun ▸ h.writings, fun j d hd => ?_, h.alone, hrun ▸ h.grown, hrun ▸ h.entries, hrun ▸ h.kept⟩
  have hne : j ≠ i := fun heq => by
    rw [heq, hi] at hd
    cases hd
  exact (h.stands j d hd).other hne (hrun ▸ List.Subset.refl _) fun key _ => by rw [hrun]

theorem claims_update_self (hd : drafts[i]? = some d) :
    Claims dir drafts (Function.update stages i st) i key ↔ st.claim? dir d = some key := by
  rw [Claims, Function.update_self, hd]
  exact ⟨fun ⟨d', hd', hclaim⟩ => Option.some.inj hd' ▸ hclaim, fun hclaim => ⟨d, rfl, hclaim⟩⟩

theorem claims_update_of_ne (hne : j ≠ i) :
    Claims dir drafts (Function.update stages i st) j key ↔ Claims dir drafts stages j key := by
  rw [Claims, Function.update_of_ne hne, Claims]

/-- A turn of one of the writers. -/
theorem Sound.someone (h : Sound t dir drafts turns stages) (hd : drafts[i]? = some d) :
    ∃ stages', Sound t dir drafts (turns ++ [i]) stages' := by
  obtain ⟨t', st', hturn, hwriting⟩ :=
    WriterStage.exists_turn dir d ((start t dir drafts).run turns).files (h.stands i d hd).hasNumber
  have hrun : (start t dir drafts).run (turns ++ [i]) =
      ⟨t', ((start t dir drafts).run turns).writings.set i (st'.writing dir d)⟩ := by
    rw [run_append_singleton, turn, h.writings, hd, Option.map_some]
    simp only [hwriting]
  have hfiles : ((start t dir drafts).run (turns ++ [i])).files = t' := congrArg files hrun
  -- what the others have made is not made again
  have hothers : ∀ j ≠ i, ∀ key, Claims dir drafts stages j key → st'.claim? dir d ≠ some key := by
    rintro j hne key ⟨d', hd', hclaim⟩ hclaim'
    by_cases hold : (stages i).claim? dir d = some key
    · exact hne (h.alone j i key ⟨d', hd', hclaim⟩ ⟨d, hd, hold⟩)
    · obtain ⟨text, hfound⟩ := (h.stands j d' hd').exists_find? hclaim
      rw [hturn.find?_eq_none hold hclaim'] at hfound
      cases hfound
  have hclaims : ∀ j key, Claims dir drafts stages j key →
      Claims dir drafts (Function.update stages i st') j key := by
    rintro j key ⟨d', hd', hclaim⟩
    by_cases hne : j = i
    · subst hne
      obtain rfl := Option.some.inj (hd.symm.trans hd')
      exact (claims_update_self hd).2 (hturn.claim?_eq hclaim)
    · exact (claims_update_of_ne hne).2 ⟨d', hd', hclaim⟩
  refine ⟨Function.update stages i st', fun j => ?_, fun j d' hd' => ?_, fun j k key hj hk => ?_, ?_, ?_, ?_⟩
  · rw [hrun]
    by_cases hne : j = i
    · subst hne
      rw [List.getElem?_set_self', h.writings, hd, Function.update_self]
      rfl
    · rw [List.getElem?_set_ne (Ne.symm hne), h.writings, Function.update_of_ne hne]
  · by_cases hne : j = i
    · subst hne
      obtain rfl := Option.some.inj (hd.symm.trans hd')
      rw [Function.update_self]
      exact (h.stands j d hd).own hturn hfiles
    · rw [Function.update_of_ne hne]
      refine (h.stands j d' hd').other hne (hfiles ▸ hturn.entries_subset) fun key hclaim => ?_
      rw [hfiles]
      exact hturn.find?_eq (hothers j hne key ⟨d', hd', hclaim⟩)
  · by_cases hji : j = i <;> by_cases hki : k = i
    · exact hji.trans hki.symm
    · subst hji
      exact absurd ((claims_update_self hd).1 hj) (hothers k hki key ((claims_update_of_ne hki).1 hk))
    · subst hki
      exact absurd ((claims_update_self hd).1 hk) (hothers j hji key ((claims_update_of_ne hji).1 hj))
    · exact h.alone j k key ((claims_update_of_ne hji).1 hj) ((claims_update_of_ne hki).1 hk)
  · rw [hfiles]
    exact List.Subset.trans h.grown hturn.entries_subset
  · intro entry hentry
    rcases hturn.of_mem_entries (hfiles ▸ hentry) with hold | hdir | hclaim
    · exact (h.entries entry hold).imp_right fun hrest =>
        hrest.imp_right fun ⟨j, hj⟩ => ⟨j, hclaims j entry hj⟩
    · exact .inr (.inl hdir)
    · exact .inr (.inr ⟨i, (claims_update_self hd).2 hclaim⟩)
  · intro key hnobody
    rw [hfiles, hturn.find?_eq fun hclaim => hnobody i ((claims_update_self hd).2 hclaim)]
    exact h.kept key fun j hj => hnobody j (hclaims j key hj)

theorem exists_sound (t : FileTree) (dir : String) (drafts : List Draft) (turns : List Nat) :
    ∃ stages, Sound t dir drafts turns stages := by
  induction turns using List.reverseRecOn with
  | nil => exact ⟨_, sound_start t dir drafts⟩
  | append_singleton turns i ih =>
    obtain ⟨stages, h⟩ := ih
    cases hd : drafts[i]? with
    | none => exact ⟨stages, h.nobody hd⟩
    | some d => exact h.someone hd

namespace Sound

variable {n : Nat} {path : String} {e : FileError}

/-- No writer tries more names than there were files and directories, and one for each writer and for the
directory. -/
theorem le_of_taken (h : Sound t dir drafts turns stages)
    (htaken : ∀ m < n, ((start t dir drafts).run turns).files.taken (d.path dir m) = true) :
    n ≤ t.entries.length + drafts.length + 1 := by
  have hentries : ((start t dir drafts).run turns).files.entries ⊆ t.entries ++ plainPath dir ::
      (List.range drafts.length).filterMap fun i => drafts[i]?.bind ((stages i).claim? dir) := by
    intro entry hentry
    rcases h.entries entry hentry with hold | rfl | ⟨i, d, hd, hclaim⟩
    · exact List.mem_append_left _ hold
    · exact List.mem_append_right _ List.mem_cons_self
    · refine List.mem_append_right _ (List.mem_cons_of_mem _ (List.mem_filterMap.2 ⟨i, ?_, ?_⟩))
      · exact List.mem_range.2 (List.getElem?_eq_some_iff.1 hd).1
      · rw [hd, Option.bind_some, hclaim]
  have hclaims := List.length_filterMap_le (fun i => drafts[i]?.bind ((stages i).claim? dir))
    (List.range drafts.length)
  have hle := le_length_of_taken htaken hentries
  simp only [List.length_append, List.length_cons, List.length_range] at hle hclaims
  omega

theorem result?_eq (h : Sound t dir drafts turns stages) (i : Nat) :
    ((start t dir drafts).run turns).result? i =
      drafts[i]?.bind fun d => ((stages i).writing dir d).result? := by
  rw [result?, h.writings, Option.bind_map]
  rfl

/-- A writer whose turn it was often enough has come to something, or it has run out of numbers. -/
theorem exists_result?_or (h : Sound t dir drafts turns stages) (hd : drafts[i]? = some d)
    (hturns : t.entries.length + drafts.length + 4 ≤ turns.count i) :
    (∃ result, ((start t dir drafts).run turns).result? i = some result) ∨ stages i = .outOfNumbers := by
  rw [h.result?_eq, hd, Option.bind_some]
  have hstands := h.stands i d hd
  generalize stages i = st at hstands
  cases hstands with
  | beginning hcount => omega
  | trying hcount _ htaken =>
    have hle := h.le_of_taken htaken
    omega
  | @filling n hcount _ hmade _ =>
    obtain ⟨before, after, hbefore, -, htaken⟩ := hmade
    obtain ⟨stages', h'⟩ := exists_sound t dir drafts before
    have hle := h'.le_of_taken htaken
    omega
  | @written n _ _ _ => exact .inl ⟨.ok (d.path dir n), rfl⟩
  | @refused e _ => exact .inl ⟨.error e, rfl⟩
  | allTaken _ => exact .inr rfl

/-- A writer runs out of numbers when there are as many files and directories. -/
theorem of_outOfNumbers (h : Sound t dir drafts turns stages) (hd : drafts[i]? = some d)
    (hstage : stages i = .outOfNumbers) :
    (start t dir drafts).InTurn turns i (FileTree.AllTaken dir d) ∧
      2 ^ 32 ≤ t.entries.length + drafts.length + 1 := by
  have hstands := h.stands i d hd
  rw [hstage] at hstands
  cases hstands with
  | allTaken hinturn =>
    obtain ⟨before, after, -, htaken⟩ := id hinturn
    obtain ⟨stages', h'⟩ := exists_sound t dir drafts before
    exact ⟨hinturn, h'.le_of_taken htaken⟩

/-- What a writer has come to tells its stage. -/
theorem stage_of_result? (h : Sound t dir drafts turns stages) {result : Except FileError String}
    (hresult : ((start t dir drafts).run turns).result? i = some result) :
    ∃ d, drafts[i]? = some d ∧ ((∃ n, stages i = .written n ∧ result = .ok (d.path dir n)) ∨
      ∃ e, stages i = .failed e ∧ result = .error e) := by
  rw [h.result?_eq] at hresult
  obtain ⟨d, hd, hresult⟩ := Option.bind_eq_some_iff.1 hresult
  exact ⟨d, hd, WriterStage.result?_writing (h.stands i d hd).hasNumber hresult⟩

/-- A writer that has come to a path has made the file and written its text. -/
theorem of_result?_ok (h : Sound t dir drafts turns stages)
    (hresult : ((start t dir drafts).run turns).result? i = some (.ok path)) :
    Claims dir drafts stages i (plainPath path) ∧ ∃ d, drafts[i]? = some d ∧
      ((start t dir drafts).run turns).files.files.find? (plainPath path) = some d.text ∧
      ∃ n < 2 ^ 32, path = d.path dir n ∧ (start t dir drafts).InTurn turns i (FileTree.LeastFree dir d n) := by
  obtain ⟨d, hd, ⟨n, hstage, hpath⟩ | ⟨e, -, hfailed⟩⟩ := h.stage_of_result? hresult
  · obtain rfl := Except.ok.inj hpath
    have hstands := h.stands i d hd
    rw [hstage] at hstands
    cases hstands with
    | written hnumber hmade hfile =>
      exact ⟨⟨d, hd, by rw [hstage]; rfl⟩, d, hd, hfile, n, hnumber, rfl, hmade⟩
  · cases hfailed

/-- A writer that has made a file and come to something has come to its path. -/
theorem exists_path_of_claims (h : Sound t dir drafts turns stages) (hclaim : Claims dir drafts stages i key)
    {result : Except FileError String}
    (hresult : ((start t dir drafts).run turns).result? i = some result) :
    ∃ path, result = .ok path ∧ plainPath path = key := by
  obtain ⟨d, hd, hclaim⟩ := hclaim
  obtain ⟨d', hd', ⟨n, hstage, rfl⟩ | ⟨e, hstage, rfl⟩⟩ := h.stage_of_result? hresult
  · obtain rfl := Option.some.inj (hd.symm.trans hd')
    rw [hstage] at hclaim
    exact ⟨_, rfl, Option.some.inj hclaim⟩
  · rw [hstage] at hclaim
    cases hclaim

/-- What was taken at a turn was not there at first. -/
theorem taken_eq_false (h : Sound t dir drafts turns stages)
    (hfree : ((start t dir drafts).run turns).files.taken path = false) : t.taken path = false :=
  Bool.eq_false_iff.2 fun htaken => absurd (FileTree.taken_of_subset h.grown htaken) (Bool.eq_false_iff.1 hfree)

/-- The files that the writers make have names that were not taken at first. -/
theorem exists_free_of_claims (h : Sound t dir drafts turns stages) (hclaim : Claims dir drafts stages i key) :
    ∃ d n, drafts[i]? = some d ∧ n < 2 ^ 32 ∧ plainPath (d.path dir n) = key ∧
      t.taken (d.path dir n) = false := by
  obtain ⟨d, hd, hclaim⟩ := hclaim
  have hfree : ∀ n, (start t dir drafts).InTurn turns i (FileTree.LeastFree dir d n) →
      t.taken (d.path dir n) = false := by
    rintro n ⟨before, after, -, hfree, -⟩
    obtain ⟨stages', h'⟩ := exists_sound t dir drafts before
    exact h'.taken_eq_false hfree
  have hstands := h.stands i d hd
  generalize stages i = st at hstands hclaim
  cases hstands with
  | @filling n _ hnumber hmade _ => exact ⟨d, n, hd, hnumber, Option.some.inj hclaim, hfree n hmade⟩
  | @written n hnumber hmade _ => exact ⟨d, n, hd, hnumber, Option.some.inj hclaim, hfree n hmade⟩
  | _ => cases hclaim

theorem find?_eq_none_of_claims (h : Sound t dir drafts turns stages) (hclaim : Claims dir drafts stages i key) :
    t.files.find? key = none := by
  obtain ⟨d, n, -, -, rfl, hfree⟩ := h.exists_free_of_claims hclaim
  exact FileTree.find?_eq_none_of_taken hfree

/-- The files that were there at first keep their texts. -/
theorem find?_eq_some (h : Sound t dir drafts turns stages) {text : String}
    (hfound : t.files.find? key = some text) :
    ((start t dir drafts).run turns).files.files.find? key = some text := by
  rw [h.kept key fun i hclaim => ?_, hfound]
  rw [h.find?_eq_none_of_claims hclaim] at hfound
  cases hfound

/-- A writer fails when it is refused something. -/
theorem of_result?_error (h : Sound t dir drafts turns stages)
    (hresult : ((start t dir drafts).run turns).result? i = some (.error e)) :
    ∃ d, drafts[i]? = some d ∧ (start t dir drafts).InTurn turns i (FileTree.Refuses dir d e) := by
  obtain ⟨d, hd, ⟨n, -, hpath⟩ | ⟨e', hstage, hfailed⟩⟩ := h.stage_of_result? hresult
  · cases hpath
  · obtain rfl := Except.error.inj hfailed
    have hstands := h.stands i d hd
    rw [hstage] at hstands
    cases hstands with
    | refused hrefused => exact ⟨d, hd, hrefused⟩

end Sound

/-- However the turns of writers follow each other, a writer comes to something after so many of its own, unless
the names of all numbers were taken in one of them, and then there were at least as many files and directories.
If it is a path, nothing was there, neither at first nor when the writer made the file, whose number was the least
that was free then; the text is in the file, and no other writer has come to that path.  If it is an error, the
files gave it.  The files that were there at first keep their texts, and when each writer has ended or has had so
many turns there are no others but those they have come to. -/
theorem writers_keep_every_file (t : FileTree) (dir : String) (drafts : List Draft) (turns : List Nat) :
    (∀ i d, drafts[i]? = some d → t.entries.length + drafts.length + 4 ≤ turns.count i →
      (∃ result, ((start t dir drafts).run turns).result? i = some result) ∨
        (start t dir drafts).InTurn turns i (FileTree.AllTaken dir d) ∧
          2 ^ 32 ≤ t.entries.length + drafts.length + 1) ∧
    (∀ i path, ((start t dir drafts).run turns).result? i = some (.ok path) → t.taken path = false ∧
      ∃ d, drafts[i]? = some d ∧
        ((start t dir drafts).run turns).files.files.find? (plainPath path) = some d.text ∧
        ∃ n < 2 ^ 32, path = d.path dir n ∧ (start t dir drafts).InTurn turns i (FileTree.LeastFree dir d n)) ∧
    (∀ i j path path', ((start t dir drafts).run turns).result? i = some (.ok path) →
      ((start t dir drafts).run turns).result? j = some (.ok path') → plainPath path = plainPath path' → i = j) ∧
    (∀ i e, ((start t dir drafts).run turns).result? i = some (.error e) →
      ∃ d, drafts[i]? = some d ∧ (start t dir drafts).InTurn turns i (FileTree.Refuses dir d e)) ∧
    (∀ key text, t.files.find? key = some text →
      ((start t dir drafts).run turns).files.files.find? key = some text) ∧
    ((∀ i < drafts.length, (((start t dir drafts).run turns).result? i).isSome ∨
        t.entries.length + drafts.length + 4 ≤ turns.count i) →
      ∀ key text, ((start t dir drafts).run turns).files.files.find? key = some text →
        t.files.find? key = some text ∨
          ∃ i path, ((start t dir drafts).run turns).result? i = some (.ok path) ∧ plainPath path = key) := by
  obtain ⟨stages, h⟩ := exists_sound t dir drafts turns
  refine ⟨fun i d hd hturns => (h.exists_result?_or hd hturns).imp_right (h.of_outOfNumbers hd),
    fun i path hresult => ?_, fun i j path path' hi hj heq => ?_, fun i e hresult => h.of_result?_error hresult,
    fun key text hfound => h.find?_eq_some hfound, fun hall key text hfound => ?_⟩
  · obtain ⟨-, d, hd, hfile, n, hn, rfl, before, after, hbefore, hfree⟩ := h.of_result?_ok hresult
    obtain ⟨stages', h'⟩ := exists_sound t dir drafts before
    exact ⟨h'.taken_eq_false hfree.1, d, hd, hfile, n, hn, rfl, before, after, hbefore, hfree⟩
  · exact h.alone i j _ (h.of_result?_ok hi).1 (heq ▸ (h.of_result?_ok hj).1)
  · by_cases hnobody : ∀ i, ¬ Claims dir drafts stages i key
    · exact .inl ((h.kept key hnobody).symm.trans hfound)
    · obtain ⟨i, d, hd, hclaim⟩ := Classical.not_forall_not.1 hnobody
      have hended : ∃ result, ((start t dir drafts).run turns).result? i = some result := by
        rcases hall i (List.getElem?_eq_some_iff.1 hd).1 with hended | hturns
        · exact Option.isSome_iff_exists.1 hended
        · refine (h.exists_result?_or hd hturns).resolve_right fun hstage => ?_
          -- a writer that has run out of numbers has made no file
          rw [hstage] at hclaim
          cases hclaim
      obtain ⟨result, hresult⟩ := hended
      obtain ⟨path, rfl, hpath⟩ := h.exists_path_of_claims ⟨d, hd, hclaim⟩ hresult
      exact .inr ⟨i, path, hresult, hpath⟩

/-- A directory with a file. -/
def sampleFolder : FileTree := ⟨.ofList [("d/a.json", "old")], ["d"]⟩

/-- Drafts of which two have one name, and a third the name that one of them gets. -/
def sampleDrafts : List Draft := [⟨"a", "x"⟩, ⟨"a", "y"⟩, ⟨"a_1", "z"⟩]

/-- The second goes first, then they take turns. -/
def sampleTurns : List Nat := [1, 1, 1] ++ (List.replicate 9 [0, 1, 2]).flatten

/-- The three files are beside the one that was there. -/
theorem sampleDrafts_are_kept :
    (∀ i < 3, ∃ result, ((start sampleFolder "d" sampleDrafts).run sampleTurns).result? i = some result) ∧
    ((start sampleFolder "d" sampleDrafts).run sampleTurns).result? 0 = some (.ok "d/a_2.json") ∧
    ((start sampleFolder "d" sampleDrafts).run sampleTurns).result? 1 = some (.ok "d/a_1.json") ∧
    ((start sampleFolder "d" sampleDrafts).run sampleTurns).result? 2 = some (.ok "d/a_1_1.json") ∧
    sampleFolder.taken "d/a_1.json" = false ∧
    ((start sampleFolder "d" sampleDrafts).run sampleTurns).files.files.find? "d/a.json" = some "old" := by
  obtain ⟨hends, hpaths, -, -, hkept, -⟩ := writers_keep_every_file sampleFolder "d" sampleDrafts sampleTurns
  have hsecond : ((start sampleFolder "d" sampleDrafts).run sampleTurns).result? 1 = some (.ok "d/a_1.json") := by
    decide +kernel
  have hturns : ∀ i < 3, 9 ≤ sampleTurns.count i := by decide
  refine ⟨fun i hi => ?_, by decide +kernel, hsecond, by decide +kernel, (hpaths 1 _ hsecond).1,
    hkept _ _ (by decide +kernel)⟩
  -- there are far fewer files than numbers
  exact (hends i _ (List.getElem?_eq_getElem hi) (hturns i hi)).resolve_right fun hfull =>
    absurd hfull.2 (by decide)

/-! ## A writer alone -/

/-- An empty file that is filled is as one made with its text. -/
theorem createNew_eq_map_fill (t : FileTree) (path text : String) :
    t.createNew path text = (t.createNew path "").map fun t' => t'.fill path text := by
  rcases t.createNew_cases path with ⟨e, -, hmade⟩ | ⟨-, hmade⟩ | ⟨-, hmade⟩
  · rw [hmade, hmade, Except.map]
  · rw [hmade, hmade, Except.map]
  · have hinsert : t.files.insert (plainPath path) text =
        (t.files.insert (plainPath path) "").insert (plainPath path) text := by
      refine Index.ext_find? fun key => ?_
      simp only [Index.find?_insert]
      split <;> rfl
    rw [hmade, hmade, hinsert]
    rfl

/-- To a question a writer alone gets the answer of the files, in one turn or in two, or it has run out of
numbers. -/
theorem exists_run_ask (q : FileRequest) (next : q.Answer → FileTask (Except FileError String)) (t : FileTree) :
    q = .numberOverflow ∨ ∃ k x t', FileTree.handler q t = (.answer x, t') ∧
      SharedFolder.run ⟨t, [.asking (.ask q next)]⟩ (List.replicate k 0) = ⟨t', [.asking (next x)]⟩ := by
  cases q with
  | createFolders path =>
    cases h : t.createFolders path with
    | ok t' => exact .inr ⟨1, .ok (), t', by rw [FileTree.handler, h], by simp [run, turn, Writing.turn, h]⟩
    | error e => exact .inr ⟨1, .error e, t, by rw [FileTree.handler, h], by simp [run, turn, Writing.turn, h]⟩
  | createNew path text =>
    have hfill := createNew_eq_map_fill t path text
    cases h : t.createNew path "" with
    | ok t' =>
      rw [h] at hfill
      exact .inr ⟨2, .ok (), t'.fill path text, by rw [FileTree.handler, hfill]; rfl,
        by simp [run, turn, Writing.turn, h, List.replicate_succ]⟩
    | error e =>
      rw [h] at hfill
      exact .inr ⟨1, .error e, t, by rw [FileTree.handler, hfill]; rfl, by simp [run, turn, Writing.turn, h]⟩
  | numberOverflow => exact .inl rfl

/-- So it comes to what it would come to with the files to itself, and is then at its end or stuck. -/
theorem exists_run_alone (p : FileTask (Except FileError String)) (t : FileTree) : ∃ k w,
    SharedFolder.run ⟨t, [.asking p]⟩ (List.replicate k 0) = ⟨(p.run FileTree.handler t).2, [w]⟩ ∧
      (∀ t', w.turn t' = (t', w)) ∧ (p.run FileTree.handler t).1 = w.result?.elim .collapsed .finished := by
  induction p generalizing t with
  | done result => exact ⟨0, .asking (.done result), rfl, fun _ => rfl, rfl⟩
  | ask q next ih =>
    rcases exists_run_ask q next t with rfl | ⟨k, x, t₁, hanswer, hfirst⟩
    · exact ⟨0, .asking (.ask .numberOverflow next), rfl, fun _ => rfl, rfl⟩
    · obtain ⟨k', w, hrest, hstays, hresult⟩ := ih x t₁
      have hrun : (Program.ask q next).run FileTree.handler t = (next x).run FileTree.handler t₁ := by
        rw [Program.run, hanswer]
      refine ⟨k + k', w, ?_, hstays, hrun ▸ hresult⟩
      rw [hrun, run, List.replicate_add, List.foldl_append]
      rw [run] at hfirst hrest
      rw [hfirst, hrest]

/-- What a writer does alone is what is done in one go. -/
theorem exists_run_eq_writeArtifact (t : FileTree) (dir : String) (d : Draft) : ∃ k w,
    (start t dir [d]).run (List.replicate k 0) = ⟨(t.writeArtifact dir d.stem d.text).2, [w]⟩ ∧
      (∀ t', w.turn t' = (t', w)) ∧
      (t.writeArtifact dir d.stem d.text).1 = w.result?.elim .collapsed .finished :=
  exists_run_alone (writeFile dir d.stem d.text) t

end SharedFolder

end CatalogImport
