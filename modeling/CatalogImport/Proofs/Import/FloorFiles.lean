import CatalogImport.Import.Floor
import CatalogImport.Proofs.Artifact.Stages

/-!
# Files that jobs write at the same time

Files and directories only come to those that are there (`FileTree.entries_subset_of_handler`), so the names that
were tried for a file stay taken while other desks move (`Desk.Step.tried`, `Floor.tries_of_runs`).  Main
statement: no number is left for a file only where there are as many files and directories
(`Floor.le_length_of_outOfNumbers`).
-/

namespace CatalogImport

variable {σ : Type}

/-! ## Names that were tried -/

namespace FileTree

variable {t t' : FileTree} {file : FileTask (Except FileError String)}

/-- A file is to be written, or names are tried for it of which the ones before are taken, or that is done. -/
inductive Tried (t : FileTree) (file : FileTask (Except FileError String)) : Prop
  | beginning (dir : String) (d : Draft) (h : file = writeFile dir d.stem d.text)
  | trying (dir : String) (d : Draft) (n : Nat) (hnumber : n ≤ 2 ^ 32)
      (h : file = probe dir d.stem d.text (2 ^ 32 - n) n)
      (htaken : ∀ m < n, t.taken (joinPath dir (numberedName d.stem m)) = true)
  | done (result : Except FileError String) (h : file = .done result)

theorem Tried.of_subset (h : t.Tried file) (hentries : t.entries ⊆ t'.entries) : t'.Tried file := by
  cases h with
  | beginning dir d h => exact .beginning dir d h
  | trying dir d n hnumber h htaken =>
    exact .trying dir d n hnumber h fun m hm => taken_of_subset hentries (htaken m hm)
  | done result h => exact .done result h

/-- Nothing is deleted. -/
theorem entries_subset_of_handler {q : FileRequest} {reply : Program.Reply q.Answer}
    (h : handler q t = (reply, t')) : t.entries ⊆ t'.entries := by
  cases q with
  | createFolders path =>
    rw [handler] at h
    cases hmade : t.createFolders path with
    | ok made =>
      rw [hmade] at h
      cases h
      exact entries_subset_of_createFolders hmade
    | error e =>
      rw [hmade] at h
      cases h
      exact List.Subset.refl _
  | createNew path text =>
    rw [handler] at h
    cases hmade : t.createNew path text with
    | ok made =>
      rw [hmade] at h
      cases h
      exact entries_subset_of_createNew hmade
    | error e =>
      rw [hmade] at h
      cases h
      exact List.Subset.refl _
  | numberOverflow =>
    cases h
    exact List.Subset.refl _

/-- A file that is not made leaves everything as it was. -/
theorem eq_of_handler_error {path text : String} {e : FileError}
    (h : handler (.createNew path text) t = (.answer (.error e), t')) : t.createNew path text = .error e ∧ t' = t := by
  rw [handler] at h
  cases hmade : t.createNew path text with
  | ok made =>
    rw [hmade] at h
    cases h
  | error e' =>
    rw [hmade] at h
    cases h
    exact ⟨rfl, rfl⟩

/-- What is answered is that the directory was made, or that a name is taken, or the writing is done. -/
theorem Tried.answered {q : FileRequest} {next : q.Answer → FileTask (Except FileError String)} {x : q.Answer}
    (h : t.Tried (.ask q next)) (hx : handler q t = (.answer x, t')) : t'.Tried (next x) := by
  have hentries := entries_subset_of_handler hx
  cases h with
  | beginning dir d h =>
    rw [WriterStage.writeFile_eq] at h
    cases h
    rcases x with e | ⟨⟨⟩⟩
    · exact .done (.error e) rfl
    · exact .trying dir d 0 (Nat.zero_le _) rfl fun m hm => absurd hm (Nat.not_lt_zero m)
  | trying dir d n hnumber h htaken =>
    rcases Nat.lt_or_eq_of_le hnumber with hn | rfl
    · rw [WriterStage.probe_of_lt dir d hn] at h
      cases h
      rcases x with e | ⟨⟨⟩⟩
      · by_cases hthere : e = .alreadyThere
        · subst hthere
          obtain ⟨hmade, rfl⟩ := eq_of_handler_error hx
          refine .trying dir d (n + 1) hn rfl fun m hm => ?_
          exact (Nat.lt_succ_iff_lt_or_eq.1 hm).elim (htaken m) fun heq => heq ▸ taken_of_createNew hmade
        · refine .done (.error e) ?_
          cases e with
          | alreadyThere => exact absurd rfl hthere
          | _ => rfl
      · exact .done (.ok (d.path dir n)) rfl
    · rw [Nat.sub_self] at h
      cases h
      cases x
  | done result h => cases h

/-- There is no number left only where there are as many files and directories. -/
theorem Tried.le_length {next : Empty → FileTask (Except FileError String)}
    (h : t.Tried (.ask .numberOverflow next)) : 2 ^ 32 ≤ t.entries.length := by
  cases h with
  | beginning dir d h =>
    rw [WriterStage.writeFile_eq] at h
    cases h
  | trying dir d n hnumber h htaken =>
    rcases Nat.lt_or_eq_of_le hnumber with hn | rfl
    · rw [WriterStage.probe_of_lt dir d hn] at h
      cases h
    · exact le_length_of_taken htaken (List.Subset.refl _)
  | done result h => cases h

end FileTree

/-! ## Desks that write files -/

/-- The names that were tried for a file at the desk are taken. -/
def Desk.Tries (t : FileTree) (d : Desk σ) : Prop := ∀ k file, d.doing = .keeping k file → t.Tried file

namespace Desk

variable {c c' : Common} {d d' : Desk σ}

theorem Step.entries_subset (h : Step c d c' d') : c.files.entries ⊆ c'.files.entries := by
  cases h with
  | file h => exact FileTree.entries_subset_of_handler h
  | _ => exact List.Subset.refl _

/-- They are so after a move at the desk. -/
theorem Step.tries (h : Step c d c' d') (hd : d.Tries c.files) : d'.Tries c'.files := by
  intro k file hdoing
  cases h with
  | @keep c p s task k' moment h =>
    cases hdoing
    exact .beginning p.job.config.artifactDir ⟨k.stem moment, k.text⟩ rfl
  | file h =>
    cases hdoing
    exact (hd _ _ rfl).answered h
  | _ => cases hdoing

end Desk

namespace Floor

variable {f g : Floor σ} {parties : List (Party σ)} {c : Common} {d : Desk σ}

/-- They are so at all desks, whichever moves. -/
theorem tries_of_moves (hf : ∀ d ∈ f.desks, d.Tries f.common.files) (h : Moves f g) :
    ∀ d ∈ g.desks, d.Tries g.common.files := by
  cases h with
  | @step c c' before after d d' hstep =>
    intro x hx
    have hother (hx : x ∈ before ++ d :: after) : x.Tries c'.files :=
      fun k file hdoing => (hf x hx k file hdoing).of_subset hstep.entries_subset
    rcases List.mem_append.1 hx with hx | hx
    · exact hother (List.mem_append_left _ hx)
    · rcases List.mem_cons.1 hx with rfl | hx
      · exact hstep.tries (hf d (List.mem_append_right _ List.mem_cons_self))
      · exact hother (List.mem_append_right _ (List.mem_cons_of_mem _ hx))

theorem tries_of_runs (hrun : (Floor.start parties c).Runs f) : ∀ d ∈ f.desks, d.Tries f.common.files := by
  induction hrun with
  | refl =>
    intro d hd k file hdoing
    obtain ⟨p, -, rfl⟩ := List.mem_map.1 hd
    cases hdoing
  | tail _ hmove ih => exact tries_of_moves ih hmove

/-- However the desks move, there is no number left at one of them only where there are as many files and
directories. -/
theorem le_length_of_outOfNumbers (hrun : (Floor.start parties c).Runs f) (hd : d ∈ f.desks)
    (hout : d.OutOfNumbers) : 2 ^ 32 ≤ f.common.files.entries.length := by
  obtain ⟨k, next, hdoing⟩ := hout
  exact (tries_of_runs hrun d hd k _ hdoing).le_length

end Floor

end CatalogImport
