import CatalogImport.Proofs.Import.Resume
import CatalogImport.Proofs.Import.Undisturbed

/-!
# The catalog that is stored

What imports that nothing disturbs leave in a store comes out of the document alone.  Under the id of a
record lies the payload of the last record with it, and nothing else in the store is touched; neither the
size of the batches nor how often the document is imported has a bearing on it.  Main statement:
`stored_catalog_of_document`.
-/

namespace CatalogImport

open CatalogImport.Json

variable {R : Type} [CatalogRecord R]

/-! ## What elements leave in a store -/

/-- The forms in which the records are handed to a store that elements describe. -/
def formsOf (R : Type) [CatalogRecord R] (vs : List Value) : List Stored :=
  vs.filterMap fun v =>
    (CatalogRecord.validate (R := R) v).toOption.bind fun r => (CatalogRecord.stored r).toOption

/-- Positions have no bearing on the forms. -/
theorem storedForms_entriesOf (vs : List Value) (n : Nat) :
    storedForms (entriesOf R (vs.zipIdx n)) = formsOf R vs := by
  induction vs generalizing n with
  | nil => rfl
  | cons v vs ih =>
    rw [List.zipIdx_cons, ← List.singleton_append, entriesOf_append, storedForms_append, ih]
    cases hv : CatalogRecord.validate (R := R) v with
    | error violation =>
      rw [entriesOf_nonRecord hv]
      simp [formsOf, storedForms, hv, Except.toOption]
    | ok r =>
      rw [entriesOf_record hv]
      cases hs : CatalogRecord.stored r with
      | error reason => simp [formsOf, storedForms, hv, hs, Except.toOption]
      | ok form => simp [formsOf, storedForms, hv, hs, Except.toOption]

theorem formsOf_append (vs ws : List Value) : formsOf R (vs ++ ws) = formsOf R vs ++ formsOf R ws :=
  List.filterMap_append

theorem formsOf_cons_of_stored {v : Value} {r : R} {form : Stored}
    (hvalid : CatalogRecord.validate v = .ok r) (hstored : CatalogRecord.stored r = .ok form)
    (vs : List Value) : formsOf R (v :: vs) = form :: formsOf R vs := by
  unfold formsOf
  refine List.filterMap_cons_some ?_
  simp [hvalid, hstored, Except.toOption]

theorem mem_formsOf {form : Stored} {vs : List Value} (h : form ∈ formsOf R vs) :
    ∃ v ∈ vs, ∃ r : R, CatalogRecord.validate v = .ok r ∧ CatalogRecord.stored r = .ok form := by
  obtain ⟨v, hv, hform⟩ := List.mem_filterMap.1 h
  refine ⟨v, hv, ?_⟩
  cases hvalid : CatalogRecord.validate (R := R) v with
  | error violation =>
    rw [hvalid] at hform
    cases hform
  | ok r =>
    rw [hvalid] at hform
    cases hstored : CatalogRecord.stored r with
    | error reason => simp [hstored, Except.toOption] at hform
    | ok form' =>
      simp only [hstored, Except.toOption, Option.bind_some, Option.some.injEq] at hform
      exact ⟨r, rfl, hform ▸ hstored⟩

/-- No form has an id that no record among the elements has. -/
theorem lastPayload_formsOf_eq_none {id : String} {vs : List Value}
    (h : ∀ v ∈ vs, ∀ r : R, CatalogRecord.validate v = .ok r → CatalogRecord.id r ≠ id) :
    MemoryStore.lastPayload id (formsOf R vs) = none := by
  refine MemoryStore.lastPayload_eq_none_iff.2 ?_
  rintro form hform ⟨hid, -⟩
  obtain ⟨v, hv, r, hvalid, hstored⟩ := mem_formsOf hform
  exact h v hv r hvalid ((id_of_stored hstored).symm.trans hid)

/-- Under the id of a record the payload of the last one with it is the last one written. -/
theorem lastPayload_formsOf [CatalogRecord.Storable R] (before : List Value) {after : List Value}
    {v : Value} {r : R} (hvalid : CatalogRecord.validate v = .ok r)
    (hlast : ∀ w ∈ after, ∀ r' : R, CatalogRecord.validate w = .ok r' →
      CatalogRecord.id r' ≠ CatalogRecord.id r) :
    ∃ payload, CatalogRecord.payload r = .ok payload ∧
      MemoryStore.lastPayload (CatalogRecord.id r) (formsOf R (before ++ v :: after)) = some payload := by
  have hid : CatalogRecord.id r ≠ "" := CatalogRecord.Storable.id_ne_empty hvalid
  obtain ⟨form, hstored⟩ := CatalogRecord.Storable.exists_stored hvalid
  cases hpayload : CatalogRecord.payload r with
  | error reason =>
    rw [CatalogRecord.stored, hpayload] at hstored
    cases hstored
  | ok payload =>
    have hform : form = ⟨CatalogRecord.id r, payload⟩ := by
      rw [CatalogRecord.stored, hpayload] at hstored
      exact (Except.ok.inj hstored).symm
    refine ⟨payload, rfl, ?_⟩
    rw [formsOf_append, formsOf_cons_of_stored hvalid hstored, MemoryStore.lastPayload_append,
      MemoryStore.lastPayload, lastPayload_formsOf_eq_none hlast, hform, if_pos ⟨rfl, hid⟩]
    rfl

/-! ## The store that is filled with a document -/

theorem find?_filled_eq (document : Reading) (s : MemoryStore) (id : String) :
    (s.filled R document).records.find? id =
      (MemoryStore.lastPayload id (formsOf R document.elements)).or (s.records.find? id) := by
  rw [MemoryStore.filled, MemoryStore.find?_addMany, storedForms_entriesOf]

/-- Stores with the same records have the same records when they have been filled. -/
theorem records_filled_congr {document : Reading} {s s' : MemoryStore} (h : s.records = s'.records) :
    (s.filled R document).records = (s'.filled R document).records := by
  refine Index.ext_find? fun id => ?_
  rw [find?_filled_eq, find?_filled_eq, h]

/-- A store that has been filled with a document is not changed by filling it once more. -/
theorem records_filled_filled (document : Reading) (s : MemoryStore) :
    ((s.filled R document).filled R document).records = (s.filled R document).records := by
  refine Index.ext_find? fun id => ?_
  rw [find?_filled_eq, find?_filled_eq, ← Option.or_assoc, Option.or_self]

/-! ## Imports into stores -/

section

variable [CatalogRecord.Storable R] {document : Reading} {summary : ReadSummary}

/-- An undisturbed import from the first batch on of a document that can be read does all it has to, and
fills the store. -/
theorem Undisturbed.fills {config : Config} {logbook : Option Logbook} {t : History} {outcome : Outcome}
    {s s' : Scene} (h : Undisturbed R document config logbook 0 t outcome)
    (hread : document.ending = .ok summary) (hs : Scene.After document s t s') :
    outcome = .ok outcome.statistics ∧ s'.store = s.store.filled R document := by
  obtain ⟨-, -, hcause⟩ := h.receives_all
  rw [document.cause?_of_ok hread] at hcause
  cases outcome with
  | error aborted => cases hcause
  | ok statistics => exact ⟨rfl, store_eq_filled h.yields hs⟩

/-- Any number of undisturbed imports of a document from the first batch on came one after the other, each
with a configuration of its own. -/
inductive Reimported (R : Type) [CatalogRecord R] (document : Reading) : Scene → Scene → Prop
  | nil (s : Scene) : Reimported R document s s
  | cons {s s₁ s' : Scene} {config : Config} {logbook : Option Logbook} {t : History} {outcome : Outcome}
      (himport : Undisturbed R document config logbook 0 t outcome) (hafter : Scene.After document s t s₁)
      (hrest : Reimported R document s₁ s') : Reimported R document s s'

/-- A filled store stays as it is. -/
theorem Reimported.records_eq {s s' : Scene} {s₀ : MemoryStore} (h : Reimported R document s s')
    (hread : document.ending = .ok summary) (hs : s.store.records = (s₀.filled R document).records) :
    s'.store.records = (s₀.filled R document).records := by
  induction h with
  | nil s => exact hs
  | cons himport hafter _ ih =>
    obtain ⟨-, hfilled⟩ := himport.fills hread hafter
    apply ih
    rw [hfilled, records_filled_congr hs, records_filled_filled]

/-- What is stored comes out of the document, and not out of how it was cut into batches or how often it
was imported.  Two undisturbed imports of a document that can be read, from the first batch on and into
stores with the same records, do all they have to, with any two configurations, and leave stores with the
same records.  Under the id of a record among the elements lies the payload of the last such record, and
under every other id what lay there before.  However often the document is imported after that, with
whatever configurations, the records stay the same. -/
theorem stored_catalog_of_document {config₁ config₂ : Config} {logbook₁ logbook₂ : Option Logbook}
    {t₁ t₂ : History} {outcome₁ outcome₂ : Outcome} {s₁ s₂ s₁' s₂' s₁'' : Scene}
    (hread : document.ending = .ok summary)
    (h₁ : Undisturbed R document config₁ logbook₁ 0 t₁ outcome₁)
    (hafter₁ : Scene.After document s₁ t₁ s₁')
    (h₂ : Undisturbed R document config₂ logbook₂ 0 t₂ outcome₂)
    (hafter₂ : Scene.After document s₂ t₂ s₂')
    (hsame : s₁.store.records = s₂.store.records) (hagain : Reimported R document s₁' s₁'') :
    outcome₁ = .ok outcome₁.statistics ∧ outcome₂ = .ok outcome₂.statistics ∧
      s₁'.store.records = s₂'.store.records ∧
      (∀ before v after (r : R), document.elements = before ++ v :: after →
        CatalogRecord.validate v = .ok r →
        (∀ w ∈ after, ∀ r' : R, CatalogRecord.validate w = .ok r' →
          CatalogRecord.id r' ≠ CatalogRecord.id r) →
        ∃ payload, CatalogRecord.payload r = .ok payload ∧
          s₁'.store.records.find? (CatalogRecord.id r) = some payload) ∧
      (∀ id, (∀ v ∈ document.elements, ∀ r : R, CatalogRecord.validate v = .ok r →
          CatalogRecord.id r ≠ id) →
        s₁'.store.records.find? id = s₁.store.records.find? id) ∧
      s₁''.store.records = s₁'.store.records := by
  obtain ⟨hdone₁, hfilled₁⟩ := h₁.fills hread hafter₁
  obtain ⟨hdone₂, hfilled₂⟩ := h₂.fills hread hafter₂
  refine ⟨hdone₁, hdone₂, ?_, ?_, ?_, ?_⟩
  · rw [hfilled₁, hfilled₂]
    exact records_filled_congr hsame
  · intro before v after r helements hvalid hlast
    obtain ⟨payload, hpayload, hfound⟩ := lastPayload_formsOf before hvalid hlast
    refine ⟨payload, hpayload, ?_⟩
    rw [hfilled₁, find?_filled_eq, helements, hfound]
    rfl
  · intro id hid
    rw [hfilled₁, find?_filled_eq, lastPayload_formsOf_eq_none hid]
    rfl
  · rw [hagain.records_eq hread (congrArg MemoryStore.records hfilled₁), hfilled₁]

end

/-- The sample is imported in batches of one record and in batches of two, and then once more. -/
theorem stored_catalog_of_sample :
    ∃ third : CardSet, CardSet.validate (Sample.element "a" "Third") = .ok third ∧
      (Sample.run 1 0 (Sample.scene, 9)).2.1.store.records.find? third.id =
        some (.ofMembers third.members) ∧
      (Sample.run 1 0 (Sample.scene, 9)).2.1.store.records =
        (Sample.run 2 0 (Sample.scene, 9)).2.1.store.records ∧
      (Sample.run 2 0 ((Sample.run 1 0 (Sample.scene, 9)).2.1, 9)).2.1.store.records =
        (Sample.run 1 0 (Sample.scene, 9)).2.1.store.records := by
  have hrun₁ : (Sample.run 1 0 (Sample.scene, 9)).1 =
      .finished (.ok ⟨3, 3, 0, 3, 1, 0, .epoch, some .epoch⟩) := by decide +kernel
  have hrun₂ : (Sample.run 2 0 (Sample.scene, 9)).1 =
      .finished (.ok ⟨3, 3, 0, 2, 1, 0, .epoch, some .epoch⟩) := by decide +kernel
  have hrun₃ : (Sample.run 2 0 ((Sample.run 1 0 (Sample.scene, 9)).2.1, 9)).1 =
      .finished (.ok ⟨3, 3, 0, 2, 1, 0, .epoch, some .epoch⟩) := by decide +kernel
  have h₁ := Sample.undisturbed_of_run hrun₁ (by decide +kernel)
  have h₂ := Sample.undisturbed_of_run hrun₂ (by decide +kernel)
  have h₃ := Sample.undisturbed_of_run hrun₃ (by decide +kernel)
  obtain ⟨-, -, hsame, hlast, -, hagain⟩ := stored_catalog_of_document rfl
    h₁ (Scene.after_of_run hrun₁) h₂ (Scene.after_of_run hrun₂) rfl
    (.cons h₃ (Scene.after_of_run hrun₃) (.nil _))
  cases hthird : CardSet.validate (Sample.element "a" "Third") with
  | error violation =>
    have hvalid : (CardSet.validate (Sample.element "a" "Third")).isOk = true := by decide +kernel
    rw [hthird] at hvalid
    cases hvalid
  | ok third =>
    have helements : Sample.document.elements =
        [Sample.element "a" "First", .null, Sample.element "b" "Second"] ++
          Sample.element "a" "Third" :: [] := rfl
    obtain ⟨payload, hpayload, hfound⟩ :=
      hlast _ _ _ third helements hthird (List.forall_mem_nil _)
    cases hpayload
    exact ⟨third, rfl, hfound, hsame, hagain⟩

end CatalogImport
