import CatalogImport.Proofs.Import.Handover
import CatalogImport.Proofs.Json.Skimmed

/-!
# The list within a document

What a document is, told apart into its members, of which the keys are read and the values are left as they
are written; and what it gives under a key.  Main statements: reading a document comes to a good end exactly
if there is one, with what it gives (`stream_eq_ok_iff`), and this is what is delivered
(`delivered_items_of_document`).
-/

namespace CatalogImport

namespace Json

variable {u v w x rest bytes : List UInt8} {n : Nat} {items taken : List Value} {field : String}

/-! ## Documents -/

/-- A value that is left as it is written. -/
def Unread (w text : List UInt8) : Prop := Skimmed .value w ∧ text = w

/-- A document is an object, blanks around it left out, with these members in their order. -/
inductive Document : List UInt8 → List (String × List UInt8) → Prop
  | mk {u x v : List UInt8} {members : List (String × List UInt8)} (hu : Blanks u)
      (hx : Enclosed (Member Unread) x members) (hv : Blanks v) :
      Document (u ++ byte '\x7b' :: x ++ byte '\x7d' :: v) members

/-- The text of a list that can be within a document. -/
inductive InnerList : List UInt8 → List Value → Prop
  | mk {x : List UInt8} {items : List Value} (hx : Enclosed (Spells itemDepth) x items) :
      InnerList (byte '[' :: x ++ [byte ']']) items

/-- What members give under a key: the items of the first one that has it, whose value has to be a list. -/
def Offers (field : String) (members : List (String × List UInt8)) (found : Option (List Value)) : Prop :=
  match members.find? (·.1 = field) with
  | some m => ∃ items, InnerList m.2 items ∧ found = some items
  | none => found = none

theorem InnerList.skimmed (hw : InnerList w items) : Skimmed .value w := by
  obtain ⟨hx⟩ := hw
  exact Enclosed.skimmed (b := .list) (fun hw => ⟨[], _, .item blanks_nil, hw.skimmed, rfl⟩) hx

/-! ## One way to tell members apart -/

theorem Unread.unique {text text' w' rest' : List UInt8} (hw : Unread w text) (hw' : Unread w' text')
    (hrest : EndsNumber rest) (hrest' : EndsNumber rest') (heq : w ++ rest = w' ++ rest') :
    text = text' ∧ rest = rest' := by
  obtain ⟨hw, rfl⟩ := hw
  obtain ⟨hw', rfl⟩ := hw'
  have hskim := skimValue_of_skimmed blanks_nil hw hrest
  have hskim' := skimValue_of_skimmed blanks_nil hw' hrest'
  rw [List.nil_append] at hskim hskim'
  rw [heq, hskim'] at hskim
  cases hskim
  exact ⟨List.append_cancel_right heq, rfl⟩

theorem Unread.skipBlanks_eq {text : List UInt8} (hu : Blanks u) (hw : Unread w text) :
    skipBlanks (u ++ (w ++ rest)) = w ++ rest := by
  obtain ⟨b, more, rfl, hb, -⟩ := hw.1.starts
  exact skipBlanks_append_cons hu hb _

theorem Member.unique {m m' : String × List UInt8} {u' w' rest' : List UInt8} (hu : Blanks u)
    (hu' : Blanks u') (hm : Member Unread w m) (hm' : Member Unread w' m') (hrest : EndsNumber rest)
    (hrest' : EndsNumber rest') (heq : u ++ w ++ rest = u' ++ w' ++ rest') : m = m' ∧ rest = rest' := by
  have hskip := congrArg skipBlanks heq
  rw [hm.skipBlanks_eq hu, hm'.skipBlanks_eq hu'] at hskip
  cases hm with
  | @mk k u v w key text hk hu hv hw =>
    cases hm' with
    | @mk k' u' v' w' key' text' hk' hu' hv' hw' =>
      simp only [List.append_assoc, List.cons_append] at hskip
      obtain ⟨-, hskip⟩ := List.cons.inj hskip
      obtain ⟨hkey, hcolon⟩ := read_of_key hk hu (v ++ (w ++ rest))
      obtain ⟨hkey', hcolon'⟩ := read_of_key hk' hu' (v' ++ (w' ++ rest'))
      rw [hskip, hkey'] at hkey
      obtain ⟨rfl, hafter⟩ := Prod.mk.inj (Except.ok.inj hkey)
      rw [← hafter, hcolon'] at hcolon
      have hvalue := congrArg skipBlanks (Prod.mk.inj (Except.ok.inj hcolon)).2
      rw [hw'.skipBlanks_eq hv', hw.skipBlanks_eq hv] at hvalue
      obtain ⟨rfl, rfl⟩ := hw.unique hw' hrest hrest' hvalue.symm
      exact ⟨rfl, rfl⟩

/-- Whether members come to an end or go on is seen by the first byte behind a member. -/
theorem Listed.unique {x' rest' : List UInt8} {members members' : List (String × List UInt8)}
    (hx : Listed (Member Unread) x members) (hx' : Listed (Member Unread) x' members')
    (heq : x ++ byte '\x7d' :: rest = x' ++ byte '\x7d' :: rest') : members = members' ∧ rest = rest' := by
  have hends : ∀ {v more}, Blanks v → EndsNumber (v ++ byte '\x7d' :: more) :=
    fun hv => endsNumber_append_cons hv (by decide) _
  have hgoes : ∀ {v more}, Blanks v → EndsNumber (v ++ byte ',' :: more) :=
    fun hv => endsNumber_append_cons hv (by decide) _
  induction hx generalizing x' members' with
  | @last u w v m hu hm hv =>
    cases hx' with
    | @last u' w' v' m' hu' hm' hv' =>
      rw [List.append_assoc, List.append_assoc (u' ++ w')] at heq
      obtain ⟨rfl, hafter⟩ := hm.unique hu hu' hm' (hends hv) (hends hv') heq
      exact ⟨rfl, (blanks_append_cons_inj hv hv' (by decide) (by decide) hafter).2⟩
    | @cons u' w' v' x' m' members' hu' hm' hv' hx' =>
      rw [List.append_assoc, List.append_assoc (u' ++ w' ++ v'), List.append_assoc (u' ++ w')] at heq
      obtain ⟨rfl, hafter⟩ := hm.unique hu hu' hm' (hends hv) (hgoes hv') heq
      exact absurd (blanks_append_cons_inj hv hv' (by decide) (by decide) hafter).1 (by decide)
  | @cons u w v x m members hu hm hv hx ih =>
    cases hx' with
    | @last u' w' v' m' hu' hm' hv' =>
      rw [List.append_assoc (u ++ w ++ v), List.append_assoc (u ++ w), List.append_assoc (u' ++ w')] at heq
      obtain ⟨rfl, hafter⟩ := hm.unique hu hu' hm' (hgoes hv) (hends hv') heq
      exact absurd (blanks_append_cons_inj hv hv' (by decide) (by decide) hafter).1 (by decide)
    | @cons u' w' v' x' m' members' hu' hm' hv' hx' =>
      rw [List.append_assoc (u ++ w ++ v), List.append_assoc (u ++ w), List.append_assoc (u' ++ w' ++ v'),
        List.append_assoc (u' ++ w')] at heq
      obtain ⟨rfl, hafter⟩ := hm.unique hu hu' hm' (hgoes hv) (hgoes hv') heq
      obtain ⟨rfl, rfl⟩ := ih hx' (blanks_append_cons_inj hv hv' (by decide) (by decide) hafter).2
      exact ⟨rfl, rfl⟩

/-- A document is told apart into members in one way only. -/
theorem Document.unique {members members' : List (String × List UInt8)} (h : Document bytes members)
    (h' : Document bytes members') : members = members' := by
  obtain @⟨u, x, v, _, hu, hx, hv⟩ := h
  generalize hbytes : u ++ byte '\x7b' :: x ++ byte '\x7d' :: v = bytes at h'
  obtain @⟨u', x', v', _, hu', hx', hv'⟩ := h'
  rw [List.append_assoc, List.append_assoc u'] at hbytes
  have hinner := (blanks_append_cons_inj hu hu' (by decide) (by decide) hbytes).2
  have hquote : ∀ {x y v v' members}, Blanks y → Listed (Member Unread) x members →
      x ++ byte '\x7d' :: v ≠ y ++ byte '\x7d' :: v' := by
    intro x y v v' members hy hx heq
    obtain ⟨more, hmore⟩ := hx.exists_quote (byte '\x7d' :: v)
    rw [heq, skipBlanks_append_cons hy (by decide)] at hmore
    exact absurd (List.cons.inj hmore).1 (by decide)
  cases hx with
  | none hx =>
    cases hx' with
    | none hx' => rfl
    | some hx' => exact absurd hinner.symm (hquote hx hx')
  | some hx =>
    cases hx' with
    | none hx' => exact absurd hinner (hquote hx' hx)
    | some hx' => exact (hx.unique hx' hinner).1

/-! ## The list -/

/-- Items that are handed on one by one are those of a list that is read as a whole. -/
theorem streamItems_eq_ok_iff :
    streamItems taken n bytes = (items, .ok rest) ↔
      readItems (readValue true itemDepth) taken n bytes = .ok (items, rest) := by
  induction n generalizing taken bytes with
  | zero => simp [streamItems, readItems]
  | succ n ih =>
    rw [streamItems, readItems]
    cases readValue true itemDepth bytes with
    | error fault => simp [bind, Except.bind]
    | ok found =>
      obtain ⟨value, rest₁⟩ := found
      dsimp only [bind, Except.bind]
      cases nextItem rest₁ with
      | error fault => simp
      | ok more =>
        cases more with
        | closed rest₂ => simp [pure, Except.pure]
        | item rest₂ => exact ih

theorem streamList_eq_ok_iff :
    streamList bytes = (items, .ok rest) ↔
      ∃ more, skipBlanks bytes = byte '[' :: more ∧
        readList (readValue true itemDepth) more = .ok (items, rest) := by
  unfold streamList
  cases skipBlanks bytes with
  | nil => simp
  | cons b more =>
    dsimp only
    by_cases hb : b = byte '['
    · subst hb
      simp only [if_true, List.cons.injEq, true_and, exists_eq_left']
      unfold readList
      cases firstItem more with
      | error fault => simp [bind, Except.bind]
      | ok first =>
        cases first with
        | closed rest₁ => simp [bind, Except.bind, pure, Except.pure]
        | item rest₁ => exact streamItems_eq_ok_iff
    · simp [hb]

/-- A list is handed on to its end exactly where one is written. -/
theorem streamList_eq_ok_iff_innerList :
    streamList bytes = (items, .ok rest) ↔ ∃ u w, Blanks u ∧ InnerList w items ∧ bytes = u ++ w ++ rest := by
  rw [streamList_eq_ok_iff]
  simp only [skipBlanks_eq_cons_iff, readList_eq_ok_iff (reads_readValue true itemDepth)]
  constructor
  · rintro ⟨more, ⟨-, u, hu, rfl⟩, x, hx, rfl⟩
    refine ⟨u, _, hu, .mk hx, ?_⟩
    simp only [List.append_assoc, List.cons_append, List.nil_append]
  · rintro ⟨u, w, hu, ⟨hx⟩, rfl⟩
    refine ⟨_, ⟨by decide, u, hu, ?_⟩, _, hx, rfl⟩
    simp only [List.append_assoc, List.cons_append, List.nil_append]

/-! ## Members -/

variable {found found₁ found' : Option (List Value)} {key : String} {text : List UInt8}
  {members : List (String × List UInt8)}

/-- Takes the value of a member: hands its items on, or skims over it. -/
def takeEntry (field key : String) (found : Option (List Value)) (bytes : List UInt8) :
    Option (List Value) × Except Fault (List UInt8) :=
  if key = field ∧ found = none then (some (streamList bytes).1, (streamList bytes).2)
  else (found, skimValue bytes)

/-- What has been found when the value of one more member has been taken. -/
def Adds (field key : String) (found : Option (List Value)) (text : List UInt8)
    (found₁ : Option (List Value)) : Prop :=
  if key = field ∧ found = none then ∃ items, InnerList text items ∧ found₁ = some items else found₁ = found

theorem exists_text_of_takeEntry (h : takeEntry field key found bytes = (found₁, .ok rest)) :
    ∃ u text, Blanks u ∧ Skimmed .value text ∧ Adds field key found text found₁ ∧
      bytes = u ++ text ++ rest := by
  unfold takeEntry at h
  by_cases hlist : key = field ∧ found = none
  · rw [if_pos hlist] at h
    obtain ⟨rfl, hrest⟩ := Prod.mk.inj h
    obtain ⟨u, text, hu, htext, rfl⟩ := streamList_eq_ok_iff_innerList.1 (Prod.ext rfl hrest)
    refine ⟨u, text, hu, htext.skimmed, ?_, rfl⟩
    rw [Adds, if_pos hlist]
    exact ⟨_, htext, rfl⟩
  · rw [if_neg hlist] at h
    obtain ⟨rfl, hrest⟩ := Prod.mk.inj h
    obtain ⟨u, text, hu, htext, rfl⟩ := exists_skimmed_of_skimValue hrest
    refine ⟨u, text, hu, htext, ?_, rfl⟩
    rw [Adds, if_neg hlist]

theorem takeEntry_of_adds (hu : Blanks u) (htext : Skimmed .value text)
    (hadds : Adds field key found text found₁) (hrest : EndsNumber rest) :
    takeEntry field key found (u ++ text ++ rest) = (found₁, .ok rest) := by
  unfold takeEntry
  unfold Adds at hadds
  by_cases hlist : key = field ∧ found = none
  · rw [if_pos hlist] at hadds ⊢
    obtain ⟨items, hitems, rfl⟩ := hadds
    rw [streamList_eq_ok_iff_innerList.2 ⟨u, text, hu, hitems, rfl⟩]
  · rw [if_neg hlist] at hadds ⊢
    rw [hadds, skimValue_of_skimmed hu htext hrest]

theorem streamMembers_succ :
    streamMembers field found (n + 1) bytes =
      match readString bytes with
      | .error fault => (found, .error fault)
      | .ok (key, rest) =>
        match readColon rest with
        | .error fault => (found, .error fault)
        | .ok ((), rest) =>
          match takeEntry field key found rest with
          | (found, .error fault) => (found, .error fault)
          | (found, .ok rest) =>
            match nextMember rest with
            | .error fault => (found, .error fault)
            | .ok (.closed rest) => (found, .ok rest)
            | .ok (.item rest) => streamMembers field found n rest := by
  rw [streamMembers]
  unfold takeEntry
  cases readString bytes with
  | error fault => rfl
  | ok key =>
    obtain ⟨key, rest₁⟩ := key
    dsimp only
    cases readColon rest₁ with
    | error fault => rfl
    | ok colon =>
      obtain ⟨⟨⟩, rest₂⟩ := colon
      dsimp only
      by_cases hlist : key = field ∧ found = none
      · simp only [if_pos hlist]
        cases (streamList rest₂).2 <;> rfl
      · simp only [if_neg hlist]
        cases skimValue rest₂ <;> rfl

/-- What members give when something has been found before them already, or nothing. -/
def OffersAfter (field : String) (found : Option (List Value)) (members : List (String × List UInt8))
    (found' : Option (List Value)) : Prop :=
  if found = none then Offers field members found' else found' = found

theorem offersAfter_nil : OffersAfter field found [] found' ↔ found' = found := by
  unfold OffersAfter
  split
  · next h => rw [h]; rfl
  · rfl

theorem offersAfter_some (items : List Value) :
    OffersAfter field (some items) members found' ↔ found' = some items := by
  rw [OffersAfter, if_neg (Option.some_ne_none items)]

theorem offersAfter_cons :
    OffersAfter field found ((key, text) :: members) found' ↔
      ∃ found₁, Adds field key found text found₁ ∧ OffersAfter field found₁ members found' := by
  cases found with
  | some items => simp [Adds, offersAfter_some]
  | none =>
    by_cases hkey : key = field
    · simp only [OffersAfter, Offers, Adds, hkey, List.find?_cons, decide_true, and_self, if_true]
      constructor
      · rintro ⟨items, hitems, rfl⟩
        exact ⟨some items, ⟨items, hitems, rfl⟩, (offersAfter_some items).2 rfl⟩
      · rintro ⟨found₁, ⟨items, hitems, rfl⟩, hoffers⟩
        exact ⟨items, hitems, (offersAfter_some items).1 hoffers⟩
    · simp [OffersAfter, Offers, Adds, hkey]

theorem exists_listed_of_streamMembers (h : streamMembers field found n bytes = (found', .ok rest)) :
    ∃ x members, Listed (Member Unread) x members ∧ byte '"' :: bytes = x ++ byte '\x7d' :: rest ∧
      OffersAfter field found members found' := by
  induction n generalizing found bytes with
  | zero => simp [streamMembers] at h
  | succ n ih =>
    rw [streamMembers_succ] at h
    split at h
    · cases h
    · next key rest₁ hkey =>
      split at h
      · cases h
      · next rest₂ hcolon =>
        split at h
        · cases h
        · next found₁ rest₃ hentry =>
          obtain ⟨k, u, hk, hu, rfl⟩ := exists_key_of_read hkey hcolon
          obtain ⟨v, text, hv, htext, hadds, rfl⟩ := exists_text_of_takeEntry hentry
          have hm : Member Unread _ (key, text) := .mk hk hu hv ⟨htext, rfl⟩
          split at h
          · cases h
          · next rest₄ hmore =>
            cases h
            obtain ⟨-, t, ht, rfl⟩ := skipBlanks_eq_cons_iff.1 (nextMember_eq_closed_iff.1 hmore)
            refine ⟨_, [(key, text)], .last blanks_nil hm ht, ?_, ?_⟩
            · simp only [List.append_assoc, List.cons_append, List.nil_append]
            · exact offersAfter_cons.2 ⟨found', hadds, offersAfter_nil.2 rfl⟩
          · next rest₄ hmore =>
            obtain ⟨y, hcomma, hy⟩ := nextMember_eq_item_iff.1 hmore
            obtain ⟨-, t, ht, rfl⟩ := skipBlanks_eq_cons_iff.1 hcomma
            obtain ⟨x, members, hx, hrest₄, hoffers⟩ := ih h
            obtain ⟨-, t', ht', rfl⟩ := skipBlanks_eq_cons_iff.1 hy
            refine ⟨_, (key, text) :: members, .cons blanks_nil hm ht (hx.blanks_append ht'), ?_, ?_⟩
            · rw [hrest₄]
              simp only [List.append_assoc, List.cons_append, List.nil_append]
            · exact offersAfter_cons.2 ⟨found₁, hadds, hoffers⟩

/-- How a member is taken depends on what follows it only in whether there is another one. -/
theorem streamMembers_of_member (hm : Member Unread w (key, text)) (hadds : Adds field key found text found₁)
    (hrest : EndsNumber rest) :
    ∃ w', w = byte '"' :: w' ∧ streamMembers field found (n + 1) (w' ++ rest) =
      match nextMember rest with
      | .error fault => (found₁, .error fault)
      | .ok (.closed rest) => (found₁, .ok rest)
      | .ok (.item rest) => streamMembers field found₁ n rest := by
  cases hm with
  | @mk k u v w key text hk hu hv hw =>
    obtain ⟨htext, rfl⟩ := hw
    obtain ⟨hkey, hcolon⟩ := read_of_key hk hu (v ++ text ++ rest)
    refine ⟨k ++ byte '"' :: u ++ byte ':' :: v ++ text, by simp only [List.cons_append], ?_⟩
    have happend : k ++ byte '"' :: u ++ byte ':' :: v ++ text ++ rest =
        k ++ byte '"' :: (u ++ byte ':' :: (v ++ text ++ rest)) := by
      simp only [List.append_assoc, List.cons_append]
    rw [happend, streamMembers_succ, hkey]
    dsimp only
    rw [hcolon]
    dsimp only
    rw [takeEntry_of_adds hv htext hadds hrest]

theorem streamMembers_of_listed (hx : Listed (Member Unread) x members)
    (hoffers : OffersAfter field found members found') (hn : members.length ≤ n)
    (hbytes : skipBlanks (x ++ byte '\x7d' :: rest) = byte '"' :: bytes) :
    streamMembers field found n bytes = (found', .ok rest) := by
  induction hx generalizing n found bytes with
  | @last u w v m hu hw hv =>
    obtain ⟨found₁, hadds, hoffers⟩ := offersAfter_cons.1 hoffers
    obtain rfl := offersAfter_nil.1 hoffers
    obtain _ | n := n
    · cases hn
    · obtain ⟨w, rfl, hm⟩ := streamMembers_of_member (n := n) hw hadds
        (endsNumber_append_cons hv (b := byte '\x7d') (by decide) rest)
      have hmore := nextMember_eq_closed_iff.2 (skipBlanks_append_cons hv (by decide) rest)
      rw [List.append_assoc, hw.skipBlanks_eq hu, List.cons_append] at hbytes
      obtain ⟨-, rfl⟩ := List.cons.inj hbytes
      rw [hm, hmore]
  | @cons u w v x m members hu hw hv hx ih =>
    obtain ⟨found₁, hadds, hoffers⟩ := offersAfter_cons.1 hoffers
    obtain _ | n := n
    · cases hn
    · obtain ⟨w, rfl, hm⟩ := streamMembers_of_member (n := n) hw hadds
        (endsNumber_append_cons hv (b := byte ',') (by decide) (x ++ byte '\x7d' :: rest))
      have hcomma := skipBlanks_append_cons hv (b := byte ',') (by decide) (x ++ byte '\x7d' :: rest)
      obtain ⟨y, hquote⟩ := hx.exists_quote (byte '\x7d' :: rest)
      have hmore := nextMember_eq_item_iff.2 ⟨_, hcomma, hquote⟩
      rw [List.append_assoc, List.append_assoc, hw.skipBlanks_eq hu, List.cons_append] at hbytes
      obtain ⟨-, rfl⟩ := List.cons.inj hbytes
      rw [List.cons_append, hm, hmore]
      exact ih hoffers (Nat.le_of_succ_le_succ hn) hquote

/-! ## The document -/

theorem streamDocument_eq_ok_iff :
    streamDocument field bytes = (found, .ok rest) ↔
      ∃ u x members, Blanks u ∧ Enclosed (Member Unread) x members ∧ Offers field members found ∧
        bytes = u ++ byte '\x7b' :: x ++ byte '\x7d' :: rest := by
  unfold streamDocument
  constructor
  · intro h
    split at h
    · cases h
    · next b more hs =>
      obtain ⟨-, u, hu, rfl⟩ := skipBlanks_eq_cons_iff.1 hs
      split at h
      · next hb =>
        subst hb
        split at h
        · cases h
        · next rest₁ hfirst =>
          cases h
          obtain ⟨-, x, hx, rfl⟩ := skipBlanks_eq_cons_iff.1 (firstMember_eq_closed_iff.1 hfirst)
          refine ⟨u, x, [], hu, .none hx, rfl, ?_⟩
          simp only [List.append_assoc, List.cons_append]
        · next rest₁ hfirst =>
          obtain ⟨-, v, hv, rfl⟩ := skipBlanks_eq_cons_iff.1 (firstMember_eq_item_iff.1 hfirst)
          obtain ⟨x, members, hx, hrest₁, hoffers⟩ := exists_listed_of_streamMembers h
          refine ⟨u, v ++ x, members, hu, .some (hx.blanks_append hv), hoffers, ?_⟩
          rw [hrest₁]
          simp only [List.append_assoc, List.cons_append]
      · cases h
  · rintro ⟨u, x, members, hu, hx, hoffers, rfl⟩
    rw [List.append_assoc, List.cons_append, skipBlanks_append_cons hu (by decide)]
    dsimp only
    rw [if_pos rfl]
    cases hx with
    | none hx =>
      rw [firstMember_eq_closed_iff.2 (skipBlanks_append_cons hx (by decide) rest), hoffers]
    | some hx =>
      obtain ⟨y, hquote⟩ := hx.exists_quote (byte '\x7d' :: rest)
      have hlength : members.length ≤ (x ++ byte '\x7d' :: rest).length := by
        rw [List.length_append]
        exact Nat.le_add_right_of_le (hx.length_le Member.ne_nil)
      rw [firstMember_eq_item_iff.2 hquote]
      exact streamMembers_of_listed hx hoffers hlength hquote

theorem readEnd_eq_ok_iff : readEnd bytes = .ok () ↔ Blanks bytes := by
  rw [← skipBlanks_eq_nil_iff]
  unfold readEnd
  cases skipBlanks bytes with
  | nil => simp
  | cons b rest => simp

/-- A document is read to a good end exactly if it is one, and if what it gives under the key is a list. -/
theorem stream_eq_ok_iff {summary : ReadSummary} :
    stream field bytes = ⟨items, .ok summary⟩ ↔
      ∃ members found, Document bytes members ∧ Offers field members found ∧ items = found.getD [] ∧
        summary = ⟨found.isSome, items.length⟩ := by
  constructor
  · intro h
    obtain ⟨rfl, hending⟩ := Streamed.mk.inj h
    obtain ⟨rest, hrest, hending⟩ := exists_of_bind_eq_ok hending
    obtain ⟨⟨⟩, hend, hending⟩ := exists_of_bind_eq_ok hending
    obtain ⟨u, x, members, hu, hx, hoffers, rfl⟩ := streamDocument_eq_ok_iff.1 (Prod.ext rfl hrest)
    exact ⟨members, _, .mk hu hx (readEnd_eq_ok_iff.1 hend), hoffers, rfl, (Except.ok.inj hending).symm⟩
  · rintro ⟨members, found, @⟨u, x, v, _, hu, hx, hv⟩, hoffers, rfl, rfl⟩
    have hdocument : streamDocument field (u ++ byte '\x7b' :: x ++ byte '\x7d' :: v) = (found, .ok v) :=
      streamDocument_eq_ok_iff.2 ⟨u, x, members, hu, hx, hoffers, rfl⟩
    have hend := readEnd_eq_ok_iff.2 hv
    simp only [stream, hdocument, hend, bind, Except.bind]
    rfl

/-- A key may be written with escapes, members within other members do not count, and neither does a later
one with the key. -/
example :
    stream "data" (bytesOf
      "\x7b\"meta\": \x7b\"data\": [1]\x7d, \"d\\u0061ta\": [null, true], \"data\": 7\x7d") =
      ⟨[.null, .bool true], .ok ⟨true, 2⟩⟩ := by cbv

end Json

open CatalogImport.Json

/-- Whatever lies in the file and whatever room there is for elements that wait: reading comes to a good end
exactly if the file holds a document whose first member with the key, if it has one, is a list.  What is
delivered then are the items of that list in their order, counted from 0 on, and no other; if there is no such
member, nothing is.  At the end it is told whether the member was there and how many items were delivered. -/
theorem delivered_items_of_document (field path : String) (bytes : List UInt8) (capacity : Nat)
    (items : List (Value × Nat)) (summary : ReadSummary) :
    (∃ r, openSource field path (.file bytes) = .ok r ∧ r.Delivers (max capacity 1) items (.ok summary)) ↔
      ∃ members, Document bytes members ∧
        ((∃ m values, members.find? (·.1 = field) = some m ∧ InnerList m.2 values ∧
            items = values.zipIdx ∧ summary = ⟨true, values.length⟩) ∨
          members.find? (·.1 = field) = none ∧ items = [] ∧ summary = ⟨false, 0⟩) := by
  have hroom : 0 < max capacity 1 := Nat.lt_of_lt_of_le Nat.one_pos (Nat.le_max_right capacity 1)
  have hstream : (∃ r, openSource field path (.file bytes) = .ok r ∧
      r.Delivers (max capacity 1) items (.ok summary)) ↔
      ∃ values, stream field bytes = ⟨values, .ok summary⟩ ∧ items = values.zipIdx := by
    constructor
    · rintro ⟨r, hopen, hdelivers⟩
      cases hopen
      obtain ⟨rfl, hending⟩ := (Reading.delivers_iff hroom).1 hdelivers
      refine ⟨(stream field bytes).items, ?_, rfl⟩
      cases hread : (stream field bytes).ending with
      | error fault =>
        rw [hread] at hending
        cases hending
      | ok found =>
        rw [hread] at hending
        cases hending
        rw [← hread]
    · rintro ⟨values, hread, rfl⟩
      refine ⟨_, rfl, (Reading.delivers_iff hroom).2 ?_⟩
      rw [hread]
      exact ⟨rfl, rfl⟩
  rw [hstream]
  constructor
  · rintro ⟨values, hread, rfl⟩
    obtain ⟨members, found, hdocument, hoffers, rfl, rfl⟩ := stream_eq_ok_iff.1 hread
    refine ⟨members, hdocument, ?_⟩
    unfold Offers at hoffers
    split at hoffers
    · next m hm =>
      obtain ⟨values, hvalues, rfl⟩ := hoffers
      exact .inl ⟨m, values, hm, hvalues, rfl, rfl⟩
    · next hnone =>
      rw [hoffers]
      exact .inr ⟨hnone, rfl, rfl⟩
  · rintro ⟨members, hdocument, ⟨m, values, hm, hvalues, rfl, rfl⟩ | ⟨hnone, rfl, rfl⟩⟩
    · refine ⟨values, stream_eq_ok_iff.2 ⟨members, some values, hdocument, ?_, rfl, rfl⟩, rfl⟩
      rw [Offers, hm]
      exact ⟨values, hvalues, rfl⟩
    · refine ⟨[], stream_eq_ok_iff.2 ⟨members, none, hdocument, ?_, rfl, rfl⟩, rfl⟩
      rw [Offers, hnone]

end CatalogImport
