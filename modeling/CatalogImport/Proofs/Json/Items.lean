import CatalogImport.Json.Reader
import CatalogImport.Proofs.Json.Strings

/-!
# What stands between brackets

Items of a list and members of an object, said once for items of any kind (`Listed`, `Enclosed`, `Member`),
and what it takes of a reader of such items (`Reads`).  Main statements: a list and an object are read exactly
where one is written, whatever follows (`readList_eq_ok_iff`, `readObject_eq_ok_iff`).
-/

namespace CatalogImport.Json

variable {α : Type} {grammar : List UInt8 → α → Prop} {b : UInt8} {u v w x rest bytes : List UInt8}

/-! ## Texts of items -/

/-- Items, at least one, with a comma between any two of them; blanks may stand around each. -/
inductive Listed (grammar : List UInt8 → α → Prop) : List UInt8 → List α → Prop
  | last {u w v : List UInt8} {a : α} (hu : Blanks u) (hw : grammar w a) (hv : Blanks v) :
      Listed grammar (u ++ w ++ v) [a]
  | cons {u w v x : List UInt8} {a : α} {as : List α} (hu : Blanks u) (hw : grammar w a) (hv : Blanks v)
      (hx : Listed grammar x as) : Listed grammar (u ++ w ++ v ++ byte ',' :: x) (a :: as)

/-- What stands between two brackets: blanks, or items. -/
inductive Enclosed (grammar : List UInt8 → α → Prop) : List UInt8 → List α → Prop
  | none {u : List UInt8} (hu : Blanks u) : Enclosed grammar u []
  | some {x : List UInt8} {as : List α} (hx : Listed grammar x as) : Enclosed grammar x as

/-- A member of an object: a key, a colon and what belongs to the key; blanks may stand around the colon. -/
inductive Member (grammar : List UInt8 → α → Prop) : List UInt8 → String × α → Prop
  | mk {k u v w : List UInt8} {key : String} {a : α} (hk : SpellsChars k key.toList) (hu : Blanks u)
      (hv : Blanks v) (hw : grammar w a) :
      Member grammar (byte '"' :: k ++ byte '"' :: u ++ byte ':' :: v ++ w) (key, a)

theorem Listed.blanks_append {as : List α} (hu : Blanks u) (hx : Listed grammar x as) :
    Listed grammar (u ++ x) as := by
  cases hx with
  | last hu' hw hv =>
    rw [← List.append_assoc, ← List.append_assoc]
    exact .last (hu.append hu') hw hv
  | cons hu' hw hv hx =>
    rw [← List.append_assoc, ← List.append_assoc, ← List.append_assoc]
    exact .cons (hu.append hu') hw hv hx

theorem Listed.length_le {as : List α} (hne : ∀ {w a}, grammar w a → w ≠ []) (hx : Listed grammar x as) :
    as.length ≤ x.length := by
  induction hx with
  | last hu hw hv =>
    have hpos := List.length_pos_iff.2 (hne hw)
    simp only [List.length_append, List.length_singleton]
    omega
  | cons hu hw hv hx ih =>
    simp only [List.length_append, List.length_cons]
    omega

/-! ## What follows a value -/

theorem endsNumber_cons (hb : continuesNumber b = false) (rest : List UInt8) : EndsNumber (b :: rest) := by
  intro b' hb'
  obtain rfl := Option.some.inj hb'
  exact hb

theorem continuesNumber_eq_false_of_isBlankByte (hb : isBlankByte b = true) : continuesNumber b = false := by
  simp only [isBlankByte, Bool.or_eq_true, beq_iff_eq] at hb
  rcases hb with ((rfl | rfl) | rfl) | rfl <;> decide

theorem endsNumber_append (hv : Blanks v) (hrest : EndsNumber rest) : EndsNumber (v ++ rest) := by
  cases v with
  | nil => exact hrest
  | cons b v => exact endsNumber_cons (continuesNumber_eq_false_of_isBlankByte (hv b List.mem_cons_self)) _

theorem endsNumber_append_cons (hv : Blanks v) (hb : continuesNumber b = false) (rest : List UInt8) :
    EndsNumber (v ++ b :: rest) := endsNumber_append hv (endsNumber_cons hb rest)

/-! ## Brackets, commas and colons -/

theorem firstItem_eq_closed_iff :
    firstItem bytes = .ok (.closed rest) ↔ skipBlanks bytes = byte ']' :: rest := by
  unfold firstItem
  constructor
  · intro h
    split at h
    · cases h
    · next b more hs =>
      split at h
      · next hb =>
        cases h
        rw [hs, hb]
      · cases h
  · intro hs
    rw [hs]
    rfl

theorem firstItem_eq_item_iff :
    firstItem bytes = .ok (.item rest) ↔
      skipBlanks bytes = rest ∧ ∃ b more, rest = b :: more ∧ b ≠ byte ']' := by
  unfold firstItem
  constructor
  · intro h
    split at h
    · cases h
    · next b more hs =>
      split at h
      · cases h
      · next hb =>
        cases h
        exact ⟨hs, b, more, rfl, hb⟩
  · rintro ⟨hs, b, more, rfl, hb⟩
    rw [hs]
    exact congrArg Except.ok (if_neg hb)

theorem nextItem_eq_closed_iff :
    nextItem bytes = .ok (.closed rest) ↔ skipBlanks bytes = byte ']' :: rest := by
  unfold nextItem
  constructor
  · intro h
    split at h
    · cases h
    · next b more hs =>
      split at h
      · next hb =>
        cases h
        rw [hs, hb]
      · split at h
        · split at h
          · cases h
          · split at h <;> cases h
        · cases h
  · intro hs
    rw [hs]
    rfl

theorem nextItem_eq_item_iff :
    nextItem bytes = .ok (.item rest) ↔
      ∃ y, skipBlanks bytes = byte ',' :: y ∧ skipBlanks y = rest ∧
        ∃ b more, rest = b :: more ∧ b ≠ byte ']' := by
  unfold nextItem
  constructor
  · intro h
    split at h
    · cases h
    · next b y hs =>
      split at h
      · cases h
      · split at h
        · next hb =>
          subst hb
          split at h
          · cases h
          · next c more hy =>
            split at h
            · cases h
            · next hc =>
              cases h
              exact ⟨y, hs, hy, c, more, rfl, hc⟩
        · cases h
  · rintro ⟨y, hs, hy, c, more, rfl, hc⟩
    rw [hs]
    dsimp only
    rw [if_neg (by decide), if_pos rfl, hy]
    exact if_neg hc

theorem firstMember_eq_closed_iff :
    firstMember bytes = .ok (.closed rest) ↔ skipBlanks bytes = byte '\x7d' :: rest := by
  unfold firstMember
  constructor
  · intro h
    split at h
    · cases h
    · next b more hs =>
      split at h
      · next hb =>
        cases h
        rw [hs, hb]
      · split at h <;> cases h
  · intro hs
    rw [hs]
    rfl

theorem firstMember_eq_item_iff :
    firstMember bytes = .ok (.item rest) ↔ skipBlanks bytes = byte '"' :: rest := by
  unfold firstMember
  constructor
  · intro h
    split at h
    · cases h
    · next b more hs =>
      split at h
      · cases h
      · split at h
        · next hb =>
          cases h
          rw [hs, hb]
        · cases h
  · intro hs
    rw [hs]
    rfl

theorem nextMember_eq_closed_iff :
    nextMember bytes = .ok (.closed rest) ↔ skipBlanks bytes = byte '\x7d' :: rest := by
  unfold nextMember
  constructor
  · intro h
    split at h
    · cases h
    · next b more hs =>
      split at h
      · next hb =>
        cases h
        rw [hs, hb]
      · split at h
        · split at h
          · cases h
          · split at h
            · cases h
            · split at h <;> cases h
        · cases h
  · intro hs
    rw [hs]
    rfl

theorem nextMember_eq_item_iff :
    nextMember bytes = .ok (.item rest) ↔
      ∃ y, skipBlanks bytes = byte ',' :: y ∧ skipBlanks y = byte '"' :: rest := by
  unfold nextMember
  constructor
  · intro h
    split at h
    · cases h
    · next b y hs =>
      split at h
      · cases h
      · split at h
        · next hb =>
          subst hb
          split at h
          · cases h
          · next c more hy =>
            split at h
            · next hc =>
              cases h
              exact ⟨y, hs, by rw [hy, hc]⟩
            · split at h <;> cases h
        · cases h
  · rintro ⟨y, hs, hy⟩
    rw [hs]
    dsimp only
    rw [if_neg (by decide), if_pos rfl, hy]
    rfl

theorem readColon_eq_ok_iff :
    readColon bytes = .ok ((), rest) ↔ skipBlanks bytes = byte ':' :: rest := by
  unfold readColon
  constructor
  · intro h
    split at h
    · cases h
    · next b more hs =>
      split at h
      · next hb =>
        cases h
        rw [hs, hb]
      · cases h
  · intro hs
    rw [hs]
    rfl

/-! ## Readers of items -/

/-- A reader that takes what a grammar describes, blanks in front included, wherever it stands: no blank and
no bracket that closes is the first byte of it, and only a number might go on behind it. -/
structure Reads (read : Reader α) (grammar : List UInt8 → α → Prop) : Prop where
  starts : ∀ {w a}, grammar w a → ∃ b more, w = b :: more ∧ isBlankByte b = false ∧ b ≠ byte ']'
  skips : ∀ bytes, read (skipBlanks bytes) = read bytes
  sound : ∀ {bytes a rest}, read bytes = .ok (a, rest) → ∃ u w, Blanks u ∧ grammar w a ∧ bytes = u ++ w ++ rest
  complete : ∀ {w a rest}, grammar w a → EndsNumber rest → read (w ++ rest) = .ok (a, rest)

variable {item : Reader α} {taken items : List α} {n : Nat}

theorem Reads.skipBlanks_eq (hread : Reads item grammar) {a : α} (hu : Blanks u) (hw : grammar w a) :
    skipBlanks (u ++ w ++ rest) = w ++ rest := by
  obtain ⟨b, more, rfl, hb, -⟩ := hread.starts hw
  exact skipBlanks_eq_cons_iff.2 ⟨hb, u, hu, by rw [List.append_assoc]; rfl⟩

theorem Reads.ne_nil (hread : Reads item grammar) {a : α} (hw : grammar w a) : w ≠ [] := by
  obtain ⟨b, more, rfl, -, -⟩ := hread.starts hw
  exact List.cons_ne_nil b more

theorem readItems_of_closed {a : α} {rest₁ : List UInt8} (ha : item bytes = .ok (a, rest₁))
    (hmore : nextItem rest₁ = .ok (.closed rest)) :
    readItems item taken (n + 1) bytes = .ok ((a :: taken).reverse, rest) := by
  simp only [readItems, ha, hmore, bind, Except.bind]
  rfl

theorem readItems_of_item {a : α} {rest₁ : List UInt8} (ha : item bytes = .ok (a, rest₁))
    (hmore : nextItem rest₁ = .ok (.item rest)) :
    readItems item taken (n + 1) bytes = readItems item (a :: taken) n rest := by
  simp only [readItems, ha, hmore, bind, Except.bind]

theorem exists_listed_of_readItems (hread : Reads item grammar)
    (h : readItems item taken n bytes = .ok (items, rest)) :
    ∃ x as, Listed grammar x as ∧ bytes = x ++ byte ']' :: rest ∧ items = taken.reverse ++ as := by
  induction n generalizing taken bytes with
  | zero => cases h
  | succ n ih =>
    obtain ⟨⟨a, rest₁⟩, ha, htail⟩ := exists_of_bind_eq_ok h
    obtain ⟨more, hmore, hend⟩ := exists_of_bind_eq_ok htail
    obtain ⟨u, w, hu, hw, rfl⟩ := hread.sound ha
    cases more with
    | closed rest₂ =>
      cases hend
      obtain ⟨-, v, hv, rfl⟩ := skipBlanks_eq_cons_iff.1 (nextItem_eq_closed_iff.1 hmore)
      exact ⟨u ++ w ++ v, [a], .last hu hw hv, by simp only [List.append_assoc], List.reverse_cons⟩
    | item rest₂ =>
      obtain ⟨y, hcomma, hy, -⟩ := nextItem_eq_item_iff.1 hmore
      obtain ⟨-, v, hv, rfl⟩ := skipBlanks_eq_cons_iff.1 hcomma
      obtain ⟨x, as, hx, hrest₂, rfl⟩ := ih hend
      obtain ⟨u', hu', hblanks⟩ := exists_blanks y
      rw [hy, hrest₂] at hblanks
      refine ⟨u ++ w ++ v ++ byte ',' :: (u' ++ x), a :: as, .cons hu hw hv (hx.blanks_append hu'), ?_, ?_⟩
      · rw [hblanks]
        simp only [List.append_assoc, List.cons_append]
      · rw [List.reverse_cons, List.append_assoc, List.singleton_append]

/-- Neither a bracket that closes nor a blank is the first of what is listed, blanks left out. -/
theorem Listed.exists_skipBlanks (hread : Reads item grammar) {as : List α} (hx : Listed grammar x as)
    (rest : List UInt8) : ∃ b more, skipBlanks (x ++ rest) = b :: more ∧ b ≠ byte ']' := by
  cases hx with
  | last hu hw hv =>
    obtain ⟨b, more, hcons, -, hb⟩ := hread.starts hw
    rw [List.append_assoc, hread.skipBlanks_eq hu hw, hcons]
    exact ⟨b, _, rfl, hb⟩
  | cons hu hw hv hx =>
    obtain ⟨b, more, hcons, -, hb⟩ := hread.starts hw
    rw [List.append_assoc, List.append_assoc, hread.skipBlanks_eq hu hw, hcons]
    exact ⟨b, _, rfl, hb⟩

theorem readItems_of_listed (hread : Reads item grammar) {as : List α} (hx : Listed grammar x as)
    (hn : as.length ≤ n) (taken : List α) :
    readItems item taken n (skipBlanks (x ++ byte ']' :: rest)) = .ok (taken.reverse ++ as, rest) := by
  induction hx generalizing n taken with
  | @last u w v a hu hw hv =>
    obtain _ | n := n
    · cases hn
    · have ha := hread.complete hw (endsNumber_append_cons hv (b := byte ']') (by decide) rest)
      have hmore := nextItem_eq_closed_iff.2 (skipBlanks_append_cons hv (by decide) rest)
      rw [List.append_assoc, hread.skipBlanks_eq hu hw, readItems_of_closed ha hmore, List.reverse_cons]
  | @cons u w v x a as hu hw hv hx ih =>
    obtain _ | n := n
    · cases hn
    · have ha := hread.complete hw (endsNumber_append_cons hv (b := byte ',') (by decide) (x ++ byte ']' :: rest))
      have hcomma := skipBlanks_append_cons hv (b := byte ',') (by decide) (x ++ byte ']' :: rest)
      have hmore := nextItem_eq_item_iff.2 ⟨_, hcomma, rfl, hx.exists_skipBlanks hread _⟩
      rw [List.append_assoc, List.append_assoc, hread.skipBlanks_eq hu hw, List.cons_append,
        readItems_of_item ha hmore, ih (Nat.le_of_succ_le_succ hn), List.reverse_cons, List.append_assoc,
        List.singleton_append]

/-- A list is read exactly where one is written. -/
theorem readList_eq_ok_iff (hread : Reads item grammar) :
    readList item bytes = .ok (items, rest) ↔ ∃ x, Enclosed grammar x items ∧ bytes = x ++ byte ']' :: rest := by
  constructor
  · intro h
    obtain ⟨more, hmore, h⟩ := exists_of_bind_eq_ok h
    cases more with
    | closed rest₁ =>
      cases h
      obtain ⟨-, u, hu, hbytes⟩ := skipBlanks_eq_cons_iff.1 (firstItem_eq_closed_iff.1 hmore)
      exact ⟨u, .none hu, hbytes⟩
    | item rest₁ =>
      obtain ⟨x, as, hx, hrest₁, rfl⟩ := exists_listed_of_readItems hread h
      obtain ⟨u, hu, hblanks⟩ := exists_blanks bytes
      rw [(firstItem_eq_item_iff.1 hmore).1, hrest₁, ← List.append_assoc] at hblanks
      exact ⟨u ++ x, .some (hx.blanks_append hu), hblanks⟩
  · rintro ⟨x, hx, rfl⟩
    cases hx with
    | none hu =>
      have hmore := firstItem_eq_closed_iff.2 (skipBlanks_append_cons hu (by decide) rest)
      simp only [readList, hmore, bind, Except.bind]
      rfl
    | some hx =>
      have hmore := firstItem_eq_item_iff.2 ⟨rfl, hx.exists_skipBlanks hread (byte ']' :: rest)⟩
      have hlength : items.length ≤ (x ++ byte ']' :: rest).length := by
        rw [List.length_append]
        exact Nat.le_add_right_of_le (hx.length_le hread.ne_nil)
      simp only [readList, hmore, bind, Except.bind]
      exact readItems_of_listed hread hx hlength []

/-! ## Readers of members -/

/-- The key of a member, of which the opening quote has been taken, and the colon behind it. -/
theorem exists_key_of_read {key : String} {rest₁ : List UInt8} (hkey : readString bytes = .ok (key, rest₁))
    (hcolon : readColon rest₁ = .ok ((), rest)) :
    ∃ k u, SpellsChars k key.toList ∧ Blanks u ∧ bytes = k ++ byte '"' :: (u ++ byte ':' :: rest) := by
  obtain ⟨k, hk, rfl⟩ := readString_eq_ok_iff.1 hkey
  obtain ⟨-, u, hu, rfl⟩ := skipBlanks_eq_cons_iff.1 (readColon_eq_ok_iff.1 hcolon)
  exact ⟨k, u, hk, hu, rfl⟩

theorem read_of_key {key : String} {k : List UInt8} (hk : SpellsChars k key.toList) (hu : Blanks u)
    (rest : List UInt8) :
    readString (k ++ byte '"' :: (u ++ byte ':' :: rest)) = .ok (key, u ++ byte ':' :: rest) ∧
      readColon (u ++ byte ':' :: rest) = .ok ((), rest) :=
  ⟨readString_eq_ok_iff.2 ⟨k, hk, rfl⟩, readColon_eq_ok_iff.2 (skipBlanks_append_cons hu (by decide) rest)⟩

/-- Takes a member whose opening quote has been taken. -/
def takeMember (item : Reader α) : Reader (String × α) := fun bytes => do
  let (key, rest) ← readString bytes
  let ((), rest) ← readColon rest
  let (a, rest) ← item rest
  return ((key, a), rest)

theorem exists_member_of_takeMember (hread : Reads item grammar) {m : String × α}
    (h : takeMember item bytes = .ok (m, rest)) :
    ∃ w, Member grammar (byte '"' :: w) m ∧ bytes = w ++ rest := by
  obtain ⟨⟨key, rest₁⟩, hkey, h⟩ := exists_of_bind_eq_ok h
  obtain ⟨⟨⟨⟩, rest₂⟩, hcolon, h⟩ := exists_of_bind_eq_ok h
  obtain ⟨⟨a, rest₃⟩, ha, h⟩ := exists_of_bind_eq_ok h
  cases h
  obtain ⟨k, u, hk, hu, rfl⟩ := exists_key_of_read hkey hcolon
  obtain ⟨v, w, hv, hw, rfl⟩ := hread.sound ha
  refine ⟨k ++ byte '"' :: u ++ byte ':' :: v ++ w, .mk hk hu hv hw, ?_⟩
  simp only [List.append_assoc, List.cons_append]

theorem takeMember_of_member (hread : Reads item grammar) {m : String × α} (hm : Member grammar w m)
    (hrest : EndsNumber rest) :
    ∃ w', w = byte '"' :: w' ∧ takeMember item (w' ++ rest) = .ok (m, rest) := by
  cases hm with
  | @mk k u v w key a hk hu hv hw =>
    refine ⟨k ++ byte '"' :: u ++ byte ':' :: v ++ w, by simp only [List.cons_append], ?_⟩
    obtain ⟨hkey, hcolon⟩ := read_of_key hk hu (v ++ (w ++ rest))
    have ha : item (v ++ (w ++ rest)) = .ok (a, rest) := by
      rw [← hread.skips, ← List.append_assoc, hread.skipBlanks_eq hv hw]
      exact hread.complete hw hrest
    simp only [List.append_assoc, List.cons_append]
    simp only [takeMember, hkey, hcolon, ha, bind, Except.bind]
    rfl

theorem Member.skipBlanks_eq {m : String × α} (hu : Blanks u) (hm : Member grammar w m) :
    skipBlanks (u ++ w ++ rest) = w ++ rest := by
  cases hm with
  | mk hk hu' hv hw =>
    exact skipBlanks_eq_cons_iff.2 ⟨by decide, u, hu, by rw [List.append_assoc]; rfl⟩

theorem Member.ne_nil {m : String × α} (hm : Member grammar w m) : w ≠ [] := by
  cases hm with
  | mk hk hu hv hw =>
    simp only [List.cons_append]
    exact List.cons_ne_nil _ _

/-- What is listed of members starts with a quote, blanks left out. -/
theorem Listed.exists_quote {ms : List (String × α)} (hx : Listed (Member grammar) x ms) (rest : List UInt8) :
    ∃ y, skipBlanks (x ++ rest) = byte '"' :: y := by
  have hquote : ∀ {w m}, Member grammar w m → ∀ more, ∃ y, w ++ more = byte '"' :: y := by
    rintro w m ⟨⟩ more
    exact ⟨_, rfl⟩
  cases hx with
  | last hu hw hv =>
    rw [List.append_assoc, hw.skipBlanks_eq hu]
    exact hquote hw _
  | cons hu hw hv hx =>
    rw [List.append_assoc, List.append_assoc, hw.skipBlanks_eq hu]
    exact hquote hw _

section

variable {value : Reader Value} {inner : List UInt8 → Value → Prop} {rows found : List (String × Value)}

theorem readMembers_succ :
    readMembers value rows (n + 1) bytes =
      takeMember value bytes >>= fun m => nextMember m.2 >>= fun more =>
        match more with
        | .closed rest => .ok (putRow m.1.1 m.1.2 rows, rest)
        | .item rest => readMembers value (putRow m.1.1 m.1.2 rows) n rest := by
  rw [readMembers, takeMember]
  cases readString bytes with
  | error fault => rfl
  | ok key =>
    obtain ⟨key, rest₁⟩ := key
    dsimp only [bind, Except.bind]
    cases readColon rest₁ with
    | error fault => rfl
    | ok colon =>
      obtain ⟨⟨⟩, rest₂⟩ := colon
      dsimp only
      cases value rest₂ with
      | error fault => rfl
      | ok found => rfl

theorem exists_listed_of_readMembers (hread : Reads value inner)
    (h : readMembers value rows n bytes = .ok (found, rest)) :
    ∃ x ms, Listed (Member inner) x ms ∧ byte '"' :: bytes = x ++ byte '\x7d' :: rest ∧
      found = ms.foldl (fun rows m => putRow m.1 m.2 rows) rows := by
  induction n generalizing rows bytes with
  | zero => cases h
  | succ n ih =>
    rw [readMembers_succ] at h
    obtain ⟨⟨m, rest₁⟩, hm, htail⟩ := exists_of_bind_eq_ok h
    obtain ⟨more, hmore, hend⟩ := exists_of_bind_eq_ok htail
    obtain ⟨w, hw, rfl⟩ := exists_member_of_takeMember hread hm
    cases more with
    | closed rest₂ =>
      cases hend
      obtain ⟨-, v, hv, rfl⟩ := skipBlanks_eq_cons_iff.1 (nextMember_eq_closed_iff.1 hmore)
      refine ⟨[] ++ byte '"' :: w ++ v, [m], .last blanks_nil hw hv, ?_, rfl⟩
      simp only [List.append_assoc, List.cons_append, List.nil_append]
    | item rest₂ =>
      obtain ⟨y, hcomma, hy⟩ := nextMember_eq_item_iff.1 hmore
      obtain ⟨-, v, hv, rfl⟩ := skipBlanks_eq_cons_iff.1 hcomma
      obtain ⟨x, ms, hx, hrest₂, rfl⟩ := ih hend
      obtain ⟨-, u, hu, rfl⟩ := skipBlanks_eq_cons_iff.1 hy
      refine ⟨[] ++ byte '"' :: w ++ v ++ byte ',' :: (u ++ x), m :: ms,
        .cons blanks_nil hw hv (hx.blanks_append hu), ?_, rfl⟩
      rw [hrest₂]
      simp only [List.append_assoc, List.cons_append, List.nil_append]

theorem readMembers_of_listed (hread : Reads value inner) {ms : List (String × Value)}
    (hx : Listed (Member inner) x ms) (hn : ms.length ≤ n)
    (hbytes : skipBlanks (x ++ byte '\x7d' :: rest) = byte '"' :: bytes) :
    readMembers value rows n bytes = .ok (ms.foldl (fun rows m => putRow m.1 m.2 rows) rows, rest) := by
  induction hx generalizing n rows bytes with
  | @last u w v m hu hw hv =>
    obtain _ | n := n
    · cases hn
    · obtain ⟨w, rfl, hm⟩ := takeMember_of_member hread hw
        (endsNumber_append_cons hv (b := byte '\x7d') (by decide) rest)
      have hmore := nextMember_eq_closed_iff.2 (skipBlanks_append_cons hv (by decide) rest)
      rw [List.append_assoc, hw.skipBlanks_eq hu, List.cons_append] at hbytes
      obtain ⟨-, rfl⟩ := List.cons.inj hbytes
      rw [readMembers_succ, hm]
      dsimp only [bind, Except.bind]
      rw [hmore]
      rfl
  | @cons u w v x m ms hu hw hv hx ih =>
    obtain _ | n := n
    · cases hn
    · obtain ⟨w, rfl, hm⟩ := takeMember_of_member hread hw
        (endsNumber_append_cons hv (b := byte ',') (by decide) (x ++ byte '\x7d' :: rest))
      have hcomma := skipBlanks_append_cons hv (b := byte ',') (by decide) (x ++ byte '\x7d' :: rest)
      obtain ⟨y, hquote⟩ := hx.exists_quote (byte '\x7d' :: rest)
      have hmore := nextMember_eq_item_iff.2 ⟨_, hcomma, hquote⟩
      rw [List.append_assoc, List.append_assoc, hw.skipBlanks_eq hu, List.cons_append] at hbytes
      obtain ⟨-, rfl⟩ := List.cons.inj hbytes
      rw [readMembers_succ, List.cons_append, hm]
      dsimp only [bind, Except.bind]
      rw [hmore]
      exact ih (Nat.le_of_succ_le_succ hn) hquote

/-- An object is read exactly where one is written. -/
theorem readObject_eq_ok_iff (hread : Reads value inner) :
    readObject value bytes = .ok (found, rest) ↔
      ∃ x ms, Enclosed (Member inner) x ms ∧ bytes = x ++ byte '\x7d' :: rest ∧
        .object found = Value.ofMembers ms := by
  constructor
  · intro h
    obtain ⟨more, hmore, h⟩ := exists_of_bind_eq_ok h
    cases more with
    | closed rest₁ =>
      cases h
      obtain ⟨-, u, hu, hbytes⟩ := skipBlanks_eq_cons_iff.1 (firstMember_eq_closed_iff.1 hmore)
      exact ⟨u, [], .none hu, hbytes, rfl⟩
    | item rest₁ =>
      obtain ⟨x, ms, hx, hrest₁, rfl⟩ := exists_listed_of_readMembers hread h
      obtain ⟨-, u, hu, hbytes⟩ := skipBlanks_eq_cons_iff.1 (firstMember_eq_item_iff.1 hmore)
      rw [hrest₁, ← List.append_assoc] at hbytes
      exact ⟨u ++ x, ms, .some (hx.blanks_append hu), hbytes, rfl⟩
  · rintro ⟨x, ms, hx, rfl, hfound⟩
    obtain rfl := Value.object.inj hfound
    cases hx with
    | none hu =>
      have hmore := firstMember_eq_closed_iff.2 (skipBlanks_append_cons hu (by decide) rest)
      simp only [readObject, hmore, bind, Except.bind]
      rfl
    | some hx =>
      obtain ⟨y, hquote⟩ := hx.exists_quote (byte '\x7d' :: rest)
      have hmore := firstMember_eq_item_iff.2 hquote
      have hlength : ms.length ≤ (x ++ byte '\x7d' :: rest).length := by
        rw [List.length_append]
        exact Nat.le_add_right_of_le (hx.length_le Member.ne_nil)
      simp only [readObject, hmore, bind, Except.bind]
      exact readMembers_of_listed hread hx hlength hquote

end

end CatalogImport.Json
