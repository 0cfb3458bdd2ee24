import CatalogImport.Json.Reader
import CatalogImport.Proofs.Json.Utf8
import Mathlib.Tactic.SplitIfs

/-!
# The order of texts

Texts are ordered by the code points of their characters, from the first one on.  The bytes of a greater
character are greater, too, and no character has a first part of the bytes of another one, so the order of the
texts is the order of their bytes.  Main statement: `bytesOf_lt_iff`.
-/

namespace CatalogImport.Json

/-! ## The bytes of a text -/

theorem toList_loop_eq (b : ByteArray) (i : Nat) (taken : List UInt8) :
    ByteArray.toList.loop b i taken = taken.reverse ++ b.data.toList.drop i := by
  fun_induction ByteArray.toList.loop b i taken with
  | case1 i taken h ih =>
    have hi : i < b.data.toList.length := by simpa using h
    have hget : b.get! i = b.data.toList[i] := by
      simp [ByteArray.get!, h]
    rw [ih, List.drop_eq_getElem_cons hi, hget, List.reverse_cons, List.append_assoc]
    rfl
  | case2 i taken h =>
    have hi : b.data.toList.length ≤ i := by simpa using Nat.le_of_not_lt h
    rw [List.drop_eq_nil_of_le hi, List.append_nil]

/-- The bytes of a text are those of its characters, one after the other. -/
theorem bytesOf_eq (s : String) : bytesOf s = s.toList.flatMap String.utf8EncodeChar := by
  have hbytes : s.toUTF8 = s.toList.utf8Encode := by
    rw [String.toUTF8_eq_toByteArray, ← String.toByteArray_ofList, String.ofList_toList]
  unfold bytesOf ByteArray.toList
  rw [hbytes, toList_loop_eq]
  simp [List.utf8Encode]

/-! ## Greater texts -/

/-- Of two numbers, the lesser one is less in its digits to the base 64, of which there are four. -/
theorem digits_lt {m n : Nat} (h : m < n) : m / 262144 < n / 262144 ∨ m / 262144 = n / 262144 ∧
    (m / 4096 % 64 < n / 4096 % 64 ∨ m / 4096 % 64 = n / 4096 % 64 ∧
      (m / 64 % 64 < n / 64 % 64 ∨ m / 64 % 64 = n / 64 % 64 ∧ m % 64 < n % 64)) := by
  have hstep {k l : Nat} (h : k < l) : k / 64 < l / 64 ∨ k / 64 = l / 64 ∧ k % 64 < l % 64 := by omega
  have hdiv (k : Nat) : k / 262144 = k / 64 / 64 / 64 ∧ k / 4096 = k / 64 / 64 := by omega
  rw [(hdiv m).1, (hdiv m).2, (hdiv n).1, (hdiv n).2]
  rcases hstep h with h | ⟨heq, hlast⟩
  · rcases hstep h with h | ⟨heq, hlast⟩
    · rcases hstep h with h | ⟨heq, hlast⟩
      · exact .inl h
      · exact .inr ⟨heq, .inl hlast⟩
    · rw [heq]
      exact .inr ⟨rfl, .inr ⟨rfl, .inl hlast⟩⟩
  · rw [heq]
    exact .inr ⟨rfl, .inr ⟨rfl, .inr ⟨rfl, hlast⟩⟩⟩

/-- The bytes of a greater character are greater, whatever follows them. -/
theorem utf8EncodeChar_append_lt {c d : Char} (h : c < d) (x y : List UInt8) :
    String.utf8EncodeChar c ++ x < String.utf8EncodeChar d ++ y := by
  have hlt : c.val.toNat < d.val.toNat := h
  have hmax : d.val.toNat < 1114112 := by
    have hvalid := d.valid
    unfold UInt32.isValidChar Nat.isValidChar at hvalid
    omega
  unfold String.utf8EncodeChar
  dsimp only
  generalize c.val.toNat = m at *
  generalize d.val.toNat = n at *
  have hdigits := digits_lt hlt
  have hfirst : m / 262144 % 8 = m / 262144 ∧ n / 262144 % 8 = n / 262144 := by omega
  -- one case for each pair of lengths; if these differ, the first bytes do
  split_ifs
  all_goals
    simp only [List.cons_append, List.nil_append, List.cons_lt_cons_iff, UInt8.lt_iff_toNat_lt,
      ← UInt8.toNat_inj]
    simp (disch := omega) only [toNat_ofNat_of_lt]
    omega

theorem utf8EncodeChar_ne_nil (c : Char) : String.utf8EncodeChar c ≠ [] := by
  unfold String.utf8EncodeChar
  dsimp only
  split_ifs <;> simp

theorem flatMap_utf8EncodeChar_lt {cs ds : List Char} (h : cs < ds) :
    cs.flatMap String.utf8EncodeChar < ds.flatMap String.utf8EncodeChar := by
  induction h with
  | @nil d ds =>
    obtain ⟨b, bs, hbytes⟩ := List.exists_cons_of_ne_nil (utf8EncodeChar_ne_nil d)
    rw [List.flatMap_cons, hbytes]
    exact List.nil_lt_cons b _
  | rel hlt =>
    rw [List.flatMap_cons, List.flatMap_cons]
    exact utf8EncodeChar_append_lt hlt _ _
  | cons _ ih =>
    rw [List.flatMap_cons, List.flatMap_cons]
    exact List.append_left_lt ih

/-- A text comes before another one exactly if its bytes do. -/
theorem bytesOf_lt_iff {s t : String} : bytesOf s < bytesOf t ↔ s < t := by
  rw [bytesOf_eq, bytesOf_eq]
  constructor
  · intro h
    refine Classical.byContradiction fun hnot => ?_
    by_cases heq : t = s
    · exact List.lt_irrefl _ (heq ▸ h)
    · have hlt : t < s := Classical.byContradiction fun hle =>
        heq (String.le_antisymm (String.not_lt.1 hnot) (String.not_lt.1 hle))
      exact List.lt_asymm h (flatMap_utf8EncodeChar_lt hlt)
  · exact flatMap_utf8EncodeChar_lt

end CatalogImport.Json
