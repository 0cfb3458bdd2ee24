import CatalogImport.Proofs.Import.Exhaustion
import Mathlib.Algebra.BigOperators.Ring.List
import Mathlib.Algebra.Order.BigOperators.Group.List
import Mathlib.Algebra.Order.Ring.Nat

/-!
# Pauses between calls that fail

Between the calls of a submission that fails again and again there are pauses, each longer than the one
before by the delay that was set, as far as whole milliseconds of 64 bits can say.  Main statements: what
such a submission spends its time with (`beats_of_failures`), and when its pauses are exactly the multiples
of the delay, add up to them, and are longer than nothing (`waits_of_failures`).
-/

namespace CatalogImport

open CatalogImport.Calendar

/-! ## Whole milliseconds -/

theorem Calendar.Span.toNanos_eq (s : Span) : s.toNanos = s.wholeMillis * 1000000 + s.nanos % 1000000 := by
  unfold Span.toNanos Span.wholeMillis
  omega

theorem Calendar.Span.toNanos_ofMillis (n : Nat) : (Span.ofMillis n).toNanos = n * 1000000 := by
  unfold Span.toNanos Span.ofMillis
  show n / 1000 * 1000000000 + n % 1000 * 1000000 = n * 1000000
  omega

/-- The longest pause there is, in milliseconds. -/
def longestPause : Nat := 2 ^ 64 - 1

theorem RetryPolicy.backoffMillis_of_pos (p : RetryPolicy) {attempt : Nat} (h : 1 ≤ attempt) :
    p.backoffMillis attempt = min (p.baseDelay.wholeMillis * attempt) longestPause := by
  unfold RetryPolicy.backoffMillis
  rw [Nat.max_eq_left h]
  rfl

section

variable (delay : Span)

/-- What is waited for is never more than the multiple of the delay. -/
theorem pause_le_multiple (i : Nat) :
    min (delay.wholeMillis * i) longestPause * 1000000 ≤ delay.toNanos * i :=
  calc min (delay.wholeMillis * i) longestPause * 1000000
      ≤ delay.wholeMillis * i * 1000000 := Nat.mul_le_mul_right _ (Nat.min_le_left _ _)
    _ = delay.wholeMillis * 1000000 * i := Nat.mul_right_comm _ _ _
    _ ≤ delay.toNanos * i := Nat.mul_le_mul_right i (by rw [delay.toNanos_eq]; exact Nat.le_add_right _ _)

/-- It is as much exactly if the delay is in whole milliseconds and the multiple is not too long. -/
theorem pause_eq_multiple_iff {i : Nat} (hi : 1 ≤ i) :
    min (delay.wholeMillis * i) longestPause * 1000000 = delay.toNanos * i ↔
      delay.nanos % 1000000 = 0 ∧ delay.wholeMillis * i ≤ longestPause := by
  have hsplit : delay.toNanos * i = delay.wholeMillis * i * 1000000 + delay.nanos % 1000000 * i := by
    rw [delay.toNanos_eq, Nat.add_mul, Nat.mul_right_comm]
  rw [hsplit]
  constructor
  · intro h
    have hrest : delay.nanos % 1000000 * i = 0 := by omega
    exact ⟨(Nat.mul_eq_zero.1 hrest).resolve_right (by omega), by omega⟩
  · rintro ⟨hnanos, hfits⟩
    rw [hnanos, Nat.min_eq_left hfits, Nat.zero_mul, Nat.add_zero]

/-- What holds of the last pause holds of all before it. -/
theorem pauses_eq_multiples_iff (r : Nat) :
    (∀ i ∈ List.range' 1 r, min (delay.wholeMillis * i) longestPause * 1000000 = delay.toNanos * i) ↔
      r = 0 ∨ (delay.nanos % 1000000 = 0 ∧ delay.wholeMillis * r ≤ longestPause) := by
  constructor
  · intro h
    refine (Nat.eq_zero_or_pos r).imp_right fun hr => ?_
    exact (pause_eq_multiple_iff delay hr).1 (h r (List.mem_range'_1.2 (by omega)))
  · rintro (rfl | ⟨hnanos, hfits⟩) i hi
    · cases hi
    · have hrange := List.mem_range'_1.1 hi
      have hle : delay.wholeMillis * i ≤ delay.wholeMillis * r := Nat.mul_le_mul_left _ (by omega)
      exact (pause_eq_multiple_iff delay hrange.1).2 ⟨hnanos, by omega⟩

/-- No pause is empty if there is none, or if the delay is a millisecond at least. -/
theorem forall_pause_pos_iff (r : Nat) :
    (∀ i ∈ List.range' 1 r, 0 < min (delay.wholeMillis * i) longestPause * 1000000) ↔
      r = 0 ∨ 1000000 ≤ delay.toNanos := by
  have hwhole : 1000000 ≤ delay.toNanos ↔ 0 < delay.wholeMillis := by
    rw [delay.toNanos_eq]
    omega
  have hlongest : 0 < longestPause := by decide
  rw [hwhole]
  constructor
  · intro h
    refine (Nat.eq_zero_or_pos r).imp_right fun hr => ?_
    have hfirst := h 1 (List.mem_range'_1.2 (by omega))
    omega
  · rintro (rfl | hdelay) i hi
    · cases hi
    · have hproduct : 0 < delay.wholeMillis * i := Nat.mul_pos hdelay (List.mem_range'_1.1 hi).1
      omega

/-- Multiples of a length, from the first one on, add up to its triangular multiple. -/
theorem sum_multiples (c r : Nat) : ((List.range' 1 r).map (c * ·)).sum = c * (r * (r + 1) / 2) := by
  have hsum : (List.range' 1 r).sum = r * (r + 1) / 2 := by
    rw [List.sum_range']
    cases r with
    | zero => rfl
    | succ r =>
      have hproduct : (r + 1) * (r + 1 + 1) = (r + 1) * r + (r + 1) * 2 := by rw [← Nat.mul_add]
      rw [hproduct, Nat.add_mul_div_right _ _ (by decide)]
      simp [Nat.add_comm]
  calc ((List.range' 1 r).map (c * ·)).sum
      = c * ((List.range' 1 r).map fun i => i).sum := List.sum_map_mul_left _ _ _
    _ = c * (r * (r + 1) / 2) := by rw [List.map_id', hsum]

end

/-! ## Calls and pauses of a submission -/

/-- What a submission spends its time with. -/
inductive Beat where
  | call
  | wait (length : Span)
  deriving DecidableEq

/-- What time was spent on an exchange. -/
def beat? : Exchange → Option Beat
  | ⟨.addMany _, _⟩ => some .call
  | ⟨.pause millis, _⟩ => some (.wait (Span.ofMillis millis))
  | _ => none

/-- The calls and the pauses, in order. -/
def beats (t : History) : List Beat := t.filterMap beat?

/-- How long a pause was. -/
def Beat.wait? : Beat → Option Span
  | .call => none
  | .wait length => some length

/-- Calls with a pause between each and the next, which depends on a number. -/
def Beat.alternate (wait : Nat → Span) (l : List Nat) : List Beat :=
  l.flatMap (fun i => [.call, .wait (wait i)]) ++ [.call]

/-- The lengths of the pauses, in order. -/
def waits (t : History) : List Span := (beats t).filterMap Beat.wait?

@[simp] theorem beats_append (t u : History) : beats (t ++ u) = beats t ++ beats u := List.filterMap_append

section

variable {policy : RetryPolicy} {records : List Stored}

theorem beats_repeats (attempt : Nat) (errors : List StoreError) :
    beats (policy.repeats records attempt errors) = (List.range' attempt errors.length).flatMap fun i =>
      [.call, .wait (Span.ofMillis (policy.backoffMillis i))] := by
  induction errors generalizing attempt with
  | nil => rfl
  | cons e errors ih =>
    rw [repeats_cons, beats_append, ih, List.length_cons, List.range'_succ, List.flatMap_cons]
    rfl

theorem BatchKeeping.beats_eq {kind : RecordKind} {persist : Bool} {number attempts : Nat} {e : StoreError}
    {keeping : History} (h : BatchKeeping kind number attempts e records persist keeping) :
    beats keeping = [] := by
  cases h <;> rfl

variable {R : Type} [CatalogRecord R] {delay : Span} {persist : Bool} {b : Batch R} {t : History} {r : Nat}
  {result : Option (Except Unsubmitted Submitted)}

/-- Each call but the last is followed by a pause, and the `i`-th pause is `i` times the delay in whole
milliseconds. -/
theorem beats_of_failures (h : (submit (.linear r delay) persist b).run.Yields t result)
    (hstored : b.stored = .ok records) (ht : NotCancelled t) (hfail : AllFail t) :
    beats t = Beat.alternate (fun i => Span.ofMillis (min (delay.wholeMillis * i) longestPause))
      (List.range' 1 r) := by
  obtain ⟨errors, e, keeping, hlength, -, rfl, hkeeping⟩ := submission_of_failures h hstored ht hfail
  obtain rfl : errors.length = r := hlength
  rw [beats_append, beats_repeats]
  have hlast : beats (⟨.addMany records, some (.error e)⟩ :: ⟨.notice .retriesExhausted, ()⟩ :: keeping) =
      [.call] := congrArg (Beat.call :: ·) hkeeping.beats_eq
  rw [hlast]
  apply congrArg (· ++ [Beat.call])
  apply List.flatMap_congr
  intro i hi
  rw [RetryPolicy.backoffMillis_of_pos _ (List.mem_range'_1.1 hi).1]
  rfl

theorem waits_alternate (wait : Nat → Span) (l : List Nat) :
    (Beat.alternate wait l).filterMap Beat.wait? = l.map wait := by
  induction l with
  | nil => rfl
  | cons i l ih =>
    show wait i :: (Beat.alternate wait l).filterMap Beat.wait? = wait i :: l.map wait
    rw [ih]

/-- The pauses in nanoseconds. -/
theorem toNanos_waits_of_failures (h : (submit (.linear r delay) persist b).run.Yields t result)
    (hstored : b.stored = .ok records) (ht : NotCancelled t) (hfail : AllFail t) :
    (waits t).map Span.toNanos =
      (List.range' 1 r).map fun i => min (delay.wholeMillis * i) longestPause * 1000000 := by
  unfold waits
  rw [beats_of_failures h hstored ht hfail, waits_alternate, List.map_map]
  apply List.map_congr_left
  intro i _
  rw [Function.comp_apply, Span.toNanos_ofMillis]

/-- A submission to a store that fails at every call, whatever the number of repetitions, the delay and the
batch.  It calls once more than repetitions are allowed, with one pause between a call and the next, and the
`i`-th pause is `i` times the whole milliseconds of the delay, if 64 bits can say that many.  The pauses are
then exactly the multiples of the delay, or add up to its triangular multiple, in two cases only: there is no
repetition, or the delay is in whole milliseconds and the last pause is not too long.  There is no empty pause
exactly if there is no repetition or the delay is a millisecond at least. -/
theorem waits_of_failures (h : (submit (.linear r delay) persist b).run.Yields t result)
    (hstored : b.stored = .ok records) (ht : NotCancelled t) (hfail : AllFail t) :
    beats t = Beat.alternate (fun i => Span.ofMillis (min (delay.wholeMillis * i) longestPause))
      (List.range' 1 r) ∧
    ((waits t).map Span.toNanos = (List.range' 1 r).map (delay.toNanos * ·) ↔
      r = 0 ∨ (delay.nanos % 1000000 = 0 ∧ delay.wholeMillis * r ≤ longestPause)) ∧
    (((waits t).map Span.toNanos).sum = delay.toNanos * (r * (r + 1) / 2) ↔
      r = 0 ∨ (delay.nanos % 1000000 = 0 ∧ delay.wholeMillis * r ≤ longestPause)) ∧
    (delay.wholeMillis * r ≤ longestPause →
      ((waits t).map Span.toNanos).sum = delay.wholeMillis * 1000000 * (r * (r + 1) / 2)) ∧
    ((∀ wait ∈ waits t, 0 < wait.toNanos) ↔ r = 0 ∨ 1000000 ≤ delay.toNanos) := by
  have hwaits := toNanos_waits_of_failures h hstored ht hfail
  refine ⟨beats_of_failures h hstored ht hfail, ?_, ?_, ?_, ?_⟩
  · rw [hwaits, List.map_inj_left]
    exact pauses_eq_multiples_iff delay r
  · rw [hwaits, ← sum_multiples, ← pauses_eq_multiples_iff]
    refine ⟨fun hsum i hi => ?_, fun heq => congrArg List.sum (List.map_congr_left heq)⟩
    -- one pause that is too short would make the sum too small
    by_contra hne
    have hlt := List.sum_lt_sum _ _ (fun j _ => pause_le_multiple delay j)
      ⟨i, hi, Nat.lt_of_le_of_ne (pause_le_multiple delay i) hne⟩
    exact absurd hsum (Nat.ne_of_lt hlt)
  · intro hfits
    rw [hwaits, ← sum_multiples]
    apply congrArg List.sum
    apply List.map_congr_left
    intro i hi
    have hle : delay.wholeMillis * i ≤ delay.wholeMillis * r :=
      Nat.mul_le_mul_left _ (by have := List.mem_range'_1.1 hi; omega)
    show min (delay.wholeMillis * i) longestPause * 1000000 = _
    rw [Nat.min_eq_left (Nat.le_trans hle hfits), Nat.mul_right_comm]
  · have hpos : (∀ wait ∈ waits t, 0 < wait.toNanos) ↔ ∀ n ∈ (waits t).map Span.toNanos, 0 < n := by simp
    rw [hpos, hwaits, List.forall_mem_map]
    exact forall_pause_pos_iff delay r

end

/-- A delay of a millisecond and a half: the pauses leave out the halves. -/
theorem waits_of_three_failures :
    ∃ t result, (submit (.linear 2 ⟨0, 1500000⟩) true Sample.batch).run.Yields t result ∧
      Sample.batch.stored = .ok Sample.handedOver ∧ NotCancelled t ∧ AllFail t ∧
      beats t = [.call, .wait ⟨0, 1000000⟩, .call, .wait ⟨0, 2000000⟩, .call] ∧
      ((waits t).map Span.toNanos).sum = 3000000 ∧ ∀ wait ∈ waits t, 0 < wait.toNanos := by
  obtain ⟨t, result, hyields, ht, hfail, -⟩ :=
    Scene.exists_yields_busy (submit (.linear 2 ⟨0, 1500000⟩) true Sample.batch).run
  obtain ⟨hbeats, -, -, hsum, hpos⟩ := waits_of_failures hyields Sample.stored_batch ht hfail
  exact ⟨t, result, hyields, Sample.stored_batch, ht, hfail, hbeats, hsum (by decide),
    hpos.2 (.inr (by decide))⟩

/-- A delay of half a millisecond: there are no pauses to speak of, although the delay is longer than
nothing and its multiples could be waited for. -/
theorem waits_not_multiples :
    ∃ t result, (submit (.linear 2 ⟨0, 500000⟩) true Sample.batch).run.Yields t result ∧
      NotCancelled t ∧ AllFail t ∧ 0 < (Span.mk 0 500000).toNanos ∧
      beats t = [.call, .wait ⟨0, 0⟩, .call, .wait ⟨0, 0⟩, .call] ∧
      (waits t).map Span.toNanos ≠ [1, 2].map ((Span.mk 0 500000).toNanos * ·) ∧
      ((waits t).map Span.toNanos).sum ≠ (Span.mk 0 500000).toNanos * 3 ∧
      ¬ ∀ wait ∈ waits t, 0 < wait.toNanos := by
  obtain ⟨t, result, hyields, ht, hfail, -⟩ :=
    Scene.exists_yields_busy (submit (.linear 2 ⟨0, 500000⟩) true Sample.batch).run
  have hbeats : beats t = [.call, .wait ⟨0, 0⟩, .call, .wait ⟨0, 0⟩, .call] :=
    beats_of_failures hyields Sample.stored_batch ht hfail
  have hwaits : waits t = [⟨0, 0⟩, ⟨0, 0⟩] := congrArg (List.filterMap Beat.wait?) hbeats
  refine ⟨t, result, hyields, ht, hfail, by decide, hbeats, ?_⟩
  rw [hwaits]
  exact ⟨by decide, by decide, by decide⟩

end CatalogImport
