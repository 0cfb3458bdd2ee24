import CatalogImport.Program

/-!
# Transcripts

A transcript is what a program asked and what it was answered, in order.  Nothing is said here about
who answers: a program yields a result under a transcript when the answers in it lead there, so a
statement about all transcripts holds in all surroundings.  Main statements: a transcript of two
programs in a row is cut where the first one ends (`yields_bind_iff`), what a program is told before
it is broken off can be completed by any answers (`exists_yields`), a program that asks only questions of
a kind is told only of these (`AsksOnly.of_mem`), and a run under a handler leaves a transcript
(`run_yields`).  Where each answer takes the surroundings from one state to another, what a program ensures
is put together from its parts (`ensures_bind_iff`), and holds after a run under any handler that keeps to
the same steps (`Ensures.run`).
-/

namespace CatalogImport.Program

variable {Q : Type} {A : Q → Type} {α β σ : Type}

/-- Questions with their answers, in the order in which they were asked. -/
abbrev Transcript (Q : Type) (A : Q → Type) : Type := List ((q : Q) × A q)

/-- Told the answers of a transcript, a program has become another one. -/
inductive Told : Program Q A α → Transcript Q A → Program Q A α → Prop
  | here (p : Program Q A α) : Told p [] p
  | answered {q : Q} {next : A q → Program Q A α} {x : A q} {t : Transcript Q A}
      {p' : Program Q A α} (h : Told (next x) t p') : Told (.ask q next) (⟨q, x⟩ :: t) p'

/-- Told the answers of a transcript, a program is done. -/
def Yields (p : Program Q A α) (t : Transcript Q A) (a : α) : Prop := p.Told t (.done a)

/-! ## One question after the other -/

@[simp] theorem yields_done_iff {a b : α} {t : Transcript Q A} :
    (Program.done a : Program Q A α).Yields t b ↔ t = [] ∧ b = a := by
  constructor
  · intro h
    cases h
    exact ⟨rfl, rfl⟩
  · rintro ⟨rfl, rfl⟩
    exact .here _

@[simp] theorem yields_pure_iff {a b : α} {t : Transcript Q A} :
    (pure a : Program Q A α).Yields t b ↔ t = [] ∧ b = a := yields_done_iff

theorem yields_ask_iff {q : Q} {next : A q → Program Q A α} {t : Transcript Q A} {b : α} :
    (Program.ask q next).Yields t b ↔ ∃ x u, t = ⟨q, x⟩ :: u ∧ (next x).Yields u b := by
  constructor
  · intro h
    cases h with
    | answered h => exact ⟨_, _, rfl, h⟩
  · rintro ⟨x, u, rfl, h⟩
    exact .answered h

@[simp] theorem yields_question_iff {q : Q} {t : Transcript Q A} {x : A q} :
    (question q : Program Q A (A q)).Yields t x ↔ t = [⟨q, x⟩] := by
  constructor
  · intro h
    obtain ⟨y, u, rfl, hu⟩ := yields_ask_iff.1 h
    obtain ⟨rfl, rfl⟩ := yields_done_iff.1 hu
    rfl
  · rintro rfl
    exact yields_ask_iff.2 ⟨x, [], rfl, yields_done_iff.2 ⟨rfl, rfl⟩⟩

/-- A question comes first in the transcript of what follows it. -/
@[simp] theorem yields_question_bind_iff {q : Q} {f : A q → Program Q A β} {t : Transcript Q A}
    {b : β} :
    (question q >>= f).Yields t b ↔ ∃ x u, t = ⟨q, x⟩ :: u ∧ (f x).Yields u b :=
  yields_ask_iff

/-- The transcript of one program and then another is cut where the first is done. -/
theorem yields_bind_iff {p : Program Q A α} {f : α → Program Q A β} {t : Transcript Q A} {b : β} :
    (p >>= f).Yields t b ↔ ∃ a u v, t = u ++ v ∧ p.Yields u a ∧ (f a).Yields v b := by
  induction p generalizing t with
  | done a =>
    rw [done_bind]
    constructor
    · intro h
      exact ⟨a, [], t, rfl, yields_done_iff.2 ⟨rfl, rfl⟩, h⟩
    · rintro ⟨_, _, v, rfl, hp, hf⟩
      obtain ⟨rfl, rfl⟩ := yields_done_iff.1 hp
      exact hf
  | ask q next ih =>
    rw [ask_bind, yields_ask_iff]
    constructor
    · rintro ⟨x, u, rfl, h⟩
      obtain ⟨a, v, w, rfl, hp, hf⟩ := (ih x).1 h
      exact ⟨a, ⟨q, x⟩ :: v, w, rfl, yields_ask_iff.2 ⟨x, v, rfl, hp⟩, hf⟩
    · rintro ⟨a, u, w, rfl, hp, hf⟩
      obtain ⟨x, v, rfl, hv⟩ := yields_ask_iff.1 hp
      exact ⟨x, v ++ w, rfl, (ih x).2 ⟨a, v, w, rfl, hv, hf⟩⟩

/-! ## Programs that are broken off -/

theorem Told.trans {p p' p'' : Program Q A α} {t u : Transcript Q A} (h : p.Told t p')
    (h' : p'.Told u p'') : p.Told (t ++ u) p'' := by
  induction h with
  | here p => exact h'
  | answered _ ih => exact .answered (ih h')

/-- What a program is told in two parts makes it another one in between. -/
theorem Told.exists_between {p p'' : Program Q A α} {t u : Transcript Q A} (h : p.Told (t ++ u) p'') :
    ∃ p', p.Told t p' ∧ p'.Told u p'' := by
  induction t generalizing p with
  | nil => exact ⟨p, .here p, h⟩
  | cons e t ih =>
    cases h with
    | answered h =>
      obtain ⟨p', ht, hu⟩ := ih h
      exact ⟨p', .answered ht, hu⟩

/-- A program that asks has not been told anything yet, or the answer to its question comes first. -/
theorem told_question_bind_iff {q : Q} {f : A q → Program Q A β} {t : Transcript Q A}
    {p' : Program Q A β} :
    (question q >>= f).Told t p' ↔
      t = [] ∧ p' = (question q >>= f) ∨ ∃ x u, t = ⟨q, x⟩ :: u ∧ (f x).Told u p' := by
  constructor
  · intro h
    cases h with
    | here => exact .inl ⟨rfl, rfl⟩
    | answered h => exact .inr ⟨_, _, rfl, h⟩
  · rintro (⟨rfl, rfl⟩ | ⟨x, u, rfl, h⟩)
    · exact .here _
    · exact .answered h

/-- A program is done some time when all its questions get the answers of one who answers. -/
theorem exists_yields (answer : (q : Q) → A q) (p : Program Q A α) :
    ∃ t a, p.Yields t a ∧ ∀ e ∈ t, e = ⟨e.1, answer e.1⟩ := by
  induction p with
  | done a => exact ⟨[], a, .here _, fun e he => absurd he List.not_mem_nil⟩
  | ask q next ih =>
    obtain ⟨t, a, ht, hanswer⟩ := ih (answer q)
    refine ⟨⟨q, answer q⟩ :: t, a, .answered ht, ?_⟩
    intro e he
    rcases List.mem_cons.1 he with rfl | he
    · rfl
    · exact hanswer e he

/-! ## Questions of a kind -/

/-- Whatever it is answered, the program asks only questions of a kind. -/
def AsksOnly (P : Q → Prop) : Program Q A α → Prop
  | .done _ => True
  | .ask q next => P q ∧ ∀ x, (next x).AsksOnly P

theorem AsksOnly.bind {P : Q → Prop} {p : Program Q A α} {f : α → Program Q A β}
    (hp : p.AsksOnly P) (hf : ∀ a, (f a).AsksOnly P) : (p >>= f).AsksOnly P := by
  induction p with
  | done a => exact hf a
  | ask q next ih => exact ⟨hp.1, fun x => ih x (hp.2 x)⟩

theorem AsksOnly.mono {P P' : Q → Prop} {p : Program Q A α} (hp : p.AsksOnly P)
    (h : ∀ q, P q → P' q) : p.AsksOnly P' := by
  induction p with
  | done a => trivial
  | ask q next ih => exact ⟨h q hp.1, fun x => ih x (hp.2 x)⟩

/-- Of that kind are the questions that it has got answers to. -/
theorem AsksOnly.of_mem {P : Q → Prop} {p p' : Program Q A α} {t : Transcript Q A}
    (hp : p.AsksOnly P) (h : p.Told t p') : ∀ e ∈ t, P e.1 := by
  induction h with
  | here p =>
    intro e he
    cases he
  | answered _ ih =>
    intro e he
    rcases List.mem_cons.1 he with rfl | he
    · exact hp.1
    · exact ih (hp.2 _) e he

/-! ## Programs under a handler -/

/-- The questions that a handler answers when it runs a program from a state. -/
def transcript (h : Handler Q A σ) : Program Q A α → σ → Transcript Q A
  | .done _, _ => []
  | .ask q next, s =>
    match h q s with
    | (.answer x, s) => ⟨q, x⟩ :: (next x).transcript h s
    | _ => []

/-- A run to the end leaves its transcript. -/
theorem run_yields {h : Handler Q A σ} {p : Program Q A α} {s : σ} {a : α}
    (hrun : (p.run h s).1 = .finished a) : p.Yields (p.transcript h s) a := by
  induction p generalizing s with
  | done b =>
    rw [run_done] at hrun
    cases hrun
    exact .here _
  | ask q next ih =>
    rw [run] at hrun
    rw [transcript]
    cases hq : h q s with
    | mk reply s₁ =>
      rw [hq] at hrun
      cases reply with
      | answer x => exact .answered (ih x hrun)
      | silence => cases hrun
      | collapse => cases hrun

/-- Whatever becomes of a run, the program has been told its transcript. -/
theorem exists_told (h : Handler Q A σ) (p : Program Q A α) (s : σ) : ∃ p', p.Told (p.transcript h s) p' := by
  induction p generalizing s with
  | done a => exact ⟨_, .here _⟩
  | ask q next ih =>
    rw [transcript]
    rcases h q s with ⟨reply, s'⟩
    cases reply with
    | answer x =>
      obtain ⟨p', hp'⟩ := ih x s'
      exact ⟨p', .answered hp'⟩
    | silence => exact ⟨_, .here _⟩
    | collapse => exact ⟨_, .here _⟩

/-- Under a handler that answers everything, a program runs to its end. -/
theorem exists_finished {h : Handler Q A σ} (hanswers : ∀ q s, ∃ x s', h q s = (.answer x, s'))
    (p : Program Q A α) (s : σ) : ∃ a, (p.run h s).1 = .finished a := by
  induction p generalizing s with
  | done a => exact ⟨a, rfl⟩
  | ask q next ih =>
    obtain ⟨x, s', hq⟩ := hanswers q s
    rw [run, hq]
    exact ih x s'

/-- What is answered in a transcript was answered by the handler. -/
theorem exists_answer_of_mem_transcript {h : Handler Q A σ} {p : Program Q A α} {s : σ}
    {e : (q : Q) × A q} (he : e ∈ p.transcript h s) :
    ∃ s₁ s₂, h e.1 s₁ = (.answer e.2, s₂) := by
  induction p generalizing s with
  | done b => cases he
  | ask q next ih =>
    rw [transcript] at he
    cases hq : h q s with
    | mk reply s₁ =>
      rw [hq] at he
      cases reply with
      | answer x =>
        rcases List.mem_cons.1 he with rfl | he
        · exact ⟨s, s₁, hq⟩
        · exact ih x he
      | silence => cases he
      | collapse => cases he

/-! ## Surroundings that go in steps -/

section

variable {S : Type} {step : S → ((q : Q) × A q) → S → Prop} {s : S}

/-- However a program is answered, if every answer is a step of its surroundings, it ends as said of
its transcript, its result and the state at its end. -/
def Ensures (step : S → ((q : Q) × A q) → S → Prop) :
    Program Q A α → S → (Transcript Q A → α → S → Prop) → Prop
  | .done a, s, post => post [] a s
  | .ask q next, s, post =>
    ∀ x s', step s ⟨q, x⟩ s' → (next x).Ensures step s' fun t => post (⟨q, x⟩ :: t)

theorem Ensures.mono {p : Program Q A α} {post post' : Transcript Q A → α → S → Prop}
    (h : p.Ensures step s post) (hpost : ∀ t a s', post t a s' → post' t a s') :
    p.Ensures step s post' := by
  induction p generalizing s post post' with
  | done a => exact hpost [] a s h
  | ask q next ih =>
    intro x s' hstep
    exact ih x (h x s' hstep) fun t a s'' => hpost (⟨q, x⟩ :: t) a s''

theorem ensures_congr {p : Program Q A α} {post post' : Transcript Q A → α → S → Prop}
    (h : ∀ t a s', post t a s' ↔ post' t a s') : p.Ensures step s post ↔ p.Ensures step s post' :=
  ⟨fun hp => hp.mono fun t a s' => (h t a s').1, fun hp => hp.mono fun t a s' => (h t a s').2⟩

/-- What two programs in a row ensure: from where the first one ends, the second. -/
theorem ensures_bind_iff {p : Program Q A α} {f : α → Program Q A β}
    {post : Transcript Q A → β → S → Prop} :
    (p >>= f).Ensures step s post ↔
      p.Ensures step s fun t a s' => (f a).Ensures step s' fun u => post (t ++ u) := by
  induction p generalizing s post with
  | done a => rfl
  | ask q next ih => exact forall_congr' fun x => forall_congr' fun s' => imp_congr_right fun _ => ih x

/-- What a program that may fail ensures and another after it, unless it has failed. -/
theorem ensures_run_bind_iff {ε : Type} {c : ExceptT ε (Program Q A) α}
    {f : α → ExceptT ε (Program Q A) β} {post : Transcript Q A → Except ε β → S → Prop} :
    (c >>= f).run.Ensures step s post ↔
      c.run.Ensures step s fun t outcome s' =>
        match outcome with
        | .ok a => (f a).run.Ensures step s' fun u => post (t ++ u)
        | .error e => post t (.error e) s' := by
  rw [ExceptT.run_bind, ensures_bind_iff]
  refine ensures_congr fun t outcome s' => ?_
  cases outcome with
  | ok a => rfl
  | error e => exact iff_of_eq (congrArg (post · (.error e) s') (List.append_nil t))

/-- What a program that may fail ensures and another in place of its failure. -/
theorem ensures_run_tryCatch_iff {ε : Type} {c : ExceptT ε (Program Q A) α}
    {f : ε → ExceptT ε (Program Q A) α} {post : Transcript Q A → Except ε α → S → Prop} :
    (tryCatch c f : ExceptT ε (Program Q A) α).run.Ensures step s post ↔
      c.run.Ensures step s fun t outcome s' =>
        match outcome with
        | .ok a => post t (.ok a) s'
        | .error e => (f e).run.Ensures step s' fun u => post (t ++ u) := by
  refine ensures_bind_iff.trans (ensures_congr fun t outcome s' => ?_)
  cases outcome with
  | ok a => exact iff_of_eq (congrArg (post · (.ok a) s') (List.append_nil t))
  | error e => rfl

/-- A handler answers everything, from sound states of its own, and what is seen of these goes in steps. -/
def Handler.KeepsTo (h : Handler Q A σ) (step : S → ((q : Q) × A q) → S → Prop) (view : σ → S)
    (sound : σ → Prop) : Prop :=
  ∀ q w, sound w → ∃ x w', h q w = (.answer x, w') ∧ sound w' ∧ step (view w) ⟨q, x⟩ (view w')

/-- Under a handler that keeps to the steps a program runs to its end, which is as the program ensures. -/
theorem Ensures.run {h : Handler Q A σ} {view : σ → S} {sound : σ → Prop}
    (hkeeps : h.KeepsTo step view sound) {p : Program Q A α} {w : σ} (hw : sound w)
    {post : Transcript Q A → α → S → Prop} (hp : p.Ensures step (view w) post) :
    ∃ a w', p.run h w = (.finished a, w') ∧ sound w' ∧ post (p.transcript h w) a (view w') := by
  induction p generalizing w post with
  | done a => exact ⟨a, w, rfl, hw, hp⟩
  | ask q next ih =>
    obtain ⟨x, w₁, hq, hw₁, hstep⟩ := hkeeps q w hw
    obtain ⟨a, w', hrun, hw', hpost⟩ := ih x hw₁ (hp x _ hstep)
    rw [Program.run, transcript, hq]
    exact ⟨a, w', hrun, hw', hpost⟩

end

end CatalogImport.Program
