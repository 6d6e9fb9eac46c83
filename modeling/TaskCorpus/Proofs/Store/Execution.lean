import Mathlib.Logic.Relation
import TaskCorpus.Store.Files

/-!
Executions in which operations may be refused.

An operation is carried out, or it is refused for any reason; then it has changed nothing, but that
one that writes may have written the first of its bytes. `Script.Step` is one operation of a script,
so what the reflexive transitive closure of `Step` reaches are the desks at every single point of
every execution. `Script.Ensures I P s d` says of all executions of `s` from `d` that every desk
before the end satisfies `I` and the answer satisfies `P`; it is proved along the text of the
script, and `Ensures.always` carries it over to the steps.
-/

namespace TaskCorpus.Store

variable {here : Location}

/-- The result of an operation that is refused with a fault. Nobody says of a file that is there
that it was not found when it was to be removed, and to give a temporary file up is not refused. -/
def Operation.refusal? : (op : Operation) → Fault → Option op.Result
  | .look _, _ => some none
  | .read _, f => some (.error f)
  | .makeDirectory _, f => some (.error f)
  | .remove _, f => if f = .notFound then none else some (.error f)
  | .truncate _, f => some (.error f)
  | .fill _ _, f => some (.error f)
  | .stage _ _, f => some (.error f)
  | .write _, f => some (.error f)
  | .commit _, f => some (.error f)
  | .discard, _ => none

/-- An operation that writes has come to an end after the first of its bytes. -/
def Operation.Breaks : Operation → Desk here → Desk here → Prop
  | .fill p bytes, d, e => ∃ n, e = ((Operation.fill p (bytes.extract 0 n)).run d).2
  | .write bytes, d, e => ∃ n, e = ((Operation.write (bytes.extract 0 n)).run d).2
  | _, _, _ => False

/-- How an operation may end: it has been carried out, or refused. -/
def Operation.Outcome (op : Operation) (d : Desk here) (r : op.Result) (e : Desk here) : Prop :=
  (r, e) = op.run d ∨ ∃ f, op.refusal? f = some r ∧ (e = d ∨ op.Breaks d e)

namespace Script

variable {α β ε : Type} {I J : Desk here → Prop} {d e : Desk here}

inductive Step : Script α × Desk here → Script α × Desk here → Prop
  | mk {op : Operation} {next : op.Result → Script α} {d e : Desk here} {r : op.Result}
      (h : op.Outcome d r e) : Step (.step op next, d) (next r, e)

/-- The desks and answers that an execution can come to. -/
def Reaches (s : Script α) (d : Desk here) (t : Script α) (e : Desk here) : Prop :=
  Relation.ReflTransGen Step (s, d) (t, e)

/-- However the script is executed, every desk before its end satisfies `I`, and its answer with
the last desk satisfies `P`. -/
def Ensures (I : Desk here → Prop) (P : α → Desk here → Prop) : Script α → Desk here → Prop
  | .done a, d => P a d
  | .step op next, d => I d ∧ ∀ r e, op.Outcome d r e → (next r).Ensures I P e

lemma reaches_run (s : Script α) (d : Desk here) : s.Reaches d (.done (s.run d).1) (s.run d).2 := by
  induction s generalizing d with
  | done a => exact .refl
  | step op next ih => exact .head (.mk (.inl rfl)) (ih _ _)

/-- Carries a script out but for one operation, which is refused with a fault: the one before
which that number of others have been carried out. -/
def runRefusing (f : Fault) : Nat → Script α → Desk here → α × Desk here
  | _, .done a, d => (a, d)
  | 0, .step op next, d =>
    match op.refusal? f with
    | some r => (next r).run d
    | none => (Script.step op next).run d
  | n + 1, .step op next, d => runRefusing f n (next (op.run d).1) (op.run d).2

lemma reaches_runRefusing (f : Fault) (n : Nat) (s : Script α) (d : Desk here) :
    s.Reaches d (.done (s.runRefusing f n d).1) (s.runRefusing f n d).2 := by
  induction s generalizing n d with
  | done a =>
    cases n <;> exact .refl
  | step op next ih =>
    cases n with
    | zero =>
      rw [runRefusing]
      split
      · rename_i r hr
        exact .head (.mk (.inr ⟨f, hr, .inl rfl⟩)) (reaches_run _ _)
      · exact reaches_run _ _
    | succ n => exact .head (.mk (.inl rfl)) (ih _ _ _)

namespace Ensures

variable {P : α → Desk here → Prop} {Q : β → Desk here → Prop} {s : Script α}

lemma mono {P' : α → Desk here → Prop} (h : s.Ensures I P d) (hI : ∀ e, I e → J e)
    (hP : ∀ a e, P a e → P' a e) : s.Ensures J P' d := by
  induction s generalizing d with
  | done a => exact hP a d h
  | step op next ih => exact ⟨hI d h.1, fun r e he => ih r (h.2 r e he)⟩

lemma bind {f : α → Script β} (h : s.Ensures I P d) (hf : ∀ a e, P a e → (f a).Ensures I Q e) :
    (s >>= f).Ensures I Q d := by
  change (s.bind f).Ensures I Q d
  induction s generalizing d with
  | done a => exact hf a d h
  | step op next ih => exact ⟨h.1, fun r e he => ih r (h.2 r e he)⟩

lemma and {P' : α → Desk here → Prop} (h : s.Ensures I P d) (h' : s.Ensures J P' d) :
    s.Ensures (fun e => I e ∧ J e) (fun a e => P a e ∧ P' a e) d := by
  induction s generalizing d with
  | done a => exact ⟨h, h'⟩
  | step op next ih => exact ⟨⟨h.1, h'.1⟩, fun r e he => ih r (h.2 r e he) (h'.2 r e he)⟩

lemma step {t : Script α} (h : s.Ensures I P d) (hs : Step (s, d) (t, e)) : t.Ensures I P e := by
  cases hs with
  | mk ho => exact h.2 _ _ ho

lemma reaches {t : Script α} (h : s.Ensures I P d) (hs : s.Reaches d t e) : t.Ensures I P e := by
  -- steps relate pairs, and the induction has to see a variable in their place
  have key : ∀ x : Script α × Desk here,
      Relation.ReflTransGen Step (s, d) x → x.1.Ensures I P x.2 := by
    intro x hx
    induction hx with
    | refl => exact h
    | tail _ hs ih => exact ih.step hs
  exact key (t, e) hs

/-- **Soundness**, at every point: a desk that an execution reaches satisfies `I`, unless it is
the end. -/
theorem always {t : Script α} (h : s.Ensures I P d) (hs : s.Reaches d t e) :
    I e ∨ ∃ a, t = .done a ∧ P a e := by
  have ht := h.reaches hs
  cases t with
  | done a => exact .inr ⟨a, rfl, ht⟩
  | step op next => exact .inl ht.1

/-- **Soundness**, at the end. -/
theorem ends {a : α} (h : s.Ensures I P d) (hs : s.Reaches d (.done a) e) : P a e := h.reaches hs

lemma now (h : s.Ensures I (fun _ e => I e) d) : I d := by
  cases s with
  | done a => exact h
  | step op next => exact h.1

theorem run (h : s.Ensures I P d) : P (s.run d).1 (s.run d).2 := h.ends (s.reaches_run d)

end Ensures

lemma eq_of_reaches_done {a : α} {t : Script α} (h : (done a).Reaches d t e) : e = d := by
  have hdone : (done a).Ensures (· = d) (fun _ e => e = d) d := rfl
  rcases hdone.always h with he | ⟨-, -, he⟩
  · exact he
  · exact he

/-- The script may fail as long as `I` holds then, and what it gives otherwise satisfies `P`. -/
def Attains (I : Desk here → Prop) (P : α → Desk here → Prop) (s : Script (Except ε α))
    (d : Desk here) : Prop :=
  s.Ensures I (fun r e =>
    match r with
    | .ok a => P a e
    | .error _ => I e) d

namespace Attains

variable {P : α → Desk here → Prop} {Q : β → Desk here → Prop}

lemma mono {P' : α → Desk here → Prop} {s : Script (Except ε α)} (h : s.Attains I P d)
    (hI : ∀ e, I e → J e) (hP : ∀ a e, P a e → P' a e) : s.Attains J P' d := by
  refine Ensures.mono h hI fun r e hr => ?_
  cases r with
  | ok a => exact hP a e hr
  | error f => exact hI e hr

lemma and {P' : α → Desk here → Prop} {s : Script (Except ε α)} (h : s.Attains I P d)
    (h' : s.Attains J P' d) :
    s.Attains (fun e => I e ∧ J e) (fun a e => P a e ∧ P' a e) d := by
  refine Ensures.mono (Ensures.and h h') (fun _ h => h) fun r e hr => ?_
  cases r <;> exact hr

lemma ofExcept {r : Except Error α} (hI : I d) (h : ∀ a, r = .ok a → P a d) :
    (Program.ofExcept r).run.Attains I P d := by
  cases r with
  | ok a => exact h a rfl
  | error f => exact hI

lemma bind {p : Program α} {f : α → Program β} (h : p.run.Attains I P d)
    (hf : ∀ a e, P a e → (f a).run.Attains I Q e) : (p >>= f).run.Attains I Q d := by
  refine Ensures.bind h fun r e hr => ?_
  cases r with
  | ok a => exact hf a e hr
  | error f => exact hr

lemma attempt {error : Fault → Error} {s : Script (Except Fault α)} (h : s.Attains I P d) :
    (Store.attempt error s).run.Attains I P d := by
  refine Ensures.bind h fun r e hr => ?_
  cases r with
  | ok a => exact hr
  | error f => exact hr

theorem run {s : Script (Except ε α)} (h : s.Attains I P d) {a : α}
    (hs : s.run d = (.ok a, e)) : P a e := by
  have hr := Ensures.run h
  rwa [hs] at hr

end Attains

end Script

end TaskCorpus.Store
