import TaskCorpus.Proofs.Store.Scripts

/-!
Scripts that leave no temporary file.

A temporary file is begun only to replace a file, and by the end of that it has been moved to its
path or given up, whatever has been refused. So a script that is put together from file operations
and whole replacements ends without a temporary file.
-/

namespace TaskCorpus.Store

open Script (Ensures)

variable {here : Location} {d e : Desk here}

def Operation.Direct : Operation → Prop
  | .stage _ _ => False
  | .write _ => False
  | .commit _ => False
  | .discard => False
  | _ => True

lemma temporary_settle {x : Except Fault (Store here)} {r : Except Fault Unit}
    (h : (r, e) = d.settle x) : e.temporary = d.temporary := by
  cases x <;> cases h <;> rfl

namespace Operation.Outcome

lemma temporary {op : Operation} {r : op.Result} (h : op.Outcome d r e) (hop : op.Direct) :
    e.temporary = d.temporary := by
  rcases h with h | ⟨f, -, rfl | hbreaks⟩
  · cases op with
    | look p => cases h; rfl
    | read p => cases h; rfl
    | makeDirectory p => exact temporary_settle h
    | remove p => exact temporary_settle h
    | truncate p => exact temporary_settle h
    | fill p bytes => exact temporary_settle h
    | stage dir name => exact hop.elim
    | write bytes => exact hop.elim
    | commit p => exact hop.elim
    | discard => exact hop.elim
  · rfl
  · cases op with
    | fill p bytes =>
      obtain ⟨n, he⟩ := hbreaks
      exact temporary_settle (Prod.ext rfl he : (_, e) = d.settle _)
    | write bytes => exact hop.elim
    | _ => exact hbreaks.elim

lemma stage_error {dir : Path} {name : String} {f : Fault}
    (h : Outcome (.stage dir name) d (.error f) e) : e = d := by
  rcases h.cases_of_not_breaks id with h | ⟨f, -, rfl⟩
  · simp only [run] at h
    split at h <;> cases h
    rfl
  · rfl

lemma commit_ok {p : Path} (h : Outcome (.commit p) d (.ok ()) e) : e.temporary = none := by
  rcases h with h | ⟨f, hr, -⟩
  · simp only [run] at h
    split at h
    · split at h <;> cases h
      rfl
    · cases h
  · cases hr

lemma discard_temporary {r : Unit} (h : Outcome .discard d r e) : e.temporary = none := by
  rcases h with h | ⟨f, hr, -⟩
  · cases h
    rfl
  · cases hr

end Operation.Outcome

namespace Script

variable {α β : Type}

/-- However the script is executed, it ends without a temporary file if it begins without one. -/
def Tidy (s : Script α) : Prop :=
  ∀ (here : Location) (d : Desk here), d.temporary = none →
    s.Ensures (fun _ => True) (fun _ e => e.temporary = none) d

namespace Tidy

lemma pure (a : α) : Tidy (Pure.pure a : Script α) := fun _ _ hd => hd

lemma perform {op : Operation} (hop : op.Direct) : Tidy (Script.perform op) :=
  fun _ _ hd => ⟨trivial, fun _ _ ho => (ho.temporary hop).trans hd⟩

lemma bind {s : Script α} {f : α → Script β} (h : s.Tidy) (hf : ∀ a, (f a).Tidy) :
    (s >>= f).Tidy := fun _ d hd => Ensures.bind (h _ d hd) fun a e he => hf a _ e he

lemma bindProgram {p : Program α} {f : α → Program β} (h : p.run.Tidy)
    (hf : ∀ a, (f a).run.Tidy) : (p >>= f).run.Tidy := by
  refine bind h fun r => ?_
  cases r with
  | ok a => exact hf a
  | error f => exact pure _

lemma attempt {error : Fault → Error} {s : Script (Except Fault α)} (h : s.Tidy) :
    (Store.attempt error s).run.Tidy := by
  refine bind h fun r => ?_
  cases r <;> exact pure _

lemma ofExcept (r : Except Error α) : (Program.ofExcept r).run.Tidy := pure r

end Tidy

end Script

open Script (Tidy)

/-! ### Scripts for whole files -/

lemma tidy_settle (p : Path) (f : Fault) : (makeFirst.settle p f).Tidy := by
  refine .bind (.perform trivial) fun r => ?_
  split <;> exact .pure _

lemma tidy_makeFirst (ps : List Path) : (makeFirst ps).Tidy := by
  induction ps with
  | nil => exact .pure _
  | cons p above ih =>
    unfold makeFirst
    split
    · exact .pure _
    refine .bind (.perform trivial) fun r => ?_
    split
    · exact .pure _
    · refine .bind ih fun r => ?_
      split
      · exact .pure _
      refine .bind (.perform trivial) fun r => ?_
      split
      · exact .pure _
      · exact tidy_settle _ _
    · exact tidy_settle _ _

lemma tidy_makeDirectories (p : Path) : (makeDirectories p).Tidy := tidy_makeFirst _

lemma tidy_readText (p : Path) : (readText p).run.Tidy := by
  refine .bindProgram (.attempt (.perform trivial)) fun bytes => ?_
  split <;> exact .pure _

lemma tidy_copyFile (source target : Path) : (copyFile source target).Tidy := by
  refine .bind (.perform trivial) fun r => ?_
  split
  · exact .pure _
  refine .bind (.perform trivial) fun r => ?_
  split
  · exact .pure _
  refine .bind (.perform trivial) fun r => ?_
  split
  · exact .pure _
  · exact .perform trivial

lemma ensures_giveUp (error : Error) (d : Desk here) :
    (replaceFile.giveUp error).Ensures (fun _ => True) (fun _ e => e.temporary = none) d :=
  ⟨trivial, fun _ _ ho => ho.discard_temporary⟩

/-- Every way out of a replacement gives its temporary file up, or has moved it. -/
theorem tidy_replaceFile (temporaryName : String) (unwritten : Fault → Error) (p : Path)
    (bytes : ByteArray) : (replaceFile temporaryName unwritten p bytes).run.Tidy := by
  refine fun _ d hd => ⟨trivial, fun r e ho => ?_⟩
  cases r with
  | error f =>
    rw [ho.stage_error]
    exact hd
  | ok _ =>
    refine ⟨trivial, fun r e' _ => ?_⟩
    cases r with
    | error f => exact ensures_giveUp _ e'
    | ok _ =>
      refine ⟨trivial, fun r e'' ho => ?_⟩
      cases r with
      | error f => exact ensures_giveUp _ e''
      | ok _ => exact ho.commit_ok

end TaskCorpus.Store
