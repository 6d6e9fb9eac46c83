import TaskCorpus.Store.Basic

/-!
# Scripts of file operations

A script is a finite plan: a file operation whose result decides how to go on, or an answer. What
a script means is up to its interpreter. `Script.run` carries it out on a store; since every
operation is a step of its own, a script can also be followed step by step, or with faults at any
step.

A file that is being written stands beside the store until it is committed to its path, so nothing
of it can be seen before.
-/

namespace TaskCorpus.Store

inductive Operation where
  | look (p : Path)
  | read (p : Path)
  | makeDirectory (p : Path)
  | remove (p : Path)
  | truncate (p : Path)
  | fill (p : Path) (bytes : ByteArray)
  /-- Begins a temporary file of a name in a directory. -/
  | stage (dir : Path) (name : String)
  /-- Writes the temporary file. -/
  | write (bytes : ByteArray)
  /-- Moves the temporary file to a path. -/
  | commit (p : Path)
  /-- Gives the temporary file up. -/
  | discard

/-- The type of the result of an operation. -/
abbrev Operation.Result : Operation → Type
  | .look _ => Option Kind
  | .read _ => Except Fault ByteArray
  | .discard => Unit
  | _ => Except Fault Unit

variable {here : Location}

/-- A store and the temporary file, if there is one. -/
structure Desk (here : Location) where
  store : Store here
  temporary : Option ByteArray

namespace Desk

/-- A store without a temporary file. -/
def ofStore (s : Store here) : Desk here := ⟨s, none⟩

/-- Keeps the new store if there is one. -/
def settle (d : Desk here) : Except Fault (Store here) → Except Fault Unit × Desk here
  | .ok s => (.ok (), { d with store := s })
  | .error f => (.error f, d)

end Desk

/-- Carries out an operation. -/
def Operation.run : (op : Operation) → Desk here → op.Result × Desk here
  | .look p, d => (d.store.look p, d)
  | .read p, d => (d.store.read p, d)
  | .makeDirectory p, d => d.settle (d.store.makeDirectory p)
  | .remove p, d => d.settle (d.store.remove p)
  | .truncate p, d => d.settle (d.store.truncate p)
  | .fill p bytes, d => d.settle (d.store.fill p bytes)
  | .stage dir name, d =>
    match d.store.admits dir name with
    | .ok () => (.ok (), { d with temporary := some .empty })
    | .error f => (.error f, d)
  | .write bytes, d =>
    match d.temporary with
    | some _ => (.ok (), { d with temporary := some bytes })
    | none => (.error .notFound, d)
  | .commit p, d =>
    match d.temporary with
    | some bytes =>
      match d.store.moveIn bytes p with
      | .ok s => (.ok (), ⟨s, none⟩)
      | .error f => (.error f, d)
    | none => (.error .notFound, d)
  | .discard, d => ((), { d with temporary := none })

/-- A plan of file operations with an answer. -/
inductive Script (α : Type) where
  | done (a : α)
  | step (op : Operation) (next : op.Result → Script α)

namespace Script

variable {α β : Type}

def bind : Script α → (α → Script β) → Script β
  | .done a, f => f a
  | .step op next, f => .step op fun r => (next r).bind f

instance : Monad Script where
  pure := .done
  bind := bind

/-- The script of one operation. -/
def perform (op : Operation) : Script op.Result := .step op .done

/-- Carries out a script. -/
def run : Script α → Desk here → α × Desk here
  | .done a, d => (a, d)
  | .step op next, d =>
    let (r, d) := op.run d
    (next r).run d

@[simp] theorem run_pure (a : α) (d : Desk here) : (pure a : Script α).run d = (a, d) := rfl

@[simp] theorem run_bind (s : Script α) (f : α → Script β) (d : Desk here) :
    (s >>= f).run d = (f (s.run d).1).run (s.run d).2 := by
  change (s.bind f).run d = _
  induction s generalizing d with
  | done a => rfl
  | step op next ih => exact ih _ _

@[simp] theorem run_perform (op : Operation) (d : Desk here) : (perform op).run d = op.run d := rfl

theorem bind_done (s : Script α) : s.bind .done = s := by
  induction s with
  | done a => rfl
  | step op next ih => exact congrArg _ (funext ih)

theorem bind_assoc {γ : Type} (s : Script α) (f : α → Script β) (g : β → Script γ) :
    (s.bind f).bind g = s.bind fun a => (f a).bind g := by
  induction s with
  | done a => rfl
  | step op next ih => exact congrArg _ (funext ih)

instance : LawfulMonad Script := .mk' Script bind_done (fun _ _ => rfl) bind_assoc

end Script

end TaskCorpus.Store
