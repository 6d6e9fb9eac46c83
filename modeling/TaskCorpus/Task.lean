import TaskCorpus.Error
import TaskCorpus.Text.Blank

/-!
# Tasks

A task is one scenario: who the simulated customer is, what the customer wants, and which actions
are expected of the agent.
-/

namespace TaskCorpus

structure Task where
  id : Option String
  userId : String
  instruction : String
  actions : List Action
  /-- What the agent is expected to tell the customer. -/
  outputs : List String
  deriving DecidableEq

namespace Task

/-- The name of a task without an id of its own: its split and position. -/
def defaultId (split : Split) (position : Nat) : String := split.name ++ "-" ++ toString position

def resolvedId (t : Task) (split : Split) (position : Nat) : String :=
  t.id.getD (defaultId split position)

/-- Checks the actions from the given position on. -/
def checkActions (catalog : Tool.Catalog) (strict : Bool) :
    Nat → List Action → Except TaskFlaw Unit
  | _, [] => .ok ()
  | position, a :: as =>
    match catalog.check strict a with
    | .error flaw => .error (.action position flaw)
    | .ok () => checkActions catalog strict (position + 1) as

/-- Checks that a task can be used as a training example. -/
def check (catalog : Tool.Catalog) (strict : Bool) (t : Task) : Except TaskFlaw Unit :=
  if Text.isBlank t.userId then .error .noUser
  else if Text.isBlank t.instruction then .error .noInstruction
  else if t.actions.isEmpty then .error .noActions
  else checkActions catalog strict 0 t.actions

def toJson (t : Task) : Json.Value :=
  .object (
    (match t.id with
      | some id => [("id", .string id)]
      | none => []) ++
    [("user_id", .string t.userId), ("instruction", .string t.instruction),
      ("actions", .array (t.actions.map Action.toJson))] ++
    (if t.outputs.isEmpty then [] else [("outputs", .array (t.outputs.map .string))]))

def shape (n : Nat) : Json.Shape [Option String, String, String, List Action, List String] :=
  .cons (.defaulted "id" none (Json.Reader.optional Json.Reader.text n))
    (.cons (.required "user_id" (Json.Reader.text n))
      (.cons (.required "instruction" (Json.Reader.text n))
        (.cons (.required "actions" (Json.Reader.list Action.reader n))
          (.cons (.defaulted "outputs" [] (Json.Reader.list Json.Reader.text n)) .nil))))

def reader : Json.Reader Task := fun n d => do
  let (id, userId, instruction, actions, outputs, ()) ← Json.Shape.reader shape "Task" n d
  pure ⟨id, userId, instruction, actions, outputs⟩

end Task

end TaskCorpus
