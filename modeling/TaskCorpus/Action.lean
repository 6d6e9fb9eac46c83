import TaskCorpus.Json.Shape

/-!
# Actions

An action is a tool call that is expected of the agent: a tool name and named arguments. A call is
its stored form, which keeps the arguments as the text of a JSON object.
-/

namespace TaskCorpus

structure Action where
  name : String
  /-- Arguments in increasing order of their names. -/
  arguments : List (String × Json.Value)
  deriving DecidableEq

/-- The stored form of an action. -/
structure Call where
  name : String
  /-- The text of the JSON object of the arguments. -/
  arguments : String
  deriving DecidableEq

namespace Action

/-- The name of the plain reply, which is no tool call. -/
def respondName : String := "respond"

def isRespond (a : Action) : Bool := a.name == respondName

def toCall (a : Action) : Call := ⟨a.name, (Json.Value.object a.arguments).compact⟩

def toJson (a : Action) : Json.Value :=
  .object [("name", .string a.name), ("kwargs", .object a.arguments)]

def shape (n : Nat) : Json.Shape [String, List (String × Json.Value)] :=
  .cons (.required "name" (Json.Reader.text n))
    (.cons (.defaulted "kwargs" [] (Json.Reader.map Json.Reader.value n)) .nil)

def reader : Json.Reader Action := fun n d => do
  let (name, arguments, ()) ← Json.Shape.reader shape "Action" n d
  pure ⟨name, arguments⟩

end Action

/-- Why a call holds no action. -/
inductive CallFlaw where
  | unreadable (failure : Json.Failure)
  /-- The text is a JSON value other than an object. -/
  | notObject (name : String) (arguments : Json.Value)
  deriving DecidableEq

namespace Call

def toAction (c : Call) : Except CallFlaw Action :=
  match Json.readText Json.Reader.value c.arguments with
  | .error e => .error (.unreadable e)
  | .ok (.object arguments) => .ok ⟨c.name, arguments⟩
  | .ok v => .error (.notObject c.name v)

def toJson (c : Call) : Json.Value :=
  .object [("name", .string c.name), ("kwargs", .string c.arguments)]

def shape (n : Nat) : Json.Shape [String, String] :=
  .cons (.required "name" (Json.Reader.text n))
    (.cons (.required "kwargs" (Json.Reader.text n)) .nil)

def reader : Json.Reader Call := fun n d => do
  let (name, arguments, ()) ← Json.Shape.reader shape "ActionCall" n d
  pure ⟨name, arguments⟩

end Call

end TaskCorpus
