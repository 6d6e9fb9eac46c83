import TaskCorpus.Action

/-!
# Tool schemas

A tool schema describes a tool to the model: its name, a text, and the parameters of a call. The
schema of a parameter says what values an argument may have; `Parameter.fault?` finds the first
place of a value that the schema does not allow, in the order of reading.
-/

namespace TaskCorpus.Tool

/-- The schema of one parameter. Only the kinds `string` and `array` allow any value. -/
inductive Parameter where
  | mk (kind : String) (items : Option Parameter) (allowed : Option (List String))
    (description : Option String)

/-- What a schema wanted at some place of a value. -/
inductive Expectation where
  | kind (name : String)
  | oneOf (values : List String)
  deriving DecidableEq

/-- A place of a value that a schema does not allow: what was wanted, and the type found. -/
structure Fault where
  expected : Expectation
  actual : String
  deriving DecidableEq

namespace Parameter

/-- A string with a description. -/
def string (description : String) : Parameter := .mk "string" none none (some description)

/-- A list of strings with a description. -/
def stringList (description : String) : Parameter :=
  .mk "array" (some (.mk "string" none none none)) none (some description)

/-- The same parameter with a fixed set of values. -/
def oneOf (values : List String) : Parameter → Parameter
  | .mk kind items _ description => .mk kind items (some values) description

/-- The fault of a string that has to be one of `values`. -/
def choiceFault? (allowed : Option (List String)) (s : String) : Option Fault :=
  match allowed with
  | some values => if values.contains s then none else some ⟨.oneOf values, "string"⟩
  | none => none

/-- The first place of a value that the schema does not allow. -/
def fault? : Parameter → Json.Value → Option Fault
  | .mk kind items allowed _, v =>
    match v with
    | .string s => if kind = "string" then choiceFault? allowed s else some ⟨.kind kind, v.typeName⟩
    | .array vs =>
      if kind = "array" then
        match items with
        | some item => vs.findSome? item.fault?
        | none => none
      else some ⟨.kind kind, v.typeName⟩
    | v => some ⟨.kind kind, v.typeName⟩

/-- A field that is left out when there is nothing to say. -/
def given (name : String) : Option Json.Value → List (String × Json.Value)
  | some v => [(name, v)]
  | none => []

def toJson : Parameter → Json.Value
  | .mk kind items allowed description =>
    .object (("type", .string kind) ::
      (given "items" (match items with
        | some item => some item.toJson
        | none => none)
      ++ given "enum" (allowed.map fun vs => .array (vs.map .string))
      ++ given "description" (description.map .string)))

def shape (item : Json.Document → Except Json.Failure Parameter) (n : Nat) :
    Json.Shape [String, Option Parameter, Option (List String), Option String] :=
  .cons (.required "type" (Json.Reader.text n))
    (.cons (.optional "items" (Json.Reader.optional (fun _ => item) n))
      (.cons (.optional "enum" (Json.Reader.optional (Json.Reader.list Json.Reader.text) n))
        (.cons (.optional "description" (Json.Reader.optional Json.Reader.text n)) .nil)))

def reader : Json.Reader Parameter
  | 0, d => .error (Json.Shape.tooDeep "ParameterSchema" d)
  | n + 1, d => do
    let (kind, items, allowed, description, ()) ← (shape (reader n) n).inner "ParameterSchema" d
    pure (.mk kind items allowed description)

end Parameter

/-- A tool as it is described to the model. -/
structure Schema where
  /-- The kind of the entry, `function` by custom. -/
  kind : String
  name : String
  description : String
  /-- The kind of the arguments, `object` by custom. -/
  argumentsKind : String
  /-- Parameters in increasing order of their names. -/
  parameters : List (String × Parameter)
  /-- Names of the arguments that a call must have. -/
  required : List String

namespace Schema

/-- A function whose parameters are all required, in the order given. -/
def function (name description : String) (parameters : List (String × Parameter)) : Schema :=
  ⟨"function", name, description, "object", (KeyMap.ofList parameters).entries,
    parameters.map (·.1)⟩

def toJson (s : Schema) : Json.Value :=
  .object [
    ("type", .string s.kind),
    ("function", .object [
      ("name", .string s.name),
      ("description", .string s.description),
      ("parameters", .object [
        ("type", .string s.argumentsKind),
        ("properties", .object (s.parameters.map fun p => (p.1, p.2.toJson))),
        ("required", .array (s.required.map .string))])])]

def parametersShape (n : Nat) : Json.Shape [String, List (String × Parameter), List String] :=
  .cons (.required "type" (Json.Reader.text n))
    (.cons (.required "properties" (Json.Reader.map Parameter.reader n))
      (.cons (.required "required" (Json.Reader.list Json.Reader.text n)) .nil))

def functionShape (n : Nat) :
    Json.Shape [String, String, Json.Tuple [String, List (String × Parameter), List String]] :=
  .cons (.required "name" (Json.Reader.text n))
    (.cons (.required "description" (Json.Reader.text n))
      (.cons (.required "parameters"
        (Json.Shape.reader parametersShape "ParametersSchema" n)) .nil))

def shape (n : Nat) : Json.Shape [String,
    Json.Tuple [String, String, Json.Tuple [String, List (String × Parameter), List String]]] :=
  .cons (.required "type" (Json.Reader.text n))
    (.cons (.required "function" (Json.Shape.reader functionShape "FunctionSchema" n)) .nil)

def reader : Json.Reader Schema := fun n d => do
  let (kind, (name, description, (argumentsKind, parameters, required, ()), ()), ()) ←
    Json.Shape.reader shape "ToolSchema" n d
  pure ⟨kind, name, description, argumentsKind, parameters, required⟩

end Schema

end TaskCorpus.Tool
