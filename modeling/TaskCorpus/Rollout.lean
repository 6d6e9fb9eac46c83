import TaskCorpus.Text.Uppercase
import TaskCorpus.Tool.Catalog
import TaskCorpus.Yaml.Printer

/-!
# Rollout configurations

A rollout is told which class implements each tool and which class plays the customer. Each tool
of a catalog is bound to a class that is named after it, together with the schema that the model
sees.
-/

namespace TaskCorpus.Rollout

/-- What the configurations are made from, besides a catalog. -/
structure Settings where
  /-- The package that holds the classes of the tools. -/
  classPrefix : String
  interactionClass : String
  /-- The model that plays the customer. -/
  userModel : String
  userProvider : Option String
  deriving DecidableEq

namespace Settings

def standard : Settings where
  classPrefix := "verl.tools.tau_retail"
  interactionClass := "verl.interactions.tau_retail_interaction.TauRetailInteraction"
  userModel := "gpt-4o"
  userProvider := none

def toJson (s : Settings) : Json.Value :=
  .object [
    ("class_prefix", .string s.classPrefix), ("interaction_class", .string s.interactionClass),
    ("user_model", .string s.userModel),
    ("user_provider", match s.userProvider with
      | some p => .string p
      | none => .null)]

def shape (n : Nat) : Json.Shape [String, String, String, Option String] :=
  .cons (.defaulted "class_prefix" standard.classPrefix (Json.Reader.text n))
    (.cons (.defaulted "interaction_class" standard.interactionClass (Json.Reader.text n))
      (.cons (.defaulted "user_model" standard.userModel (Json.Reader.text n))
        (.cons (.defaulted "user_provider" standard.userProvider
          (Json.Reader.optional Json.Reader.text n)) .nil)))

def reader : Json.Reader Settings := fun n d => do
  let (classPrefix, interactionClass, userModel, userProvider, ()) ←
    Json.Shape.reader shape "ToolConfigSettings" n d
  pure ⟨classPrefix, interactionClass, userModel, userProvider⟩

end Settings

/-- A word with a capital first letter. -/
def capitalized : List Char → List Char
  | [] => []
  | c :: cs => Text.capital c ++ cs

/-- The words of a tool name, without the underscores between them. -/
def wordsFrom (done : List Char) : List Char → List (List Char)
  | [] => [done.reverse]
  | c :: cs => if c = '_' then done.reverse :: wordsFrom [] cs else wordsFrom (c :: done) cs

/-- The name of the class of a tool: each word with a capital first letter. -/
def classSuffix (tool : String) : String :=
  String.ofList ((wordsFrom [] tool.toList).flatMap capitalized)

/-- A tool with the class that implements it. -/
structure Binding where
  className : String
  schema : Tool.Schema

/-- The bindings of all tools of a catalog, in increasing order of the tool names. -/
def bindings (catalog : Tool.Catalog) (classPrefix : String) : List Binding :=
  catalog.schemas.map fun schema => ⟨classPrefix ++ "." ++ classSuffix schema.name, schema⟩

def textList (ss : List String) : Yaml.Node := .list (ss.map .text)

def parameterNode : Tool.Parameter → Yaml.Node
  | .mk kind items allowed description =>
    .map (("type", .text kind) ::
      ((match items with
        | some item => [("items", parameterNode item)]
        | none => []) ++
      (match allowed with
        | some values => [("enum", textList values)]
        | none => []) ++
      (match description with
        | some d => [("description", .text d)]
        | none => [])))

def schemaNode (s : Tool.Schema) : Yaml.Node :=
  .map [
    ("type", .text s.kind),
    ("function", .map [
      ("name", .text s.name),
      ("description", .text s.description),
      ("parameters", .map [
        ("type", .text s.argumentsKind),
        ("properties", .map (s.parameters.map fun p => (p.1, parameterNode p.2))),
        ("required", textList s.required)])])]

def Binding.toNode (b : Binding) : Yaml.Node :=
  .map [
    ("class_name", .text b.className), ("config", .map [("type", .text "native")]),
    ("tool_schema", schemaNode b.schema)]

/-- The tool configuration, as it is stored. -/
def toolDocument (bs : List Binding) : String :=
  Yaml.Node.document [("tools", .list (bs.map Binding.toNode))]

/-- The class that plays the customer, under the name that records refer to. -/
structure Interaction where
  name : String
  className : String
  /-- Options in increasing order of their names. -/
  options : List (String × String)
  deriving DecidableEq

namespace Interaction

def ofSettings (name : String) (s : Settings) : Interaction :=
  ⟨name, s.interactionClass,
    ("model", s.userModel) :: match s.userProvider with
      | some p => [("provider", p)]
      | none => []⟩

def toJson (i : Interaction) : Json.Value :=
  .object [("interaction", .array [.object [
    ("name", .string i.name), ("class_name", .string i.className),
    ("config", .object (i.options.map fun o => (o.1, .string o.2)))]])]

/-- The interaction configuration, as it is stored. -/
def document (i : Interaction) : String :=
  Yaml.Node.document [("interaction", .list [.map [
    ("name", .text i.name), ("class_name", .text i.className),
    ("config", .map (i.options.map fun o => (o.1, .text o.2)))]])]

end Interaction

end TaskCorpus.Rollout
