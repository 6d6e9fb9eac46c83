import TaskCorpus.Tool.Schema

/-!
# Tool catalogs

A catalog holds tool schemas by name and says of each tool whether it changes the database. An
expected action is checked against the schema of its tool.
-/

namespace TaskCorpus

/-- Why an action is not accepted. -/
inductive ActionFlaw where
  | unknown (action : String)
  /-- The tool only looks things up, and only changes are wanted. -/
  | forbidden (action : String)
  | missingArgument (action argument : String)
  | wrongArgument (action argument : String) (fault : Tool.Fault)
  deriving DecidableEq

namespace Tool

structure Entry where
  schema : Schema
  /-- Whether the tool changes the database. -/
  mutating : Bool

@[ext]
structure Catalog where
  tools : KeyMap String Entry
  /-- Each tool stands under its own name. -/
  keyed : ∀ name e, tools.find? name = some e → e.schema.name = name

namespace Catalog

def empty : Catalog := ⟨.empty, nofun⟩

/-- Adds a tool, in place of one of the same name. -/
def register (c : Catalog) (schema : Schema) (mutating : Bool) : Catalog where
  tools := c.tools.insert schema.name ⟨schema, mutating⟩
  keyed name e h := by
    rw [KeyMap.find?_insert] at h
    split at h
    · rename_i hname
      cases h
      exact hname
    · exact c.keyed name e h

def get? (c : Catalog) (name : String) : Option Schema := (c.tools.find? name).map (·.schema)

/-- The schemas in increasing order of their names. -/
def schemas (c : Catalog) : List Schema := c.tools.values.map (·.schema)

/-- The names of the tools that change the database. -/
def permitted (c : Catalog) : List String :=
  (c.tools.entries.filter fun e => e.2.mutating).map (·.1)

def size (c : Catalog) : Nat := c.tools.size

/-- The first required name without an argument. -/
def firstMissing? (s : Schema) (arguments : List (String × Json.Value)) : Option String :=
  s.required.find? fun name => (findEntry name arguments).isNone

/-- The first argument with a value that its parameter does not allow. -/
def firstFault? (s : Schema) (arguments : List (String × Json.Value)) : Option (String × Fault) :=
  arguments.findSome? fun (name, v) =>
    match findEntry name s.parameters with
    | some p => (p.fault? v).map fun f => (name, f)
    | none => none

/-- Checks an action. The plain reply is always accepted; with `strict`, tools that only look
things up are not. -/
def check (c : Catalog) (strict : Bool) (a : Action) : Except ActionFlaw Unit :=
  if a.isRespond then .ok ()
  else
    match c.tools.find? a.name with
    | none => .error (.unknown a.name)
    | some e =>
      if strict && !e.mutating then .error (.forbidden a.name)
      else
        match firstMissing? e.schema a.arguments with
        | some argument => .error (.missingArgument a.name argument)
        | none =>
          match firstFault? e.schema a.arguments with
          | some (argument, fault) => .error (.wrongArgument a.name argument fault)
          | none => .ok ()

end Catalog

end Tool

end TaskCorpus
