import TaskCorpus.KeyMap
import TaskCorpus.Toml.Reading

/-!
# Typed values from TOML

A record is read from a table, whose other entries are passed over, or from a list of its values
in the order of its fields, where values at the end may be left out and further ones are passed
over. A date or time is read like a table with one entry of a reserved name.
-/

namespace TaskCorpus.Toml

/-- The name of the only entry of a date or time that is read as a table. -/
def datetimeKey : String := "$__toml_private_datetime"

namespace Value

def string? : Value → Option String
  | .string s => some s
  | _ => none

def boolean? : Value → Option Bool
  | .boolean b => some b
  | _ => none

def natural? : Value → Option Nat
  | .integer n => if n < 0 then none else some n.toNat
  | _ => none

def list? {α : Type} (read : Value → Option α) : Value → Option (List α)
  | .array vs => vs.mapM read
  | _ => none

/-- A list that starts with two naturals. -/
def pair? : Value → Option (Nat × Nat)
  | .array (a :: b :: _) => do some (← a.natural?, ← b.natural?)
  | _ => none

def entries? : Value → Option (List (String × Value))
  | .table es => some es
  | .datetime d => some [(datetimeKey, .string d.text)]
  | _ => none

def map? {α : Type} (read : Value → Option α) (v : Value) : Option (KeyMap String α) := do
  let es ← v.entries?
  let pairs ← es.mapM fun e => (read e.2).map fun a => (e.1, a)
  some (KeyMap.ofList pairs)

/-- Whether a value is a list or table without contents. -/
def isVoid : Value → Bool
  | .array vs => vs.isEmpty
  | .table es => es.isEmpty
  | _ => false

/-- One of a few names, as a string or as a table whose only entry has that name and is void. -/
def variant? {α : Type} (find : String → Option α) : Value → Option α
  | .string s => find s
  | .table [(k, v)] => if v.isVoid then find k else none
  | _ => none

end Value

/-- The values of a record by position and name. -/
structure Fields where
  get? : Nat → String → Option Value

namespace Fields

def ofTable (es : List (String × Value)) : Fields := ⟨fun _ name => findEntry name es⟩

def ofValue? : Value → Option Fields
  | .table es => some (ofTable es)
  | .datetime _ => some (ofTable [])
  | .array vs => some ⟨fun position _ => vs[position]?⟩
  | _ => none

def required {α : Type} (f : Fields) (position : Nat) (name : String) (read : Value → Option α) :
    Option α := do read (← f.get? position name)

def defaulted {α : Type} (f : Fields) (position : Nat) (name : String) (value : α)
    (read : Value → Option α) : Option α :=
  match f.get? position name with
  | some v => read v
  | none => some value

/-- A field that may be left out and has no value then. -/
def optional {α : Type} (f : Fields) (position : Nat) (name : String) (read : Value → Option α) :
    Option (Option α) := f.defaulted position name none fun v => (read v).map some

end Fields

end TaskCorpus.Toml
