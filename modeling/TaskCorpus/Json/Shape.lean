import TaskCorpus.Json.Reading

/-!
# Records

A `Shape` lists the fields of a record with the readers of their values. A record is read from an
object, whose fields may come in any order and among others that are passed over, or from a list
of its values in the order of the shape.
-/

namespace TaskCorpus.Json

/-- A field of a record. -/
structure Field (α : Type) where
  name : String
  read : Document → Except Failure α
  /-- The value when an object leaves the field out. -/
  absent : Option α
  /-- The value when a list ends before the field. -/
  short : Option α

namespace Field

def required {α : Type} (name : String) (read : Document → Except Failure α) : Field α :=
  ⟨name, read, none, none⟩

def defaulted {α : Type} (name : String) (value : α) (read : Document → Except Failure α) :
    Field α := ⟨name, read, some value, some value⟩

/-- A field that an object, but not a list, may leave out. -/
def optional {α : Type} (name : String) (read : Document → Except Failure (Option α)) :
    Field (Option α) := ⟨name, read, some none, none⟩

end Field

inductive Shape : List Type → Type 1 where
  | nil : Shape []
  | cons {α : Type} {αs : List Type} (field : Field α) (rest : Shape αs) : Shape (α :: αs)

/-- One value of each type. -/
def Tuple : List Type → Type
  | [] => Unit
  | α :: αs => α × Tuple αs

/-- The values of a record that have been read. -/
def Slots : List Type → Type
  | [] => Unit
  | α :: αs => Option α × Slots αs

namespace Shape

def size {αs : List Type} : Shape αs → Nat
  | nil => 0
  | cons _ rest => rest.size + 1

/-- Nothing has been read. -/
def blank {αs : List Type} : Shape αs → Slots αs
  | nil => ()
  | cons _ rest => (none, rest.blank)

/-- Reads the field of a name, and passes over it if the record does not have it. -/
def offer {αs : List Type} (name : String) (d : Document) :
    Shape αs → Slots αs → Except Failure (Slots αs)
  | nil, s =>
    match d.break? with
    | some b => .error (.malformed b.skipped)
    | none => .ok s
  | cons f rest, (slot, slots) =>
    if f.name = name then
      match slot with
      | some _ => .error (.repeatedField name)
      | none => do
        let a ← f.read d
        pure (some a, slots)
    else do
      let slots ← rest.offer name d slots
      pure (slot, slots)

/-- Fills what has not been read. -/
def fill {αs : List Type} : Shape αs → Slots αs → Except Failure (Tuple αs)
  | nil, _ => .ok ()
  | cons f rest, (slot, slots) => do
    let a ← match slot with
      | some a => pure a
      | none =>
        match f.absent with
        | some a => pure a
        | none => throw (.missingField f.name)
    let as ← rest.fill slots
    pure (a, as)

/-- Reads the fields of an object. -/
def fromFields {αs : List Type} (shape : Shape αs) :
    Slots αs → List (Label × Document) → Option Break → Except Failure (Tuple αs)
  | s, [], none => shape.fill s
  | _, [], some b => .error (.malformed b.read)
  | s, (.text k, d) :: fs, cut => do
    let s ← shape.offer k d s
    fromFields shape s fs cut
  | _, (.unpaired f, _) :: _, _ => .error (.malformed f)

/-- What is wrong after the last item that a record has. -/
def afterLast : List Document → Option Break → Option Flaw
  | [], none => none
  | [], some ⟨.endInList, _⟩ => some .endInList
  | [], some ⟨.trailingComma, _⟩ => some .trailingComma
  | _, _ => some .trailing

/-- Reads the items of a list. `wanted` describes the record and `n` counts the items read. -/
def fromItems {αs : List Type} (wanted : String) (n : Nat) :
    Shape αs → List Document → Option Break → Except Failure (Tuple αs)
  | nil, ds, cut =>
    match afterLast ds cut with
    | none => .ok ()
    | some f => .error (.malformed f)
  | cons f rest, d :: ds, cut => do
    let a ← f.read d
    let as ← fromItems wanted (n + 1) rest ds cut
    pure (a, as)
  | cons _ _, [], some b => .error (.malformed b.read)
  | cons f rest, [], none =>
    match f.short with
    | some a => do
      let as ← fromItems wanted (n + 1) rest [] none
      pure (a, as)
    | none => .error (.wrongLength n wanted)

/-- The number of the values of a record, in words. -/
def elements (n : Nat) : String := toString n ++ (if n = 1 then " element" else " elements")

/-- Reads a record below the outermost level. -/
def inner {αs : List Type} (shape : Shape αs) (name : String) : Document → Except Failure (Tuple αs)
  | .array ds cut =>
    shape.fromItems ("struct " ++ name ++ " with " ++ elements shape.size) 0 ds cut
  | .object fs cut => shape.fromFields shape.blank fs cut
  | d => .error (d.mismatch ("struct " ++ name))

/-- The failure of a record where no level may be entered. -/
def tooDeep (name : String) : Document → Failure
  | .array _ _ => .malformed .depth
  | .object _ _ => .malformed .depth
  | d => d.mismatch ("struct " ++ name)

/-- Reads a record whose shape depends on the levels that its parts may enter. -/
def reader {αs : List Type} (shape : Nat → Shape αs) (name : String) : Reader (Tuple αs)
  | 0, d => .error (tooDeep name d)
  | n + 1, d => (shape n).inner name d

/-- Reads a list of exactly two naturals. -/
def pair (n : Nat) : Document → Except Failure (Nat × Nat)
  | .array ds cut => do
    let item := Reader.natural "usize" n
    let two : Shape [Nat, Nat] := .cons (.required "start" item) (.cons (.required "end" item) .nil)
    let (a, b, ()) ← two.fromItems "an array of length 2" 0 ds cut
    pure (a, b)
  | d => .error (d.mismatch "an array of length 2")

end Shape

/-- A list of exactly two naturals. -/
def Reader.pair : Reader (Nat × Nat)
  | 0, .array _ _ => .error (.malformed .depth)
  | n, d => Shape.pair n d

end TaskCorpus.Json
