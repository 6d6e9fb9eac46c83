import TaskCorpus.Json.Failure

/-!
# Reading typed values from documents

A reader takes the number of levels of lists and objects that it may still enter, and a document.
It meets the parts of the document in the order of the text and stops at the first fault.
-/

namespace TaskCorpus.Json

/-- A reader of `α`, for a number of levels that may still be entered. -/
abbrev Reader (α : Type) := Nat → Document → Except Failure α

/-- A text may be nested this deep where its values are read. -/
def levels : Nat := 127

/-- Reads a text that is one value. -/
def readText {α : Type} (read : Reader α) (text : String) : Except Failure α := do
  let (d, whole) := Document.ofText text
  let a ← read levels d
  if whole then pure a else throw (.malformed .trailing)

namespace Reader

def string (wanted : String) : Reader String
  | _, .string s => .ok s
  | _, d => .error (d.mismatch wanted)

def text : Reader String := string "a string"

def boolean : Reader Bool
  | _, .boolean b => .ok b
  | _, d => .error (d.mismatch "a boolean")

/-- A natural below `2 ^ 64`, which every written natural that is an integer is. -/
def natural (wanted : String) : Reader Nat
  | _, .number (some (.integer n)) =>
    if n < 0 then .error (.wrongValue n wanted) else .ok n.toNat
  | _, d => .error (d.mismatch wanted)

/-- `null` for nothing. -/
def optional {α : Type} (read : Reader α) : Reader (Option α)
  | _, .null => .ok none
  | n, d => some <$> read n d

/-- The items of a list, which must not break off after the last of them. -/
def items {α : Type} (read : Document → Except Failure α) :
    List Document → Option Break → Except Failure (List α)
  | [], none => .ok []
  | [], some b => .error (.malformed b.read)
  | d :: ds, cut => do
    let a ← read d
    let as ← items read ds cut
    pure (a :: as)

def list {α : Type} (read : Reader α) : Reader (List α)
  | 0, .array _ _ => .error (.malformed .depth)
  | n + 1, .array ds cut => items (read n) ds cut
  | _, d => .error (d.mismatch "a sequence")

/-- The fields of an object in increasing order of their names; of several fields of one name the
last counts. -/
def entries {α : Type} (read : Document → Except Failure α) :
    List (String × α) → List (Label × Document) → Option Break → Except Failure (List (String × α))
  | es, [], none => .ok es
  | _, [], some b => .error (.malformed b.read)
  | es, (.text k, d) :: fs, cut => do
    let a ← read d
    entries read (setEntry k a es) fs cut
  | _, (.unpaired f, _) :: _, _ => .error (.malformed f)

def map {α : Type} (read : Reader α) : Reader (List (String × α))
  | 0, .object _ _ => .error (.malformed .depth)
  | n + 1, .object fs cut => entries (read n) [] fs cut
  | _, d => .error (d.mismatch "a map")

/-- Any value. -/
def value : Reader Value
  | _, .null => .ok .null
  | _, .boolean b => .ok (.boolean b)
  | _, .number (some n) => .ok (.number n)
  | _, .number none => .error (.malformed .outOfRange)
  | _, .string s => .ok (.string s)
  | _, .unpaired f => .error (.malformed f)
  | _, .broken b => .error (.malformed b.read)
  | 0, .array _ _ => .error (.malformed .depth)
  | 0, .object _ _ => .error (.malformed .depth)
  | n + 1, .array ds cut => .array <$> items (value n) ds cut
  | n + 1, .object fs cut => .object <$> entries (value n) [] fs cut

/-- One of a few names, written as a string or as an object whose one field has that name and the
value `null`. -/
def variant {α : Type} (find : String → Option α) (known : List String) : Reader α
  | _, .string s => pick s
  | _, .unpaired f => .error (.malformed f)
  | _, .broken b => .error (.malformed b.read)
  | 0, .object _ _ => .error (.malformed .depth)
  | _ + 1, .object [] cut => .error (.malformed (cut.elim .value (·.read)))
  | _ + 1, .object ((.unpaired f, _) :: _) _ => .error (.malformed f)
  | _ + 1, .object ((.text s, d) :: fs) cut => do
    let a ← pick s
    match d with
    | .null =>
      match fs, cut with
      | [], none => pure a
      | [], some b => throw (.malformed (if b.read = .endInObject then .endInObject else .value))
      | _ :: _, _ => throw (.malformed .value)
    | d => throw (d.mismatch "unit")
  | _, _ => .error (.malformed .value)
where
  pick (s : String) : Except Failure α :=
    match find s with
    | some a => .ok a
    | none => .error (.unknownVariant s known)

end Reader

end TaskCorpus.Json
