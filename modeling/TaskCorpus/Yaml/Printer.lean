import TaskCorpus.Yaml.Scalar

/-!
# YAML documents

A document is made of texts, lists and mappings. Lists and mappings are written in block form, one
item or entry on a line, unless they are empty. A list in a mapping is not indented further than
its key.
-/

namespace TaskCorpus.Yaml

inductive Node where
  | text (s : String)
  | list (items : List Node)
  | map (entries : List (String × Node))

/-- Ends a line, unless a literal block has ended it. -/
def endLine (cs : List Char) : List Char :=
  match cs.getLast? with
  | some c => if isBreak c then cs else cs ++ ['\n']
  | none => ['\n']

/-- A text that follows an indicator, to the end of its line. -/
def textLine (indent : Nat) (s : String) : List Char :=
  ' ' :: endLine (scalarChars (indent + 2) s)

/-- Whether a key may stand before its colon on one line. -/
def isSimpleKey (k : String) : Bool := k.utf8ByteSize ≤ 128 && !k.toList.any isBreak

namespace Node

mutual

/-- A node and the end of its line, after a key or else after the mark of an item. -/
def chars (afterKey : Bool) (indent : Nat) : Node → List Char
  | .text s => textLine indent s
  | .list items =>
    if items.isEmpty then [' ', '[', ']', '\n']
    else if afterKey then '\n' :: itemsChars true indent items
    else ' ' :: itemsChars false (indent + 2) items
  | .map entries =>
    if entries.isEmpty then [' ', '{', '}', '\n']
    else if afterKey then '\n' :: entriesChars true (indent + 2) entries
    else ' ' :: entriesChars false (indent + 2) entries

/-- Items, each with its indentation, the first only if it starts a line. -/
def itemsChars (lineStart : Bool) (indent : Nat) : List Node → List Char
  | [] => []
  | v :: vs =>
    (if lineStart then spaces indent else []) ++
      '-' :: (v.chars false indent ++ itemsChars true indent vs)

/-- Entries, each with its indentation, the first only if it starts a line. -/
def entriesChars (lineStart : Bool) (indent : Nat) : List (String × Node) → List Char
  | [] => []
  | e :: es =>
    (if lineStart then spaces indent else []) ++
      (entryChars indent e ++ entriesChars true indent es)

/-- One entry. A long key has a line of its own. -/
def entryChars (indent : Nat) : String × Node → List Char
  | (k, v) =>
    if isSimpleKey k then scalarChars (indent + 2) k ++ ':' :: v.chars true indent
    else '?' :: (textLine indent k ++ (spaces indent ++ ':' :: v.chars false indent))

end

/-- The text of a mapping that is a document. -/
def document (entries : List (String × Node)) : String :=
  if entries.isEmpty then "\x7b\x7d\n" else String.ofList (entriesChars false 0 entries)

end Node

end TaskCorpus.Yaml
