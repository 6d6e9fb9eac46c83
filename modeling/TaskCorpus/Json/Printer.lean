import TaskCorpus.Decimal.Layout
import TaskCorpus.Json.Value

/-!
# Written JSON

`Value.compact` writes a value without blanks, `Value.pretty` with one item or field on a line
and two spaces of indentation for each level. Only the quote, the backslash and the control
characters are escaped.
-/

namespace TaskCorpus.Json

/-- Numbers are positional from `0.00001` to below `10 ^ 16`, and carry the sign of an exponent. -/
def numberLayout : Decimal.Layout := ⟨-4, 16, true, .toEven⟩

def Number.chars : Number → List Char
  | .integer n => Decimal.Layout.integer n
  | .float x => numberLayout.render x

/-- The digit of a number below sixteen. -/
def hexDigit (n : Nat) : Char := Nat.digitChar n

/-- One character inside a string. -/
def escape (c : Char) : List Char :=
  if c = '"' then ['\\', '"']
  else if c = '\\' then ['\\', '\\']
  else if c = '\n' then ['\\', 'n']
  else if c = '\r' then ['\\', 'r']
  else if c = '\t' then ['\\', 't']
  else if c = '\x08' then ['\\', 'b']
  else if c = '\x0c' then ['\\', 'f']
  else if c.toNat < 0x20 then
    ['\\', 'u', '0', '0', hexDigit (c.toNat / 16), hexDigit (c.toNat % 16)]
  else [c]

/-- A string between quotes. -/
def stringChars (s : String) : List Char := '"' :: (s.toList.flatMap escape ++ ['"'])

namespace Value

mutual

def chars : Value → List Char
  | .null => ['n', 'u', 'l', 'l']
  | .boolean true => ['t', 'r', 'u', 'e']
  | .boolean false => ['f', 'a', 'l', 's', 'e']
  | .number n => n.chars
  | .string s => stringChars s
  | .array items => '[' :: (itemsChars items ++ [']'])
  | .object fields => '{' :: (fieldsChars fields ++ ['}'])

/-- Items with commas between them. -/
def itemsChars : List Value → List Char
  | [] => []
  | [v] => v.chars
  | v :: w :: vs => v.chars ++ ',' :: itemsChars (w :: vs)

/-- Fields with commas between them. -/
def fieldsChars : List (String × Value) → List Char
  | [] => []
  | [(k, v)] => stringChars k ++ ':' :: v.chars
  | (k, v) :: f :: fs => stringChars k ++ ':' :: (v.chars ++ ',' :: fieldsChars (f :: fs))

end

/-- The text without blanks. -/
def compact (v : Value) : String := String.ofList v.chars

/-- A line break and the indentation of a level. -/
def lineBreak (level : Nat) : List Char := '\n' :: List.replicate (2 * level) ' '

mutual

def prettyChars (level : Nat) : Value → List Char
  | .array [] => ['[', ']']
  | .array (v :: vs) => '[' :: (prettyItems (level + 1) (v :: vs) ++ (lineBreak level ++ [']']))
  | .object [] => ['{', '}']
  | .object (f :: fs) => '{' :: (prettyFields (level + 1) (f :: fs) ++ (lineBreak level ++ ['}']))
  | .null => ['n', 'u', 'l', 'l']
  | .boolean true => ['t', 'r', 'u', 'e']
  | .boolean false => ['f', 'a', 'l', 's', 'e']
  | .number n => n.chars
  | .string s => stringChars s

def prettyItems (level : Nat) : List Value → List Char
  | [] => []
  | [v] => lineBreak level ++ prettyChars level v
  | v :: w :: vs => lineBreak level ++ (prettyChars level v ++ ',' :: prettyItems level (w :: vs))

def prettyFields (level : Nat) : List (String × Value) → List Char
  | [] => []
  | [(k, v)] => lineBreak level ++ (stringChars k ++ ':' :: ' ' :: prettyChars level v)
  | (k, v) :: f :: fs =>
    lineBreak level ++
      (stringChars k ++ ':' :: ' ' :: (prettyChars level v ++ ',' :: prettyFields level (f :: fs)))

end

/-- The text with one item or field on a line. -/
def pretty (v : Value) : String := String.ofList (v.prettyChars 0)

end Value

end TaskCorpus.Json
