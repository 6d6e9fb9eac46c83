import TaskCorpus.Text.Invisible

/-!
# Quoted text in messages

A text that a message quotes stands between double quotes, with the quote, the backslash and the
usual controls written as escapes, and other characters that cannot be seen written by their code
point. A list of quoted texts stands between brackets.
-/

namespace TaskCorpus.Text

/-- One character of a quoted text. -/
def quotedChar (c : Char) : List Char :=
  if c = '"' then ['\\', '"']
  else if c = '\\' then ['\\', '\\']
  else if c = '\n' then ['\\', 'n']
  else if c = '\r' then ['\\', 'r']
  else if c = '\t' then ['\\', 't']
  else if c = '\x00' then ['\\', '0']
  else if c.toNat < 0x20 || isInvisible c then
    ['\\', 'u', '{'] ++ Nat.toDigits 16 c.toNat ++ ['}']
  else [c]

/-- A text between double quotes. -/
def quoted (s : String) : String := String.ofList ('"' :: (s.toList.flatMap quotedChar ++ ['"']))

/-- Quoted texts between brackets. -/
def quotedList (ss : List String) : String :=
  "[" ++ String.intercalate ", " (ss.map quoted) ++ "]"

end TaskCorpus.Text
