/-!
# Blank text

The characters with the Unicode property White_Space, texts made of nothing else, and the lines
of a text.
-/

namespace TaskCorpus.Text

/-- The Unicode property White_Space. -/
def isBlankChar (c : Char) : Bool :=
  let n := c.toNat
  (9 ≤ n && n ≤ 13) || n == 0x20 || n == 0x85 || n == 0xa0 || n == 0x1680 ||
  (0x2000 ≤ n && n ≤ 0x200a) || n == 0x2028 || n == 0x2029 || n == 0x202f || n == 0x205f ||
  n == 0x3000

/-- Whether a text has no character but blanks. -/
def isBlank (s : String) : Bool := s.toList.all isBlankChar

/-- Cuts at line feeds: the pieces between them, the last one possibly empty. -/
def pieces : List Char → List (List Char)
  | [] => [[]]
  | c :: rest =>
    if c = '\n' then [] :: pieces rest
    else
      match pieces rest with
      | [] => [[c]]
      | p :: ps => (c :: p) :: ps

/-- A line without the carriage return at its end. -/
def dropReturn (line : List Char) : List Char :=
  match line.reverse with
  | '\r' :: rest => rest.reverse
  | _ => line

/-- The lines of the pieces: each piece but the last ended in a line feed. -/
def linesOf : List (List Char) → List (List Char)
  | [] => []
  | [last] => if last.isEmpty then [] else [last]
  | p :: ps => dropReturn p :: linesOf ps

/-- The lines of a text. A line ends in a line feed, with an optional carriage return before it,
and nothing follows a line feed at the end of the text. -/
def lines (s : String) : List String := (linesOf (pieces s.toList)).map String.ofList

end TaskCorpus.Text
