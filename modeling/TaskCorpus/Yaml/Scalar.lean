import TaskCorpus.Decimal.Binary64
import TaskCorpus.Text.Digits

/-!
# Texts in YAML

A text is written plain where that is unambiguous, between single quotes where a reader could take
the plain text for another type or for structure, between double quotes where it has characters
that need an escape, and as a literal block where it has line feeds.
-/

namespace TaskCorpus.Yaml

def isBreak (c : Char) : Bool :=
  c == '\n' || c == '\r' || c == '\u0085' || c == '\u2028' || c == '\u2029'

/-- Spaces, tabs, line breaks and the null character. -/
def isBlank (c : Char) : Bool := c == ' ' || c == '\t' || isBreak c || c == '\x00'

/-- Characters that may be written without an escape. -/
def isPrintable (c : Char) : Bool :=
  let n := c.toNat
  n == 0x0a || (0x20 ≤ n && n ≤ 0x7e) ||
    (0xa0 ≤ n && n != 0xfeff && n != 0xfffe && n != 0xffff)

/-! ### Texts that read as another type -/

def nullWords : List String := ["", "null", "Null", "NULL", "~"]

def booleanWords : List String := ["true", "True", "TRUE", "false", "False", "FALSE"]

/-- Texts of the numbers that are no digits. -/
def specialWords : List String :=
  (["", "+", "-"].flatMap fun sign => [".inf", ".Inf", ".INF"].map (sign ++ ·)) ++
    [".nan", ".NaN", ".NAN"]

/-- A text without its sign, and whether the sign is a minus. -/
def unsigned : List Char → Bool × List Char
  | '+' :: cs => (false, cs)
  | '-' :: cs => (true, cs)
  | cs => (false, cs)

/-- Whether digits of a base are an integer of 128 bits. -/
def isWide (base : Nat) (negative : Bool) (cs : List Char) : Bool :=
  !cs.isEmpty && cs.all (Text.isDigitOf base) &&
    decide (Text.valueOf base cs < if negative then Nat.pow 2 127 + 1 else Nat.pow 2 128)

/-- Whether a text is an integer of a base other than ten. -/
def isBased (cs : List Char) : Bool :=
  match unsigned cs with
  | (negative, '0' :: 'x' :: ds) => isWide 16 negative ds
  | (negative, '0' :: 'o' :: ds) => isWide 8 negative ds
  | (negative, '0' :: 'b' :: ds) => isWide 2 negative ds
  | _ => false

/-- The exponent after a mantissa. -/
def exponent? : List Char → Option Int
  | [] => some 0
  | c :: cs =>
    if c = 'e' ∨ c = 'E' then
      let (negative, ds) := unsigned cs
      if !ds.isEmpty && ds.all Char.isDigit then
        some (if negative then -(Text.valueOf 10 ds : Int) else Text.valueOf 10 ds)
      else none
    else none

/-- Whether a text is a decimal number that is not too large. -/
def isDecimal (cs : List Char) : Bool :=
  let body := (unsigned cs).2
  let whole := body.takeWhile Char.isDigit
  let rest := body.dropWhile Char.isDigit
  let (places, mark) :=
    match rest with
    | '.' :: more => (more.takeWhile Char.isDigit, more.dropWhile Char.isDigit)
    | more => ([], more)
  let digits := whole ++ places
  match exponent? mark with
  | some e =>
    !digits.isEmpty &&
      !(Decimal.Binary64.ofDecimal false (Text.valueOf 10 digits) (e - places.length)).isInfinite
  | none => false

/-- Digits after a leading zero, a number to some readers and a text to others. -/
def isZeroLed (cs : List Char) : Bool :=
  match (unsigned cs).2 with
  | '0' :: c :: ds => (c :: ds).all Char.isDigit
  | _ => false

/-- Whether a plain text would be read as something else than a text. -/
def readsOtherwise (s : String) : Bool :=
  let cs := s.toList
  nullWords.contains s || booleanWords.contains s || specialWords.contains s ||
    isBased cs || isDecimal cs || isZeroLed cs

/-! ### Ways of writing -/

/-- Whether two neighbours in a text satisfy a condition. -/
def anyPair (p : Char → Char → Bool) : List Char → Bool
  | [] => false
  | [_] => false
  | c :: d :: cs => p c d || anyPair p (d :: cs)

def startsBlank : List Char → Bool
  | [] => true
  | c :: _ => isBlank c

/-- Characters that mean structure at the start of a text. -/
def leadingMarks : List Char :=
  ['#', ',', '[', ']', '{', '}', '&', '*', '!', '|', '>', '\'', '"', '%', '@', '`']

/-- Whether a text starts with structure. -/
def startsMarked : List Char → Bool
  | '-' :: '-' :: '-' :: _ => true
  | '.' :: '.' :: '.' :: _ => true
  | '?' :: cs => startsBlank cs
  | '-' :: cs => startsBlank cs
  | c :: _ => leadingMarks.contains c
  | [] => false

/-- Whether some colon ends a key. -/
def hasKeyMark : List Char → Bool
  | [] => false
  | c :: cs => (c == ':' && startsBlank cs) || hasKeyMark cs

/-- Whether a comment would start inside a text. -/
def hasComment : List Char → Bool := anyPair fun c d => isBlank c && d == '#'

def hasEdgeSpace (cs : List Char) : Bool := cs.head? == some ' ' || cs.getLast? == some ' '

/-- Whether a space stands before a line break. -/
def spaceBeforeBreak : List Char → Bool := anyPair fun c d => c == ' ' && isBreak d

/-- Whether a space stands after a line break. -/
def spaceAfterBreak : List Char → Bool := anyPair fun c d => isBreak c && d == ' '

def plainAllowed (cs : List Char) : Bool :=
  !startsMarked cs && !hasKeyMark cs && !hasComment cs && !hasEdgeSpace cs &&
    cs.all fun c => isPrintable c && !isBreak c

def singleAllowed (cs : List Char) : Bool :=
  cs.all isPrintable && !spaceBeforeBreak cs && !spaceAfterBreak cs

def literalAllowed (cs : List Char) : Bool :=
  cs.all isPrintable && !spaceBeforeBreak cs && cs.getLast? != some ' '

inductive Style where
  | plain
  | single
  | double
  | literal
  deriving DecidableEq

def styleOf (s : String) : Style :=
  let cs := s.toList
  if cs.contains '\n' then if literalAllowed cs then .literal else .double
  else if !readsOtherwise s && plainAllowed cs then .plain
  else if singleAllowed cs then .single
  else .double

/-- The digits of a number in capital hexadecimal, with leading zeros. -/
def hexDigits (width n : Nat) : List Char :=
  let ds := (Nat.toDigits 16 n).map Char.toUpper
  List.replicate (width - ds.length) '0' ++ ds

/-- One character between double quotes. -/
def escape (c : Char) : List Char :=
  if isPrintable c && !isBreak c && c != '"' && c != '\\' then [c]
  else
    match c with
    | '\x00' => ['\\', '0']
    | '\x07' => ['\\', 'a']
    | '\x08' => ['\\', 'b']
    | '\t' => ['\\', 't']
    | '\n' => ['\\', 'n']
    | '\x0b' => ['\\', 'v']
    | '\x0c' => ['\\', 'f']
    | '\r' => ['\\', 'r']
    | '\x1b' => ['\\', 'e']
    | '"' => ['\\', '"']
    | '\\' => ['\\', '\\']
    | '\u0085' => ['\\', 'N']
    | '\u2028' => ['\\', 'L']
    | '\u2029' => ['\\', 'P']
    | c =>
      if c.toNat ≤ 0xff then '\\' :: 'x' :: hexDigits 2 c.toNat
      else if c.toNat ≤ 0xffff then '\\' :: 'u' :: hexDigits 4 c.toNat
      else '\\' :: 'U' :: hexDigits 8 c.toNat

def spaces (n : Nat) : List Char := List.replicate n ' '

/-- The text between single quotes: a quote is written twice, and a line is indented. -/
def singleBody (indent : Nat) (lineStart : Bool) : List Char → List Char
  | [] => if lineStart then spaces indent else []
  | c :: cs =>
    if isBreak c then c :: singleBody indent true cs
    else
      (if lineStart then spaces indent else []) ++
        (if c = '\'' then ['\'', '\''] else [c]) ++ singleBody indent false cs

/-- The lines of a literal block. Empty lines are not indented. -/
def literalBody (indent : Nat) (lineStart : Bool) : List Char → List Char
  | [] => []
  | c :: cs =>
    if isBreak c then c :: literalBody indent true cs
    else (if lineStart then spaces indent else []) ++ c :: literalBody indent false cs

/-- The indentation has to be told where the first line does not show it. -/
def indentHint : List Char → List Char
  | [] => []
  | c :: _ => if c = ' ' ∨ isBreak c then ['2'] else []

/-- How many line breaks at the end of a block count: none, one or all. -/
def endHint (cs : List Char) : List Char :=
  match cs.reverse with
  | [] => ['-']
  | [c] => if isBreak c then ['+'] else ['-']
  | c :: d :: _ => if isBreak c then if isBreak d then ['+'] else [] else ['-']

/-- A text in a style, with the indentation of its further lines. -/
def writeText (indent : Nat) (style : Style) (cs : List Char) : List Char :=
  match style with
  | .plain => cs
  | .single => '\'' :: (singleBody indent false cs ++ ['\''])
  | .double => '"' :: (cs.flatMap escape ++ ['"'])
  | .literal => '|' :: (indentHint cs ++ endHint cs ++ '\n' :: literalBody indent true cs)

/-- A text as it is written. -/
def scalarChars (indent : Nat) (s : String) : List Char := writeText indent (styleOf s) s.toList

end TaskCorpus.Yaml
