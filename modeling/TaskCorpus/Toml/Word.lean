import TaskCorpus.Toml.Value

/-!
# Values without quotes

Numbers, truth values, dates and times. Each of them is one word, a date and a time with a space
between them included.
-/

namespace TaskCorpus.Toml

/-- Digits of a base, with single underscores between them, as their value and number. -/
def grouped? (base : Nat) (cs : List Char) : Option (Nat × Nat) :=
  let ds := cs.filter (· ≠ '_')
  if cs.head? != some '_' && cs.getLast? != some '_' && !(cs.zip (cs.drop 1)).contains ('_', '_') &&
      !ds.isEmpty && ds.all (Text.isDigitOf base) then
    some (Text.valueOf base ds, ds.length)
  else none

/-- A text without its sign, and whether the sign is a minus. -/
def unsigned : List Char → Bool × List Char
  | '+' :: cs => (false, cs)
  | '-' :: cs => (true, cs)
  | cs => (false, cs)

/-- A decimal natural, where only zero itself starts with a zero. -/
def decimal? : List Char → Option Nat
  | ['0'] => some 0
  | '0' :: _ => none
  | cs => (grouped? 10 cs).map (·.1)

/-- A natural below `2 ^ 63` in another base. -/
def based? (base : Nat) (cs : List Char) : Option Int := do
  let (n, _) ← grouped? base cs
  if n < Nat.pow 2 63 then some (n : Int) else none

/-- An integer of 64 bits. -/
def integer? : List Char → Option Int
  | '0' :: 'x' :: cs => based? 16 cs
  | '0' :: 'o' :: cs => based? 8 cs
  | '0' :: 'b' :: cs => based? 2 cs
  | cs => do
    let (negative, ds) := unsigned cs
    let n ← decimal? ds
    if negative then if n ≤ Nat.pow 2 63 then some (-(n : Int)) else none
    else if n < Nat.pow 2 63 then some (n : Int) else none

/-- The exponent after its mark. -/
def exponent? (cs : List Char) : Option Int := do
  let (negative, ds) := unsigned cs
  let (n, _) ← grouped? 10 ds
  some (if negative then -(n : Int) else n)

/-- A text cut at the first character of a kind, without that character. -/
def cutAt? (p : Char → Bool) (cs : List Char) : Option (List Char × List Char) :=
  match cs.dropWhile (!p ·) with
  | [] => none
  | _ :: rest => some (cs.takeWhile (!p ·), rest)

/-- A number with places, an exponent or both. -/
def fraction? (negative : Bool) (cs : List Char) : Option Decimal.Binary64 := do
  let (mantissa, mark) :=
    match cutAt? (fun c => c == 'e' || c == 'E') cs with
    | some (m, e) => (m, some e)
    | none => (cs, none)
  let e ← match mark with
    | some e => exponent? e
    | none => some 0
  match cutAt? (· == '.') mantissa with
  | some (whole, places) => do
    let n ← decimal? whole
    let (p, width) ← grouped? 10 places
    some (.ofDecimal negative (n * Nat.pow 10 width + p) (e - width))
  | none =>
    if mark.isNone then none
    else do some (.ofDecimal negative (← decimal? mantissa) e)

/-- A binary64 number. A positive number that is too large is none. -/
def float? (cs : List Char) : Option Decimal.Binary64 :=
  let (negative, body) := unsigned cs
  if body = ['i', 'n', 'f'] then some (.infinity negative)
  else if body = ['n', 'a', 'n'] then some .nan
  else
    match fraction? negative body with
    | some x => if x.isInfinite && !negative then none else some x
    | none => none

/-- The value of a word. -/
def wordValue? (cs : List Char) : Option Value :=
  if cs = ['t', 'r', 'u', 'e'] then some (.boolean true)
  else if cs = ['f', 'a', 'l', 's', 'e'] then some (.boolean false)
  else
    match Datetime.read? cs, integer? cs, float? cs with
    | some d, _, _ => some (.datetime d)
    | none, some n, _ => some (.integer n)
    | none, none, x => x.map .float

/-- Characters of words. -/
def isWordChar (c : Char) : Bool :=
  c.isAlphanum || c == '+' || c == '-' || c == '.' || c == '_' || c == ':'

/-- A word and what follows it. A space between a date and a digit does not end it. -/
def takeWord (cs : List Char) : List Char × List Char :=
  let word := cs.takeWhile isWordChar
  match (Date.read? word).map (·.2), cs.dropWhile isWordChar with
  | some [], ' ' :: c :: rest =>
    if c.isDigit then
      (word ++ ' ' :: (c :: rest).takeWhile isWordChar, (c :: rest).dropWhile isWordChar)
    else (word, ' ' :: c :: rest)
  | _, rest => (word, rest)

end TaskCorpus.Toml
