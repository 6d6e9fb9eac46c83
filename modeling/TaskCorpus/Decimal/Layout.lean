import TaskCorpus.Decimal.Shortest

/-!
# How a number is laid out

The digits of a number come from `shortest`; a `Layout` holds the decisions that a text format
makes about them: which places of the decimal point are written positionally, whether a positive
exponent carries its sign, and how ties are broken. Every layout writes at least one digit on each
side of a positional point.
-/

namespace TaskCorpus.Decimal

/-- Decisions of a text format about written numbers. -/
structure Layout where
  /-- The least place of the point that is written positionally. -/
  least : Int
  /-- The greatest place of the point that is written positionally. -/
  greatest : Int
  /-- Whether a positive exponent is written with `+`. -/
  plusSign : Bool
  /-- Which of two equally near shortest fractions is written. -/
  tie : Tie

namespace Layout

/-- `0.00ddd`, `dd.ddd` or `ddd00.0`, according to the place of the point. -/
def positional (f : Fraction) : List Char :=
  if f.point ≤ 0 then '0' :: '.' :: (List.replicate (-f.point).toNat '0' ++ f.digits)
  else
    let n := f.point.toNat
    if f.digits.length ≤ n then
      f.digits ++ List.replicate (n - f.digits.length) '0' ++ ['.', '0']
    else f.digits.take n ++ '.' :: f.digits.drop n

/-- The text of an integer. -/
def integer (n : Int) : List Char :=
  if n < 0 then '-' :: digitsOf n.natAbs else digitsOf n.natAbs

/-- `d.ddd` with its exponent, without the point when there is one digit. -/
def scientific (l : Layout) (f : Fraction) : List Char :=
  let e := f.point - 1
  let mark := 'e' :: ((if l.plusSign ∧ 0 ≤ e then ['+'] else []) ++ integer e)
  match f.digits with
  | [] => '0' :: mark
  | [d] => d :: mark
  | d :: rest => d :: '.' :: (rest ++ mark)

/-- The text of a positive fraction. -/
def fraction (l : Layout) (f : Fraction) : List Char :=
  if l.least ≤ f.point ∧ f.point ≤ l.greatest then positional f else l.scientific f

/-- The text of a word. -/
def render (l : Layout) (x : Binary64) : List Char :=
  if x.isNaN then ['N', 'a', 'N']
  else
    let body :=
      if x.isInfinite then ['i', 'n', 'f']
      else if x.significand = 0 then ['0', '.', '0']
      else l.fraction (shortest l.tie x)
    if x.negative then '-' :: body else body

end Layout

end TaskCorpus.Decimal
