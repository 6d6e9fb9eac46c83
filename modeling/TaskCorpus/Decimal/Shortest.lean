import TaskCorpus.Decimal.Binary64

/-!
# The shortest decimal that reads back

The reals that round to a given finite word form an interval, with its ends included when the
significand is even. `shortest` looks at decimal grids of 1, 2, … digits and takes the first grid
that has a point in the interval; of two points it takes the nearer, and of two equally near ones
the one that a `Tie` rule picks. The answer is a natural `digits` and the place `point` of the
decimal point: the value is `0.digits * 10 ^ point`.
-/

namespace TaskCorpus.Decimal

/-- What is done with a value halfway between two points of a grid. -/
inductive Tie where
  /-- The point with an even last digit. -/
  | toEven
  /-- The point above. -/
  | up
  deriving DecidableEq

/-- Whether the point above `below` is taken in a tie. -/
def Tie.takesAbove : Tie → (below : Nat) → Bool
  | .toEven, below => below % 2 == 1
  | .up, _ => true

/-- A positive decimal fraction `0.digits * 10 ^ point`. -/
structure Fraction where
  digits : List Char
  point : Int
  deriving DecidableEq

/-- The decimal digits of a natural, most significant first. -/
def digitsOf (n : Nat) : List Char := Nat.toDigits 10 n

/-- A power of ten with an integer exponent, as a ratio of naturals. -/
def tenPow (e : Int) : Nat × Nat := (Nat.pow 10 e.toNat, Nat.pow 10 (-e).toNat)

/-- The least `k` with `num / den < 10 ^ k`, for a positive ratio. -/
def decimalPoint (num den : Nat) : Int :=
  let k : Int := ((digitsOf num).length : Int) - (digitsOf den).length
  let p := tenPow k
  if num * p.2 < den * p.1 then k else k + 1

/-- The positive reals that round to one word: `low / den` to `high / den`, around `mid / den`. -/
structure Interval where
  low : Nat
  mid : Nat
  high : Nat
  den : Nat
  closed : Bool

namespace Interval

/-- The interval of a finite nonzero word. Below a power of two the grid of words is finer. -/
def ofWord (x : Binary64) : Interval :=
  let m := x.significand
  let p := twoPow (x.scale - 2)
  let gap := if m = Nat.pow 2 52 ∧ 1 < x.exponentField then 1 else 2
  ⟨(4 * m - gap) * p.1, 4 * m * p.1, (4 * m + 2) * p.1, p.2, m % 2 == 0⟩

/-- Whether `num / den` lies in the interval. -/
def contains (i : Interval) (num den : Nat) : Bool :=
  let v := num * i.den
  let low := i.low * den
  let high := i.high * den
  if i.closed then low ≤ v && v ≤ high else low < v && v < high

/-- Whether the middle is nearer to `below + 1` than to `below`, both on the grid `10 ^ unit`. -/
def nearerAbove (i : Interval) (tie : Tie) (unit : Int) (below : Nat) : Bool :=
  let p := tenPow unit
  match compare ((2 * below + 1) * (i.den * p.1)) (2 * (i.mid * p.2)) with
  | .lt => true
  | .eq => tie.takesAbove below
  | .gt => false

/-- The point of the grid `10 ^ unit` in the interval that is nearest to the middle. -/
def gridPoint? (i : Interval) (tie : Tie) (unit : Int) : Option Nat :=
  let p := tenPow unit
  let below := i.mid * p.2 / (i.den * p.1)
  let above := below + 1
  let hit (c : Nat) := i.contains (c * p.1) p.2
  if hit below && 0 < below then
    if hit above && i.nearerAbove tie unit below then some above else some below
  else if hit above then some above
  else none

end Interval

/-- The digits of a natural without its trailing zeros. -/
def significantDigits (n : Nat) : List Char :=
  ((digitsOf n).reverse.dropWhile (· == '0')).reverse

/-- The shortest fraction that reads back as the finite nonzero word `x`, sign aside. -/
def shortest (tie : Tie) (x : Binary64) : Fraction :=
  let i := Interval.ofWord x
  let k := decimalPoint i.mid i.den
  let hit := (List.range 17).findSome? fun n =>
    (i.gridPoint? tie (k - (n + 1 : Nat))).map fun c => (n + 1, c)
  match hit with
  | some (n, c) => ⟨significantDigits c, k - n + (digitsOf c).length⟩
  | none => ⟨['0'], 0⟩

end TaskCorpus.Decimal
