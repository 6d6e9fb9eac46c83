/-!
# Binary64 words

A binary64 number is kept as its 64-bit word, and every operation on it works on exact integers:
a word is read as `significand * 2 ^ scale`, and a ratio of naturals is rounded to the nearest
word, a tie going to the even significand. No machine arithmetic is involved, so two equal words
are equal values and every operation can be reasoned about.
-/

namespace TaskCorpus.Decimal

/-- Quotient rounded to the nearest natural, a tie going to the even one. -/
def roundDiv (num den : Nat) : Nat :=
  let q := num / den
  let r := num % den
  if 2 * r < den then q
  else if den < 2 * r then q + 1
  else q + q % 2

/-- A power of two with an integer exponent, as a ratio of naturals. -/
def twoPow (e : Int) : Nat × Nat := (Nat.pow 2 e.toNat, Nat.pow 2 (-e).toNat)

/-- The word of a binary64 number. -/
structure Binary64 where
  bits : UInt64
  deriving DecidableEq

namespace Binary64

def negative (x : Binary64) : Bool := decide (Nat.pow 2 63 ≤ x.bits.toNat)

def exponentField (x : Binary64) : Nat := x.bits.toNat / Nat.pow 2 52 % Nat.pow 2 11

def fractionField (x : Binary64) : Nat := x.bits.toNat % Nat.pow 2 52

def isNaN (x : Binary64) : Bool := x.exponentField == 2047 && x.fractionField != 0

def isInfinite (x : Binary64) : Bool := x.exponentField == 2047 && x.fractionField == 0

/-- The integer significand of a finite word. -/
def significand (x : Binary64) : Nat :=
  if x.exponentField = 0 then x.fractionField else Nat.pow 2 52 + x.fractionField

/-- The power of two that the significand of a finite word is multiplied by. -/
def scale (x : Binary64) : Int := (max x.exponentField 1 : Nat) - 1075

/-- The magnitude of a finite word as a ratio of naturals. -/
def magnitude (x : Binary64) : Nat × Nat :=
  let p := twoPow x.scale
  (x.significand * p.1, p.2)

/-- The word with the given sign whose remaining 63 bits are `field`. -/
def ofField (negative : Bool) (field : Nat) : Binary64 :=
  ⟨UInt64.ofNat (field + if negative then Nat.pow 2 63 else 0)⟩

def infinity (negative : Bool) : Binary64 := ofField negative (2047 * Nat.pow 2 52)

def nan : Binary64 := ofField false (2047 * Nat.pow 2 52 + Nat.pow 2 51)

def zero (negative : Bool) : Binary64 := ofField negative 0

/-- The scale at which `num / den` has a significand of at most 53 bits. -/
def scaleFor (num den : Nat) : Int :=
  let q : Int := max ((Nat.log2 num : Int) - Nat.log2 den - 53) (-1074)
  let p := twoPow (-q)
  if num * p.1 / (den * p.2) < Nat.pow 2 53 then q else q + 1

/-- The word nearest to `num / den`, infinity when the ratio is beyond the largest finite word. -/
def ofRatio (negative : Bool) (num den : Nat) : Binary64 :=
  if num = 0 then zero negative
  else
    let q := scaleFor num den
    let p := twoPow (-q)
    let m := roundDiv (num * p.1) (den * p.2)
    let field := if m < Nat.pow 2 52 then m else (q + 1074).toNat * Nat.pow 2 52 + m
    if 2047 * Nat.pow 2 52 ≤ field then infinity negative else ofField negative field

/-- The word nearest to `digits * 10 ^ exponent`. Exponents far outside the range of the format
are settled without forming the power. -/
def ofDecimal (negative : Bool) (digits : Nat) (exponent : Int) : Binary64 :=
  if digits = 0 then zero negative
  else if 310 < exponent then infinity negative
  else if exponent + (Nat.log2 digits : Int) < -400 then zero negative
  else ofRatio negative (digits * Nat.pow 10 exponent.toNat) (Nat.pow 10 (-exponent).toNat)

/-- The same magnitude with the other sign. -/
def neg (x : Binary64) : Binary64 := ofField (!x.negative) (x.bits.toNat % Nat.pow 2 63)

/-- The rounded product of the magnitudes of two finite words. -/
def mulMagnitude (x y : Binary64) : Binary64 :=
  let a := x.magnitude
  let b := y.magnitude
  ofRatio false (a.1 * b.1) (a.2 * b.2)

/-- The rounded quotient of the magnitudes of two finite words. -/
def divMagnitude (x y : Binary64) : Binary64 :=
  let a := x.magnitude
  let b := y.magnitude
  ofRatio false (a.1 * b.2) (a.2 * b.1)

end Binary64

end TaskCorpus.Decimal
