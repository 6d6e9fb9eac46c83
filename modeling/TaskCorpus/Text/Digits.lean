/-!
# Digits

Digits of the bases up to sixteen and the naturals that they write.
-/

namespace TaskCorpus.Text

/-- The value of a digit, and sixteen for other characters. -/
def digitValue (c : Char) : Nat :=
  if c.isDigit then c.toNat - '0'.toNat
  else if 'a' ≤ c ∧ c ≤ 'f' then c.toNat - 'a'.toNat + 10
  else if 'A' ≤ c ∧ c ≤ 'F' then c.toNat - 'A'.toNat + 10
  else 16

def isDigitOf (base : Nat) (c : Char) : Bool := digitValue c < base

/-- The natural that digits write, the most significant first. -/
def valueOf (base : Nat) (cs : List Char) : Nat := cs.foldl (fun n c => n * base + digitValue c) 0

/-- A natural in decimal digits with leading zeros up to a width. -/
def padded (width n : Nat) : List Char :=
  let ds := Nat.toDigits 10 n
  List.replicate (width - ds.length) '0' ++ ds

end TaskCorpus.Text
