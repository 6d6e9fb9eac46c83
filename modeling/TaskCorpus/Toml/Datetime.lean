import TaskCorpus.Text.Digits

/-!
# Dates and times

A date, a time of day, or both with an optional offset from universal time. Only dates and times
that exist can be read, a second of 60 included; of the digits of a fraction of a second nine
count.
-/

namespace TaskCorpus.Toml

structure Date where
  year : Nat
  month : Nat
  day : Nat
  deriving DecidableEq

structure Time where
  hour : Nat
  minute : Nat
  second : Nat
  nanosecond : Nat
  deriving DecidableEq

inductive Offset where
  | universal
  | minutes (n : Int)
  deriving DecidableEq

inductive Datetime where
  | day (d : Date)
  | clock (t : Time)
  | moment (d : Date) (t : Time) (offset : Option Offset)
  deriving DecidableEq

def isLeapYear (year : Nat) : Bool :=
  year % 4 == 0 && (year % 100 != 0 || year % 400 == 0)

def daysIn (year month : Nat) : Nat :=
  if month = 2 then if isLeapYear year then 29 else 28
  else if month = 4 ∨ month = 6 ∨ month = 9 ∨ month = 11 then 30
  else 31

/-- Whether the calendar has a date. -/
def Date.exists (d : Date) : Bool :=
  1 ≤ d.month && d.month ≤ 12 && 1 ≤ d.day && d.day ≤ daysIn d.year d.month

/-- Whether the day has a time. -/
def Time.exists (t : Time) : Bool := t.hour ≤ 23 && t.minute ≤ 59 && t.second ≤ 60

/-- The natural that a text of digits writes. -/
def natural? (cs : List Char) : Option Nat :=
  if !cs.isEmpty && cs.all Char.isDigit then some (Text.valueOf 10 cs) else none

/-- A date at the start of a text. -/
def Date.read? : List Char → Option (Date × List Char)
  | y₁ :: y₂ :: y₃ :: y₄ :: '-' :: m₁ :: m₂ :: '-' :: d₁ :: d₂ :: cs => do
    let d : Date := ⟨← natural? [y₁, y₂, y₃, y₄], ← natural? [m₁, m₂], ← natural? [d₁, d₂]⟩
    if d.exists then some (d, cs) else none
  | _ => none

/-- The nanoseconds of a fraction of a second. -/
def nanoseconds (digits : List Char) : Nat :=
  Text.valueOf 10 (digits.take 9 ++ List.replicate (9 - digits.length) '0')

/-- A time at the start of a text. -/
def Time.read? : List Char → Option (Time × List Char)
  | h₁ :: h₂ :: ':' :: m₁ :: m₂ :: ':' :: s₁ :: s₂ :: cs => do
    let hour ← natural? [h₁, h₂]
    let minute ← natural? [m₁, m₂]
    let second ← natural? [s₁, s₂]
    let (fraction, rest) ←
      match cs with
      | '.' :: more =>
        let ds := more.takeWhile Char.isDigit
        if ds.isEmpty then none else some (nanoseconds ds, more.dropWhile Char.isDigit)
      | more => some (0, more)
    let t : Time := ⟨hour, minute, second, fraction⟩
    if t.exists then some (t, rest) else none
  | _ => none

/-- An offset that is a whole text. -/
def Offset.read? : List Char → Option Offset
  | ['Z'] => some .universal
  | ['z'] => some .universal
  | [sign, h₁, h₂, ':', m₁, m₂] => do
    let hour ← natural? [h₁, h₂]
    let minute ← natural? [m₁, m₂]
    if 23 < hour ∨ 59 < minute then none
    else
      let n : Int := hour * 60 + minute
      if sign = '+' then some (.minutes n)
      else if sign = '-' then some (.minutes (-n))
      else none
  | _ => none

/-- A date, a time or both that are a whole text. -/
def Datetime.read? (cs : List Char) : Option Datetime :=
  match Date.read? cs with
  | some (d, []) => some (.day d)
  | some (d, mark :: more) =>
    if mark = 'T' ∨ mark = 't' ∨ mark = ' ' then do
      let (t, rest) ← Time.read? more
      if rest.isEmpty then some (.moment d t none)
      else (Offset.read? rest).map fun o => .moment d t (some o)
    else none
  | none =>
    match Time.read? cs with
    | some (t, []) => some (.clock t)
    | _ => none

def Date.chars (d : Date) : List Char :=
  Text.padded 4 d.year ++ '-' :: (Text.padded 2 d.month ++ '-' :: Text.padded 2 d.day)

/-- The fraction of a second without its trailing zeros. -/
def fractionChars (nanosecond : Nat) : List Char :=
  if nanosecond = 0 then []
  else '.' :: ((Text.padded 9 nanosecond).reverse.dropWhile (· == '0')).reverse

def Time.chars (t : Time) : List Char :=
  Text.padded 2 t.hour ++ ':' :: (Text.padded 2 t.minute ++ ':' :: (Text.padded 2 t.second ++
    fractionChars t.nanosecond))

def Offset.chars : Offset → List Char
  | .universal => ['Z']
  | .minutes n =>
    (if n < 0 then '-' else '+') ::
      (Text.padded 2 (n.natAbs / 60) ++ ':' :: Text.padded 2 (n.natAbs % 60))

def Datetime.chars : Datetime → List Char
  | .day d => d.chars
  | .clock t => t.chars
  | .moment d t none => d.chars ++ 'T' :: t.chars
  | .moment d t (some o) => d.chars ++ 'T' :: (t.chars ++ o.chars)

def Datetime.text (d : Datetime) : String := String.ofList d.chars

end TaskCorpus.Toml
