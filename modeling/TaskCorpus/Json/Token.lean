import TaskCorpus.Json.Flaw
import TaskCorpus.Json.Value

/-!
# Words of a JSON text

`tokens` cuts a text into brackets, separators and scalars. A place where no word can be read
becomes one `stray` token, or `torn` if it is within a string, the last of the list. A number that
is too large and a string with an unpaired surrogate are words all the same: whether they matter
depends on who reads them.
-/

namespace TaskCorpus.Json

inductive Token where
  | openArray
  | closeArray
  | openObject
  | closeObject
  | colon
  | comma
  | null
  | boolean (b : Bool)
  /-- A number, `none` when it is out of range. -/
  | number (n : Option Number)
  | string (s : String)
  /-- A string with an unpaired surrogate. -/
  | unpaired (f : Flaw)
  /-- A string that cannot be read to its end. -/
  | torn (b : Break)
  | stray (b : Break)
  deriving DecidableEq

/-- The blanks between words. -/
def isSpace (c : Char) : Bool := c == ' ' || c == '\t' || c == '\n' || c == '\r'

section Numbers

open Decimal (Binary64)

/-- The number that decimal digits denote. -/
def naturalOf (ds : List Char) : Nat := ds.foldl (fun n d => 10 * n + (d.toNat - '0'.toNat)) 0

/-- Digits gathered into a natural below `2 ^ 64` and a power of ten. -/
structure Gathered where
  significand : Nat
  exponent : Int

/-- Digits before the point. From the first one that does not fit on, each counts as a factor of
ten. -/
def gatherInteger (ds : List Char) : Gathered × Bool :=
  let step (s : Gathered × Bool) (d : Char) : Gathered × Bool :=
    let n := 10 * s.1.significand + (d.toNat - '0'.toNat)
    if s.2 ∧ n < UInt64.size then (⟨n, s.1.exponent⟩, true)
    else (⟨s.1.significand, s.1.exponent + 1⟩, false)
  ds.foldl step (⟨0, 0⟩, true)

/-- Digits after the point. From the first one that does not fit on, they are dropped. -/
def gatherFraction (g : Gathered) : List Char → Gathered
  | [] => g
  | d :: ds =>
    let n := 10 * g.significand + (d.toNat - '0'.toNat)
    if n < UInt64.size then gatherFraction ⟨n, g.exponent - 1⟩ ds else g

/-- The magnitude of `significand * 10 ^ exponent`: the significand is rounded first, then each
product or quotient with a power of ten that is itself rounded. `none` beyond the range. -/
def Gathered.magnitude (g : Gathered) : Option Binary64 :=
  let f := Binary64.ofRatio false g.significand 1
  let power (e : Nat) := Binary64.ofRatio false (Nat.pow 10 e) 1
  if g.significand = 0 then some f
  else if 308 < g.exponent then none
  else if 0 ≤ g.exponent then
    let p := f.mulMagnitude (power g.exponent.toNat)
    if p.isInfinite then none else some p
  else if -308 ≤ g.exponent then some (f.divMagnitude (power (-g.exponent).toNat))
  else if -616 ≤ g.exponent then
    some ((f.divMagnitude (power 308)).divMagnitude (power (-g.exponent - 308).toNat))
  else some (Binary64.zero false)

/-- The parts of a written number. -/
structure NumberParts where
  negative : Bool
  integer : List Char
  fraction : List Char
  /-- The exponent with its sign, if one is written. -/
  exponent : Option Int

/-- The number written by its parts. -/
def NumberParts.value (p : NumberParts) : Option Number :=
  let (g, whole) := gatherInteger p.integer
  let sign (x : Binary64) := if p.negative then x.neg else x
  if p.fraction.isEmpty ∧ p.exponent.isNone ∧ whole then
    if ¬ p.negative then some (.integer g.significand)
    else if 0 < g.significand ∧ g.significand ≤ Nat.pow 2 63 then some (.integer (-g.significand))
    else some (.float (Binary64.ofRatio false g.significand 1).neg)
  else
    let g := gatherFraction g p.fraction
    ((⟨g.significand, g.exponent + p.exponent.getD 0⟩ : Gathered).magnitude).map fun x =>
      .float (sign x)

/-- What cannot be read as a number. The text may end within one. -/
def numberBreak (cs : List Char) : Break :=
  if cs.isEmpty then ⟨.endInValue, .number⟩ else .both .number

/-- A nonempty run of digits and what follows it. -/
def digits (cs : List Char) : Except Break (List Char × List Char) :=
  let ds := cs.takeWhile Char.isDigit
  if ds.isEmpty then .error (numberBreak cs) else .ok (ds, cs.dropWhile Char.isDigit)

/-- The digits before the point: a zero stands alone. -/
def integerPart (cs : List Char) : Except Break (List Char × List Char) :=
  match digits cs with
  | .ok ('0' :: _ :: _, _) => .error (.both .number)
  | r => r

/-- The digits after a point, if there is one. -/
def fractionPart : List Char → Except Break (List Char × List Char)
  | '.' :: cs => digits cs
  | cs => .ok ([], cs)

/-- A signed exponent after its mark. -/
def exponentDigits : List Char → Except Break (Int × List Char)
  | '+' :: cs => (digits cs).map fun r => ((naturalOf r.1 : Int), r.2)
  | '-' :: cs => (digits cs).map fun r => (-(naturalOf r.1 : Int), r.2)
  | cs => (digits cs).map fun r => ((naturalOf r.1 : Int), r.2)

/-- The exponent, if there is one. -/
def exponentPart : List Char → Except Break (Option Int × List Char)
  | 'e' :: cs => (exponentDigits cs).map fun r => (some r.1, r.2)
  | 'E' :: cs => (exponentDigits cs).map fun r => (some r.1, r.2)
  | cs => .ok (none, cs)

/-- A number without its sign. -/
def unsigned (negative : Bool) (cs : List Char) : Except Break (NumberParts × List Char) := do
  let (integer, cs) ← integerPart cs
  let (fraction, cs) ← fractionPart cs
  let (exponent, cs) ← exponentPart cs
  pure (⟨negative, integer, fraction, exponent⟩, cs)

/-- A number, which begins with a digit or a sign. -/
def number : List Char → Except Break (NumberParts × List Char)
  | '-' :: cs => unsigned true cs
  | cs => unsigned false cs

end Numbers

section Strings

/-- The value of a hexadecimal digit. -/
def hexValue? (c : Char) : Option Nat :=
  if '0' ≤ c ∧ c ≤ '9' then some (c.toNat - '0'.toNat)
  else if 'a' ≤ c ∧ c ≤ 'f' then some (c.toNat - 'a'.toNat + 10)
  else if 'A' ≤ c ∧ c ≤ 'F' then some (c.toNat - 'A'.toNat + 10)
  else none

/-- The value of four hexadecimal digits. -/
def hexFour? (a b c d : Char) : Option Nat := do
  let a ← hexValue? a
  let b ← hexValue? b
  let c ← hexValue? c
  let d ← hexValue? d
  pure (((16 * a + b) * 16 + c) * 16 + d)

/-- The character of an escape of two characters. -/
def shortEscape? (c : Char) : Option Char :=
  match c with
  | '"' => some '"'
  | '\\' => some '\\'
  | '/' => some '/'
  | 'b' => some '\x08'
  | 'f' => some '\x0c'
  | 'n' => some '\n'
  | 'r' => some '\r'
  | 't' => some '\t'
  | _ => none

/-- What has been read of a string: its characters, last first, the first flaw of a surrogate, and
a first surrogate that waits for its second. -/
structure Gathering where
  done : List Char
  flaw : Option Flaw
  waiting : Option Nat

namespace Gathering

def start : Gathering := ⟨[], none, none⟩

/-- Something else than an escaped code unit follows. -/
def settle (g : Gathering) : Gathering :=
  ⟨g.done, if g.waiting.isSome then g.flaw.or (some .halfPair) else g.flaw, none⟩

/-- A character that is no escaped code unit. -/
def push (g : Gathering) (c : Char) : Gathering := { g.settle with done := c :: g.done }

/-- An escaped code unit. -/
def pushUnit (g : Gathering) (u : Nat) : Gathering :=
  let unpaired : Gathering := ⟨g.done, g.flaw.or (some .surrogate), none⟩
  match g.waiting with
  | some high =>
    if 0xdc00 ≤ u ∧ u ≤ 0xdfff then
      ⟨Char.ofNat (0x10000 + (high - 0xd800) * 0x400 + (u - 0xdc00)) :: g.done, g.flaw, none⟩
    else unpaired
  | none =>
    if 0xd800 ≤ u ∧ u ≤ 0xdbff then ⟨g.done, g.flaw, some u⟩
    else if 0xdc00 ≤ u ∧ u ≤ 0xdfff then unpaired
    else ⟨Char.ofNat u :: g.done, g.flaw, none⟩

/-- The string ends here. -/
def result (g : Gathering) : Token :=
  match g.settle.flaw with
  | some f => .unpaired f
  | none => .string (String.ofList g.done.reverse)

/-- The string cannot be read further. A reader of it has seen the flaw of a surrogate before. -/
def torn (g : Gathering) (f : Flaw) : Break := ⟨g.flaw.getD f, f⟩

end Gathering

/-- What is wrong with an escaped code unit of which this is left. It has four bytes. -/
def unitFlaw (cs : List Char) : Flaw :=
  if (String.ofList cs).utf8ByteSize < 4 then .endInString else .escape

/-- The rest of a string after its opening quote, and what follows it. -/
def string (g : Gathering) : List Char → Except Break (Token × List Char)
  | [] => .error (g.torn .endInString)
  | '"' :: cs => .ok (g.result, cs)
  | '\\' :: 'u' :: a :: b :: c :: d :: cs =>
    match hexFour? a b c d with
    | some u => string (g.pushUnit u) cs
    | none => .error (g.torn .escape)
  | '\\' :: 'u' :: cs => .error (g.torn (unitFlaw cs))
  | '\\' :: e :: cs =>
    match shortEscape? e with
    | some c => string (g.push c) cs
    | none => .error (g.settle.torn .escape)
  | ['\\'] => .error (g.torn .endInString)
  | c :: cs => if c.toNat < 0x20 then .error (g.settle.torn .control) else string (g.push c) cs

end Strings

/-- The word of letters that starts with `c`, if it is the given one, and what follows it. -/
def letters (t : Token) (expected cs : List Char) : Token × List Char :=
  if expected.isPrefixOf cs then (t, cs.drop expected.length)
  else (.stray (.both (if cs.isPrefixOf expected then .endInValue else .word)), [])

/-- The word that starts with `c`, and what follows it. -/
def word (c : Char) (cs : List Char) : Token × List Char :=
  match c with
  | '[' => (.openArray, cs)
  | ']' => (.closeArray, cs)
  | '{' => (.openObject, cs)
  | '}' => (.closeObject, cs)
  | ':' => (.colon, cs)
  | ',' => (.comma, cs)
  | 'n' => letters .null ['u', 'l', 'l'] cs
  | 't' => letters (.boolean true) ['r', 'u', 'e'] cs
  | 'f' => letters (.boolean false) ['a', 'l', 's', 'e'] cs
  | '"' =>
    match string .start cs with
    | .ok r => r
    | .error b => (.torn b, [])
  | c =>
    if c.isDigit ∨ c = '-' then
      match number (c :: cs) with
      | .ok (p, cs) => (.number p.value, cs)
      | .error b => (.stray b, [])
    else (.stray (.both .value), [])

theorem length_dropWhile_le {α : Type} (p : α → Bool) (l : List α) :
    (l.dropWhile p).length ≤ l.length := by
  induction l with
  | nil => simp
  | cons a l ih =>
    rw [List.dropWhile_cons]
    split
    · exact Nat.le_succ_of_le ih
    · exact Nat.le_refl _

theorem digits_length {cs ds rest : List Char} (h : digits cs = .ok (ds, rest)) :
    rest.length < cs.length := by
  simp only [digits] at h
  split at h
  · cases h
  · rename_i hne
    cases h
    cases cs with
    | nil => simp at hne
    | cons c cs =>
      by_cases hc : c.isDigit
      · rw [List.dropWhile_cons, if_pos hc]
        exact Nat.lt_succ_of_le (length_dropWhile_le _ _)
      · simp [hc] at hne

theorem map_eq_ok {ε α β : Type} {f : α → β} {r : Except ε α} {b : β} (h : r.map f = .ok b) :
    ∃ a, r = .ok a ∧ f a = b := by
  cases r with
  | error => cases h
  | ok a => exact ⟨a, rfl, Except.ok.inj h⟩

theorem fractionPart_length {cs ds rest : List Char} (h : fractionPart cs = .ok (ds, rest)) :
    rest.length ≤ cs.length := by
  unfold fractionPart at h
  split at h
  · exact Nat.le_succ_of_le (Nat.le_of_lt (digits_length h))
  · cases h
    exact Nat.le_refl _

theorem exponentDigits_length {cs rest : List Char} {e : Int}
    (h : exponentDigits cs = .ok (e, rest)) : rest.length ≤ cs.length := by
  unfold exponentDigits at h
  split at h <;> obtain ⟨r, hr, he⟩ := map_eq_ok h <;> cases he
  · exact Nat.le_succ_of_le (Nat.le_of_lt (digits_length hr))
  · exact Nat.le_succ_of_le (Nat.le_of_lt (digits_length hr))
  · exact Nat.le_of_lt (digits_length hr)

theorem exponentPart_length {cs rest : List Char} {e : Option Int}
    (h : exponentPart cs = .ok (e, rest)) : rest.length ≤ cs.length := by
  unfold exponentPart at h
  split at h
  · obtain ⟨r, hr, he⟩ := map_eq_ok h
    cases he
    exact Nat.le_succ_of_le (exponentDigits_length hr)
  · obtain ⟨r, hr, he⟩ := map_eq_ok h
    cases he
    exact Nat.le_succ_of_le (exponentDigits_length hr)
  · cases h
    exact Nat.le_refl _

theorem bind_eq_ok {ε α β : Type} {f : α → Except ε β} {r : Except ε α} {b : β}
    (h : (r >>= f) = .ok b) : ∃ a, r = .ok a ∧ f a = .ok b := by
  cases r with
  | error => cases h
  | ok a => exact ⟨a, rfl, h⟩

theorem unsigned_length {n : Bool} {cs rest : List Char} {p : NumberParts}
    (h : unsigned n cs = .ok (p, rest)) : rest.length < cs.length := by
  obtain ⟨⟨ds, r₁⟩, h₁, h⟩ := bind_eq_ok h
  obtain ⟨⟨fs, r₂⟩, h₂, h⟩ := bind_eq_ok h
  obtain ⟨⟨e, r₃⟩, h₃, h⟩ := bind_eq_ok h
  cases h
  have l₁ : r₁.length < cs.length := by
    unfold integerPart at h₁
    split at h₁
    · cases h₁
    · exact digits_length h₁
  have l₂ := fractionPart_length h₂
  have l₃ := exponentPart_length h₃
  omega

theorem number_length {cs rest : List Char} {p : NumberParts}
    (h : number cs = .ok (p, rest)) : rest.length < cs.length := by
  unfold number at h
  split at h
  · exact Nat.lt_succ_of_lt (unsigned_length h)
  · exact unsigned_length h

theorem string_length {g : Gathering} {cs rest : List Char} {t : Token}
    (h : string g cs = .ok (t, rest)) : rest.length ≤ cs.length := by
  fun_induction string g cs with
  | case1 => cases h
  | case2 g cs =>
    cases h
    simp
  | case3 g a b c d cs u hu ih => exact Nat.le_trans (ih h) (Nat.le_add_right _ 6)
  | case4 => cases h
  | case5 => cases h
  | case6 g e cs _ _ c hc ih => exact Nat.le_trans (ih h) (Nat.le_add_right _ 2)
  | case7 => cases h
  | case8 => cases h
  | case9 => cases h
  | case10 g c cs _ _ _ _ _ _ ih => exact Nat.le_trans (ih h) (Nat.le_add_right _ 1)

theorem letters_length (t : Token) (expected cs : List Char) :
    (letters t expected cs).2.length ≤ cs.length := by
  unfold letters
  split
  · simp
  · simp

/-- A word takes at least its first character. -/
theorem word_length (c : Char) (cs : List Char) : (word c cs).2.length ≤ cs.length := by
  unfold word
  split
  case h_7 => exact letters_length _ _ _
  case h_8 => exact letters_length _ _ _
  case h_9 => exact letters_length _ _ _
  case h_10 =>
    split
    · rename_i h
      exact string_length h
    · simp
  case h_11 =>
    split
    · split
      · rename_i h
        exact Nat.le_of_lt_succ (number_length h)
      · simp
    · simp
  all_goals exact Nat.le_refl _

/-- The words of a text, up to the first place where none can be read. -/
def tokens : List Char → List Token
  | [] => []
  | c :: cs =>
    if isSpace c then tokens cs
    else (word c cs).1 :: tokens (word c cs).2
termination_by cs => cs.length
decreasing_by
  · exact Nat.lt_succ_self _
  · exact Nat.lt_succ_of_le (word_length c cs)

end TaskCorpus.Json
