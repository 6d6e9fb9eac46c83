import Mathlib.Tactic.Common
import TaskCorpus.Json.Printer
import TaskCorpus.Json.Token

/-!
The words of a printed value.

A value whose numbers are integers of 64 bits is cut back into its words, whether it was
printed with or without blanks. `Spells` is the relation between a text and its words that
both printers are proved against: it holds in front of any text that does not go on with a
number.
-/

namespace TaskCorpus.Json

/-- Nothing at the start of the text continues a number. -/
def EndsNumber : List Char → Prop
  | [] => True
  | c :: _ => c.isDigit = false ∧ c ≠ '.' ∧ c ≠ 'e' ∧ c ≠ 'E'

/-- The text is read as these words, in front of any text that does not continue a number. -/
def Spells (cs : List Char) (ts : List Token) : Prop :=
  ∀ rest, EndsNumber rest → tokens (cs ++ rest) = ts ++ tokens rest

lemma endsNumber_append {a b : List Char} (ha : EndsNumber a) (hb : EndsNumber b) :
    EndsNumber (a ++ b) := by
  cases a with
  | nil => exact hb
  | cons c a => exact ha

lemma Spells.nil : Spells [] [] := fun _ _ => rfl

lemma Spells.append {a b : List Char} {s t : List Token} (ha : Spells a s) (hb : Spells b t)
    (h : EndsNumber b) : Spells (a ++ b) (s ++ t) := by
  intro rest hrest
  rw [List.append_assoc, ha _ (endsNumber_append h hrest), hb rest hrest, List.append_assoc]

lemma Spells.space {c : Char} {cs : List Char} {ts : List Token} (hc : isSpace c = true)
    (h : Spells cs ts) : Spells (c :: cs) ts := by
  intro rest hrest
  rw [List.cons_append, tokens, if_pos hc, h rest hrest]

lemma Spells.mark {c : Char} {cs : List Char} {t : Token} {ts : List Token}
    (hc : isSpace c = false) (hw : ∀ r, word c r = (t, r)) (h : Spells cs ts) :
    Spells (c :: cs) (t :: ts) := by
  intro rest hrest
  rw [List.cons_append, tokens, if_neg (by simp [hc]), hw, List.cons_append, h rest hrest]

lemma spells_of_word {c : Char} {cs : List Char} {t : Token} (hc : isSpace c = false)
    (hw : ∀ rest, EndsNumber rest → word c (cs ++ rest) = (t, rest)) : Spells (c :: cs) [t] := by
  intro rest hrest
  rw [List.cons_append, tokens, if_neg (by simp [hc]), hw rest hrest, List.singleton_append]

/-! ### Numbers -/

open Decimal (digitsOf)

lemma digitsOf_ne_nil (n : Nat) : digitsOf n ≠ [] := Nat.toDigits_ne_nil

lemma isDigit_of_mem_digitsOf {n : Nat} {c : Char} (h : c ∈ digitsOf n) : c.isDigit = true :=
  Nat.isDigit_of_mem_toDigits (by omega) (by omega) h

lemma head_digitsOf {n : Nat} (hn : 0 < n) : (digitsOf n).head? ≠ some '0' := by
  induction n using Nat.strongRecOn with
  | _ n ih =>
    unfold digitsOf
    by_cases h : n < 10
    · rw [Nat.toDigits_of_lt_base h]
      have hdigit : ∀ m < 10, 0 < m → m.digitChar ≠ '0' := by decide
      simpa using hdigit n h hn
    · rw [Nat.toDigits_of_base_le (by omega) (by omega)]
      have hq : digitsOf (n / 10) ≠ [] := digitsOf_ne_nil _
      have hhead := ih (n / 10) (by omega) (by omega)
      unfold digitsOf at hhead hq
      rw [List.head?_append, List.head?_eq_some_head hq, Option.some_or,
        ← List.head?_eq_some_head hq]
      exact hhead

lemma takeWhile_digitsOf (n : Nat) {rest : List Char} (h : EndsNumber rest) :
    (digitsOf n ++ rest).takeWhile Char.isDigit = digitsOf n := by
  rw [List.takeWhile_append_of_pos fun c hc => isDigit_of_mem_digitsOf hc]
  cases rest with
  | nil => simp
  | cons c rest => simp [h.1]

lemma dropWhile_digitsOf (n : Nat) {rest : List Char} (h : EndsNumber rest) :
    (digitsOf n ++ rest).dropWhile Char.isDigit = rest := by
  rw [List.dropWhile_append_of_pos fun c hc => isDigit_of_mem_digitsOf hc]
  cases rest with
  | nil => simp
  | cons c rest => simp [h.1]

lemma digits_digitsOf (n : Nat) {rest : List Char} (h : EndsNumber rest) :
    digits (digitsOf n ++ rest) = .ok (digitsOf n, rest) := by
  have hne : (digitsOf n).isEmpty = false := by simp [digitsOf_ne_nil]
  simp [digits, takeWhile_digitsOf n h, dropWhile_digitsOf n h, hne]

lemma integerPart_digitsOf (n : Nat) {rest : List Char} (h : EndsNumber rest) :
    integerPart (digitsOf n ++ rest) = .ok (digitsOf n, rest) := by
  unfold integerPart
  rw [digits_digitsOf n h]
  rcases Nat.eq_zero_or_pos n with rfl | hn
  · rfl
  · have hhead := head_digitsOf hn
    split
    · rename_i hd
      simp only [Except.ok.injEq, Prod.mk.injEq] at hd
      exact absurd (by rw [hd.1]; rfl) hhead
    · rfl

lemma fractionPart_of_ends {rest : List Char} (h : EndsNumber rest) :
    fractionPart rest = .ok ([], rest) := by
  unfold fractionPart
  split
  · exact absurd rfl h.2.1
  · rfl

lemma exponentPart_of_ends {rest : List Char} (h : EndsNumber rest) :
    exponentPart rest = .ok (none, rest) := by
  unfold exponentPart
  split
  · exact absurd rfl h.2.2.1
  · exact absurd rfl h.2.2.2
  · rfl

lemma unsigned_digitsOf (negative : Bool) (n : Nat) {rest : List Char} (h : EndsNumber rest) :
    unsigned negative (digitsOf n ++ rest) = .ok (⟨negative, digitsOf n, [], none⟩, rest) := by
  simp only [unsigned, integerPart_digitsOf n h, bind, Except.bind, fractionPart_of_ends h,
    exponentPart_of_ends h]
  rfl

lemma gatherInteger_eq (ds : List Char) (h : Nat.ofDigitChars 10 ds 0 < UInt64.size) :
    gatherInteger ds = (⟨Nat.ofDigitChars 10 ds 0, 0⟩, true) := by
  have grow : ∀ (ds : List Char) (a : Nat), a ≤ Nat.ofDigitChars 10 ds a := by
    intro ds
    induction ds with
    | nil => intro a; simp
    | cons d ds ih =>
      intro a
      rw [Nat.ofDigitChars_cons]
      have := ih (10 * a + (d.toNat - '0'.toNat))
      omega
  unfold gatherInteger
  generalize 0 = a at h ⊢
  induction ds generalizing a with
  | nil => simp
  | cons d ds ih =>
    rw [Nat.ofDigitChars_cons] at h ⊢
    have hlt : 10 * a + (d.toNat - '0'.toNat) < UInt64.size :=
      Nat.lt_of_le_of_lt (grow ds _) h
    simp only [List.foldl_cons, true_and, if_pos hlt]
    exact ih _ h

lemma gatherInteger_digitsOf {n : Nat} (h : n < UInt64.size) :
    gatherInteger (digitsOf n) = (⟨n, 0⟩, true) := by
  have hn : Nat.ofDigitChars 10 (digitsOf n) 0 = n := Nat.ofDigitChars_ten_toDigits
  rw [gatherInteger_eq _ (by rw [hn]; exact h), hn]

lemma value_digitsOf {n : Nat} (h : n < UInt64.size) :
    (⟨false, digitsOf n, [], none⟩ : NumberParts).value = some (.integer n) := by
  simp [NumberParts.value, gatherInteger_digitsOf h]

lemma value_neg_digitsOf {n : Nat} (h₀ : 0 < n) (h : n ≤ Nat.pow 2 63) :
    (⟨true, digitsOf n, [], none⟩ : NumberParts).value = some (.integer (-n)) := by
  have hn : n < UInt64.size := Nat.lt_of_le_of_lt h (by decide)
  simp [NumberParts.value, gatherInteger_digitsOf hn, h₀, h]

lemma word_number {c : Char} (cs : List Char) (h : c.isDigit = true ∨ c = '-') :
    word c cs = match number (c :: cs) with
      | .ok (p, cs) => (.number p.value, cs)
      | .error b => (.stray b, []) := by
  unfold word
  split
  case h_11 => exact if_pos h
  all_goals exact absurd h (by decide)

def IsWord (n : Int) : Prop := -(Nat.pow 2 63 : Nat) ≤ n ∧ n < UInt64.size

lemma isSpace_of_isDigit {c : Char} (h : c.isDigit = true) : isSpace c = false := by
  rw [isSpace, Bool.eq_false_iff]
  intro hs
  simp only [Bool.or_eq_true, beq_iff_eq] at hs
  rcases hs with ((rfl | rfl) | rfl) | rfl <;> exact absurd h (by decide)

lemma spells_integer {n : Int} (h : IsWord n) :
    Spells (Decimal.Layout.integer n) [.number (some (.integer n))] := by
  unfold Decimal.Layout.integer
  split
  · rename_i hneg
    -- a minus before the digits
    refine spells_of_word (by decide) fun rest hrest => ?_
    have hv := value_neg_digitsOf (n := n.natAbs) (by omega) (by have := h.1; omega)
    rw [word_number _ (.inr rfl)]
    simp only [number, unsigned_digitsOf true _ hrest, hv]
    congr 3
    congr 1
    omega
  · rename_i hneg
    obtain ⟨c, cs, hcs⟩ := List.exists_cons_of_ne_nil (digitsOf_ne_nil n.natAbs)
    have hc : c.isDigit = true := isDigit_of_mem_digitsOf (n := n.natAbs) (by simp [hcs])
    rw [hcs]
    refine spells_of_word (isSpace_of_isDigit hc) fun rest hrest => ?_
    have hnum : number (c :: (cs ++ rest)) = .ok (⟨false, digitsOf n.natAbs, [], none⟩, rest) := by
      have hu := unsigned_digitsOf false n.natAbs hrest
      rw [hcs, List.cons_append] at hu
      rw [hcs, ← hu]
      unfold number
      split
      · rename_i heq
        cases heq
        exact absurd hc (by decide)
      · rfl
    rw [word_number _ (.inl hc), hnum]
    simp only [value_digitsOf (n := n.natAbs) (by have := h.2; omega)]
    congr 3
    congr 1
    omega

/-! ### Strings -/

lemma hexFour?_hexDigit : ∀ n < 32,
    hexFour? '0' '0' (hexDigit (n / 16)) (hexDigit (n % 16)) = some n := by
  decide

abbrev gathered (done : List Char) : Gathering := ⟨done, none, none⟩

lemma string_escape (done : List Char) (c : Char) (rest : List Char) :
    string (gathered done) (escape c ++ rest) = string (gathered (c :: done)) rest := by
  unfold escape
  by_cases h₁ : c = '"'
  · subst h₁; rfl
  by_cases h₂ : c = '\\'
  · subst h₂; rfl
  by_cases h₃ : c = '\n'
  · subst h₃; rfl
  by_cases h₄ : c = '\r'
  · subst h₄; rfl
  by_cases h₅ : c = '\t'
  · subst h₅; rfl
  by_cases h₆ : c = '\x08'
  · subst h₆; rfl
  by_cases h₇ : c = '\x0c'
  · subst h₇; rfl
  simp only [if_neg h₁, if_neg h₂, if_neg h₃, if_neg h₄, if_neg h₅, if_neg h₆, if_neg h₇]
  by_cases h₈ : c.toNat < 0x20
  · -- a code unit below the blank is no half of a pair
    have hx := hexFour?_hexDigit c.toNat h₈
    have hpush : (gathered done).pushUnit c.toNat = gathered (c :: done) := by
      have ha : ¬ (0xd800 ≤ c.toNat ∧ c.toNat ≤ 0xdbff) := by omega
      have hb : ¬ (0xdc00 ≤ c.toNat ∧ c.toNat ≤ 0xdfff) := by omega
      simp only [Gathering.pushUnit, if_neg ha, if_neg hb, Char.ofNat_toNat]
    rw [if_pos h₈]
    simp only [List.cons_append, List.nil_append, string, hx, hpush]
  · rw [if_neg h₈, List.singleton_append, string.eq_def]
    split
    case h_7 =>
      rename_i heq
      cases heq
      rw [if_neg h₈]
      rfl
    all_goals simp_all

lemma string_escapes (done cs rest : List Char) :
    string (gathered done) (cs.flatMap escape ++ rest) =
      string (gathered (cs.reverse ++ done)) rest := by
  induction cs generalizing done with
  | nil => rfl
  | cons c cs ih =>
    rw [List.flatMap_cons, List.append_assoc, string_escape, ih, List.reverse_cons,
      List.append_assoc, List.singleton_append]

lemma spells_string (s : String) : Spells (stringChars s) [.string s] := by
  refine spells_of_word (by decide) fun rest _ => ?_
  have hread : string .start (s.toList.flatMap escape ++ ('"' :: rest)) =
      .ok (.string s, rest) := by
    have h := string_escapes [] s.toList ('"' :: rest)
    have hres : (gathered (s.toList.reverse ++ [])).result = .string s := by
      simp [Gathering.result, Gathering.settle]
    have hq : string (gathered (s.toList.reverse ++ [])) ('"' :: rest) =
        .ok ((gathered (s.toList.reverse ++ [])).result, rest) := by rw [string]
    exact h.trans (hq.trans (by rw [hres]))
  rw [List.append_assoc, List.singleton_append]
  simp only [word, hread]

end TaskCorpus.Json
