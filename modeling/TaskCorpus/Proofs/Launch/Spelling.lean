import Mathlib.Data.List.Basic
import TaskCorpus.Launch.Value

/-!
The pieces of a written value.

A value is spelled with `Token`s: texts between quotes, and single characters outside of quotes.
A backslash at the end of a text looks like one that escapes the closing quote, so a reader can
take a text for longer than it is. `spell_inj` says that no other tokens come of it: the reader is
then inside a text wherever the writer is outside of one and the other way round, neither a quote
nor a backslash stands outside of texts, and so the two never come together again.
-/

namespace TaskCorpus.Launch

open Value (quote quotedChar)

inductive Token where
  /-- A text between quotes. -/
  | text (cs : List Char)
  /-- A character outside of quotes. -/
  | mark (c : Char)
  deriving DecidableEq

namespace Token

def chars : Token → List Char
  | .text cs => quote cs
  | .mark c => [c]

/-- A character that neither begins a text nor escapes a quote. -/
def Clean : Token → Prop
  | .text _ => True
  | .mark c => c ≠ '\'' ∧ c ≠ '\\'

end Token

/-- The text of a list of tokens. -/
def spell (ts : List Token) : List Char := ts.flatMap Token.chars

@[simp] lemma spell_nil : spell [] = [] := rfl

@[simp] lemma spell_text (cs : List Char) (ts : List Token) :
    spell (.text cs :: ts) = '\'' :: (cs.flatMap quotedChar ++ '\'' :: spell ts) := by
  simp [spell, Token.chars, quote]

@[simp] lemma spell_mark (c : Char) (ts : List Token) : spell (.mark c :: ts) = c :: spell ts := rfl

@[simp] lemma spell_append (ts us : List Token) : spell (ts ++ us) = spell ts ++ spell us :=
  List.flatMap_append

@[simp] lemma spell_marks (cs : List Char) : spell (cs.map .mark) = cs := by
  induction cs with
  | nil => rfl
  | cons c cs ih => rw [List.map_cons, spell_mark, ih]

lemma flatMap_quotedChar_cons {c : Char} (hc : c ≠ '\'') (cs : List Char) :
    (c :: cs).flatMap quotedChar = c :: cs.flatMap quotedChar := by
  simp [quotedChar, hc]

variable {ts us : List Token}

lemma eq_text_of_spell {rest : List Char} (hus : ∀ u ∈ us, u.Clean) (h : '\'' :: rest = spell us) :
    ∃ cs us', us = .text cs :: us' ∧ rest = cs.flatMap quotedChar ++ '\'' :: spell us' := by
  cases us with
  | nil => simp at h
  | cons u us =>
    cases u with
    | text cs => exact ⟨cs, us, rfl, by simpa using h⟩
    | mark c =>
      have hc := (hus (.mark c) (by simp)).1
      simp [hc.symm] at h

lemma spell_ne_backslash {rest : List Char} (hus : ∀ u ∈ us, u.Clean) :
    '\\' :: rest ≠ spell us := by
  intro h
  cases us with
  | nil => simp at h
  | cons u us =>
    cases u with
    | text cs => simp at h
    | mark c =>
      have hc := (hus (.mark c) (by simp)).2
      simp [hc.symm] at h

/-- **Out of step**: the rest of a text, with what follows it, is never spelled by tokens. Each
quote that ends a text for the one reader begins one for the other. -/
theorem rest_ne_spell (cs : List Char) (hts : ∀ t ∈ ts, t.Clean) (hus : ∀ u ∈ us, u.Clean) :
    cs.flatMap quotedChar ++ '\'' :: spell ts ≠ spell us := by
  -- the two sides change places at a quote, so the induction is on what is left to read
  induction hn : (spell us).length using Nat.strongRecOn generalizing cs ts us with
  | ind n ih =>
    intro h
    cases cs with
    | nil =>
      obtain ⟨ds, us', rfl, hrest⟩ := eq_text_of_spell hus h
      have hus' := (List.forall_mem_cons.1 hus).2
      exact ih (spell ts).length (by rw [← hn, ← h]; simp) ds hus' hts rfl hrest.symm
    | cons c cs =>
      by_cases hc : c = '\''
      · subst hc
        exact spell_ne_backslash hus h
      · rw [flatMap_quotedChar_cons hc, List.cons_append] at h
        cases us with
        | nil => simp at h
        | cons u us =>
          cases u with
          | text ds => exact hc (by simpa using congrArg List.head? h)
          | mark d =>
            have hus' := (List.forall_mem_cons.1 hus).2
            rw [spell_mark] at h hn
            refine ih (spell us).length (by rw [← hn]; simp) cs hts hus' rfl (List.cons.inj h).2

lemma quote_ne_flatMap {rest rest' : List Char} (c : Char) (cs : List Char) :
    '\'' :: rest ≠ (c :: cs).flatMap quotedChar ++ rest' := by
  intro h
  by_cases hc : c = '\''
  · subst hc
    exact absurd (List.cons.inj h).1 (by decide)
  · rw [flatMap_quotedChar_cons hc] at h
    exact hc (List.cons.inj h).1.symm

/-- A quote that is escaped for the one reader does not end the text for the other. -/
lemma escaped_ne_rest {cs ds : List Char} (hts : ∀ t ∈ ts, t.Clean) (hus : ∀ u ∈ us, u.Clean) :
    '\'' :: (cs.flatMap quotedChar ++ '\'' :: spell ts) ≠
      ds.flatMap quotedChar ++ '\'' :: spell us := by
  intro h
  cases ds with
  | nil => exact rest_ne_spell cs hts hus (List.cons.inj h).2
  | cons d ds => exact quote_ne_flatMap d ds h

/-- In step, two texts are the same and end together. -/
lemma text_inj {cs ds : List Char} (hts : ∀ t ∈ ts, t.Clean) (hus : ∀ u ∈ us, u.Clean)
    (h : cs.flatMap quotedChar ++ '\'' :: spell ts = ds.flatMap quotedChar ++ '\'' :: spell us) :
    cs = ds ∧ spell ts = spell us := by
  induction cs generalizing ds with
  | nil =>
    cases ds with
    | nil => exact ⟨rfl, (List.cons.inj h).2⟩
    | cons d ds => exact absurd h (quote_ne_flatMap d ds)
  | cons c cs ih =>
    cases ds with
    | nil => exact absurd h.symm (quote_ne_flatMap c cs)
    | cons d ds =>
      by_cases hc : c = '\'' <;> by_cases hd : d = '\''
      · subst hc hd
        obtain ⟨rfl, hrest⟩ := ih (List.cons.inj (List.cons.inj h).2).2
        exact ⟨rfl, hrest⟩
      · subst hc
        rw [flatMap_quotedChar_cons hd] at h
        -- the backslash of an escaped quote is a character of the other text
        exact absurd (List.cons.inj h).2 (escaped_ne_rest hts hus)
      · subst hd
        rw [flatMap_quotedChar_cons hc] at h
        exact absurd (List.cons.inj h).2.symm (escaped_ne_rest hus hts)
      · rw [flatMap_quotedChar_cons hc, flatMap_quotedChar_cons hd] at h
        obtain ⟨rfl, htail⟩ := List.cons.inj h
        obtain ⟨rfl, hrest⟩ := ih htail
        exact ⟨rfl, hrest⟩

/-- **Tokens** are told by what they spell, if outside of texts there is no quote and no
backslash. -/
theorem spell_inj (hts : ∀ t ∈ ts, t.Clean) (hus : ∀ u ∈ us, u.Clean) (h : spell ts = spell us) :
    ts = us := by
  induction ts generalizing us with
  | nil =>
    cases us with
    | nil => rfl
    | cons u us => cases u <;> simp at h
  | cons t ts ih =>
    obtain ⟨ht, hts'⟩ := List.forall_mem_cons.1 hts
    cases t with
    | text cs =>
      rw [spell_text] at h
      obtain ⟨ds, us', rfl, htail⟩ := eq_text_of_spell hus h
      have hus' := (List.forall_mem_cons.1 hus).2
      obtain ⟨rfl, hrest⟩ := text_inj hts' hus' htail
      rw [ih hts' hus' hrest]
    | mark c =>
      cases us with
      | nil => simp at h
      | cons u us =>
        have hus' := (List.forall_mem_cons.1 hus).2
        cases u with
        | text ds =>
          rw [spell_mark, spell_text] at h
          exact absurd (List.cons.inj h).1 ht.1
        | mark d =>
          obtain ⟨rfl, hrest⟩ := List.cons.inj h
          rw [ih hts' hus' hrest]

end TaskCorpus.Launch
