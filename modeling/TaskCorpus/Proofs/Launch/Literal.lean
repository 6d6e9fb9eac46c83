import Mathlib.Data.List.Basic
import TaskCorpus.Launch.Value

/-!
Texts between single quotes.

`literal?` reads a text from its opening quote: a backslash and a quote stand for a quote, and the
first other quote closes the literal. What `quote` writes is read back exactly if the text does not
end in a backslash. A backslash at the end takes the closing quote for its own, and the literal
goes on in whatever follows it.
-/

namespace TaskCorpus.Launch.Value

/-- Reads on to the quote that closes a literal: what the literal says, and what follows it. -/
def closing? : List Char → Option (List Char × List Char)
  | [] => none
  | '\\' :: '\'' :: cs => (closing? cs).map fun r => ('\'' :: r.1, r.2)
  | c :: cs => if c = '\'' then some ([], cs) else (closing? cs).map fun r => (c :: r.1, r.2)

/-- Reads a literal from its opening quote. -/
def literal? : List Char → Option (List Char × List Char)
  | '\'' :: cs => closing? cs
  | _ => none

variable {cs rest : List Char}

lemma closing?_quote (rest : List Char) : closing? ('\'' :: rest) = some ([], rest) := by
  simp [closing?]

lemma closing?_escaped (rest : List Char) :
    closing? ('\\' :: '\'' :: rest) = (closing? rest).map fun r => ('\'' :: r.1, r.2) := by
  rw [closing?]

lemma closing?_plain {c : Char} (hc : c ≠ '\'') (hrest : c = '\\' → rest.head? ≠ some '\'') :
    closing? (c :: rest) = (closing? rest).map fun r => (c :: r.1, r.2) := by
  rw [closing?]
  · rw [if_neg hc]
  · rintro ds rfl rfl
    exact hrest rfl rfl

lemma closing?_append (h : cs.getLast? = some '\\' → rest.head? ≠ some '\'') :
    closing? (cs.flatMap quotedChar ++ rest) = (closing? rest).map fun r => (cs ++ r.1, r.2) := by
  induction cs with
  | nil => simp
  | cons c cs ih =>
    have ih := ih fun hl => h (by simp [List.getLast?_cons, hl])
    by_cases hc : c = '\''
    · subst hc
      change closing? ('\\' :: '\'' :: (cs.flatMap quotedChar ++ rest)) = _
      rw [closing?_escaped, ih, Option.map_map]
      rfl
    · -- behind a backslash there is a quote only if the text ends there
      have hnext : c = '\\' → (cs.flatMap quotedChar ++ rest).head? ≠ some '\'' := by
        rintro rfl
        cases cs with
        | nil => exact h rfl
        | cons d ds => by_cases hd : d = '\'' <;> simp [quotedChar, hd]
      have hcons : (c :: cs).flatMap quotedChar ++ rest =
          c :: (cs.flatMap quotedChar ++ rest) := by simp [quotedChar, hc]
      rw [hcons, closing?_plain hc hnext, ih, Option.map_map]
      rfl

lemma literal?_quote_eq (cs rest : List Char) :
    literal? (quote cs ++ rest) = closing? (cs.flatMap quotedChar ++ '\'' :: rest) := by
  simp [quote, literal?]

lemma literal?_quote (h : cs.getLast? ≠ some '\\') (rest : List Char) :
    literal? (quote cs ++ rest) = some (cs, rest) := by
  rw [literal?_quote_eq, closing?_append fun hl => absurd hl h, closing?_quote]
  simp

/-- Behind a backslash at the end the closing quote is read as a part of the text, and the literal
goes on. -/
lemma literal?_quote_backslash (cs rest : List Char) :
    literal? (quote (cs ++ ['\\']) ++ rest) =
      (closing? rest).map fun r => (cs ++ '\'' :: r.1, r.2) := by
  have hquote : literal? (quote (cs ++ ['\\']) ++ rest) =
      closing? (cs.flatMap quotedChar ++ '\\' :: '\'' :: rest) := by
    rw [literal?_quote_eq]
    simp [quotedChar]
  rw [hquote, closing?_append fun _ => by simp, closing?_escaped, Option.map_map]
  rfl

lemma chars_string {s : String} {inside : Bool}
    (h : inside = true ∨ s = "" ∨ ∃ c ∈ s.toList, c ∈ structural) :
    (Value.string s).chars inside = quote s.toList := by
  rw [chars]
  rcases h with rfl | rfl | ⟨c, hc, hs⟩
  · rfl
  · cases inside <;> rfl
  · have hany : s.toList.any structural.contains = true :=
      List.any_eq_true.2 ⟨c, hc, List.contains_iff_mem.2 hs⟩
    cases inside <;> simp [bareOrQuoted, hany]

/-- **Literals**: a quoted text, as the value of an override or inside a list or table, is read
back, with what follows it left over, exactly if it does not end in a backslash. -/
theorem literal_closes_iff {s : String} {inside : Bool}
    (h : inside = true ∨ s = "" ∨ ∃ c ∈ s.toList, c ∈ structural) (rest : List Char) :
    literal? ((Value.string s).chars inside ++ rest) = some (s.toList, rest) ↔
      s.toList.getLast? ≠ some '\\' := by
  rw [chars_string h]
  constructor
  · intro hread hlast
    obtain ⟨cs, hcs⟩ := List.getLast?_eq_some_iff.1 hlast
    rw [hcs, literal?_quote_backslash, Option.map_eq_some_iff] at hread
    obtain ⟨r, -, hr⟩ := hread
    simp at hr
  · exact fun hlast => literal?_quote hlast rest

/-- A text of quotes and backslashes that ends in a quote is read back. -/
theorem literal_closes_sample : (∃ c ∈ "\\'\\\\'".toList, c ∈ structural) ∧
    literal? ((Value.string "\\'\\\\'").chars false) = some ("\\'\\\\'".toList, []) := by
  have h : ∃ c ∈ "\\'\\\\'".toList, c ∈ structural := ⟨'\\', by decide, by decide⟩
  refine ⟨h, ?_⟩
  have hread := (@literal_closes_iff "\\'\\\\'" false (.inr (.inr h)) []).2 (by decide)
  rwa [List.append_nil] at hread

/-- A text that is a backslash is not read back: its literal does not end. In a list the next text
ends it. -/
theorem literal_open_sample : literal? ((Value.string "\\").chars false) = none ∧
    literal? ((Value.string "\\").chars false) ≠ some ("\\".toList, []) ∧
    literal? ((Value.list [.string "\\", .string "b"]).chars false).tail =
      some ("',".toList, "b']".toList) := by
  decide

end TaskCorpus.Launch.Value
