import TaskCorpus.Decimal.Layout
import TaskCorpus.Proofs.Json.Words

/-!
The text of an integer: digits, behind a minus sign if it is negative. Different integers have
different texts.
-/

namespace TaskCorpus.Decimal

lemma digitsOf_inj {m n : Nat} (h : digitsOf m = digitsOf n) : m = n := by
  have hread : ∀ k, Nat.ofDigitChars 10 (digitsOf k) 0 = k := fun _ => Nat.ofDigitChars_ten_toDigits
  rw [← hread m, ← hread n, h]

lemma toString_inj {m n : Nat} (h : toString m = toString n) : m = n :=
  digitsOf_inj (String.ofList_inj.1 h)

namespace Layout

lemma mem_integer {n : Int} {c : Char} (h : c ∈ integer n) : c = '-' ∨ c.isDigit = true := by
  unfold integer at h
  split at h
  · rcases List.mem_cons.1 h with rfl | h
    · exact .inl rfl
    · exact .inr (Json.isDigit_of_mem_digitsOf h)
  · exact .inr (Json.isDigit_of_mem_digitsOf h)

lemma ne_of_mem_integer {n : Int} {c d : Char} (h : c ∈ integer n)
    (hd : d ≠ '-' ∧ d.isDigit = false) : c ≠ d := by
  rintro rfl
  rcases mem_integer h with rfl | hdigit
  · exact hd.1 rfl
  · rw [hd.2] at hdigit
    cases hdigit

lemma integer_ne_nil (n : Int) : integer n ≠ [] := by
  unfold integer
  split
  · simp
  · exact Json.digitsOf_ne_nil _

lemma digitsOf_ne_cons_minus (n : Nat) (cs : List Char) : digitsOf n ≠ '-' :: cs := by
  intro h
  have hc : '-' ∈ digitsOf n := by simp [h]
  exact absurd (Json.isDigit_of_mem_digitsOf hc) (by decide)

theorem integer_inj {m n : Int} (h : integer m = integer n) : m = n := by
  unfold integer at h
  split at h <;> split at h
  · have := digitsOf_inj (List.cons.inj h).2
    omega
  · exact absurd h.symm (digitsOf_ne_cons_minus _ _)
  · exact absurd h (digitsOf_ne_cons_minus _ _)
  · have := digitsOf_inj h
    omega

end Layout

end TaskCorpus.Decimal
