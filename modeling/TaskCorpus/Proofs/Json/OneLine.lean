import TaskCorpus.Proofs.Json.Printed

/-!
Printed values stand on one line.

Inside a string the control characters are escaped, and outside there are none, so the text of a
value without blanks has no line break, whatever its strings and the names of its fields are.
-/

namespace TaskCorpus.Json

/-- There is no control character before the blank. -/
def Printable (cs : List Char) : Prop := ∀ c ∈ cs, 0x20 ≤ c.toNat

instance (cs : List Char) : Decidable (Printable cs) :=
  List.decidableBAll (fun c : Char => 0x20 ≤ c.toNat) cs

variable {c : Char} {as bs : List Char}

lemma Printable.nil : Printable [] := nofun

lemma Printable.cons (hc : 0x20 ≤ c.toNat) (h : Printable as) : Printable (c :: as) :=
  List.forall_mem_cons.2 ⟨hc, h⟩

lemma Printable.append (ha : Printable as) (hb : Printable bs) : Printable (as ++ bs) :=
  List.forall_mem_append.2 ⟨ha, hb⟩

/-! ### Strings and numbers -/

lemma printable_hexDigit : ∀ n < 16, 0x20 ≤ (hexDigit n).toNat := by
  decide

/-- A control character is replaced by others, and every other character stays as it is or gets a
backslash before it. -/
lemma printable_escape (c : Char) : Printable (escape c) := by
  unfold escape
  split_ifs with h₁ h₂ h₃ h₄ h₅ h₆ h₇ h₈
  iterate 7 decide
  · have hhigh := printable_hexDigit (c.toNat / 16) (by omega)
    have hlow := printable_hexDigit (c.toNat % 16) (by omega)
    have hlead : Printable ['\\', 'u', '0', '0'] := by decide
    exact hlead.append (.cons hhigh (.cons hlow .nil))
  · exact .cons (by omega) .nil

lemma printable_stringChars (s : String) : Printable (stringChars s) := by
  have hescaped : Printable (s.toList.flatMap escape) := by
    intro c hc
    obtain ⟨d, -, hc⟩ := List.mem_flatMap.1 hc
    exact printable_escape d c hc
  exact .cons (by decide) (hescaped.append (.cons (by decide) .nil))

lemma printable_digitsOf (n : Nat) : Printable (Decimal.digitsOf n) := by
  intro c hc
  have hdigit := isDigit_of_mem_digitsOf hc
  simp only [Char.isDigit, Bool.and_eq_true, decide_eq_true_eq] at hdigit
  have hzero : '0'.toNat ≤ c.toNat := hdigit.1
  exact Nat.le_trans (by decide) hzero

lemma printable_integer (n : Int) : Printable (Decimal.Layout.integer n) := by
  unfold Decimal.Layout.integer
  split
  · exact .cons (by decide) (printable_digitsOf _)
  · exact printable_digitsOf _

/-! ### Values -/

namespace Value

lemma printable_itemsChars {items : List Value} (h : ∀ v ∈ items, Printable v.chars) :
    Printable (itemsChars items) := by
  induction items with
  | nil => exact .nil
  | cons v vs ih =>
    obtain ⟨hv, hvs⟩ := List.forall_mem_cons.1 h
    cases vs with
    | nil => exact hv
    | cons w ws => exact hv.append (.cons (by decide) (ih hvs))

lemma printable_fieldsChars {fields : List (String × Value)}
    (h : ∀ f ∈ fields, Printable f.2.chars) : Printable (fieldsChars fields) := by
  induction fields with
  | nil => exact .nil
  | cons f fs ih =>
    obtain ⟨k, v⟩ := f
    obtain ⟨hv, hfs⟩ := List.forall_mem_cons.1 h
    have hlabel := printable_stringChars k
    cases fs with
    | nil => exact hlabel.append (.cons (by decide) hv)
    | cons g gs =>
      exact hlabel.append (.cons (by decide) (hv.append (.cons (by decide) (ih hfs))))

/-- The text of a value without blanks has no control character. -/
theorem printable_chars {v : Value} (h : v.Exact) : Printable v.chars := by
  induction h with
  | null => decide
  | boolean b => cases b <;> decide
  | integer n _ => exact printable_integer n
  | string s => exact printable_stringChars s
  | array items _ ih =>
    exact .cons (by decide) ((printable_itemsChars ih).append (.cons (by decide) .nil))
  | object fields _ ih =>
    exact .cons (by decide) ((printable_fieldsChars ih).append (.cons (by decide) .nil))

lemma notMem_compact {v : Value} (h : v.Exact) {c : Char} (hc : c.toNat < 0x20) :
    c ∉ v.compact.toList := by
  rw [compact, String.toList_ofList]
  intro hmem
  have hprintable := printable_chars h c hmem
  omega

end Value

end TaskCorpus.Json
