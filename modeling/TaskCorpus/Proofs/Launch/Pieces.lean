import TaskCorpus.Proofs.Decimal.Integer
import TaskCorpus.Proofs.Launch.Spelling

/-!
The pieces of a value.

`Value.tokens` are the pieces of a value inside a list or table. Those of a `Plain` value spell its
text and leave no quote and no backslash outside of texts, so its text says what they are
(`tokens_of_chars`).
-/

namespace TaskCorpus.Launch

open Value (structural)

/-- The characters of a word outside of quotes. -/
abbrev marks (cs : List Char) : List Token := cs.map .mark

lemma marks_inj {cs ds : List Char} (h : marks cs = marks ds) : cs = ds :=
  List.map_injective_iff.2 (fun _ _ => Token.mark.inj) h

/-- The pieces of several parts with commas between them, and before the first one if `follows`. -/
def separated {α : Type} (f : α → List Token) (follows : Bool) : List α → List Token
  | [] => []
  | a :: as => (if follows then [.mark ','] else []) ++ (f a ++ separated f true as)

lemma clean_marks {cs : List Char} (h : ∀ c ∈ cs, c ∉ structural) : ∀ t ∈ marks cs, t.Clean := by
  intro t ht
  obtain ⟨c, hc, rfl⟩ := List.mem_map.1 ht
  have hne : ∀ d ∈ structural, c ≠ d := fun d hd hcd => h c hc (hcd ▸ hd)
  exact ⟨hne '\'' (by decide), hne '\\' (by decide)⟩

lemma clean_separated {α : Type} {f : α → List Token} {as : List α}
    (h : ∀ a ∈ as, ∀ t ∈ f a, t.Clean) (follows : Bool) :
    ∀ t ∈ separated f follows as, t.Clean := by
  induction as generalizing follows with
  | nil => simp [separated]
  | cons a as ih =>
    obtain ⟨ha, has⟩ := List.forall_mem_cons.1 h
    have hcomma : ∀ t ∈ (if follows then [Token.mark ','] else []), t.Clean := by
      cases follows <;> simp [Token.Clean]
    simp only [separated, List.forall_mem_append]
    exact ⟨hcomma, ha, ih has true⟩

namespace Value

variable {v w : Value}

/-- A value of texts, integers and truth values whose keys have no structural characters. -/
inductive Plain : Value → Prop
  | string (s : String) : Plain (.string s)
  | integer (n : Int) : Plain (.integer n)
  | boolean (b : Bool) : Plain (.boolean b)
  | list (vs : List Value) (h : ∀ v ∈ vs, Plain v) : Plain (.list vs)
  | table (es : List (String × Value)) (hk : ∀ e ∈ es, ∀ c ∈ e.1.toList, c ∉ structural)
      (h : ∀ e ∈ es, Plain e.2) : Plain (.table es)

/-! ### Pieces -/

mutual

/-- The pieces of a value inside a list or table. -/
def tokens : Value → List Token
  | .string s => [.text s.toList]
  | .integer n => marks (Decimal.Layout.integer n)
  | .float x => marks (floatLayout.render x)
  | .boolean b => marks ((Value.boolean b).chars true)
  | .datetime d => marks (bareOrQuoted d.chars)
  | .list vs => .mark '[' :: (itemsTokens false vs ++ [.mark ']'])
  | .table es => .mark '{' :: (entriesTokens false es ++ [.mark '}'])

def itemsTokens (follows : Bool) : List Value → List Token
  | [] => []
  | v :: vs => (if follows then [.mark ','] else []) ++ (v.tokens ++ itemsTokens true vs)

def entriesTokens (follows : Bool) : List (String × Value) → List Token
  | [] => []
  | e :: es => (if follows then [.mark ','] else []) ++ (entryTokens e ++ entriesTokens true es)

def entryTokens : String × Value → List Token
  | (k, v) => marks k.toList ++ .mark ':' :: v.tokens

end

lemma entryTokens_eq (e : String × Value) :
    entryTokens e = marks e.1.toList ++ .mark ':' :: e.2.tokens := by
  cases e
  rw [entryTokens]

lemma entryChars_eq (e : String × Value) :
    entryChars e = e.1.toList ++ ':' :: e.2.chars true := by
  cases e
  rw [entryChars]

lemma itemsTokens_eq (follows : Bool) (vs : List Value) :
    itemsTokens follows vs = separated tokens follows vs := by
  induction vs generalizing follows with
  | nil => rfl
  | cons v vs ih => rw [itemsTokens, separated, ih]

lemma entriesTokens_eq (follows : Bool) (es : List (String × Value)) :
    entriesTokens follows es = separated entryTokens follows es := by
  induction es generalizing follows with
  | nil => rfl
  | cons e es ih => rw [entriesTokens, separated, ih]

/-! ### The text of the pieces -/

lemma spell_itemsTokens {vs : List Value} (h : ∀ v ∈ vs, spell v.tokens = v.chars true)
    (follows : Bool) : spell (itemsTokens follows vs) = itemsChars follows vs := by
  induction vs generalizing follows with
  | nil => rfl
  | cons v vs ih =>
    obtain ⟨hv, hvs⟩ := List.forall_mem_cons.1 h
    cases follows <;> simp [itemsTokens, itemsChars, hv, ih hvs]

lemma spell_entriesTokens {es : List (String × Value)}
    (h : ∀ e ∈ es, spell e.2.tokens = e.2.chars true) (follows : Bool) :
    spell (entriesTokens follows es) = entriesChars follows es := by
  induction es generalizing follows with
  | nil => rfl
  | cons e es ih =>
    obtain ⟨he, hes⟩ := List.forall_mem_cons.1 h
    cases follows <;>
      simp [entriesTokens, entryTokens_eq, entriesChars, entryChars_eq, he, ih hes]

theorem spell_tokens (h : v.Plain) : spell v.tokens = v.chars true := by
  induction h with
  | string s => simp [tokens, chars, quote]
  | integer n => simp [tokens, chars]
  | boolean b => simp [tokens]
  | list vs _ ih => simp [tokens, chars, spell_itemsTokens ih]
  | table es _ _ ih => simp [tokens, chars, spell_entriesTokens ih]

/-! ### What stands outside of texts -/

lemma not_structural_of_mem_integer {n : Int} {c : Char} (h : c ∈ Decimal.Layout.integer n) :
    c ∉ structural := by
  have hstructural : ∀ d ∈ structural, d ≠ '-' ∧ d.isDigit = false := by simp [structural]
  exact fun hc => Decimal.Layout.ne_of_mem_integer h (hstructural c hc) rfl

/-- No quote and no backslash stands outside of the texts of a plain value. -/
theorem clean_tokens (h : v.Plain) : ∀ t ∈ v.tokens, t.Clean := by
  induction h with
  | string s => simp [tokens, Token.Clean]
  | integer n => exact clean_marks fun c hc => not_structural_of_mem_integer hc
  | boolean b => cases b <;> simp [tokens, chars, Token.Clean]
  | list vs _ ih =>
    have hitems := clean_separated ih false
    simp only [tokens, itemsTokens_eq, List.forall_mem_cons, List.forall_mem_append]
    exact ⟨by simp [Token.Clean], hitems, by simp [Token.Clean]⟩
  | table es hk _ ih =>
    have hentries : ∀ e ∈ es, ∀ t ∈ entryTokens e, t.Clean := by
      intro e he
      simp only [entryTokens_eq, List.forall_mem_append, List.forall_mem_cons]
      exact ⟨clean_marks (hk e he), by simp [Token.Clean], ih e he⟩
    simp only [tokens, entriesTokens_eq, List.forall_mem_cons, List.forall_mem_append]
    exact ⟨by simp [Token.Clean], clean_separated hentries false, by simp [Token.Clean]⟩

theorem tokens_of_chars (hv : v.Plain) (hw : w.Plain) (h : v.chars true = w.chars true) :
    v.tokens = w.tokens := by
  refine spell_inj (clean_tokens hv) (clean_tokens hw) ?_
  rw [spell_tokens hv, spell_tokens hw, h]

end Value

end TaskCorpus.Launch
