import Mathlib
import TaskCorpus.Proofs.Tool.Registered

/-!
The names of classes, and the tools that they are named after.

In a name in `SnakeCase` a word begins with a small letter, and so the capitals in the name of its
class mark the beginnings of the words, and nothing else. `toolName` goes back from them to the
underscores. It finds the name of the tool in the name of the class, whatever package that is in,
and so two tools never share a class.
-/

namespace TaskCorpus.Rollout

/-- A small letter, and then small letters and digits, all of them of ASCII. -/
def IsWord : List Char → Prop
  | [] => False
  | c :: cs => c.isLower = true ∧ ∀ d ∈ cs, d.isLower = true ∨ d.isDigit = true

instance : DecidablePred IsWord
  | [] => instDecidableFalse
  | _ :: cs => @instDecidableAnd _ _ inferInstance (List.decidableBAll _ cs)

/-- A name of one or more words, with an underscore between every two of them. -/
def SnakeCase (name : String) : Prop :=
  ∃ words : List (List Char), words ≠ [] ∧ (∀ w ∈ words, IsWord w) ∧
    name.toList = ['_'].intercalate words

/-- A capital as a small letter with an underscore before it. -/
def separated (c : Char) : List Char := if c.isUpper then ['_', c.toLower] else [c]

/-- The name of a tool, from what stands behind the last dot of the name of its class. The first
word has no underscore before it. -/
def toolName (className : String) : String :=
  String.ofList (((className.toList.rtakeWhile (· ≠ '.')).flatMap separated).drop 1)

variable {c : Char} {cs w : List Char} {ws : List (List Char)} {name package : String}
  {catalog : Tool.Catalog}

/-! ### Words -/

lemma isLower_or_isDigit_of_mem (h : IsWord w) (hc : c ∈ w) :
    c.isLower = true ∨ c.isDigit = true := by
  cases w with
  | nil => cases hc
  | cons d w =>
    rcases List.mem_cons.1 hc with rfl | hc
    · exact .inl h.1
    · exact h.2 c hc

lemma underscore_notMem (h : IsWord w) : '_' ∉ w := fun hmem => by
  rcases isLower_or_isDigit_of_mem h hmem with hc | hc <;> exact absurd hc (by decide)

lemma wordsFrom_eq (done cs : List Char) :
    wordsFrom done cs = List.splitOnPPrepend (· == '_') cs done := by
  induction cs generalizing done with
  | nil => rfl
  | cons c cs ih =>
    rw [wordsFrom, List.splitOnPPrepend_cons_eq_if, ih, ih]
    simp only [beq_iff_eq]
    rfl

lemma wordsFrom_nil_eq (cs : List Char) : wordsFrom [] cs = cs.splitOn '_' := wordsFrom_eq [] cs

lemma snakeCase_iff : SnakeCase name ↔ ∀ w ∈ wordsFrom [] name.toList, IsWord w := by
  rw [wordsFrom_nil_eq]
  constructor
  · rintro ⟨words, hne, hwords, hname⟩
    rw [hname, List.splitOn_intercalate _ (fun w hw => underscore_notMem (hwords w hw)) hne]
    exact hwords
  · exact fun hwords => ⟨_, List.splitOn_ne_nil _ _, hwords, (List.intercalate_splitOn _).symm⟩

instance : DecidablePred SnakeCase := fun _ => decidable_of_iff' _ snakeCase_iff

/-! ### Capitals -/

lemma capital_of_isLower (h : c.isLower = true) : Text.capital c = [c.toUpper] := by
  have hascii : c.toNat < 0x80 := by
    simp only [Char.isLower, Bool.and_eq_true, decide_eq_true_eq] at h
    have hle : c.toNat ≤ 122 := h.2
    omega
  rw [Text.capital, if_pos hascii]

lemma separated_toUpper (h : c.isLower = true) : separated c.toUpper = ['_', c] := by
  have hupper : c.toUpper.isUpper = true := by
    rw [Char.isUpper_toUpper_eq_isAlpha, Char.isAlpha, h, Bool.or_true]
  have hlower : c.toLower = c := Char.toLower_eq_of_not_isUpper (Char.not_isUpper_of_isLower h)
  rw [separated, if_pos hupper, Char.toLower_toUpper_eq_toLower, hlower]

lemma separated_of_small (h : c.isLower = true ∨ c.isDigit = true) : separated c = [c] := by
  have hupper : ¬ c.isUpper = true := by
    rcases h with h | h
    · exact Char.not_isUpper_of_isLower h
    · intro hupper
      simp only [Char.isUpper, Char.isDigit, Bool.and_eq_true, decide_eq_true_eq] at h hupper
      have hle : c.toNat ≤ 57 := h.2
      have hge : 65 ≤ c.toNat := hupper.1
      omega
  rw [separated, if_neg hupper]

lemma flatMap_separated_capitalized (h : IsWord w) :
    (capitalized w).flatMap separated = '_' :: w := by
  cases w with
  | nil => exact h.elim
  | cons c cs =>
    have htail : cs.flatMap separated = cs := by
      rw [List.flatMap_congr fun d hd => separated_of_small (h.2 d hd)]
      exact List.flatMap_singleton' cs
    rw [capitalized, capital_of_isLower h.1, List.singleton_append, List.flatMap_cons,
      separated_toUpper h.1, htail]
    rfl

lemma drop_flatMap_cons (hne : ws ≠ []) :
    (ws.flatMap fun w => '_' :: w).drop 1 = ['_'].intercalate ws := by
  induction ws with
  | nil => exact absurd rfl hne
  | cons w ws ih =>
    cases ws with
    | nil => simp
    | cons v ws =>
      have ih := ih (List.cons_ne_nil v ws)
      rw [List.intercalate_cons_cons, ← ih]
      simp

/-! ### Class names -/

lemma toList_classSuffix (name : String) :
    (classSuffix name).toList = (wordsFrom [] name.toList).flatMap capitalized :=
  String.toList_ofList

lemma dot_notMem_classSuffix (h : SnakeCase name) : '.' ∉ (classSuffix name).toList := by
  rw [toList_classSuffix, List.mem_flatMap]
  rintro ⟨w, hw, hdot⟩
  have hword := snakeCase_iff.1 h w hw
  -- the dot would be read as one in the word
  have hmem : '.' ∈ (capitalized w).flatMap separated :=
    List.mem_flatMap.2 ⟨'.', hdot, by decide⟩
  rw [flatMap_separated_capitalized hword, List.mem_cons] at hmem
  rcases hmem with hmem | hmem
  · exact absurd hmem (by decide)
  · rcases isLower_or_isDigit_of_mem hword hmem with hc | hc <;> exact absurd hc (by decide)

/-- The words are found again by their capitals. -/
lemma drop_flatMap_separated (h : SnakeCase name) :
    ((classSuffix name).toList.flatMap separated).drop 1 = name.toList := by
  have hwords := snakeCase_iff.1 h
  have hne : wordsFrom [] name.toList ≠ [] := by
    rw [wordsFrom_nil_eq]
    exact List.splitOn_ne_nil _ _
  calc ((classSuffix name).toList.flatMap separated).drop 1
      = ((wordsFrom [] name.toList).flatMap fun w => (capitalized w).flatMap separated).drop 1 := by
        rw [toList_classSuffix, List.flatMap_assoc]
    _ = ((wordsFrom [] name.toList).flatMap fun w => '_' :: w).drop 1 := by
        rw [List.flatMap_congr fun w hw => flatMap_separated_capitalized (hwords w hw)]
    _ = ['_'].intercalate (name.toList.splitOn '_') := by
        rw [drop_flatMap_cons hne, wordsFrom_nil_eq]
    _ = name.toList := List.intercalate_splitOn _

lemma toolName_classSuffix (package : String) (h : SnakeCase name) :
    toolName (package ++ "." ++ classSuffix name) = name := by
  have hdot : ∀ c ∈ (classSuffix name).toList.reverse, decide (c ≠ '.') = true := by
    intro c hc
    rw [decide_eq_true_eq]
    rintro rfl
    exact dot_notMem_classSuffix h (List.mem_reverse.1 hc)
  have hchars : (package ++ "." ++ classSuffix name).toList =
      package.toList ++ '.' :: (classSuffix name).toList := by simp
  have hbehind : (package ++ "." ++ classSuffix name).toList.rtakeWhile (· ≠ '.') =
      (classSuffix name).toList := by
    rw [hchars, List.rtakeWhile, List.reverse_append, List.reverse_cons, List.append_assoc,
      List.takeWhile_append_of_pos hdot, List.singleton_append,
      List.takeWhile_cons_of_neg (by simp), List.append_nil, List.reverse_reverse]
  rw [toolName, hbehind, drop_flatMap_separated h, String.ofList_toList]

/-! ### Catalogs -/

lemma toolName_binding {b : Binding} (h : ∀ s ∈ catalog.schemas, SnakeCase s.name)
    (hb : b ∈ bindings catalog package) : toolName b.className = b.schema.name := by
  obtain ⟨s, hs, rfl⟩ := List.mem_map.1 hb
  exact toolName_classSuffix package (h s hs)

lemma nodup_classNames (h : ∀ s ∈ catalog.schemas, SnakeCase s.name) :
    ((bindings catalog package).map (·.className)).Nodup := by
  have hnames : ((bindings catalog package).map (·.className)).map toolName =
      catalog.schemas.map (·.name) := by
    have hbinding : ∀ b ∈ bindings catalog package,
        (toolName ∘ Binding.className) b = b.schema.name := fun b hb => toolName_binding h hb
    rw [List.map_map, List.map_congr_left hbinding, bindings, List.map_map]
    rfl
  have hnodup : (catalog.schemas.map (·.name)).Nodup := by
    rw [catalog.names_eq]
    exact catalog.tools.nodup_keys
  rw [← hnames] at hnodup
  exact hnodup.of_map toolName

/-- **Class names**: two names in snake case never have the same class name. In a catalog with such
names, whichever tools have been registered, no class stands for two tools, and the class name of
each tool tells the name of the tool. -/
theorem classNames_distinct {start : Tool.Catalog} (es : List Tool.Entry) (package : String)
    (hsnake : ∀ s ∈ (start.registerAll es).schemas, SnakeCase s.name) :
    (∀ a b : String, SnakeCase a → SnakeCase b → classSuffix a = classSuffix b → a = b) ∧
    ((bindings (start.registerAll es) package).map (·.className)).Nodup ∧
    ∀ b ∈ bindings (start.registerAll es) package, toolName b.className = b.schema.name := by
  refine ⟨fun a b ha hb heq => ?_, nodup_classNames hsnake,
    fun b hb => toolName_binding hsnake hb⟩
  rw [← toolName_classSuffix "" ha, heq, toolName_classSuffix "" hb]

def secondRefund : Tool.Schema :=
  .function "refund2_order" "Gives money back." [("order_id", .string "Which order.")]

theorem classNames_distinct_retail :
    (∀ s ∈ (Tool.Retail.catalog.registerAll [⟨secondRefund, true⟩]).schemas, SnakeCase s.name) ∧
    ((bindings (Tool.Retail.catalog.registerAll [⟨secondRefund, true⟩]) "verl.tools").map
      (·.className)).Nodup ∧
    (bindings (Tool.Retail.catalog.registerAll [⟨secondRefund, true⟩]) "verl.tools").map
      (fun b => toolName b.className) = ["cancel_pending_order", "exchange_delivered_order_items",
        "find_user_id_by_email", "find_user_id_by_name_zip", "get_order_details",
        "get_product_details", "get_user_details", "refund2_order"] := by
  have hsnake : ∀ s ∈ (Tool.Retail.catalog.registerAll [⟨secondRefund, true⟩]).schemas,
      SnakeCase s.name := by
    decide +kernel
  obtain ⟨-, hnodup, hnames⟩ :=
    classNames_distinct [⟨secondRefund, true⟩] "verl.tools" hsnake
  refine ⟨hsnake, hnodup, ?_⟩
  rw [List.map_congr_left hnames]
  decide +kernel

/-- A word that begins with a digit has no capital to mark it. -/
example : classSuffix "step_2" = classSuffix "step2" := by decide

end TaskCorpus.Rollout
