import TaskCorpus.Json.Reading
import TaskCorpus.Proofs.Json.Words

/-!
Printed values as documents.

`Value.words` are the words of a value and `Value.document` is the document that they amount
to. Both printers spell the same words, so a value without binary64 numbers is found again
in its text, with blanks or without.
-/

namespace TaskCorpus.Json

namespace Value

inductive Exact : Value → Prop
  | null : Exact .null
  | boolean (b : Bool) : Exact (.boolean b)
  | integer (n : Int) (h : IsWord n) : Exact (.number (.integer n))
  | string (s : String) : Exact (.string s)
  | array (items : List Value) (h : ∀ v ∈ items, Exact v) : Exact (.array items)
  | object (fields : List (String × Value)) (h : ∀ f ∈ fields, Exact f.2) : Exact (.object fields)

namespace Exact

variable {v w : Value} {k l : String}

lemma map {α : Type} {f : α → Value} {as : List α} (h : ∀ a ∈ as, (f a).Exact) :
    (Value.array (as.map f)).Exact := by
  refine .array _ fun v hv => ?_
  obtain ⟨a, ha, rfl⟩ := List.mem_map.1 hv
  exact h a ha

lemma single (h : v.Exact) : (Value.object [(k, v)]).Exact := .object _ (by simpa using h)

lemma pair (hv : v.Exact) (hw : w.Exact) : (Value.object [(k, v), (l, w)]).Exact :=
  .object _ (by simpa using ⟨hv, hw⟩)

end Exact

mutual

/-- The words of a value. -/
def words : Value → List Token
  | .null => [.null]
  | .boolean b => [.boolean b]
  | .number n => [.number (some n)]
  | .string s => [.string s]
  | .array items => .openArray :: (itemsWords items ++ [.closeArray])
  | .object fields => .openObject :: (fieldsWords fields ++ [.closeObject])

def itemsWords : List Value → List Token
  | [] => []
  | [v] => v.words
  | v :: w :: vs => v.words ++ .comma :: itemsWords (w :: vs)

def fieldsWords : List (String × Value) → List Token
  | [] => []
  | [(k, v)] => .string k :: .colon :: v.words
  | (k, v) :: f :: fs => .string k :: .colon :: (v.words ++ .comma :: fieldsWords (f :: fs))

end

/-! ### Both printers spell the words -/

lemma spells_mark_end {c : Char} {t : Token} (hc : isSpace c = false)
    (hw : ∀ r, word c r = (t, r)) : Spells [c] [t] := Spells.mark hc hw .nil

lemma spells_null : Spells ['n', 'u', 'l', 'l'] [.null] :=
  spells_of_word (by decide) fun _ _ => by simp [word, letters]

lemma spells_true : Spells ['t', 'r', 'u', 'e'] [.boolean true] :=
  spells_of_word (by decide) fun _ _ => by simp [word, letters]

lemma spells_false : Spells ['f', 'a', 'l', 's', 'e'] [.boolean false] :=
  spells_of_word (by decide) fun _ _ => by simp [word, letters]

lemma spells_comma {cs : List Char} {ts : List Token} (h : Spells cs ts) :
    Spells (',' :: cs) (.comma :: ts) := .mark (by decide) (fun _ => rfl) h

lemma spells_colon {cs : List Char} {ts : List Token} (h : Spells cs ts) :
    Spells (':' :: cs) (.colon :: ts) := .mark (by decide) (fun _ => rfl) h

lemma spells_label (k : String) {cs : List Char} {ts : List Token} (h : Spells cs ts) :
    Spells (stringChars k ++ ':' :: cs) (.string k :: .colon :: ts) :=
  (spells_string k).append (spells_colon h) (by simp [EndsNumber])

lemma spells_brackets {cs : List Char} {ts : List Token} (h : Spells cs ts) :
    Spells ('[' :: (cs ++ [']'])) (.openArray :: (ts ++ [.closeArray])) :=
  .mark (by decide) (fun _ => rfl)
    (h.append (spells_mark_end (by decide) fun _ => rfl) (by simp [EndsNumber]))

lemma spells_braces {cs : List Char} {ts : List Token} (h : Spells cs ts) :
    Spells ('{' :: (cs ++ ['}'])) (.openObject :: (ts ++ [.closeObject])) :=
  .mark (by decide) (fun _ => rfl)
    (h.append (spells_mark_end (by decide) fun _ => rfl) (by simp [EndsNumber]))

lemma spells_itemsChars {items : List Value} (h : ∀ v ∈ items, Spells v.chars v.words) :
    Spells (itemsChars items) (itemsWords items) := by
  induction items with
  | nil => exact .nil
  | cons v vs ih =>
    have hv := h v (by simp)
    have hvs := ih fun x hx => h x (by simp [hx])
    cases vs with
    | nil => exact hv
    | cons w ws => exact hv.append (spells_comma hvs) (by simp [EndsNumber])

lemma spells_fieldsChars {fields : List (String × Value)}
    (h : ∀ f ∈ fields, Spells f.2.chars f.2.words) :
    Spells (fieldsChars fields) (fieldsWords fields) := by
  induction fields with
  | nil => exact .nil
  | cons f fs ih =>
    obtain ⟨k, v⟩ := f
    have hv := h (k, v) (by simp)
    have hfs := ih fun x hx => h x (by simp [hx])
    cases fs with
    | nil => exact spells_label k hv
    | cons g gs => exact spells_label k (hv.append (spells_comma hfs) (by simp [EndsNumber]))

theorem spells_chars {v : Value} (h : v.Exact) : Spells v.chars v.words := by
  induction h with
  | null => exact spells_null
  | boolean b => cases b; exacts [spells_false, spells_true]
  | integer n h => exact spells_integer h
  | string s => exact spells_string s
  | array items _ ih => exact spells_brackets (spells_itemsChars ih)
  | object fields _ ih => exact spells_braces (spells_fieldsChars ih)

lemma spells_lineBreak (level : Nat) {cs : List Char} {ts : List Token} (h : Spells cs ts) :
    Spells (lineBreak level ++ cs) ts := by
  refine .space (by decide) ?_
  induction 2 * level with
  | zero => exact h
  | succ n ih => exact .space (by decide) ih

lemma endsNumber_lineBreak (level : Nat) (cs : List Char) : EndsNumber (lineBreak level ++ cs) := by
  simp [EndsNumber, lineBreak]

lemma spells_prettyItems {items : List Value} (level : Nat)
    (h : ∀ v ∈ items, Spells (v.prettyChars level) v.words) :
    Spells (prettyItems level items) (itemsWords items) := by
  induction items with
  | nil => exact .nil
  | cons v vs ih =>
    have hv := h v (by simp)
    have hvs := ih fun x hx => h x (by simp [hx])
    cases vs with
    | nil => exact spells_lineBreak level hv
    | cons w ws =>
      exact spells_lineBreak level (hv.append (spells_comma hvs) (by simp [EndsNumber]))

lemma spells_prettyFields {fields : List (String × Value)} (level : Nat)
    (h : ∀ f ∈ fields, Spells (f.2.prettyChars level) f.2.words) :
    Spells (prettyFields level fields) (fieldsWords fields) := by
  induction fields with
  | nil => exact .nil
  | cons f fs ih =>
    obtain ⟨k, v⟩ := f
    have hv := h (k, v) (by simp)
    have hfs := ih fun x hx => h x (by simp [hx])
    cases fs with
    | nil => exact spells_lineBreak level (spells_label k (.space (by decide) hv))
    | cons g gs =>
      have hrest := hv.append (spells_comma hfs) (by simp [EndsNumber])
      exact spells_lineBreak level (spells_label k (.space (by decide) hrest))

theorem spells_prettyChars {v : Value} (h : v.Exact) (level : Nat) :
    Spells (v.prettyChars level) v.words := by
  induction h generalizing level with
  | null => exact spells_null
  | boolean b => cases b; exacts [spells_false, spells_true]
  | integer n h => exact spells_integer h
  | string s => exact spells_string s
  | array items _ ih =>
    cases items with
    | nil => exact spells_brackets .nil
    | cons v vs =>
      -- the items stand one level deeper than the bracket that closes them
      have hvs := spells_prettyItems (level + 1) fun x hx => ih x hx (level + 1)
      have hend : Spells (lineBreak level ++ [']']) [.closeArray] :=
        spells_lineBreak level (spells_mark_end (by decide) fun _ => rfl)
      exact .mark (by decide) (fun _ => rfl) (hvs.append hend (endsNumber_lineBreak _ _))
  | object fields _ ih =>
    cases fields with
    | nil => exact spells_braces .nil
    | cons f fs =>
      have hfs := spells_prettyFields (level + 1) fun x hx => ih x hx (level + 1)
      have hend : Spells (lineBreak level ++ ['}']) [.closeObject] :=
        spells_lineBreak level (spells_mark_end (by decide) fun _ => rfl)
      exact .mark (by decide) (fun _ => rfl) (hfs.append hend (endsNumber_lineBreak _ _))

/-! ### The document of the words -/

mutual

/-- The document that the words of a value amount to. -/
def document : Value → Document
  | .null => .null
  | .boolean b => .boolean b
  | .number n => .number (some n)
  | .string s => .string s
  | .array items => .array (itemsDocuments items) none
  | .object fields => .object (fieldsDocuments fields) none

def itemsDocuments : List Value → List Document
  | [] => []
  | v :: vs => v.document :: itemsDocuments vs

def fieldsDocuments : List (String × Value) → List (Label × Document)
  | [] => []
  | (k, v) :: fs => (.text k, v.document) :: fieldsDocuments fs

end

lemma items_itemsDocuments {α β : Type} {read : Document → Except Failure β} {f : α → Value}
    {g : α → β} {as : List α} (h : ∀ a ∈ as, read (f a).document = .ok (g a)) :
    Reader.items read (itemsDocuments (as.map f)) none = .ok (as.map g) := by
  induction as with
  | nil => rfl
  | cons a as ih =>
    have has := ih fun x hx => h x (by simp [hx])
    simp only [List.map_cons, itemsDocuments, Reader.items, h a (by simp), has]
    rfl

/-- A turn in which a value may come. -/
def Awaits (t : Turn) : Prop := t = .value ∨ t = .firstItem ∨ t = .item

lemma step_scalar {stack : List Frame} {turn : Turn} (ht : Awaits turn) {t : Token}
    (hc : t ≠ .closeArray) : (Assembly.reading stack turn).step t = Assembly.onValue stack t := by
  rcases ht with rfl | rfl | rfl <;> simp [Assembly.step, hc]

mutual

theorem foldl_words (v : Value) (stack : List Frame) (turn : Turn) (ht : Awaits turn) :
    v.words.foldl Assembly.step (.reading stack turn) = Assembly.deliver v.document stack := by
  match v with
  | .null => rw [words, List.foldl_cons, step_scalar ht (by decide)]; rfl
  | .boolean b => rw [words, List.foldl_cons, step_scalar ht (by simp)]; rfl
  | .number n => rw [words, List.foldl_cons, step_scalar ht (by simp)]; rfl
  | .string s => rw [words, List.foldl_cons, step_scalar ht (by simp)]; rfl
  | .array items =>
    rw [words, List.foldl_cons, step_scalar ht (by decide), List.foldl_append]
    cases items with
    | nil => rfl
    | cons w ws =>
      have h := foldl_itemsWords (w :: ws) [] stack .firstItem (by simp) (.inr (.inl rfl))
      rw [Assembly.onValue, h, List.append_nil]
      simp only [List.foldl_cons, List.foldl_nil, Assembly.step, Assembly.onSeparator,
        List.reverse_reverse, document]
  | .object fields =>
    rw [words, List.foldl_cons, step_scalar ht (by decide), List.foldl_append]
    cases fields with
    | nil => rfl
    | cons f fs =>
      have h := foldl_fieldsWords (f :: fs) [] stack .firstLabel (by simp) (.inl rfl)
      rw [Assembly.onValue, h, List.append_nil]
      simp only [List.foldl_cons, List.foldl_nil, Assembly.step, Assembly.onSeparator,
        List.reverse_reverse, document]

theorem foldl_itemsWords (items : List Value) (done : List Document) (stack : List Frame)
    (turn : Turn) (hne : items ≠ []) (ht : Awaits turn) :
    (itemsWords items).foldl Assembly.step (.reading (.array done :: stack) turn) =
      .reading (.array ((itemsDocuments items).reverse ++ done) :: stack) .separator := by
  match items with
  | [] => exact absurd rfl hne
  | [v] =>
    rw [itemsWords, foldl_words v _ _ ht]
    rfl
  | v :: w :: ws =>
    rw [itemsWords, List.foldl_append, foldl_words v _ _ ht, List.foldl_cons]
    have h :=
      foldl_itemsWords (w :: ws) (v.document :: done) stack .item (by simp) (.inr (.inr rfl))
    simp only [Assembly.deliver, Assembly.step, Assembly.onSeparator]
    rw [h]
    simp [itemsDocuments]

theorem foldl_fieldsWords (fields : List (String × Value)) (done : List (Label × Document))
    (stack : List Frame) (turn : Turn) (hne : fields ≠ [])
    (ht : turn = .firstLabel ∨ turn = .label) :
    (fieldsWords fields).foldl Assembly.step (.reading (.object done :: stack) turn) =
      .reading (.object ((fieldsDocuments fields).reverse ++ done) :: stack) .separator := by
  match fields with
  | [] => exact absurd rfl hne
  | [(k, v)] =>
    have hv := foldl_words v (.field done (.text k) :: stack) .value (.inl rfl)
    rcases ht with rfl | rfl <;>
    · simp only [fieldsWords, List.foldl_cons, Assembly.step, Assembly.onLabel, reduceCtorEq,
        if_false, if_true]
      rw [hv]
      rfl
  | (k, v) :: f :: fs =>
    have hv := foldl_words v (.field done (.text k) :: stack) .value (.inl rfl)
    have h := foldl_fieldsWords (f :: fs) ((.text k, v.document) :: done) stack .label (by simp)
      (.inr rfl)
    rcases ht with rfl | rfl <;>
    · simp only [fieldsWords, List.foldl_cons, Assembly.step, Assembly.onLabel, reduceCtorEq,
        if_false, if_true, List.foldl_append]
      rw [hv]
      simp only [Assembly.deliver, Assembly.onSeparator]
      rw [h]
      simp [fieldsDocuments]

end

lemma assemble_words (v : Value) : assemble v.words = (v.document, true) := by
  rw [assemble, foldl_words v [] .value (.inl rfl)]
  rfl

lemma ofText_of_spells {cs : List Char} {v : Value} (h : Spells cs v.words) :
    Document.ofText (String.ofList cs) = (v.document, true) := by
  have ht := h [] trivial
  rw [List.append_nil] at ht
  rw [Document.ofText, String.toList_ofList, ht, tokens, List.append_nil, assemble_words]

/-- A value is found again in its text without blanks. -/
theorem ofText_compact {v : Value} (h : v.Exact) :
    Document.ofText v.compact = (v.document, true) := ofText_of_spells (spells_chars h)

theorem ofText_pretty {v : Value} (h : v.Exact) :
    Document.ofText (v.pretty ++ "\n") = (v.document, true) := by
  have hend : Spells ['\n'] [] := .space (by decide) .nil
  have ht := (spells_prettyChars h 0).append hend (by simp [EndsNumber])
  rw [List.append_nil] at ht
  have heq : v.pretty ++ "\n" = String.ofList (v.prettyChars 0 ++ ['\n']) := by
    rw [String.ofList_append]
    rfl
  rw [heq, ofText_of_spells ht]

end Value

lemma fromUTF8?_toUTF8 (s : String) : String.fromUTF8? s.toUTF8 = some s := by
  rw [String.toUTF8_eq_toByteArray, String.fromUTF8?, dif_pos s.isValidUTF8]
  rfl

end TaskCorpus.Json
