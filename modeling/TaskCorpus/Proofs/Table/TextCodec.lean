import TaskCorpus.Proofs.Json.Delivered
import TaskCorpus.Proofs.Table.Batches
import TaskCorpus.Table.TextCodec

/-!
The codec of text is lawful.

A column is laid out as a value nested no deeper than a reader may go, so `table?` finds every
table of the schema again. Its batches have all its rows.
-/

namespace TaskCorpus.Table

open Json (Value)

/-! ### Columns -/

inductive Column.Nested : Nat → Column → Prop
  | text (n : Nat) (values : List String) : Nested (n + 2) (.text values)
  | count (n : Nat) (values : List Nat) : Nested (n + 2) (.count values)
  | flag (n : Nat) (values : List Bool) : Nested (n + 2) (.flag values)
  | group (n rows : Nat) (fields : Columns) (h : ∀ f ∈ fields, Nested n f.2) :
      Nested (n + 3) (.group rows fields)
  | list (n : Nat) (lengths : List Nat) (item : Column) (h : Nested (n + 1) item) :
      Nested (n + 2) (.list lengths item)
  | other (n rows : Nat) : Nested (n + 1) (.other rows)

namespace Column

lemma natural?_naturalJson (n : Nat) : natural? (naturalJson n) = some n := by
  have h : Nat.ofDigitChars 10 (Decimal.digitsOf n) 0 = n := Nat.ofDigitChars_ten_toDigits
  simp [natural?, naturalJson, h]

lemma mapM_map {α : Type} {f : α → Value} {g : Value → Option α} (h : ∀ a, g (f a) = some a)
    (as : List α) : (as.map f).mapM g = some as := by
  induction as with
  | nil => rfl
  | cons a as ih => simp [h, ih]

lemma fieldsOf?_fieldsJson {fields : Columns} (h : ∀ f ∈ fields, ofJson? f.2.toJson = some f.2) :
    fieldsOf? (fieldsJson fields) = some fields := by
  induction fields with
  | nil => rfl
  | cons f fs ih =>
    obtain ⟨name, c⟩ := f
    have hc : ofJson? c.toJson = some c := h (name, c) (by simp)
    simp [fieldsJson, fieldJson, fieldsOf?, hc, ih fun x hx => h x (by simp [hx])]

lemma fieldsJson_eq_map (fields : Columns) :
    fieldsJson fields = fields.map fun f => .array [.string f.1, f.2.toJson] := by
  induction fields with
  | nil => rfl
  | cons f fs ih =>
    obtain ⟨name, c⟩ := f
    simp [fieldsJson, fieldJson, ih]

/-- A column is found again in the value that it is stored as. -/
theorem ofJson?_toJson {n : Nat} {c : Column} (h : c.Nested n) : ofJson? c.toJson = some c := by
  induction h with
  | text n values =>
    have hv : (values.map Value.string).mapM string? = some values :=
      mapM_map (f := Value.string) (g := string?) (fun _ => rfl) values
    simp only [toJson, ofJson?, hv, Option.map_some]
  | count n values => simp [toJson, ofJson?, mapM_map natural?_naturalJson]
  | flag n values =>
    have hv : (values.map Value.boolean).mapM boolean? = some values :=
      mapM_map (f := Value.boolean) (g := boolean?) (fun _ => rfl) values
    simp only [toJson, ofJson?, hv, Option.map_some]
  | group n rows fields _ ih =>
    simp [toJson, ofJson?, natural?_naturalJson, fieldsOf?_fieldsJson ih]
  | list n lengths item _ ih => simp [toJson, ofJson?, mapM_map natural?_naturalJson, ih]
  | other n rows => simp [toJson, ofJson?, natural?_naturalJson]

lemma exact_fields {fields : Columns} (h : ∀ f ∈ fields, f.2.toJson.Exact) :
    (Value.array (fieldsJson fields)).Exact := by
  rw [fieldsJson_eq_map]
  refine .array _ fun v hv => ?_
  obtain ⟨f, hf, rfl⟩ := List.mem_map.1 hv
  refine .array _ fun w hw => ?_
  rcases (by simpa using hw : w = .string f.1 ∨ w = f.2.toJson) with rfl | rfl
  exacts [.string _, h f hf]

lemma tidy_fields {fields : Columns} {n : Nat} (h : ∀ f ∈ fields, f.2.toJson.Tidy n) :
    (Value.array (fieldsJson fields)).Tidy (n + 2) := by
  rw [fieldsJson_eq_map]
  refine .array (n + 1) _ fun v hv => ?_
  obtain ⟨f, hf, rfl⟩ := List.mem_map.1 hv
  refine .array n _ fun w hw => ?_
  rcases (by simpa using hw : w = .string f.1 ∨ w = f.2.toJson) with rfl | rfl
  exacts [.string n _, h f hf]

theorem exact_toJson {n : Nat} {c : Column} (h : c.Nested n) : c.toJson.Exact := by
  induction h with
  | text n values => exact .single (.map fun s _ => .string s)
  | count n values => exact .single (.map fun _ _ => .string _)
  | flag n values => exact .single (.map fun b _ => .boolean b)
  | group n rows fields _ ih => exact .pair (exact_fields ih) (.string _)
  | list n lengths item _ ih => exact .pair ih (.map fun _ _ => .string _)
  | other n rows => exact .single (.string _)

theorem tidy_toJson {n : Nat} {c : Column} (h : c.Nested n) : c.toJson.Tidy n := by
  induction h with
  | text n values => exact .single (.map fun s _ => .string n s)
  | count n values => exact .single (.map fun _ _ => .string n _)
  | flag n values => exact .single (.map fun b _ => .boolean n b)
  | group n rows fields _ ih => exact .pair (by decide) (tidy_fields ih) (.string _ _)
  | list n lengths item _ ih => exact .pair (by decide) ih (.map fun _ _ => .string n _)
  | other n rows => exact .single (.string n _)

end Column

namespace TextCodec

theorem table?_write {columns : Columns} (h : ∀ c ∈ columns, c.2.Nested 125) :
    table? (write columns) = some columns := by
  have hexact := Column.exact_fields fun f hf => Column.exact_toJson (h f hf)
  have htidy := Column.tidy_fields fun f hf => Column.tidy_toJson (h f hf)
  have hread := Json.readText_compact hexact htidy
  have hbody : body? (text columns) =
      some (Value.array (Column.fieldsJson columns)).chars := by
    simp [body?, text]
  rw [Value.compact] at hread
  simp only [table?, write, Json.fromUTF8?_toUTF8, Option.bind_eq_bind, Option.bind_some,
    String.toList_ofList, hbody, hread]
  exact Column.fieldsOf?_fieldsJson fun f hf => Column.ofJson?_toJson (h f hf)

lemma nested_ofRecords (rs : List Record) : ∀ c ∈ ofRecords rs, c.2.Nested 125 := by
  simp only [ofRecords, scoringColumn, extraColumn, messageItems, callItems, List.forall_mem_cons]
  refine ⟨.text 123 _, .text 123 _, .list 123 _ _ (.group 121 _ _ ?_), .text 123 _,
    .group 122 _ _ ?_, .group 122 _ _ ?_, by simp⟩
  · simp only [List.forall_mem_cons]
    exact ⟨.text 119 _, .text 119 _, by simp⟩
  · simp only [List.forall_mem_cons]
    refine ⟨.text 120 _, .list 120 _ _ (.group 118 _ _ ?_), by simp⟩
    simp only [List.forall_mem_cons]
    exact ⟨.text 116 _, .text 116 _, by simp⟩
  · simp only [List.forall_mem_cons]
    exact ⟨.text 120 _, .count 120 _, .text 120 _, .text 120 _, .text 120 _, .flag 120 _,
      .text 120 _, .text 120 _, by simp⟩

lemma sum_batchSizes (rows : Nat) : (batchSizes rows).sum = rows := by
  have hdiv : rows / batchRows * batchRows + rows % batchRows = rows := Nat.div_add_mod' rows _
  rw [batchSizes, List.sum_append, List.sum_replicate_nat]
  split
  · rename_i hmod
    rwa [hmod] at hdiv
  · rwa [List.sum_singleton]

lemma batches?_write (rs : List Record) : batches? (write (ofRecords rs)) =
    some (((ofRecords rs).batches 0 (batchSizes rs.length)).map some) := by
  have hrows : (ofRecords rs).rows = rs.length := by simp [ofRecords, Columns.rows, Column.rows]
  rw [batches?, table?_write (nested_ofRecords rs), Option.map_some, hrows]

end TextCodec

theorem Codec.lawful_text : Codec.text.Lawful where
  restores h := by
    obtain ⟨rs, rfl, rfl⟩ := exists_records h
    refine ⟨_, TextCodec.sum_batchSizes rs.length, ?_⟩
    simp only [text, TextCodec.batches?_write]

end TaskCorpus.Table
