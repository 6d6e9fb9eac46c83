import TaskCorpus.Proofs.List.Split
import TaskCorpus.Table.Layout
import TaskCorpus.Table.Schema

/-!
When records are read from a table, and what is said otherwise.

`columnDemands` and `itemDemands` list the columns that a table of records must have: those of the
table and of its groups, and those of the items of its lists, which only matter where there is a
row. `Decides` says of a part of the reader that it goes by some of these demands, in their order;
it holds of the look-up of one column, and is carried from parts to the whole.
-/

namespace TaskCorpus.Table

/-! ### Demands -/

inductive Form where
  | text
  | count
  | flag
  | group
  | list
  /-- Lists whose items are groups. -/
  | groups

inductive Form.Admits : Form → Column → Prop
  | text (values : List String) : Admits .text (.text values)
  | count (values : List Nat) : Admits .count (.count values)
  | flag (values : List Bool) : Admits .flag (.flag values)
  | group (rows : Nat) (fields : Columns) : Admits .group (.group rows fields)
  | list (lengths : List Nat) (item : Column) : Admits .list (.list lengths item)
  | groups (lengths : List Nat) (rows : Nat) (fields : Columns) :
      Admits .groups (.list lengths (.group rows fields))

/-- The columns inside a column: those of its groups, or of the groups in its lists. -/
def Column.fields : Column → Columns
  | .group _ fields => fields
  | .list _ (.group _ fields) => fields
  | _ => []

/-- The columns inside the columns of the given names, one inside the other. Of several columns of
one name the first counts. -/
def Columns.inside (columns : Columns) : List String → Columns
  | [] => columns
  | name :: names =>
    match findEntry name columns with
    | some c => Columns.inside c.fields names
    | none => []

structure Demand where
  /-- The columns around it, from the outside. -/
  within : List String
  name : String
  form : Form
  /-- What the column is called if it is of another form. -/
  place : String

/-- The columns of the table and of its groups, in the order in which they are asked for. -/
def columnDemands : List Demand := [
  ⟨[], "data_source", .text, "data_source"⟩,
  ⟨[], "agent_name", .text, "agent_name"⟩,
  ⟨[], "prompt", .list, "prompt"⟩,
  ⟨[], "ability", .text, "ability"⟩,
  ⟨[], "reward_model", .group, "reward_model"⟩,
  ⟨["reward_model"], "style", .text, "reward_model.style"⟩,
  ⟨["reward_model"], "ground_truth", .list, "reward_model.ground_truth"⟩,
  ⟨[], "extra_info", .group, "extra_info"⟩,
  ⟨["extra_info"], "split", .text, "extra_info.split"⟩,
  ⟨["extra_info"], "index", .count, "extra_info.index"⟩,
  ⟨["extra_info"], "task_id", .text, "extra_info.task_id"⟩,
  ⟨["extra_info"], "user_id", .text, "extra_info.user_id"⟩,
  ⟨["extra_info"], "question", .text, "extra_info.question"⟩,
  ⟨["extra_info"], "need_tools_kwargs", .flag, "extra_info.need_tools_kwargs"⟩,
  ⟨["extra_info"], "tools_kwargs", .text, "extra_info.tools_kwargs"⟩,
  ⟨["extra_info"], "interaction_kwargs", .text, "extra_info.interaction_kwargs"⟩]

def messageDemands : List Demand := [
  ⟨[], "prompt", .groups, "prompt"⟩,
  ⟨["prompt"], "role", .text, "prompt.role"⟩,
  ⟨["prompt"], "content", .text, "prompt.content"⟩]

def callDemands : List Demand := [
  ⟨["reward_model"], "ground_truth", .groups, "ground_truth"⟩,
  ⟨["reward_model", "ground_truth"], "name", .text, "ground_truth.name"⟩,
  ⟨["reward_model", "ground_truth"], "kwargs", .text, "ground_truth.kwargs"⟩]

/-- What the items of the lists have to be. -/
def itemDemands : List Demand := messageDemands ++ callDemands

namespace Demand

def column? (d : Demand) (columns : Columns) : Option Column :=
  findEntry d.name (columns.inside d.within)

/-- The column is there and has the right form. -/
def Met (d : Demand) (columns : Columns) : Prop := ∃ c, d.column? columns = some c ∧ d.form.Admits c

inductive Broken (d : Demand) (columns : Columns) : RecordFlaw → Prop
  | missing (h : d.column? columns = none) : Broken d columns (.column d.name)
  | mistyped {c : Column} (h : d.column? columns = some c) (hc : ¬ d.form.Admits c) :
      Broken d columns (.column d.place)

end Demand

/-- The first demand that is not met. -/
def FirstBroken (columns : Columns) (ds : List Demand) (flaw : RecordFlaw) : Prop :=
  First (·.Met columns) (fun _ d => d.Broken columns flaw) ds

/-! ### Tables of records -/

def NamesSplit (text : String) : Prop := text = "train" ∨ text = "test"

structure Readable (n : Nat) (columns : Columns) : Prop where
  met : ∀ d ∈ columnDemands, d.Met columns
  /-- Even if all lists are empty. -/
  items : 0 < n → ∀ d ∈ itemDemands, d.Met columns
  splits : ∀ text ∈ splitTexts columns, NamesSplit text

/-- The first fault of a table of `n` rows: a column, the items of a list, or else the name of the
split of a row. -/
inductive FirstFault (n : Nat) (columns : Columns) : Error → Prop
  | column {flaw : RecordFlaw} (first : FirstBroken columns columnDemands flaw) :
      FirstFault n columns (.record flaw)
  | item {flaw : RecordFlaw} (met : ∀ d ∈ columnDemands, d.Met columns) (row : 0 < n)
      (first : FirstBroken columns itemDemands flaw) : FirstFault n columns (.record flaw)
  | split {flaw : SettingFlaw} (met : ∀ d ∈ columnDemands, d.Met columns)
      (items : ∀ d ∈ itemDemands, d.Met columns)
      (first : First NamesSplit (fun _ text => ¬ NamesSplit text ∧ flaw = .unknownSplit text)
        (splitTexts columns)) : FirstFault n columns (.setting flaw)

/-! ### The reader goes by the demands -/

variable {α β : Type} {columns : Columns} {n : Nat} {d : Demand} {ds es : List Demand}
  {flaw : RecordFlaw}

lemma FirstBroken.here (h : d.Broken columns flaw) : FirstBroken columns (d :: ds) flaw :=
  first_cons.2 (.inl h)

lemma FirstBroken.later (hd : d.Met columns) (h : FirstBroken columns ds flaw) :
    FirstBroken columns (d :: ds) flaw := first_cons.2 (.inr ⟨hd, h⟩)

lemma Demand.Broken.not_met (h : d.Broken columns flaw) : ¬ d.Met columns := by
  rintro ⟨c, hc, hadmits⟩
  cases h with
  | missing hnone =>
    rw [hc] at hnone
    cases hnone
  | mistyped hsome hrefuses =>
    cases hc.symm.trans hsome
    exact hrefuses hadmits

lemma Demand.Broken.unique {flaw' : RecordFlaw} (h : d.Broken columns flaw)
    (h' : d.Broken columns flaw') : flaw = flaw' := by
  cases h with
  | missing hnone =>
    cases h' with
    | missing => rfl
    | mistyped hsome => cases hnone.symm.trans hsome
  | mistyped hsome =>
    cases h' with
    | missing hnone => cases hnone.symm.trans hsome
    | mistyped => rfl

lemma FirstBroken.not_met (h : FirstBroken columns ds flaw) : ¬ ∀ d ∈ ds, d.Met columns :=
  First.not_forall h fun _ _ => Demand.Broken.not_met

lemma FirstBroken.unique {flaw' : RecordFlaw} (h : FirstBroken columns ds flaw)
    (h' : FirstBroken columns ds flaw') : flaw = flaw' := by
  obtain ⟨-, d, hd, hd'⟩ :=
    First.unique h h' (fun _ _ => Demand.Broken.not_met) fun _ _ => Demand.Broken.not_met
  exact hd.unique hd'

lemma FirstFault.not_readable {error : Error} (h : FirstFault n columns error) :
    ¬ Readable n columns := by
  rintro ⟨hmet, hitems, hsplits⟩
  cases h with
  | column first => exact first.not_met hmet
  | item _ row first => exact first.not_met (hitems row)
  | split _ _ first => exact first.not_forall (fun _ _ h => h.1) hsplits

lemma FirstFault.unique {error error' : Error} (h : FirstFault n columns error)
    (h' : FirstFault n columns error') : error = error' := by
  cases h with
  | column first =>
    cases h' with
    | column first' => rw [first.unique first']
    | item met => exact absurd met first.not_met
    | split met => exact absurd met first.not_met
  | item met _ first =>
    cases h' with
    | column first' => exact absurd met first'.not_met
    | item _ _ first' => rw [first.unique first']
    | split _ items => exact absurd items first.not_met
  | split met items first =>
    cases h' with
    | column first' => exact absurd met first'.not_met
    | item _ _ first' => exact absurd items first'.not_met
    | split _ _ first' =>
      obtain ⟨-, text, ⟨-, rfl⟩, -, rfl⟩ :=
        First.unique first first' (fun _ _ h => h.1) fun _ _ h => h.1
      rfl

/-- What is read fails exactly as the first demand that is not met says, and is good otherwise. -/
inductive Decides (columns : Columns) (ds : List Demand) (P : α → Prop) :
    Except RecordFlaw α → Prop
  | ok {a : α} (met : ∀ d ∈ ds, d.Met columns) (h : P a) : Decides columns ds P (.ok a)
  | error {flaw : RecordFlaw} (first : FirstBroken columns ds flaw) :
      Decides columns ds P (.error flaw)

namespace Decides

variable {P : α → Prop} {Q : β → Prop}

lemma append {r : Except RecordFlaw β} (hds : ∀ d ∈ ds, d.Met columns)
    (h : Decides columns es Q r) : Decides columns (ds ++ es) Q r := by
  induction ds with
  | nil => exact h
  | cons d ds ih =>
    obtain ⟨hd, hds⟩ := List.forall_mem_cons.1 hds
    cases ih hds with
    | ok met hb => exact .ok (List.forall_mem_cons.2 ⟨hd, met⟩) hb
    | error first => exact .error (first.later hd)

lemma bind {r : Except RecordFlaw α} {f : α → Except RecordFlaw β} (h : Decides columns ds P r)
    (hf : ∀ a, P a → Decides columns es Q (f a)) : Decides columns (ds ++ es) Q (r >>= f) := by
  cases h with
  | error first => exact .error (First.append first es)
  | ok met h => exact (hf _ h).append met

lemma column {take? : Column → Option α} {form : Form}
    (htake : ∀ c, (∃ a, take? c = some a) ↔ form.Admits c) {fields : Columns}
    {within : List String} (hfields : columns.inside within = fields) (name place : String) :
    Decides columns [⟨within, name, form, place⟩]
      (fun a => ∃ c, findEntry name fields = some c ∧ take? c = some a)
      (Table.column take? fields name place) := by
  subst hfields
  have hcolumn : (⟨within, name, form, place⟩ : Demand).column? columns =
      findEntry name (columns.inside within) := rfl
  cases hfind : findEntry name (columns.inside within) with
  | none =>
    simp only [Table.column, hfind]
    exact .error (.here (.missing (hcolumn.trans hfind)))
  | some c =>
    cases ha : take? c with
    | some a =>
      have hmet : (⟨within, name, form, place⟩ : Demand).Met columns :=
        ⟨c, hcolumn.trans hfind, (htake c).1 ⟨a, ha⟩⟩
      simp only [Table.column, hfind, ha]
      exact .ok (List.forall_mem_singleton.2 hmet) ⟨c, rfl, ha⟩
    | none =>
      have hc : ¬ form.Admits c := fun hadmits => by
        obtain ⟨a, ha'⟩ := (htake c).2 hadmits
        rw [ha] at ha'
        cases ha'
      simp only [Table.column, hfind, ha]
      exact .error (.here (.mistyped (hcolumn.trans hfind) hc))

end Decides

/-! ### Readers of one form -/

lemma texts?_eq_some {c : Column} {values : List String} :
    texts? c = some values ↔ c = .text values := by
  cases c <;> simp [texts?]

lemma fields?_eq_some {c : Column} {fields : Columns} :
    fields? c = some fields ↔ ∃ rows, c = .group rows fields := by
  cases c <;> simp [fields?]

lemma lists?_eq_some {c : Column} {l : List Nat × Column} :
    lists? c = some l ↔ c = .list l.1 l.2 := by
  cases c <;> simp [lists?, Prod.ext_iff]

lemma exists_texts? (c : Column) : (∃ a, texts? c = some a) ↔ Form.text.Admits c := by
  cases c with
  | text values => exact ⟨fun _ => .text values, fun _ => ⟨values, rfl⟩⟩
  | _ => exact ⟨by simp [texts?], nofun⟩

lemma exists_counts? (c : Column) : (∃ a, counts? c = some a) ↔ Form.count.Admits c := by
  cases c with
  | count values => exact ⟨fun _ => .count values, fun _ => ⟨values, rfl⟩⟩
  | _ => exact ⟨by simp [counts?], nofun⟩

lemma exists_flags? (c : Column) : (∃ a, flags? c = some a) ↔ Form.flag.Admits c := by
  cases c with
  | flag values => exact ⟨fun _ => .flag values, fun _ => ⟨values, rfl⟩⟩
  | _ => exact ⟨by simp [flags?], nofun⟩

lemma exists_fields? (c : Column) : (∃ a, fields? c = some a) ↔ Form.group.Admits c := by
  cases c with
  | group rows fields => exact ⟨fun _ => .group rows fields, fun _ => ⟨fields, rfl⟩⟩
  | _ => exact ⟨by simp [fields?], nofun⟩

lemma exists_lists? (c : Column) : (∃ a, lists? c = some a) ↔ Form.list.Admits c := by
  cases c with
  | list lengths item => exact ⟨fun _ => .list lengths item, fun _ => ⟨(lengths, item), rfl⟩⟩
  | _ => exact ⟨by simp [lists?], nofun⟩

/-! ### All columns -/

structure Checked.Stands (columns : Columns) (c : Checked) : Prop where
  prompt : findEntry "prompt" columns = some (.list c.promptLengths c.promptItem)
  truth : findEntry "ground_truth" (columns.inside ["reward_model"]) =
    some (.list c.truthLengths c.truthItem)
  split : ∃ rows fields, findEntry "extra_info" columns = some (.group rows fields) ∧
    findEntry "split" fields = some (.text c.split)

lemma inside_append (within : List String) {name : String} {c : Column}
    (h : findEntry name (columns.inside within) = some c) :
    columns.inside (within ++ [name]) = c.fields := by
  induction within generalizing columns with
  | nil =>
    change findEntry name columns = some c at h
    simp only [List.nil_append, Columns.inside, h]
  | cons outer within ih =>
    simp only [List.cons_append, Columns.inside] at h ⊢
    split at h
    · exact ih h
    · cases h

lemma decides_check (columns : Columns) :
    Decides columns columnDemands (Checked.Stands columns) (check columns) := by
  have htop : columns.inside [] = columns := rfl
  unfold check
  refine (Decides.column exists_texts? htop _ _).bind fun dataSource _ => ?_
  refine (Decides.column exists_texts? htop _ _).bind fun agentName _ => ?_
  refine (Decides.column exists_lists? htop _ _).bind fun prompt hprompt => ?_
  refine (Decides.column exists_texts? htop _ _).bind fun ability _ => ?_
  refine (Decides.column exists_fields? htop _ _).bind fun scoring hscoring => ?_
  -- the columns of a group are looked up inside the one that has been found
  obtain ⟨_, hfind, htake⟩ := hscoring
  obtain ⟨scoringRows, rfl⟩ := fields?_eq_some.1 htake
  have hinside : columns.inside ["reward_model"] = scoring := inside_append [] hfind
  refine (Decides.column exists_texts? hinside _ _).bind fun style _ => ?_
  refine (Decides.column exists_lists? hinside _ _).bind fun truth htruth => ?_
  refine (Decides.column exists_fields? htop _ _).bind fun extra hextra => ?_
  obtain ⟨_, hfindExtra, htake⟩ := hextra
  obtain ⟨extraRows, rfl⟩ := fields?_eq_some.1 htake
  have hextra : columns.inside ["extra_info"] = extra := inside_append [] hfindExtra
  refine (Decides.column exists_texts? hextra _ _).bind fun split hsplit => ?_
  refine (Decides.column exists_counts? hextra _ _).bind fun index _ => ?_
  refine (Decides.column exists_texts? hextra _ _).bind fun taskId _ => ?_
  refine (Decides.column exists_texts? hextra _ _).bind fun userId _ => ?_
  refine (Decides.column exists_texts? hextra _ _).bind fun question _ => ?_
  refine (Decides.column exists_flags? hextra _ _).bind fun needsTools _ => ?_
  refine (Decides.column exists_texts? hextra _ _).bind fun toolArguments _ => ?_
  refine (Decides.column exists_texts? hextra _ _).bind fun interactionArguments _ => ?_
  refine .ok (by simp) ⟨?_, ?_, ?_⟩
  · obtain ⟨c, hc, htake⟩ := hprompt
    rw [hc, lists?_eq_some.1 htake]
  · obtain ⟨c, hc, htake⟩ := htruth
    rw [hinside, hc, lists?_eq_some.1 htake]
  · obtain ⟨c, hc, htake⟩ := hsplit
    rw [texts?_eq_some.1 htake] at hc
    exact ⟨extraRows, extra, hfindExtra, hc⟩

/-! ### Items -/

/-- A list that holds something else than groups breaks the first demand on its items. -/
lemma decides_itemFields (within : List String) {name place : String} {lengths : List Nat}
    {item : Column} (h : findEntry name (columns.inside within) = some (.list lengths item)) :
    Decides columns [⟨within, name, .groups, place⟩]
      (fun fields => ∃ rows, item = .group rows fields) (itemFields item place) := by
  have hcolumn : (⟨within, name, .groups, place⟩ : Demand).column? columns =
      some (.list lengths item) := h
  unfold itemFields
  cases hfields : fields? item with
  | some fields =>
    obtain ⟨rows, rfl⟩ := fields?_eq_some.1 hfields
    exact .ok (List.forall_mem_singleton.2 ⟨_, hcolumn, .groups lengths rows fields⟩) ⟨rows, rfl⟩
  | none =>
    refine .error (.here (.mistyped hcolumn fun hadmits => ?_))
    cases hadmits
    cases hfields

lemma decides_messageRows {lengths : List Nat} {item : Column}
    (h : findEntry "prompt" columns = some (.list lengths item)) :
    Decides columns messageDemands (fun _ => True) (messageRows lengths item) := by
  unfold messageRows
  refine (decides_itemFields [] h).bind fun fields hitem => ?_
  obtain ⟨rows, rfl⟩ := hitem
  have hinside : columns.inside ["prompt"] = fields :=
    inside_append [] h
  refine (Decides.column exists_texts? hinside _ _).bind fun roles _ => ?_
  refine (Decides.column exists_texts? hinside _ _).bind fun contents _ => ?_
  exact .ok (by simp) trivial

lemma decides_callRows {lengths : List Nat} {item : Column}
    (h : findEntry "ground_truth" (columns.inside ["reward_model"]) = some (.list lengths item)) :
    Decides columns callDemands (fun _ => True) (callRows lengths item) := by
  unfold callRows
  refine (decides_itemFields ["reward_model"] h).bind fun fields hitem => ?_
  obtain ⟨rows, rfl⟩ := hitem
  have hinside : columns.inside ["reward_model", "ground_truth"] = fields :=
    inside_append ["reward_model"] h
  refine (Decides.column exists_texts? hinside _ _).bind fun names _ => ?_
  refine (Decides.column exists_texts? hinside _ _).bind fun arguments _ => ?_
  exact .ok (by simp) trivial

def itemRows (c : Checked) : Except RecordFlaw (List (List Message) × List (List Call)) := do
  let messages ← messageRows c.promptLengths c.promptItem
  let calls ← callRows c.truthLengths c.truthItem
  pure (messages, calls)

lemma Checked.Stands.decides_itemRows {c : Checked} (h : c.Stands columns) :
    Decides columns itemDemands (fun _ => True) (itemRows c) := by
  refine (decides_messageRows h.prompt).bind fun messages _ => ?_
  refine (decides_callRows h.truth).bind fun calls _ => ?_
  exact .ok (by simp) trivial

lemma toRecords_eq (columns : Columns) : toRecords columns =
    match check columns with
    | .error flaw => .error (.record flaw)
    | .ok c =>
      if columns.rows = 0 then .ok []
      else
        match itemRows c with
        | .error flaw => .error (.record flaw)
        | .ok (messages, calls) =>
          (c.recordsOf messages calls (List.range columns.rows)).mapError .setting := by
  unfold toRecords itemRows
  rcases check columns with flaw | c
  · rfl
  · dsimp only
    split
    · rfl
    · rcases messageRows c.promptLengths c.promptItem with flaw | messages
      · rfl
      · rcases callRows c.truthLengths c.truthItem with flaw | calls
        · rfl
        · change _ = (c.recordsOf messages calls (List.range columns.rows)).mapError Error.setting
          dsimp only
          rcases c.recordsOf messages calls (List.range columns.rows) with flaw | rs <;> rfl

/-! ### Rows -/

lemma ofName?_eq_none_iff {text : String} : Split.ofName? text = none ↔ ¬ NamesSplit text := by
  by_cases htrain : text = "train"
  · simp [Split.ofName?, Split.all, Split.name, NamesSplit, htrain]
  · by_cases htest : text = "test"
    · simp [Split.ofName?, Split.all, Split.name, NamesSplit, htest]
    · simp [Split.ofName?, Split.all, Split.name, NamesSplit, Ne.symm htrain, Ne.symm htest, htrain,
        htest]

lemma recordsOf_outcome (c : Checked) (messages : List (List Message)) (calls : List (List Call))
    (rows : List Nat) :
    match c.recordsOf messages calls rows with
    | .ok _ => ∀ text ∈ rows.map (c.split.getD · ""), NamesSplit text
    | .error flaw => First NamesSplit (fun _ text => ¬ NamesSplit text ∧ flaw = .unknownSplit text)
        (rows.map (c.split.getD · "")) := by
  induction rows with
  | nil => simp [Checked.recordsOf]
  | cons row rows ih =>
    simp only [Checked.recordsOf, Checked.record, List.map_cons]
    cases hname : Split.ofName? (c.split.getD row "") with
    -- the first row is at fault, whatever the others are
    | none => exact first_cons.2 (.inl ⟨ofName?_eq_none_iff.1 hname, rfl⟩)
    | some split =>
      have hnames : NamesSplit (c.split.getD row "") := by
        by_contra hnot
        rw [ofName?_eq_none_iff.2 hnot] at hname
        cases hname
      cases hrows : c.recordsOf messages calls rows with
      | error flaw =>
        rw [hrows] at ih
        exact first_cons.2 (.inr ⟨hnames, ih⟩)
      | ok rs =>
        rw [hrows] at ih
        exact List.forall_mem_cons.2 ⟨hnames, ih⟩

lemma Column.Regular.rows_eq {c : Column} (h : c.Regular n) : c.rows = n := by
  cases h <;> assumption

lemma regular_of_findEntry {name : String} {c : Column} (h : ∀ c ∈ columns, c.2.Regular n)
    (hc : findEntry name columns = some c) : c.Regular n := by
  induction columns with
  | nil => cases hc
  | cons e es ih =>
    rw [findEntry] at hc
    split at hc
    · cases hc
      exact h e (by simp)
    · exact ih (fun x hx => h x (by simp [hx])) hc

lemma rows_eq (h : ∀ c ∈ columns, c.2.Regular n) (hne : columns ≠ []) : columns.rows = n := by
  cases columns with
  | nil => exact absurd rfl hne
  | cons c cs => exact (h c (by simp)).rows_eq

lemma Checked.Stands.splitTexts_eq {c : Checked} (h : ∀ c ∈ columns, c.2.Regular n)
    (hc : c.Stands columns) :
    splitTexts columns = c.split ∧ (List.range n).map (c.split.getD · "") = c.split := by
  obtain ⟨rows, fields, hextra, hsplit⟩ := hc.split
  have hlength : c.split.length = n := by
    cases regular_of_findEntry h hextra with
    | group hrows hfields =>
      cases regular_of_findEntry hfields hsplit with
      | text hvalues => exact hvalues
  refine ⟨by simp only [splitTexts, hextra, hsplit], ?_⟩
  rw [← hlength]
  refine List.ext_getElem (by simp) fun i h₁ h₂ => ?_
  simp [h₂]

/-! ### Whole tables -/

/-- A table is read, or its first fault is reported. -/
lemma outcome (h : ∀ c ∈ columns, c.2.Regular n) :
    (∃ rs, toRecords columns = .ok rs ∧ Readable n columns) ∨
      ∃ error, toRecords columns = .error error ∧ FirstFault n columns error := by
  have hcheck := decides_check columns
  rw [toRecords_eq]
  cases hchecked : check columns with
  | error flaw =>
    rw [hchecked] at hcheck
    cases hcheck with
    | error first => exact .inr ⟨_, rfl, .column first⟩
  | ok c =>
    rw [hchecked] at hcheck
    cases hcheck with
    | ok met hc =>
      obtain ⟨hsplits, hrange⟩ := hc.splitTexts_eq h
      have hrows : columns.rows = n := rows_eq h fun hnil => by
        have hprompt := hc.prompt
        rw [hnil] at hprompt
        cases hprompt
      dsimp only
      rw [hrows]
      split
      · -- without rows there is nothing left to look at
        rename_i hn
        rw [hn] at hrange
        refine .inl ⟨[], rfl, met, by omega, ?_⟩
        rw [hsplits, ← hrange]
        simp
      · rename_i hn
        have hitems := hc.decides_itemRows
        cases hread : itemRows c with
        | error flaw =>
          rw [hread] at hitems
          cases hitems with
          | error first => exact .inr ⟨_, rfl, .item met (by omega) first⟩
        | ok items =>
          rw [hread] at hitems
          cases hitems with
          | ok itemsMet _ =>
            have hrecords := recordsOf_outcome c items.1 items.2 (List.range n)
            rw [hrange, ← hsplits] at hrecords
            dsimp only
            cases hrs : c.recordsOf items.1 items.2 (List.range n) with
            | error flaw =>
              rw [hrs] at hrecords
              exact .inr ⟨_, rfl, .split met itemsMet hrecords⟩
            | ok rs =>
              rw [hrs] at hrecords
              exact .inl ⟨rs, rfl, met, fun _ => itemsMet, hrecords⟩

/-- **What a table is read as**: a table of `n` rows is read exactly if all the columns that are
asked for are there, with their forms, and every row names a split. Otherwise its first fault is
reported: of the columns, then of the items of the lists if there is a row, and then of the rows. -/
theorem toRecords_outcome (h : ∀ c ∈ columns, c.2.Regular n) :
    ((∃ rs, toRecords columns = .ok rs) ↔ Readable n columns) ∧
      ∀ error, toRecords columns = .error error ↔ FirstFault n columns error := by
  rcases outcome h with ⟨rs, hrs, hreadable⟩ | ⟨e, he, hfault⟩
  · refine ⟨⟨fun _ => hreadable, fun _ => ⟨rs, hrs⟩⟩, fun error => ?_⟩
    refine ⟨fun herror => ?_, fun hfault => ?_⟩
    · cases hrs.symm.trans herror
    · exact absurd hreadable hfault.not_readable
  · refine ⟨⟨?_, fun hreadable => absurd hreadable hfault.not_readable⟩, fun error => ?_⟩
    · rintro ⟨rs, hrs⟩
      cases hrs.symm.trans he
    · rw [he, Except.error.injEq]
      exact ⟨fun heq => heq ▸ hfault, hfault.unique⟩

/-- A table of `n` rows without messages and calls. The contents of the messages would be counts,
and there is no column for the arguments of the calls. -/
def emptyLists (n : Nat) : Columns := [
  ("data_source", .text (.replicate n "retail")), ("agent_name", .text (.replicate n "agent")),
  ("prompt", .list (.replicate n 0) (.group 0 [("role", .text []), ("content", .count [])])),
  ("ability", .text (.replicate n "retail")),
  ("reward_model", .group n [
    ("style", .text (.replicate n "rule")),
    ("ground_truth", .list (.replicate n 0) (.group 0 [("name", .text [])]))]),
  ("extra_info", .group n [
    ("split", .text (.replicate n "dev")), ("index", .count (.replicate n 0)),
    ("task_id", .text (.replicate n "")), ("user_id", .text (.replicate n "ann")),
    ("question", .text (.replicate n "")), ("need_tools_kwargs", .flag (.replicate n true)),
    ("tools_kwargs", .text (.replicate n "")), ("interaction_kwargs", .text (.replicate n ""))])]

lemma regular_emptyLists (n : Nat) : ∀ c ∈ emptyLists n, c.2.Regular n := by
  have hlengths : (List.replicate n 0).sum = 0 := by simp
  simp only [emptyLists, List.forall_mem_cons]
  refine ⟨.text (by simp), .text (by simp), .list (by simp) (.group hlengths.symm ?_),
    .text (by simp), .group rfl ?_, .group rfl ?_, by simp⟩
  · simp only [List.forall_mem_cons]
    exact ⟨.text hlengths.symm, .count hlengths.symm, by simp⟩
  · simp only [List.forall_mem_cons]
    refine ⟨.text (by simp), .list (by simp) (.group hlengths.symm ?_), by simp⟩
    simp only [List.forall_mem_cons]
    exact ⟨.text hlengths.symm, by simp⟩
  · simp only [List.forall_mem_cons]
    exact ⟨.text (by simp), .count (by simp), .text (by simp), .text (by simp), .text (by simp),
      .flag (by simp), .text (by simp), .text (by simp), by simp⟩

/-- The items do not matter as long as there are no rows. With a row, the column that has the wrong
form is reported before the one that is missing, and the split is not looked at. -/
theorem toRecords_outcome_sample : (∀ c ∈ emptyLists 0, c.2.Regular 0) ∧
    (∀ c ∈ emptyLists 1, c.2.Regular 1) ∧ Readable 0 (emptyLists 0) ∧
    FirstFault 1 (emptyLists 1) (.record (.column "prompt.content")) :=
  ⟨regular_emptyLists 0, regular_emptyLists 1,
    (toRecords_outcome (regular_emptyLists 0)).1.1 ⟨[], rfl⟩,
    ((toRecords_outcome (regular_emptyLists 1)).2 _).1 rfl⟩

end TaskCorpus.Table
