import Mathlib.Data.List.Perm.Basic
import TaskCorpus.Proofs.KeyMap.Entries
import TaskCorpus.Proofs.Table.Correspondence
import TaskCorpus.Proofs.Table.Outcome

/-!
Tables whose columns stand in another order, among further ones.

Columns are looked up by their names, at the five levels that `Level` lists. `Rearranged` relates
two tables that differ in the order of the columns at these levels and in columns of names that
nobody looks up there. What is found under a name in one of them is found in the other, up to a
rearrangement of its own (`Looks`), and so the reader goes the same way through both.
-/

namespace TaskCorpus.Table

/-! ### Levels -/

inductive Level where
  | table
  /-- The fields of `reward_model`. -/
  | scoring
  /-- The fields of `extra_info`. -/
  | extra
  /-- The fields of the items of `prompt`. -/
  | messages
  /-- The fields of the items of `ground_truth`. -/
  | calls
  | elsewhere

namespace Level

/-- The names that are looked up at a level. -/
def names : Level → List String
  | .table => ["data_source", "agent_name", "prompt", "ability", "reward_model", "extra_info"]
  | .scoring => ["style", "ground_truth"]
  | .extra => ["split", "index", "task_id", "user_id", "question", "need_tools_kwargs",
      "tools_kwargs", "interaction_kwargs"]
  | .messages => ["role", "content"]
  | .calls => ["name", "kwargs"]
  | .elsewhere => []

def group : Level → String → Level
  | .table, "reward_model" => .scoring
  | .table, "extra_info" => .extra
  | _, _ => .elsewhere

def items : Level → String → Level
  | .table, "prompt" => .messages
  | .scoring, "ground_truth" => .calls
  | _, _ => .elsewhere

end Level

/-- The columns of a level in another order and with further ones, and likewise the columns inside
of them. -/
inductive Rearranged : Level → Columns → Columns → Prop
  | permute {level : Level} {before after : Columns} (h : before.Perm after) :
      Rearranged level before after
  | extend {level : Level} {name : String} (h : name ∉ level.names) (c : Column)
      (columns : Columns) : Rearranged level columns ((name, c) :: columns)
  | group {level : Level} {name : String} {before after : Columns}
      (h : Rearranged (level.group name) before after) (rows : Nat) (rest : Columns) :
      Rearranged level ((name, .group rows before) :: rest) ((name, .group rows after) :: rest)
  | items {level : Level} {name : String} {before after : Columns}
      (h : Rearranged (level.items name) before after) (lengths : List Nat) (rows : Nat)
      (rest : Columns) :
      Rearranged level ((name, .list lengths (.group rows before)) :: rest)
        ((name, .list lengths (.group rows after)) :: rest)
  | trans {level : Level} {a b c : Columns} (h : Rearranged level a b)
      (h' : Rearranged level b c) : Rearranged level a c

inductive Column.Distinct : Column → Prop
  | text (values : List String) : Distinct (.text values)
  | count (values : List Nat) : Distinct (.count values)
  | flag (values : List Bool) : Distinct (.flag values)
  | group (rows : Nat) {fields : Columns} (names : (fields.map (·.1)).Nodup)
      (h : ∀ f ∈ fields, Distinct f.2) : Distinct (.group rows fields)
  | list (lengths : List Nat) {item : Column} (h : Distinct item) : Distinct (.list lengths item)
  | other (rows : Nat) : Distinct (.other rows)

structure Columns.Distinct (columns : Columns) : Prop where
  names : (columns.map (·.1)).Nodup
  inner : ∀ c ∈ columns, c.2.Distinct

structure Columns.Proper (n : Nat) (columns : Columns) : Prop where
  regular : ∀ c ∈ columns, c.2.Regular n
  distinct : columns.Distinct

/-! ### What is found -/

inductive Shifted (level : Level) (name : String) : Column → Column → Prop
  | same (c : Column) : Shifted level name c c
  | group {before after : Columns} (h : Rearranged (level.group name) before after)
      (hd : after.Distinct) (rows : Nat) :
      Shifted level name (.group rows before) (.group rows after)
  | items {before after : Columns} (h : Rearranged (level.items name) before after)
      (hd : after.Distinct) (lengths : List Nat) (rows : Nat) :
      Shifted level name (.list lengths (.group rows before)) (.list lengths (.group rows after))

variable {α β γ δ : Type} {level : Level} {name place : String} {before after columns : Columns}
  {a b c : Column} {n : Nat}

lemma Shifted.trans (h : Shifted level name a b) (h' : Shifted level name b c) :
    Shifted level name a c := by
  cases h with
  | same => exact h'
  | group h hd rows =>
    cases h' with
    | same => exact .group h hd rows
    | group h' hd' => exact .group (h.trans h') hd' rows
  | items h hd lengths rows =>
    cases h' with
    | same => exact .items h hd lengths rows
    | items h' hd' => exact .items (h.trans h') hd' lengths rows

abbrev Finds (level : Level) (name : String) : Option Column → Option Column → Prop :=
  Option.Rel (Shifted level name)

lemma Finds.refl (level : Level) (name : String) (found : Option Column) :
    Finds level name found found := by
  cases found with
  | none => exact .none
  | some c => exact .some (.same c)

lemma Finds.trans {x y z : Option Column} (h : Finds level name x y) (h' : Finds level name y z) :
    Finds level name x z := by
  cases h with
  | none => exact h'
  | some hab =>
    cases h' with
    | some hbc => exact .some (hab.trans hbc)

/-- What is looked up at a level is found in both tables, or in none of them. -/
def Looks (level : Level) (before after : Columns) : Prop :=
  ∀ name ∈ level.names, Finds level name (findEntry name before) (findEntry name after)

lemma Looks.refl (level : Level) (columns : Columns) : Looks level columns columns :=
  fun name _ => .refl level name _

lemma findEntry_perm (h : before.Perm after) (hd : (after.map (·.1)).Nodup) :
    findEntry name before = findEntry name after := by
  have hd' : (before.map (·.1)).Nodup := (h.map _).nodup_iff.2 hd
  refine Option.ext fun c => ?_
  rw [findEntry_eq_some_of_nodup hd', findEntry_eq_some_of_nodup hd, h.mem_iff]

/-! ### Rearrangements -/

lemma Columns.Distinct.perm (h : before.Perm after) (hd : after.Distinct) : before.Distinct :=
  ⟨(h.map _).nodup_iff.2 hd.names, fun c hc => hd.inner c (h.mem_iff.1 hc)⟩

lemma Columns.Distinct.tail {f : String × Column} (hd : Columns.Distinct (f :: columns)) :
    columns.Distinct :=
  ⟨(List.nodup_cons.1 hd.names).2, fun c hc => hd.inner c (List.mem_cons_of_mem _ hc)⟩

lemma Columns.Distinct.replace (hd : Columns.Distinct ((name, b) :: columns)) (ha : a.Distinct) :
    Columns.Distinct ((name, a) :: columns) :=
  ⟨hd.names, List.forall_mem_cons.2 ⟨ha, hd.tail.inner⟩⟩

lemma Shifted.looks_cons (h : Shifted level name a b) (columns : Columns) :
    Looks level ((name, a) :: columns) ((name, b) :: columns) := by
  intro other _
  by_cases hname : name = other
  · subst hname
    simp only [findEntry, if_true]
    exact .some h
  · simp only [findEntry, if_neg hname]
    exact .refl level other _

lemma Column.Distinct.fields_group {rows : Nat} (h : (Column.group rows columns).Distinct) :
    columns.Distinct := by
  cases h with
  | group _ names h => exact ⟨names, h⟩

lemma Column.Distinct.item {lengths : List Nat} (h : (Column.list lengths c).Distinct) :
    c.Distinct := by
  cases h with
  | list _ h => exact h

/-- What is looked up is found again, if the names differ; and if they differ after the
rearrangement then they did so before. -/
lemma Rearranged.looks (h : Rearranged level before after) (hd : after.Distinct) :
    before.Distinct ∧ Looks level before after := by
  induction h with
  | permute hperm =>
    refine ⟨hd.perm hperm, fun name _ => ?_⟩
    rw [findEntry_perm hperm hd.names]
    exact .refl _ name _
  | @extend level name hname c columns =>
    refine ⟨hd.tail, fun other hother => ?_⟩
    -- the further column is not looked up
    have hne : name ≠ other := by
      rintro rfl
      exact hname hother
    rw [findEntry, if_neg hne]
    exact .refl level other _
  | @group level name before after h rows rest ih =>
    have hafter : after.Distinct := (hd.inner _ List.mem_cons_self).fields_group
    obtain ⟨hbefore, -⟩ := ih hafter
    exact ⟨hd.replace (.group rows hbefore.names hbefore.inner),
      (Shifted.group h hafter rows).looks_cons rest⟩
  | @items level name before after h lengths rows rest ih =>
    have hafter : after.Distinct := (hd.inner _ List.mem_cons_self).item.fields_group
    obtain ⟨hbefore, -⟩ := ih hafter
    exact ⟨hd.replace (.list lengths (.group rows hbefore.names hbefore.inner)),
      (Shifted.items h hafter lengths rows).looks_cons rest⟩
  | trans _ _ ih ih' =>
    obtain ⟨hbetween, hlooks'⟩ := ih' hd
    obtain ⟨hbefore, hlooks⟩ := ih hbetween
    exact ⟨hbefore, fun name hname => (hlooks name hname).trans (hlooks' name hname)⟩

/-! ### The reader goes the same way -/

inductive Alike (R : α → β → Prop) : Except RecordFlaw α → Except RecordFlaw β → Prop
  | ok {a : α} {b : β} (h : R a b) : Alike R (.ok a) (.ok b)
  | error (flaw : RecordFlaw) : Alike R (.error flaw) (.error flaw)

namespace Alike

variable {R : α → β → Prop} {S : γ → δ → Prop} {x : Except RecordFlaw α} {y : Except RecordFlaw β}

lemma bind {f : α → Except RecordFlaw γ} {g : β → Except RecordFlaw δ} (h : Alike R x y)
    (hfg : ∀ a b, R a b → Alike S (f a) (g b)) : Alike S (x >>= f) (y >>= g) := by
  cases h with
  | ok h => exact hfg _ _ h
  | error flaw => exact .error flaw

lemma eq {x y : Except RecordFlaw α} (h : Alike Eq x y) : x = y := by
  cases h with
  | ok h => rw [h]
  | error flaw => rfl

lemma column {take? : Column → Option α} {take'? : Column → Option β}
    (htake : ∀ c d, Shifted level name c d → Option.Rel R (take? c) (take'? d))
    (h : Looks level before after) (hname : name ∈ level.names) (place : String) :
    Alike R (Table.column take? before name place) (Table.column take'? after name place) := by
  have hfinds := h name hname
  unfold Table.column
  revert hfinds
  generalize findEntry name before = x
  generalize findEntry name after = y
  intro hfinds
  cases hfinds with
  | none => exact .error _
  | @some c d hcd =>
    have hrel := htake c d hcd
    dsimp only
    revert hrel
    generalize take? c = x
    generalize take'? d = y
    intro hrel
    cases hrel with
    | none => exact .error _
    | some hab => exact .ok hab

end Alike

lemma rel_single {take? : Column → Option α}
    (hgroup : ∀ rows fields, take? (.group rows fields) = none)
    (hlist : ∀ lengths item, take? (.list lengths item) = none) (h : Shifted level name a b) :
    Option.Rel Eq (take? a) (take? b) := by
  cases h with
  | same =>
    cases take? a with
    | none => exact .none
    | some _ => exact .some rfl
  | group =>
    rw [hgroup, hgroup]
    exact .none
  | items =>
    rw [hlist, hlist]
    exact .none

lemma rel_fields? (h : Shifted level name a b) :
    Option.Rel (Looks (level.group name)) (fields? a) (fields? b) := by
  cases h with
  | same =>
    cases fields? a with
    | none => exact .none
    | some fields => exact .some (.refl _ fields)
  | group h hd => exact .some (h.looks hd).2
  | items => exact .none

/-- Lists of the same lengths, whose items have related fields if any. -/
def ListsAlike (level : Level) (l m : List Nat × Column) : Prop :=
  l.1 = m.1 ∧ Option.Rel (Looks level) (fields? l.2) (fields? m.2)

lemma rel_lists? (h : Shifted level name a b) :
    Option.Rel (ListsAlike (level.items name)) (lists? a) (lists? b) := by
  cases h with
  | same =>
    cases lists? a with
    | none => exact .none
    | some l =>
      refine .some ⟨rfl, ?_⟩
      cases fields? l.2 with
      | none => exact .none
      | some fields => exact .some (.refl _ fields)
  | group => exact .none
  | items h hd => exact .some ⟨rfl, .some (h.looks hd).2⟩

variable {lengths : List Nat}

lemma itemFields_alike (h : Option.Rel (Looks level) (fields? a) (fields? b)) (place : String) :
    Alike (Looks level) (itemFields a place) (itemFields b place) := by
  unfold itemFields
  revert h
  generalize fields? a = x
  generalize fields? b = y
  intro h
  cases h with
  | none => exact .error _
  | some h => exact .ok h

lemma rel_texts? (h : Shifted level name a b) : Option.Rel Eq (texts? a) (texts? b) :=
  rel_single (fun _ _ => rfl) (fun _ _ => rfl) h

lemma texts_alike (h : Looks level before after) (hname : name ∈ level.names) (place : String) :
    Alike Eq (column texts? before name place) (column texts? after name place) :=
  Alike.column (fun _ _ => rel_texts?) h hname place

lemma rel_counts? (h : Shifted level name a b) : Option.Rel Eq (counts? a) (counts? b) :=
  rel_single (fun _ _ => rfl) (fun _ _ => rfl) h

lemma rel_flags? (h : Shifted level name a b) : Option.Rel Eq (flags? a) (flags? b) :=
  rel_single (fun _ _ => rfl) (fun _ _ => rfl) h

lemma messageRows_eq (h : Option.Rel (Looks .messages) (fields? a) (fields? b)) :
    messageRows lengths a = messageRows lengths b := by
  refine Alike.eq ?_
  unfold messageRows
  refine (itemFields_alike h _).bind fun fields fields' hfields => ?_
  refine (texts_alike hfields (by simp [Level.names]) _).bind fun roles _ heq => heq ▸ ?_
  refine (texts_alike hfields (by simp [Level.names]) _).bind fun contents _ heq => heq ▸ ?_
  exact .ok rfl

lemma callRows_eq (h : Option.Rel (Looks .calls) (fields? a) (fields? b)) :
    callRows lengths a = callRows lengths b := by
  refine Alike.eq ?_
  unfold callRows
  refine (itemFields_alike h _).bind fun fields fields' hfields => ?_
  refine (texts_alike hfields (by simp [Level.names]) _).bind fun names _ heq => heq ▸ ?_
  refine (texts_alike hfields (by simp [Level.names]) _).bind fun arguments _ heq => heq ▸ ?_
  exact .ok rfl

def CheckedAlike (c d : Checked) : Prop :=
  d = { c with promptItem := d.promptItem, truthItem := d.truthItem } ∧ itemRows c = itemRows d

lemma check_alike (h : Looks .table before after) :
    Alike CheckedAlike (check before) (check after) := by
  unfold check
  refine (texts_alike h (by simp [Level.names]) _).bind fun dataSource _ heq => heq ▸ ?_
  refine (texts_alike h (by simp [Level.names]) _).bind fun agentName _ heq => heq ▸ ?_
  refine (Alike.column (fun _ _ => rel_lists?) h (by simp [Level.names]) _).bind
    fun prompt prompt' hprompt => ?_
  refine (texts_alike h (by simp [Level.names]) _).bind fun ability _ heq => heq ▸ ?_
  refine (Alike.column (fun _ _ => rel_fields?) h (by simp [Level.names]) _).bind
    fun scoring scoring' hscoring => ?_
  have hscoring : Looks .scoring scoring scoring' := hscoring
  refine (texts_alike hscoring (by simp [Level.names]) _).bind fun style _ heq => heq ▸ ?_
  refine (Alike.column (fun _ _ => rel_lists?) hscoring (by simp [Level.names]) _).bind
    fun truth truth' htruth => ?_
  refine (Alike.column (fun _ _ => rel_fields?) h (by simp [Level.names]) _).bind
    fun extra extra' hextra => ?_
  have hextra : Looks .extra extra extra' := hextra
  refine (texts_alike hextra (by simp [Level.names]) _).bind fun split _ heq => heq ▸ ?_
  refine (Alike.column (fun _ _ => rel_counts?) hextra (by simp [Level.names]) _).bind
    fun index _ heq => heq ▸ ?_
  refine (texts_alike hextra (by simp [Level.names]) _).bind fun taskId _ heq => heq ▸ ?_
  refine (texts_alike hextra (by simp [Level.names]) _).bind fun userId _ heq => heq ▸ ?_
  refine (texts_alike hextra (by simp [Level.names]) _).bind fun question _ heq => heq ▸ ?_
  refine (Alike.column (fun _ _ => rel_flags?) hextra (by simp [Level.names]) _).bind
    fun needsTools _ heq => heq ▸ ?_
  refine (texts_alike hextra (by simp [Level.names]) _).bind fun toolArguments _ heq => heq ▸ ?_
  refine (texts_alike hextra (by simp [Level.names]) _).bind
    fun interactionArguments _ heq => heq ▸ ?_
  -- the other columns are the same by now; of the two lists only the lengths are
  obtain ⟨lengths, item⟩ := prompt
  obtain ⟨_, item'⟩ := prompt'
  obtain ⟨truthLengths, truthItem⟩ := truth
  obtain ⟨_, truthItem'⟩ := truth'
  obtain ⟨rfl, hitem⟩ := hprompt
  obtain ⟨rfl, htruthItem⟩ := htruth
  refine .ok ⟨rfl, ?_⟩
  simp only [itemRows, messageRows_eq hitem, callRows_eq htruthItem]

/-! ### Whole tables -/

/-- The records of rows do not depend on the items of the lists beyond the rows of these. -/
lemma recordsOf_eq {c d : Checked} (h : CheckedAlike c d) (messages : List (List Message))
    (calls : List (List Call)) (rows : List Nat) :
    c.recordsOf messages calls rows = d.recordsOf messages calls rows := by
  rw [h.1]
  induction rows with
  | nil => rfl
  | cons row rows ih =>
    rw [Checked.recordsOf, Checked.recordsOf, ih]
    rfl

lemma ne_nil_of_check {c : Checked} (h : check columns = .ok c) : columns ≠ [] := by
  rintro rfl
  cases h

/-- **Order and further columns do not matter**: tables of as many rows, of which one is a
rearrangement of the other, are read as the same records, or refused with the same error. -/
theorem toRecords_rearranged (hb : before.Proper n) (ha : after.Proper n)
    (h : Rearranged .table before after) : toRecords before = toRecords after := by
  have hcheck := check_alike (h.looks ha.distinct).2
  rw [toRecords_eq, toRecords_eq]
  generalize hx : check before = x at hcheck ⊢
  generalize hy : check after = y at hcheck ⊢
  cases hcheck with
  | error flaw => rfl
  | ok hcd =>
    have hrows : before.rows = after.rows :=
      (rows_eq hb.regular (ne_nil_of_check hx)).trans (rows_eq ha.regular (ne_nil_of_check hy)).symm
    dsimp only
    rw [hrows, hcd.2]
    simp only [recordsOf_eq hcd]

/-! ### A rearrangement at every level -/

lemma Rearranged.groupAt (level : Level) (name : String) (rows : Nat) (front rest : Columns)
    (h : Rearranged (level.group name) before after) :
    Rearranged level (front ++ (name, .group rows before) :: rest)
      (front ++ (name, .group rows after) :: rest) :=
  .trans (.permute List.perm_middle) (.trans (.group h rows _) (.permute List.perm_middle.symm))

lemma Rearranged.itemsAt (level : Level) (name : String) (lengths : List Nat) (rows : Nat)
    (front rest : Columns) (h : Rearranged (level.items name) before after) :
    Rearranged level (front ++ (name, .list lengths (.group rows before)) :: rest)
      (front ++ (name, .list lengths (.group rows after)) :: rest) :=
  .trans (.permute List.perm_middle)
    (.trans (.items h lengths rows _) (.permute List.perm_middle.symm))

lemma Rearranged.turn (level : Level) (name : String) (c : Column) (columns : Columns)
    (h : name ∉ level.names) :
    Rearranged level columns.reverse ((name, c) :: columns) :=
  .trans (.permute columns.reverse_perm) (.extend h c _)

/-- The small table with its columns in the opposite order at every level. The names of the further
columns are looked up at other levels. -/
def turnedTable : Columns := [
  ("content", .list [1, 1] (.other 2)),
  ("extra_info", .group 2 [
    ("style", .other 2), ("interaction_kwargs", .text ["some", ""]),
    ("tools_kwargs", .text ["", "none"]), ("need_tools_kwargs", .flag [true, false]),
    ("question", .text ["hello", "hi"]), ("user_id", .text ["ann", "bob"]),
    ("task_id", .text ["a", ""]), ("index", .count [0, 18446744073709551615]),
    ("split", .text ["test", "train"])]),
  ("reward_model", .group 2 [
    ("split", .flag [true, true]),
    ("ground_truth", .list [0, 1]
      (.group 1 [("role", .text ["user"]), ("kwargs", .text ["x"]), ("name", .text ["respond"])])),
    ("style", .text ["rule", "rule"])]),
  ("ability", .text ["retail", "retail"]),
  ("prompt", .list [2, 0] (.group 2 [
    ("index", .count [7, 8]), ("content", .text ["rules", "hello"]),
    ("role", .text ["system", "user"])])),
  ("agent_name", .text ["agent", "agent"]), ("data_source", .text ["retail", "retail"])]

lemma rearranged_turnedTable : Rearranged .table smallTable turnedTable := by
  have hmessages : Rearranged .messages
      [("role", .text ["system", "user"]), ("content", .text ["rules", "hello"])] _ :=
    .turn .messages "index" (.count [7, 8]) [_, _] (by decide)
  have hcalls : Rearranged .calls [("name", .text ["respond"]), ("kwargs", .text ["x"])] _ :=
    .turn .calls "role" (.text ["user"]) [_, _] (by decide)
  have hscoring : Rearranged .scoring [("style", .text ["rule", "rule"]), ("ground_truth",
      .list [0, 1] (.group 1 [("name", .text ["respond"]), ("kwargs", .text ["x"])]))] _ :=
    .trans (.itemsAt .scoring "ground_truth" [0, 1] 1 [_] [] hcalls)
      (.turn .scoring "split" (.flag [true, true]) [_, _] (by decide))
  have hextra : Rearranged .extra [
      ("split", .text ["test", "train"]), ("index", .count [0, 18446744073709551615]),
      ("task_id", .text ["a", ""]), ("user_id", .text ["ann", "bob"]),
      ("question", .text ["hello", "hi"]), ("need_tools_kwargs", .flag [true, false]),
      ("tools_kwargs", .text ["", "none"]), ("interaction_kwargs", .text ["some", ""])] _ :=
    .turn .extra "style" (.other 2) [_, _, _, _, _, _, _, _] (by decide)
  have hinner : Rearranged .table smallTable _ :=
    .trans (.itemsAt .table "prompt" [2, 0] 2 [_, _] [_, _, _] hmessages)
      (.trans (.groupAt .table "reward_model" 2 [_, _, _, _] [_] hscoring)
        (.groupAt .table "extra_info" 2 [_, _, _, _, _] [] hextra))
  have hturn : Rearranged .table _ turnedTable := .turn .table "content" _ _ (by decide)
  exact .trans hinner hturn

lemma proper_smallTable : smallTable.Proper 2 where
  regular := isTable_smallTable.regular
  distinct := by
    refine ⟨by decide, ?_⟩
    simp only [smallTable, List.forall_mem_cons]
    refine ⟨.text _, .text _, .list _ (.group _ (by decide) ?_), .text _,
      .group _ (by decide) ?_, .group _ (by decide) ?_, by simp⟩
    · simp only [List.forall_mem_cons]
      exact ⟨.text _, .text _, by simp⟩
    · simp only [List.forall_mem_cons]
      refine ⟨.text _, .list _ (.group _ (by decide) ?_), by simp⟩
      simp only [List.forall_mem_cons]
      exact ⟨.text _, .text _, by simp⟩
    · simp only [List.forall_mem_cons]
      exact ⟨.text _, .count _, .text _, .text _, .text _, .flag _, .text _, .text _, by simp⟩

lemma proper_turnedTable : turnedTable.Proper 2 where
  regular := by
    simp only [turnedTable, List.forall_mem_cons]
    refine ⟨.list rfl (.other rfl), .group rfl ?_, .group rfl ?_, .text rfl,
      .list rfl (.group rfl ?_), .text rfl, .text rfl, by simp⟩
    · simp only [List.forall_mem_cons]
      exact ⟨.other rfl, .text rfl, .text rfl, .flag rfl, .text rfl, .text rfl, .text rfl,
        .count rfl, .text rfl, by simp⟩
    · simp only [List.forall_mem_cons]
      refine ⟨.flag rfl, .list rfl (.group rfl ?_), .text rfl, by simp⟩
      simp only [List.forall_mem_cons]
      exact ⟨.text rfl, .text rfl, .text rfl, by simp⟩
    · simp only [List.forall_mem_cons]
      exact ⟨.count rfl, .text rfl, .text rfl, by simp⟩
  distinct := by
    refine ⟨by decide, ?_⟩
    simp only [turnedTable, List.forall_mem_cons]
    refine ⟨.list _ (.other _), .group _ (by decide) ?_, .group _ (by decide) ?_, .text _,
      .list _ (.group _ (by decide) ?_), .text _, .text _, by simp⟩
    · simp only [List.forall_mem_cons]
      exact ⟨.other _, .text _, .text _, .flag _, .text _, .text _, .text _, .count _, .text _,
        by simp⟩
    · simp only [List.forall_mem_cons]
      refine ⟨.flag _, .list _ (.group _ (by decide) ?_), .text _, by simp⟩
      simp only [List.forall_mem_cons]
      exact ⟨.text _, .text _, .text _, by simp⟩
    · simp only [List.forall_mem_cons]
      exact ⟨.count _, .text _, .text _, by simp⟩

theorem toRecords_rearranged_sample : smallTable.Proper 2 ∧ turnedTable.Proper 2 ∧
    Rearranged .table smallTable turnedTable ∧
    ∃ rs, toRecords smallTable = .ok rs ∧ toRecords turnedTable = .ok rs ∧ rs.length = 2 := by
  have heq := toRecords_rearranged proper_smallTable proper_turnedTable rearranged_turnedTable
  refine ⟨proper_smallTable, proper_turnedTable, rearranged_turnedTable, _, rfl, ?_, rfl⟩
  rw [← heq]
  rfl

end TaskCorpus.Table
