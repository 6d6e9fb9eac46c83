import Mathlib.Data.List.OfFn
import TaskCorpus.Proofs.Table.RoundTrip
import TaskCorpus.Table.Schema

/-!
The tables of the schema are the tables of records.

Reading undoes writing, so to see that writing undoes reading it is enough that every table of
the schema is the table of some records. These are put together column by column: as many values
as there are rows are a function of the row, and so are lists whose lengths add up to their items.
-/

namespace TaskCorpus.Table

variable {n : Nat}

/-! ### Values by row -/

lemma exists_ofFn {α : Type} {as : List α} (h : as.length = n) :
    ∃ f : Fin n → α, as = List.ofFn f := by
  subst h
  exact ⟨as.get, (List.ofFn_get as).symm⟩

lemma cut_eq {α : Type} {lengths : List Nat} {as : List α} (h : as.length = lengths.sum) :
    (cut lengths as).map List.length = lengths ∧ (cut lengths as).flatten = as := by
  induction lengths generalizing as with
  | nil =>
    have has : as = [] := List.eq_nil_of_length_eq_zero h
    simp [cut, has]
  | cons l ls ih =>
    rw [List.sum_cons] at h
    have hdrop : (as.drop l).length = ls.sum := by rw [List.length_drop]; omega
    obtain ⟨hl, hf⟩ := ih hdrop
    have htake : (as.take l).length = l := by rw [List.length_take]; omega
    simp only [cut, List.map_cons, List.flatten_cons, hl, hf, htake, List.take_append_drop,
      and_self]

lemma exists_lists {α : Type} {lengths : List Nat} {as : List α} (hn : lengths.length = n)
    (h : as.length = lengths.sum) :
    ∃ f : Fin n → List α, lengths = List.ofFn (fun i => (f i).length) ∧
      as = (List.ofFn f).flatten := by
  obtain ⟨hlengths, hflatten⟩ := cut_eq h
  have hcut : (cut lengths as).length = n := by
    rw [← hn, ← List.length_map (f := List.length), hlengths]
  obtain ⟨f, hf⟩ := exists_ofFn hcut
  rw [hf, List.map_ofFn] at hlengths
  rw [hf] at hflatten
  exact ⟨f, hlengths.symm, hflatten.symm⟩

/-! ### Columns by kind -/

structure Fits (n : Nat) (ks : List (String × Kind)) (columns : Columns) : Prop where
  kinds : kinds columns = ks
  regular : ∀ c ∈ columns, c.2.Regular n

namespace Fits

variable {ks : List (String × Kind)} {k : Kind} {name : String} {columns : Columns}

lemma eq_nil (h : Fits n [] columns) : columns = [] := by
  cases columns with
  | nil => rfl
  | cons c cs => simpa [Table.kinds] using h.kinds

lemma eq_cons (h : Fits n ((name, k) :: ks) columns) :
    ∃ c rest, columns = (name, c) :: rest ∧ c.kind = k ∧ c.Regular n ∧ Fits n ks rest := by
  obtain ⟨hk, hr⟩ := h
  cases columns with
  | nil => simp [Table.kinds] at hk
  | cons c rest =>
    obtain ⟨l, c⟩ := c
    simp only [Table.kinds, fieldKind, List.cons.injEq, Prod.mk.injEq] at hk
    obtain ⟨⟨rfl, hc⟩, hrest⟩ := hk
    obtain ⟨hfirst, hr⟩ := List.forall_mem_cons.1 hr
    exact ⟨c, rest, rfl, hc, hfirst, hrest, hr⟩

lemma values {α : Type} {mk : List α → Column} (h : Fits n ((name, k) :: ks) columns)
    (hmk : ∀ c : Column, c.Regular n → c.kind = k → ∃ as, as.length = n ∧ c = mk as) :
    ∃ (f : Fin n → α) (rest : Columns),
      columns = (name, mk (List.ofFn f)) :: rest ∧ Fits n ks rest := by
  obtain ⟨c, rest, rfl, hc, hr, hrest⟩ := h.eq_cons
  obtain ⟨as, hn, rfl⟩ := hmk c hr hc
  obtain ⟨f, rfl⟩ := exists_ofFn hn
  exact ⟨f, rest, rfl, hrest⟩

lemma text (h : Fits n ((name, .text) :: ks) columns) :
    ∃ (f : Fin n → String) (rest : Columns),
      columns = (name, .text (List.ofFn f)) :: rest ∧ Fits n ks rest := by
  refine h.values fun c hr hc => ?_
  cases hr with
  | text hn => exact ⟨_, hn, rfl⟩
  | _ => simp [Column.kind] at hc

lemma count (h : Fits n ((name, .count) :: ks) columns) :
    ∃ (f : Fin n → Nat) (rest : Columns),
      columns = (name, .count (List.ofFn f)) :: rest ∧ Fits n ks rest := by
  refine h.values fun c hr hc => ?_
  cases hr with
  | count hn => exact ⟨_, hn, rfl⟩
  | _ => simp [Column.kind] at hc

lemma flag (h : Fits n ((name, .flag) :: ks) columns) :
    ∃ (f : Fin n → Bool) (rest : Columns),
      columns = (name, .flag (List.ofFn f)) :: rest ∧ Fits n ks rest := by
  refine h.values fun c hr hc => ?_
  cases hr with
  | flag hn => exact ⟨_, hn, rfl⟩
  | _ => simp [Column.kind] at hc

lemma group {inner : List (String × Kind)} (h : Fits n ((name, .group inner) :: ks) columns) :
    ∃ fields rest, columns = (name, .group n fields) :: rest ∧ Fits n inner fields ∧
      Fits n ks rest := by
  obtain ⟨c, rest, rfl, hc, hr, hrest⟩ := h.eq_cons
  cases hr with
  | group hn hf =>
    subst hn
    exact ⟨_, rest, rfl, ⟨by simpa [Column.kind] using hc, hf⟩, hrest⟩
  | _ => simp [Column.kind] at hc

lemma list {inner : List (String × Kind)}
    (h : Fits n ((name, .list (.group inner)) :: ks) columns) :
    ∃ (lengths : List Nat) (fields rest : Columns), lengths.length = n ∧
      columns = (name, .list lengths (.group lengths.sum fields)) :: rest ∧
      Fits lengths.sum inner fields ∧ Fits n ks rest := by
  obtain ⟨c, rest, rfl, hc, hr, hrest⟩ := h.eq_cons
  cases hr with
  | list hn hi =>
    simp only [Column.kind, Kind.list.injEq] at hc
    cases hi with
    | group hm hf =>
      subst hm
      exact ⟨_, _, rest, hn, rfl, ⟨by simpa [Column.kind] using hc, hf⟩, hrest⟩
    | _ => simp [Column.kind] at hc
  | _ => simp [Column.kind] at hc

end Fits

/-! ### Columns of the schema -/

variable {columns : Columns}

lemma exists_messages (h : Fits n messageKinds columns) :
    ∃ ms : List Message, ms.length = n ∧ .group n columns = messageItems ms := by
  obtain ⟨role, rest, rfl, hcontent⟩ := h.text
  obtain ⟨content, rest, rfl, hend⟩ := hcontent.text
  obtain rfl := hend.eq_nil
  refine ⟨List.ofFn fun i => ⟨role i, content i⟩, List.length_ofFn, ?_⟩
  simp [messageItems, List.map_ofFn, Function.comp_def]

lemma exists_calls (h : Fits n callKinds columns) :
    ∃ cs : List Call, cs.length = n ∧ .group n columns = callItems cs := by
  obtain ⟨name, rest, rfl, harguments⟩ := h.text
  obtain ⟨arguments, rest, rfl, hend⟩ := harguments.text
  obtain rfl := hend.eq_nil
  refine ⟨List.ofFn fun i => ⟨name i, arguments i⟩, List.length_ofFn, ?_⟩
  simp [callItems, List.map_ofFn, Function.comp_def]

lemma exists_scorings (h : Fits n scoringKinds columns) :
    ∃ s : Fin n → Scoring, .group n columns = scoringColumn (List.ofFn s) := by
  obtain ⟨style, rest, rfl, htruth⟩ := h.text
  obtain ⟨lengths, fields, rest, hlengths, rfl, hcalls, hend⟩ := htruth.list
  obtain rfl := hend.eq_nil
  obtain ⟨cs, hcs, hitem⟩ := exists_calls hcalls
  obtain ⟨truth, rfl, rfl⟩ := exists_lists hlengths hcs
  refine ⟨fun i => ⟨style i, truth i⟩, ?_⟩
  simp [scoringColumn, hitem, List.flatMap_def, List.map_ofFn, Function.comp_def]

lemma exists_splits {f : Fin n → String}
    (h : ∀ text ∈ List.ofFn f, text = "train" ∨ text = "test") :
    ∃ s : Fin n → Split, f = fun i => (s i).name := by
  have hname : ∀ i, ∃ s : Split, f i = s.name := by
    intro i
    rcases h (f i) (List.mem_ofFn.2 ⟨i, rfl⟩) with hi | hi
    · exact ⟨.train, hi⟩
    · exact ⟨.test, hi⟩
  choose s hs using hname
  exact ⟨s, funext hs⟩

lemma exists_extras (h : Fits n extraKinds columns)
    (hs : ∀ values, findEntry "split" columns = some (.text values) →
      ∀ text ∈ values, text = "train" ∨ text = "test") :
    ∃ e : Fin n → Extra, .group n columns = extraColumn (List.ofFn e) := by
  obtain ⟨split, rest, rfl, hindex⟩ := h.text
  obtain ⟨index, rest, rfl, htaskId⟩ := hindex.count
  obtain ⟨taskId, rest, rfl, huserId⟩ := htaskId.text
  obtain ⟨userId, rest, rfl, hquestion⟩ := huserId.text
  obtain ⟨question, rest, rfl, hneeds⟩ := hquestion.text
  obtain ⟨needsTools, rest, rfl, htools⟩ := hneeds.flag
  obtain ⟨toolArguments, rest, rfl, hinteraction⟩ := htools.text
  obtain ⟨interactionArguments, rest, rfl, hend⟩ := hinteraction.text
  obtain rfl := hend.eq_nil
  obtain ⟨s, rfl⟩ := exists_splits (hs _ rfl)
  refine ⟨fun i => ⟨s i, index i, taskId i, userId i, question i, needsTools i, toolArguments i,
    interactionArguments i⟩, ?_⟩
  simp [extraColumn, List.map_ofFn, Function.comp_def]

/-- Every table of the schema is the table of some records. -/
lemma exists_records (h : IsTable n columns) :
    ∃ rs : List Record, rs.length = n ∧ columns = ofRecords rs := by
  have hfits : Fits n schema columns := ⟨h.kinds, h.regular⟩
  have hsplits := h.splits
  -- the columns of the schema are taken off one by one
  obtain ⟨dataSource, rest, rfl, hagent⟩ := hfits.text
  obtain ⟨agentName, rest, rfl, hprompt⟩ := hagent.text
  obtain ⟨lengths, fields, rest, hlengths, rfl, hmessages, hability⟩ := hprompt.list
  obtain ⟨ability, rest, rfl, hscoring⟩ := hability.text
  obtain ⟨scoringFields, rest, rfl, hscorings, hextra⟩ := hscoring.group
  obtain ⟨extraFields, rest, rfl, hextras, hend⟩ := hextra.group
  obtain rfl := hend.eq_nil
  obtain ⟨ms, hms, hitem⟩ := exists_messages hmessages
  obtain ⟨prompt, rfl, rfl⟩ := exists_lists hlengths hms
  obtain ⟨scoring, hscoringColumn⟩ := exists_scorings hscorings
  obtain ⟨extra, hextraColumn⟩ := exists_extras hextras fun values hv => by
    simpa [splitTexts, findEntry, hv] using hsplits
  refine ⟨List.ofFn fun i => ⟨dataSource i, agentName i, prompt i, ability i, scoring i, extra i⟩,
    List.length_ofFn, ?_⟩
  simp [ofRecords, hitem, hscoringColumn, hextraColumn, List.flatMap_def, List.map_ofFn,
    Function.comp_def]

/-! ### Tables of records -/

lemma regular_messageItems (ms : List Message) : (messageItems ms).Regular ms.length := by
  refine .group rfl ?_
  simp only [List.forall_mem_cons]
  exact ⟨.text (by simp), .text (by simp), by simp⟩

lemma regular_callItems (cs : List Call) : (callItems cs).Regular cs.length := by
  refine .group rfl ?_
  simp only [List.forall_mem_cons]
  exact ⟨.text (by simp), .text (by simp), by simp⟩

lemma regular_scoringColumn (ss : List Scoring) : (scoringColumn ss).Regular ss.length := by
  refine .group rfl ?_
  simp only [List.forall_mem_cons]
  have hitems := regular_callItems (ss.flatMap (·.groundTruth))
  rw [List.length_flatMap] at hitems
  exact ⟨.text (by simp), .list (by simp) hitems, by simp⟩

lemma regular_extraColumn (es : List Extra) : (extraColumn es).Regular es.length := by
  refine .group rfl ?_
  simp only [List.forall_mem_cons]
  exact ⟨.text (by simp), .count (by simp), .text (by simp), .text (by simp), .text (by simp),
    .flag (by simp), .text (by simp), .text (by simp), by simp⟩

lemma isTable_ofRecords (rs : List Record) : IsTable rs.length (ofRecords rs) where
  kinds := rfl
  regular := by
    have hitems := regular_messageItems (rs.flatMap (·.prompt))
    rw [List.length_flatMap] at hitems
    have hscoring := regular_scoringColumn (rs.map (·.scoring))
    have hextra := regular_extraColumn (rs.map (·.extra))
    rw [List.length_map] at hscoring hextra
    simp only [ofRecords, List.forall_mem_cons]
    exact ⟨.text (by simp), .text (by simp), .list (by simp) hitems, .text (by simp), hscoring,
      hextra, by simp⟩
  splits := by
    intro text htext
    have hnames : splitTexts (ofRecords rs) = (rs.map (·.extra)).map fun e => e.split.name := rfl
    rw [hnames] at htext
    obtain ⟨e, -, rfl⟩ := List.mem_map.1 htext
    cases e.split
    exacts [.inl rfl, .inr rfl]

/-- **Records and tables correspond.** Any records make a table of the schema with a row for each
of them, from which exactly they are read back; and any table of the schema is read, into records
of which it is the table. -/
theorem records_correspond :
    (∀ rs : List Record, (ofRecords rs).rows = rs.length ∧ IsTable rs.length (ofRecords rs) ∧
      toRecords (ofRecords rs) = .ok rs) ∧
    ∀ (n : Nat) (columns : Columns), IsTable n columns →
      ∃ rs, toRecords columns = .ok rs ∧ rs.length = n ∧ ofRecords rs = columns := by
  refine ⟨fun rs => ⟨?_, isTable_ofRecords rs, toRecords_ofRecords rs⟩, fun n columns h => ?_⟩
  · simp [ofRecords, Columns.rows, Column.rows]
  · obtain ⟨rs, hlength, rfl⟩ := exists_records h
    exact ⟨rs, toRecords_ofRecords rs, hlength, rfl⟩

/-- Two rows: two messages and no call in the first, and no message and one call in the second. -/
def smallTable : Columns := [
  ("data_source", .text ["retail", "retail"]), ("agent_name", .text ["agent", "agent"]),
  ("prompt", .list [2, 0]
    (.group 2 [("role", .text ["system", "user"]), ("content", .text ["rules", "hello"])])),
  ("ability", .text ["retail", "retail"]),
  ("reward_model", .group 2 [
    ("style", .text ["rule", "rule"]),
    ("ground_truth",
      .list [0, 1] (.group 1 [("name", .text ["respond"]), ("kwargs", .text ["x"])]))]),
  ("extra_info", .group 2 [
    ("split", .text ["test", "train"]), ("index", .count [0, 18446744073709551615]),
    ("task_id", .text ["a", ""]), ("user_id", .text ["ann", "bob"]),
    ("question", .text ["hello", "hi"]), ("need_tools_kwargs", .flag [true, false]),
    ("tools_kwargs", .text ["", "none"]), ("interaction_kwargs", .text ["some", ""])])]

lemma isTable_smallTable : IsTable 2 smallTable where
  kinds := rfl
  regular := by
    simp only [smallTable, List.forall_mem_cons]
    refine ⟨.text rfl, .text rfl, .list rfl (.group rfl ?_), .text rfl, .group rfl ?_,
      .group rfl ?_, by simp⟩
    · simp only [List.forall_mem_cons]
      exact ⟨.text rfl, .text rfl, by simp⟩
    · simp only [List.forall_mem_cons]
      refine ⟨.text rfl, .list rfl (.group rfl ?_), by simp⟩
      simp only [List.forall_mem_cons]
      exact ⟨.text rfl, .text rfl, by simp⟩
    · simp only [List.forall_mem_cons]
      exact ⟨.text rfl, .count rfl, .text rfl, .text rfl, .text rfl, .flag rfl, .text rfl,
        .text rfl, by simp⟩
  splits := by decide

theorem records_correspond_sample : IsTable 2 smallTable ∧
    ∃ rs, toRecords smallTable = .ok rs ∧ rs.length = 2 ∧ ofRecords rs = smallTable :=
  ⟨isTable_smallTable, records_correspond.2 2 smallTable isTable_smallTable⟩

end TaskCorpus.Table
