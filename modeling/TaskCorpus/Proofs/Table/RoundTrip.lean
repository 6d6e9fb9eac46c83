import Mathlib.Data.List.Forall2
import Mathlib.Tactic.Common
import TaskCorpus.Table.Layout

/-!
Records are read back from their table.

`toRecords` undoes `ofRecords` row by row, since the lists of a column are cut where they were
joined.
-/

namespace TaskCorpus.Table

lemma zipWith_map {α β γ δ : Type} (mk : α → β → γ) (f : δ → α) (g : δ → β) (ds : List δ) :
    List.zipWith mk (ds.map f) (ds.map g) = ds.map fun d => mk (f d) (g d) := by
  induction ds with
  | nil => rfl
  | cons d ds ih => simp

lemma cut_flatMap {α β : Type} (f : α → List β) (as : List α) :
    cut (as.map fun a => (f a).length) (as.flatMap f) = as.map f := by
  have h := cut_flatten (as.map f)
  rwa [List.map_map, ← List.flatMap_def] at h

lemma messageRows_ofRecords (rs : List Record) :
    messageRows (rs.map fun r => r.prompt.length) (messageItems (rs.flatMap (·.prompt))) =
      .ok (rs.map (·.prompt)) := by
  have hz : List.zipWith Message.mk ((rs.flatMap (·.prompt)).map (·.role))
      ((rs.flatMap (·.prompt)).map (·.content)) = rs.flatMap (·.prompt) := by
    rw [zipWith_map]
    exact List.map_id _
  have hc := cut_flatMap (fun r : Record => r.prompt) rs
  rw [← hz] at hc
  simpa [messageRows, messageItems, itemFields, column, findEntry, texts?, fields?, bind,
    Except.bind, pure, Except.pure] using hc

lemma callRows_ofRecords (ss : List Scoring) :
    callRows (ss.map fun s => s.groundTruth.length) (callItems (ss.flatMap (·.groundTruth))) =
      .ok (ss.map (·.groundTruth)) := by
  have hz : List.zipWith Call.mk ((ss.flatMap (·.groundTruth)).map (·.name))
      ((ss.flatMap (·.groundTruth)).map (·.arguments)) = ss.flatMap (·.groundTruth) := by
    rw [zipWith_map]
    exact List.map_id _
  have hc := cut_flatMap (fun s : Scoring => s.groundTruth) ss
  rw [← hz] at hc
  simpa [callRows, callItems, itemFields, column, findEntry, texts?, fields?, bind,
    Except.bind, pure, Except.pure] using hc

/-- The columns of records, as they are checked. -/
def checkedOf (rs : List Record) : Checked where
  dataSource := rs.map (·.dataSource)
  agentName := rs.map (·.agentName)
  promptLengths := rs.map fun r => r.prompt.length
  promptItem := messageItems (rs.flatMap (·.prompt))
  ability := rs.map (·.ability)
  style := (rs.map (·.scoring)).map (·.style)
  truthLengths := (rs.map (·.scoring)).map fun s => s.groundTruth.length
  truthItem := callItems ((rs.map (·.scoring)).flatMap (·.groundTruth))
  split := (rs.map (·.extra)).map fun e => e.split.name
  index := (rs.map (·.extra)).map (·.index)
  taskId := (rs.map (·.extra)).map (·.taskId)
  userId := (rs.map (·.extra)).map (·.userId)
  question := (rs.map (·.extra)).map (·.question)
  needsTools := (rs.map (·.extra)).map (·.needsTools)
  toolArguments := (rs.map (·.extra)).map (·.toolArguments)
  interactionArguments := (rs.map (·.extra)).map (·.interactionArguments)

lemma check_ofRecords (rs : List Record) : check (ofRecords rs) = .ok (checkedOf rs) := by
  simp [check, ofRecords, column, findEntry, texts?, counts?, flags?, fields?, lists?,
    scoringColumn, extraColumn, bind, Except.bind, pure, Except.pure, checkedOf]

lemma record_checkedOf {rs : List Record} {i : Nat} (hi : i < rs.length) :
    (checkedOf rs).record (rs.map (·.prompt)) ((rs.map (·.scoring)).map (·.groundTruth)) i =
      .ok rs[i] := by
  simp [Checked.record, checkedOf, List.getD, hi, Split.ofName?_name]

lemma recordsOf_eq_ok {c : Checked} {messages : List (List Message)} {calls : List (List Call)}
    {rows : List Nat} {rs : List Record}
    (h : List.Forall₂ (fun row r => c.record messages calls row = .ok r) rows rs) :
    c.recordsOf messages calls rows = .ok rs := by
  induction h with
  | nil => rfl
  | cons hr _ ih => simp [Checked.recordsOf, hr, ih, bind, Except.bind, pure, Except.pure]

theorem toRecords_ofRecords (rs : List Record) : toRecords (ofRecords rs) = .ok rs := by
  have hrows : (ofRecords rs).rows = rs.length := by simp [ofRecords, Columns.rows, Column.rows]
  have hall : List.Forall₂ (fun row r => (checkedOf rs).record (rs.map (·.prompt))
      ((rs.map (·.scoring)).map (·.groundTruth)) row = .ok r) (List.range rs.length) rs := by
    refine List.forall₂_iff_get.2 ⟨by simp, fun i h₁ h₂ => ?_⟩
    simpa using record_checkedOf h₂
  have hm := messageRows_ofRecords rs
  have hc := callRows_ofRecords (rs.map (·.scoring))
  simp only [toRecords, check_ofRecords, hrows]
  split
  · rename_i h0
    rw [List.eq_nil_of_length_eq_zero h0]
  · have hm' : messageRows (checkedOf rs).promptLengths (checkedOf rs).promptItem =
        .ok (rs.map (·.prompt)) := hm
    have hc' : callRows (checkedOf rs).truthLengths (checkedOf rs).truthItem =
        .ok ((rs.map (·.scoring)).map (·.groundTruth)) := hc
    simp only [hm', hc', recordsOf_eq_ok hall]

end TaskCorpus.Table
