import TaskCorpus.Proofs.Corpus.Run
import TaskCorpus.Proofs.Table.TextCodec

/-!
What a run that has ended well has made.

`Faithful` compares one source, as its task file was before the run, with the split file that the
run has left: the records that are read back, their places and ids, and the actions that they
expect.
-/

namespace TaskCorpus.Corpus

open Store (Desk Script)
open Store.Script (Attains)

variable {here : Location} {codec : Table.Codec} {st s : Store here} {ctx : Context} {dir : Path}

structure Faithful (codec : Table.Codec) (st s : Store here) (ctx : Context) (dir : Path)
    (source : Source) (f : SplitFile) (loaded selected : List Task)
    (records : List Record) : Prop where
  loads : (TaskFile.load source.path).on st = .ok loaded
  selects : source.select loaded = .ok selected
  builds : Record.buildAll selected source.split ctx = .ok records
  split : f.split = source.split
  path : f.path = dir.join ⟨source.split.fileName⟩
  count : f.records = .ofList records
  reads : (readRecords codec f.path).on s = .ok records
  digest : (Manifest.fileDigest f.path).on s = .ok f.digest
  length : records.length = selected.length
  /-- A record has the place of its task, its split, and its id. -/
  places : ∀ (i : Nat) (r : Record) (t : Task), records[i]? = some r → selected[i]? = some t →
    r.extra.index = i ∧ r.extra.split = source.split ∧ t.id = some r.extra.taskId
  ids : (records.map (·.extra.taskId)).Nodup
  /-- Actions without binary64 numbers are found again. -/
  actions : ∀ (i : Nat) (r : Record) (t : Task), records[i]? = some r → selected[i]? = some t →
    (∀ a ∈ t.actions, a.Integral) → r.expectedActions = .ok t.actions

lemma taskId_build {t : Task} {split : Split} {i : Nat} {id : String} (h : t.id = some id) :
    (Record.build t split i ctx).extra.taskId = id := by
  simp [Record.build, Task.resolvedId, h]

lemma exists_id {ts : List Task} {ids : List String} (hids : ts.map (·.id) = ids.map some) {i : Nat}
    {t : Task} (ht : ts[i]? = some t) : ∃ id, ids[i]? = some id ∧ t.id = some id := by
  have hmap := congrArg (·[i]?) hids
  simp only [List.getElem?_map, ht, Option.map_some] at hmap
  obtain ⟨id, hi, heq⟩ := Option.map_eq_some_iff.1 hmap.symm
  exact ⟨id, hi, heq.symm⟩

lemma map_taskId_of_built {ts : List Task} {ids : List String} {split : Split} {rs : List Record}
    (hids : ts.map (·.id) = ids.map some) (h : Record.buildAll ts split ctx = .ok rs) :
    rs.map (·.extra.taskId) = ids := by
  refine List.ext_getElem? fun i => ?_
  rw [(Record.buildAll_eq_ok h).2, List.getElem?_map, List.getElem?_mapIdx]
  rcases ht : ts[i]? with _ | t
  · have hmap := congrArg (·[i]?) hids
    simp only [List.getElem?_map, ht, Option.map_none] at hmap
    exact (Option.map_eq_none_iff.1 hmap.symm).symm
  · obtain ⟨id, hi, htid⟩ := exists_id hids ht
    simp [hi, taskId_build htid]

lemma faithful_of_prepared (hc : codec.Lawful) {source : Source} {p : Split × List Record}
    (hp : IsPrepared st ctx source p)
    (hread : s.read (dir.join ⟨p.1.fileName⟩) = .ok (codec.writeRecords p.2)) :
    ∃ loaded selected,
      Faithful codec st s ctx dir source (fileOf codec dir p) loaded selected p.2 := by
  obtain ⟨loaded, selected, hload, hselect, hbuild⟩ := hp.records
  obtain ⟨ids, hids, hnodup⟩ := Source.ids_of_select hselect
  refine ⟨loaded, selected, hload, hselect, hbuild, hp.split, by rw [fileOf, hp.split], rfl,
    on_readRecords hc hread, Manifest.on_fileDigest hread, Record.length_buildAll hbuild,
    ?_, ?_, ?_⟩
  · intro i r t hr ht
    obtain ⟨id, -, htid⟩ := exists_id hids ht
    rw [Record.getElem_buildAll hbuild hr ht, taskId_build htid]
    exact ⟨rfl, rfl, htid⟩
  · rw [map_taskId_of_built hids hbuild]
    exact hnodup
  · -- the actions of a selected task are those that have been loaded
    intro i r t hr ht hints
    obtain ⟨u, hu, hactions⟩ := Source.mem_of_select hselect (List.mem_of_getElem? ht)
    have hloaded : t.Loaded := by
      unfold Task.Loaded
      rw [hactions]
      exact TaskFile.loaded_of_on hload u hu
    rw [Record.getElem_buildAll hbuild hr ht]
    exact Record.expectedActions_build hloaded hints i

lemma forall₂_faithful (hc : codec.Lawful) {sources : List Source} {ps : List (Split × List Record)}
    (hps : List.Forall₂ (IsPrepared st ctx) sources ps)
    (hread : ∀ p ∈ ps, s.read (dir.join ⟨p.1.fileName⟩) = .ok (codec.writeRecords p.2)) :
    List.Forall₂ (fun source f => ∃ loaded selected records,
      Faithful codec st s ctx dir source f loaded selected records)
      sources (ps.map (fileOf codec dir)) := by
  induction hps with
  | nil => exact .nil
  | cons hp _ ih =>
    obtain ⟨hfirst, hrest⟩ := List.forall_mem_cons.1 hread
    obtain ⟨loaded, selected, hfaithful⟩ := faithful_of_prepared hc hp hfirst
    exact .cons ⟨loaded, selected, _, hfaithful⟩ (ih hrest)

lemma IsPrepared.ne_nil {source : Source} {p : Split × List Record}
    (hp : IsPrepared st ctx source p) : p.2 ≠ [] := by
  obtain ⟨loaded, selected, -, -, hbuild⟩ := hp.records
  obtain ⟨htasks, hrecords⟩ := Record.buildAll_eq_ok hbuild
  rw [hrecords]
  simpa using htasks

/-- **A run is faithful**: when a run without a mirror has ended well, there is a split file for
each source, in order, which holds the records of the tasks that the source selects; the manifest
describes exactly these files; and the example is the first record of the first split. -/
theorem run_faithful (hc : codec.Lawful) {home : Path} {settings : Settings} {summary : Summary}
    {e : Desk here} (hm : settings.mirrorDir = none)
    (h : (run codec home settings).run.run (.ofStore st) = (.ok summary, e)) :
    List.Forall₂ (fun source f => ∃ loaded selected records,
        Faithful codec st e.store settings.context (settings.outputDir.expandHome home) source f
          loaded selected records)
      settings.splits summary.files ∧
    summary.manifest = (settings.outputDir.expandHome home).join ⟨Manifest.fileName⟩ ∧
    (∃ m, (Manifest.load summary.manifest).on e.store = .ok m ∧
      m.dataSource = settings.dataSource ∧
      List.Forall₂ (fun entry f => entry = ⟨f.split, f.split.fileName, f.records, f.digest⟩ ∧
        (Manifest.fileDigest ((settings.outputDir.expandHome home).join ⟨entry.file⟩)).on e.store =
          .ok entry.digest) m.entries summary.files) ∧
    ∃ f fs first rest, summary.files = f :: fs ∧
      (readRecords codec f.path).on e.store = .ok (first :: rest) ∧
        summary.example? = some first := by
  obtain ⟨ps, hne, hps, rfl, hfin⟩ := (attains_run_unmirrored hm).run h
  have hread : ∀ p ∈ ps, e.store.read ((settings.outputDir.expandHome home).join
      ⟨p.1.fileName⟩) = .ok (codec.writeRecords p.2) := hfin.written
  refine ⟨forall₂_faithful hc hps hread, rfl, ⟨_, Manifest.on_load hfin.manifest, rfl, ?_⟩, ?_⟩
  · -- each entry of the manifest is that of the file of its split
    refine List.forall₂_map_left_iff.2 (List.forall₂_same.2 fun f hf => ⟨rfl, ?_⟩)
    obtain ⟨p, hp, rfl⟩ := List.mem_map.1 hf
    exact Manifest.on_fileDigest (hread p hp)
  · -- the example is the first record of the first split
    obtain ⟨p, rest, rfl⟩ := List.exists_cons_of_ne_nil hne
    obtain ⟨source, sources, hp, -, -⟩ := List.forall₂_cons_right_iff.1 hps
    obtain ⟨first, more, hrecords⟩ := List.exists_cons_of_ne_nil hp.ne_nil
    have hfirst := on_readRecords hc (hread p (by simp))
    rw [hrecords] at hfirst
    exact ⟨_, _, _, _, rfl, hfirst, by simp [summaryOf, hrecords]⟩

/-! ### A small corpus -/

/-- Two tasks, written as lists of their fields, of which the second has an id. -/
def sampleTasks : String :=
  "[[null,\"ann\",\"hello\",[[\"respond\"]]],[\"b\",\"bob\",\"hi\",[[\"respond\"]]]]"

def sampleStore : Store ["work"] :=
  Store.empty.set ["work", "tasks.json"] (.file sampleTasks.toUTF8)

def sampleSettings (mirrorDir : Option Path) : Settings :=
  { Settings.standard with
    outputDir := ⟨"out"⟩
    mirrorDir := mirrorDir
    splits := [⟨.train, ⟨"tasks.json"⟩, some (0, 1), none⟩,
      ⟨.test, ⟨"tasks.json"⟩, none, some ["b"]⟩] }

lemma exists_run_sample (mirrorDir : Option Path)
    (h : ((run .text ⟨""⟩ (sampleSettings mirrorDir)).run.run
      (.ofStore sampleStore)).1.isOk = true) :
    ∃ summary e, (run .text ⟨""⟩ (sampleSettings mirrorDir)).run.run (.ofStore sampleStore) =
      (.ok summary, e) := by
  rcases hr : (run .text ⟨""⟩ (sampleSettings mirrorDir)).run.run
    (.ofStore sampleStore) with ⟨f | a, e⟩
  · rw [hr] at h
    cases h
  · exact ⟨a, e, rfl⟩

lemma isOk_run_sample :
    ((run .text ⟨""⟩ (sampleSettings none)).run.run (.ofStore sampleStore)).1.isOk = true := by
  decide +kernel

theorem run_faithful_sample : ∃ summary e,
    (run .text ⟨""⟩ (sampleSettings none)).run.run (.ofStore sampleStore) = (.ok summary, e) ∧
    ∃ f fs first rest, summary.files = f :: fs ∧
      (readRecords .text f.path).on e.store = .ok (first :: rest) ∧
        summary.example? = some first := by
  obtain ⟨summary, e, h⟩ := exists_run_sample none isOk_run_sample
  exact ⟨summary, e, h, (run_faithful Table.Codec.lawful_text rfl h).2.2.2⟩

end TaskCorpus.Corpus
