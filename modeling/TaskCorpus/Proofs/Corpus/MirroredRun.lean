import TaskCorpus.Proofs.Corpus.Faithful
import TaskCorpus.Proofs.Corpus.Mirror

/-!
What a mirrored run promises, and what it does not.

Where the mirror is another directory, a run that ends well leaves two complete copies; where it
is the output directory itself, every file is emptied in the copying. And the manifest of an
earlier mirror stays in place while the files beside it are replaced: a run that ends in an error
leaves it true only as far as these files happen to keep their digests, or if the new manifest is
there to its end although its copying has been reported as a failure.
-/

namespace TaskCorpus

open Store (Desk Script Within copied)
open Store.Script (Attains Ensures)

variable {here : Location} {st : Store here}

namespace Corpus

variable {codec : Table.Codec} {e : Desk here} {s t u : Store here} {dir place : Path}
  {dataSource : String}
  {ps : List (Split × List Record)}

/-- Both directories hold exactly what a run has written, and the digests that its summary and
its manifest give are those of both copies. -/
structure Doubled (codec : Table.Codec) (dataSource : String) (dir place : Path)
    (ps : List (Split × List Record)) (summary : Summary) (s : Store here) : Prop where
  bytes : ∀ name bytes, (name, bytes) ∈ outputs codec dataSource dir ps →
    ∀ p ∈ [dir, place], s.read (p.join ⟨name⟩) = .ok bytes
  digests : ∀ f ∈ summary.files, ∀ p ∈ [dir, place],
    (Manifest.fileDigest (p.join ⟨f.split.fileName⟩)).on s = .ok f.digest
  manifest : ∀ p ∈ [dir, place], ∃ m, (Manifest.load (p.join ⟨Manifest.fileName⟩)).on s = .ok m ∧
    ∀ e ∈ m.entries, ∀ q ∈ [dir, place],
      (Manifest.fileDigest (q.join ⟨e.file⟩)).on s = .ok e.digest

lemma mem_outputs {name : String} {bytes : ByteArray} :
    (name, bytes) ∈ outputs codec dataSource dir ps ↔
      (∃ p ∈ ps, name = p.1.fileName ∧ bytes = codec.writeRecords p.2) ∨
        (name = Manifest.fileName ∧ bytes = (manifestFor codec dataSource dir ps).text.toUTF8) := by
  simp only [outputs, List.mem_append, List.mem_map, List.mem_singleton, Prod.mk.injEq, eq_comm]

lemma split_mem_outputs (codec : Table.Codec) (dataSource : String) (dir : Path)
    {p : Split × List Record} (hp : p ∈ ps) :
    (p.1.fileName, codec.writeRecords p.2) ∈ outputs codec dataSource dir ps :=
  mem_outputs.2 (.inl ⟨p, hp, rfl, rfl⟩)

lemma manifest_mem_outputs (codec : Table.Codec) (dataSource : String) (dir : Path)
    (ps : List (Split × List Record)) :
    (Manifest.fileName, (manifestFor codec dataSource dir ps).text.toUTF8) ∈
      outputs codec dataSource dir ps := mem_outputs.2 (.inr ⟨rfl, rfl⟩)

lemma Finished.read (h : Finished codec dataSource dir ps s t) {name : String} {bytes : ByteArray}
    (hf : (name, bytes) ∈ outputs codec dataSource dir ps) :
    t.read (dir.join ⟨name⟩) = .ok bytes := by
  rcases mem_outputs.1 hf with ⟨p, hp, rfl, rfl⟩ | ⟨rfl, rfl⟩
  · exact h.written p hp
  · exact h.manifest

lemma mem_outputNames {name : String} {bytes : ByteArray}
    (hf : (name, bytes) ∈ outputs codec dataSource dir ps) : name ∈ outputNames ps := by
  rw [outputNames, splitNames, List.mem_append, List.mem_map, List.mem_singleton]
  rcases mem_outputs.1 hf with ⟨p, hp, rfl, -⟩ | ⟨rfl, -⟩
  · exact .inl ⟨p, hp, rfl⟩
  · exact .inr rfl

lemma read_of_copies (hfin : Finished codec dataSource dir ps s t)
    {names : List String} (hcopies : Copies t u dir place names) {name : String}
    {bytes : ByteArray} (hmem : name ∈ names)
    (hf : (name, bytes) ∈ outputs codec dataSource dir ps) :
    u.read (place.join ⟨name⟩) = .ok (copied (dir.location here) (place.location here) bytes) := by
  have hname := isFileName_outputNames ps name (mem_outputNames hf)
  obtain ⟨bytes', hbytes, hread⟩ := hcopies name hmem
  have hfile := (Store.read_eq_ok_iff.1 (hfin.read hf)).2
  rw [Path.location_join here dir hname, hbytes] at hfile
  rw [hread, Option.some.inj hfile]
  simp [copied]

lemma doubled_of_bytes {mirrorDir : Option Path}
    (h : ∀ name bytes, (name, bytes) ∈ outputs codec dataSource dir ps →
      ∀ p ∈ [dir, place], s.read (p.join ⟨name⟩) = .ok bytes) :
    Doubled codec dataSource dir place ps (summaryOf codec dir mirrorDir ps) s where
  bytes := h
  digests := by
    intro f hf p hp
    obtain ⟨q, hq, rfl⟩ := List.mem_map.1 hf
    exact Manifest.on_fileDigest (h _ _ (split_mem_outputs codec dataSource dir hq) p hp)
  manifest := by
    intro p hp
    refine ⟨manifestFor codec dataSource dir ps,
      Manifest.on_load (h _ _ (manifest_mem_outputs _ _ _ _) p hp), fun e he p hp => ?_⟩
    simp only [manifestFor, manifestOf, List.map_map, List.mem_map, Function.comp_apply,
      fileOf] at he
    obtain ⟨q, hq, rfl⟩ := he
    exact Manifest.on_fileDigest (h _ _ (split_mem_outputs codec dataSource dir hq) p hp)

/-- Where the mirror is the output directory, every file that the run has written is empty when
the run ends. -/
lemma emptied_of_eq {home m : Path} {settings : Settings} {summary : Summary}
    (hm : settings.mirrorDir = some m)
    (heq : (m.expandHome home).location here = (settings.outputDir.expandHome home).location here)
    (h : (run codec home settings).run.run (.ofStore st) = (.ok summary, e)) :
    ∃ ps, Prepares st settings ps ∧ ∀ name bytes,
      (name, bytes) ∈ outputs codec settings.dataSource (settings.outputDir.expandHome home) ps →
      e.store.read ((m.expandHome home).join ⟨name⟩) = .ok .empty := by
  obtain ⟨ps, hps, -, t, hfin, -, hcopies⟩ := (attains_run_mirrored hm).run h
  refine ⟨ps, hps, fun name bytes hf => ?_⟩
  rw [read_of_copies hfin hcopies (mem_outputNames hf) hf, copied, if_pos heq.symm]

lemma not_doubled_of_empty {summary : Summary}
    (h : s.read (place.join ⟨Manifest.fileName⟩) = .ok .empty) :
    ¬ Doubled codec dataSource dir place ps summary s := by
  intro hd
  have hread := hd.bytes _ _ (manifest_mem_outputs _ _ _ _) place (by simp)
  rw [h] at hread
  have htext := Manifest.ofBytes?_text (manifestFor codec dataSource dir ps)
  rw [← Except.ok.inj hread, Manifest.ofBytes?_empty] at htext
  cases htext

/-- **Two copies**: after a run with a mirror that has ended well, both directories hold what the
run has written exactly if they are different directories. -/
theorem doubled_iff {home m : Path} {settings : Settings} {summary : Summary}
    (hm : settings.mirrorDir = some m)
    (h : (run codec home settings).run.run (.ofStore st) = (.ok summary, e)) :
    ∃ ps, Prepares st settings ps ∧
      summary = summaryOf codec (settings.outputDir.expandHome home) (some (m.expandHome home)) ps ∧
      (Doubled codec settings.dataSource (settings.outputDir.expandHome home) (m.expandHome home) ps
        summary e.store ↔
        (m.expandHome home).location here ≠
          (settings.outputDir.expandHome home).location here) := by
  obtain ⟨ps, hps, rfl, t, hfin, hwithin, hcopies⟩ := (attains_run_mirrored hm).run h
  refine ⟨ps, hps, rfl, fun hd heq => ?_, fun hne =>
    doubled_of_bytes fun name bytes hf p hp => ?_⟩
  · -- the copy has emptied the manifest, which is its own source
    refine not_doubled_of_empty ?_ hd
    have hf :=
      manifest_mem_outputs codec settings.dataSource (settings.outputDir.expandHome home) ps
    rw [read_of_copies hfin hcopies (mem_outputNames hf) hf, copied, if_pos heq.symm]
  · rcases List.mem_pair.1 hp with rfl | rfl
    · refine hwithin.read (hfin.read hf) ?_
      rw [Path.location_join here _ (isFileName_outputNames ps name (mem_outputNames hf))]
      rintro ⟨name', -, hl⟩
      exact hne (List.append_inj_left' hl rfl).symm
    · rw [read_of_copies hfin hcopies (mem_outputNames hf) hf, copied, if_neg (Ne.symm hne)]

theorem doubled_iff_sample : ∃ summary e ps,
    (run .text ⟨""⟩ (sampleSettings (some ⟨"copy"⟩))).run.run (.ofStore sampleStore) =
      (.ok summary, e) ∧
    Doubled .text (sampleSettings (some ⟨"copy"⟩)).dataSource ⟨"out"⟩ ⟨"copy"⟩ ps summary
      e.store := by
  obtain ⟨summary, e, h⟩ := exists_run_sample (some ⟨"copy"⟩) (by decide +kernel)
  obtain ⟨ps, -, -, hiff⟩ := doubled_iff rfl h
  exact ⟨summary, e, ps, h, hiff.2 (by decide)⟩

/-- A run that mirrors the output directory to itself ends well, and what it has written is lost:
no records that the sources make of the store are in both places. -/
theorem not_doubled_sample : ∃ summary e,
    (run .text ⟨""⟩ (sampleSettings (some ⟨"out"⟩))).run.run (.ofStore sampleStore) =
      (.ok summary, e) ∧
    e.store.read ⟨"out/manifest.json"⟩ = .ok .empty ∧
    ∀ ps, Prepares sampleStore (sampleSettings (some ⟨"out"⟩)) ps →
      ¬ Doubled .text (sampleSettings (some ⟨"out"⟩)).dataSource ⟨"out"⟩ ⟨"out"⟩ ps summary
        e.store := by
  obtain ⟨summary, e, h⟩ := exists_run_sample (some ⟨"out"⟩) (by decide +kernel)
  obtain ⟨ps, -, hempty⟩ := emptied_of_eq rfl rfl h
  have hread := hempty _ _ (manifest_mem_outputs _ _ _ _)
  exact ⟨summary, e, h, hread, fun _ _ => not_doubled_of_empty hread⟩

/-! ### Earlier mirrors -/

def Touched (here : Location) (settings : Settings) (dir place : Path) (l : Location) : Prop :=
  ∃ name ∈ settings.splits.map (·.split.fileName) ++ [Manifest.fileName],
    ∃ p ∈ [dir, place], l = p.location here ++ [name]

/-- What has become of a mirror when a run has not come to a good end: only files that the run
writes differ, and the manifest is what it has been, or it is the beginning of one for split files
that are all there. -/
structure Overtaken (codec : Table.Codec) (settings : Settings) (dir place : Path)
    (s t : Store here) : Prop where
  within : Within (Touched here settings dir place) s t
  manifest :
    t.file? (place.location here ++ [Manifest.fileName]) =
        s.file? (place.location here ++ [Manifest.fileName]) ∨
      ∃ ps, Prepares s settings ps ∧ Written codec t place ps ∧ ∃ n,
        t.file? (place.location here ++ [Manifest.fileName]) =
          some ((manifestFor codec settings.dataSource dir ps).text.toUTF8.extract 0 n)

lemma Prepares.outputNames {settings : Settings} (h : Prepares s settings ps) :
    outputNames ps = settings.splits.map (·.split.fileName) ++ [Manifest.fileName] := by
  have hmap := congrArg (List.map Split.fileName) h.splits
  rw [List.map_map, List.map_map] at hmap
  exact congrArg (· ++ [Manifest.fileName]) hmap

lemma touched_of_named {settings : Settings} (h : Prepares s settings ps) {l : Location}
    (hl : Named here place (outputNames ps) l) : Touched here settings dir place l := by
  obtain ⟨name, hname, hl⟩ := hl
  exact ⟨name, h.outputNames ▸ hname, place, by simp, hl⟩

lemma touched_of_outputFiles {settings : Settings} (h : Prepares s settings ps) {l : Location}
    (hl : OutputFiles here dir ps l) : Touched here settings dir place l := by
  obtain ⟨name, hname, hl⟩ := h.exists_of_outputFiles hl
  exact ⟨name, hname, dir, by simp, hl⟩

lemma not_outputFiles (ps : List (Split × List Record)) (name : String)
    (hne : place.location here ≠ dir.location here) :
    ¬ OutputFiles here dir ps (place.location here ++ [name]) := by
  rintro (⟨p, -, hl⟩ | hl)
  · exact hne (List.append_inj_left' hl rfl)
  · exact hne (List.append_inj_left' hl rfl)

lemma overtaken_of_keeps {settings : Settings} (h : Store.Keeps s t) :
    Overtaken codec settings dir place s t :=
  ⟨h.mono fun _ h => h.elim, .inl (h.files _ id)⟩

lemma Underway.overtaken {settings : Settings} (h : Underway dir ps s t)
    (hps : Prepares s settings ps) (hne : place.location here ≠ dir.location here) :
    Overtaken codec settings dir place s t := by
  rcases h with hkeep | ⟨hwithin, -⟩
  · exact overtaken_of_keeps hkeep
  · exact ⟨hwithin.mono fun _ h => touched_of_outputFiles hps h,
      .inl (hwithin.files _ (not_outputFiles ps _ hne))⟩

lemma Finished.file?_manifest (h : Finished codec dataSource dir ps s t) :
    t.file? (dir.location here ++ [Manifest.fileName]) =
      some (manifestFor codec dataSource dir ps).text.toUTF8 := by
  rw [← location_manifest]
  exact (Store.read_eq_ok_iff.1 h.manifest).2

lemma written_of_copies {names : List String} (hfin : Finished codec dataSource dir ps s t)
    (hcopies : Copies t u dir place names) (hnames : ∀ name ∈ splitNames ps, name ∈ names)
    (hne : place.location here ≠ dir.location here) : Written codec u place ps := by
  intro p hp
  have hmem := hnames _ (List.mem_map.2 ⟨p, hp, rfl⟩)
  have hf := split_mem_outputs codec dataSource dir hp
  rw [read_of_copies hfin hcopies hmem hf, copied, if_neg (Ne.symm hne)]

lemma Finished.overtaken {settings : Settings}
    (h : Finished codec settings.dataSource dir ps s t) (hps : Prepares s settings ps)
    (hne : place.location here ≠ dir.location here)
    (hwithin : Within (Named here place (outputNames ps)) t u)
    (hlast : LastCopied dir place (splitNames ps) Manifest.fileName t u) :
    Overtaken codec settings dir place s u := by
  refine ⟨(h.within.mono fun _ h => touched_of_outputFiles hps h).trans
    (hwithin.mono fun _ h => touched_of_named hps h), ?_⟩
  rcases hlast with heq | ⟨hcopies, bytes, n, hbytes, hfirst⟩
  · exact .inl (heq.trans (h.within.files _ (not_outputFiles ps _ hne)))
  · rw [h.file?_manifest] at hbytes
    cases hbytes
    exact .inr ⟨ps, hps, written_of_copies h hcopies (fun _ h => h) hne, n, hfirst⟩

lemma fresh_of_copies (hfin : Finished codec dataSource dir ps s t)
    (hcopies : Copies t u dir place (outputNames ps))
    (hne : place.location here ≠ dir.location here) :
    Manifest.Fresh u (place.location here) := by
  have hwritten := written_of_copies hfin hcopies (fun _ h => List.mem_append_left _ h) hne
  have hf := manifest_mem_outputs codec dataSource dir ps
  have hread := read_of_copies hfin hcopies (mem_outputNames hf) hf
  rw [copied, if_neg (Ne.symm hne)] at hread
  have hfile := (Store.read_eq_ok_iff.1 hread).2
  rw [location_manifest] at hfile
  exact Manifest.fresh_of_text (matches_manifestFor hwritten) hfile

/-- A mirror whose manifest breaks off is true exactly if nothing that counts is missing. -/
lemma fresh_iff_of_extract {n : Nat} (hwritten : Written codec u place ps)
    (h : u.file? (place.location here ++ [Manifest.fileName]) =
      some ((manifestFor codec dataSource dir ps).text.toUTF8.extract 0 n)) :
    Manifest.Fresh u (place.location here) ↔
      Manifest.in? u (place.location here) = some (manifestFor codec dataSource dir ps) := by
  constructor
  · intro hfresh
    obtain ⟨m, hm, -⟩ := hfresh _ h
    rw [Manifest.in?, h, Option.bind_some, hm, Manifest.ofBytes?_extract hm]
  · intro hin bytes hbytes
    rw [Manifest.in?, hbytes, Option.bind_some] at hin
    exact ⟨_, hin, matches_manifestFor hwritten⟩

/-- Until a mirrored run has come to a good end, the manifest of its mirror is left as it was, or
it is as far as it has been copied; then the mirror matches its manifest. -/
lemma attains_run_overtaken {d : Desk here} {home m : Path} {settings : Settings}
    (hm : settings.mirrorDir = some m)
    (hne : (m.expandHome home).location here ≠ (settings.outputDir.expandHome home).location here) :
    (run codec home settings).run.Attains
      (fun e => Overtaken codec settings (settings.outputDir.expandHome home) (m.expandHome home)
        d.store e.store)
      (fun _ e => Manifest.Fresh e.store ((m.expandHome home).location here)) d := by
  refine (attains_run_mirrored hm).mono ?_ ?_
  · rintro e (hkeep | ⟨ps, hps, hunder | ⟨t, hfin, hwithin, hlast⟩⟩)
    · exact overtaken_of_keeps hkeep
    · exact hunder.overtaken hps hne
    · exact hfin.overtaken hps hne hwithin hlast
  · rintro summary e ⟨ps, -, -, t, hfin, -, hcopies⟩
    exact fresh_of_copies hfin hcopies hne

/-- **Earlier mirrors**: where the manifest of a mirror in another directory has been absent or
true before a run, it is so after the run exactly if the run has ended well; or it has not come to
the manifest of the mirror and has left a file with its digest wherever it has written to one that
this manifest names; or it has written the whole new manifest there. -/
theorem mirror_fresh_iff {home m : Path} {settings : Settings} {r : Except Error Summary}
    (hm : settings.mirrorDir = some m)
    (hne : (m.expandHome home).location here ≠ (settings.outputDir.expandHome home).location here)
    (hst : Manifest.Fresh st ((m.expandHome home).location here))
    (h : (run codec home settings).run.Reaches (.ofStore st) (.done r) e) :
    Manifest.Fresh e.store ((m.expandHome home).location here) ↔ (∃ summary, r = .ok summary) ∨
      (e.store.file? ((m.expandHome home).location here ++ [Manifest.fileName]) =
          st.file? ((m.expandHome home).location here ++ [Manifest.fileName]) ∧
        ∀ earlier, Manifest.in? st ((m.expandHome home).location here) = some earlier →
          ∀ entry ∈ earlier.entries,
            Touched here settings (settings.outputDir.expandHome home) (m.expandHome home)
              (Path.location ((m.expandHome home).location here) ⟨entry.file⟩) →
            entry.Holds e.store ((m.expandHome home).location here)) ∨
      (e.store.file? ((m.expandHome home).location here ++ [Manifest.fileName]) ≠
          st.file? ((m.expandHome home).location here ++ [Manifest.fileName]) ∧
        ∃ ps, Prepares st settings ps ∧ Manifest.in? e.store ((m.expandHome home).location here) =
          some (manifestFor codec settings.dataSource
            (settings.outputDir.expandHome home) ps)) := by
  have hend := Ensures.ends (attains_run_overtaken hm hne) h
  cases r with
  | ok summary => exact ⟨fun _ => .inl ⟨summary, rfl⟩, fun _ => hend⟩
  | error f =>
    obtain ⟨hwithin, hmanifest⟩ := hend
    by_cases heq : e.store.file? ((m.expandHome home).location here ++ [Manifest.fileName]) =
        st.file? ((m.expandHome home).location here ++ [Manifest.fileName])
    · rw [Manifest.fresh_iff_of_eq hst hwithin heq]
      refine ⟨fun h => .inr (.inl ⟨heq, h⟩), ?_⟩
      rintro (⟨summary, hr⟩ | ⟨-, h⟩ | ⟨hne, -⟩)
      · cases hr
      · exact h
      · exact absurd heq hne
    · obtain ⟨ps, hps, hwritten, n, hfirst⟩ := hmanifest.resolve_left heq
      have hiff := fresh_iff_of_extract hwritten hfirst
      refine ⟨fun h => .inr (.inr ⟨heq, ps, hps, hiff.1 h⟩), ?_⟩
      rintro (⟨summary, hr⟩ | ⟨h, -⟩ | ⟨-, ps', -, hin⟩)
      · cases hr
      · exact absurd h heq
      · -- what can be read of the new manifest is this manifest
        refine hiff.2 ?_
        rw [Manifest.in?, hfirst, Option.bind_some] at hin ⊢
        rw [hin, Manifest.ofBytes?_extract hin]

theorem mirror_fresh_iff_sample : ∃ summary e,
    (run .text ⟨""⟩ (sampleSettings (some ⟨"copy"⟩))).run.Reaches (.ofStore sampleStore)
      (.done (.ok summary)) e ∧ Manifest.Fresh e.store ["work", "copy"] := by
  obtain ⟨summary, e, h⟩ := exists_run_sample (some ⟨"copy"⟩) (by decide +kernel)
  have hreach := Script.reaches_run (run .text ⟨""⟩ (sampleSettings (some ⟨"copy"⟩))).run
    (.ofStore sampleStore)
  rw [h] at hreach
  have hplace : ((⟨"copy"⟩ : Path).expandHome ⟨""⟩).location ["work"] = ["work", "copy"] := by
    decide
  have habsent :
      Manifest.Fresh sampleStore (((⟨"copy"⟩ : Path).expandHome ⟨""⟩).location ["work"]) := by
    rw [hplace]
    exact Manifest.fresh_of_absent rfl
  have hfresh := (mirror_fresh_iff rfl (by decide) habsent hreach).2 (.inl ⟨summary, rfl⟩)
  rw [hplace] at hfresh
  exact ⟨summary, e, hreach, hfresh⟩

/-- A mirror of an earlier run, with a small file in the place of the training split. -/
def earlierFile : ByteArray := "x".toUTF8

def earlierEntry : Manifest.Entry :=
  ⟨.train, Split.fileName .train, ⟨1, by decide⟩, Sha256.digest earlierFile⟩

def earlierManifest : Manifest := ⟨"tau_retail", [earlierEntry]⟩

def earlierStore : Store ["work"] :=
  ((sampleStore.set ["work", "copy"] .directory).set ["work", "copy", "train.parquet"]
    (.file earlierFile)).set ["work", "copy", "manifest.json"] (.file earlierManifest.text.toUTF8)

lemma file?_earlierManifest : earlierStore.file? (["work", "copy"] ++ [Manifest.fileName]) =
    some earlierManifest.text.toUTF8 := by
  simp [Store.file?, earlierStore, Store.node?_set_self, Manifest.fileName]

lemma fileFrom?_earlierEntry (s : Store ["work"]) :
    s.fileFrom? ["work", "copy"] ⟨earlierEntry.file⟩ = s.file? ["work", "copy", "train.parquet"] :=
  Store.fileFrom?_name s ["work", "copy"] (isFileName_split .train)

lemma fresh_earlierStore : Manifest.Fresh earlierStore ["work", "copy"] := by
  have hfile : earlierStore.file? ["work", "copy", "train.parquet"] = some earlierFile := by
    simp [Store.file?, earlierStore, Store.node?_set_self, Store.node?_set_of_ne]
  refine Manifest.fresh_of_text (m := earlierManifest) ?_ file?_earlierManifest
  intro entry hentry
  rw [List.mem_singleton.1 hentry]
  exact ⟨earlierFile, (fileFrom?_earlierEntry earlierStore).trans hfile, rfl⟩

/-- The run into this store, if the training split cannot be written where it is copied to. -/
def interrupted : Except Error Summary × Desk ["work"] :=
  (run .text ⟨""⟩ (sampleSettings (some ⟨"copy"⟩))).run.runRefusing .permissionDenied 20
    (.ofStore earlierStore)

lemma kept_of_empty {error : Error} {e : Desk ["work"]}
    (h : (run .text ⟨""⟩ (sampleSettings (some ⟨"copy"⟩))).run.Reaches (.ofStore earlierStore)
      (.done (.error error)) e)
    (hempty : e.store.file? ["work", "copy", "train.parquet"] = some .empty) :
    e.store.file? (["work", "copy"] ++ [Manifest.fileName]) = some earlierManifest.text.toUTF8 := by
  have hplace : ((⟨"copy"⟩ : Path).expandHome ⟨""⟩).location ["work"] = ["work", "copy"] := by
    decide
  have hover := Ensures.ends (attains_run_overtaken rfl (by decide)) h
  rcases hover.manifest with heq | ⟨ps, hps, hwritten, -⟩
  · rw [hplace] at heq
    exact heq.trans file?_earlierManifest
  · have htrain : Split.train ∈ ps.map (·.1) := by
      rw [hps.splits]
      exact List.mem_cons_self
    obtain ⟨⟨split, rs⟩, hp, rfl⟩ := List.mem_map.1 htrain
    have hfile := (Store.read_eq_ok_iff.1 (hwritten _ hp)).2
    rw [Path.location_join ["work"] _ (isFileName_split _), hplace] at hfile
    -- no records are written as nothing
    have hbytes : Table.Codec.text.writeRecords rs = .empty :=
      Option.some.inj (hfile.symm.trans hempty)
    have hread := Table.Codec.lawful_text.readRecords rs
    rw [hbytes] at hread
    have hnone : (Table.Codec.text.readRecords .empty).isOk = false := by decide +kernel
    rw [hread] at hnone
    cases hnone

lemma digest_of_fresh {s : Store ["work"]} (hfresh : Manifest.Fresh s ["work", "copy"])
    (h : s.file? (["work", "copy"] ++ [Manifest.fileName]) = some earlierManifest.text.toUTF8) :
    ∃ b, s.file? ["work", "copy", "train.parquet"] = some b ∧
      Sha256.digest b = Sha256.digest earlierFile := by
  obtain ⟨m, hm, hmatch⟩ := hfresh _ h
  rw [Manifest.ofBytes?_text] at hm
  cases hm
  obtain ⟨b, hb, hdigest⟩ := hmatch earlierEntry (List.mem_singleton.2 rfl)
  exact ⟨b, (fileFrom?_earlierEntry s).symm.trans hb, hdigest⟩

/-- A mirror that has been true is stale after a run that ends in an error: its manifest stays
while the copy of the training split breaks off. -/
theorem stale_mirror_sample : Manifest.Fresh earlierStore ["work", "copy"] ∧
    ∃ error e, (run .text ⟨""⟩ (sampleSettings (some ⟨"copy"⟩))).run.Reaches (.ofStore earlierStore)
      (.done (.error error)) e ∧ ¬ Manifest.Fresh e.store ["work", "copy"] := by
  have hreach :
      (run .text ⟨""⟩ (sampleSettings (some ⟨"copy"⟩))).run.Reaches (.ofStore earlierStore)
        (.done interrupted.1) interrupted.2 := Script.reaches_runRefusing _ _ _ _
  have hempty : interrupted.2.store.file? ["work", "copy", "train.parquet"] = some .empty := by
    decide +kernel
  have hdigest : Sha256.digest .empty ≠ Sha256.digest earlierFile := by decide +kernel
  have hfails : interrupted.1.isOk = false := by decide +kernel
  rcases hr : interrupted.1 with error | summary
  · rw [hr] at hreach
    -- the manifest still has the digest of the file that is gone
    refine ⟨fresh_earlierStore, error, interrupted.2, hreach, fun hfresh => hdigest ?_⟩
    obtain ⟨b, hb, hd⟩ := digest_of_fresh hfresh (kept_of_empty hreach hempty)
    rw [hempty] at hb
    cases hb
    exact hd
  · rw [hr] at hfails
    cases hfails

end Corpus

end TaskCorpus
