import TaskCorpus.Proofs.Corpus.Faithful
import TaskCorpus.Proofs.Corpus.Mirror
import TaskCorpus.Proofs.Corpus.Tidy

/-!
What a run changes.

`Footprint` compares a store on the way of a run with the one before it: only files that the run
writes differ, only directories on the way to these files have been made, and a split file is the
old one or complete. Every script of a run keeps the footprint, so it holds at every single point
of every execution.
-/

namespace TaskCorpus

open Store (Desk Script Within Keeps Makes Puts)
open Store.Script (Attains Ensures)

variable {here : Location} {d e : Desk here} {s t u : Store here}

lemma Store.Within.cases_of_node?_ne {L W : Location → Prop} (h : Within L s t)
    (hW : ∀ l, t.node? l = some .directory → s.node? l = some .directory ∨ W l) {l : Location}
    (hne : t.node? l ≠ s.node? l) :
    (s.node? l = none ∧ t.node? l = some .directory ∧ W l) ∨ L l := by
  by_cases hL : L l
  · exact .inr hL
  have hfile := h.files l hL
  unfold Store.file? at hfile
  rcases hs : s.node? l with _ | (_ | bytes)
  · rcases ht : t.node? l with _ | (_ | bytes)
    · exact absurd (ht.trans hs.symm) hne
    · rcases hW l ht with hd | hl
      · rw [hs] at hd
        cases hd
      · exact .inl ⟨rfl, rfl, hl⟩
    · simp [hs, ht] at hfile
  · exact absurd ((h.directories l hs).trans hs.symm) hne
  · rw [hs] at hfile
    rcases ht : t.node? l with _ | (_ | bytes')
    · simp [ht] at hfile
    · simp [ht] at hfile
    · rw [ht] at hfile
      refine absurd ?_ hne
      rw [hs, ht, Option.some.inj hfile]

namespace Corpus

variable {codec : Table.Codec} {dir place : Path} {places : List Path}
  {ps : List (Split × List Record)}

/-- The locations of files of given names in some directories. -/
def Placed (here : Location) (places : List Path) (names : List String) (l : Location) : Prop :=
  ∃ place ∈ places, Named here place names l

structure Footprint (codec : Table.Codec) (dir : Path) (places : List Path)
    (ps : List (Split × List Record)) (s t : Store here) : Prop where
  within : Within (Placed here places (outputNames ps)) s t
  opens : ∀ l, t.node? l = some .directory →
    s.node? l = some .directory ∨ ∃ place ∈ places, place.Passes here l
  splits : ∀ p ∈ ps,
    t.file? (dir.location here ++ [p.1.fileName]) = s.file? (dir.location here ++ [p.1.fileName]) ∨
      t.file? (dir.location here ++ [p.1.fileName]) = some (codec.writeRecords p.2)

namespace Footprint

lemma refl (codec : Table.Codec) (dir : Path) (places : List Path)
    (ps : List (Split × List Record)) (s : Store here) :
    Footprint codec dir places ps s s := ⟨.refl _ _, fun _ h => .inl h, fun _ _ => .inl rfl⟩

lemma makes (h : Footprint codec dir places ps s t) (hplace : place ∈ places)
    (hmakes : Makes (place.Passes here) t u) : Footprint codec dir places ps s u where
  within := h.within.trans (hmakes.within _)
  opens l hl := by
    rcases hmakes.opens l hl with hl | hl
    · exact h.opens l hl
    · exact .inr ⟨place, hplace, hl⟩
  splits p hp := by
    rw [hmakes.files _ id]
    exact h.splits p hp

lemma puts {l : Location} {bytes : Option ByteArray} (h : Footprint codec dir places ps s t)
    (hput : Puts l bytes t u) (hl : Placed here places (outputNames ps) l)
    (hbytes : ∀ p ∈ ps, dir.location here ++ [p.1.fileName] = l →
      bytes = some (codec.writeRecords p.2)) : Footprint codec dir places ps s u where
  within := h.within.trans (hput.toWithin.mono fun k hk => hk ▸ hl)
  opens k hk := h.opens k (hput.opens k hk)
  splits p hp := by
    by_cases heq : dir.location here ++ [p.1.fileName] = l
    · right
      rw [heq, hput.there, hbytes p hp heq]
    · rw [hput.files _ heq]
      exact h.splits p hp

lemma putsElsewhere {name : String} {bytes : Option ByteArray}
    (h : Footprint codec dir places ps s t) (hplace : place ∈ places)
    (hne : place.location here ≠ dir.location here) (hname : name ∈ outputNames ps)
    (hput : Puts (place.location here ++ [name]) bytes t u) :
    Footprint codec dir places ps s u := by
  refine h.puts hput ⟨place, hplace, name, hname, rfl⟩ fun p _ hl => ?_
  exact absurd (List.append_inj_left' hl rfl).symm hne

end Footprint

/-! ### Scripts that keep the footprint -/

/-- However a program is executed, it keeps the footprint, at every point. -/
def Stays (codec : Table.Codec) (dir : Path) (places : List Path)
    (ps : List (Split × List Record)) (s : Store here) {α : Type} (p : Program α) : Prop :=
  ∀ d : Desk here, Footprint codec dir places ps s d.store →
    p.run.Attains (fun e => Footprint codec dir places ps s e.store)
      (fun _ e => Footprint codec dir places ps s e.store) d

namespace Stays

variable {α β : Type}

lemma pure (a : α) : Stays codec dir places ps s (Pure.pure a : Program α) := fun _ hd => hd

lemma bind {p : Program α} {f : α → Program β} (h : Stays codec dir places ps s p)
    (hf : ∀ a, Stays codec dir places ps s (f a)) : Stays codec dir places ps s (p >>= f) :=
  fun d hd => Attains.bind (h d hd) fun a e he => hf a e he

end Stays

lemma stays_makeDirectories (hplace : place ∈ places) :
    Stays codec dir places ps s (makeDirectories place) := by
  intro d hd
  refine Attains.attempt ((Store.attains_makeDirectories place).mono ?_ ?_)
  · exact fun e hmakes => hd.makes hplace hmakes
  · exact fun _ e h => hd.makes hplace h.1

lemma stays_replaceFile {temporaryName : String} {unwritten : Store.Fault → Error} {p : Path}
    {bytes : ByteArray} (hp : Placed here places (outputNames ps) (p.location here))
    (hbytes : ∀ q ∈ ps, dir.location here ++ [q.1.fileName] = p.location here →
      bytes = codec.writeRecords q.2) :
    Stays codec dir places ps s (Store.replaceFile temporaryName unwritten p bytes) := by
  intro d hd
  refine (Store.attains_replaceFile temporaryName unwritten p bytes).mono ?_ ?_
  · rintro e he
    rw [he]
    exact hd
  · rintro ⟨⟩ e ⟨hput, -, -⟩
    exact hd.puts hput hp fun q hq hl => congrArg some (hbytes q hq hl)

lemma placed_of_mem (hdir : place ∈ places) {p : Split × List Record} (hp : p ∈ ps) :
    Placed here places (outputNames ps) (place.location here ++ [p.1.fileName]) :=
  ⟨place, hdir, _, List.mem_append_left _ (List.mem_map.2 ⟨p, hp, rfl⟩), rfl⟩

lemma placed_manifest (hdir : place ∈ places) :
    Placed here places (outputNames ps) ((place.join ⟨Manifest.fileName⟩).location here) :=
  ⟨place, hdir, _, List.mem_append_right _ (List.mem_singleton.2 rfl), location_manifest place⟩

lemma split_location_ne_manifest (dir : Path) (p : Split × List Record) :
    dir.location here ++ [p.1.fileName] ≠ (dir.join ⟨Manifest.fileName⟩).location here := by
  rw [location_manifest]
  intro hl
  exact split_fileName_ne p.1 (by simpa using hl)

lemma stays_removeStale (hdir : dir ∈ places) :
    Stays codec dir places ps s (removeStale (dir.join ⟨Manifest.fileName⟩)) := by
  intro d hd
  refine Attains.attempt ⟨hd, fun r e ho => ?_⟩
  rcases ho.remove with ⟨rfl, hput⟩ | ⟨f, rfl, rfl, -⟩
  · exact hd.puts hput (placed_manifest hdir) fun p _ hl =>
      absurd hl (split_location_ne_manifest dir p)
  · dsimp only [Script.bind]
    split <;> exact hd

lemma stays_writeSplit (hps : (ps.map (·.1)).Nodup) (hdir : dir ∈ places)
    {p : Split × List Record} (hp : p ∈ ps) :
    Stays codec dir places ps s (writeSplit codec p.2 p.1 dir) := by
  have hloc := Path.location_join here dir (isFileName_split p.1)
  refine .bind (stays_replaceFile ?_ ?_) fun _ => .bind ?_ fun _ => .pure _
  · rw [hloc]
    exact placed_of_mem hdir hp
  · intro q hq hl
    rw [hloc] at hl
    have hname : q.1.fileName = p.1.fileName := by simpa using hl
    rw [List.inj_on_of_nodup_map hps hq hp (split_fileName_inj hname)]
  · intro d hd
    refine (attains_fileDigest _).mono ?_ ?_
    · rintro e rfl
      exact hd
    · rintro _ e ⟨rfl, -⟩
      exact hd

lemma stays_writeSplits (hps : (ps.map (·.1)).Nodup) (hdir : dir ∈ places)
    {qs : List (Split × List Record)} (hqs : ∀ q ∈ qs, q ∈ ps) :
    Stays codec dir places ps s (writeSplits codec dir qs) := by
  induction qs with
  | nil => exact .pure _
  | cons q qs ih =>
    obtain ⟨hq, hqs⟩ := List.forall_mem_cons.1 hqs
    exact .bind (stays_writeSplit hps hdir hq) fun _ => .bind (ih hqs) fun _ => .pure _

lemma stays_writeFiles (hps : (ps.map (·.1)).Nodup) (hdir : dir ∈ places) (dataSource : String) :
    Stays codec dir places ps s (writeFiles codec dataSource dir ps) := by
  refine .bind (stays_makeDirectories hdir) fun _ => .bind (stays_removeStale hdir) fun _ =>
    .bind (stays_writeSplits hps hdir fun _ h => h) fun files => .bind ?_ fun _ => .pure _
  exact stays_replaceFile (placed_manifest hdir) fun p _ hl =>
    absurd hl (split_location_ne_manifest dir p)

lemma stays_copyAll (hplace : place ∈ places) (hne : place.location here ≠ dir.location here)
    {names : List String} (hnames : ∀ name ∈ names, name ∈ outputNames ps) :
    Stays codec dir places ps s (copyAll place (names.map fun name => dir.join ⟨name⟩)) := by
  induction names with
  | nil => exact .pure _
  | cons name names ih =>
    obtain ⟨hmem, hrest⟩ := List.forall_mem_cons.1 hnames
    have hname := isFileName_outputNames ps name hmem
    have hloc := Path.location_join here place hname
    rw [List.map_cons, copyAll, Path.fileName?_join dir hname]
    refine .bind (fun d hd => ?_) fun _ => ih hrest
    have hcopy := Store.attains_copyFile (d := d) (dir.join ⟨name⟩) (place.join ⟨name⟩)
    rw [hloc] at hcopy
    refine Attains.attempt (hcopy.mono ?_ ?_)
    · -- a copy that breaks off has put a part of the file there
      rintro e (he | ⟨_, -, _, hput⟩)
      · rw [he]
        exact hd
      · exact hd.putsElsewhere hplace hne hmem hput
    · rintro ⟨⟩ e ⟨bytes, -, hput, -⟩
      exact hd.putsElsewhere hplace hne hmem hput

def placesOf (dir : Path) (mirrorDir : Option Path) : List Path := dir :: mirrorDir.toList

lemma stays_write {mirrorDir : Option Path} (hps : (ps.map (·.1)).Nodup)
    (hne : ∀ m, mirrorDir = some m → m.location here ≠ dir.location here) (dataSource : String) :
    Stays codec dir (placesOf dir mirrorDir) ps s (write codec dataSource dir mirrorDir ps) := by
  intro d hd
  have hdir : dir ∈ placesOf dir mirrorDir := by simp [placesOf]
  refine Attains.bind (((stays_writeFiles hps hdir dataSource) d hd).and
    (attains_writeFiles dataSource dir hps) |>.mono (fun _ h => h.1) fun _ _ h => h) ?_
  rintro files e ⟨he, rfl, -⟩
  cases mirrorDir with
  | none => exact he
  | some m =>
    have hm : m ∈ placesOf dir (some m) := by simp [placesOf]
    have hmirror : Stays codec dir (placesOf dir (some m)) ps s
        (mirror ((outputNames ps).map fun name => dir.join ⟨name⟩) m) :=
      .bind (stays_makeDirectories hm) fun _ => stays_copyAll hm (hne m rfl) fun _ h => h
    dsimp only
    rw [paths_outputs]
    exact Stays.bind hmirror (fun _ => .pure _) e he

/-! ### Whole runs -/

variable {st : Store here} {home : Path} {settings : Settings}

/-- The directories that a run of the settings writes into. -/
def directories (home : Path) (settings : Settings) : List Path :=
  placesOf (settings.outputDir.expandHome home) (settings.mirrorDir.map (·.expandHome home))

/-- A run has changed nothing, or it has prepared its sources and keeps its footprint. -/
def OnCourse (codec : Table.Codec) (home : Path) (settings : Settings) (s t : Store here) : Prop :=
  t = s ∨ ∃ ps, Prepares s settings ps ∧
    Footprint codec (settings.outputDir.expandHome home) (directories home settings) ps s t

/-- A run keeps its footprint at every point of every execution. -/
lemma attains_run_onCourse (hne : ∀ m, settings.mirrorDir = some m →
      (m.expandHome home).location here ≠ (settings.outputDir.expandHome home).location here) :
    (run codec home settings).run.Attains (fun e => OnCourse codec home settings d.store e.store)
      (fun _ e => OnCourse codec home settings d.store e.store) d := by
  refine attains_run (.inl rfl) fun ps hps hnodup _ => ?_
  have hmirror : ∀ m, settings.mirrorDir.map (·.expandHome home) = some m →
      m.location here ≠ (settings.outputDir.expandHome home).location here := by
    intro m hm
    obtain ⟨p, hp, rfl⟩ := Option.map_eq_some_iff.1 hm
    exact hne p hp
  have hwrite : Stays codec (settings.outputDir.expandHome home) (directories home settings) ps
      d.store (write codec settings.dataSource _ _ ps) := stays_write hnodup hmirror _
  exact (hwrite d (.refl _ _ _ _ _)).mono (fun e he => .inr ⟨ps, hps, he⟩)
    fun _ e he => .inr ⟨ps, hps, he⟩

def splitLocation (here : Location) (home : Path) (settings : Settings)
    (split : Split) : Location :=
  (settings.outputDir.expandHome home).location here ++ [split.fileName]

/-- What a run may have done to a store: directories on the way to its own have been made, files
of the names that it writes are in these directories, no file of another split has changed, and
each of its split files in the output directory is what it was or holds all records that its
source makes of the store before. -/
structure Confined (codec : Table.Codec) (home : Path) (settings : Settings) (s t : Store here) :
    Prop where
  frame : ∀ l, t.node? l ≠ s.node? l →
    (s.node? l = none ∧ t.node? l = some .directory ∧
      ∃ place ∈ directories home settings, place.Passes here l) ∨
    ∃ place ∈ directories home settings, ∃ name ∈ fileNames settings,
      l = place.location here ++ [name]
  others : ∀ split ∉ settings.splits.map (·.split), ∀ l,
    t.file? (l ++ [split.fileName]) = s.file? (l ++ [split.fileName])
  splits : ∀ source ∈ settings.splits,
    t.file? (splitLocation here home settings source.split) =
        s.file? (splitLocation here home settings source.split) ∨
      ∃ rs, IsPrepared s settings.context source (source.split, rs) ∧
        t.file? (splitLocation here home settings source.split) = some (codec.writeRecords rs)

lemma confined_refl (codec : Table.Codec) (home : Path) (settings : Settings) (s : Store here) :
    Confined codec home settings s s :=
  ⟨fun _ h => absurd rfl h, fun _ _ _ => rfl, fun _ _ => .inl rfl⟩

lemma Prepares.exists_of_mem {source : Source} (h : Prepares s settings ps)
    (hsource : source ∈ settings.splits) :
    ∃ rs, (source.split, rs) ∈ ps ∧ IsPrepared s settings.context source (source.split, rs) := by
  unfold Prepares at h
  generalize settings.splits = sources at h hsource
  induction h with
  | nil => cases hsource
  | @cons source' p sources ps hp _ ih =>
    rcases List.mem_cons.1 hsource with rfl | hsource
    · obtain ⟨split, rs⟩ := p
      obtain rfl : split = source.split := hp.split
      exact ⟨rs, List.mem_cons_self, hp⟩
    · obtain ⟨rs, hrs, hprepared⟩ := ih hsource
      exact ⟨rs, List.mem_cons_of_mem _ hrs, hprepared⟩

lemma Footprint.confined (hps : Prepares s settings ps)
    (h : Footprint codec (settings.outputDir.expandHome home) (directories home settings) ps s t) :
    Confined codec home settings s t := by
  have hnames : ∀ name ∈ outputNames ps, (∃ p ∈ ps, name = p.1.fileName) ∨
      name = Manifest.fileName := by
    intro name hname
    simpa [outputNames, splitNames, eq_comm] using hname
  refine ⟨fun l hl => ?_, fun split hsplit l => ?_, fun source hsource => ?_⟩
  · refine (h.within.cases_of_node?_ne h.opens hl).imp_right ?_
    rintro ⟨place, hplace, name, hname, rfl⟩
    refine ⟨place, hplace, name, ?_, rfl⟩
    rcases hnames name hname with ⟨p, hp, rfl⟩ | rfl
    · exact hps.fileName_mem hp
    · exact List.mem_append_right _ (List.mem_singleton.2 rfl)
  · refine h.within.files _ ?_
    rintro ⟨place, -, name, hname, hl⟩
    obtain rfl : split.fileName = name := by simpa using (List.append_inj' hl rfl).2
    -- the file of another split is neither that of one of these nor the manifest
    rcases hnames _ hname with ⟨p, hp, hfile⟩ | hmanifest
    · refine hsplit ?_
      rw [← hps.splits, split_fileName_inj hfile]
      exact List.mem_map_of_mem hp
    · exact split_fileName_ne split hmanifest
  · obtain ⟨rs, hmem, hprepared⟩ := hps.exists_of_mem hsource
    exact (h.splits _ hmem).imp_right fun hfile => ⟨rs, hprepared, hfile⟩

/-- **What a run may change**: unless its mirror is its output directory, a run confines itself to
its directories and the files that it writes there, at every point and whatever is refused; and
when it is over, well or not, no temporary file is left. -/
theorem run_confined {p : Store.Script (Except Error Summary)}
    (hne : ∀ m, settings.mirrorDir = some m →
      (m.expandHome home).location here ≠ (settings.outputDir.expandHome home).location here)
    (h : (run codec home settings).run.Reaches (.ofStore st) p e) :
    Confined codec home settings st e.store ∧ ∀ r, p = .done r → e.temporary = none := by
  constructor
  · have hcourse : OnCourse codec home settings st e.store := by
      rcases Ensures.always (attains_run_onCourse hne) h with he | ⟨r, -, he⟩
      · exact he
      · cases r <;> exact he
    rcases hcourse with he | ⟨ps, hps, hfoot⟩
    · rw [he]
      exact confined_refl codec home settings st
    · exact hfoot.confined hps
  · rintro r rfl
    exact Ensures.ends (tidy_run codec home settings _ _ rfl) h

/-- The sample run, when the second split file cannot be put in its place. -/
def brokenOff : Except Error Summary × Desk ["work"] :=
  (run .text ⟨""⟩ (sampleSettings (some ⟨"copy"⟩))).run.runRefusing .permissionDenied 10
    (.ofStore sampleStore)

/-- It leaves the first split file without the second, and no temporary file. -/
theorem run_confined_sample : ∃ error e,
    (run .text ⟨""⟩ (sampleSettings (some ⟨"copy"⟩))).run.Reaches (.ofStore sampleStore)
      (.done (.error error)) e ∧
    (e.store.file? ["work", "out", "train.parquet"]).isSome ∧
    e.store.file? ["work", "out", "test.parquet"] = none ∧
    Confined .text ⟨""⟩ (sampleSettings (some ⟨"copy"⟩)) sampleStore e.store ∧
    e.temporary = none := by
  have hreach : (run .text ⟨""⟩ (sampleSettings (some ⟨"copy"⟩))).run.Reaches (.ofStore sampleStore)
      (.done brokenOff.1) brokenOff.2 := Script.reaches_runRefusing _ _ _ _
  have hne : ∀ m, (sampleSettings (some ⟨"copy"⟩)).mirrorDir = some m →
      (m.expandHome ⟨""⟩).location ["work"] ≠
        ((sampleSettings (some ⟨"copy"⟩)).outputDir.expandHome ⟨""⟩).location ["work"] := by
    intro m hm
    cases hm
    decide
  obtain ⟨hconfined, htidy⟩ := run_confined hne hreach
  have hfirst : (brokenOff.2.store.file? ["work", "out", "train.parquet"]).isSome := by
    decide +kernel
  have hsecond : brokenOff.2.store.file? ["work", "out", "test.parquet"] = none := by decide +kernel
  have hfails : brokenOff.1.isOk = false := by decide +kernel
  rcases hr : brokenOff.1 with error | summary
  · rw [hr] at hreach
    exact ⟨error, brokenOff.2, hreach, hfirst, hsecond, hconfined, htidy _ rfl⟩
  · rw [hr] at hfails
    cases hfails

end Corpus

end TaskCorpus
