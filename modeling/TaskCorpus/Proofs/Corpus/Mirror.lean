import TaskCorpus.Proofs.Corpus.Run

/-!
Copies of what a run has written.

`outputs` lists what a run writes, with the manifest last, and `Copies` says what the copies
hold. A copy is complete unless its target is its source, which has been emptied by the time it
is read.
-/

namespace TaskCorpus.Corpus

open Store (Desk Script Within Keeps copied)
open Store.Script (Attains Ensures)

variable {here : Location} {codec : Table.Codec} {d e : Desk here} {s t : Store here}
  {dir place : Path}

/-- The names and bytes of the files that a run writes. -/
def outputs (codec : Table.Codec) (dataSource : String) (dir : Path)
    (ps : List (Split × List Record)) : List (String × ByteArray) :=
  ps.map (fun p => (p.1.fileName, codec.writeRecords p.2)) ++
    [(Manifest.fileName, (manifestFor codec dataSource dir ps).text.toUTF8)]

/-- The locations of files of given names in a directory. -/
def Named (here : Location) (place : Path) (names : List String) (l : Location) : Prop :=
  ∃ name ∈ names, l = place.location here ++ [name]

/-- The copies of files of given names, from one directory to another. -/
def Copies (s t : Store here) (dir place : Path) (names : List String) : Prop :=
  ∀ name ∈ names, ∃ bytes, s.file? (dir.location here ++ [name]) = some bytes ∧
    t.read (place.join ⟨name⟩) =
      .ok (copied (dir.location here ++ [name]) (place.location here ++ [name]) bytes)

lemma copyAll_append (place : Path) (ps qs : List Path) :
    copyAll place (ps ++ qs) = copyAll place ps >>= fun _ => copyAll place qs := by
  induction ps with
  | nil => simp [copyAll]
  | cons p ps ih =>
    rw [List.cons_append, copyAll, copyAll]
    split
    · exact ih
    · simp only [ih, bind_assoc]

lemma attains_copyAll (dir place : Path) {names : List String}
    (hnames : ∀ name ∈ names, Path.IsFileName name) (hnodup : names.Nodup) :
    (copyAll place (names.map fun name => dir.join ⟨name⟩)).run.Attains
      (fun e => Within (Named here place names) d.store e.store)
      (fun _ e => Within (Named here place names) d.store e.store ∧
        Copies d.store e.store dir place names) d := by
  induction names generalizing d with
  | nil => exact ⟨.refl _ _, fun _ h => by cases h⟩
  | cons name names ih =>
    have hname := hnames name (by simp)
    have hrest := fun n hn => hnames n (List.mem_cons_of_mem name hn)
    have hnew := (List.nodup_cons.1 hnodup).1
    have hnodup' := (List.nodup_cons.1 hnodup).2
    have hhead : ∀ l, l = place.location here ++ [name] → Named here place (name :: names) l :=
      fun l hl => ⟨name, by simp, hl⟩
    have htail : ∀ l, Named here place names l → Named here place (name :: names) l :=
      fun l ⟨n, hn, hl⟩ => ⟨n, by simp [hn], hl⟩
    rw [List.map_cons, copyAll, Path.fileName?_join dir hname]
    have hcopy := Store.attains_copyFile (d := d) (dir.join ⟨name⟩) (place.join ⟨name⟩)
    rw [Path.location_join here place hname, Path.location_join here dir hname] at hcopy
    refine Attains.bind (Attains.attempt (hcopy.mono ?_ fun _ _ h => h)) ?_
    · rintro e (he | ⟨_, -, _, he⟩)
      · rw [he]
        exact .refl _ _
      · exact he.toWithin.mono hhead
    rintro ⟨⟩ e ⟨bytes, hbytes, hput, hreach⟩
    have hfirst := hput.toWithin.mono hhead
    refine (ih hrest hnodup').mono (fun e' he' => hfirst.trans (he'.mono htail)) ?_
    rintro ⟨⟩ e' ⟨hwithin, hcopies⟩
    refine ⟨hfirst.trans (hwithin.mono htail), fun n hn => ?_⟩
    rcases List.mem_cons.1 hn with rfl | hn
    · refine ⟨bytes, hbytes, hwithin.read (Store.read_eq_ok_iff.2 ⟨hreach, ?_⟩) ?_⟩
      · rw [Path.location_join here place hname, hput.there]
      · rw [Path.location_join here place hname]
        rintro ⟨m, hm, hl⟩
        have hnm : n = m := by simpa using hl
        exact hnew (hnm ▸ hm)
    · -- its source has another name than the first target, even in the same directory
      obtain ⟨b, hb, hr⟩ := hcopies n hn
      refine ⟨b, ?_, hr⟩
      rw [← hput.files, hb]
      intro hl
      have hnm : n = name := by
        have hlast := congrArg List.getLast? hl
        simpa using hlast
      exact hnew (hnm ▸ hn)

/-- What has become of the last one of some copies: its target has not been touched, or the
others are complete and its target begins like its source. -/
def LastCopied (dir place : Path) (names : List String) (last : String) (s t : Store here) : Prop :=
  t.file? (place.location here ++ [last]) = s.file? (place.location here ++ [last]) ∨
    (Copies s t dir place names ∧ ∃ bytes n, s.file? (dir.location here ++ [last]) = some bytes ∧
      t.file? (place.location here ++ [last]) = some (bytes.extract 0 n))

lemma not_named {names : List String} {name : String} (h : name ∉ names) (place : Path)
    (l : Location) : ¬ Named here place names (l ++ [name]) := by
  rintro ⟨m, hm, hl⟩
  have hlast : name = m := by simpa using congrArg List.getLast? hl
  exact h (hlast ▸ hm)

lemma Copies.within {names : List String} {L : Location → Prop} {u : Store here}
    (h : Copies s t dir place names) (hnames : ∀ name ∈ names, Path.IsFileName name)
    (htu : Within L t u) (hL : ∀ name ∈ names, ¬ L (place.location here ++ [name])) :
    Copies s u dir place names := by
  intro name hname
  obtain ⟨bytes, hbytes, hread⟩ := h name hname
  refine ⟨bytes, hbytes, htu.read hread ?_⟩
  rw [Path.location_join here place (hnames name hname)]
  exact hL name hname

/-- The target of the last copy is not touched before the other copies are complete. -/
lemma attains_copyAll_last (dir place : Path) {names : List String} {last : String}
    (hnames : ∀ name ∈ names ++ [last], Path.IsFileName name) (hnodup : (names ++ [last]).Nodup) :
    (copyAll place ((names ++ [last]).map fun name => dir.join ⟨name⟩)).run.Attains
      (fun e => LastCopied dir place names last d.store e.store) (fun _ _ => True) d := by
  obtain ⟨hnodup, -, hdisjoint⟩ := List.nodup_append.1 hnodup
  have hnew : last ∉ names := fun h => hdisjoint last h last (List.mem_singleton.2 rfl) rfl
  have hnames' := fun name hname => hnames name (List.mem_append_left _ hname)
  have hlast := hnames last (List.mem_append_right _ (List.mem_singleton.2 rfl))
  rw [List.map_append, copyAll_append]
  refine Attains.bind ((attains_copyAll dir place hnames' hnodup).mono
    (fun e he => .inl (he.files _ (not_named hnew place _))) fun _ _ h => h) ?_
  intro _ e hothers
  have hwithin := hothers.1
  have hcopies := hothers.2
  have hcopy := Store.attains_copyFile (d := e) (dir.join ⟨last⟩) (place.join ⟨last⟩)
  rw [Path.location_join here dir hlast, Path.location_join here place hlast] at hcopy
  rw [List.map_singleton, copyAll, Path.fileName?_join dir hlast]
  refine Attains.bind (Attains.attempt (hcopy.mono ?_ fun _ _ _ => trivial)) fun _ _ _ => trivial
  rintro e' (he' | ⟨bytes, hbytes, n, hput⟩)
  · exact .inl (by rw [he', hwithin.files _ (not_named hnew place _)])
  · -- the last source is none of the other targets, even in the same directory
    rw [hwithin.files _ (not_named hnew place _)] at hbytes
    refine .inr ⟨hcopies.within hnames' hput.toWithin ?_, bytes, n, hbytes, hput.there⟩
    intro name hname hl
    have heq : name = last := by simpa using hl
    exact hnew (heq ▸ hname)

/-! ### The mirror of a run -/

def splitNames (ps : List (Split × List Record)) : List String := ps.map fun p => p.1.fileName

/-- The names of the files that a run writes, with that of the manifest last. -/
def outputNames (ps : List (Split × List Record)) : List String :=
  splitNames ps ++ [Manifest.fileName]

lemma paths_outputs (codec : Table.Codec) (dir : Path) (ps : List (Split × List Record)) :
    (ps.map (fileOf codec dir)).map (·.path) ++ [dir.join ⟨Manifest.fileName⟩] =
      (outputNames ps).map fun name => dir.join ⟨name⟩ := by
  simp [outputNames, splitNames, fileOf, Function.comp_def]

lemma isFileName_outputNames (ps : List (Split × List Record)) :
    ∀ name ∈ outputNames ps, Path.IsFileName name := by
  intro name hname
  rcases List.mem_append.1 hname with hname | hname
  · obtain ⟨p, -, rfl⟩ := List.mem_map.1 hname
    exact isFileName_split p.1
  · rw [List.mem_singleton.1 hname]
    exact Manifest.isFileName_fileName

lemma nodup_splitNames {ps : List (Split × List Record)} (hps : (ps.map (·.1)).Nodup) :
    (splitNames ps).Nodup := by
  have hmap := List.Nodup.map (f := Split.fileName) (fun _ _ h => split_fileName_inj h) hps
  rwa [List.map_map] at hmap

lemma nodup_outputNames {ps : List (Split × List Record)} (hps : (ps.map (·.1)).Nodup) :
    (outputNames ps).Nodup := by
  refine List.nodup_append.2 ⟨nodup_splitNames hps, List.nodup_singleton _, ?_⟩
  rintro a ha b hb rfl
  obtain ⟨p, -, rfl⟩ := List.mem_map.1 ha
  exact split_fileName_ne p.1 (List.mem_singleton.1 hb)

/-- A mirror is brought up to date file by file, and its manifest last. -/
theorem attains_mirror (dir place : Path) {ps : List (Split × List Record)}
    (hps : (ps.map (·.1)).Nodup) :
    (mirror ((ps.map (fileOf codec dir)).map (·.path) ++ [dir.join ⟨Manifest.fileName⟩])
        place).run.Attains
      (fun e => Within (Named here place (outputNames ps)) d.store e.store ∧
        LastCopied dir place (splitNames ps) Manifest.fileName d.store e.store)
      (fun _ e => Within (Named here place (outputNames ps)) d.store e.store ∧
        Copies d.store e.store dir place (outputNames ps)) d := by
  rw [paths_outputs]
  refine Attains.bind (Attains.attempt ((Store.attains_makeDirectories place).mono
    (fun e he => ⟨he.within _, .inl (he.files _ id)⟩) fun _ _ h => h)) ?_
  rintro ⟨⟩ e ⟨hkeep, -⟩
  have hwithin : Within (Named here place (outputNames ps)) d.store e.store := hkeep.within _
  -- to make the directory has changed no file, so the copies are those of what was there
  have hcopies : ∀ {t names}, Copies e.store t dir place names →
      Copies d.store t dir place names := by
    intro t names h name hname
    obtain ⟨bytes, hbytes, hread⟩ := h name hname
    rw [hkeep.files _ id] at hbytes
    exact ⟨bytes, hbytes, hread⟩
  refine ((attains_copyAll dir place (isFileName_outputNames ps) (nodup_outputNames hps)).and
    (attains_copyAll_last dir place (isFileName_outputNames ps) (nodup_outputNames hps))).mono ?_ ?_
  · rintro e' ⟨he', hlast⟩
    unfold LastCopied at hlast ⊢
    rw [hkeep.files _ id, hkeep.files _ id] at hlast
    exact ⟨hwithin.trans he', hlast.imp_right (.imp_left hcopies)⟩
  · rintro ⟨⟩ e' ⟨⟨he', h⟩, -⟩
    exact ⟨hwithin.trans he', hcopies h⟩

lemma attains_write_some (dataSource : String) (dir place : Path)
    {ps : List (Split × List Record)} (hps : (ps.map (·.1)).Nodup) :
    (write codec dataSource dir (some place) ps).run.Attains
      (fun e => Underway dir ps d.store e.store ∨ ∃ t, Finished codec dataSource dir ps d.store t ∧
        Within (Named here place (outputNames ps)) t e.store ∧
        LastCopied dir place (splitNames ps) Manifest.fileName t e.store)
      (fun summary e => summary = summaryOf codec dir (some place) ps ∧
        ∃ t, Finished codec dataSource dir ps d.store t ∧
          Within (Named here place (outputNames ps)) t e.store ∧
          Copies t e.store dir place (outputNames ps)) d := by
  refine Attains.bind ((attains_writeFiles dataSource dir hps).mono (fun _ h => .inl h)
    fun _ _ h => h) ?_
  rintro files e ⟨rfl, hfin⟩
  refine Attains.bind ((attains_mirror dir place hps).mono
    (fun e' he' => .inr ⟨e.store, hfin, he'⟩) fun _ _ h => h) ?_
  rintro ⟨⟩ e' ⟨hwithin, hcopies⟩
  exact ⟨rfl, e.store, hfin, hwithin, hcopies⟩

theorem attains_run_mirrored {home m : Path} {settings : Settings}
    (hm : settings.mirrorDir = some m) :
    (run codec home settings).run.Attains
      (fun e => Keeps d.store e.store ∨ ∃ ps, Prepares d.store settings ps ∧
        (Underway (settings.outputDir.expandHome home) ps d.store e.store ∨
          ∃ t,
            Finished codec settings.dataSource (settings.outputDir.expandHome home) ps d.store t ∧
            Within (Named here (m.expandHome home) (outputNames ps)) t e.store ∧
            LastCopied (settings.outputDir.expandHome home) (m.expandHome home) (splitNames ps)
              Manifest.fileName t e.store))
      (fun summary e => ∃ ps, Prepares d.store settings ps ∧
        summary = summaryOf codec (settings.outputDir.expandHome home)
          (some (m.expandHome home)) ps ∧
        ∃ t, Finished codec settings.dataSource (settings.outputDir.expandHome home) ps d.store t ∧
          Within (Named here (m.expandHome home) (outputNames ps)) t e.store ∧
          Copies t e.store (settings.outputDir.expandHome home) (m.expandHome home)
            (outputNames ps)) d := by
  refine attains_run (.inl (.refl _ _)) fun ps hps hnodup _ => ?_
  rw [hm, Option.map_some]
  refine (attains_write_some settings.dataSource _ _ hnodup).mono
    (fun e he => .inr ⟨ps, hps, he⟩) ?_
  rintro summary e ⟨hsum, t, hfin, hwithin, hcopies⟩
  exact ⟨ps, hps, hsum, t, hfin, hwithin, hcopies⟩

end TaskCorpus.Corpus
