import TaskCorpus.Proofs.Corpus.Written

/-!
Whole runs.

A run checks its settings, prepares all sources, and only then writes; `attains_run` joins the two
halves. The manifest that a run writes can be read back, and it matches every directory that the
split files have been written to.
-/

namespace TaskCorpus.Corpus

open Store (Desk Script Within Keeps)
open Store.Script (Attains Ensures)

variable {here : Location} {codec : Table.Codec} {d : Desk here} {s t : Store here} {dir : Path}

lemma nodup_of_firstRepeated? {seen : List Split} {ss : List Source}
    (h : Settings.firstRepeated? seen ss = none) :
    (ss.map (·.split)).Nodup ∧ ∀ s ∈ ss, s.split ∉ seen := by
  induction ss generalizing seen with
  | nil => simp
  | cons s ss ih =>
    unfold Settings.firstRepeated? at h
    split at h
    · cases h
    · rename_i hseen
      obtain ⟨hnodup, hnew⟩ := ih h
      rw [List.map_cons, List.nodup_cons]
      refine ⟨⟨fun hmem => ?_, hnodup⟩, fun x hx => ?_⟩
      · obtain ⟨x, hx, hsplit⟩ := List.mem_map.1 hmem
        exact hnew x hx (by simp [hsplit])
      · rcases List.mem_cons.1 hx with rfl | hx
        · simpa using hseen
        · exact fun hs => hnew x hx (by simp [hs])

lemma check_eq_ok {s : Settings} (h : s.check = .ok ()) :
    s.splits ≠ [] ∧ (s.splits.map (·.split)).Nodup := by
  unfold Settings.check at h
  split at h
  · cases h
  · rename_i hne
    split at h
    · cases h
    · rename_i hrep
      exact ⟨fun he => hne (by simp [he]), (nodup_of_firstRepeated? hrep).1⟩

/-! ### Prepared splits -/

/-- What the sources of a run make of a store. -/
def Prepares (st : Store here) (s : Settings) (ps : List (Split × List Record)) : Prop :=
  List.Forall₂ (IsPrepared st s.context) s.splits ps

def fileNames (s : Settings) : List String :=
  s.splits.map (·.split.fileName) ++ [Manifest.fileName]

namespace Prepares

variable {settings : Settings} {ps : List (Split × List Record)} (h : Prepares s settings ps)

include h

lemma splits : ps.map (·.1) = settings.splits.map (·.split) := by
  unfold Prepares at h
  generalize settings.splits = ss at h
  induction h with
  | nil => rfl
  | cons hp _ ih => rw [List.map_cons, List.map_cons, hp.split, ih]

lemma fileName_mem {p : Split × List Record} (hp : p ∈ ps) : p.1.fileName ∈ fileNames settings := by
  have hsplit : p.1 ∈ settings.splits.map (·.split) := h.splits ▸ List.mem_map_of_mem hp
  obtain ⟨source, hsource, heq⟩ := List.mem_map.1 hsplit
  exact List.mem_append_left _ (List.mem_map.2 ⟨source, hsource, by rw [heq]⟩)

lemma exists_of_outputFiles {l : Location} (hl : OutputFiles here dir ps l) :
    ∃ name ∈ fileNames settings, l = dir.location here ++ [name] := by
  rcases hl with ⟨p, hp, hl⟩ | hl
  · exact ⟨_, h.fileName_mem hp, hl⟩
  · exact ⟨_, List.mem_append_right _ (List.mem_singleton.2 rfl), hl⟩

end Prepares

/-! ### The manifest of a run -/

variable {dataSource : String} {ps : List (Split × List Record)}

lemma matches_manifestFor {place : Path} (h : Written codec s place ps) :
    (manifestFor codec dataSource dir ps).Matches s (place.location here) := by
  intro e he
  simp only [manifestFor, manifestOf, List.map_map, List.mem_map, Function.comp_apply, fileOf] at he
  obtain ⟨p, hp, rfl⟩ := he
  have hname := isFileName_split p.1
  have hfile := (Store.read_eq_ok_iff.1 (h p hp)).2
  rw [Path.location_join here place hname] at hfile
  exact ⟨_, by rw [Store.fileFrom?_name _ _ hname, hfile], rfl⟩

/-! ### The two halves -/

lemma attains_run {I : Desk here → Prop} {P : Summary → Desk here → Prop} {home : Path}
    {s : Settings}
    (hI : I d) (h : ∀ ps, Prepares d.store s ps → (ps.map (·.1)).Nodup → ps ≠ [] →
      (write codec s.dataSource (s.outputDir.expandHome home)
        (s.mirrorDir.map (·.expandHome home)) ps).run.Attains I P d) :
    (run codec home s).run.Attains I P d := by
  unfold run
  rcases hcheck : s.check with flaw | ⟨⟩
  · exact hI
  · obtain ⟨hne, hnodup⟩ := check_eq_ok hcheck
    refine Attains.bind (p := prepareAll s.context s.splits)
      ((attains_prepareAll s.context s.splits).mono (by rintro e rfl; exact hI) fun _ _ h => h) ?_
    rintro ps e' ⟨rfl, hps⟩
    have hsplits := Prepares.splits hps
    -- the prepared splits are those of the sources, which have been checked
    refine h ps hps (by rw [hsplits]; exact hnodup) fun hnil => hne ?_
    rw [hnil] at hsplits
    exact List.map_eq_nil_iff.1 hsplits.symm

def summaryOf (codec : Table.Codec) (dir : Path) (mirrorDir : Option Path)
    (ps : List (Split × List Record)) : Summary where
  files := ps.map (fileOf codec dir)
  manifest := dir.join ⟨Manifest.fileName⟩
  example? := ps.head?.bind fun p => p.2.head?
  mirroredTo := mirrorDir

lemma attains_write_none (dataSource : String) (dir : Path) (hps : (ps.map (·.1)).Nodup) :
    (write codec dataSource dir none ps).run.Attains (fun e => Underway dir ps d.store e.store)
      (fun summary e => summary = summaryOf codec dir none ps ∧
        Finished codec dataSource dir ps d.store e.store) d := by
  refine Attains.bind (attains_writeFiles dataSource dir hps) ?_
  rintro files e ⟨rfl, hfin⟩
  exact ⟨rfl, hfin⟩

theorem attains_run_unmirrored {home : Path} {settings : Settings}
    (hm : settings.mirrorDir = none) :
    (run codec home settings).run.Attains
      (fun e => ∃ ps, Underway (settings.outputDir.expandHome home) ps d.store e.store)
      (fun summary e => ∃ ps, ps ≠ [] ∧ Prepares d.store settings ps ∧
        summary = summaryOf codec (settings.outputDir.expandHome home) none ps ∧
        Finished codec settings.dataSource (settings.outputDir.expandHome home) ps d.store
          e.store) d := by
  refine attains_run ⟨[], .inl (.refl _ _)⟩ fun ps hps hnodup hne => ?_
  rw [hm, Option.map_none]
  refine (attains_write_none settings.dataSource _ hnodup).mono (fun e he => ⟨ps, he⟩) ?_
  rintro summary e ⟨hsum, hfin⟩
  exact ⟨ps, hne, hps, hsum, hfin⟩

end TaskCorpus.Corpus
