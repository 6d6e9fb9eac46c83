import TaskCorpus.Proofs.Corpus.Prepared
import TaskCorpus.Proofs.Manifest.Fresh

/-!
The second half of a run: it writes.

What is written is known beforehand: `fileOf` is the report on a split file, and `Written` says
that the files of a directory hold what they should. Every script has a lemma on what it attains
from any desk, with the files that it may touch and the order in which it does so; the files of
different splits are different files, and none of them is the manifest.
-/

namespace TaskCorpus.Corpus

open Store (Desk Script Puts Within Keeps)
open Store.Script (Attains Ensures)

variable {here : Location} {codec : Table.Codec} {d e : Desk here} {s t : Store here} {dir : Path}

/-! ### Names -/

lemma isFileName_split (split : Split) : Path.IsFileName split.fileName := by
  cases split
  · exact ⟨by decide, "train.parque".toList, 't', by decide, by decide⟩
  · exact ⟨by decide, "test.parque".toList, 't', by decide, by decide⟩

lemma split_fileName_inj {a b : Split} (h : a.fileName = b.fileName) : a = b := by
  cases a <;> cases b <;> first | rfl | exact absurd h (by decide)

lemma split_fileName_ne (split : Split) : split.fileName ≠ Manifest.fileName := by
  cases split <;> decide

def SplitFiles (here : Location) (dir : Path) (ps : List (Split × List Record))
    (l : Location) : Prop :=
  ∃ p ∈ ps, l = dir.location here ++ [p.1.fileName]

/-- The locations of the files in a directory that a run may write. -/
def OutputFiles (here : Location) (dir : Path) (ps : List (Split × List Record))
    (l : Location) : Prop :=
  SplitFiles here dir ps l ∨ l = dir.location here ++ [Manifest.fileName]

def fileOf (codec : Table.Codec) (dir : Path) (p : Split × List Record) : SplitFile :=
  ⟨p.1, dir.join ⟨p.1.fileName⟩, .ofList p.2, Sha256.digest (codec.writeRecords p.2)⟩

/-- The split files of a directory hold the records of the splits. -/
def Written (codec : Table.Codec) (s : Store here) (dir : Path)
    (ps : List (Split × List Record)) : Prop :=
  ∀ p ∈ ps, s.read (dir.join ⟨p.1.fileName⟩) = .ok (codec.writeRecords p.2)

lemma Written.within {ps : List (Split × List Record)} {L : Location → Prop}
    (h : Written codec s dir ps) (hst : Within L s t)
    (hL : ∀ p ∈ ps, ¬ L (dir.location here ++ [p.1.fileName])) :
    Written codec t dir ps := by
  intro p hp
  refine hst.read (h p hp) ?_
  rw [Path.location_join here dir (isFileName_split p.1)]
  exact hL p hp

structure Writable (s : Store here) (dir : Path) (ps : List (Split × List Record)) : Prop where
  directory : s.IsDirectory dir
  splits : ∀ p ∈ ps, s.admits (dir.join ⟨p.1.fileName⟩).directory temporaryName = .ok ()
  manifest : s.admits (dir.join ⟨Manifest.fileName⟩).directory Manifest.temporaryName = .ok ()

/-! ### Split files -/

lemma attains_fileDigest (p : Path) :
    (Manifest.fileDigest p).run.Attains (fun e => e = d) (fun digest e => e = d ∧
      ∃ bytes, d.store.read p = .ok bytes ∧ digest = Sha256.digest bytes) d := by
  refine Attains.bind (Store.attains_read _ p) ?_
  rintro bytes e ⟨rfl, hread⟩
  exact ⟨rfl, bytes, hread, rfl⟩

lemma attains_writeSplit (rs : List Record) (split : Split) (dir : Path) :
    (writeSplit codec rs split dir).run.Attains
      (fun e => Within (· = dir.location here ++ [split.fileName]) d.store e.store)
      (fun f e => f = fileOf codec dir (split, rs) ∧
        Within (· = dir.location here ++ [split.fileName]) d.store e.store ∧
        e.store.read (dir.join ⟨split.fileName⟩) = .ok (codec.writeRecords rs) ∧
        e.store.admits (dir.join ⟨split.fileName⟩).directory temporaryName = .ok ()) d := by
  have hloc := Path.location_join here dir (isFileName_split split)
  refine Attains.bind ((Store.attains_replaceFile _ _ _ _).mono ?_ fun _ e h => h) ?_
  · intro e he
    rw [he]
    exact .refl _ _
  · rintro ⟨⟩ e ⟨hput, hreach, hadmits⟩
    rw [hloc] at hput
    have hread : e.store.read (dir.join ⟨split.fileName⟩) = .ok (codec.writeRecords rs) :=
      Store.read_eq_ok_iff.2 ⟨hreach, by rw [hloc, hput.there]⟩
    refine Attains.bind ((attains_fileDigest _).mono ?_ fun _ _ h => h) ?_
    · rintro e' rfl
      exact hput.toWithin
    · rintro digest e' ⟨rfl, bytes, hbytes, rfl⟩
      rw [hread] at hbytes
      cases hbytes
      exact ⟨rfl, hput.toWithin, hread, hput.admits hadmits⟩

/-- The splits are written one after the other, and each file stays as it has been written. -/
theorem attains_writeSplits (dir : Path) {ps : List (Split × List Record)}
    (hps : (ps.map (·.1)).Nodup) :
    (writeSplits codec dir ps).run.Attains
      (fun e => Within (SplitFiles here dir ps) d.store e.store)
      (fun files e => files = ps.map (fileOf codec dir) ∧
        Within (SplitFiles here dir ps) d.store e.store ∧ Written codec e.store dir ps ∧
        ∀ p ∈ ps, e.store.admits (dir.join ⟨p.1.fileName⟩).directory temporaryName = .ok ()) d := by
  induction ps generalizing d with
  | nil => exact ⟨rfl, .refl _ _, List.forall_mem_nil _, List.forall_mem_nil _⟩
  | cons p ps ih =>
    obtain ⟨split, rs⟩ := p
    obtain ⟨hnew, hps⟩ := List.nodup_cons.1 hps
    have hhead : ∀ l, l = dir.location here ++ [split.fileName] →
        SplitFiles here dir ((split, rs) :: ps) l :=
      fun l hl => ⟨(split, rs), by simp, hl⟩
    have htail : ∀ l, SplitFiles here dir ps l → SplitFiles here dir ((split, rs) :: ps) l :=
      fun l ⟨p, hp, hl⟩ => ⟨p, by simp [hp], hl⟩
    refine Attains.bind ((attains_writeSplit rs split dir).mono (fun e he => he.mono hhead)
      fun _ _ h => h) ?_
    rintro f e ⟨rfl, hw, hread, hadmits⟩
    have hfirst := hw.mono hhead
    refine Attains.bind ((ih hps).mono (fun e' he' => hfirst.trans (he'.mono htail))
      fun _ _ h => h) ?_
    rintro files e' ⟨rfl, hrest, hwritten, hadmits'⟩
    refine ⟨rfl, hfirst.trans (hrest.mono htail), fun p hp => ?_,
      List.forall_mem_cons.2 ⟨hrest.admits hadmits, hadmits'⟩⟩
    -- the splits that follow leave the first file alone, since they are other splits
    rcases List.mem_cons.1 hp with rfl | hp
    · refine hrest.read hread ?_
      rw [Path.location_join here dir (isFileName_split split)]
      rintro ⟨q, hq, hl⟩
      have hname : split.fileName = q.1.fileName := by simpa using hl
      exact hnew (List.mem_map.2 ⟨q, hq, (split_fileName_inj hname).symm⟩)
    · exact hwritten p hp

/-! ### The manifest -/

/-- The manifest of a run over prepared splits. -/
def manifestFor (codec : Table.Codec) (dataSource : String) (dir : Path)
    (ps : List (Split × List Record)) : Manifest :=
  manifestOf dataSource (ps.map (fileOf codec dir))

lemma location_manifest (dir : Path) :
    (dir.join ⟨Manifest.fileName⟩).location here = dir.location here ++ [Manifest.fileName] :=
  Path.location_join here dir Manifest.isFileName_fileName

lemma not_splitFiles_manifest (dir : Path) (ps : List (Split × List Record)) :
    ¬ SplitFiles here dir ps (dir.location here ++ [Manifest.fileName]) := by
  rintro ⟨p, -, hl⟩
  exact split_fileName_ne p.1 (by simpa using hl.symm)

lemma attains_removeStale
    (hw : d.store.walk (dir.origin here) dir.segments = .ok (dir.location here)) :
    (removeStale (dir.join ⟨Manifest.fileName⟩)).run.Attains
      (fun e => e.store = d.store)
      (fun _ e => Within (· = dir.location here ++ [Manifest.fileName]) d.store e.store ∧
        e.store.file? (dir.location here ++ [Manifest.fileName]) = none) d := by
  refine Attains.attempt ⟨rfl, fun r e ho => ?_⟩
  rcases ho.remove with ⟨rfl, hput⟩ | ⟨f, rfl, rfl, hf⟩
  · rw [location_manifest] at hput
    exact ⟨hput.toWithin, hput.there⟩
  · dsimp only [Script.bind]
    split
    · rename_i hnot
      cases hnot
      exact ⟨.refl _ _, Store.remove_eq_notFound Manifest.isFileName_fileName hw (hf rfl)⟩
    · rfl

/-- A run into a directory, before its own manifest is there: no file has changed, or the
manifest of earlier runs is gone. -/
def Underway (dir : Path) (ps : List (Split × List Record)) (s t : Store here) : Prop :=
  Keeps s t ∨ (Within (OutputFiles here dir ps) s t ∧
    t.file? (dir.location here ++ [Manifest.fileName]) = none)

structure Finished (codec : Table.Codec) (dataSource : String) (dir : Path)
    (ps : List (Split × List Record)) (s t : Store here) : Prop where
  within : Within (OutputFiles here dir ps) s t
  written : Written codec t dir ps
  manifest : t.read (dir.join ⟨Manifest.fileName⟩) =
    .ok (manifestFor codec dataSource dir ps).text.toUTF8
  writable : Writable t dir ps

/-- The files of a run are written while there is no manifest. -/
theorem attains_writeFiles (dataSource : String) (dir : Path) {ps : List (Split × List Record)}
    (hps : (ps.map (·.1)).Nodup) :
    (writeFiles codec dataSource dir ps).run.Attains (fun e => Underway dir ps d.store e.store)
      (fun files e => files = ps.map (fileOf codec dir) ∧
        Finished codec dataSource dir ps d.store e.store) d := by
  have hsplits : ∀ l, SplitFiles here dir ps l → OutputFiles here dir ps l := fun l hl => .inl hl
  have hown : ∀ l, l = dir.location here ++ [Manifest.fileName] → OutputFiles here dir ps l :=
    fun l hl => .inr hl
  refine Attains.bind (Attains.attempt ((Store.attains_makeDirectories dir).mono
    (fun _ he => .inl he.toWithin) fun _ _ h => h)) ?_
  -- the way to the directory is open from here on, so "not found" means that there is no manifest
  rintro ⟨⟩ e₁ ⟨hmakes, hdir⟩
  refine Attains.bind ((attains_removeStale hdir.walk).mono
    (fun e he => .inl (by rw [he]; exact hmakes.toWithin)) fun _ _ h => h) ?_
  rintro ⟨⟩ e₂ ⟨hremove, habsent⟩
  have h₂ : Within (OutputFiles here dir ps) d.store e₂.store :=
    (hmakes.within _).trans (hremove.mono hown)
  refine Attains.bind ((attains_writeSplits dir hps).mono (fun e he =>
    .inr ⟨h₂.trans (he.mono hsplits), ?_⟩) fun _ _ h => h) ?_
  · rw [he.files _ (not_splitFiles_manifest dir ps), habsent]
  rintro files e₃ ⟨rfl, hwrite, hwritten, hadmits⟩
  have h₃ := h₂.trans (hwrite.mono hsplits)
  have habsent₃ : e₃.store.file? (dir.location here ++ [Manifest.fileName]) = none := by
    rw [hwrite.files _ (not_splitFiles_manifest dir ps), habsent]
  refine Attains.bind ((Store.attains_replaceFile _ _ _ _).mono (fun e he =>
    .inr (by rw [he]; exact ⟨h₃, habsent₃⟩)) fun _ _ h => h) ?_
  rintro ⟨⟩ e₄ ⟨hput, hreach, hadmits'⟩
  have hdir₄ := hput.isDirectory (hwrite.isDirectory (hremove.isDirectory hdir))
  have hsplits₄ := fun p hp => hput.admits (hadmits p hp)
  have hmanifest₄ := hput.admits hadmits'
  rw [location_manifest] at hput
  refine ⟨rfl, h₃.trans (hput.toWithin.mono hown), hwritten.within hput.toWithin ?_, ?_,
    hdir₄, hsplits₄, hmanifest₄⟩
  · rintro p - hl
    exact split_fileName_ne p.1 (by simpa using hl)
  · exact Store.read_eq_ok_iff.2 ⟨hreach, by rw [location_manifest, hput.there]; rfl⟩

end TaskCorpus.Corpus
