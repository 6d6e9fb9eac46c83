import TaskCorpus.Proofs.Corpus.Prepared
import TaskCorpus.Proofs.Store.Replay
import TaskCorpus.Proofs.Store.Tidy
import TaskCorpus.Proofs.Table.TextCodec

/-!
Files that are written all at once.

A table of records and a manifest are written under a temporary name and then moved to their path.
`AllOrNothing` says what this comes to, whatever the store holds and whatever is refused on the
way: what has been written is read back and nothing else has changed, or nothing has changed at
all. Which of the two it is when nothing is refused depends on `Accepts` alone.
-/

namespace TaskCorpus

open Store (Desk Script Within Puts)
open Store.Script (Attains Ensures)

variable {here : Location} {s t : Store here} {p : Path} {l : Location}

namespace Store

structure Accepts (s : Store here) (temporaryName : String) (p : Path) : Prop where
  admits : s.admits p.directory temporaryName = .ok ()
  reaches : s.Reaches p
  free : s.node? (p.location here) ≠ some .directory

structure ReplacedAt (l : Location) (bytes : ByteArray) (s t : Store here) : Prop where
  there : t.node? l = some (.file bytes)
  others : ∀ k, k ≠ l → t.node? k = s.node? k

namespace Puts

variable {bytes : Option ByteArray}

lemma within_symm (h : Puts l bytes s t) : Within (· = l) t s :=
  ⟨h.opens, fun k hk => (h.files k hk).symm⟩

lemma node?_of_ne (h : Puts l bytes s t) {k : Location} (hk : k ≠ l) : t.node? k = s.node? k := by
  have hfile := h.files k hk
  rcases hs : s.node? k with _ | (_ | b)
  · rcases ht : t.node? k with _ | (_ | c)
    · rfl
    · rw [h.opens k ht] at hs
      cases hs
    · simp [file?, hs, ht] at hfile
  · exact h.directories k hs
  · have hb : s.file? k = some b := by rw [file?, hs]
    exact node?_of_file? (hfile.trans hb)

lemma replacedAt {b : ByteArray} (h : Puts l (some b) s t) : ReplacedAt l b s t :=
  ⟨node?_of_file? h.there, fun _ hk => h.node?_of_ne hk⟩

lemma accepts {b : ByteArray} {temporaryName : String} (h : Puts (p.location here) (some b) s t)
    (hr : t.Reaches p) (ha : s.admits p.directory temporaryName = .ok ()) :
    s.Accepts temporaryName p := by
  refine ⟨ha, h.within_symm.reaches hr, fun hd => ?_⟩
  have hfile := node?_of_file? h.there
  rw [h.directories _ hd] at hfile
  cases hfile

end Puts

end Store

/-- A program that writes a value to a path writes it completely or not at all. -/
structure AllOrNothing {α : Type} (s : Store here) (temporaryName : String) (p : Path)
    (write : Program Unit) (load : Program α) (a : α) : Prop where
  /-- Up to its end no execution changes anything. -/
  meanwhile : ∀ script e, write.run.Reaches (.ofStore s) script e →
    e.store = s ∨ ∃ r, script = .done r
  /-- At its end the value is at the path, and all else as it was, or all is as it was. There is
  no temporary file. -/
  ends : ∀ r e, write.run.Reaches (.ofStore s) (.done r) e →
    (r = .ok () ∧ e.temporary = none ∧ load.on e.store = .ok a ∧
      ∃ bytes, Store.ReplacedAt (p.location here) bytes s e.store) ∨
    ∃ error, r = .error error ∧ e = .ofStore s
  /-- If nothing is refused, then the value is written wherever a file can be put. -/
  succeeds : write.on s = .ok () ↔ s.Accepts temporaryName p

namespace Store

/-- A replacement is all or nothing for every value that is read back from the bytes. -/
lemma allOrNothing_replaceFile {α : Type} {load : Program α} {a : α} {bytes : ByteArray}
    (hload : ∀ t : Store here, t.read p = .ok bytes → load.on t = .ok a) (s : Store here)
    (temporaryName : String) (unwritten : Fault → Error) :
    AllOrNothing s temporaryName p (replaceFile temporaryName unwritten p bytes) load a := by
  have hattains := attains_replaceFile (d := .ofStore s) temporaryName unwritten p bytes
  refine ⟨fun script e hreach => ?_, fun r e hreach => ?_, fun h => ?_, fun h => ?_⟩
  · -- at every point
    rcases hattains.always hreach with he | ⟨r, hr, -⟩
    · exact .inl he
    · exact .inr ⟨r, hr⟩
  · -- at every end
    have htidy : e.temporary = none :=
      Ensures.ends (tidy_replaceFile temporaryName unwritten p bytes _ _ rfl) hreach
    have hends := hattains.ends hreach
    cases r with
    | ok _ =>
      obtain ⟨hput, hr, -⟩ := hends
      exact .inl ⟨rfl, htidy, hload _ (read_eq_ok_iff.2 ⟨hr, hput.there⟩), _, hput.replacedAt⟩
    | error f =>
      obtain ⟨t, temporary⟩ := e
      cases htidy
      cases hends
      exact .inr ⟨f, rfl, rfl⟩
  · -- what has been written could be
    rcases hrun : (replaceFile temporaryName unwritten p bytes).run.run (.ofStore s) with ⟨r, e⟩
    rw [Program.on, hrun] at h
    cases h
    obtain ⟨hput, hr, ha⟩ := hattains.run hrun
    exact hput.accepts hr ha
  · rw [Program.on, run_replaceFile unwritten h.admits h.reaches h.free]

end Store

/-- **All or nothing**: to write records, or a manifest, to any path of any store either ends well,
with exactly these records, or this manifest, read back from the path and nothing else changed, or
it ends in an error and leaves the store as it was. -/
theorem writes_allOrNothing {codec : Table.Codec} (hc : codec.Lawful) (s : Store here) (p : Path) :
    (∀ rs, AllOrNothing s Corpus.temporaryName p (Corpus.writeRecords codec p rs)
      (Corpus.readRecords codec p) rs) ∧
    ∀ m : Manifest, AllOrNothing s Manifest.temporaryName p (m.write p) (Manifest.load p) m := by
  constructor
  · intro rs
    exact Store.allOrNothing_replaceFile (fun _ h => Corpus.on_readRecords hc h) s _ _
  · intro m
    exact Store.allOrNothing_replaceFile (fun _ h => Manifest.on_load h) s _ _

def emptyStore : Store ["work"] := .empty

/-- Files with a bare name are put into the working directory. -/
theorem writes_allOrNothing_sample :
    (Corpus.writeRecords .text ⟨"train.parquet"⟩ []).on emptyStore = .ok () ∧
      ((⟨"tau_retail", []⟩ : Manifest).write ⟨"manifest.json"⟩).on emptyStore = .ok () :=
  ⟨((writes_allOrNothing Table.Codec.lawful_text emptyStore _).1 []).succeeds.2
      ⟨rfl, ⟨["work"], "train.parquet", by decide +kernel⟩, nofun⟩,
    ((writes_allOrNothing Table.Codec.lawful_text emptyStore _).2 _).succeeds.2
      ⟨rfl, ⟨["work"], "manifest.json", by decide +kernel⟩, nofun⟩⟩

/-! Nothing is put into a directory that is missing. -/

example : ¬ emptyStore.Accepts Manifest.temporaryName ⟨"out/manifest.json"⟩ := by
  rintro ⟨h, -, -⟩
  exact absurd h (by decide +kernel)

end TaskCorpus
