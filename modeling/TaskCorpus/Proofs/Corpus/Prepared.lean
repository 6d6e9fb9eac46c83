import TaskCorpus.Corpus
import TaskCorpus.Proofs.Manifest.RoundTrip
import TaskCorpus.Proofs.Record.Built
import TaskCorpus.Proofs.Selection.Ids
import TaskCorpus.Proofs.Store.Scripts
import TaskCorpus.Proofs.Table.Batches

/-!
The first half of a run: it reads and prepares.

`Program.on` is what a program gives when nothing is refused. To prepare the sources of a run
leaves the desk as it is, so what has been prepared is what the task files held before the run.
-/

namespace TaskCorpus

open Store (Desk Script)
open Store.Script (Attains Ensures)

variable {here : Location} {st : Store here} {d : Desk here}

/-! ### Programs that read -/

/-- What a program gives on a store when nothing is refused. -/
def Program.on {α : Type} (p : Program α) (s : Store here) : Except Error α :=
  (p.run.run (.ofStore s)).1

lemma Program.on_ofExcept {α : Type} (r : Except Error α) : (Program.ofExcept r).on st = r := rfl

lemma Program.on_read {α : Type} (p : Path) (error : Store.Fault → Error)
    (f : ByteArray → Program α) :
    (Store.attempt error (Script.perform (.read p)) >>= f).on st =
      match st.read p with
      | .ok bytes => (f bytes).on st
      | .error e => .error (error e) := by
  have hrun : (Script.perform (.read p) : Script (Except Store.Fault ByteArray)).run (.ofStore st) =
      (st.read p, .ofStore st) := rfl
  simp only [on, Store.attempt, ExceptT.run_bind, ExceptT.run_mk, Script.run_bind, hrun]
  cases st.read p <;> rfl

lemma Store.attains_readText (p : Path) :
    (Store.readText p).run.Attains (fun e => e = d) (fun text e => e = d ∧
      ∃ bytes, d.store.read p = .ok bytes ∧ String.fromUTF8? bytes = some text) d := by
  refine Attains.bind (Store.attains_read _ p) ?_
  rintro bytes e ⟨rfl, hread⟩
  split
  · rename_i text htext
    exact ⟨rfl, bytes, hread, htext⟩
  · exact rfl

lemma Program.on_readText {α : Type} {p : Path} {parse : String → Except Error α} {a : α} :
    (Store.readText p >>= fun text => ofExcept (parse text)).on st = .ok a ↔
      ∃ bytes text, st.read p = .ok bytes ∧ String.fromUTF8? bytes = some text ∧
        parse text = .ok a := by
  simp only [Store.readText, bind_assoc]
  rw [on_read]
  constructor
  · intro h
    split at h
    · rename_i bytes hread
      rcases htext : String.fromUTF8? bytes with _ | text
      · rw [htext] at h
        cases h
      · rw [htext] at h
        exact ⟨bytes, text, hread, htext, h⟩
    · cases h
  · rintro ⟨bytes, text, hread, htext, hparse⟩
    rw [hread]
    simp only [htext]
    exact hparse

lemma Manifest.on_load {p : Path} {m : Manifest} (h : st.read p = .ok m.text.toUTF8) :
    (load p).on st = .ok m :=
  Program.on_readText.2 ⟨_, m.text, h, Json.fromUTF8?_toUTF8 _, parse_text m⟩

lemma Manifest.on_fileDigest {p : Path} {bytes : ByteArray} (h : st.read p = .ok bytes) :
    (fileDigest p).on st = .ok (Sha256.digest bytes) := by
  rw [fileDigest, Program.on_read, h]
  rfl

lemma Corpus.on_readRecords {codec : Table.Codec} (hc : codec.Lawful) {p : Path} {rs : List Record}
    (h : st.read p = .ok (codec.writeRecords rs)) : (readRecords codec p).on st = .ok rs := by
  rw [readRecords, Program.on_read, h]
  dsimp only
  rw [Program.on_ofExcept, hc.readRecords]

lemma TaskFile.loaded_of_on {p : Path} {ts : List Task} (h : (TaskFile.load p).on st = .ok ts) :
    ∀ t ∈ ts, t.Loaded := by
  obtain ⟨bytes, text, -, -, hparse⟩ := Program.on_readText.1 h
  exact loaded_of_parse hparse

lemma TaskFile.attains_load (p : Path) :
    (TaskFile.load p).run.Attains (fun e => e = d)
      (fun ts e => e = d ∧ (TaskFile.load p).on d.store = .ok ts) d := by
  refine Attains.bind (Store.attains_readText p) ?_
  rintro text e ⟨rfl, bytes, hread, htext⟩
  exact Attains.ofExcept rfl fun ts hts =>
    ⟨rfl, Program.on_readText.2 ⟨bytes, text, hread, htext, hts⟩⟩

namespace Corpus

structure IsPrepared (st : Store here) (ctx : Context) (s : Source)
    (p : Split × List Record) : Prop where
  split : p.1 = s.split
  records : ∃ loaded selected, (TaskFile.load s.path).on st = .ok loaded ∧
    s.select loaded = .ok selected ∧ Record.buildAll selected s.split ctx = .ok p.2

lemma recordsOf_eq_ok {ctx : Context} {s : Source} {ts : List Task} {rs : List Record}
    (h : recordsOf ctx s ts = .ok rs) :
    ∃ selected, s.select ts = .ok selected ∧ Record.buildAll selected s.split ctx = .ok rs := by
  unfold recordsOf at h
  split at h
  · cases h
  · rename_i selected hs
    exact ⟨selected, hs, h⟩

lemma attains_prepare (ctx : Context) (s : Source) :
    (prepare ctx s).run.Attains (fun e => e = d)
      (fun p e => e = d ∧ IsPrepared d.store ctx s p) d := by
  refine Attains.bind (TaskFile.attains_load s.path) ?_
  rintro ts e ⟨rfl, hload⟩
  refine Attains.bind (P := fun rs d => d = e ∧ recordsOf ctx s ts = .ok rs)
    (Attains.ofExcept rfl fun rs hrs => ⟨rfl, hrs⟩) ?_
  rintro rs e' ⟨rfl, hrs⟩
  obtain ⟨selected, hselect, hbuild⟩ := recordsOf_eq_ok hrs
  exact ⟨rfl, rfl, ts, selected, hload, hselect, hbuild⟩

/-- To prepare all sources changes nothing, and gives what each of them makes of the store. -/
theorem attains_prepareAll (ctx : Context) (ss : List Source) :
    (prepareAll ctx ss).run.Attains (fun e => e = d)
      (fun ps e => e = d ∧ List.Forall₂ (IsPrepared d.store ctx) ss ps) d := by
  induction ss with
  | nil => exact ⟨rfl, .nil⟩
  | cons s ss ih =>
    refine Attains.bind (attains_prepare ctx s) ?_
    rintro p e ⟨rfl, hp⟩
    refine Attains.bind ih ?_
    rintro ps e' ⟨rfl, hps⟩
    exact ⟨rfl, .cons hp hps⟩

end Corpus

end TaskCorpus
