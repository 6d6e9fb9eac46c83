import TaskCorpus.Manifest
import TaskCorpus.Proofs.Json.Beginning
import TaskCorpus.Proofs.Json.Fields

/-!
Manifests are read back from their text.

A count of records has 64 bits, as the numbers of JSON have, so nothing that a manifest says is
lost. A file that is empty holds no manifest, and one that ends early holds the whole manifest or
none.
-/

namespace TaskCorpus.Manifest

open Json (Reader Value)

lemma exact_entry (e : Entry) : e.toJson.Exact := by
  have hlt := e.records.isLt
  refine .object _ ?_
  simp only [List.forall_mem_cons]
  exact ⟨.string _, .string _, .integer _ ⟨by omega, by omega⟩, .string _, by simp⟩

lemma exact_toJson (m : Manifest) : m.toJson.Exact := by
  refine .object _ ?_
  simp only [List.forall_mem_cons]
  exact ⟨.string _, .map fun e _ => exact_entry e, by simp⟩

lemma split_document (n : Nat) (s : Split) : Split.reader n s.toJson.document = .ok s := by
  simp only [Split.toJson, Value.document, Split.reader, Reader.variant, Reader.variant.pick,
    Split.ofName?_name]

lemma count_document (n k : Nat) :
    Reader.natural "usize" n (Value.number (.integer k)).document = .ok k := by
  have hsign : ¬ (k : Int) < 0 := by omega
  simp [Value.document, Reader.natural, hsign]

lemma entry_document (n : Nat) (e : Entry) : Entry.reader (n + 1) e.toJson.document = .ok e := by
  have hrecord : Json.Shape.reader Entry.shape "ManifestEntry" (n + 1) e.toJson.document =
      .ok (e.split, e.file, e.records.val, e.digest, ()) :=
    Json.Shape.reader_document _ (by decide : ["split", "file", "records", "sha256"].Nodup)
      (.required (split_document n e.split) (.required (Reader.text_document n e.file)
        (.required (count_document n e.records)
          (.required (Reader.text_document n e.digest) .nil))))
  rw [Entry.reader, hrecord]
  simp [bind, Except.bind, pure, Except.pure]

lemma reader_document (n : Nat) (m : Manifest) : reader (n + 3) m.toJson.document = .ok m := by
  have hentries : Reader.list Entry.reader (n + 2)
      (Value.array (m.entries.map Entry.toJson)).document = .ok m.entries :=
    Reader.list_document fun e _ => entry_document n e
  have hrecord : Json.Shape.reader shape "Manifest" (n + 3) m.toJson.document =
      .ok (m.dataSource, m.entries, ()) :=
    Json.Shape.reader_document _ (by decide : ["data_source", "splits"].Nodup)
      (.required (Reader.text_document _ m.dataSource) (.required hentries .nil))
  rw [reader, hrecord]
  rfl

/-- **Round trip**: a manifest is read back from its text. -/
theorem parse_text (m : Manifest) : parse m.text = .ok m := by
  have hread : Json.readText reader m.text = .ok m := by
    simp only [Json.readText, text, Value.ofText_pretty (exact_toJson m), Json.levels,
      reader_document]
    rfl
  rw [parse, hread]

/-- The manifest that bytes hold, if they are the text of one. -/
def ofBytes? (bytes : ByteArray) : Option Manifest :=
  match String.fromUTF8? bytes with
  | some text => (parse text).toOption
  | none => none

lemma ofBytes?_text (m : Manifest) : ofBytes? m.text.toUTF8 = some m := by
  simp only [ofBytes?, Json.fromUTF8?_toUTF8, parse_text m, Except.toOption]

lemma ofBytes?_empty : ofBytes? .empty = none := by
  decide +kernel

lemma reader_number (n : Nat) (x : Option Json.Number) (m : Manifest) :
    reader n (.number x) ≠ .ok m := by
  intro h
  obtain ⟨r, hr, -⟩ := Json.bind_eq_ok h
  cases n <;> cases hr

/-- What is read from the first bytes of a manifest is this manifest. -/
theorem ofBytes?_extract {m m' : Manifest} {n : Nat}
    (h : ofBytes? (m.text.toUTF8.extract 0 n) = some m') : m' = m := by
  unfold ofBytes? at h
  split at h
  · rename_i t ht
    obtain ⟨u, hu⟩ := Json.exists_append_of_extract ht
    have hparse : Json.readText reader t = .ok m' := by
      unfold parse at h
      split at h <;> cases h
      assumption
    obtain ⟨d, hd, -, hread⟩ := Json.readText_eq_ok hparse
    -- of the documents only a number could go on
    have hnumber : ∀ x, d ≠ .number x := by
      rintro x rfl
      exact reader_number _ x m' hread
    have htext : Json.Document.ofText (t ++ u) = (m.toJson.document, true) := by
      rw [← hu]
      exact Value.ofText_pretty (exact_toJson m)
    rw [← Json.ofText_append hd hnumber htext, Json.levels, reader_document] at hread
    exact (Except.ok.inj hread).symm
  · cases h

end TaskCorpus.Manifest
