import Mathlib.Data.List.Basic
import TaskCorpus.Text.Blank

/-!
Blank texts, by their characters.

The characters with the Unicode property White_Space one by one, and the texts of nothing else.
-/

namespace TaskCorpus.Text

variable {c : Char} {s : String}

/-- All characters with the Unicode property White_Space. -/
def whiteSpace : List Char :=
  ['\t', '\n', '\x0b', '\x0c', '\r', ' ', '\u0085', '\u00a0', '\u1680', '\u2000', '\u2001',
    '\u2002', '\u2003', '\u2004', '\u2005', '\u2006', '\u2007', '\u2008', '\u2009', '\u200a',
    '\u2028', '\u2029', '\u202f', '\u205f', '\u3000']

def Blank (s : String) : Prop := ∀ c ∈ s.toList, c ∈ whiteSpace

lemma isBlankChar_iff : isBlankChar c = true ↔ c ∈ whiteSpace := by
  have hinj : Function.Injective Char.toNat := fun a b h => Char.toNat_inj.1 h
  have hcodes : whiteSpace.map Char.toNat =
      [9, 10, 11, 12, 13, 32, 133, 160, 5760, 8192, 8193, 8194, 8195, 8196, 8197, 8198, 8199, 8200,
        8201, 8202, 8232, 8233, 8239, 8287, 12288] := by decide
  rw [← List.mem_map_of_injective hinj, hcodes]
  simp only [isBlankChar, Bool.or_eq_true, Bool.and_eq_true, decide_eq_true_eq, beq_iff_eq,
    List.mem_cons, List.not_mem_nil, or_false]
  omega

theorem isBlank_iff : isBlank s = true ↔ Blank s := by
  simp only [isBlank, Blank, List.all_eq_true, isBlankChar_iff]

instance : Decidable (Blank s) := decidable_of_iff _ isBlank_iff

end TaskCorpus.Text
