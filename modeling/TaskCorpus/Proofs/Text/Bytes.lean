import Mathlib.Data.List.Basic
import TaskCorpus.KeyMap

/-!
The order of texts is the order of their bytes.

Keys are compared character by character. In UTF-8 the bytes of the smaller of two characters come
first, whatever follows them, so it is the same to compare the bytes of two texts.
-/

namespace TaskCorpus.Text

def bytes (s : String) : List UInt8 := s.toUTF8.data.toList

/-- One text comes before another one in the order of their bytes. -/
def Before (s t : String) : Prop := bytes s < bytes t

lemma bytes_eq (s : String) : bytes s = s.toList.flatMap String.utf8EncodeChar := by
  have hencode : s.toUTF8 = s.toList.utf8Encode := String.utf8Encode_toList.symm
  rw [bytes, hencode, List.utf8Encode, List.data_toByteArray]

lemma mem_bytes {c : Char} {s : String} (h : c ∈ s.toList) :
    ∀ b ∈ String.utf8EncodeChar c, b ∈ bytes s := fun b hb => by
  rw [bytes_eq]
  exact List.mem_flatMap.2 ⟨c, h, hb⟩

lemma cons_byte_lt_iff {a b : ℕ} {l m : List UInt8} (ha : a < 256) (hb : b < 256) :
    UInt8.ofNat a :: l < UInt8.ofNat b :: m ↔ a < b ∨ a = b ∧ l < m := by
  rw [List.cons_lt_cons_iff, UInt8.lt_iff_toNat_lt, ← UInt8.toNat_inj, UInt8.toNat_ofNat',
    UInt8.toNat_ofNat', Nat.mod_eq_of_lt ha, Nat.mod_eq_of_lt hb]

lemma digits_lt {a b : ℕ} (h : a < b) :
    a / 262144 < b / 262144 ∨ a / 262144 = b / 262144 ∧
      (a / 4096 % 64 < b / 4096 % 64 ∨ a / 4096 % 64 = b / 4096 % 64 ∧
        (a / 64 % 64 < b / 64 % 64 ∨ a / 64 % 64 = b / 64 % 64 ∧ a % 64 < b % 64)) := by
  omega

/-- The bytes of the smaller of two characters come first, whatever follows them. -/
lemma utf8EncodeChar_append_lt {c d : Char} (h : c < d) (l m : List UInt8) :
    String.utf8EncodeChar c ++ l < String.utf8EncodeChar d ++ m := by
  have hlt : c.val.toNat < d.val.toNat := h
  have hmax : d.val.toNat < 1114112 := by
    have hvalid := d.valid
    unfold UInt32.isValidChar Nat.isValidChar at hvalid
    omega
  unfold String.utf8EncodeChar
  dsimp only
  generalize c.val.toNat = a at *
  generalize d.val.toNat = b at *
  by_cases hfour : a ≤ 65535
  · -- the first bytes are different, or the digits of few bytes decide
    split_ifs <;>
      simp (disch := omega) only [List.cons_append, List.nil_append, cons_byte_lt_iff] <;>
      omega
  · simp (disch := omega) only [if_neg, List.cons_append, List.nil_append, cons_byte_lt_iff]
    rcases digits_lt hlt with h | ⟨h, h' | ⟨h', h'' | h''⟩⟩ <;> omega

lemma flatMap_lt {cs ds : List Char} (h : cs < ds) :
    cs.flatMap String.utf8EncodeChar < ds.flatMap String.utf8EncodeChar := by
  induction cs generalizing ds with
  | nil =>
    cases ds with
    | nil => exact absurd h (List.not_lt_nil [])
    | cons d ds =>
      obtain ⟨b, bs, hd⟩ := List.exists_cons_of_ne_nil (String.utf8EncodeChar_ne_nil (c := d))
      simp [hd]
  | cons c cs ih =>
    cases ds with
    | nil => exact absurd h (List.not_lt_nil _)
    | cons d ds =>
      rw [List.flatMap_cons, List.flatMap_cons]
      rcases List.cons_lt_cons_iff.1 h with hlt | ⟨rfl, hrest⟩
      · exact utf8EncodeChar_append_lt hlt _ _
      · exact List.append_left_lt (ih hrest)

lemma before_of_lt {s t : String} (h : s < t) : Before s t := by
  rw [Before, bytes_eq, bytes_eq]
  exact flatMap_lt (String.lt_iff.1 h)

/-- **Order**: texts are in the order of their bytes. -/
theorem before_iff_lt {s t : String} : Before s t ↔ s < t := by
  refine ⟨fun h => ?_, before_of_lt⟩
  by_contra hst
  by_cases hts : t < s
  · exact List.lt_asymm h (before_of_lt hts)
  · obtain rfl := Key.tri s t hst hts
    exact List.lt_irrefl _ h

end TaskCorpus.Text
