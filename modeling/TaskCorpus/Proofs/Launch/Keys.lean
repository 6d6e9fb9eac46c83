import Mathlib.Logic.Relation
import TaskCorpus.Launch.Value
import TaskCorpus.Proofs.Decimal.Integer
import TaskCorpus.Proofs.List.Split

/-!
Keys of tables of integers.

A key is written as it is, so a key that reads like an entry, a comma and another key is written
like these. `Cut` takes such a key apart. Two tables are written in the same way exactly if cuts
lead from both to the same entries, and tables without such keys are told by how they are written.
-/

namespace TaskCorpus.Launch.Value

open Relation (Join ReflTransGen)

def ofIntegers (es : List (String × Int)) : Value := .table (es.map fun e => (e.1, .integer e.2))

/-- The key that is written like a key with an integer, a comma and a second key. -/
def spliced (k : String) (m : Int) (l : String) : String :=
  String.ofList (k.toList ++ ':' :: (Decimal.Layout.integer m ++ ',' :: l.toList))

/-- A spliced key is cut into the two entries that it is written like. -/
inductive Cut : List (String × Int) → List (String × Int) → Prop
  | here (k : String) (m : Int) (l : String) (n : Int) (es : List (String × Int)) :
      Cut ((spliced k m l, n) :: es) ((k, m) :: (l, n) :: es)
  | later {es fs : List (String × Int)} (e : String × Int) (h : Cut es fs) : Cut (e :: es) (e :: fs)

/-- Cuts lead from both to the same entries. -/
def Joined : List (String × Int) → List (String × Int) → Prop := Join (ReflTransGen Cut)

/-- There is no spliced key. -/
def Unspliced (es : List (String × Int)) : Prop := ∀ e ∈ es, ∀ k m l, e.1 ≠ spliced k m l

variable {es fs : List (String × Int)}

/-! ### The text of the entries -/

/-- Entries with a comma before each of them. -/
def entriesText (es : List (String × Int)) : List Char :=
  es.flatMap fun e => ',' :: (e.1.toList ++ ':' :: Decimal.Layout.integer e.2)

lemma entriesText_cons (k : String) (n : Int) (es : List (String × Int)) :
    entriesText ((k, n) :: es) =
      ',' :: (k.toList ++ ':' :: (Decimal.Layout.integer n ++ entriesText es)) := by
  simp [entriesText]

lemma head?_entriesText (es : List (String × Int)) : ∀ c ∈ (entriesText es).head?, c = ',' := by
  cases es <;> simp [entriesText]

lemma entriesChars_eq (es : List (String × Int)) :
    entriesChars true (es.map fun e => (e.1, .integer e.2)) = entriesText es := by
  induction es with
  | nil => rfl
  | cons e es ih => simp [entriesChars, entryChars, chars, ih, entriesText]

lemma chars_ofIntegers (es : List (String × Int)) :
    (ofIntegers es).chars false = '{' :: ((entriesText es).tail ++ ['}']) := by
  cases es with
  | nil => rfl
  | cons e es =>
    rw [ofIntegers, chars, List.map_cons, entriesChars, entriesChars_eq]
    simp [entryChars, chars, entriesText]

lemma render_eq_iff_entriesText :
    (ofIntegers es).render = (ofIntegers fs).render ↔ entriesText es = entriesText fs := by
  have htail : ∀ {es : List (String × Int)} {e}, (entriesText (e :: es)).tail ≠ [] := by
    simp [entriesText]
  rw [render, render, String.ofList_inj, chars_ofIntegers, chars_ofIntegers]
  constructor
  · intro h
    have htails := List.append_cancel_right (List.cons.inj h).2
    cases es <;> cases fs
    · rfl
    · exact absurd htails.symm htail
    · exact absurd htails htail
    · simpa [entriesText] using htails
  · intro h
    rw [h]

/-! ### Cuts -/

lemma Cut.entriesText_eq (h : Cut es fs) : entriesText es = entriesText fs := by
  induction h with
  | here k m l n es => simp [entriesText, spliced]
  | later e h ih => simpa [entriesText] using ih

lemma entriesText_eq_of_cuts (h : ReflTransGen Cut es fs) : entriesText es = entriesText fs := by
  induction h with
  | refl => rfl
  | tail _ hcut ih => rw [ih, hcut.entriesText_eq]

lemma Unspliced.not_cut (h : Unspliced es) : ¬ Cut es fs := by
  intro hcut
  induction hcut with
  | here k m l n es => exact h (spliced k m l, n) (by simp) k m l rfl
  | later e _ ih => exact ih fun e he => h e (by simp [he])

lemma Unspliced.eq_of_cuts (h : Unspliced es) (hcuts : ReflTransGen Cut es fs) : es = fs := by
  rcases ReflTransGen.cases_head hcuts with heq | ⟨_, hcut, -⟩
  · exact heq
  · exact absurd hcut h.not_cut

lemma unspliced_of_not_mem (h : ∀ e ∈ es, ':' ∉ e.1.toList ∨ ',' ∉ e.1.toList) : Unspliced es := by
  intro e he k m l hkey
  rcases h e he with hcolon | hcomma
  · exact hcolon (by simp [hkey, spliced])
  · exact hcomma (by simp [hkey, spliced])

lemma Joined.symm (h : Joined es fs) : Joined fs es := symm_of (Join (ReflTransGen Cut)) h

lemma Joined.cons (e : String × Int) (h : Joined es fs) : Joined (e :: es) (e :: fs) := by
  obtain ⟨gs, hes, hfs⟩ := h
  have hlater : ∀ es fs, Cut es fs → Cut (e :: es) (e :: fs) := fun _ _ => .later e
  exact ⟨e :: gs, hes.lift (e :: ·) hlater, hfs.lift (e :: ·) hlater⟩

lemma Joined.splice {k l : String} {m n : Int} (h : Joined es ((l, n) :: fs)) :
    Joined ((k, m) :: es) ((spliced k m l, n) :: fs) := by
  obtain ⟨gs, hes, hfs⟩ := h.cons (k, m)
  exact ⟨gs, hes, .head (.here k m l n fs) hfs⟩

/-! ### What the text of the entries says -/

lemma integer_append_inj {m n : Int}
    (h : Decimal.Layout.integer m ++ entriesText es = Decimal.Layout.integer n ++ entriesText fs) :
    m = n ∧ entriesText es = entriesText fs := by
  have hcomma : ∀ {gs : List (String × Int)}, ∀ c ∈ (entriesText gs).head?, ¬ c ≠ ',' :=
    fun c hc => not_not_intro (head?_entriesText _ c hc)
  obtain ⟨hinteger, hrest⟩ := append_inj_of_head
    (fun c hc => Decimal.Layout.ne_of_mem_integer hc (by decide))
    (fun c hc => Decimal.Layout.ne_of_mem_integer hc (by decide)) hcomma hcomma h
  exact ⟨Decimal.Layout.integer_inj hinteger, hrest⟩

/-- If an integer with the entries behind it goes on up to a colon, then it is followed by a comma
and a key. -/
lemma exists_splice {m n : Int} {cs : List Char}
    (h : Decimal.Layout.integer m ++ entriesText es =
      cs ++ ':' :: (Decimal.Layout.integer n ++ entriesText fs)) :
    ∃ l : String, cs = Decimal.Layout.integer m ++ ',' :: l.toList ∧
      entriesText es = entriesText ((l, n) :: fs) := by
  have hcolon : ∀ cs, ':' :: cs ≠ entriesText es := fun cs hcs =>
    absurd (head?_entriesText es ':' (by rw [← hcs]; rfl)) (by decide)
  rcases List.append_eq_append_iff.1 h with ⟨zs, rfl, hes⟩ | ⟨zs, hm, hrest⟩
  · cases zs with
    | nil => exact absurd hes.symm (hcolon _)
    | cons z zs =>
      obtain rfl := head?_entriesText es z (by rw [hes]; rfl)
      exact ⟨String.ofList zs, by simp, by simp [entriesText_cons, hes]⟩
  · -- the colon would stand in the integer, or right behind it
    cases zs with
    | nil => exact absurd hrest (hcolon _)
    | cons z zs =>
      obtain ⟨rfl, -⟩ := List.cons.inj hrest
      have hmem : ':' ∈ Decimal.Layout.integer m := by simp [hm]
      exact absurd rfl (Decimal.Layout.ne_of_mem_integer hmem (by decide))

/-- A key that begins like another entry goes on like it, with a comma and a key. -/
lemma joined_of_longer {k l : String} {m n : Int} {cs : List Char}
    (hl : l.toList = k.toList ++ ':' :: cs)
    (h : Decimal.Layout.integer m ++ entriesText es =
      cs ++ ':' :: (Decimal.Layout.integer n ++ entriesText fs))
    (ih : ∀ l', entriesText es = entriesText ((l', n) :: fs) → Joined es ((l', n) :: fs)) :
    Joined ((k, m) :: es) ((l, n) :: fs) := by
  obtain ⟨l', rfl, htext⟩ := exists_splice h
  obtain rfl : l = spliced k m l' := by rw [spliced, ← hl, String.ofList_toList]
  exact (ih l' htext).splice

lemma joined_of_entriesText (h : entriesText es = entriesText fs) : Joined es fs := by
  -- each case takes an entry off both lists, and the longer of two keys gives back at most one
  induction hsize : es.length + fs.length using Nat.strongRecOn generalizing es fs with
  | ind size ih =>
    cases es with
    | nil =>
      cases fs with
      | nil => exact ⟨[], .refl, .refl⟩
      | cons f fs => simp [entriesText] at h
    | cons e es =>
      cases fs with
      | nil => simp [entriesText] at h
      | cons f fs =>
        obtain ⟨k, m⟩ := e
        obtain ⟨l, n⟩ := f
        simp only [List.length_cons] at hsize
        rw [entriesText_cons, entriesText_cons] at h
        rcases append_cons_cases (List.cons.inj h).2 with
          ⟨hkey, hrest⟩ | ⟨cs, hkey, hrest⟩ | ⟨cs, hkey, hrest⟩
        · obtain ⟨rfl, htext⟩ := integer_append_inj hrest
          obtain rfl := String.toList_inj.1 hkey
          exact (ih _ (by omega) htext rfl).cons (k, m)
        · refine joined_of_longer hkey hrest fun l' htext => ih _ ?_ htext rfl
          simp only [List.length_cons]
          omega
        · refine (joined_of_longer hkey hrest fun l' htext => ih _ ?_ htext rfl).symm
          simp only [List.length_cons]
          omega

/-- **Tables of integers** are written in the same way exactly if cuts lead from both to the same
entries. Without spliced keys they are the same then. -/
theorem render_ofIntegers_eq_iff (es fs : List (String × Int)) :
    ((ofIntegers es).render = (ofIntegers fs).render ↔ Joined es fs) ∧
      (Unspliced es → Unspliced fs →
        ((ofIntegers es).render = (ofIntegers fs).render ↔ ofIntegers es = ofIntegers fs)) := by
  have hjoined : (ofIntegers es).render = (ofIntegers fs).render ↔ Joined es fs := by
    rw [render_eq_iff_entriesText]
    refine ⟨joined_of_entriesText, ?_⟩
    rintro ⟨gs, hes, hfs⟩
    rw [entriesText_eq_of_cuts hes, entriesText_eq_of_cuts hfs]
  refine ⟨hjoined, fun hes hfs => ⟨fun h => ?_, fun h => by rw [h]⟩⟩
  obtain ⟨gs, hesgs, hfsgs⟩ := hjoined.1 h
  rw [hes.eq_of_cuts hesgs, hfs.eq_of_cuts hfsgs]

/-- Keys with colons or with commas, but not both, are not taken for two entries. -/
theorem render_ofIntegers_sample :
    Unspliced [("a", 1), ("b,c", 2)] ∧ Unspliced [("a:1", 3), ("d,", 2)] ∧
      (ofIntegers [("a", 1), ("b,c", 2)]).render ≠ (ofIntegers [("a:1", 3), ("d,", 2)]).render := by
  have hes : Unspliced [("a", 1), ("b,c", 2)] := unspliced_of_not_mem (by decide)
  have hfs : Unspliced [("a:1", 3), ("d,", 2)] := unspliced_of_not_mem (by decide)
  refine ⟨hes, hfs, fun h => ?_⟩
  have heq := ((render_ofIntegers_eq_iff _ _).2 hes hfs).1 h
  simp [ofIntegers] at heq

/-- Two tables that are not the same, with one text: the key `a:1,b` is taken for two entries. -/
theorem spliced_key_sample :
    (ofIntegers [("a", 1), ("b", 2)]).render = (ofIntegers [("a:1,b", 2)]).render ∧
      ofIntegers [("a", 1), ("b", 2)] ≠ ofIntegers [("a:1,b", 2)] :=
  ⟨by decide, by simp [ofIntegers]⟩

end TaskCorpus.Launch.Value
