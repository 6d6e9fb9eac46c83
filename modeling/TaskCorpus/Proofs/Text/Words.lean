import Mathlib.Data.List.Basic
import TaskCorpus.Proofs.Text.Blank

/-!
The words of a command line.

`words` reads a command line: a backslash at the end of a line is dropped together with the line
feed, white space outside double quotes parts the words, and the double quotes are dropped. All
that the later modules need to know of it is how it reads on over one piece of a text: over white
space (`wordsFrom_blank`), over characters that belong to a word (`wordsFrom_kept`) and over a text
without quotes that white space follows (`wordsFrom_append_blank`). A text without quotes and
backslashes is its own only word exactly if it is `Solid` and not empty.
-/

namespace TaskCorpus.Text

/-- Drops each backslash at the end of a line, with the line feed behind it. -/
def joinLines : List Char → List Char
  | [] => []
  | '\\' :: '\n' :: cs => joinLines cs
  | c :: cs => c :: joinLines cs

/-- Reads on inside or outside double quotes, with the word that has begun, if one has. -/
def wordsFrom (inside : Bool) (word : Option (List Char)) : List Char → List (List Char)
  | [] => word.toList
  | c :: cs =>
    if c = '"' then wordsFrom (!inside) (some (word.getD [])) cs
    else if inside = false ∧ c ∈ whiteSpace then word.toList ++ wordsFrom false none cs
    else wordsFrom inside (some (word.getD [] ++ [c])) cs

/-- The words of a command line. -/
def words (s : String) : List String :=
  (wordsFrom false none (joinLines s.toList)).map String.ofList

/-- A text without the two characters that a reader of words does not take for themselves. -/
def Unmarked (s : String) : Prop := '"' ∉ s.toList ∧ '\\' ∉ s.toList

def Solid (s : String) : Prop := ∀ c ∈ s.toList, c ∉ whiteSpace

instance (s : String) : Decidable (Unmarked s) := inferInstanceAs (Decidable (_ ∧ _))

instance (s : String) : Decidable (Solid s) := List.decidableBAll (· ∉ whiteSpace) s.toList

variable {cs rest w : List Char} {word : Option (List Char)} {c : Char} {inside : Bool}

/-! ### Lines -/

lemma joinLines_cons (hc : c ≠ '\\') (cs : List Char) :
    joinLines (c :: cs) = c :: joinLines cs := by
  rw [joinLines]
  rintro _ rfl _
  exact hc rfl

lemma joinLines_break (cs : List Char) : joinLines ('\\' :: '\n' :: cs) = joinLines cs := by
  rw [joinLines]

lemma joinLines_append (h : '\\' ∉ cs) (rest : List Char) :
    joinLines (cs ++ rest) = cs ++ joinLines rest := by
  induction cs with
  | nil => rfl
  | cons c cs ih =>
    obtain ⟨hc, hcs⟩ := not_or.1 (List.mem_cons.not.1 h)
    rw [List.cons_append, joinLines_cons (Ne.symm hc), ih hcs, List.cons_append]

lemma joinLines_of_notMem (h : '\\' ∉ cs) : joinLines cs = cs := by
  have happend := joinLines_append h []
  rwa [List.append_nil, joinLines, List.append_nil] at happend

/-! ### Reading on -/

lemma wordsFrom_blank (hc : c ∈ whiteSpace) (word : Option (List Char)) (cs : List Char) :
    wordsFrom false word (c :: cs) = word.toList ++ wordsFrom false none cs := by
  have hquote : c ≠ '"' := by
    rintro rfl
    exact absurd hc (by decide)
  rw [wordsFrom, if_neg hquote, if_pos ⟨rfl, hc⟩]

lemma wordsFrom_quote (inside : Bool) (word : Option (List Char)) (cs : List Char) :
    wordsFrom inside word ('"' :: cs) = wordsFrom (!inside) (some (word.getD [])) cs := by
  rw [wordsFrom, if_pos rfl]

lemma wordsFrom_cons (hquote : c ≠ '"') (hc : inside = false → c ∉ whiteSpace)
    (word : Option (List Char)) (cs : List Char) :
    wordsFrom inside word (c :: cs) = wordsFrom inside (some (word.getD [] ++ [c])) cs := by
  rw [wordsFrom, if_neg hquote, if_neg fun h => hc h.1 h.2]

lemma wordsFrom_kept (hquote : '"' ∉ cs) (hcs : inside = false → ∀ c ∈ cs, c ∉ whiteSpace)
    (w rest : List Char) :
    wordsFrom inside (some w) (cs ++ rest) = wordsFrom inside (some (w ++ cs)) rest := by
  induction cs generalizing w with
  | nil => rw [List.nil_append, List.append_nil]
  | cons c cs ih =>
    obtain ⟨hc, hquote⟩ := not_or.1 (List.mem_cons.not.1 hquote)
    have hhead : inside = false → c ∉ whiteSpace := fun h => hcs h c List.mem_cons_self
    have htail : inside = false → ∀ c ∈ cs, c ∉ whiteSpace := fun h c hc =>
      hcs h c (List.mem_cons_of_mem _ hc)
    rw [List.cons_append, wordsFrom_cons (Ne.symm hc) hhead, Option.getD_some, ih hquote htail,
      List.append_assoc, List.singleton_append]

lemma wordsFrom_solid (hquote : '"' ∉ cs) (hcs : ∀ c ∈ cs, c ∉ whiteSpace) (rest : List Char) :
    wordsFrom false none (cs ++ rest) =
      wordsFrom false (if cs = [] then none else some cs) rest := by
  cases cs with
  | nil => rfl
  | cons c cs =>
    have hc : c ∉ whiteSpace := hcs c List.mem_cons_self
    obtain ⟨hne, hquote⟩ := not_or.1 (List.mem_cons.not.1 hquote)
    have htail : ∀ c ∈ cs, c ∉ whiteSpace := fun c hc => hcs c (List.mem_cons_of_mem _ hc)
    rw [List.cons_append, wordsFrom_cons (Ne.symm hne) fun _ => hc,
      wordsFrom_kept hquote fun _ => htail, if_neg (List.cons_ne_nil _ _)]
    rfl

lemma wordsFrom_quoted (hquote : '"' ∉ cs) (rest : List Char) :
    wordsFrom false none ('"' :: (cs ++ '"' :: rest)) = wordsFrom false (some cs) rest := by
  have hinside : (!false) = false → ∀ c ∈ cs, c ∉ whiteSpace := nofun
  rw [wordsFrom_quote, wordsFrom_kept hquote hinside, wordsFrom_quote]
  rfl

/-- A word may be quoted in a part of it, and there may be nothing between the quotes. -/
example : words "A=1 \"b  c\"d \\\n    \"\"" = ["A=1", "b  cd", ""] := by decide

lemma wordsFrom_append_blank (hquote : '"' ∉ cs) (hc : c ∈ whiteSpace)
    (word : Option (List Char)) (rest : List Char) :
    wordsFrom false word (cs ++ c :: rest) =
      wordsFrom false word cs ++ wordsFrom false none rest := by
  induction cs generalizing word with
  | nil =>
    rw [List.nil_append, wordsFrom_blank hc]
    rfl
  | cons d cs ih =>
    obtain ⟨hne, hquote⟩ := not_or.1 (List.mem_cons.not.1 hquote)
    by_cases hd : d ∈ whiteSpace
    · rw [List.cons_append, wordsFrom_blank hd, wordsFrom_blank hd, ih hquote, List.append_assoc]
    · rw [List.cons_append, wordsFrom_cons (Ne.symm hne) fun _ => hd, ih hquote,
        wordsFrom_cons (Ne.symm hne) fun _ => hd]

/-- A text without quotes has its own words if white space or nothing follows it. -/
lemma wordsFrom_append (hquote : '"' ∉ cs) (hrest : ∀ c ∈ rest.head?, c ∈ whiteSpace)
    (word : Option (List Char)) :
    wordsFrom false word (cs ++ rest) = wordsFrom false word cs ++ wordsFrom false none rest := by
  cases rest with
  | nil => simp [wordsFrom]
  | cons c rest =>
    have hc : c ∈ whiteSpace := hrest c rfl
    rw [wordsFrom_append_blank hquote hc, wordsFrom_blank hc]
    rfl

/-! ### Words of unmarked texts -/

/-- Outside quotes no white space gets into a word. -/
lemma notMem_of_mem_wordsFrom (hquote : '"' ∉ cs)
    (hword : ∀ v ∈ word, ∀ c ∈ v, c ∉ whiteSpace) (hw : w ∈ wordsFrom false word cs) :
    ∀ c ∈ w, c ∉ whiteSpace := by
  induction cs generalizing word with
  | nil => exact hword w (by simpa [wordsFrom] using hw)
  | cons c cs ih =>
    obtain ⟨hne, hquote⟩ := not_or.1 (List.mem_cons.not.1 hquote)
    by_cases hc : c ∈ whiteSpace
    · rw [wordsFrom_blank hc, List.mem_append] at hw
      rcases hw with hw | hw
      · exact hword w (by simpa using hw)
      · exact ih hquote (by simp) hw
    · rw [wordsFrom_cons (Ne.symm hne) fun _ => hc] at hw
      -- the word that has begun is continued by a character that is not white space
      refine ih hquote ?_ hw
      rintro v hv d hd
      obtain rfl := Option.some.inj hv
      rcases List.mem_append.1 hd with hd | hd
      · cases word with
        | none => simp at hd
        | some v => exact hword v rfl d hd
      · rwa [List.mem_singleton.1 hd]

lemma wordsFrom_some_ne_nil (inside : Bool) (w cs : List Char) :
    wordsFrom inside (some w) cs ≠ [] := by
  induction cs generalizing inside w with
  | nil => simp [wordsFrom]
  | cons c cs ih =>
    rw [wordsFrom]
    split
    · exact ih _ _
    · split
      · simp
      · exact ih _ _

lemma wordsFrom_ne_nil (hc : c ∈ cs) (hsolid : c ∉ whiteSpace) (word : Option (List Char)) :
    wordsFrom false word cs ≠ [] := by
  induction cs generalizing word with
  | nil => simp at hc
  | cons d cs ih =>
    by_cases hd : d ∈ whiteSpace
    · rcases List.mem_cons.1 hc with rfl | hc
      · exact absurd hd hsolid
      · rw [wordsFrom_blank hd]
        exact List.append_ne_nil_of_right_ne_nil _ (ih hc none)
    · by_cases hquote : d = '"'
      · rw [hquote, wordsFrom_quote]
        exact wordsFrom_some_ne_nil _ _ _
      · rw [wordsFrom_cons hquote fun _ => hd]
        exact wordsFrom_some_ne_nil _ _ _

variable {s t : String}

lemma words_eq (h : Unmarked s) : words s = (wordsFrom false none s.toList).map String.ofList := by
  rw [words, joinLines_of_notMem h.2]

lemma solid_of_mem_words (h : Unmarked s) (ht : t ∈ words s) : Solid t := by
  rw [words_eq h] at ht
  obtain ⟨w, hw, rfl⟩ := List.mem_map.1 ht
  have hsolid := notMem_of_mem_wordsFrom h.1 (by simp) hw
  simpa [Solid] using hsolid

lemma words_of_solid (h : Unmarked s) (hsolid : Solid s) : words s = [s].filter (· ≠ "") := by
  have hread := wordsFrom_solid h.1 hsolid []
  rw [List.append_nil] at hread
  by_cases hs : s = ""
  · subst hs
    rfl
  · have hchars : s.toList ≠ [] := by simpa using hs
    rw [words_eq h, hread, if_neg hchars]
    simp [wordsFrom, hs]

lemma words_eq_singleton_iff (h : Unmarked s) : words s = [s] ↔ s ≠ "" ∧ Solid s := by
  constructor
  · intro hwords
    refine ⟨?_, solid_of_mem_words h (by simp [hwords])⟩
    rintro rfl
    simp [words, joinLines, wordsFrom] at hwords
  · rintro ⟨hne, hsolid⟩
    rw [words_of_solid h hsolid]
    simp [hne]

lemma words_ne_nil (h : Unmarked s) (hc : c ∈ s.toList) (hsolid : c ∉ whiteSpace) :
    words s ≠ [] := by
  rw [words_eq h]
  simpa using wordsFrom_ne_nil hc hsolid none

end TaskCorpus.Text
