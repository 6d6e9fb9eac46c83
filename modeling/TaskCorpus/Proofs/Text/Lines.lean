import Mathlib.Data.List.Basic
import TaskCorpus.Text.Blank

/-!
The lines of a text, by how the text is put together from them.

`Lines` builds a text up line by line. `lines_iff` says that a text is cut into the lines that it is
built up from, and `Lines.append` that two texts have their lines one after the other if the first
of them does not break off within a line. A `Listing` puts any texts on lines of their own; these
are its lines if there is no line break in them.
-/

namespace TaskCorpus.Text

inductive Lines : String → List String → Prop
  | nil : Lines "" []
  /-- Nothing has to follow the last line. -/
  | last {line : String} (hne : line ≠ "") (h : '\n' ∉ line.toList) : Lines line [line]
  | feed {line rest : String} {lines : List String} (h : '\n' ∉ line.toList)
      (hlast : line.toList.getLast? ≠ some '\r') (hrest : Lines rest lines) :
      Lines (line ++ "\n" ++ rest) (line :: lines)
  /-- Of several carriage returns before a line feed, one ends the line. -/
  | returnFeed {line rest : String} {lines : List String} (h : '\n' ∉ line.toList)
      (hrest : Lines rest lines) : Lines (line ++ "\r\n" ++ rest) (line :: lines)

/-- Empty, or with a line feed at its end. -/
def Closed (text : String) : Prop := ∀ c ∈ text.toList.getLast?, c = '\n'

/-! ### Cutting -/

variable {chars rest : List Char}

lemma pieces_ne_nil (chars : List Char) : pieces chars ≠ [] := by
  cases chars with
  | nil => simp [pieces]
  | cons c rest =>
    simp only [pieces]
    split
    · simp
    · split <;> simp

lemma pieces_of_notMem (h : '\n' ∉ chars) : pieces chars = [chars] := by
  induction chars with
  | nil => rfl
  | cons c rest ih =>
    obtain ⟨hc, hrest⟩ := not_or.1 (List.mem_cons.not.1 h)
    simp only [pieces, if_neg (Ne.symm hc), ih hrest]

lemma pieces_feed (h : '\n' ∉ chars) : pieces (chars ++ '\n' :: rest) = chars :: pieces rest := by
  induction chars with
  | nil => rfl
  | cons c chars ih =>
    obtain ⟨hc, hchars⟩ := not_or.1 (List.mem_cons.not.1 h)
    simp only [List.cons_append, pieces, if_neg (Ne.symm hc), ih hchars]

lemma dropReturn_append (chars : List Char) : dropReturn (chars ++ ['\r']) = chars := by
  simp [dropReturn]

lemma dropReturn_of_getLast? (h : chars.getLast? ≠ some '\r') : dropReturn chars = chars := by
  unfold dropReturn
  split
  · rename_i front hreverse
    rw [← List.head?_reverse, hreverse] at h
    exact absurd rfl h
  · rfl

lemma linesOf_pieces_feed (h : '\n' ∉ chars) :
    linesOf (pieces (chars ++ '\n' :: rest)) = dropReturn chars :: linesOf (pieces rest) := by
  rw [pieces_feed h]
  cases hpieces : pieces rest with
  | nil => exact absurd hpieces (pieces_ne_nil rest)
  | cons p ps => rfl

/-! ### Lines -/

variable {text a b : String} {lines as bs : List String}

lemma Lines.lines_eq (h : Lines text lines) : Text.lines text = lines := by
  induction h with
  | nil => rfl
  | @last line hne h =>
    have hchars : line.toList ≠ [] := fun hnil => hne (String.toList_inj.1 hnil)
    simp [Text.lines, pieces_of_notMem h, linesOf, hchars]
  | @feed line rest lines h hlast _ ih =>
    have htext : (line ++ "\n" ++ rest).toList = line.toList ++ '\n' :: rest.toList := by simp
    rw [Text.lines, htext, linesOf_pieces_feed h, dropReturn_of_getLast? hlast, List.map_cons,
      String.ofList_toList]
    exact congrArg _ ih
  | @returnFeed line rest lines h _ ih =>
    have htext : (line ++ "\r\n" ++ rest).toList =
        (line.toList ++ ['\r']) ++ '\n' :: rest.toList := by simp
    have hreturn : '\n' ∉ line.toList ++ ['\r'] := by simp [h]
    rw [Text.lines, htext, linesOf_pieces_feed hreturn, dropReturn_append, List.map_cons,
      String.ofList_toList]
    exact congrArg _ ih

lemma exists_lines_feed (chars : List Char) (h : '\n' ∉ chars) (hrest : Lines a as) :
    ∃ lines, Lines (String.ofList chars ++ "\n" ++ a) lines := by
  by_cases hlast : chars.getLast? = some '\r'
  · obtain ⟨front, rfl⟩ := List.getLast?_eq_some_iff.1 hlast
    have hfront : '\n' ∉ (String.ofList front).toList := by simpa using h
    have htext : String.ofList (front ++ ['\r']) ++ "\n" ++ a =
        String.ofList front ++ "\r\n" ++ a := by
      rw [← String.toList_inj]
      simp
    rw [htext]
    exact ⟨_, .returnFeed hfront hrest⟩
  · exact ⟨_, .feed (by simpa using h) (by simpa using hlast) hrest⟩

lemma exists_lines (text : String) : ∃ lines, Lines text lines := by
  induction hlength : text.toList.length using Nat.strongRecOn generalizing text with
  | _ n ih =>
    by_cases hfeed : '\n' ∈ text.toList
    · obtain ⟨line, rest, htext, hline⟩ := List.eq_append_cons_of_mem hfeed
      have hshort : rest.length < n := by
        rw [← hlength, htext]
        simp
        omega
      obtain ⟨lines, hrest⟩ := ih _ hshort (String.ofList rest) (by simp)
      have hjoin : text = String.ofList line ++ "\n" ++ String.ofList rest := by
        rw [← String.toList_inj, htext]
        simp
      rw [hjoin]
      exact exists_lines_feed line hline hrest
    · by_cases hempty : text = ""
      · exact ⟨[], hempty ▸ .nil⟩
      · exact ⟨[text], .last hempty hfeed⟩

/-- A text is cut into the lines that it is built up from. -/
theorem lines_iff : Lines text lines ↔ Text.lines text = lines := by
  refine ⟨Lines.lines_eq, ?_⟩
  rintro rfl
  obtain ⟨lines, h⟩ := exists_lines text
  rwa [h.lines_eq]

lemma Closed.of_append (h : Closed (a ++ b)) : Closed b := by
  intro c hc
  refine h c ?_
  rw [String.toList_append, List.getLast?_append, hc]
  rfl

lemma Lines.append (h : Lines a as) (ha : Closed a) (h' : Lines b bs) :
    Lines (a ++ b) (as ++ bs) := by
  induction h with
  | nil => simpa using h'
  | @last line hne h =>
    -- a line that nothing ends is not closed
    cases hlast : line.toList.getLast? with
    | none => exact absurd (String.toList_inj.1 (List.getLast?_eq_none_iff.1 hlast)) hne
    | some c =>
      obtain rfl := ha c hlast
      exact absurd (List.mem_of_getLast? hlast) h
  | @feed line rest lines h hlast _ ih =>
    have hrest : Closed rest := ha.of_append
    rw [String.append_assoc]
    exact .feed h hlast (ih hrest)
  | @returnFeed line rest lines h _ ih =>
    have hrest : Closed rest := ha.of_append
    rw [String.append_assoc]
    exact .returnFeed h (ih hrest)

/-! ### Lists of lines -/

inductive Listing : List String → String → Prop
  | nil : Listing [] ""
  | last (line : String) : Listing [line] line
  | feed (line : String) {rest : String} {lines : List String} (h : Listing lines rest) :
      Listing (line :: lines) (line ++ "\n" ++ rest)
  | returnFeed (line : String) {rest : String} {lines : List String} (h : Listing lines rest) :
      Listing (line :: lines) (line ++ "\r\n" ++ rest)

lemma lines_of_listing (h : Listing lines text) (hne : ∀ line ∈ lines, line ≠ "")
    (hfeed : ∀ line ∈ lines, '\n' ∉ line.toList) (hreturn : ∀ line ∈ lines, '\r' ∉ line.toList) :
    Lines text lines := by
  induction h with
  | nil => exact .nil
  | last line => exact .last (hne line (by simp)) (hfeed line (by simp))
  | feed line _ ih =>
    have hlast : line.toList.getLast? ≠ some '\r' := fun h =>
      hreturn line (by simp) (List.mem_of_getLast? h)
    rw [List.forall_mem_cons] at hne hfeed hreturn
    exact .feed hfeed.1 hlast (ih hne.2 hfeed.2 hreturn.2)
  | returnFeed line _ ih =>
    rw [List.forall_mem_cons] at hne hfeed hreturn
    exact .returnFeed hfeed.1 (ih hne.2 hfeed.2 hreturn.2)

end TaskCorpus.Text
