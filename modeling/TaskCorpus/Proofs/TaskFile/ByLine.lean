import Mathlib.Data.List.Forall2
import TaskCorpus.Proofs.Corpus.Rejected
import TaskCorpus.Proofs.Decimal.Integer
import TaskCorpus.Proofs.Text.Blank
import TaskCorpus.Proofs.Text.Lines

/-!
Task files that hold a task on each line.

Such a file is loaded as the tasks of its lines, blank lines apart, or it fails at the first line
that is neither. The number of this line counts all lines before it, so blank lines that are put in
between move it, and change nothing else.
-/

namespace TaskCorpus.TaskFile

open Text (Blank Lines)

/-- One task for each of the lines that are not blank, in their order. -/
def Tasks (lines : List String) (ts : List Task) : Prop :=
  List.Forall₂ (fun line t => Json.readText Task.reader line = .ok t)
    (lines.filter fun line => ¬ Blank line) ts

inductive FirstUnread : List String → Nat → Json.Failure → Prop
  | here {line : String} {rest : List String} {failure : Json.Failure} (hblank : ¬ Blank line)
      (h : Json.readText Task.reader line = .error failure) : FirstUnread (line :: rest) 1 failure
  | later {line : String} {rest : List String} {k : Nat} {failure : Json.Failure}
      (hline : Blank line ∨ ∃ t, Json.readText Task.reader line = .ok t)
      (h : FirstUnread rest k failure) : FirstUnread (line :: rest) (k + 1) failure

/-- The error of a line, which names the file with the number of the line. -/
def lineError (p : Path) (k : Nat) (failure : Json.Failure) : Error :=
  .parsing (p.text ++ ":" ++ toString k) failure

/-- Puts lines in before each of the given ones, and what is left of them after the last. -/
def spread : List (List String) → List String → List String
  | gap :: gaps, line :: lines => gap ++ line :: spread gaps lines
  | [], lines => lines
  | gaps, [] => gaps.flatten

variable {p : Path} {line text : String} {lines as bs gap : List String} {gaps : List (List String)}
  {n k : Nat} {t : Task} {ts us : List Task} {failure : Json.Failure} {error : Error}
  {here : Location} {st : Store here}

/-! ### Lines one by one -/

lemma tasks_blank (h : Blank line) : Tasks (line :: lines) ts ↔ Tasks lines ts := by
  simp [Tasks, h]

lemma tasks_cons (h : ¬ Blank line) : Tasks (line :: lines) ts ↔
    ∃ t us, Json.readText Task.reader line = .ok t ∧ Tasks lines us ∧ ts = t :: us := by
  simp [Tasks, h, List.forall₂_cons_left_iff]

lemma tasksOf_blank (h : Blank line) : tasksOf p n (line :: lines) = tasksOf p (n + 1) lines := by
  rw [tasksOf, if_pos (Text.isBlank_iff.2 h)]

lemma tasksOf_cons (h : ¬ Blank line) : tasksOf p n (line :: lines) =
    match Json.readText Task.reader line with
    | .error failure => .error (lineError p n failure)
    | .ok t => (tasksOf p (n + 1) lines).map (t :: ·) := by
  rw [tasksOf, if_neg fun hblank => h (Text.isBlank_iff.1 hblank)]
  cases Json.readText Task.reader line with
  | error failure => rfl
  | ok t => cases tasksOf p (n + 1) lines <;> rfl

lemma tasksOf_eq_ok_iff : tasksOf p n lines = .ok ts ↔ Tasks lines ts := by
  induction lines generalizing n ts with
  | nil => simp [tasksOf, Tasks, eq_comm]
  | cons line lines ih =>
    by_cases h : Blank line
    · rw [tasksOf_blank h, tasks_blank h, ih]
    · rw [tasksOf_cons h, tasks_cons h]
      cases hread : Json.readText Task.reader line with
      | error failure => simp
      | ok t =>
        simp only [Except.ok.injEq, exists_and_left, ← ih (n := n + 1)]
        cases htasks : tasksOf p (n + 1) lines with
        | error e => simp [Except.map]
        | ok us => simp [Except.map, eq_comm]

lemma firstUnread_here (hblank : ¬ Blank line)
    (h : Json.readText Task.reader line = .error failure) {failure' : Json.Failure} :
    FirstUnread (line :: lines) k failure' ↔ k = 1 ∧ failure' = failure := by
  constructor
  · rintro (⟨-, h'⟩ | ⟨hline | ⟨t, ht⟩, -⟩)
    · cases h.symm.trans h'
      exact ⟨rfl, rfl⟩
    · exact absurd hline hblank
    · cases h.symm.trans ht
  · rintro ⟨rfl, rfl⟩
    exact .here hblank h

lemma firstUnread_later (hline : Blank line ∨ ∃ t, Json.readText Task.reader line = .ok t) :
    FirstUnread (line :: lines) k failure ↔ ∃ j, k = j + 1 ∧ FirstUnread lines j failure := by
  constructor
  · rintro (⟨hblank, h⟩ | ⟨-, h⟩)
    · rcases hline with hline | ⟨t, ht⟩
      · exact absurd hline hblank
      · cases h.symm.trans ht
    · exact ⟨_, rfl, h⟩
  · rintro ⟨j, rfl, h⟩
    exact .later hline h

lemma exists_firstUnread_later (hline : Blank line ∨ ∃ t, Json.readText Task.reader line = .ok t) :
    (∃ k failure, FirstUnread (line :: lines) k failure ∧ error = lineError p (n + k) failure) ↔
      ∃ k failure, FirstUnread lines k failure ∧ error = lineError p (n + 1 + k) failure := by
  simp only [firstUnread_later hline]
  constructor
  · rintro ⟨_, failure, ⟨k, rfl, h⟩, rfl⟩
    exact ⟨k, failure, h, by rw [Nat.add_right_comm, Nat.add_assoc]⟩
  · rintro ⟨k, failure, h, rfl⟩
    exact ⟨k + 1, failure, ⟨k, rfl, h⟩, by rw [Nat.add_right_comm, Nat.add_assoc]⟩

lemma tasksOf_eq_error_iff : tasksOf p (n + 1) lines = .error error ↔
    ∃ k failure, FirstUnread lines k failure ∧ error = lineError p (n + k) failure := by
  induction lines generalizing n with
  | nil =>
    refine ⟨by simp [tasksOf], ?_⟩
    rintro ⟨k, failure, h, -⟩
    cases h
  | cons line lines ih =>
    by_cases h : Blank line
    · rw [tasksOf_blank h, ih, exists_firstUnread_later (.inl h)]
    · rw [tasksOf_cons h]
      cases hread : Json.readText Task.reader line with
      | error failure => simp [firstUnread_here h hread, eq_comm]
      | ok t =>
        rw [exists_firstUnread_later (.inr ⟨t, hread⟩), ← ih]
        cases tasksOf p (n + 1 + 1) lines <;> simp [Except.map]

/-! ### Texts -/

lemma parse_byLine (h : p.extension? = some "jsonl") (hlines : Lines text lines) :
    parse p text = tasksOf p 1 lines := by
  simp only [parse, isByLine, h, beq_self_eq_true, if_true, hlines.lines_eq]

lemma parse_eq_ok_iff (h : p.extension? = some "jsonl") (hlines : Lines text lines) :
    parse p text = .ok ts ↔ Tasks lines ts := by
  rw [parse_byLine h hlines, tasksOf_eq_ok_iff]

lemma parse_eq_error_iff (h : p.extension? = some "jsonl") (hlines : Lines text lines) :
    parse p text = .error error ↔
      ∃ k failure, FirstUnread lines k failure ∧ error = lineError p k failure := by
  rw [parse_byLine h hlines, ← Nat.zero_add 1, tasksOf_eq_error_iff]
  simp only [Nat.zero_add]

lemma run_load (h : st.read p = .ok text.toUTF8) :
    (load p).run.run (.ofStore st) = (parse p text, .ofStore st) := by
  have hon : (load p).on st = parse p text := by
    simp only [load, Store.readText, bind_assoc]
    rw [Program.on_read, h]
    simp only [Json.fromUTF8?_toUTF8]
    rfl
  rw [← hon]
  exact Corpus.run_eq_on ((attains_load p).mono (fun _ h => h) fun _ _ h => h.1)

/-! ### Lines put in between -/

lemma filter_gap (hgap : ∀ line ∈ gap, Blank line) :
    (gap.filter fun line => ¬ Blank line) = [] := by
  simpa [List.filter_eq_nil_iff] using hgap

lemma filter_spread (hgaps : ∀ gap ∈ gaps, ∀ line ∈ gap, Blank line) :
    ((spread gaps lines).filter fun line => ¬ Blank line) =
      lines.filter fun line => ¬ Blank line := by
  induction lines generalizing gaps with
  | nil =>
    have hflatten : ∀ line ∈ gaps.flatten, Blank line := by
      intro line hline
      obtain ⟨gap, hgap, hline⟩ := List.mem_flatten.1 hline
      exact hgaps gap hgap line hline
    cases gaps with
    | nil => rfl
    | cons gap gaps => exact filter_gap hflatten
  | cons line lines ih =>
    cases gaps with
    | nil => rfl
    | cons gap gaps =>
      obtain ⟨hgap, hgaps⟩ := List.forall_mem_cons.1 hgaps
      rw [spread, List.filter_append, filter_gap hgap, List.nil_append, List.filter_cons,
        List.filter_cons, ih hgaps]

lemma FirstUnread.behind (hgap : ∀ line ∈ gap, Blank line) (h : FirstUnread lines k failure) :
    FirstUnread (gap ++ lines) (k + gap.length) failure := by
  induction gap with
  | nil => exact h
  | cons line gap ih =>
    obtain ⟨hline, hgap⟩ := List.forall_mem_cons.1 hgap
    exact .later (.inl hline) (ih hgap)

/-- The line moves by as many lines as have been put in before it. -/
lemma FirstUnread.spread (hgaps : ∀ gap ∈ gaps, ∀ line ∈ gap, Blank line)
    (h : FirstUnread lines k failure) :
    FirstUnread (spread gaps lines) (k + (gaps.take k).flatten.length) failure := by
  induction h generalizing gaps with
  | here hblank h =>
    cases gaps with
    | nil => exact .here hblank h
    | cons gap gaps =>
      obtain ⟨hgap, hgaps⟩ := List.forall_mem_cons.1 hgaps
      simpa [TaskFile.spread] using FirstUnread.behind hgap (.here hblank h)
  | @later line rest k failure hline h ih =>
    cases gaps with
    | nil => simpa [TaskFile.spread] using FirstUnread.later hline h
    | cons gap gaps =>
      obtain ⟨hgap, hgaps⟩ := List.forall_mem_cons.1 hgaps
      have hmoved := FirstUnread.behind hgap (.later hline (ih hgaps))
      rw [TaskFile.spread, List.take_succ_cons, List.flatten_cons, List.length_append]
      convert hmoved using 1
      omega

lemma lineError_inj {j : Nat} {failure' : Json.Failure}
    (h : lineError p j failure = lineError p k failure') : j = k ∧ failure = failure' := by
  simp only [lineError, Error.parsing.injEq, String.append_right_inj] at h
  exact ⟨Decimal.toString_inj h.1, h.2⟩

/-! ### Files -/

lemma Tasks.append (h : Tasks as ts) (h' : Tasks bs us) : Tasks (as ++ bs) (ts ++ us) := by
  unfold Tasks
  rw [List.filter_append]
  exact List.rel_append h h'

/-- **Files by line.** A file is loaded as what its text is parsed to. A text is parsed to the tasks
of its lines that are not blank, or fails at the first of them that is no task, whose number counts
all lines. Blank lines put in anywhere change nothing but this number, by as many as have been put
in before the line. A text that ends in a line feed can be continued with more tasks. -/
theorem load_byLine (h : p.extension? = some "jsonl") :
    (∀ (here : Location) (st : Store here) (text : String), st.read p = .ok text.toUTF8 →
      (load p).run.run (.ofStore st) = (parse p text, .ofStore st)) ∧
    (∀ text : String, ∃ lines, Lines text lines ∧
      (∀ ts, parse p text = .ok ts ↔ Tasks lines ts) ∧
      ∀ error, parse p text = .error error ↔
        ∃ k failure, FirstUnread lines k failure ∧ error = lineError p k failure) ∧
    (∀ (text text' : String) (lines : List String) (gaps : List (List String)),
      (∀ gap ∈ gaps, ∀ line ∈ gap, Blank line) → Lines text lines →
      Lines text' (spread gaps lines) →
      (∀ ts, parse p text = .ok ts ↔ parse p text' = .ok ts) ∧
      ∀ k failure, parse p text = .error (lineError p k failure) →
        parse p text' = .error (lineError p (k + (gaps.take k).flatten.length) failure)) ∧
    ∀ (a b : String) (ts us : List Task), parse p (a ++ "\n") = .ok ts → parse p b = .ok us →
      parse p (a ++ "\n" ++ b) = .ok (ts ++ us) := by
  refine ⟨fun here st text hst => run_load hst, fun text => ?_, ?_, ?_⟩
  · obtain ⟨lines, hlines⟩ := Text.exists_lines text
    exact ⟨lines, hlines, fun ts => parse_eq_ok_iff h hlines,
      fun error => parse_eq_error_iff h hlines⟩
  · intro text text' lines gaps hgaps hlines hlines'
    refine ⟨fun ts => ?_, fun k failure herror => ?_⟩
    · rw [parse_eq_ok_iff h hlines, parse_eq_ok_iff h hlines', Tasks, Tasks, filter_spread hgaps]
    · -- the text of the error tells the line, which moves by the lines put in before it
      obtain ⟨j, failure', hfirst, heq⟩ := (parse_eq_error_iff h hlines).1 herror
      obtain ⟨rfl, rfl⟩ := lineError_inj heq
      exact (parse_eq_error_iff h hlines').2 ⟨_, _, hfirst.spread hgaps, rfl⟩
  · -- behind a line feed the lines of the other text begin
    intro a b ts us ha hb
    obtain ⟨as, has⟩ := Text.exists_lines (a ++ "\n")
    obtain ⟨bs, hbs⟩ := Text.exists_lines b
    have hclosed : Text.Closed (a ++ "\n") := by simp [Text.Closed]
    have htasks := ((parse_eq_ok_iff h has).1 ha).append ((parse_eq_ok_iff h hbs).1 hb)
    exact (parse_eq_ok_iff h (has.append hclosed hbs)).2 htasks

def twoLines : String := "[null,\"ann\",\"hello\",[]]\r\n\x7b\x7d"

/-- The two lines with blank ones before each of them and after them. -/
def sixLines : String := "\r\n[null,\"ann\",\"hello\",[]]\n\u3000\n\n\x7b\x7d\n \t"

theorem load_byLine_sample : (⟨"tasks.jsonl"⟩ : Path).extension? = some "jsonl" ∧
    parse ⟨"tasks.jsonl"⟩ twoLines =
      .error (.parsing "tasks.jsonl:2" (.missingField "user_id")) ∧
    parse ⟨"tasks.jsonl"⟩ sixLines =
      .error (.parsing "tasks.jsonl:5" (.missingField "user_id")) := by
  have hpath : (⟨"tasks.jsonl"⟩ : Path).extension? = some "jsonl" := by decide +kernel
  have htwo : parse ⟨"tasks.jsonl"⟩ twoLines =
      .error (.parsing "tasks.jsonl:2" (.missingField "user_id")) := by decide +kernel
  have hlines : Lines twoLines ["[null,\"ann\",\"hello\",[]]", "\x7b\x7d"] :=
    Text.lines_iff.2 (by decide +kernel)
  have hspread : Lines sixLines (spread [[""], ["\u3000", ""], [" \t"]]
      ["[null,\"ann\",\"hello\",[]]", "\x7b\x7d"]) := Text.lines_iff.2 (by decide +kernel)
  have hgaps : ∀ gap ∈ [[""], ["\u3000", ""], [" \t"]], ∀ line ∈ gap, Blank line := by
    decide +kernel
  obtain ⟨-, -, hmoves, -⟩ := load_byLine hpath
  exact ⟨hpath, htwo, (hmoves _ _ _ _ hgaps hlines hspread).2 2 _ htwo⟩

end TaskCorpus.TaskFile
