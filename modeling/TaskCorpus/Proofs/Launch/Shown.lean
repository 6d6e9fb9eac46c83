import TaskCorpus.Launch.Plan
import TaskCorpus.Proofs.Text.Words

/-!
The command that the text of a plan shows.

The text of a plan is read back as words. `words_text` says what these are: the words of each
assignment and of the program, which are written as they are, and then every argument that is not
empty, as one word whatever white space it has. They are the words of the command exactly if the
plan is `Legible`.
-/

namespace TaskCorpus.Launch.Plan

open Text (whiteSpace joinLines wordsFrom words Solid)

def assignment (e : String × String) : String := e.1 ++ "=" ++ e.2

/-- The words of the command that a plan stands for: a variable with its value for each entry of
the environment, in the order of the names, then the program and its arguments. -/
def command (p : Plan) : List String :=
  p.environment.entries.map assignment ++ p.program :: p.arguments

structure Unmarked (p : Plan) : Prop where
  environment : ∀ e ∈ p.environment.entries, Text.Unmarked e.1 ∧ Text.Unmarked e.2
  program : Text.Unmarked p.program
  arguments : ∀ a ∈ p.arguments, Text.Unmarked a

/-- Only arguments have white space, and neither an argument nor the program is empty. -/
structure Legible (p : Plan) : Prop where
  environment : ∀ e ∈ p.environment.entries, Solid e.1 ∧ Solid e.2
  program : p.program ≠ "" ∧ Solid p.program
  arguments : "" ∉ p.arguments

variable {p : Plan} {a : String} {e : String × String} {es : List (String × String)}
  {as xs ys : List String}

/-! ### Arguments -/

def argumentChars (a : String) : List Char :=
  if Solid a then a.toList else '"' :: (a.toList ++ ['"'])

lemma any_isBlankChar_iff : a.toList.any Text.isBlankChar = true ↔ ¬ Solid a := by
  simp only [List.any_eq_true, Text.isBlankChar_iff, Solid, not_forall, not_not, exists_prop]

lemma toList_argumentText (a : String) :
    (argumentText a).toList = [' ', '\\', '\n', ' ', ' ', ' ', ' '] ++ argumentChars a := by
  have hlead : " \\\n    ".toList = [' ', '\\', '\n', ' ', ' ', ' ', ' '] := by decide
  have hopen : " \\\n    \"".toList = [' ', '\\', '\n', ' ', ' ', ' ', ' ', '"'] := by decide
  have hclose : "\"".toList = ['"'] := by decide
  by_cases hsolid : Solid a
  · have hany : ¬ a.toList.any Text.isBlankChar = true := fun h => any_isBlankChar_iff.1 h hsolid
    rw [argumentText, if_neg hany, argumentChars, if_pos hsolid, String.toList_append, hlead]
  · have hany : a.toList.any Text.isBlankChar = true := any_isBlankChar_iff.2 hsolid
    rw [argumentText, if_pos hany, argumentChars, if_neg hsolid, String.toList_append,
      String.toList_append, hopen, hclose]
    simp

lemma notMem_argumentChars (h : Text.Unmarked a) : '\\' ∉ argumentChars a := by
  unfold argumentChars
  split <;> simp [h.2]

lemma joinLines_argumentText (h : Text.Unmarked a) (rest : List Char) :
    joinLines ((argumentText a).toList ++ rest) =
      ' ' :: ' ' :: ' ' :: ' ' :: ' ' :: (argumentChars a ++ joinLines rest) := by
  have hindent : '\\' ∉ [' ', ' ', ' ', ' '] := by decide
  have hchars : (argumentText a).toList ++ rest =
      ' ' :: '\\' :: '\n' :: ([' ', ' ', ' ', ' '] ++ (argumentChars a ++ rest)) := by
    rw [toList_argumentText, List.append_assoc]
    rfl
  rw [hchars, Text.joinLines_cons (by decide), Text.joinLines_break, Text.joinLines_append hindent,
    Text.joinLines_append (notMem_argumentChars h)]
  rfl

/-- The text of an argument ends the word before it, and the argument is the next word, if it is
not empty. -/
lemma wordsFrom_argumentText (h : Text.Unmarked a) (word : Option (List Char)) (rest : List Char) :
    wordsFrom false word (joinLines ((argumentText a).toList ++ rest)) =
      word.toList ++ wordsFrom false (if a = "" then none else some a.toList) (joinLines rest) := by
  have hspace : ' ' ∈ whiteSpace := by decide
  have hread : wordsFrom false none (argumentChars a ++ joinLines rest) =
      wordsFrom false (if a = "" then none else some a.toList) (joinLines rest) := by
    by_cases hsolid : Solid a
    · simp only [argumentChars, if_pos hsolid, Text.wordsFrom_solid h.1 hsolid,
        String.toList_eq_nil_iff]
    · have hne : a ≠ "" := by
        rintro rfl
        exact hsolid (by decide)
      rw [argumentChars, if_neg hsolid, if_neg hne, List.cons_append, List.append_assoc]
      exact Text.wordsFrom_quoted h.1 _
  rw [joinLines_argumentText h]
  simp only [Text.wordsFrom_blank hspace, Option.toList_none, List.nil_append, hread]

lemma mem_whiteSpace_of_mem_head? (h : ∀ a ∈ as, Text.Unmarked a) :
    ∀ c ∈ (joinLines (as.flatMap fun a => (argumentText a).toList)).head?, c ∈ whiteSpace := by
  intro c hc
  cases as with
  | nil => simp [joinLines] at hc
  | cons a as =>
    rw [List.flatMap_cons, joinLines_argumentText (h a List.mem_cons_self)] at hc
    rw [← Option.some.inj hc]
    decide

lemma wordsFrom_arguments (h : ∀ a ∈ as, Text.Unmarked a) (word : Option (List Char)) :
    wordsFrom false word (joinLines (as.flatMap fun a => (argumentText a).toList)) =
      word.toList ++ (as.filter (· ≠ "")).map String.toList := by
  induction as generalizing word with
  | nil => simp [joinLines, wordsFrom]
  | cons a as ih =>
    obtain ⟨ha, has⟩ := List.forall_mem_cons.1 h
    rw [List.flatMap_cons, wordsFrom_argumentText ha, ih has]
    by_cases hempty : a = "" <;> simp [hempty]

/-! ### Assignments -/

lemma unmarked_assignment (h : Text.Unmarked e.1 ∧ Text.Unmarked e.2) :
    Text.Unmarked (assignment e) := by
  obtain ⟨⟨hquote, hslash⟩, hquote', hslash'⟩ := h
  constructor <;> simp [assignment, *]

lemma solid_assignment_iff : Solid (assignment e) ↔ Solid e.1 ∧ Solid e.2 := by
  have hequals : '=' ∉ whiteSpace := by decide
  simp only [Solid, assignment, String.toList_append, List.forall_mem_append]
  constructor
  · exact fun h => ⟨h.1.1, h.2⟩
  · exact fun h => ⟨⟨h.1, by simpa using hequals⟩, h.2⟩

lemma wordsFrom_assignments (h : ∀ e ∈ es, Text.Unmarked e.1 ∧ Text.Unmarked e.2)
    (rest : List Char) :
    wordsFrom false none (joinLines ((es.flatMap fun e => (assignment e ++ " ").toList) ++ rest)) =
      (es.flatMap fun e => wordsFrom false none (assignment e).toList) ++
        wordsFrom false none (joinLines rest) := by
  have hspace : ' ' ∈ whiteSpace := by decide
  induction es with
  | nil => rfl
  | cons e es ih =>
    obtain ⟨he, hes⟩ := List.forall_mem_cons.1 h
    have hunmarked := unmarked_assignment he
    have hchars : ∀ cs, (assignment e ++ " ").toList ++ cs = (assignment e).toList ++ ' ' :: cs :=
      fun cs => by simp
    rw [List.flatMap_cons, List.append_assoc, hchars, Text.joinLines_append hunmarked.2,
      Text.joinLines_cons (by decide), Text.wordsFrom_append_blank hunmarked.1 hspace, ih hes,
      List.flatMap_cons, List.append_assoc]

/-! ### The whole text -/

lemma toList_text (p : Plan) : p.text.toList =
    (p.environment.entries.flatMap fun e => (assignment e ++ " ").toList) ++
      (p.program.toList ++ p.arguments.flatMap fun a => (argumentText a).toList) := by
  simp only [text, assignment, String.toList_append, String.toList_join, List.flatMap_map,
    List.append_assoc]

/-- **Reading a plan**: the words of its text are those of the assignments and of the program, and
the arguments that are not empty. -/
theorem words_text (h : p.Unmarked) : words p.text =
    p.environment.entries.flatMap (fun e => words (assignment e)) ++
      (words p.program ++ p.arguments.filter (· ≠ "")) := by
  have hassignments : ∀ e ∈ p.environment.entries, words (assignment e) =
      (wordsFrom false none (assignment e).toList).map String.ofList := fun e he =>
    Text.words_eq (unmarked_assignment (h.environment e he))
  have hread : wordsFrom false none (joinLines p.text.toList) =
      (p.environment.entries.flatMap fun e => wordsFrom false none (assignment e).toList) ++
        (wordsFrom false none p.program.toList ++
          (p.arguments.filter (· ≠ "")).map String.toList) := by
    rw [toList_text, wordsFrom_assignments h.environment, Text.joinLines_append h.program.2,
      Text.wordsFrom_append h.program.1 (mem_whiteSpace_of_mem_head? h.arguments),
      wordsFrom_arguments h.arguments]
    rfl
  rw [words, hread, Text.words_eq h.program, List.flatMap_congr hassignments]
  simp [List.map_flatMap]

/-! ### Legible plans -/

lemma words_append_eq_cons_iff (h : Text.Unmarked a) (hne : words a ≠ []) :
    words a ++ xs = a :: ys ↔ Solid a ∧ xs = ys := by
  constructor
  · intro heq
    obtain ⟨w, ws, hwords⟩ := List.exists_cons_of_ne_nil hne
    rw [hwords, List.cons_append, List.cons.injEq] at heq
    have hsolid : Solid a := Text.solid_of_mem_words h (by rw [hwords, heq.1]; simp)
    have hsingle : words a = [a] := by
      rw [Text.words_of_solid h hsolid] at hne ⊢
      simpa using hne
    rw [hwords, List.cons.injEq] at hsingle
    rw [hsingle.2, List.nil_append] at heq
    exact ⟨hsolid, heq.2⟩
  · rintro ⟨hsolid, rfl⟩
    have hne' : a ≠ "" := by
      rintro rfl
      exact hne rfl
    rw [(Text.words_eq_singleton_iff h).2 ⟨hne', hsolid⟩, List.singleton_append]

lemma flatMap_words_append_iff (h : ∀ e ∈ es, Text.Unmarked e.1 ∧ Text.Unmarked e.2) :
    es.flatMap (fun e => words (assignment e)) ++ xs = es.map assignment ++ ys ↔
      (∀ e ∈ es, Solid e.1 ∧ Solid e.2) ∧ xs = ys := by
  induction es with
  | nil => simp
  | cons e es ih =>
    obtain ⟨he, hes⟩ := List.forall_mem_cons.1 h
    have hequals : '=' ∈ (assignment e).toList := by simp [assignment]
    have hne : words (assignment e) ≠ [] :=
      Text.words_ne_nil (unmarked_assignment he) hequals (by decide)
    rw [List.flatMap_cons, List.append_assoc, List.map_cons, List.cons_append,
      words_append_eq_cons_iff (unmarked_assignment he) hne, ih hes, solid_assignment_iff,
      List.forall_mem_cons, and_assoc (a := Solid e.1 ∧ Solid e.2)]

/-- A program is read back in front of its arguments exactly if it is a word, and none of the
arguments has been lost. -/
lemma words_program_iff (h : Text.Unmarked a) : words a ++ as.filter (· ≠ "") = a :: as ↔
    (a ≠ "" ∧ Solid a) ∧ "" ∉ as := by
  by_cases hblank : words a = []
  · -- without a word for the program there are too few words
    have hlength : (as.filter (· ≠ "")).length ≤ as.length := List.length_filter_le _ _
    refine iff_of_false (fun heq => ?_) fun hword => ?_
    · have hlengths := congrArg List.length heq
      rw [hblank, List.nil_append, List.length_cons] at hlengths
      omega
    · rw [(Text.words_eq_singleton_iff h).2 hword.1] at hblank
      cases hblank
  · have hne : a ≠ "" := by
      rintro rfl
      exact hblank rfl
    have hkept : as.filter (· ≠ "") = as ↔ "" ∉ as := by
      rw [List.filter_eq_self]
      simp only [decide_eq_true_eq]
      exact ⟨fun hall hmem => hall "" hmem rfl, fun hmem a ha heq => hmem (heq ▸ ha)⟩
    rw [words_append_eq_cons_iff h hblank, hkept, and_iff_right hne]

/-- **Shown commands**: in a plan without double quotes and backslashes, the text is read back as
the words of the command exactly if only arguments have white space, and neither an argument nor
the program is empty. -/
theorem words_text_eq_command_iff (h : p.Unmarked) : words p.text = p.command ↔ p.Legible := by
  rw [words_text h, command, flatMap_words_append_iff h.environment, words_program_iff h.program]
  exact ⟨fun ⟨henvironment, hprogram, harguments⟩ => ⟨henvironment, hprogram, harguments⟩,
    fun hp => ⟨hp.environment, hp.program, hp.arguments⟩⟩

/-- The arguments have spaces, line breaks and white space at their ends. -/
def legibleSample : Plan where
  program := "python3"
  arguments := ["-m", "  trainer.main", "note='first\n\tsecond'", "\u3000"]
  environment := .ofList [("RAY_DEDUP_LOGS", "0"), ("NAME", "")]

theorem words_text_legibleSample : legibleSample.Unmarked ∧ words legibleSample.text =
    ["NAME=", "RAY_DEDUP_LOGS=0", "python3", "-m", "  trainer.main", "note='first\n\tsecond'",
      "\u3000"] := by
  have hunmarked : legibleSample.Unmarked := ⟨by decide, by decide, by decide⟩
  have hlegible : legibleSample.Legible := ⟨by decide, by decide, by decide⟩
  exact ⟨hunmarked, (words_text_eq_command_iff hunmarked).2 hlegible⟩

def namedSettings : Settings := { Settings.standard with
  program := "train"
  arguments := []
  useDefaults := false
  environment := .ofList [("RUN_NAME", "first run")] }

def namedInputs : Inputs :=
  ⟨⟨"train_files"⟩, ⟨"val_files"⟩, ⟨"tool_config"⟩, ⟨"interaction_config"⟩⟩

def namedPlan : Plan where
  program := "train"
  arguments := [
    "actor_rollout_ref.rollout.multi_turn.interaction_config_path=interaction_config",
    "actor_rollout_ref.rollout.multi_turn.tool_config_path=tool_config",
    "data.train_files=train_files", "data.val_files=val_files"]
  environment := .ofList [("RUN_NAME", "first run")]

/-- A value with a space is read back as two words, and the second of them stands in the place of
the program. -/
theorem words_text_named : namedSettings.plan? namedInputs = some namedPlan ∧
    namedPlan.Unmarked ∧
    words namedPlan.text = "RUN_NAME=first" :: "run" :: "train" :: namedPlan.arguments ∧
    namedPlan.command = "RUN_NAME=first run" :: "train" :: namedPlan.arguments ∧
    words namedPlan.text ≠ namedPlan.command := by
  have hunmarked : namedPlan.Unmarked := ⟨by decide, by decide, by decide +kernel⟩
  have hwords : words namedPlan.text =
      "RUN_NAME=first" :: "run" :: "train" :: namedPlan.arguments := by
    rw [words_text hunmarked]
    decide +kernel
  have hcommand : namedPlan.command = "RUN_NAME=first run" :: "train" :: namedPlan.arguments := rfl
  refine ⟨by decide +kernel, hunmarked, hwords, hcommand, ?_⟩
  rw [hwords, hcommand]
  decide

end TaskCorpus.Launch.Plan
