import TaskCorpus.Corpus
import TaskCorpus.Proofs.Record.Built
import TaskCorpus.Proofs.Store.Execution
import TaskCorpus.Proofs.Task.Usable

/-!
When the records of a split are built, and what is said otherwise.

Records are built exactly if there are tasks and all of them can be used. Otherwise the first task
that cannot be used is reported, with its id and its first flaw, whatever comes after it; and where
a file was to be written, nothing is done at all.
-/

namespace TaskCorpus.Record

open Store (Desk)

variable {split : Split} {ctx : Context} {ts : List Task} {t : Task} {n : Nat} {error : Error}
  {rs : List Record}

inductive FirstUnusable (split : Split) (ctx : Context) (ts : List Task) : Error → Prop
  | mk {before after : List Task} {t : Task} {flaw : TaskFlaw} (cut : ts = before ++ t :: after)
      (usable : ∀ u ∈ before, u.check ctx.catalog ctx.strict = .ok ())
      (first : t.FirstFlaw ctx.catalog ctx.strict flaw) :
      FirstUnusable split ctx ts (.task (t.resolvedId split before.length) flaw)

lemma buildFrom_cons : buildFrom split ctx n (t :: ts) =
    match t.check ctx.catalog ctx.strict with
    | .error flaw => .error (.task (t.resolvedId split n) flaw)
    | .ok () => (buildFrom split ctx (n + 1) ts).map (build t split n ctx :: ·) := by
  rw [buildFrom, ofTask]
  rcases t.check ctx.catalog ctx.strict with flaw | ⟨⟩
  · rfl
  · rcases buildFrom split ctx (n + 1) ts with e | rs <;> rfl

lemma exists_buildFrom_iff : (∃ rs, buildFrom split ctx n ts = .ok rs) ↔
    ∀ t ∈ ts, t.check ctx.catalog ctx.strict = .ok () := by
  induction ts generalizing n with
  | nil => simp [buildFrom]
  | cons t ts ih =>
    rw [buildFrom_cons, List.forall_mem_cons, ← ih]
    rcases t.check ctx.catalog ctx.strict with flaw | ⟨⟩
    · simp
    · rcases buildFrom split ctx (n + 1) ts with e | rs <;> simp [Except.map]

lemma map_eq_error_iff {α β ε : Type} {r : Except ε α} {f : α → β} {e : ε} :
    r.map f = .error e ↔ r = .error e := by
  cases r <;> simp [Except.map]

lemma buildFrom_eq_error_iff : buildFrom split ctx n ts = .error error ↔
    First (fun t => t.check ctx.catalog ctx.strict = .ok ())
      (fun i t => ∃ flaw, t.check ctx.catalog ctx.strict = .error flaw ∧
        error = .task (t.resolvedId split (n + i)) flaw) ts := by
  induction ts generalizing n with
  | nil => simp [buildFrom, not_first_nil]
  | cons t ts ih =>
    rw [buildFrom_cons, first_cons]
    rcases t.check ctx.catalog ctx.strict with flaw | ⟨⟩
    · simp [eq_comm]
    · simp [map_eq_error_iff, ih, Nat.add_assoc, Nat.add_comm 1]

lemma buildAll_of_ne_nil (h : ts ≠ []) : buildAll ts split ctx = buildFrom split ctx 0 ts := by
  rw [buildAll, if_neg (by simpa using h)]

lemma buildAll_eq_ok_iff : buildAll ts split ctx = .ok rs ↔ ts ≠ [] ∧
    (∀ t ∈ ts, t.check ctx.catalog ctx.strict = .ok ()) ∧
    rs = ts.mapIdx fun i t => build t split i ctx := by
  constructor
  · intro h
    obtain ⟨hne, hrs⟩ := buildAll_eq_ok h
    rw [buildAll_of_ne_nil hne] at h
    exact ⟨hne, exists_buildFrom_iff.1 ⟨rs, h⟩, hrs⟩
  · rintro ⟨hne, haccepted, hrs⟩
    obtain ⟨rs', h⟩ := exists_buildFrom_iff.2 haccepted
    rw [← buildAll_of_ne_nil hne] at h
    rw [h, hrs, (buildAll_eq_ok h).2]

lemma firstUnusable_iff : FirstUnusable split ctx ts error ↔
    buildFrom split ctx 0 ts = .error error := by
  rw [buildFrom_eq_error_iff]
  constructor
  · rintro ⟨cut, usable, first⟩
    exact ⟨_, _, _, cut, usable, _, Task.check_eq_error_iff.2 first, by rw [Nat.zero_add]⟩
  · rintro ⟨before, t, after, hcut, husable, flaw, hflaw, rfl⟩
    rw [Nat.zero_add]
    exact .mk hcut husable (Task.check_eq_error_iff.1 hflaw)

lemma run_buildSplit (codec : Table.Codec) (h : buildAll ts split ctx = .error error)
    (dir : Path) : (Corpus.buildSplit codec ts split ctx dir).run = .done (.error error) := by
  rw [Corpus.buildSplit, h]
  rfl

/-- **All tasks or the first flaw**: the records of a split are built exactly if it has tasks and
all of them are accepted, and then the record of a task stands at its position. Otherwise the split
is said to be empty, or the first task that is not accepted is reported, and where a file was to be
written nothing is touched, at no point. -/
theorem buildAll_outcome (ts : List Task) (split : Split) (ctx : Context) :
    buildAll [] split ctx = .error (.emptySplit split) ∧
    (ts ≠ [] → ((∃ rs, buildAll ts split ctx = .ok rs) ↔
      ∀ t ∈ ts, t.check ctx.catalog ctx.strict = .ok ())) ∧
    (∀ rs, buildAll ts split ctx = .ok rs → rs.length = ts.length ∧
      ∀ (i : Nat) (t : Task), ts[i]? = some t →
        ∃ r, rs[i]? = some r ∧ ofTask t split i ctx = .ok r) ∧
    (ts ≠ [] → ∀ error, buildAll ts split ctx = .error error ↔ FirstUnusable split ctx ts error) ∧
    ∀ error, buildAll ts split ctx = .error error →
      ∀ (codec : Table.Codec) (dir : Path) (here : Location) (d : Desk here),
        (Corpus.buildSplit codec ts split ctx dir).run.run d = (.error error, d) ∧
        ∀ p e, (Corpus.buildSplit codec ts split ctx dir).run.Reaches d p e → e = d := by
  refine ⟨rfl, fun hne => ?_, fun rs h => ?_, fun hne error => ?_,
    fun error h codec dir here d => ?_⟩
  · rw [buildAll_of_ne_nil hne, exists_buildFrom_iff]
  · obtain ⟨-, haccepted, rfl⟩ := buildAll_eq_ok_iff.1 h
    refine ⟨List.length_mapIdx, fun i t ht => ⟨build t split i ctx, ?_, ?_⟩⟩
    · rw [List.getElem?_mapIdx, ht]
      rfl
    · exact ofTask_eq_ok.2 ⟨haccepted t (List.mem_of_getElem? ht), rfl⟩
  · rw [buildAll_of_ne_nil hne, firstUnusable_iff]
  · -- records that are not built are not written
    rw [run_buildSplit codec h]
    exact ⟨rfl, fun p e => Store.Script.eq_of_reaches_done⟩

/-! ### A split with several flaws -/

def replyTask : Task := ⟨none, "ann", "hello", [⟨"respond", []⟩], []⟩

/-- A task that is accepted, one with two actions that are not, and one without a customer. -/
def mixedTasks : List Task :=
  [replyTask,
    ⟨some "b", "bob", "hi", [⟨"get_user_details", [("user_id", .string "bob")]⟩, ⟨"fly", []⟩,
      ⟨"get_user_details", []⟩], []⟩,
    ⟨none, " \t", "bye", [], []⟩]

def mixedError : Error := .task "b" (.action 1 (.unknown "fly"))

theorem buildAll_outcome_sample :
    (∃ r, buildAll [replyTask] .train .standard = .ok [r] ∧
      ofTask replyTask .train 0 .standard = .ok r) ∧
    buildAll mixedTasks .train .standard = .error mixedError ∧
    FirstUnusable .train .standard mixedTasks mixedError ∧
    ∀ codec here (d : Desk here),
      (Corpus.buildSplit codec mixedTasks .train .standard ⟨"out"⟩).run.run d =
        (.error mixedError, d) := by
  have hreply : ∀ t ∈ [replyTask], t.check Context.standard.catalog Context.standard.strict =
      .ok () := by decide +kernel
  have herror : buildAll mixedTasks .train .standard = .error mixedError := by decide +kernel
  obtain ⟨-, hok, hrecords, -, -⟩ := buildAll_outcome [replyTask] .train .standard
  obtain ⟨-, -, -, hfirst, hkeeps⟩ := buildAll_outcome mixedTasks .train .standard
  refine ⟨?_, herror, (hfirst (List.cons_ne_nil _ _) _).1 herror,
    fun codec here d => (hkeeps _ herror codec ⟨"out"⟩ here d).1⟩
  obtain ⟨rs, hrs⟩ := (hok (List.cons_ne_nil _ _)).2 hreply
  obtain ⟨hlength, hat⟩ := hrecords rs hrs
  obtain ⟨r, hr, hbuilt⟩ := hat 0 replyTask rfl
  obtain ⟨x, rfl⟩ := List.length_eq_one_iff.1 hlength
  cases hr
  exact ⟨_, hrs, hbuilt⟩

end TaskCorpus.Record
