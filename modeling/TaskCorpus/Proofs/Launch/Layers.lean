import TaskCorpus.Launch.Plan
import TaskCorpus.Proofs.KeyMap.Entries
import TaskCorpus.Proofs.Text.Blank
import TaskCorpus.Proofs.Text.Bytes

/-!
The layers of a launch plan.

An override has the value of the topmost layer that sets its key: the settings, the inputs, and
the reference run if it is a layer. A plan has one argument for each key that any layer sets, in
the order of the bytes of the keys, and so the keys can be cut off the arguments again.
-/

namespace TaskCorpus.Launch

/-- The keys that name the inputs, in the order of `Inputs.paths`. -/
def inputKeys : List String := [
  "data.train_files", "data.val_files", "actor_rollout_ref.rollout.multi_turn.tool_config_path",
  "actor_rollout_ref.rollout.multi_turn.interaction_config_path"]

def Inputs.file? (i : Inputs) (key : String) : Option Path := findEntry key (inputKeys.zip i.paths)

namespace Settings

/-- The value of a key in the topmost layer that sets it. -/
def overrideOf? (s : Settings) (i : Inputs) (key : String) : Option Value :=
  (s.overrides.find? key).or (((i.file? key).map fun p => .string p.text).or
    (if s.useDefaults then standardOverrides.find? key else none))

/-- The value of a variable in the topmost layer that sets it. -/
def variableOf? (s : Settings) (name : String) : Option String :=
  (s.environment.find? name).or
    (if s.useDefaults then standardEnvironment.find? name else none)

end Settings

/-- What stands in front of the first equals sign. -/
def beforeEquals (argument : String) : String :=
  String.ofList (argument.toList.takeWhile (· ≠ '='))

/-- What the arguments of a plan set, without those in front. -/
def Plan.keysAfter (plan : Plan) (front : List String) : List String :=
  (plan.arguments.drop front.length).map beforeEquals

variable {s : Settings} {i : Inputs} {key : String} {v : Value} {plan : Plan}

lemma beforeEquals_override (h : '=' ∉ key.toList) (v : Value) :
    beforeEquals (override key v) = key := by
  have hkey : ∀ c ∈ key.toList, decide (c ≠ '=') = true := fun c hc => by
    rw [decide_eq_true_eq]
    rintro rfl
    exact h hc
  have hequals : ("=" ++ v.render).toList.takeWhile (· ≠ '=') = [] := by
    rw [String.toList_append, show "=".toList = ['='] from rfl, List.cons_append,
      List.takeWhile_cons_of_neg (by simp)]
  rw [beforeEquals, override, String.append_assoc, String.toList_append,
    List.takeWhile_append_of_pos hkey, hequals, List.append_nil, String.ofList_toList]

/-! ### Looking up -/

lemma Inputs.file?_eq_some_iff {p : Path} :
    i.file? key = some p ↔ (key, p) ∈ inputKeys.zip i.paths := by
  have hkeys : (inputKeys.zip i.paths).map (·.1) = inputKeys := rfl
  exact findEntry_eq_some_of_nodup (by rw [hkeys]; decide)

lemma Inputs.mem_inputKeys_iff (i : Inputs) : key ∈ inputKeys ↔ ∃ p, i.file? key = some p := by
  have hkeys : inputKeys = (inputKeys.zip i.paths).map (·.1) := rfl
  rw [hkeys]
  simp only [file?_eq_some_iff, List.mem_map, Prod.exists, exists_and_right, exists_eq_right]

lemma Inputs.mem_paths_iff {p : Path} : p ∈ i.paths ↔ ∃ key, i.file? key = some p := by
  have hpaths : i.paths = (inputKeys.zip i.paths).map (·.2) := rfl
  rw [hpaths]
  simp only [file?_eq_some_iff, List.mem_map, Prod.exists, exists_eq_right]

lemma findEntry_overrides (i : Inputs) (key : String) :
    findEntry key i.overrides = (i.file? key).map fun p => .string p.text :=
  findEntry_map (fun p : Path => Value.string p.text) key (inputKeys.zip i.paths)

lemma nodup_keys_overrides (i : Inputs) : (i.overrides.map (·.1)).Nodup := by
  simp only [Inputs.overrides, List.map_cons, List.map_nil]
  decide

namespace Settings

lemma find?_effectiveOverrides (s : Settings) (i : Inputs) (key : String) :
    (s.effectiveOverrides i).find? key = s.overrideOf? i key := by
  have hbase : (if s.useDefaults then standardOverrides else .empty).find? key =
      if s.useDefaults then standardOverrides.find? key else none := by
    split <;> rfl
  rw [effectiveOverrides, KeyMap.find?_insertAll_entries,
    KeyMap.find?_insertAll _ (nodup_keys_overrides i), findEntry_overrides, hbase]
  rfl

lemma find?_effectiveEnvironment (s : Settings) (name : String) :
    s.effectiveEnvironment.find? name = s.variableOf? name := by
  have hbase : (if s.useDefaults then standardEnvironment else .empty).find? name =
      if s.useDefaults then standardEnvironment.find? name else none := by
    split <;> rfl
  rw [effectiveEnvironment, KeyMap.find?_insertAll_entries, hbase]
  rfl

lemma not_mem_equals_standard (h : key ∈ standardOverrides.keys) : '=' ∉ key.toList := by
  have hbytes : ∀ key ∈ standardOverrides.keys, 61 ∉ Text.bytes key := by
    intro key hkey
    rw [standardOverrides, KeyMap.mem_keys_ofList] at hkey
    revert key
    simp only [List.map_cons, List.map_nil]
    decide +kernel
  exact fun hmem => hbytes key h (Text.mem_bytes hmem 61 (by decide))

lemma not_mem_equals (h : ∀ key ∈ s.overrides.keys, '=' ∉ key.toList)
    (hkey : s.overrideOf? i key = some v) : '=' ∉ key.toList := by
  have hinputs : ∀ key ∈ i.overrides.map (·.1), 61 ∉ Text.bytes key := by
    simp only [Inputs.overrides, List.map_cons, List.map_nil]
    decide +kernel
  rw [overrideOf?, ← findEntry_overrides, Option.or_eq_some_iff, Option.or_eq_some_iff] at hkey
  rcases hkey with hset | ⟨-, hinput | ⟨-, hbase⟩⟩
  · exact h key (KeyMap.mem_keys_iff.2 ⟨v, hset⟩)
  · have hmem := (findEntry_eq_some_of_nodup (nodup_keys_overrides i)).1 hinput
    exact fun hc => hinputs key (List.mem_map.2 ⟨_, hmem, rfl⟩) (Text.mem_bytes hc 61 (by decide))
  · split at hbase
    · exact not_mem_equals_standard (KeyMap.mem_keys_iff.2 ⟨v, hbase⟩)
    · cases hbase

/-! ### Plans -/

lemma plan?_eq_none_iff : s.plan? i = none ↔ Text.Blank s.program := by
  rw [← Text.isBlank_iff, plan?]
  split <;> simp_all

lemma plan?_eq_some (h : s.plan? i = some plan) :
    plan = ⟨s.program, s.arguments ++ (s.effectiveOverrides i).entries.map (fun o =>
      override o.1 o.2), s.effectiveEnvironment⟩ := by
  rw [plan?] at h
  split at h
  · cases h
  · exact (Option.some.inj h).symm

lemma arguments_plan (h : s.plan? i = some plan) :
    plan.arguments =
      s.arguments ++ (s.effectiveOverrides i).entries.map fun o => override o.1 o.2 := by
  rw [plan?_eq_some h]

lemma keysAfter_plan (h : ∀ key ∈ s.overrides.keys, '=' ∉ key.toList)
    (hplan : s.plan? i = some plan) :
    plan.keysAfter s.arguments = (s.effectiveOverrides i).keys := by
  rw [Plan.keysAfter, arguments_plan hplan, List.drop_left, List.map_map, KeyMap.keys]
  refine List.map_congr_left fun o ho => ?_
  have hfind := KeyMap.mem_entries_iff.1 ho
  rw [find?_effectiveOverrides] at hfind
  exact beforeEquals_override (not_mem_equals h hfind) o.2

/-- A plan that is made of the layers. The arguments of the settings are followed by one override
for each key that a layer sets, in increasing order of the bytes of the keys; the variables are
those that a layer sets; and unless the settings have a key with an equals sign, the keys are what
stands in front of the first equals signs of the overrides. -/
structure Layered (s : Settings) (i : Inputs) (plan : Plan) : Prop where
  program : plan.program = s.program
  arguments : ∃ overrides : List (String × Value),
    plan.arguments = s.arguments ++ overrides.map (fun o => override o.1 o.2) ∧
    overrides.Pairwise (fun o o' => Text.Before o.1 o'.1) ∧
    ∀ key v, (key, v) ∈ overrides ↔ s.overrideOf? i key = some v
  environment : ∀ name, plan.environment.find? name = s.variableOf? name
  keys : (∀ key ∈ s.overrides.keys, '=' ∉ key.toList) →
    (plan.keysAfter s.arguments).Pairwise Text.Before ∧ (plan.keysAfter s.arguments).Nodup ∧
      ∀ key, key ∈ plan.keysAfter s.arguments ↔ ∃ v, s.overrideOf? i key = some v

/-- **Plans**: settings have no plan exactly if their program is blank, and otherwise their plan is
made of the layers. -/
theorem plan_layered (s : Settings) (i : Inputs) :
    (s.plan? i = none ↔ Text.Blank s.program) ∧
      ∀ plan, s.plan? i = some plan → Layered s i plan := by
  refine ⟨plan?_eq_none_iff, fun plan hplan => ?_⟩
  have hfound : ∀ key v, (key, v) ∈ (s.effectiveOverrides i).entries ↔
      s.overrideOf? i key = some v := fun key v => by
    rw [KeyMap.mem_entries_iff, find?_effectiveOverrides]
  have hbefore : (s.effectiveOverrides i).entries.Pairwise fun o o' => Text.Before o.1 o'.1 :=
    (s.effectiveOverrides i).increasing.imp Text.before_of_lt
  constructor
  · rw [plan?_eq_some hplan]
  · exact ⟨_, arguments_plan hplan, hbefore, hfound⟩
  · intro name
    rw [plan?_eq_some hplan, find?_effectiveEnvironment]
  · intro h
    rw [keysAfter_plan h hplan]
    refine ⟨List.pairwise_map.2 hbefore, KeyMap.nodup_keys _, fun key => ?_⟩
    simp only [KeyMap.mem_keys_iff, find?_effectiveOverrides]

def sampleSettings : Settings := { standard with
  arguments := ["train"]
  overrides := .ofList [("data.train_files", .string "/other.parquet"), ("seed", .integer 7)]
  environment := .ofList [("RAY_DEDUP_LOGS", "1")] }

def sampleInputs : Inputs :=
  ⟨⟨"/data/train.parquet"⟩, ⟨"/data/test.parquet"⟩, ⟨"/data/tools.yaml"⟩, ⟨"/data/user.yaml"⟩⟩

lemma exists_overrideOf?_sample :
    ∃ v, sampleSettings.overrideOf? sampleInputs "algorithm.adv_estimator" = some v := by
  have hset : sampleSettings.overrides.find? "algorithm.adv_estimator" = none := rfl
  have hinput : sampleInputs.file? "algorithm.adv_estimator" = none := rfl
  have hdefaults : sampleSettings.useDefaults = true := rfl
  have hmem : "algorithm.adv_estimator" ∈ standardOverrides.keys := by
    rw [standardOverrides, KeyMap.mem_keys_ofList]
    exact List.mem_cons_self
  obtain ⟨v, hv⟩ := KeyMap.mem_keys_iff.1 hmem
  refine ⟨v, ?_⟩
  rw [overrideOf?, hset, hinput, hdefaults, Option.map_none, Option.none_or, Option.none_or,
    if_pos rfl, hv]

theorem plan_layered_sample : ∃ plan, sampleSettings.plan? sampleInputs = some plan ∧
    (∀ key ∈ sampleSettings.overrides.keys, '=' ∉ key.toList) ∧
    "data.train_files=/other.parquet" ∈ plan.arguments ∧
    "data.val_files=/data/test.parquet" ∈ plan.arguments ∧
    plan.environment.find? "RAY_DEDUP_LOGS" = some "1" ∧
    plan.environment.find? "HYDRA_FULL_ERROR" = some "1" ∧
    (plan.keysAfter ["train"]).Pairwise Text.Before ∧
    "algorithm.adv_estimator" ∈ plan.keysAfter ["train"] := by
  have hspec := plan_layered sampleSettings sampleInputs
  have hequals : ∀ key ∈ sampleSettings.overrides.keys, '=' ∉ key.toList := by decide
  have hblank : ¬ Text.Blank sampleSettings.program := by decide
  obtain ⟨plan, hplan⟩ := Option.ne_none_iff_exists'.1 fun h => hblank (hspec.1.1 h)
  obtain ⟨-, ⟨overrides, harguments, -, hmem⟩, henvironment, hkeys⟩ := hspec.2 plan hplan
  obtain ⟨hbefore, -, hkey⟩ := hkeys hequals
  have hargument : ∀ key v, sampleSettings.overrideOf? sampleInputs key = some v →
      override key v ∈ plan.arguments := by
    intro key v h
    rw [harguments]
    exact List.mem_append_right _ (List.mem_map.2 ⟨_, (hmem key v).2 h, rfl⟩)
  refine ⟨plan, hplan, hequals, hargument "data.train_files" (.string "/other.parquet") rfl,
    hargument "data.val_files" (.string "/data/test.parquet") rfl, ?_, ?_, hbefore,
    (hkey _).2 exists_overrideOf?_sample⟩
  · rw [henvironment]
    decide
  · rw [henvironment]
    decide

end Settings

end TaskCorpus.Launch
