import TaskCorpus.Launch.Value
import TaskCorpus.Path
import TaskCorpus.Text.Blank

/-!
# Launch plans

The trainer is an external program whose configuration is set by overrides on its command line.
The overrides of a plan come from three layers, each over the one before: the reference run, the
files of the corpus, and the settings.
-/

namespace TaskCorpus.Launch

structure Settings where
  program : String
  /-- Arguments before the overrides. -/
  arguments : List String
  /-- Whether the reference run is the lowest layer. -/
  useDefaults : Bool
  overrides : KeyMap String Value
  environment : KeyMap String String

/-- The files of a corpus that the trainer reads. -/
structure Inputs where
  trainFile : Path
  validationFile : Path
  toolConfig : Path
  interactionConfig : Path
  deriving DecidableEq

/-- A command line with its environment. -/
structure Plan where
  program : String
  arguments : List String
  environment : KeyMap String String
  deriving DecidableEq

namespace Settings

def standard : Settings where
  program := "python3"
  arguments := ["-m", "verl.trainer.main_ppo", "--config-path=config",
    "--config-name=tau_retail_multiturn_grpo"]
  useDefaults := true
  overrides := .empty
  environment := .empty

/-- A decimal fraction as a float. -/
def fraction (digits : Nat) (exponent : Int) : Value := .float (.ofDecimal false digits exponent)

/-- The overrides of the reference run. -/
def standardOverrides : KeyMap String Value := .ofList [
  ("algorithm.adv_estimator", .string "grpo"),
  ("algorithm.use_kl_in_reward", .boolean false),
  ("data.train_batch_size", .integer 64),
  ("data.max_prompt_length", .integer 2048),
  ("data.max_response_length", .integer 4096),
  ("data.filter_overlong_prompts", .boolean true),
  ("data.truncation", .string "error"),
  ("data.return_raw_chat", .boolean true),
  ("actor_rollout_ref.model.path", .string "Qwen/Qwen2.5-7B-Instruct"),
  ("actor_rollout_ref.model.use_remove_padding", .boolean true),
  ("actor_rollout_ref.model.enable_gradient_checkpointing", .boolean true),
  ("actor_rollout_ref.actor.strategy", .string "megatron"),
  ("actor_rollout_ref.actor.optim.lr", fraction 1 (-6)),
  ("actor_rollout_ref.actor.ppo_mini_batch_size", .integer 16),
  ("actor_rollout_ref.actor.ppo_micro_batch_size_per_gpu", .integer 2),
  ("actor_rollout_ref.actor.use_kl_loss", .boolean true),
  ("actor_rollout_ref.actor.kl_loss_coef", fraction 1 (-3)),
  ("actor_rollout_ref.actor.kl_loss_type", .string "low_var_kl"),
  ("actor_rollout_ref.actor.entropy_coeff", .integer 0),
  ("actor_rollout_ref.actor.megatron.tensor_model_parallel_size", .integer 2),
  ("actor_rollout_ref.actor.megatron.pipeline_model_parallel_size", .integer 2),
  ("actor_rollout_ref.ref.megatron.tensor_model_parallel_size", .integer 2),
  ("actor_rollout_ref.ref.megatron.pipeline_model_parallel_size", .integer 2),
  ("actor_rollout_ref.ref.log_prob_micro_batch_size_per_gpu", .integer 4),
  ("actor_rollout_ref.rollout.name", .string "sglang"),
  ("actor_rollout_ref.rollout.tensor_model_parallel_size", .integer 2),
  ("actor_rollout_ref.rollout.gpu_memory_utilization", fraction 5 (-1)),
  ("actor_rollout_ref.rollout.n", .integer 8),
  ("actor_rollout_ref.rollout.log_prob_micro_batch_size_per_gpu", .integer 4),
  ("actor_rollout_ref.rollout.multi_turn.enable", .boolean true),
  ("actor_rollout_ref.rollout.multi_turn.format", .string "hermes"),
  ("actor_rollout_ref.rollout.multi_turn.max_assistant_turns", .integer 30),
  ("actor_rollout_ref.rollout.multi_turn.max_user_turns", .integer 30),
  ("reward_model.reward_manager", .string "tau_retail"),
  ("trainer.logger", .list [.string "console", .string "wandb"]),
  ("trainer.project_name", .string "tau_retail"),
  ("trainer.experiment_name", .string "qwen2.5-7b_grpo_multiturn"),
  ("trainer.critic_warmup", .integer 0),
  ("trainer.n_gpus_per_node", .integer 8),
  ("trainer.nnodes", .integer 1),
  ("trainer.save_freq", .integer (-1)),
  ("trainer.test_freq", .integer 10),
  ("trainer.total_epochs", .integer 15)]

/-- The environment of the reference run. -/
def standardEnvironment : KeyMap String String := .ofList [
  ("CUDA_DEVICE_MAX_CONNECTIONS", "1"), ("HYDRA_FULL_ERROR", "1"), ("PYTHONUNBUFFERED", "1"),
  ("RAY_DEDUP_LOGS", "0")]

end Settings

namespace Inputs

def paths (i : Inputs) : List Path :=
  [i.trainFile, i.validationFile, i.toolConfig, i.interactionConfig]

/-- The overrides that name the files. -/
def overrides (i : Inputs) : List (String × Value) := [
  ("data.train_files", .string i.trainFile.text),
  ("data.val_files", .string i.validationFile.text),
  ("actor_rollout_ref.rollout.multi_turn.tool_config_path", .string i.toolConfig.text),
  ("actor_rollout_ref.rollout.multi_turn.interaction_config_path",
    .string i.interactionConfig.text)]

end Inputs

namespace Settings

/-- All overrides: those of the settings over those of the inputs over those of the reference
run. -/
def effectiveOverrides (s : Settings) (i : Inputs) : KeyMap String Value :=
  let base := if s.useDefaults then standardOverrides else .empty
  (base.insertAll i.overrides).insertAll s.overrides.entries

def effectiveEnvironment (s : Settings) : KeyMap String String :=
  let base := if s.useDefaults then standardEnvironment else .empty
  base.insertAll s.environment.entries

/-- The plan for the given files. There has to be a program. -/
def plan? (s : Settings) (i : Inputs) : Option Plan :=
  if Text.isBlank s.program then none
  else some {
    program := s.program
    arguments := s.arguments ++ (s.effectiveOverrides i).entries.map fun e => override e.1 e.2
    environment := s.effectiveEnvironment }

def ofFields? (f : Toml.Fields) : Option Settings := do
  let d := standard
  some {
    program := ← f.defaulted 0 "program" d.program Toml.Value.string?
    arguments := ← f.defaulted 1 "args" d.arguments (Toml.Value.list? Toml.Value.string?)
    useDefaults := ← f.defaulted 2 "use_defaults" d.useDefaults Toml.Value.boolean?
    overrides := ← f.defaulted 3 "overrides" d.overrides (Toml.Value.map? Value.ofToml?)
    environment := ← f.defaulted 4 "env" d.environment (Toml.Value.map? Toml.Value.string?) }

/-- The settings that a value describes. -/
def ofToml? (v : Toml.Value) : Option Settings := do ofFields? (← Toml.Fields.ofValue? v)

/-- The settings that a TOML document describes. -/
def ofText? (text : String) : Option Settings := do
  ofFields? (.ofTable (← Toml.readText text))

end Settings

namespace Plan

/-- An argument on a line of its own, between double quotes if it has blanks. -/
def argumentText (a : String) : String :=
  if a.toList.any Text.isBlankChar then " \\\n    \"" ++ a ++ "\"" else " \\\n    " ++ a

/-- The command line over several lines, the environment first. -/
def text (p : Plan) : String :=
  String.join (p.environment.entries.map fun e => e.1 ++ "=" ++ e.2 ++ " ") ++ p.program ++
    String.join (p.arguments.map argumentText)

end Plan

end TaskCorpus.Launch
