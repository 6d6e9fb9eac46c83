import TaskCorpus.Record
import TaskCorpus.Rollout
import TaskCorpus.Selection
import TaskCorpus.Toml.Decode

/-!
# Settings of a run

What is made from which task files, and where it is written. Every setting has a default, so an
empty file gives the reference run.
-/

namespace TaskCorpus

structure Settings where
  /-- The directory of the split files and the manifest. -/
  outputDir : Path
  /-- A directory that gets a copy of every file written. -/
  mirrorDir : Option Path
  dataSource : String
  agentName : String
  ability : String
  interactionName : String
  /-- Whether only actions that change the database are accepted. -/
  strict : Bool
  prompt : Prompt
  rollout : Rollout.Settings
  /-- The sources of the splits, in the order of output. -/
  splits : List Source
  deriving DecidableEq

namespace Settings

def standard : Settings where
  outputDir := ⟨"~/data/tau_retail"⟩
  mirrorDir := none
  dataSource := Context.standard.dataSource
  agentName := Context.standard.agentName
  ability := Context.standard.ability
  interactionName := Context.standard.interactionName
  strict := Context.standard.strict
  prompt := Context.standard.prompt
  rollout := .standard
  splits := [
    .whole .train ⟨"data/tau_retail/tasks_train.json"⟩,
    .whole .test ⟨"data/tau_retail/tasks_test.json"⟩]

/-- What the records of the run share. -/
def context (s : Settings) : Context where
  dataSource := s.dataSource
  agentName := s.agentName
  ability := s.ability
  interactionName := s.interactionName
  prompt := s.prompt
  catalog := Tool.Retail.catalog
  strict := s.strict

/-- The first split that an earlier source has. -/
def firstRepeated? (seen : List Split) : List Source → Option Split
  | [] => none
  | s :: ss => if seen.contains s.split then some s.split else firstRepeated? (s.split :: seen) ss

/-- A run has at least one split, and each split once. -/
def check (s : Settings) : Except SettingFlaw Unit :=
  if s.splits.isEmpty then .error .noSplits
  else
    match firstRepeated? [] s.splits with
    | some split => .error (.repeatedSplit split)
    | none => .ok ()

def toJson (s : Settings) : Json.Value :=
  .object [
    ("output_dir", .string s.outputDir.text),
    ("mirror_dir", match s.mirrorDir with
      | some p => .string p.text
      | none => .null),
    ("data_source", .string s.dataSource), ("agent_name", .string s.agentName),
    ("ability", .string s.ability), ("interaction_name", .string s.interactionName),
    ("strict_actions", .boolean s.strict), ("prompt", s.prompt.toJson),
    ("tool_config", s.rollout.toJson), ("splits", .array (s.splits.map Source.toJson))]

def path? (v : Toml.Value) : Option Path := v.string?.map Path.mk

def prompt? (v : Toml.Value) : Option Prompt := do
  let f ← Toml.Fields.ofValue? v
  let d := Prompt.standard
  some ⟨← f.defaulted 0 "system" d.system Toml.Value.string?,
    ← f.defaulted 1 "include_instruction" d.includeInstruction Toml.Value.boolean?⟩

def rollout? (v : Toml.Value) : Option Rollout.Settings := do
  let f ← Toml.Fields.ofValue? v
  let d := Rollout.Settings.standard
  some ⟨← f.defaulted 0 "class_prefix" d.classPrefix Toml.Value.string?,
    ← f.defaulted 1 "interaction_class" d.interactionClass Toml.Value.string?,
    ← f.defaulted 2 "user_model" d.userModel Toml.Value.string?,
    ← f.optional 3 "user_provider" Toml.Value.string?⟩

def source? (v : Toml.Value) : Option Source := do
  let f ← Toml.Fields.ofValue? v
  some ⟨← f.required 0 "split" (Toml.Value.variant? Split.ofName?),
    ← f.required 1 "path" path?,
    ← f.optional 2 "range" Toml.Value.pair?,
    ← f.optional 3 "ids" (Toml.Value.list? Toml.Value.string?)⟩

def ofFields? (f : Toml.Fields) : Option Settings := do
  let d := standard
  some {
    outputDir := ← f.defaulted 0 "output_dir" d.outputDir path?
    mirrorDir := ← f.optional 1 "mirror_dir" path?
    dataSource := ← f.defaulted 2 "data_source" d.dataSource Toml.Value.string?
    agentName := ← f.defaulted 3 "agent_name" d.agentName Toml.Value.string?
    ability := ← f.defaulted 4 "ability" d.ability Toml.Value.string?
    interactionName := ← f.defaulted 5 "interaction_name" d.interactionName Toml.Value.string?
    strict := ← f.defaulted 6 "strict_actions" d.strict Toml.Value.boolean?
    prompt := ← f.defaulted 7 "prompt" d.prompt prompt?
    rollout := ← f.defaulted 8 "tool_config" d.rollout rollout?
    splits := ← f.defaulted 9 "splits" d.splits (Toml.Value.list? source?) }

/-- The settings that a value describes, not checked yet. -/
def ofToml? (v : Toml.Value) : Option Settings := do ofFields? (← Toml.Fields.ofValue? v)

/-- The settings that a TOML document describes, not checked yet. -/
def ofText? (text : String) : Option Settings := do
  ofFields? (.ofTable (← Toml.readText text))

/-- The settings that a TOML document describes, checked. -/
def ofText (text : String) : Except Error Settings :=
  match ofText? text with
  | none => .error .toml
  | some s =>
    match s.check with
    | .error flaw => .error (.setting flaw)
    | .ok () => .ok s

end Settings

end TaskCorpus
