import TaskCorpus.Launch.Plan
import TaskCorpus.Settings
import TaskCorpus.Store.Files

/-!
# The configuration file

One TOML file configures both the corpus and the launch of the trainer, each in a table of its
own. Both tables may be left out, and so may the file.
-/

namespace TaskCorpus

structure Configuration where
  corpus : Settings
  launch : Launch.Settings

/-- Why there is no configuration. -/
inductive ConfigurationFlaw where
  | unreadable (path : Path) (fault : Store.Fault)
  /-- The file is not TOML, or a setting has the wrong type. -/
  | malformed (path : Path)
  | unusable (flaw : SettingFlaw)
  deriving DecidableEq

def ConfigurationFlaw.message : ConfigurationFlaw → String
  | .unreadable path _ => "Failed to read config " ++ path.text
  | .malformed path => "Failed to parse config " ++ path.text
  | .unusable flaw => (Error.setting flaw).message

/-- The text of the error behind a flaw. -/
def ConfigurationFlaw.cause? : ConfigurationFlaw → Option String
  | .unreadable _ fault => some fault.message
  | .malformed _ => some Error.toml.message
  | .unusable _ => none

namespace Configuration

def standard : Configuration := ⟨.standard, .standard⟩

def ofFields? (f : Toml.Fields) : Option Configuration := do
  some ⟨← f.defaulted 0 "preprocess" standard.corpus Settings.ofToml?,
    ← f.defaulted 1 "launch" standard.launch Launch.Settings.ofToml?⟩

/-- The configuration that the text of a file describes. -/
def parse (p : Path) (text : String) : Except ConfigurationFlaw Configuration :=
  match (Toml.readText text).bind fun t => ofFields? (.ofTable t) with
  | none => .error (.malformed p)
  | some c =>
    match c.corpus.check with
    | .error flaw => .error (.unusable flaw)
    | .ok () => .ok c

/-- Reads the configuration file, if there is one. -/
def load : Option Path → Store.Script (Except ConfigurationFlaw Configuration)
  | none => pure (.ok standard)
  | some p => do
    match ← Store.Script.perform (.read p) with
    | .error f => pure (.error (.unreadable p f))
    | .ok bytes =>
      match String.fromUTF8? bytes with
      | none => pure (.error (.unreadable p .notText))
      | some text => pure (parse p text)

end Configuration

/-- Reads a file of corpus settings. -/
def Settings.load (p : Path) : Program Settings := do
  let text ← Store.readText p
  Program.ofExcept (Settings.ofText text)

end TaskCorpus
