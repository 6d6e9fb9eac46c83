import TaskCorpus.CommandLine.Help
import TaskCorpus.CommandLine.Report
import TaskCorpus.Corpus
import TaskCorpus.Rollout.Files

/-!
# Running commands

Each command is a script that ends in a report.
-/

namespace TaskCorpus.CommandLine

/-- A text filled up with spaces on the right. -/
def padRight (width : Nat) (s : String) : String :=
  s ++ String.ofList (List.replicate (width - s.length) ' ')

/-- A text filled up with spaces on the left. -/
def padLeft (width : Nat) (s : String) : String :=
  String.ofList (List.replicate (width - s.length) ' ') ++ s

/-- The line about a split file. -/
def fileLine (f : Corpus.SplitFile) : String :=
  "   " ++ padRight 5 f.split.name ++ " " ++ padLeft 5 (toString f.records) ++ " records  " ++
    f.path.text ++ "\n"

/-- What a run has written. -/
def summaryText (s : Corpus.Summary) : String :=
  "Dataset written:\n" ++ String.join (s.files.map fileLine) ++
    "   manifest     " ++ s.manifest.text ++ "\n" ++
    (match s.mirroredTo with
      | some dir => "   mirrored to  " ++ dir.text ++ "\n"
      | none => "") ++
    (match s.example? with
      | some r => "\nExample record:\n" ++ r.toJson.pretty ++ "\n"
      | none => "")

variable (codec : Table.Codec)

/-- Makes the corpus. -/
def preprocess (home : Path) (s : Settings) : Store.Script Report := do
  match ← (Corpus.run codec home s).run with
  | .error e => pure (.failure (.behind "Preprocessing failed" e))
  | .ok summary => pure (.success (summaryText summary))

/-- The line about an expected action. -/
def actionLine (a : Action) : String :=
  "   " ++ a.name ++ " " ++ (Json.Value.object a.arguments).compact ++ "\n"

/-- Shows records with their expected actions, up to the first record without any. -/
def showRecords (output : String) : List Record → Report
  | [] => .success output
  | r :: rs =>
    let output := output ++ r.toJson.pretty ++ "\n"
    match r.expectedActions with
    | .error flaw => ⟨output, "", .failure (.ofError (.ofCall flaw))⟩
    | .ok as =>
      showRecords (output ++ "ground truth (" ++ toString as.length ++ " actions):\n" ++
        String.join (as.map actionLine)) rs

/-- Shows the first records of a split file. -/
def inspect (file : Path) (count : Nat) : Store.Script Report := do
  match ← (Corpus.readRecords codec file).run with
  | .error e => pure (.failure (.behind ("Failed to read " ++ file.text) e))
  | .ok rs =>
    pure (showRecords (file.text ++ ": " ++ toString rs.length ++ " records\n") (rs.take count))

/-- Writes the rollout configurations. -/
def toolConfig (s : Settings) (dir : Path) : Store.Script Report := do
  match ← (Rollout.writeFiles Tool.Retail.catalog s.interactionName s.rollout dir).run with
  | .error e => pure (.failure (.behind "Failed to write rollout configs" e))
  | .ok (tools, interaction) =>
    pure (.success ("Tool config:        " ++ tools.text ++ "\nInteraction config: " ++
      interaction.text ++ "\n"))

/-- The files that the other commands make for the trainer. -/
def launchInputs (home : Path) (s : Settings) : Launch.Inputs :=
  let dir := s.outputDir.expandHome home
  { trainFile := dir.join ⟨Split.train.fileName⟩
    validationFile := dir.join ⟨Split.test.fileName⟩
    toolConfig := dir.join ⟨Rollout.toolFileName⟩
    interactionConfig := dir.join ⟨Rollout.interactionFileName⟩ }

/-- The paths that lead to nothing. -/
def missing : List Path → Store.Script (List Path)
  | [] => pure []
  | p :: ps => do
    let found ← Store.Script.perform (.look p)
    let rest ← missing ps
    pure (if found.isSome then rest else p :: rest)

/-- Shows the plan, or makes sure of the inputs and starts it. -/
def launch (home : Path) (c : Configuration) (dryRun : Bool) : Store.Script Report := do
  let inputs := launchInputs home c.corpus
  match c.launch.plan? inputs with
  | none => pure (.failure (.ofLaunch .noProgram))
  | some plan =>
    if dryRun then pure (.success (plan.text ++ "\n"))
    else do
      let lost ← missing inputs.paths
      if lost.isEmpty then pure ⟨"", "", .start plan⟩
      else pure (.failure (.ofLaunch (.missingInputs lost)))

/-- Runs a command with its configuration. -/
def runCommand (home : Path) (c : Configuration) : Command → Store.Script Report
  | .preprocess none => preprocess codec home c.corpus
  | .preprocess (some dir) => preprocess codec home { c.corpus with outputDir := dir }
  | .inspect file count => inspect codec file count
  | .toolConfig none => toolConfig c.corpus (c.corpus.outputDir.expandHome home)
  | .toolConfig (some dir) => toolConfig c.corpus dir
  | .launch dryRun => launch home c dryRun

/-- Answers a request. -/
def respond (home : Path) : Request → Store.Script Report
  | .misuse => pure ⟨"", "", .misuse⟩
  | .version => pure (.success version)
  | .help topic => pure (.success (help topic))
  | .run config command => do
    match ← Configuration.load config with
    | .error flaw => pure (.failure (.ofConfiguration flaw))
    | .ok c => runCommand codec home c command

/-- Runs a command line. -/
def run (home : Path) (arguments : List String) : Store.Script Report :=
  respond codec home (parse arguments)

end TaskCorpus.CommandLine
