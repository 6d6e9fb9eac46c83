import TaskCorpus.CommandLine.Arguments

/-!
# Help

What the program says about itself and its commands.
-/

namespace TaskCorpus.CommandLine

/-- What the program calls itself. -/
def programName : String := "retailctl"

def version : String := programName ++ " 0.1.0\n"

/-- What a command is for. -/
def Topic.about : Topic → String
  | .preprocess => "Convert task definitions into train/test parquet files (default)"
  | .inspect => "Print records from a parquet split"
  | .toolConfig => "Write the trainer's tool and interaction config files"
  | .launch => "Launch the external trainer on the prepared dataset"
  | .help => "Print this message or the help of the given subcommand(s)"

/-- How an option is written in a list of options, and what it is for. -/
def optionLine (topic : Option Topic) (f : Flag) : String × String :=
  let spelling := (match f.short with
    | some c => "-" ++ String.singleton c ++ ", "
    | none => "    ") ++ "--" ++ f.long
  match f.option with
  | .config => (spelling ++ " <CONFIG>", "TOML file with [preprocess] and [launch] tables")
  | .outputDir =>
    (spelling ++ " <OUTPUT_DIR>",
      if topic = some .toolConfig then
        "Directory for the YAML files (defaults to the dataset directory)"
      else "Override the configured output directory")
  | .records => (spelling ++ " <RECORDS>", "Number of records to show [default: 1]")
  | .dryRun => (spelling, "Print the command instead of running it")
  | .help => (spelling, "Print help")
  | .version => (spelling, "Print version")

/-- Two columns, the second one aligned. -/
def columns (rows : List (String × String)) : String :=
  let width := (rows.map fun r => r.1.length).foldl max 0
  String.join (rows.map fun r =>
    "  " ++ r.1 ++ String.ofList (List.replicate (width - r.1.length + 2) ' ') ++ r.2 ++ "\n")

def optionsPart (topic : Option Topic) : String :=
  "\nOptions:\n" ++ columns ((flags topic).map (optionLine topic))

/-- The help on the program or on one of its commands. -/
def help : Option Topic → String
  | none =>
    "Retail RL dataset preparation and trainer launch\n\nUsage: " ++ programName ++
      " [OPTIONS] [COMMAND]\n\nCommands:\n" ++
      columns (Topic.all.map fun t => (t.name, t.about)) ++ optionsPart none
  | some .help =>
    Topic.help.about ++ "\n\nUsage: " ++ programName ++ " help [COMMAND]...\n\nArguments:\n" ++
      columns [("[COMMAND]...", "Print help for the subcommand(s)")]
  | some .inspect =>
    Topic.inspect.about ++ "\n\nUsage: " ++ programName ++ " inspect [OPTIONS] <FILE>\n\n" ++
      "Arguments:\n" ++ columns [("<FILE>", "Split file to read")] ++ optionsPart (some .inspect)
  | some t =>
    t.about ++ "\n\nUsage: " ++ programName ++ " " ++ t.name ++ " [OPTIONS]\n" ++
      optionsPart (some t)

end TaskCorpus.CommandLine
