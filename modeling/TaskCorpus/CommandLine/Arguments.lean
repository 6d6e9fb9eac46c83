import TaskCorpus.Path

/-!
# Arguments

A command line is a command with options. An option has a value in the same argument or in the
next one; options may stand before and after the command and its operands, and two dashes end
them. An option may be given once, and a value must not look like an option. After `help` every
argument is a name. A value that stands right before a command is looked at after the command, so
that a bad one does not keep the command from showing its help.
-/

namespace TaskCorpus.CommandLine

inductive Command where
  | preprocess (outputDir : Option Path)
  | inspect (file : Path) (count : Nat)
  | toolConfig (dir : Option Path)
  | launch (dryRun : Bool)
  deriving DecidableEq

/-- The commands by name; `help` asks for help on another one. -/
inductive Topic where
  | preprocess
  | inspect
  | toolConfig
  | launch
  | help
  deriving DecidableEq

def Topic.all : List Topic := [.preprocess, .inspect, .toolConfig, .launch, .help]

def Topic.name : Topic → String
  | .preprocess => "preprocess"
  | .inspect => "inspect"
  | .toolConfig => "tool-config"
  | .launch => "launch"
  | .help => "help"

def Topic.ofName? (name : String) : Option Topic := Topic.all.find? fun t => t.name = name

inductive OptionName where
  | config
  | outputDir
  | records
  | dryRun
  | help
  | version
  deriving DecidableEq

/-- How an option is written, and whether it takes a value. -/
structure Flag where
  option : OptionName
  short : Option Char
  long : String
  takesValue : Bool

def Flag.config : Flag := ⟨.config, some 'c', "config", true⟩
def Flag.outputDir : Flag := ⟨.outputDir, some 'o', "output-dir", true⟩
def Flag.records : Flag := ⟨.records, some 'n', "records", true⟩
def Flag.dryRun : Flag := ⟨.dryRun, none, "dry-run", false⟩
def Flag.help : Flag := ⟨.help, some 'h', "help", false⟩
def Flag.version : Flag := ⟨.version, some 'V', "version", false⟩

/-- The options of a command, or those before any command. -/
def flags : Option Topic → List Flag
  | none => [.config, .help, .version]
  | some .preprocess => [.config, .outputDir, .help]
  | some .inspect => [.config, .records, .help]
  | some .toolConfig => [.config, .outputDir, .help]
  | some .launch => [.config, .dryRun, .help]
  | some .help => []

/-- Whether a command has an operand. -/
def takesOperand : Option Topic → Bool
  | some .inspect => true
  | _ => false

/-- What a command line asks for. -/
inductive Request where
  | run (config : Option Path) (command : Command)
  | help (topic : Option Topic)
  | version
  /-- The command line cannot be understood. -/
  | misuse
  deriving DecidableEq

/-- What has been read. -/
structure Progress where
  config : Option Path
  outputDir : Option Path
  records : Option Nat
  dryRun : Bool
  operand : Option String
  deriving DecidableEq

namespace Progress

def start : Progress := ⟨none, none, none, false, none⟩

/-- A path, which must not be empty. -/
def path? (value : String) : Option Path := if value = "" then none else some ⟨value⟩

/-- A natural below `2 ^ 64`, with an optional plus sign. -/
def count? (value : String) : Option Nat :=
  let ds :=
    match value.toList with
    | '+' :: ds => ds
    | ds => ds
  if ds.isEmpty || !ds.all Char.isDigit then none
  else
    let n := ds.foldl (fun n c => n * 10 + (c.toNat - '0'.toNat)) 0
    if n < UInt64.size then some n else none

/-- Sets an option that has not been set. -/
def set? (p : Progress) (option : OptionName) (value : String) : Option Progress :=
  match option with
  | .config =>
    if p.config.isSome then none else (path? value).map fun v => { p with config := some v }
  | .outputDir =>
    if p.outputDir.isSome then none else (path? value).map fun v => { p with outputDir := some v }
  | .records =>
    if p.records.isSome then none else (count? value).map fun v => { p with records := some v }
  | .dryRun => if p.dryRun then none else some { p with dryRun := true }
  | .help => none
  | .version => none

/-- Adds an operand if there is room for it. -/
def operand? (p : Progress) (topic : Option Topic) (value : String) : Option Progress :=
  if p.operand.isSome || !takesOperand topic || value == "" then none
  else some { p with operand := some value }

/-- The request that a complete command line makes. -/
def finish (p : Progress) : Option Topic → Request
  | none => .run p.config (.preprocess none)
  | some .preprocess => .run p.config (.preprocess p.outputDir)
  | some .inspect =>
    match p.operand with
    | some file => .run p.config (.inspect ⟨file⟩ (p.records.getD 1))
    | none => .misuse
  | some .toolConfig => .run p.config (.toolConfig p.outputDir)
  | some .launch => .run p.config (.launch p.dryRun)
  | some .help => .help none

end Progress

/-- What is asked for by the names after `help`; no command has commands of its own. -/
def helpOn : List String → Request
  | [] => .help none
  | [name] =>
    match Topic.ofName? name with
    | some topic => .help (some topic)
    | none => .misuse
  | _ => .misuse

/-- What an argument with an option comes to. -/
inductive Reading where
  | more (p : Progress)
  /-- The value of an option follows. -/
  | pending (p : Progress) (option : OptionName)
  | done (r : Request)

/-- Sets an option that takes no value. -/
def setFlag (p : Progress) (topic : Option Topic) (option : OptionName) : Reading :=
  match option with
  | .help => .done (.help topic)
  | .version => .done .version
  | option =>
    match p.set? option "" with
    | some p => .more p
    | none => .done .misuse

def setValue (p : Progress) (option : OptionName) (value : String) : Reading :=
  match p.set? option value with
  | some p => .more p
  | none => .done .misuse

/-- Reads what follows two dashes. -/
def readLong (p : Progress) (topic : Option Topic) (cs : List Char) : Reading :=
  let name := String.ofList (cs.takeWhile (· ≠ '='))
  match (flags topic).find? (·.long == name), cs.dropWhile (· ≠ '=') with
  | none, _ => .done .misuse
  | some f, [] => if f.takesValue then .pending p f.option else setFlag p topic f.option
  | some f, _ :: value =>
    if f.takesValue then setValue p f.option (String.ofList value) else .done .misuse

/-- Reads what follows one dash: letters of options, the last of them possibly with a value. -/
def readShort (topic : Option Topic) : Progress → List Char → Reading
  | p, [] => .more p
  | p, c :: cs =>
    match (flags topic).find? (·.short == some c) with
    | none => .done .misuse
    | some f =>
      if f.takesValue then
        match cs with
        | [] => .pending p f.option
        | '=' :: value => setValue p f.option (String.ofList value)
        | value => setValue p f.option (String.ofList value)
      else
        match setFlag p topic f.option with
        | .more p => readShort topic p cs
        | r => r

/-- A request on a command line with a bad value: only help can still be had. -/
def Request.spoiled : Request → Request
  | .run _ _ => .misuse
  | r => r

/-- The command of a name at this place. Only before any command is one looked for. -/
def subcommand? (topic : Option Topic) (word : String) : Option Topic :=
  match topic with
  | none => Topic.ofName? word
  | some _ => none

/-- Reads operands only, after two dashes. -/
def parseOperands (topic : Option Topic) : Progress → List String → Request
  | p, [] => p.finish topic
  | p, word :: rest =>
    match p.operand? topic word with
    | some p => parseOperands topic p rest
    | none => .misuse

/-- Reads the arguments. An option that waits for its value takes the next argument. The options
of a command are its own; of the configuration file given before and after it the latter counts. -/
def parseFrom (topic : Option Topic) (before : Option Path) (p : Progress)
    (waiting : Option OptionName) : List String → Request
  | [] =>
    if waiting.isSome then .misuse else
      Progress.finish { p with config := p.config.or before } topic
  | word :: rest =>
    match subcommand? topic word, waiting with
    | some .help, none => helpOn rest
    | some t, none => parseFrom (some t) p.config .start none rest
    | _, _ =>
      match word.toList with
      | ['-', '-'] =>
        if waiting.isSome then .misuse
        else parseOperands topic { p with config := p.config.or before } rest
      | '-' :: c :: cs =>
        if waiting.isSome then .misuse
        else
          match if c = '-' then readLong p topic cs else readShort topic p (c :: cs) with
          | .more p => parseFrom topic before p none rest
          | .pending p option => parseFrom topic before p (some option) rest
          | .done r => r
      | _ =>
        match waiting with
        | some option =>
          match p.set? option word with
          | some p => parseFrom topic before p none rest
          | none =>
            if (rest.head?.bind (subcommand? topic)).isSome then
              (parseFrom topic before p none rest).spoiled
            else .misuse
        | none =>
          match p.operand? topic word with
          | some p => parseFrom topic before p none rest
          | none => .misuse

/-- The request of a command line. -/
def parse (arguments : List String) : Request := parseFrom none none .start none arguments

end TaskCorpus.CommandLine
