/-!
# Why a text is not JSON

A `Flaw` says what is wrong at the place where a text stops being JSON. Some places are judged
differently by a reader who wants the value there and by one who passes over it: a comma before a
closing bracket is seen by the one as such, by the other as a missing value. A `Break` holds both.
-/

namespace TaskCorpus.Json

/-- What is wrong at a place of a text. -/
inductive Flaw where
  | endInList
  | endInObject
  | endInString
  /-- The text ends where a value should be, or within it. -/
  | endInValue
  | colon
  | listSeparator
  | objectSeparator
  /-- A word that is not `null`, `true` or `false`. -/
  | word
  | value
  | escape
  | number
  | outOfRange
  /-- A second surrogate without a first, or a first one before something else. -/
  | surrogate
  /-- A first surrogate that no escape follows. -/
  | halfPair
  | control
  | label
  | trailingComma
  | trailing
  /-- More levels than may be entered. -/
  | depth
  deriving DecidableEq

def Flaw.message : Flaw → String
  | .endInList => "EOF while parsing a list"
  | .endInObject => "EOF while parsing an object"
  | .endInString => "EOF while parsing a string"
  | .endInValue => "EOF while parsing a value"
  | .colon => "expected `:`"
  | .listSeparator => "expected `,` or `]`"
  | .objectSeparator => "expected `,` or `\x7d`"
  | .word => "expected ident"
  | .value => "expected value"
  | .escape => "invalid escape"
  | .number => "invalid number"
  | .outOfRange => "number out of range"
  | .surrogate => "lone leading surrogate in hex escape"
  | .halfPair => "unexpected end of hex escape"
  | .control => "control character (\\u0000-\\u001F) found while parsing a string"
  | .label => "key must be a string"
  | .trailingComma => "trailing comma"
  | .trailing => "trailing characters"
  | .depth => "recursion limit exceeded"

/-- The place where a text stops being JSON. -/
structure Break where
  /-- For a reader of the value there. -/
  read : Flaw
  /-- For a reader who passes over it. -/
  skipped : Flaw
  deriving DecidableEq

/-- A place that all readers judge alike. -/
def Break.both (f : Flaw) : Break := ⟨f, f⟩

end TaskCorpus.Json
