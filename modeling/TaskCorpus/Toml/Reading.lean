import TaskCorpus.Toml.Quoted
import TaskCorpus.Toml.Tables
import TaskCorpus.Toml.Word

/-!
# Reading TOML

A document is a list of statements, one on a line: the header of a table, the header of a new
table in a list of tables, or an entry of the table whose header came last. `statements` reads
them, `tableOf` puts the tables together.
-/

namespace TaskCorpus.Toml

/-- Lists, tables between braces and keys may be nested one level less deep. -/
def levels : Nat := 80

def isSpace (c : Char) : Bool := c == ' ' || c == '\t'

def skipSpaces (cs : List Char) : List Char := cs.dropWhile isSpace

/-- Skips spaces, line breaks and comments. `comment` says whether a comment has begun. -/
def skipLines (comment : Bool) : List Char → List Char
  | [] => []
  | '\r' :: '\n' :: cs => skipLines false cs
  | c :: cs =>
    if c = '\n' then skipLines false cs
    else if comment then if isTextChar c then skipLines true cs else c :: cs
    else if isSpace c then skipLines false cs
    else if c = '#' then skipLines true cs
    else c :: cs

/-- Characters of keys without quotes. -/
def isKeyChar (c : Char) : Bool := c.isAlphanum || c == '-' || c == '_'

/-- One part of a key. -/
def keyPart? (cs : List Char) : Option (String × List Char) :=
  match cs with
  | '"' :: rest => basic [] rest
  | '\'' :: rest => literal [] rest
  | cs =>
    let word := cs.takeWhile isKeyChar
    if word.isEmpty then none else some (String.ofList word, cs.dropWhile isKeyChar)

/-- A key of at most the given number of parts, with the spaces around it. -/
def key? : Nat → List Char → Option (List String × List Char)
  | 0, _ => none
  | n + 1, cs => do
    let (part, rest) ← keyPart? (skipSpaces cs)
    match skipSpaces rest with
    | '.' :: rest => do
      let (parts, rest) ← key? n rest
      some (part :: parts, rest)
    | rest => some ([part], rest)

/-- A reader of a value at the start of a text. -/
abbrev ValueReader := List Char → Option (Value × List Char)

/-- The items of a list, from its opening bracket on. The first argument bounds their number. -/
def items? (read : ValueReader) : Nat → List Char → Option (List Value × List Char)
  | 0, _ => none
  | n + 1, cs =>
    match skipLines false cs with
    | ']' :: rest => some ([], rest)
    | cs => do
      let (v, rest) ← read cs
      match skipLines false rest with
      | ']' :: rest => some ([v], rest)
      | ',' :: rest => do
        let (vs, rest) ← items? read n rest
        some (v :: vs, rest)
      | _ => none

/-- A key, its value and the spaces after it. -/
def entry? (read : ValueReader) (cs : List Char) : Option ((List String × Value) × List Char) := do
  let (key, rest) ← key? (levels - 1) cs
  match rest with
  | '=' :: rest => do
    let (v, rest) ← read (skipSpaces rest)
    some ((key, v), skipSpaces rest)
  | _ => none

/-- The entries of a table between braces, from the first entry on. The first argument bounds
their number. -/
def entries? (read : ValueReader) :
    Nat → List Char → Option (List (List String × Value) × List Char)
  | 0, _ => none
  | n + 1, cs => do
    let (e, rest) ← entry? read cs
    match rest with
    | '}' :: rest => some ([e], rest)
    | ',' :: rest => do
      let (es, rest) ← entries? read n rest
      some (e :: es, rest)
    | _ => none

/-- A value at the start of a text, with lists and tables of the given number of levels. -/
def value? : Nat → ValueReader
  | n, '[' :: cs =>
    match n with
    | 0 => none
    | n + 1 => (items? (value? n) (cs.length + 1) cs).map fun r => (.array r.1, r.2)
  | n, '{' :: cs =>
    match n with
    | 0 => none
    | n + 1 =>
      match skipSpaces cs with
      | '}' :: rest => some (.table [], rest)
      | cs => do
        let (es, rest) ← entries? (value? n) (cs.length + 1) cs
        let t ← Draft.addAll es []
        some (.table (Draft.finish t), rest)
  | _, '"' :: cs => (quoted? ('"' :: cs)).map fun r => (.string r.1, r.2)
  | _, '\'' :: cs => (quoted? ('\'' :: cs)).map fun r => (.string r.1, r.2)
  | _, cs => do
    let (word, rest) := takeWord cs
    some (← wordValue? word, rest)

/-- The end of a statement: nothing but a comment before the end of the line. -/
def endLine? (cs : List Char) : Option (List Char) :=
  let rest :=
    match skipSpaces cs with
    | '#' :: cs => cs.dropWhile isTextChar
    | cs => cs
  match rest with
  | [] => some []
  | '\n' :: cs => some cs
  | '\r' :: '\n' :: cs => some cs
  | _ => none

/-- The statements of a document. The first argument bounds the number of lines. -/
def statements : Nat → List Char → Option (List Statement)
  | 0, _ => none
  | n + 1, cs =>
    match skipSpaces cs with
    | [] => some []
    | '\n' :: rest => statements n rest
    | '\r' :: '\n' :: rest => statements n rest
    | '#' :: rest => do statements n (← endLine? ('#' :: rest))
    | '[' :: '[' :: rest => do
      let (key, rest) ← key? (levels - 1) rest
      match rest with
      | ']' :: ']' :: rest => do
        let more ← statements n (← endLine? rest)
        some (.listHeader key :: more)
      | _ => none
    | '[' :: rest => do
      let (key, rest) ← key? (levels - 1) rest
      match rest with
      | ']' :: rest => do
        let more ← statements n (← endLine? rest)
        some (.header key :: more)
      | _ => none
    | cs => do
      let ((key, v), rest) ← entry? (value? (levels - 1)) cs
      let more ← statements n (← endLine? rest)
      some (.entry key v :: more)

/-- A mark of the byte order at the start of a text does not count. -/
def dropOrderMark : List Char → List Char
  | '\ufeff' :: cs => cs
  | cs => cs

/-- The table that a text describes. -/
def readText (text : String) : Option Table := do
  let cs := dropOrderMark text.toList
  tableOf (← statements (cs.length + 1) cs)

end TaskCorpus.Toml
