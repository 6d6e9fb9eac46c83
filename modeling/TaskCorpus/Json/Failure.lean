import TaskCorpus.Decimal.Layout
import TaskCorpus.Json.Document
import TaskCorpus.Json.Printer
import TaskCorpus.Text.Quoted

/-!
# Why a document cannot be read

Either the text is not JSON, or what it says does not have the expected type. The second kind
says what was found and what was wanted.
-/

namespace TaskCorpus.Json

/-- What a reader found in place of what it wanted. -/
inductive Found where
  | null
  | boolean (b : Bool)
  | integer (n : Int)
  | float (x : Decimal.Binary64)
  | string (s : String)
  | sequence
  | map
  deriving DecidableEq

def Found.message : Found → String
  | .null => "null"
  | .boolean b => "boolean `" ++ (if b then "true" else "false") ++ "`"
  | .integer n => "integer `" ++ String.ofList (Decimal.Layout.integer n) ++ "`"
  | .float x => "floating point `" ++ String.ofList (numberLayout.render x) ++ "`"
  | .string s => "string " ++ Text.quoted s
  | .sequence => "sequence"
  | .map => "map"

inductive Failure where
  /-- The text is not JSON, is nested too deeply, or has a number out of range. -/
  | malformed (flaw : Flaw)
  | wrongType (found : Found) (wanted : String)
  /-- A number of the right type outside the wanted range. -/
  | wrongValue (n : Int) (wanted : String)
  | wrongLength (n : Nat) (wanted : String)
  | missingField (name : String)
  | repeatedField (name : String)
  | unknownVariant (name : String) (known : List String)
  deriving DecidableEq

/-- Names between backquotes, with `or` before the last. -/
def alternatives : List String → String
  | [] => ""
  | [a] => "`" ++ a ++ "`"
  | [a, b] => "`" ++ a ++ "` or `" ++ b ++ "`"
  | a :: rest => "`" ++ a ++ "`, " ++ alternatives rest

def Failure.message : Failure → String
  | .malformed flaw => flaw.message
  | .wrongType found wanted => "invalid type: " ++ found.message ++ ", expected " ++ wanted
  | .wrongValue n wanted =>
    "invalid value: integer `" ++ String.ofList (Decimal.Layout.integer n) ++
      "`, expected " ++ wanted
  | .wrongLength n wanted => "invalid length " ++ toString n ++ ", expected " ++ wanted
  | .missingField name => "missing field `" ++ name ++ "`"
  | .repeatedField name => "duplicate field `" ++ name ++ "`"
  | .unknownVariant name known =>
    "unknown variant `" ++ name ++ "`, expected " ++ alternatives known

/-- The failure of a reader that wanted something else than this document. -/
def Document.mismatch (wanted : String) : Document → Failure
  | .broken b => .malformed b.read
  | .null => .wrongType .null wanted
  | .boolean b => .wrongType (.boolean b) wanted
  | .number none => .malformed .outOfRange
  | .number (some (.integer n)) => .wrongType (.integer n) wanted
  | .number (some (.float x)) => .wrongType (.float x) wanted
  | .string s => .wrongType (.string s) wanted
  | .unpaired f => .malformed f
  | .array _ _ => .wrongType .sequence wanted
  | .object _ _ => .wrongType .map wanted

end TaskCorpus.Json
