import TaskCorpus.Json.Token

/-!
# Documents

A `Document` is what the words of a text amount to before anyone asks for a type. It also records
where the text stops being JSON: a list or an object that was not brought to its end holds the
break, and the place itself is `broken`. So a reader that walks a document in order meets every
fault in the order of the text, its own complaints about types included.

`assemble` runs the words through a machine with a stack of open lists and objects.
-/

namespace TaskCorpus.Json

/-- What stands before the colon of a field. -/
inductive Label where
  | text (s : String)
  /-- A string with an unpaired surrogate. -/
  | unpaired (f : Flaw)

inductive Document where
  | broken (b : Break)
  | null
  | boolean (b : Bool)
  /-- A number, `none` when it is out of range. -/
  | number (n : Option Number)
  | string (s : String)
  /-- A string with an unpaired surrogate. -/
  | unpaired (f : Flaw)
  /-- A list, with the break if the text breaks off in it. -/
  | array (items : List Document) (cut : Option Break)
  | object (fields : List (Label × Document)) (cut : Option Break)

/-- Where the text breaks off within a document. -/
def Document.break? : Document → Option Break
  | .broken b => some b
  | .array _ cut => cut
  | .object _ cut => cut
  | _ => none

/-- An open list or object with what it holds so far, last first. -/
inductive Frame where
  | array (done : List Document)
  /-- An object between two fields. -/
  | object (done : List (Label × Document))
  /-- An object in which the value of a field is awaited. -/
  | field (done : List (Label × Document)) (label : Label)

namespace Frame

/-- The container as it stands when the text breaks off inside it. -/
def cut (b : Break) : Frame → Document
  | .array done => .array done.reverse (some b)
  | .object done => .object done.reverse (some b)
  | .field done l => .object ((l, .broken b) :: done).reverse (some b)

/-- The container with a last part in which the text broke off. -/
def cutAfter (b : Break) (d : Document) : Frame → Document
  | .array done => .array (d :: done).reverse (some b)
  | .object done => .object done.reverse (some b)
  | .field done l => .object ((l, d) :: done).reverse (some b)

/-- The document of a text that breaks off inside the innermost of the given containers. -/
def cutAll (b : Break) : List Frame → Document
  | [] => .broken b
  | f :: fs => fs.foldl (fun d f => f.cutAfter b d) (f.cut b)

end Frame

/-- What the next word may be. -/
inductive Turn where
  | value
  | firstItem
  /-- An item after a comma. -/
  | item
  | firstLabel
  /-- A label after a comma. -/
  | label
  | colon
  | separator

/-- A text read so far. -/
inductive Assembly where
  | reading (stack : List Frame) (turn : Turn)
  | complete (d : Document)
  /-- Words followed the value, or the text broke off inside it. -/
  | faulty (d : Document)

namespace Assembly

/-- The text breaks off here. -/
def halt (stack : List Frame) (b : Break) : Assembly := .faulty (Frame.cutAll b stack)

/-- A value has been read. -/
def deliver (d : Document) : List Frame → Assembly
  | [] => .complete d
  | .array done :: stack => .reading (.array (d :: done) :: stack) .separator
  | .field done l :: stack => .reading (.object ((l, d) :: done) :: stack) .separator
  | .object done :: stack => halt (.object done :: stack) (.both .label)

/-- A word where a value has to come. -/
def onValue (stack : List Frame) (t : Token) : Assembly :=
  match t with
  | .openArray => .reading (.array [] :: stack) .firstItem
  | .openObject => .reading (.object [] :: stack) .firstLabel
  | .null => deliver .null stack
  | .boolean b => deliver (.boolean b) stack
  | .number n => deliver (.number n) stack
  | .string s => deliver (.string s) stack
  | .unpaired f => deliver (.unpaired f) stack
  | .torn b => halt stack b
  | .stray b => halt stack b
  | _ => halt stack (.both .value)

/-- A word where the name of a field has to come. -/
def onLabel (stack : List Frame) (t : Token) : Assembly :=
  match stack, t with
  | .object done :: stack, .string s => .reading (.field done (.text s) :: stack) .colon
  | .object done :: stack, .unpaired f => .reading (.field done (.unpaired f) :: stack) .colon
  | stack, .torn b => halt stack b
  | stack, _ => halt stack (.both .label)

/-- A word after a value inside a list or an object. -/
def onSeparator (stack : List Frame) (t : Token) : Assembly :=
  match stack, t with
  | .array done :: stack, .comma => .reading (.array done :: stack) .item
  | .array done :: stack, .closeArray => deliver (.array done.reverse none) stack
  | .object done :: stack, .comma => .reading (.object done :: stack) .label
  | .object done :: stack, .closeObject => deliver (.object done.reverse none) stack
  | .array done :: stack, _ => halt (.array done :: stack) (.both .listSeparator)
  | stack, _ => halt stack (.both .objectSeparator)

def step : Assembly → Token → Assembly
  | .faulty d, _ => .faulty d
  | .complete d, _ => .faulty d
  | .reading stack .value, t => onValue stack t
  | .reading stack .firstItem, t =>
    if t = .closeArray then onSeparator stack t else onValue stack t
  | .reading stack .item, t =>
    if t = .closeArray then halt stack ⟨.trailingComma, .value⟩ else onValue stack t
  | .reading stack .firstLabel, t =>
    if t = .closeObject then onSeparator stack t else onLabel stack t
  | .reading stack .label, t =>
    if t = .closeObject then halt stack ⟨.trailingComma, .label⟩ else onLabel stack t
  | .reading stack .colon, t =>
    if t = .colon then .reading stack .value else halt stack (.both .colon)
  | .reading stack .separator, t => onSeparator stack t

/-- The break of a text that ends before its value does. -/
def ending (stack : List Frame) : Turn → Break
  | .value => .both .endInValue
  | .firstItem => .both .endInList
  | .item => .both .endInValue
  | .firstLabel => .both .endInObject
  | .label => ⟨.endInValue, .endInObject⟩
  | .colon => .both .endInObject
  | .separator =>
    match stack with
    | .array _ :: _ => .both .endInList
    | _ => .both .endInObject

/-- The document at the end of the text, and whether the text was exactly one value. -/
def finish : Assembly → Document × Bool
  | .complete d => (d, true)
  | .faulty d => (d, false)
  | .reading stack turn => (Frame.cutAll (ending stack turn) stack, false)

end Assembly

/-- The document of a list of words, and whether they were exactly one value. -/
def assemble (ts : List Token) : Document × Bool :=
  (ts.foldl Assembly.step (.reading [] .value)).finish

/-- The document of a text, and whether the text was exactly one value. -/
def Document.ofText (s : String) : Document × Bool := assemble (tokens s.toList)

end TaskCorpus.Json
