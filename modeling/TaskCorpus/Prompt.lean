import TaskCorpus.Task

/-!
# Prompts

The messages that open a conversation: a system text, and the instruction of the task if the
template says so.
-/

namespace TaskCorpus

/-- A chat message. -/
structure Message where
  role : String
  content : String
  deriving DecidableEq

namespace Message

def toJson (m : Message) : Json.Value :=
  .object [("role", .string m.role), ("content", .string m.content)]

def shape (n : Nat) : Json.Shape [String, String] :=
  .cons (.required "role" (Json.Reader.text n))
    (.cons (.required "content" (Json.Reader.text n)) .nil)

def reader : Json.Reader Message := fun n d => do
  let (role, content, ()) ← Json.Shape.reader shape "Message" n d
  pure ⟨role, content⟩

end Message

/-- How a task becomes messages. -/
structure Prompt where
  system : String
  /-- Whether the instruction follows as a message of the user. -/
  includeInstruction : Bool
  deriving DecidableEq

namespace Prompt

/-- The policy of the retail agent. -/
def retailPolicy : String :=
  "You are an online-retail customer-service agent. " ++
  "Always authenticate the customer (email or name + ZIP) before continuing, and for any change " ++
  "(cancel or exchange) list the details and proceed only after the customer explicitly says " ++
  "“yes.” You must use the `find_user_id_by_email` tool to find the user id before continuing. " ++
  "The only changes you may make are `exchange_delivered_order_items` and " ++
  "`cancel_pending_order`. Serve only that customer, follow policy exactly (no hallucination, " ++
  "one tool call at a time, no human transfer unless impossible)."

def standard : Prompt := ⟨retailPolicy, true⟩

def render (p : Prompt) (t : Task) : List Message :=
  ⟨"system", p.system⟩ :: if p.includeInstruction then [⟨"user", t.instruction⟩] else []

def toJson (p : Prompt) : Json.Value :=
  .object [("system", .string p.system), ("include_instruction", .boolean p.includeInstruction)]

def shape (n : Nat) : Json.Shape [String, Bool] :=
  .cons (.defaulted "system" standard.system (Json.Reader.text n))
    (.cons (.defaulted "include_instruction" standard.includeInstruction (Json.Reader.boolean n))
      .nil)

def reader : Json.Reader Prompt := fun n d => do
  let (system, includeInstruction, ()) ← Json.Shape.reader shape "PromptTemplate" n d
  pure ⟨system, includeInstruction⟩

end Prompt

end TaskCorpus
