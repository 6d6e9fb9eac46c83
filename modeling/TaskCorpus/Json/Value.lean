import TaskCorpus.Decimal.Binary64
import TaskCorpus.KeyMap

/-!
# JSON values

A number is an integer when it is written as one and fits 64 bits, signed or unsigned, and a
binary64 number otherwise. The fields of an object stand in a list; a reader delivers them in
increasing order of their names, a record is written with its fields in the order of its
declaration.
-/

namespace TaskCorpus.Json

inductive Number where
  | integer (n : Int)
  | float (x : Decimal.Binary64)
  deriving DecidableEq

inductive Value where
  | null
  | boolean (b : Bool)
  | number (n : Number)
  | string (s : String)
  | array (items : List Value)
  | object (fields : List (String × Value))

namespace Value

mutual

def decEq : (v w : Value) → Decidable (v = w)
  | .null, .null => isTrue rfl
  | .boolean a, .boolean b => decidable_of_iff (a = b) (by simp)
  | .number a, .number b => decidable_of_iff (a = b) (by simp)
  | .string a, .string b => decidable_of_iff (a = b) (by simp)
  | .array a, .array b => @decidable_of_iff _ (a = b) (by simp) (decEqItems a b)
  | .object a, .object b => @decidable_of_iff _ (a = b) (by simp) (decEqFields a b)
  | .null, .boolean _ | .null, .number _ | .null, .string _ | .null, .array _ | .null, .object _
  | .boolean _, .null | .boolean _, .number _ | .boolean _, .string _ | .boolean _, .array _
  | .boolean _, .object _ | .number _, .null | .number _, .boolean _ | .number _, .string _
  | .number _, .array _ | .number _, .object _ | .string _, .null | .string _, .boolean _
  | .string _, .number _ | .string _, .array _ | .string _, .object _ | .array _, .null
  | .array _, .boolean _ | .array _, .number _ | .array _, .string _ | .array _, .object _
  | .object _, .null | .object _, .boolean _ | .object _, .number _ | .object _, .string _
  | .object _, .array _ => isFalse nofun

def decEqItems : (vs ws : List Value) → Decidable (vs = ws)
  | [], [] => isTrue rfl
  | [], _ :: _ | _ :: _, [] => isFalse nofun
  | v :: vs, w :: ws =>
    match decEq v w, decEqItems vs ws with
    | isTrue h, isTrue hs => isTrue (h ▸ hs ▸ rfl)
    | isFalse h, _ => isFalse fun he => h (List.cons.inj he).1
    | _, isFalse hs => isFalse fun he => hs (List.cons.inj he).2

def decEqFields : (vs ws : List (String × Value)) → Decidable (vs = ws)
  | [], [] => isTrue rfl
  | [], _ :: _ | _ :: _, [] => isFalse nofun
  | (k, v) :: vs, (l, w) :: ws =>
    match instDecidableEqString k l, decEq v w, decEqFields vs ws with
    | isTrue hk, isTrue h, isTrue hs => isTrue (hk ▸ h ▸ hs ▸ rfl)
    | isFalse hk, _, _ => isFalse fun he => hk (Prod.mk.inj (List.cons.inj he).1).1
    | _, isFalse h, _ => isFalse fun he => h (Prod.mk.inj (List.cons.inj he).1).2
    | _, _, isFalse hs => isFalse fun he => hs (List.cons.inj he).2

end

instance : DecidableEq Value := decEq

/-- The name of a value's type in messages. -/
def typeName : Value → String
  | .null => "null"
  | .boolean _ => "boolean"
  | .number _ => "number"
  | .string _ => "string"
  | .array _ => "array"
  | .object _ => "object"

end Value

end TaskCorpus.Json
