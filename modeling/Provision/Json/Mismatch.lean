import Provision.Json.Source
import Provision.Json.Printer
import Provision.Text.Quoted

/-!
# Why a value is not of a type

What a value looks like from outside, and the faults of reading it as a value of a type: it is of another kind or out
of range, a member is missing or twice there, or a list is too long or too short.
-/

namespace Provision.Json

/-- A value from outside: a scalar, or only that it is a list or an object. -/
inductive Head where
  | null
  | bool (value : Bool)
  | number (value : Number)
  | string (value : String)
  | sequence
  | map
deriving DecidableEq, Repr

/-- What is seen of a value. -/
def head : Json → Head
  | .null => .null
  | .bool b => .bool b
  | .number n => .number n
  | .string s => .string s
  | .array _ => .sequence
  | .object _ => .map

/-- A head in words. -/
def Head.text : Head → String
  | .null => "null"
  | .bool b => "boolean `" ++ (if b then "true" else "false") ++ "`"
  | .number (.int i) => "integer `" ++ Text.Decimal.text i ++ "`"
  | .number (.float x) => "floating point `" ++ String.ofList x.text ++ "`"
  | .string s => "string " ++ Text.Quoted.quote s
  | .sequence => "sequence"
  | .map => "map"

/-- Why a value cannot be read as one of a type. -/
inductive Mismatch where
  /-- A value of another kind. -/
  | kind (found : Head) (expected : String)
  /-- A value of the kind, but out of range. -/
  | range (found : Head) (expected : String)
  | missing (field : String)
  | duplicate (field : String)
  /-- A list with items left over. -/
  | tooLong (length : Nat)
  /-- A list that ends before the last field that has to be there. -/
  | tooShort (length : Nat) (expected : String)
  /-- An answer without the envelope of answers. -/
  | noEnvelope
  /-- Any other reason, in words. -/
  | stated (reason : String)
deriving DecidableEq, Repr

/-- The wording of a mismatch. -/
def Mismatch.message : Mismatch → String
  | .kind found expected => "invalid type: " ++ found.text ++ ", expected " ++ expected
  | .range found expected => "invalid value: " ++ found.text ++ ", expected " ++ expected
  | .missing field => "missing field `" ++ field ++ "`"
  | .duplicate field => "duplicate field `" ++ field ++ "`"
  | .tooLong length => "invalid length " ++ Text.Decimal.text length ++ ", expected fewer elements in array"
  | .tooShort length expected => "invalid length " ++ Text.Decimal.text length ++ ", expected " ++ expected
  | .noEnvelope => "missing `Response` envelope"
  | .stated reason => reason

/-- Why a text cannot be read as a value of a type: it is not JSON, or the value does not fit. -/
inductive ReadFault where
  | notJson
  | mismatch (why : Mismatch)
deriving DecidableEq, Repr

/-- The wording of a fault. -/
def ReadFault.message : ReadFault → String
  | .notJson => "json syntax"
  | .mismatch why => why.message

end Provision.Json

namespace Provision.Source

open Provision.Json

/-- What is seen of a text, unless it breaks off at once. -/
def head : Source → Except ReadFault Head
  | .null => .ok .null
  | .bool b => .ok (.bool b)
  | .number n => match n.number with
    | some x => .ok (.number x)
    | none => .error .notJson
  | .string s => match s with
    | some x => .ok (.string x)
    | none => .error .notJson
  | .array _ _ => .ok .sequence
  | .object _ _ => .ok .map
  | .broken => .error .notJson

end Provision.Source
