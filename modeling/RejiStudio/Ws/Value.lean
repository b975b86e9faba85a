import RejiStudio.Lib.NearestEven

/-!
# JSON values

The values that both wire formats carry, with the accessors the server uses.
-/

namespace RejiStudio.Ws

open RejiStudio.Lib

/-- `serde_json::Value`; a float is its bit pattern. -/
inductive Value where
  | null
  | bool (value : Bool)
  | posInt (value : UInt64)
  | negInt (value : Int64)
  | float (bits : UInt64)
  | string (value : String)
  | array (items : List Value)
  | object (fields : List (String × Value))
  deriving Repr, Inhabited

namespace Value

/-- A field of an object; `none` for a missing field or another kind of value. -/
def get (value : Value) (key : String) : Option Value :=
  match value with
  | .object fields => fields.lookup key
  | _ => none

def asU64 : Value → Option UInt64
  | .posInt value => some value
  | _ => none

/-- An integer that fits; a float never does. -/
def asI64 : Value → Option Int64
  | .posInt value => if value.toNat < 2 ^ 63 then some value.toInt64 else none
  | .negInt value => some value
  | _ => none

def asF64 : Value → Option Rat
  | .posInt value => some (roundRational doublePrecision value.toNat)
  | .negInt value => some (roundRational doublePrecision value.toInt)
  | .float bits => some (ofDoubleBits bits)
  | _ => none

def asStr : Value → Option String
  | .string value => some value
  | _ => none

/-- `value[key]` is null where the field is missing. -/
def index (value : Value) (key : String) : Value := (value.get key).getD .null

def ofNat (value : Nat) : Value := .posInt (UInt64.ofNat value)

end Value

end RejiStudio.Ws
