import Mathlib.Algebra.Group.Int.Defs
import Mathlib.Algebra.Group.Nat.Defs
import Mathlib.Data.List.Basic

set_option autoImplicit false

/-! # JSON values as the helper reads and builds them

The part of cJSON the helper uses: a parsed value, the lookup of a member by a name without regard
to case, and objects that grow by string members. All the helper reads of a number is its
conversion to `int`, which drops the fraction, so `number` holds the integral part. -/

namespace ThingsboardMqtt

/-- A parsed `cJSON` item. -/
inductive Cjson
  | null
  | bool (value : Bool)
  | number (integralPart : Int)
  | string (value : String)
  | array (items : List Cjson)
  | object (members : List (String × Cjson))

/-- `strcasecmp(a, b) == 0` -/
def strcaseEq (a b : String) : Bool :=
  a.toList.map Char.toLower == b.toList.map Char.toLower

namespace Cjson

/-- `cJSON_GetObjectItem`: the first member whose name fits, `none` for `NULL`. -/
def getObjectItem : Cjson → String → Option Cjson
  | .object members, name => (members.find? fun member => strcaseEq name member.1).map (·.2)
  | _, _ => none

/-- `cJSON_HasObjectItem` -/
def hasObjectItem (item : Cjson) (name : String) : Bool :=
  (item.getObjectItem name).isSome

/-- `cJSON_GetStringValue`: `none` for `NULL`. -/
def getStringValue : Option Cjson → Option String
  | some (.string value) => some value
  | _ => none

/-- `cJSON_GetNumberValue`: `none` for `NAN`. -/
def getNumberValue : Option Cjson → Option Int
  | some (.number integralPart) => some integralPart
  | _ => none

/-- `cJSON_AddStringToObject`; a `NULL` value adds no member. -/
def addStringToObject : Cjson → String → Option String → Cjson
  | .object members, name, some value => .object (members ++ [(name, .string value)])
  | item, _, _ => item

end Cjson

/-- `int x = d;` for a `double`: what C leaves undefined (`NAN`, a value outside of `int`) is
    answered by the environment. -/
def intOfDouble (undefinedInt : Int) : Option Int → Int
  | some value => if -2 ^ 31 ≤ value ∧ value < 2 ^ 31 then value else undefinedInt
  | none => undefinedInt

/-- An `int` passed as `uint32_t`. -/
def toUint32 (value : Int) : Nat := (value % 2 ^ 32).toNat

/-- A size that fits into `int` survives the conversion to `int` and on to `uint32_t`. -/
theorem toUint32_intOfDouble (undefinedInt : Int) {size : Nat} (hsize : size < 2 ^ 31) :
    toUint32 (intOfDouble undefinedInt (some size)) = size := by
  have hint : intOfDouble undefinedInt (some size) = size := by
    rw [intOfDouble, if_pos]
    omega
  rw [hint, toUint32, Int.emod_eq_of_lt (by omega) (by omega), Int.toNat_natCast]

end ThingsboardMqtt
