import Mathlib.Data.Nat.Notation

/-!
# JSON values

Trees of JSON, and what JavaScript makes of one that it has parsed: access to a property, truth, and
conversion to a text. A value that is not there, `undefined`, is `none`.

Numbers are integers. An object is the list of its members in the order in which they were written;
of members with one name, the parser keeps the last.
-/

namespace ZanovixCrm

/-- A JSON value. -/
inductive JsonValue where
  | null
  | bool (b : Bool)
  | num (n : Int)
  | str (s : String)
  | arr (items : List JsonValue)
  | obj (members : List (String × JsonValue))

namespace JsonValue

/-- An optional value, as `null` where there is none. -/
def nullable {α : Type} (f : α → JsonValue) : Option α → JsonValue
  | some a => f a
  | none => .null

/-- A list, as an array. -/
def list {α : Type} (f : α → JsonValue) (as : List α) : JsonValue := .arr (as.map f)

/-- `v.name`. Only objects have properties of their own; that of `null` is not asked for. -/
def get? (v : JsonValue) (name : String) : Option JsonValue :=
  match v with
  | .obj members => members.reverse.lookup name
  | _ => none

/-- `Boolean(v)`. -/
def truthy : JsonValue → Bool
  | .null => false
  | .bool b => b
  | .num n => n ≠ 0
  | .str s => s ≠ ""
  | .arr _ => true
  | .obj _ => true

mutual

/-- `String(v)`. -/
def text : JsonValue → String
  | .null => "null"
  | .bool b => if b then "true" else "false"
  | .num n => toString n
  | .str s => s
  | .arr items => ",".intercalate (itemTexts items)
  | .obj _ => "[object Object]"

/-- The texts that `join` puts between the commas; it leaves `null` out. -/
def itemTexts : List JsonValue → List String
  | [] => []
  | .null :: items => "" :: itemTexts items
  | item :: items => text item :: itemTexts items

end

/-- `a || b`. -/
def orElse (a b : Option JsonValue) : Option JsonValue := if a.any truthy then a else b

/-- `String(v)` of a value that may be `undefined`. -/
def textOf : Option JsonValue → String
  | some v => v.text
  | none => "undefined"

/-- `Array.isArray(v) ? v : undefined`. -/
def array? : Option JsonValue → Option (List JsonValue)
  | some (.arr items) => some items
  | _ => none

end JsonValue

end ZanovixCrm
