import TableCopy.Number.Reading
import TableCopy.Number.Shortest

/-!
# JSON values

A number keeps the text it was written with, because `1` and `1.0` are not the
same to a reader of whole numbers. Members of an object keep their order; of
two members with one name the later counts.
-/

namespace TableCopy

inductive Json
  | null
  | bool (value : Bool)
  | number (text : String)
  | string (value : String)
  | array (items : List Json)
  | object (members : List (String × Json))
  deriving Repr, Inhabited

namespace Json

def ofNat (n : Nat) : Json := .number (toString n)

def ofInt (n : Int) : Json := .number (toString n)

/-- A double as data; values without digits become null. -/
def ofFloat (x : Float) : Json :=
  if (Binary64.parts? x).isSome then .number (Binary64.dataLayout.text x) else .null

/-- An optional value, null when absent. -/
def ofOption {β : Type} (f : β → Json) : Option β → Json
  | some value => f value
  | none => .null

/-- The member of an object with a given name; anything else has no members. -/
def get? (name : String) : Json → Option Json
  | object members => (members.reverse.find? fun m => m.1 == name).map Prod.snd
  | _ => none

/-- A member that is present and not null. -/
def given? (name : String) (value : Json) : Option Json :=
  match value.get? name with
  | some .null => none
  | found => found

/-- Whether a number is written as a whole number. A negative zero is not: it has
no whole form that keeps its sign. -/
def isWhole (text : String) : Bool :=
  (Reading.integer? text.toList).isSome && text != "-0"

/-- A number written as a whole one, within 64 bits either way. -/
def int? : Json → Option Int
  | number text =>
    if isWhole text then
      (Reading.integer? text.toList).filter fun n => -(Word.signedEnd 64) ≤ n && n < Word.count 64
    else none
  | _ => none

def nat? (value : Json) : Option Nat :=
  (value.int?.filter fun n => 0 ≤ n).map Int.toNat

/-- Any number as the nearest double. -/
def float? : Json → Option Float
  | number text => Reading.float? text.toList
  | _ => none

def isNull : Json → Bool
  | null => true
  | _ => false

def string? : Json → Option String
  | string value => some value
  | _ => none

def bool? : Json → Option Bool
  | bool value => some value
  | _ => none

def items? : Json → Option (List Json)
  | array items => some items
  | _ => none

def members? : Json → Option (List (String × Json))
  | object members => some members
  | _ => none

end Json
end TableCopy
