import TableCopy.Json.Basic

/-!
# Records in JSON

A record is an object with a member for each field, in any order and among
others, or an array of exactly its fields in order. A field that may be absent
is read from a missing member or from null; every other field must be there.
Members can also be left out, changed and added.
-/

namespace TableCopy
namespace Json

/-- The values of the named fields; a missing member gives none. -/
def fields? (names : List String) : Json → Option (List (Option Json))
  | object members => some (names.map fun name => (object members).get? name)
  | array items => if items.length = names.length then some (items.map some) else none
  | _ => none

/-- A field that must be there. -/
def required {β : Type} (read : Json → Option β) (field : Option Json) : Option β :=
  field.bind read

/-- A field that may be missing or null. -/
def optional {β : Type} (read : Json → Option β) : Option Json → Option (Option β)
  | none => some none
  | some .null => some none
  | some value => (read value).map some

/-- A whole number of a word of the given width. -/
def word? (bits : Nat) (value : Json) : Option Nat :=
  value.nat?.filter fun n => n < Word.count bits

/-- A signed whole number of a word of the given width. -/
def signedWord? (bits : Nat) (value : Json) : Option Int :=
  value.int?.filter (Word.isSigned bits)

/-- The name of a variant without contents, alone or as the only member of an
object, where its value is null. -/
def variant? : Json → Option String
  | string name => some name
  | object [(name, null)] => some name
  | _ => none

/-- An object without the members of some names. -/
def without (names : List String) : Json → Json
  | object members => .object (members.filter fun (name, _) => !names.contains name)
  | other => other

/-- An object with the members of some names changed. -/
def adjust (names : List String) (f : Json → Json) : Json → Json
  | object members =>
    .object (members.map fun (name, value) =>
      if names.contains name then (name, f value) else (name, value))
  | other => other

/-- An object with further members at its end. -/
def extend (more : List (String × Json)) : Json → Json
  | object members => .object (members ++ more)
  | other => other

end Json
end TableCopy
