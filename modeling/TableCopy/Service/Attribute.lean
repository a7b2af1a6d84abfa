import TableCopy.Json.Basic
import TableCopy.Text.Base64

/-!
# Attributes of items

An item maps names to attributes. On the wire an attribute is an object with one
member, whose name tells its kind. Numbers keep their text.
-/

namespace TableCopy

inductive Attribute
  | text (value : String)
  | number (value : String)
  | octets (value : List UInt8)
  | texts (values : List String)
  | numbers (values : List String)
  | octetStrings (values : List (List UInt8))
  | truth (value : Bool)
  | null (value : Bool)
  | list (values : List Attribute)
  | map (members : List (String × Attribute))
  deriving Repr, Inhabited

/-- An item of a table. -/
abbrev Item : Type := List (String × Attribute)

namespace Attribute

def octetsJson (value : List UInt8) : Json := .string (String.ofList (Base64.encode value))

def octets? (value : Json) : Option (List UInt8) :=
  value.string?.bind fun encoded => Base64.decode? encoded.toList

/-- A list all of whose entries can be read. -/
def listOf? {β : Type} (read : Json → Option β) (value : Json) : Option (List β) :=
  value.items?.bind fun items => items.mapM read

mutual

def toJson : Attribute → Json
  | .text value => .object [("S", .string value)]
  | .number value => .object [("N", .string value)]
  | .octets value => .object [("B", octetsJson value)]
  | .texts values => .object [("SS", .array (values.map .string))]
  | .numbers values => .object [("NS", .array (values.map .string))]
  | .octetStrings values => .object [("BS", .array (values.map octetsJson))]
  | .truth value => .object [("BOOL", .bool value)]
  | .null value => .object [("NULL", .bool value)]
  | .list values => .object [("L", .array (listJson values))]
  | .map members => .object [("M", .object (membersJson members))]

def listJson : List Attribute → List Json
  | [] => []
  | value :: rest => toJson value :: listJson rest

def membersJson : List (String × Attribute) → List (String × Json)
  | [] => []
  | (name, value) :: rest => (name, toJson value) :: membersJson rest

end

mutual

def ofJson? : Json → Option Attribute
  | .object members => ofMembers? members
  | _ => none

/-- The attribute of an object with one member that is not null. -/
def ofMembers? : List (String × Json) → Option Attribute
  | [] => none
  | (kind, value) :: rest =>
    if value.isNull then ofMembers? rest
    else if rest.all fun entry => entry.2.isNull then
      match kind, value with
      | "S", .string content => some (.text content)
      | "N", .string content => some (.number content)
      | "B", value => (octets? value).map .octets
      | "SS", value => (listOf? Json.string? value).map .texts
      | "NS", value => (listOf? Json.string? value).map .numbers
      | "BS", value => (listOf? octets? value).map .octetStrings
      | "BOOL", .bool value => some (.truth value)
      | "NULL", .bool value => some (.null value)
      | "L", .array items => (ofItems? items).map .list
      | "M", .object members => (ofEntries? members).map .map
      | _, _ => none
    else none

def ofItems? : List Json → Option (List Attribute)
  | [] => some []
  | item :: rest =>
    match ofJson? item, ofItems? rest with
    | some value, some values => some (value :: values)
    | _, _ => none

def ofEntries? : List (String × Json) → Option (List (String × Attribute))
  | [] => some []
  | (name, item) :: rest =>
    match ofJson? item, ofEntries? rest with
    | some value, some values => some ((name, value) :: values)
    | _, _ => none

end

end Attribute

namespace Item

def toJson (item : Item) : Json := .object (Attribute.membersJson item)

def ofJson? (value : Json) : Option Item := value.members?.bind Attribute.ofEntries?

end Item
end TableCopy
