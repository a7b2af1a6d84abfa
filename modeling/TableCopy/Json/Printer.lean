import TableCopy.Json.Basic

/-!
# Printing JSON

Two layouts: one line without blanks, and one member or item a line with an
indent of two. Control characters, quotes and backslashes are escaped; all
other characters stand for themselves.
-/

namespace TableCopy
namespace Json

/-- A character as a lower-case hexadecimal digit. -/
def hexDigit (n : Nat) : Char :=
  (Nat.digitChar (n % 16))

/-- One character inside a quoted text. -/
def escape (c : Char) : List Char :=
  if c = '"' then ['\\', '"']
  else if c = '\\' then ['\\', '\\']
  else if c = '\n' then ['\\', 'n']
  else if c = '\r' then ['\\', 'r']
  else if c = '\t' then ['\\', 't']
  else if c.toNat = 8 then ['\\', 'b']
  else if c.toNat = 12 then ['\\', 'f']
  else if c.toNat < 32 then
    ['\\', 'u', '0', '0', hexDigit (c.toNat / 16), hexDigit c.toNat]
  else [c]

/-- A text in quotes. -/
def quote (text : String) : String :=
  "\"" ++ String.ofList (text.toList.flatMap escape) ++ "\""

mutual

/-- The pieces of a value on one line, in order. -/
def pieces : Json → List String
  | .null => ["null"]
  | .bool true => ["true"]
  | .bool false => ["false"]
  | .number text => [text]
  | .string value => [quote value]
  | .array items => "[" :: (itemPieces items ++ ["]"])
  | .object members => "\x7b" :: (memberPieces members ++ ["\x7d"])

def itemPieces : List Json → List String
  | [] => []
  | [item] => pieces item
  | item :: rest => pieces item ++ "," :: itemPieces rest

def memberPieces : List (String × Json) → List String
  | [] => []
  | [(name, value)] => quote name :: ":" :: pieces value
  | (name, value) :: rest => quote name :: ":" :: (pieces value ++ "," :: memberPieces rest)

end

/-- One line without blanks. -/
def compact (value : Json) : String := String.join value.pieces

/-- The start of a line at an indent. -/
def newline (indent : Nat) : String := "\n" ++ "".pushn ' ' indent

mutual

/-- Several lines; `indent` is that of the line on which the value starts. -/
def prettyAt (indent : Nat) : Json → String
  | .array [] => "[]"
  | .array (item :: rest) =>
    "[" ++ prettyItems (indent + 2) (item :: rest) ++ newline indent ++ "]"
  | .object [] => "\x7b\x7d"
  | .object (member :: rest) =>
    "\x7b" ++ prettyMembers (indent + 2) (member :: rest) ++ newline indent ++ "\x7d"
  | .null => "null"
  | .bool true => "true"
  | .bool false => "false"
  | .number text => text
  | .string value => quote value

def prettyItems (indent : Nat) : List Json → String
  | [] => ""
  | [item] => newline indent ++ prettyAt indent item
  | item :: rest => newline indent ++ prettyAt indent item ++ "," ++ prettyItems indent rest

def prettyMembers (indent : Nat) : List (String × Json) → String
  | [] => ""
  | [(name, value)] => newline indent ++ quote name ++ ": " ++ prettyAt indent value
  | (name, value) :: rest =>
    newline indent ++ quote name ++ ": " ++ prettyAt indent value ++ "," ++
      prettyMembers indent rest

end

def pretty (value : Json) : String := value.prettyAt 0

end Json
end TableCopy
