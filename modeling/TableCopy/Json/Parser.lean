import TableCopy.Json.Basic

/-!
# Reading JSON

A recursive descent over the characters of a text. Each reader takes the rest
of the text and gives a value with what follows it. The fuel bounds the nesting
and the number of items; the length of the text is always enough.
-/

namespace TableCopy
namespace Json

/-- Skip the blanks allowed between tokens. -/
def skip (text : List Char) : List Char :=
  text.dropWhile fun c => c = ' ' || c = '\n' || c = '\r' || c = '\t'

def hexValue? (c : Char) : Option Nat :=
  if '0' ≤ c && c ≤ '9' then some (c.toNat - '0'.toNat)
  else if 'a' ≤ c && c ≤ 'f' then some (c.toNat - 'a'.toNat + 10)
  else if 'A' ≤ c && c ≤ 'F' then some (c.toNat - 'A'.toNat + 10)
  else none

/-- Four hexadecimal digits. -/
def hexWord? (a b c d : Char) : Option Nat := do
  return (((← hexValue? a) * 16 + (← hexValue? b)) * 16 + (← hexValue? c)) * 16 + (← hexValue? d)

def isHighSurrogate (n : Nat) : Bool := 0xd800 ≤ n && n < 0xdc00

def isLowSurrogate (n : Nat) : Bool := 0xdc00 ≤ n && n < 0xe000

/-- The character named by the letter after a backslash. -/
def escaped? : Char → Option Char
  | '"' => some '"'
  | '\\' => some '\\'
  | '/' => some '/'
  | 'b' => some (Char.ofNat 8)
  | 'f' => some (Char.ofNat 12)
  | 'n' => some '\n'
  | 'r' => some '\r'
  | 't' => some '\t'
  | _ => none

/-- The rest of a quoted text, after its opening quote. Two escaped surrogates
make one character, and one alone makes none. -/
def parseText (collected : List Char) : List Char → Option (String × List Char)
  | '"' :: rest => some (String.ofList collected.reverse, rest)
  | '\\' :: 'u' :: a :: b :: c :: d :: rest =>
    match hexWord? a b c d with
    | none => none
    | some first =>
      if isHighSurrogate first then
        match rest with
        | '\\' :: 'u' :: e :: f :: g :: h :: tail =>
          match hexWord? e f g h with
          | some second =>
            if isLowSurrogate second then
              let code := 0x10000 + (first - 0xd800) * 1024 + (second - 0xdc00)
              parseText (Char.ofNat code :: collected) tail
            else none
          | none => none
        | _ => none
      else if isLowSurrogate first then none
      else parseText (Char.ofNat first :: collected) rest
  | '\\' :: c :: rest =>
    match escaped? c with
    | some found => parseText (found :: collected) rest
    | none => none
  | c :: rest => if c.toNat < 32 then none else parseText (c :: collected) rest
  | [] => none

/-- Whether a character can stand inside a number. -/
def isNumberChar (c : Char) : Bool :=
  c.isDigit || c = '-' || c = '+' || c = '.' || c = 'e' || c = 'E'

/-- The characters of a number without its sign: no leading zero, and digits on
both sides of a point. -/
def isUnsignedNumber (text : List Char) : Bool :=
  let whole := text.takeWhile Char.isDigit
  let rest := text.dropWhile Char.isDigit
  let plain := !whole.isEmpty && (whole.length = 1 || whole.head? != some '0')
  let afterPoint :=
    match rest with
    | '.' :: tail =>
      if (tail.takeWhile Char.isDigit).isEmpty then none else some (tail.dropWhile Char.isDigit)
    | _ => some rest
  plain && (afterPoint.bind Reading.exponent?).isSome

def isNumber : List Char → Bool
  | '-' :: rest => isUnsignedNumber rest
  | text => isUnsignedNumber text

mutual

/-- A value at the start of a text. -/
def parseValue (fuel : Nat) (text : List Char) : Option (Json × List Char) :=
  match fuel with
  | 0 => none
  | fuel + 1 =>
    match skip text with
    | 'n' :: 'u' :: 'l' :: 'l' :: rest => some (.null, rest)
    | 't' :: 'r' :: 'u' :: 'e' :: rest => some (.bool true, rest)
    | 'f' :: 'a' :: 'l' :: 's' :: 'e' :: rest => some (.bool false, rest)
    | '"' :: rest => (parseText [] rest).map fun (value, tail) => (.string value, tail)
    | '[' :: rest =>
      match skip rest with
      | ']' :: tail => some (.array [], tail)
      | tail => (parseItems fuel [] tail).map fun (items, tail) => (.array items, tail)
    | '{' :: rest =>
      match skip rest with
      | '}' :: tail => some (.object [], tail)
      | tail => (parseMembers fuel [] tail).map fun (members, tail) => (.object members, tail)
    | tail =>
      let digits := tail.takeWhile isNumberChar
      if isNumber digits then some (.number (String.ofList digits), tail.dropWhile isNumberChar)
      else none

/-- The items of an array, up to its closing bracket. -/
def parseItems (fuel : Nat) (collected : List Json) (text : List Char) :
    Option (List Json × List Char) :=
  match fuel with
  | 0 => none
  | fuel + 1 =>
    match parseValue fuel text with
    | none => none
    | some (item, rest) =>
      match skip rest with
      | ',' :: tail => parseItems fuel (item :: collected) tail
      | ']' :: tail => some ((item :: collected).reverse, tail)
      | _ => none

/-- The members of an object, up to its closing brace. -/
def parseMembers (fuel : Nat) (collected : List (String × Json)) (text : List Char) :
    Option (List (String × Json) × List Char) :=
  match fuel with
  | 0 => none
  | fuel + 1 =>
    match skip text with
    | '"' :: start =>
      match parseText [] start with
      | none => none
      | some (name, afterName) =>
        match skip afterName with
        | ':' :: body =>
          match parseValue fuel body with
          | none => none
          | some (value, rest) =>
            match skip rest with
            | ',' :: tail => parseMembers fuel ((name, value) :: collected) tail
            | '}' :: tail => some (((name, value) :: collected).reverse, tail)
            | _ => none
        | _ => none
    | _ => none

end

/-- The value written by a whole text. -/
def parse? (text : String) : Option Json :=
  let chars := text.toList
  match parseValue (2 * chars.length + 1) chars with
  | some (value, rest) => if (skip rest).isEmpty then some value else none
  | none => none

end Json
end TableCopy
