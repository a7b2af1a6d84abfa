import TableCopy.Number.Reading

/-!
# Paths of constants

A path is a name followed by any number of parts, each a dot with a name or a
position between brackets. Names consist of letters, digits, underscores, hyphens
and spaces. A position is a whole number of a signed 64-bit word, with or without
blanks around it. `isPath` tells the paths among all texts.
-/

namespace TableCopy
namespace Path

def isNameChar (c : Char) : Bool := c.isAlphanum || c = '_' || c = '-' || c = ' '

/-- The name at the start of a text, which may be empty. -/
def name (text : List Char) : List Char := text.takeWhile isNameChar

/-- What follows the name at the start of a text. -/
def afterName (text : List Char) : List Char := text.dropWhile isNameChar

theorem length_afterName_le (text : List Char) : (afterName text).length ≤ text.length :=
  (List.dropWhile_suffix isNameChar).length_le

/-- The blanks that may stand around a position. -/
def isSpace (c : Char) : Bool := c = ' ' || c = '\t'

def isNumberChar (c : Char) : Bool := c.isDigit || c = '-'

/-- What follows the position at the start of a text and its closing bracket; none
if there is no position. -/
def afterPosition? (text : List Char) : Option (List Char) :=
  let inner := text.dropWhile isSpace
  match (inner.dropWhile isNumberChar).dropWhile isSpace with
  | ']' :: rest =>
    (Reading.signedWord? 64 (inner.takeWhile isNumberChar)).map fun _ => rest
  | _ => none

theorem length_lt_of_afterPosition? {text rest : List Char}
    (h : afterPosition? text = some rest) : rest.length < text.length := by
  have hsuffix : ((text.dropWhile isSpace).dropWhile isNumberChar).dropWhile isSpace <:+ text :=
    ((List.dropWhile_suffix _).trans (List.dropWhile_suffix _)).trans (List.dropWhile_suffix _)
  simp only [afterPosition?] at h
  split at h
  · next tail hclose =>
    obtain ⟨-, -, rfl⟩ := Option.map_eq_some_iff.1 h
    rw [hclose] at hsuffix
    exact hsuffix.length_le
  · cases h

/-- Whether a text consists of parts that go on with a path. -/
def isTail (text : List Char) : Bool :=
  match text with
  | [] => true
  | mark :: rest =>
    if mark = '.' then !(name rest).isEmpty && isTail (afterName rest)
    else if mark = '[' then
      match h : afterPosition? rest with
      | some after =>
        have := length_lt_of_afterPosition? h
        isTail after
      | none => false
    else false
termination_by text.length
decreasing_by
  · exact Nat.lt_succ_of_le (length_afterName_le rest)
  · exact Nat.lt_succ_of_lt this

/-- Whether a text is a path. -/
def isPath (text : List Char) : Bool := !(name text).isEmpty && isTail (afterName text)

end Path
end TableCopy
