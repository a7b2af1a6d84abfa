import TableCopy.Text.Visible

/-!
# Quoted text in messages

Text from outside is shown between double quotes. Quotes and backslashes are
marked by a backslash, line feeds, carriage returns, tabs and nulls by a letter
or digit, and all other characters without a form of their own by their number.
-/

namespace TableCopy
namespace Text

/-- The hexadecimal digits of a code point. -/
def codePoint (c : Char) : List Char := Nat.toDigits 16 c.toNat

/-- One character between quotes. -/
def quoteChar (c : Char) : List Char :=
  if c = '"' || c = '\\' then ['\\', c]
  else if c = '\n' then ['\\', 'n']
  else if c = '\r' then ['\\', 'r']
  else if c = '\t' then ['\\', 't']
  else if c.toNat = 0 then ['\\', '0']
  else if isVisible c then [c]
  else ['\\', 'u', '\x7b'] ++ codePoint c ++ ['\x7d']

def quoteChars (text : List Char) : List Char := '"' :: (text.flatMap quoteChar ++ ['"'])

/-- A text between quotes. -/
def quoted (text : String) : String := String.ofList (quoteChars text.toList)

end Text
end TableCopy
