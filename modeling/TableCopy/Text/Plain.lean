/-!
# Plain text

Text from outside may hold control sequences of a terminal, which set colours and
titles, and lone control characters. `plain` leaves what is shown: the text
outside of sequences, without controls other than tabs and line ends. A tab or
line end within an ordinary sequence is shown too; whether the sequence goes on
behind it is an `Interruption`.
-/

namespace TableCopy
namespace Text

/-- Where the reading of a control sequence stands. -/
inductive Sequence
  /-- Outside of any sequence. -/
  | outside
  /-- Behind the escape character. -/
  | escape
  /-- In an escape sequence of more than two characters. -/
  | intermediate
  /-- Among the parameters of a control sequence. -/
  | parameters
  /-- In a command to the operating system, such as a title. -/
  | command
  /-- At the start of a device control string. -/
  | device
  /-- Among the parameters of a device control string. -/
  | deviceParameters
  /-- Behind the parameters of a device control string. -/
  | deviceIntermediate
  /-- In a control string, or in the contents of one for a device. -/
  | controlString
  deriving DecidableEq, Repr

/-- The controls that are shown: the tab, the line feed, the form feed and the
carriage return. -/
def isLayoutControl (c : Char) : Bool :=
  c.toNat = 0x9 || c.toNat = 0xa || c.toNat = 0xc || c.toNat = 0xd

/-- Whether a character is shown outside of sequences. -/
def isPlain (c : Char) : Bool := isLayoutControl c || (0x20 ≤ c.toNat && c.toNat ≠ 0x7f)

/-- Whether the string terminator 0x9c is among the octets of a character. -/
def hasTerminator (c : Char) : Bool := (String.utf8EncodeChar c).contains 0x9c

namespace Sequence

/-- Whether tabs and line ends are shown within a sequence. -/
def isOrdinary : Sequence → Bool
  | escape | intermediate | parameters => true
  | _ => false

/-- What the character behind the escape character begins. -/
def begun (c : Char) : Sequence :=
  if c = '[' then parameters
  else if c = ']' then command
  else if c = 'P' then device
  else if c = 'X' || c = '^' || c = '_' then controlString
  else outside

/-- Whether a character is a graphic one of ASCII, from the one numbered `first` on. -/
def isGraphicFrom (first : Nat) (c : Char) : Bool := first ≤ c.toNat && c.toNat < 0x7f

/-- Where a character leads before the contents of a device control string. A private
mark stands only in front of the parameters, and parameters only in front of other
signs; with a character that breaks this rule the contents begin at once. -/
def nextOfDevice (state : Sequence) (c : Char) : Sequence :=
  if isGraphicFrom 0x40 c then controlString
  else if isGraphicFrom 0x30 c then
    match state with
    | device => deviceParameters
    | deviceParameters => if isGraphicFrom 0x3c c then controlString else deviceParameters
    | _ => controlString
  else if isGraphicFrom 0x20 c then deviceIntermediate
  else state

/-- Where a character that is not shown leads. An escape begins anew from anywhere,
two controls cancel whatever was begun, and the others end nothing. -/
def next (state : Sequence) (c : Char) : Sequence :=
  if c.toNat = 0x1b then escape
  else if c.toNat = 0x18 || c.toNat = 0x1a then outside
  else
    match state with
    | outside => outside
    | escape =>
      if isGraphicFrom 0x30 c then begun c
      else if isGraphicFrom 0x20 c then intermediate
      else escape
    | intermediate => if isGraphicFrom 0x30 c then outside else intermediate
    | parameters => if isGraphicFrom 0x40 c then outside else parameters
    | command => if c.toNat = 0x07 then outside else command
    | device | deviceParameters | deviceIntermediate => nextOfDevice state c
    | controlString => if hasTerminator c then outside else controlString

end Sequence

/-- What becomes of an ordinary sequence behind a tab or line end within it. -/
inductive Interruption
  /-- It is over. -/
  | ends
  /-- All is shown up to the next other control, and then it goes on; a character
  beyond ASCII among that ends it. -/
  | pauses
  deriving DecidableEq, Repr

/-- Where an interrupted sequence stands. -/
def Interruption.after (interruption : Interruption) (state : Sequence) : Sequence :=
  match interruption with
  | ends => .outside
  | pauses => state

/-- What is shown of a text; `shown` tells whether characters are shown at the
moment, as they are outside of sequences and in a pause of one. -/
def plainFrom (interruption : Interruption) :
    (state : Sequence) → (shown : Bool) → List Char → List Char
  | _, _, [] => []
  | state, shown, c :: rest =>
    if shown && isPlain c then
      c :: plainFrom interruption (if c.toNat < 0x80 then state else .outside) true rest
    else if state.isOrdinary && isLayoutControl c then
      c :: plainFrom interruption (interruption.after state) true rest
    else plainFrom interruption (state.next c) (state.next c = .outside) rest

/-- A text without control sequences. -/
def plain (interruption : Interruption) (text : String) : String :=
  String.ofList (plainFrom interruption .outside true text.toList)

end Text
end TableCopy
