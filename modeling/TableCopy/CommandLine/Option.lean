import TableCopy.Number.Reading

/-!
# Options of the command line

An option has a long name, perhaps an alias and a letter, and takes a value or
none. `Setting.read` turns the text of a value into what the option holds, or says
why it cannot.
-/

namespace TableCopy
namespace CommandLine

inductive Setting
  | sourceEndpoint
  | sourceTable
  | destinationEndpoint
  | destinationTable
  | readRatio
  | writeRatio
  | rate
  | maxWriteThreads
  | consistentScan
  | crossAccount
  | sourceProfile
  | destinationProfile
  | sectionIndex
  | totalSections
  | json
  | verbose
  | help
  | version
  deriving DecidableEq, Repr

/-- What an option holds. -/
inductive Value
  | text (value : String)
  | decimal (value : Float)
  | natural (value : Nat)
  | integer (value : Int)

/-- The form of the value of an option. -/
inductive Form
  | text
  | decimal
  | natural
  | integer
  deriving DecidableEq, Repr

namespace Setting

def all : List Setting :=
  [sourceEndpoint, sourceTable, destinationEndpoint, destinationTable, readRatio, writeRatio, rate,
    maxWriteThreads, consistentScan, crossAccount, sourceProfile, destinationProfile, sectionIndex,
    totalSections, json, verbose, help, version]

def longName : Setting → String
  | sourceEndpoint => "source-endpoint"
  | sourceTable => "source-table"
  | destinationEndpoint => "destination-endpoint"
  | destinationTable => "destination-table"
  | readRatio => "read-throughput-ratio"
  | writeRatio => "write-throughput-ratio"
  | rate => "throughput-rate"
  | maxWriteThreads => "max-write-threads"
  | consistentScan => "consistent-scan"
  | crossAccount => "cross-account"
  | sourceProfile => "source-profile"
  | destinationProfile => "destination-profile"
  | sectionIndex => "section"
  | totalSections => "total-sections"
  | json => "json"
  | verbose => "verbose"
  | help => "help"
  | version => "version"

/-- A second long name. -/
def alias? : Setting → Option String
  | sourceEndpoint => some "sourceEndpoint"
  | sourceTable => some "sourceTable"
  | destinationEndpoint => some "destinationEndpoint"
  | destinationTable => some "destinationTable"
  | readRatio => some "readThroughputRatio"
  | writeRatio => some "writeThroughputRatio"
  | rate => some "throughputRate"
  | maxWriteThreads => some "maxWriteThreads"
  | consistentScan => some "consistentScan"
  | crossAccount => some "crossAccount"
  | sourceProfile => some "sourceProfile"
  | destinationProfile => some "destinationProfile"
  | totalSections => some "totalSections"
  | _ => none

def letter? : Setting → Option Char
  | verbose => some 'v'
  | help => some 'h'
  | version => some 'V'
  | _ => none

/-- The form of the value, for an option that takes one. -/
def form? : Setting → Option Form
  | sourceEndpoint | sourceTable | destinationEndpoint | destinationTable => some .text
  | sourceProfile | destinationProfile => some .text
  | readRatio | writeRatio | rate => some .decimal
  | maxWriteThreads => some .natural
  | sectionIndex | totalSections => some .integer
  | _ => none

def takesValue (s : Setting) : Bool := s.form?.isSome

/-- Whether whatever follows the option is its value, even if it looks like an option. -/
def takesAnything : Setting → Bool
  | sectionIndex | totalSections => true
  | _ => false

/-- The name of the value in messages. -/
def placeholder : Setting → String
  | sourceEndpoint | destinationEndpoint => "ENDPOINT"
  | sourceTable | destinationTable => "TABLE"
  | sourceProfile | destinationProfile => "PROFILE"
  | readRatio => "READ_THROUGHPUT_RATIO"
  | writeRatio => "WRITE_THROUGHPUT_RATIO"
  | rate => "THROUGHPUT_RATE"
  | maxWriteThreads => "MAX_WRITE_THREADS"
  | sectionIndex => "SECTION"
  | totalSections => "TOTAL_SECTIONS"
  | _ => ""

/-- An option in messages: with its value, or with dots when it may be repeated. -/
def shown (s : Setting) : String :=
  let name := "--" ++ s.longName
  if s.takesValue then name ++ " <" ++ s.placeholder ++ ">"
  else if s = verbose then name ++ "..."
  else name

def ofLong? (name : String) : Option Setting :=
  all.find? fun s => s.longName = name || s.alias? = some name

def ofLetter? (letter : Char) : Option Setting :=
  all.find? fun s => s.letter? = some letter

/-- Why a text is no whole number. The digits are looked at from the left. -/
inductive Flaw
  | empty
  | badDigit
  | tooLarge
  | tooSmall
  deriving DecidableEq, Repr

def Flaw.message : Flaw → String
  | .empty => "cannot parse integer from empty string"
  | .badDigit => "invalid digit found in string"
  | .tooLarge => "number too large to fit in target type"
  | .tooSmall => "number too small to fit in target type"

/-- Read digits up to a greatest value; beyond it the number has the given flaw. -/
def digits (most : Nat) (beyond : Flaw) (text : List Char) : Except Flaw Nat :=
  text.foldlM (fun n c =>
    if !c.isDigit then .error .badDigit
    else
      let next := 10 * n + (c.toNat - '0'.toNat)
      if most < next then .error beyond else .ok next) 0

/-- A word of 64 bits. -/
def naturalOf : List Char → Except Flaw Nat
  | [] => .error .empty
  | ['+'] => .error .badDigit
  | '+' :: rest => digits (Word.greatest 64) .tooLarge rest
  | text => digits (Word.greatest 64) .tooLarge text

/-- A signed word of 64 bits. -/
def integerOf : List Char → Except Flaw Int
  | [] => .error .empty
  | ['+'] | ['-'] => .error .badDigit
  | '+' :: rest => (digits (Word.signedEnd 64 - 1) .tooLarge rest).map Int.ofNat
  | '-' :: rest => (digits (Word.signedEnd 64) .tooSmall rest).map fun n => -(n : Int)
  | text => (digits (Word.signedEnd 64 - 1) .tooLarge text).map Int.ofNat

/-- Read the value of an option, or say what is wrong with it. -/
def read (s : Setting) (text : String) : Except String Value :=
  match s.form? with
  | some .decimal =>
    match Reading.float? text.toList with
    | some x => .ok (.decimal x)
    | none =>
      .error (if text = "" then "cannot parse float from empty string" else "invalid float literal")
  | some .natural => (naturalOf text.toList).mapError Flaw.message |>.map Value.natural
  | some .integer => (integerOf text.toList).mapError Flaw.message |>.map Value.integer
  | _ => .ok (.text text)

end Setting
end CommandLine
end TableCopy
