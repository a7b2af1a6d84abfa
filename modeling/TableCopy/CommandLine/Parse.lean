import TableCopy.CommandLine.Usage
import TableCopy.Config.Copy

/-!
# Reading a command line

Arguments are read from left to right. An option that takes a value waits for it;
the value is looked at only when the next option comes, or at the end, so that an
unknown argument is reported before a bad value in front of it. After `--` no
argument is expected any more.
-/

namespace TableCopy

/-- What a command line asks for. -/
structure CommandLine where
  source : TableEndpoint
  destination : TableEndpoint
  readRatio : Float
  writeRatio : Float
  rate : Option Float
  maxWriteThreads : Nat
  consistentScan : Bool
  crossAccount : Bool
  sectionIndex : Int
  totalSections : Int
  json : Bool
  verbose : Nat

namespace CommandLine

/-- The form of an argument. -/
inductive Token
  /-- Two dashes alone. -/
  | escape
  | long (name : String) (value : Option String)
  | letters (letters : List Char)
  | plain
  deriving DecidableEq, Repr

/-- A name, and what follows the first equals sign. -/
def Token.longOf (text : List Char) : Token :=
  let name := text.takeWhile (· ≠ '=')
  match text.dropWhile (· ≠ '=') with
  | [] => .long (String.ofList name) none
  | _ :: value => .long (String.ofList name) (some (String.ofList value))

def Token.ofArgument (argument : String) : Token :=
  match argument.toList with
  | ['-', '-'] => .escape
  | '-' :: '-' :: rest => .longOf rest
  | ['-'] => .plain
  | '-' :: flags => .letters flags
  | _ => .plain

/-- Where the reading of a command line stands. -/
structure Reader where
  given : List (Setting × Value) := []
  verbose : Nat := 0
  /-- An option whose value is not looked at yet, or still missing. -/
  pending : Option (Setting × Option String) := none
  /-- No option is expected any more. -/
  trailing : Bool := false

namespace Reader

def value? (r : Reader) (s : Setting) : Option Value := r.given.lookup s

/-- Look at the value of an option. An option is given once. -/
def set (r : Reader) (s : Setting) (text : String) : Except Stop Reader :=
  if (r.value? s).isSome then .error (.repeated s)
  else
    match s.read text with
    | .error reason => .error (.invalidValue text s reason)
    | .ok value => .ok { r with given := (s, value) :: r.given }

/-- Look at the value that is pending. -/
def resolve (r : Reader) : Except Stop Reader :=
  match r.pending with
  | none => .ok r
  | some (s, none) => .error (.missingValue s)
  | some (s, some text) => { r with pending := none }.set s text

/-- Take an option without a value. -/
def mark (r : Reader) (s : Setting) : Except Stop Reader :=
  match r.resolve with
  | .error stop => .error stop
  | .ok r =>
    match s with
    | .help => .error .helpRequested
    | .version => .error .versionRequested
    | .verbose => .ok { r with verbose := min (r.verbose + 1) 255 }
    | s => r.set s "true"

/-- Take an option by its long name. -/
def long (r : Reader) (name : String) (value : Option String) : Except Stop Reader :=
  match Setting.ofLong? name with
  | none => .error (.unknownArgument ("--" ++ name))
  | some s =>
    match s.takesValue, value with
    | true, some text =>
      match r.resolve with
      | .error stop => .error stop
      | .ok r => r.set s text
    | true, none =>
      match r.resolve with
      | .error stop => .error stop
      | .ok r => .ok { r with pending := some (s, none) }
    | false, some text => .error (.unexpectedValue text s)
    | false, none => r.mark s

/-- Take options by their letters. -/
def letters (r : Reader) : List Char → Except Stop Reader
  | [] => .ok r
  | c :: rest =>
    match Setting.ofLetter? c with
    | none => .error (.unknownArgument (String.ofList ['-', c]))
    | some s =>
      match r.mark s with
      | .error stop => .error stop
      | .ok r => r.letters rest

/-- Take an argument that is no value. -/
def take (r : Reader) (argument : String) : Except Stop Reader :=
  match Token.ofArgument argument with
  | .escape => .ok { r with trailing := true }
  | .long name value => r.long name value
  | .letters letters => r.letters letters
  | .plain => .error (.unknownArgument argument)

/-- Take one argument. -/
def step (r : Reader) (argument : String) : Except Stop Reader :=
  if r.trailing then .error (.unknownArgument argument)
  else
    match r.pending with
    | some (s, none) =>
      if s.takesAnything || Token.ofArgument argument = .plain then
        .ok { r with pending := some (s, some argument) }
      else r.take argument
    | _ => r.take argument

def text? (r : Reader) (s : Setting) : Option String :=
  match r.value? s with
  | some (.text value) => some value
  | _ => none

def decimal? (r : Reader) (s : Setting) : Option Float :=
  match r.value? s with
  | some (.decimal value) => some value
  | _ => none

def natural? (r : Reader) (s : Setting) : Option Nat :=
  match r.value? s with
  | some (.natural value) => some value
  | _ => none

def integer? (r : Reader) (s : Setting) : Option Int :=
  match r.value? s with
  | some (.integer value) => some value
  | _ => none

/-- The command line that was read. Both tables must be named. -/
def finish (r : Reader) : Except Stop CommandLine :=
  match r.resolve with
  | .error stop => .error stop
  | .ok r =>
    match r.text? .sourceTable, r.text? .destinationTable with
    | some source, some destination =>
      let d : CopyConfig Float := CopyConfig.defaults
      .ok {
        source :=
          { endpoint := r.text? .sourceEndpoint
            table := source
            profile := r.text? .sourceProfile }
        destination :=
          { endpoint := r.text? .destinationEndpoint
            table := destination
            profile := r.text? .destinationProfile }
        readRatio := (r.decimal? .readRatio).getD d.readRatio
        writeRatio := (r.decimal? .writeRatio).getD d.writeRatio
        rate := r.decimal? .rate
        maxWriteThreads := (r.natural? .maxWriteThreads).getD d.maxWriteThreads
        consistentScan := (r.value? .consistentScan).isSome
        crossAccount := (r.value? .crossAccount).isSome
        sectionIndex := (r.integer? .sectionIndex).getD d.sectionIndex
        totalSections := (r.integer? .totalSections).getD d.totalSections
        json := (r.value? .json).isSome
        verbose := r.verbose }
    | _, _ => .error .missingTable

end Reader

/-- Read a command line, the name of the program not included. -/
def parse (arguments : List String) : Except Stop CommandLine :=
  match arguments.foldlM Reader.step {} with
  | .error stop => .error stop
  | .ok reader => reader.finish

/-- The parameters of the copy. A rate of zero counts as none. -/
def toConfig (c : CommandLine) : CopyConfig Float where
  source := c.source
  destination := c.destination
  readRatio := c.readRatio
  writeRatio := c.writeRatio
  rate := c.rate.filter fun rate => rate != 0
  maxWriteThreads := c.maxWriteThreads
  consistentScan := c.consistentScan
  crossAccount := c.crossAccount
  sectionIndex := c.sectionIndex
  totalSections := c.totalSections

/-- What is logged, by how often the operator asked for more. -/
def logFilter (c : CommandLine) : String :=
  match c.verbose with
  | 0 => "info"
  | 1 => "dynamodb_copy=debug,copy_worker=debug,copy_planner=debug,copy_common=debug,info"
  | 2 => "debug"
  | _ => "trace"

end CommandLine
end TableCopy
