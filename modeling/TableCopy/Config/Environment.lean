import TableCopy.Config.Operational
import TableCopy.Config.Path
import TableCopy.Number.Quantity
import TableCopy.Number.Reading
import TableCopy.Text.Quoted

/-!
# Constants from the environment

Variables whose name starts with `COPY__`, in any case, override operational
constants. The rest of the name is a path in which every further `__` is a dot;
a path below a constant makes it a group, which no constant can be. A value is
read as a truth value, else as a whole number, else as a number, and else stays
text; each constant then takes what can stand for a whole number.
-/

namespace TableCopy

/-- A value given to a constant. -/
inductive Override
  | truth (value : Bool)
  | whole (value : Int)
  | number (value : Float)
  | text (value : String)
  /-- Values below the constant. -/
  | group
  /-- Values at positions of the constant. -/
  | sequence

namespace Override

/-- The lower-case form of a letter of a name; the Kelvin sign is a capital k. -/
def lowerChar (c : Char) : Char := if c.toNat = 0x212a then 'k' else c.toLower

def lower (text : String) : String := String.ofList (text.toList.map lowerChar)

/-- Read the value of a variable. -/
def ofText (value : String) : Override :=
  match lower value with
  | "true" => .truth true
  | "false" => .truth false
  | _ =>
    match Reading.signedWord? 64 value.toList with
    | some n => .whole n
    | none =>
      match Reading.float? value.toList with
      | some x => .number x
      | none => .text value

/-- The rule that was broken by an override of a named constant, and where it was set. -/
def faultIn (found expected name place : String) : CopyError :=
  .invalidParameter ("operational config: invalid type: " ++ found ++ ", expected " ++ expected ++
    " for key `" ++ name ++ "`" ++ place)

/-- A fault of something that stands in no variable by itself. -/
def fault (found expected name : String) : CopyError := faultIn found expected name ""

/-- A fault of a value that a variable holds. -/
def faultOutside (found expected name : String) : CopyError :=
  faultIn found expected name " in the environment"

/-- A whole number in a message. -/
def shownWhole (n : Int) : String := "64-bit integer `" ++ toString n ++ "`"

/-- A text that stands for a truth value. -/
def switch? (text : String) : Option Int :=
  match lower text with
  | "true" | "on" | "yes" => some 1
  | "false" | "off" | "no" => some 0
  | _ => none

/-- The whole number for which a double stands: rounded half away from zero, the
nearer bound when out of range, and zero when undefined. -/
def roundBetween (low high : Int) (x : Float) : Int :=
  match Quantity.value? x with
  | some q =>
    let magnitude : Int := (Quantity.roundUpTo (Word.count 64) (if q < 0 then -q else q) : Nat)
    max low (min high (if q < 0 then -magnitude else magnitude))
  | none => if 0 < x then high else if x < 0 then low else 0

/-- The whole number for which an override stands, with bounds for rounded numbers. -/
def whole? (name : String) (low high : Int) : Override → Except CopyError Int
  | .truth value => .ok (if value then 1 else 0)
  | .whole n => .ok n
  | .number x => .ok (roundBetween low high x)
  | .text value =>
    match switch? value with
    | some n => .ok n
    | none => .error (faultOutside ("string " ++ Text.quoted value) "an integer" name)
  | .group => .error (fault "map" "an integer" name)
  | .sequence => .error (fault "sequence" "an integer" name)

/-- The number that an override gives to a constant that cannot be negative. -/
def natural? (name : String) (given : Override) : Except CopyError Nat :=
  match given.whole? name 0 (Word.greatest 64) with
  | .error e => .error e
  | .ok n =>
    if n < 0 then
      .error (faultOutside (shownWhole n) "an unsigned 64 bit or less integer" name)
    else .ok n.toNat

/-- The number that an override gives to a constant of a signed 32-bit word. -/
def signed? (name : String) (given : Override) : Except CopyError Int :=
  match given.whole? name (-Word.signedEnd 64) (Word.signedEnd 64 - 1) with
  | .error e => .error e
  | .ok n =>
    if Word.isSigned 32 n then .ok n
    else .error (fault (shownWhole n) "an signed 32 bit integer" name)

end Override

namespace Environment

/-- Replace every `__` by a dot, from the left. -/
def dotted : List Char → List Char
  | '_' :: '_' :: rest => '.' :: dotted rest
  | c :: rest => c :: dotted rest
  | [] => []

/-- The constant that a variable sets, and to what; none if its name is not ours.
A name that is no path sets a constant of that very name, which nobody reads. -/
def entry? (name value : String) : Option (String × Override) :=
  match (Override.lower name).toList with
  | 'c' :: 'o' :: 'p' :: 'y' :: '_' :: '_' :: rest =>
    let path := dotted rest
    match Path.afterName path with
    | [] => some (String.ofList path, .ofText value)
    | mark :: _ =>
      if Path.isPath path then
        some (String.ofList (Path.name path), if mark = '.' then .group else .sequence)
      else some (String.ofList path, .ofText value)
  | _ => none

/-- The override of a constant; of several the last one holds. -/
def override? (environment : List (String × String)) (name : String) : Option Override :=
  environment.reverse.findSome? fun (given, value) =>
    match entry? given value with
    | some (found, value) => if found = name then some value else none
    | none => none

/-- A constant that cannot be negative, with its default. -/
def natural (environment : List (String × String)) (name : String) (default : Nat) :
    Except CopyError Nat :=
  match override? environment name with
  | some given => given.natural? name
  | none => .ok default

/-- A constant that may be unset. -/
def signed (environment : List (String × String)) (name : String) :
    Except CopyError (Option Int) :=
  match override? environment name with
  | some given => (given.signed? name).map some
  | none => .ok none

end Environment

namespace OperationalConfig

/-- The defaults with the overrides of an environment, before they are checked. -/
def override (defaults : OperationalConfig) (environment : List (String × String)) :
    Except CopyError OperationalConfig := do
  return {
    maxConnections := ← Environment.natural environment "max_connections" defaults.maxConnections
    corePoolSize :=
      ← Environment.natural environment "executor_core_pool_size" defaults.corePoolSize
    keepAliveMillis :=
      ← Environment.natural environment "executor_keep_alive_ms" defaults.keepAliveMillis
    batchWriteSize := ← Environment.natural environment "batch_write_size" defaults.batchWriteSize
    scanPageLimit := ← Environment.signed environment "scan_page_limit" }

/-- The constants of a machine with the given number of processors, in an
environment. -/
def load (processors : Nat) (environment : List (String × String)) :
    Except CopyError OperationalConfig :=
  match (defaults processors).override environment with
  | .error e => .error e
  | .ok config =>
    match config.validate with
    | .error e => .error e
    | .ok () => .ok config

theorem validate_of_load {processors : Nat} {environment : List (String × String)}
    {config : OperationalConfig} (h : load processors environment = .ok config) :
    config.validate = .ok () := by
  unfold load at h
  split at h
  · cases h
  · split at h
    · cases h
    · cases h
      assumption

end OperationalConfig
end TableCopy
