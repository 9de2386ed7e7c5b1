import Compositor.CommandLine.Flag
import Compositor.CommandLine.Integer
import Compositor.Text.ControlSequence

namespace Compositor.CommandLine

structure Options where
  config : String := defaultConfig
  display : Option String := none
  debug : Bool := false
  json : Bool := false
  noStencil : Bool := false
  noOverlay : Bool := false
  frames : UInt32 := 0
deriving DecidableEq, Repr

inductive UsageError where
  | unexpected (argument : String)
  | valueMissing (flag : Flag)
  | valueUnexpected (flag : Flag) (value : String)
  | repeated (flag : Flag)
  | invalidValue (flag : Flag) (value : String) (cause : IntegerError)
deriving DecidableEq, Repr

/-- Arguments are quoted without the control sequences in them. -/
def UsageError.message : UsageError → String
  | unexpected argument =>
    "unexpected argument '" ++ Text.withoutControls argument ++ "' found"
  | valueMissing flag => "a value is required for '" ++ flag.usage ++ "' but none was supplied"
  | valueUnexpected flag value =>
    "unexpected value '" ++ Text.withoutControls value ++ "' for '" ++ flag.usage ++
      "' found; no more were expected"
  | repeated flag => "the argument '" ++ flag.usage ++ "' cannot be used multiple times"
  | invalidValue flag value cause =>
    "invalid value '" ++ Text.withoutControls value ++ "' for '" ++ flag.usage ++ "': " ++
      cause.message

inductive Stop where
  | help
  | version
  | misuse (error : UsageError)
deriving DecidableEq, Repr

inductive Argument where
  /-- Two dashes: no flags follow. -/
  | separator
  | long (name : String) (value : Option String)
  | short (letters : List Char)
  /-- A value, or an argument that has no place; a single dash is one of them. -/
  | plain

def Argument.ofString (text : String) : Argument :=
  match text.toList with
  | ['-', '-'] => separator
  | '-' :: '-' :: rest =>
    match rest.dropWhile (· ≠ '=') with
    | [] => long (String.ofList rest) none
    | _ :: value => long (String.ofList (rest.takeWhile (· ≠ '='))) (String.ofList value)
  | '-' :: letter :: letters => short (letter :: letters)
  | _ => plain

/-- The flags so far, and the last one as long as its value is not looked at. -/
structure Scan where
  options : Options := {}
  seen : List Flag := []
  /-- A flag whose value is the argument after it, if that has come. -/
  pending : Option (Flag × Option String) := none

namespace Scan

/-- Takes a flag with its value; each may come once. -/
def record (scan : Scan) (flag : Flag) (value : String) : Except Stop Scan := do
  if flag ∈ scan.seen then
    .error (.misuse (.repeated flag))
  let old := scan.options
  let options ← match flag with
    | .config => .ok { old with config := value }
    | .display => .ok { old with display := some value }
    | .debug => .ok { old with debug := true }
    | .json => .ok { old with json := true }
    | .noStencil => .ok { old with noStencil := true }
    | .noOverlay => .ok { old with noOverlay := true }
    | .frames =>
      match readUInt32 value with
      | .ok frames => .ok { old with frames }
      | .error cause => .error (.misuse (.invalidValue flag value cause))
    | .help => .error .help
    | .version => .error .version
  return { options, seen := flag :: scan.seen, pending := none }

def settle (scan : Scan) : Except Stop Scan :=
  match scan.pending with
  | none => .ok scan
  | some (flag, none) => .error (.misuse (.valueMissing flag))
  | some (flag, some value) => scan.record flag value

def flag (scan : Scan) (flag : Flag) (value : Option String) : Except Stop Scan := do
  match value with
  | some value =>
    if flag.takesValue then (← scan.settle).record flag value
    else .error (.misuse (.valueUnexpected flag value))
  | none =>
    let scan ← scan.settle
    if flag.takesValue then return { scan with pending := some (flag, none) }
    else scan.record flag ""

/-- Takes flags by their letters; what follows a flag with a value is that value. -/
def letters (scan : Scan) : List Char → Except Stop Scan
  | [] => .ok scan
  | letter :: rest =>
    match Flag.ofShort? letter with
    | none => .error (.misuse (.unexpected ("-" ++ letter.toString)))
    | some flag =>
      if flag.takesValue then
        scan.flag flag <| match rest with
          | [] => none
          | '=' :: value => some (String.ofList value)
          | value => some (String.ofList value)
      else do
        letters (← scan.flag flag none) rest

/-- Takes the arguments in order. An argument that has no place is reported at once. -/
def arguments (scan : Scan) : List String → Except Stop Scan
  | [] => scan.settle
  | argument :: rest =>
    match Argument.ofString argument with
    | .separator =>
      match rest with
      | [] => scan.settle
      | surplus :: _ => .error (.misuse (.unexpected surplus))
    | .long name value =>
      match Flag.ofLong? name with
      | none => .error (.misuse (.unexpected ("--" ++ name)))
      | some flag => do arguments (← scan.flag flag value) rest
    | .short letters => do arguments (← scan.letters letters) rest
    | .plain =>
      match scan.pending with
      | some (flag, none) => arguments { scan with pending := some (flag, some argument) } rest
      | _ => .error (.misuse (.unexpected argument))

end Scan

/-- What the arguments ask for, or why nothing is run. -/
def Options.ofArguments (arguments : List String) : Except Stop Options :=
  (Scan.arguments {} arguments).map (·.options)

end Compositor.CommandLine
