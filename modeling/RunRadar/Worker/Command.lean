import RunRadar.Config.Basic
import RunRadar.Number.Reading

/-!
# RunRadar.Worker.Command

The **command line** of the worker. Arguments are read from left to right, and the first one
that cannot be read, or that asks for help or for the version, settles what the command is.
-/

namespace RunRadar.Worker

/-- What a command line sets. -/
structure Options where
  interval : Option Nat := none
  batchSize : Option Nat := none
  /-- One pass, and no more. -/
  once : Bool := false
  printConfig : Bool := false
deriving DecidableEq

/-- What the worker is asked for. -/
inductive Command
  | work (options : Options)
  | help
  | version
deriving DecidableEq

/-- Why a command line cannot be read. -/
inductive UsageError
  | unexpected (argument : String)
  | missingValue (option : String)
  | invalidValue (option value : String)
  | repeated (option : String)
  /-- A value for an option that takes none. -/
  | needlessValue (option : String)
deriving DecidableEq

def UsageError.message : UsageError → String
  | .unexpected argument => "unexpected argument '" ++ argument ++ "' found"
  | .missingValue option => "a value is required for '" ++ option ++ "' but none was supplied"
  | .invalidValue option value => "invalid value '" ++ value ++ "' for '" ++ option ++ "'"
  | .repeated option => "the argument '" ++ option ++ "' cannot be used multiple times"
  | .needlessValue option => "unexpected value for '" ++ option ++ "' found; no more were expected"

/-! ### Arguments -/

/-- The shape of an argument. -/
inductive Argument
  /-- Two hyphens alone: no options from here on. -/
  | endOfOptions
  /-- A name behind two hyphens, perhaps with a value behind an equals sign. -/
  | long (name : String) (value : Option String)
  /-- A letter behind one hyphen. Further letters are not looked at. -/
  | short (letter : Char)
  | plain
deriving DecidableEq

/-- What stands behind the first equals sign. -/
def attached? (cs : List Char) : Option String :=
  match cs.dropWhile (· ≠ '=') with
  | [] => none
  | _ :: value => some (String.ofList value)

def Argument.ofText (text : String) : Argument :=
  match text.toList with
  | ['-', '-'] => .endOfOptions
  | '-' :: '-' :: cs => .long (String.ofList (cs.takeWhile (· ≠ '='))) (attached? cs)
  | '-' :: letter :: _ => .short letter
  | _ => .plain

/-! ### Options -/

/-- Reads a batch size. A minus sign in front of zero does no harm. -/
def readBatchSize? (text : String) : Option Nat :=
  match readInt64? text with
  | some i => if 0 ≤ i ∧ i < UInt32.size then some i.toNat else none
  | none => none

/-- Sets an option that is not set yet to what its value reads as. -/
def set (option : String) (current : Option Nat) (read : String → Option Nat) (value : String) :
    Except UsageError (Option Nat) :=
  match read value with
  | none => .error (.invalidValue option value)
  | some n => if current.isSome then .error (.repeated option) else .ok (some n)

/-- Turns on what is not on yet. -/
def turnOn (option : String) (current : Bool) (value : Option String) :
    Except UsageError Bool :=
  if value.isSome then .error (.needlessValue option)
  else if current then .error (.repeated option)
  else .ok true

/-- The options that take a value. -/
inductive ValueOption
  | interval
  | batchSize
deriving DecidableEq

def ValueOption.text : ValueOption → String
  | .interval => "--interval"
  | .batchSize => "--batch-size"

/-- What the name of an option stands for. -/
inductive OptionName
  | valued (option : ValueOption)
  | once
  | printConfig
  | help
  | version

def OptionName.ofText? (name : String) : Option OptionName :=
  if name = "interval" then some (.valued .interval)
  else if name = "batch-size" then some (.valued .batchSize)
  else if name = "once" then some .once
  else if name = "print-config" then some .printConfig
  else if name = "help" then some .help
  else if name = "version" then some .version
  else none

/-- Sets an option to a value. -/
def Options.put (options : Options) (option : ValueOption) (value : String) :
    Except UsageError Options :=
  match option with
  | .interval =>
    (set option.text options.interval (readNat? UInt64.size) value).map
      fun n => { options with interval := n }
  | .batchSize =>
    (set option.text options.batchSize readBatchSize? value).map
      fun n => { options with batchSize := n }

/-! ### Commands -/

/-- Where the reading stands. -/
inductive Reading
  | between (options : Options)
  /-- Behind an option whose value is the next argument. -/
  | awaiting (options : Options) (option : ValueOption)
  /-- Behind the end of the options. -/
  | closed (options : Options)
  /-- The command is settled. -/
  | settled (command : Command)

/-- Reads a long option. -/
def readLong (options : Options) (text name : String) (value : Option String) :
    Except UsageError Reading :=
  match OptionName.ofText? name with
  | none => .error (.unexpected text)
  | some (.valued option) =>
    match value with
    | none => .ok (.awaiting options option)
    | some value => (options.put option value).map .between
  | some .once =>
    (turnOn "--once" options.once value).map fun b => .between { options with once := b }
  | some .printConfig =>
    (turnOn "--print-config" options.printConfig value).map
      fun b => .between { options with printConfig := b }
  | some .help => (turnOn "--help" false value).map fun _ => .settled .help
  | some .version => (turnOn "--version" false value).map fun _ => .settled .version

/-- Reads an argument that no option is waiting for. -/
def readArgument (options : Options) (text : String) : Except UsageError Reading :=
  match Argument.ofText text with
  | .endOfOptions => .ok (.closed options)
  | .long name value => readLong options text name value
  | .short letter =>
    if letter = 'h' then .ok (.settled .help)
    else if letter = 'V' then .ok (.settled .version)
    else .error (.unexpected text)
  | .plain => .error (.unexpected text)

/-- Reads an argument. What looks like an option is no value of another one. -/
def Reading.next (reading : Reading) (text : String) : Except UsageError Reading :=
  match reading with
  | .between options => readArgument options text
  | .awaiting options option =>
    if Argument.ofText text = .plain then (options.put option text).map .between
    else .error (.missingValue option.text)
  | .closed _ => .error (.unexpected text)
  | .settled command => .ok (.settled command)

/-- The command when there are no more arguments. -/
def Reading.finish : Reading → Except UsageError Command
  | .between options => .ok (.work options)
  | .awaiting _ option => .error (.missingValue option.text)
  | .closed options => .ok (.work options)
  | .settled command => .ok command

/-- The command that a command line gives. -/
def Command.read (arguments : List String) : Except UsageError Command :=
  match arguments.foldlM Reading.next (.between {}) with
  | .error e => .error e
  | .ok reading => reading.finish

end RunRadar.Worker
