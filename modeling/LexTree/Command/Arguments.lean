import LexTree.Format

/-!
# Command-line arguments

The program takes a command with its input and, before or after the command, the
name of a configuration file and a verbosity. The value of an option follows it,
after `=` or as the next argument; one that looks like an option has to follow
`=`. A value that is an argument of its own is looked at when the next one comes,
so that a question for help before that is answered whatever the value.

- `Request.ofArguments?` reads what is asked for; it gives nothing if the
  arguments make no sense.
-/

namespace LexTree

/-- What the program does. The input is a file, or `-`. -/
inductive Command where
  | tokens (input : String) (format : Option TokenFormat)
  | tree (input : String) (format : Option TreeFormat)
  | formats
deriving DecidableEq, Repr

structure Invocation where
  command : Command
  /-- The configuration file. -/
  config : Option String
  /-- The name of a verbosity. -/
  level : Option String
deriving DecidableEq, Repr

/-- What help is about. -/
inductive Topic where
  | program
  | tokens
  | tree
  | formats
  /-- Help itself. -/
  | help
deriving DecidableEq, Repr

inductive Request where
  | run (i : Invocation)
  | version
  | help (about : Topic)
deriving DecidableEq, Repr

namespace Request

/-! ## Words -/

/-- An argument by its shape. -/
inductive Word where
  | long (name : String) (value : Option String)
  | short (letter : Char) (rest : List Char)
  /-- No options come after it. -/
  | endOfOptions
  | plain (text : String)

def Word.of (argument : String) : Word :=
  match argument.toList with
  | ['-', '-'] => .endOfOptions
  | '-' :: '-' :: rest =>
    let name := String.ofList (rest.takeWhile (· ≠ '='))
    match rest.dropWhile (· ≠ '=') with
    | _ :: value => .long name (some (String.ofList value))
    | [] => .long name none
  | '-' :: letter :: rest => .short letter rest
  | _ => .plain argument

/-! ## Options -/

/-- What a value is for. -/
inductive Slot where
  | config
  | level
  | format
  | input
deriving DecidableEq, Repr

/-- The option with a name. -/
def Slot.ofLong? : String → Option Slot
  | "config" => some .config
  | "log-level" => some .level
  | "format" => some .format
  | _ => none

/-- The option with a letter. -/
def Slot.ofShort? : Char → Option Slot
  | 'c' => some .config
  | 'f' => some .format
  | _ => none

/-- Where an argument stands: before the command or after it. -/
inductive Scope where
  | program
  | tokens
  | tree
  | formats
deriving DecidableEq, Repr

namespace Scope

/-- The scope after a command. -/
def ofCommand? : String → Option Scope
  | "tokens" => some tokens
  | "tree" => some tree
  | "formats" => some formats
  | _ => none

def topic : Scope → Topic
  | program => .program
  | tokens => .tokens
  | tree => .tree
  | formats => .formats

/-- Whether a value for a slot can be given. -/
def takes (s : Scope) : Slot → Bool
  | .config | .level => true
  | .format | .input => s = tokens || s = tree

/-- Whether a value for a slot makes sense: a file has a name, and a format is one of those
of the command. -/
def allows (s : Scope) (slot : Slot) (value : String) : Bool :=
  match slot, s with
  | .config, _ => !value.isEmpty
  | .format, .tokens => TokenFormat.all.any (·.name = value)
  | .format, .tree => TreeFormat.all.any (·.name = value)
  | _, _ => true

end Scope

/-- What was given in one scope. -/
structure Given where
  values : List (Slot × String)
  /-- A value that has not been looked at. -/
  latest : Option (Slot × String)
deriving DecidableEq, Repr

namespace Given

def nothing : Given := ⟨[], none⟩

def value? (g : Given) (slot : Slot) : Option String := g.values.lookup slot

/-- Adds a value, for each slot once at most. -/
def add (g : Given) (s : Scope) (slot : Slot) (value : String) : Option Given :=
  if s.takes slot && s.allows slot value && (g.value? slot).isNone then
    some { g with values := (slot, value) :: g.values }
  else none

/-- Looks at the latest value. -/
def settle (g : Given) (s : Scope) : Option Given :=
  match g.latest with
  | none => some g
  | some (slot, value) => { g with latest := none }.add s slot value

/-- Takes a value, to look at it when the next one comes. -/
def hold (g : Given) (s : Scope) (slot : Slot) (value : String) : Option Given :=
  (g.settle s).map fun g => { g with latest := some (slot, value) }

end Given

/-- What one word asks for. -/
inductive Meaning where
  /-- An option with its value. -/
  | option (slot : Slot) (value : String)
  /-- An option whose value is the next word. -/
  | awaiting (slot : Slot)
  | version
  | help
  | endOfOptions
  | plain (text : String)
  | unknown

/-- What a word asks for in a scope. The version is asked for before the command. -/
def Word.meaning (s : Scope) : Word → Meaning
  | .long "help" none => .help
  | .long "version" none => if s = .program then .version else .unknown
  | .long name value =>
    match (Slot.ofLong? name).filter s.takes, value with
    | some slot, some value => .option slot value
    | some slot, none => .awaiting slot
    | none, _ => .unknown
  | .short 'h' _ => .help
  | .short 'V' _ => if s = .program then .version else .unknown
  | .short letter rest =>
    match (Slot.ofShort? letter).filter s.takes, rest with
    | some slot, [] => .awaiting slot
    | some slot, '=' :: value => .option slot (String.ofList value)
    | some slot, value => .option slot (String.ofList value)
    | none, _ => .unknown
  | .endOfOptions => .endOfOptions
  | .plain text => .plain text

/-! ## Commands -/

/-- What the words of a scope amount to. -/
inductive Scanned where
  /-- What was given, and what follows the first plain word before the command, that word
  included. -/
  | given (g : Given) (rest : List String)
  | version
  | help

/-- Reads the words of a scope. Those that are no options are the command or inputs. -/
def scan (s : Scope) (g : Given) : List String → Option Scanned
  | [] => some (.given g [])
  | argument :: rest =>
    match (Word.of argument).meaning s with
    | .option slot value => do scan s (← (← g.settle s).add s slot value) rest
    | .awaiting slot =>
      match rest with
      | value :: rest =>
        match Word.of value with
        | .plain value => do scan s (← g.hold s slot value) rest
        | _ => none
      | [] => none
    | .version => (g.settle s).map fun _ => .version
    | .help => (g.settle s).map fun _ => .help
    | .endOfOptions =>
      if s = .program then none
      else (rest.foldlM (fun g input => Given.hold g s .input input) g).map (.given · [])
    | .plain text =>
      if s = .program then some (.given g (text :: rest))
      else do scan s (← g.hold s .input text) rest
    | .unknown => none

/-- The format with a name, if one is given. -/
def formatOf {α : Type} (ofName? : String → Except FormatError α) :
    Option String → Option (Option α)
  | none => some none
  | some name =>
    match ofName? name with
    | .ok format => some (some format)
    | .error _ => none

/-- The command of a scope with what is given after it. -/
def commandOf (s : Scope) (g : Given) : Option Command :=
  let input := g.value? .input
  let format := g.value? .format
  match s with
  | .tokens => do return .tokens (← input) (← formatOf TokenFormat.ofName? format)
  | .tree => do return .tree (← input) (← formatOf TreeFormat.ofName? format)
  | .formats => some .formats
  | .program => none

/-- What some words ask help about: one command at most. -/
def topicOf? : List String → Option Topic
  | [] => some .program
  | ["help"] => some .help
  | [name] => (Scope.ofCommand? name).map Scope.topic
  | _ => none

/-- Reads the arguments. What is given after the command wins. -/
def ofArguments? (arguments : List String) : Option Request := do
  match ← scan .program .nothing arguments with
  | .version => return .version
  | .help => return .help .program
  | .given _ [] => none
  | .given _ ("help" :: rest) => (topicOf? rest).map .help
  | .given before (name :: rest) =>
    let s ← Scope.ofCommand? name
    match ← scan s .nothing rest with
    | .version => return .version
    | .help => return .help s.topic
    | .given after _ =>
      let after ← after.settle s
      let command ← commandOf s after
      let before ← before.settle .program
      let value? (slot : Slot) := after.value? slot <|> before.value? slot
      return .run ⟨command, value? .config, value? .level⟩

end Request

end LexTree
