import LexTree.Command.Help
import LexTree.Command.Report
import LexTree.Settings.Loader

/-!
# Running commands

A run loads the settings, opens the log, reads the input and reports. The first of
these that fails ends it.

- `Program.run` is the program: what it prints, and its exit code.
-/

namespace LexTree

/-- What a run leaves behind, besides what it adds to its log file. -/
structure Outcome where
  /-- What it prints. -/
  output : String
  /-- What it tells the user beside that. -/
  messages : String
  /-- Zero for success, one for failure, two for arguments that make no sense. -/
  exitCode : Nat
deriving DecidableEq, Repr

/-- The outcome of a run that an error ends. -/
def Outcome.failed (text : String) : Outcome := ⟨"", errorMessage text, 1⟩

namespace Program

def versionText : String := "parsekit 0.1.0\n"

/-! ## Settings -/

/-- The parts of a name that lead somewhere. -/
def partsOf (name : String) : List String :=
  (name.splitOn "/").filter fun part => part ≠ "" ∧ part ≠ "."

/-- A name without the parts that lead nowhere. -/
def plainName (name : String) : String :=
  (if name.startsWith "/" then "/" else "") ++ "/".intercalate (partsOf name)

/-- A name with `.toml` after it, if it is one that a file can have. -/
def extendedName? (name : String) : Option String :=
  match (partsOf name).getLast? with
  | none | some ".." => none
  | some _ => some (plainName name ++ ".toml")

section

variable {m : Type → Type} [Monad m]

/-- Looks for a configuration file, also with `.toml` after its name. -/
def findConfig (files : FileAccess m) (name : String) : m Settings.SourceFile := do
  if ← files.isFile name then
    return ⟨name, plainName name, some (textOfFile (← files.read name))⟩
  match extendedName? name with
  | none => return ⟨name, plainName name, none⟩
  | some extended =>
    if ← files.isFile extended then
      return ⟨name, extended, some (textOfFile (← files.read extended))⟩
    else return ⟨name, plainName name, none⟩

/-- The settings of a run. The verbosity from the command line wins over the configuration
file, which wins over the environment. -/
def loadSettings (files : FileAccess m) (environment : List (String × String))
    (i : Invocation) : m (Except SettingsError Settings) := do
  let loader := Settings.Loader.new.addEnvironment environment
  let loader ←
    match i.config with
    | some name => pure (loader.addFile (← findConfig files name))
    | none => pure loader
  return do
    let loader ←
      match i.level with
      | some level => loader.override "logging.level" (.text level)
      | none => pure loader
    loader.build

/-! ## Commands -/

/-- Reads the input with a name. -/
def readInput (files : FileAccess m) (name : String) : m (Except FileError String) := do
  if name = "-" then return textOfFile (.ok (← files.input))
  else return textOfFile (← files.read name)

/-- The report on the input with a name. -/
def reportInput (files : FileAccess m) (name : String) (report : String → Report) : m Report := do
  match ← readInput files name with
  | .ok source => return report source
  | .error e => return .failed ("cannot read " ++ name ++ ": " ++ e.message)

/-- The report of a command. A format on the command line wins over the settings. -/
def report (files : FileAccess m) (settings : OutputSettings) : Command → m Report
  | .tokens input format =>
    reportInput files input fun source => .ofTokens source (format.getD settings.tokens)
  | .tree input format =>
    reportInput files input fun source => .ofTree source (format.getD settings.tree)
  | .formats => return .ofFormats

/-- Prints a report, and logs its events to the terminal or to the log file. -/
def finish (files : FileAccess m) (settings : LoggingSettings) (time : String) (r : Report) :
    m Outcome := do
  let records :=
    (r.log.visible settings.verbosity).records settings.format settings.toTerminal time
  let exitCode := if r.succeeded then 0 else 1
  if settings.toTerminal then return ⟨r.output, records ++ r.messages, exitCode⟩
  else
    files.append settings.file records.toUTF8
    return ⟨r.output, r.messages, exitCode⟩

/-- Why the log file cannot be opened. -/
def logFileMessage (name : String) (e : FileError) : String :=
  "cannot open log file " ++ name ++ ": " ++ e.message

/-- Opens the log, unless it goes to the terminal. -/
def openLog (files : FileAccess m) (settings : LoggingSettings) : m (Except FileError Unit) :=
  if settings.toTerminal then return .ok () else files.openLog settings.file

/-- Runs a command. -/
def perform (files : FileAccess m) (environment : List (String × String)) (time : String)
    (i : Invocation) : m Outcome := do
  match ← loadSettings files environment i with
  | .error e => return .failed ("configuration error: " ++ e.message)
  | .ok settings =>
    match ← openLog files settings.logging with
    | .error e => return .failed (logFileMessage settings.logging.file e)
    | .ok () =>
      finish files settings.logging time (← report files settings.output i.command)

/-- Runs the program with some arguments and environment variables, at some time. -/
def run (files : FileAccess m) (arguments : List String) (environment : List (String × String))
    (time : String) : m Outcome :=
  match Request.ofArguments? arguments with
  | some (.run i) => perform files environment time i
  | some .version => return ⟨versionText, "", 0⟩
  | some (.help topic) => return ⟨topic.page, "", 0⟩
  | none => return ⟨"", Topic.program.page, 2⟩

end

end Program

end LexTree
