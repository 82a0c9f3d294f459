import ScriptHost.Error

/-!
# Log events

Everything a host reports while it works is an event. An event has a level, a target that says
which part of the program it comes from, and a message; the report of a failure also carries the
failed stage and the code as fields. Inside a cycle events are entered together with its number.
-/

namespace ScriptHost

inductive Level where
  | trace
  | debug
  | info
  | warn
  | error
  deriving DecidableEq, Repr

namespace Level

def name : Level → String
  | .trace => "TRACE"
  | .debug => "DEBUG"
  | .info => "INFO"
  | .warn => "WARN"
  | .error => "ERROR"

/-- How much a filter that stops at this level lets through; 0 is for one that stops everything. -/
def verbosity : Level → Nat
  | .error => 1
  | .warn => 2
  | .info => 3
  | .debug => 4
  | .trace => 5

end Level

inductive Event where
  | configFileFound (path : Path)
  | configFileMissing (path : Path)
  | libraryLoaded (path : Path)
  | probeSymbol (present : Bool)
  | hosting (script base : Path) (cycles : Nat)
  | initializing (baseDir : Path)
  | initialized (handle : Int)
  | scriptRead (path : Path) (size : Nat)
  | running (path : Path)
  | handingOver (handle : Int) (size : Nat)
  /-- A handle is released because its owner goes away. -/
  | releasing (handle : Int) (unwinding : Bool)
  | deinitialized (handle : Int)
  | cycleFinished
  | probeSucceeded
  | completed (cycles : Nat)
  /-- The program ends with a failure; `context` says what it was doing. -/
  | failed (context : String) (e : HostError)
  deriving DecidableEq, Repr

def interfaceVersion : Nat := 1

namespace Event

def level : Event → Level
  | .configFileFound _ => .debug
  | .configFileMissing _ => .debug
  | .libraryLoaded _ => .info
  | .probeSymbol _ => .debug
  | .hosting _ _ _ => .info
  | .initializing _ => .debug
  | .initialized _ => .info
  | .scriptRead _ _ => .debug
  | .running _ => .info
  | .handingOver _ _ => .debug
  | .releasing _ unwinding => if unwinding then .warn else .debug
  | .deinitialized _ => .info
  | .cycleFinished => .info
  | .probeSucceeded => .info
  | .completed _ => .info
  | .failed _ _ => .error

/-- The part of the program that an event comes from, as filters name it. -/
def target : Event → String
  | .configFileFound _ => "nshost::config::manager"
  | .configFileMissing _ => "nshost::config::manager"
  | .libraryLoaded _ => "nshost::runtime::ffi"
  | .probeSymbol _ => "nshost::runtime::ffi"
  | .hosting _ _ _ => "nshost::cli::run"
  | .initializing _ => "nshost::runtime::handle"
  | .initialized _ => "nshost::runtime::handle"
  | .scriptRead _ _ => "nshost::runtime::host"
  | .running _ => "nshost::runtime::host"
  | .handingOver _ _ => "nshost::runtime::handle"
  | .releasing _ _ => "nshost::runtime::handle"
  | .deinitialized _ => "nshost::runtime::handle"
  | .cycleFinished => "nshost::runtime::host"
  | .probeSucceeded => "nshost::runtime::host"
  | .completed _ => "nshost"
  | .failed _ _ => "nshost"

/-- The text of an event. How long a cycle took is not known here and stands as a blank to be
filled in. -/
def message : Event → String
  | .configFileFound path => s!"Loading config file {path.display}"
  | .configFileMissing path => s!"Config file {path.display} not found, using defaults"
  | .libraryLoaded path =>
    s!"Loaded runtime library {path.display} (interface v{interfaceVersion})"
  | .probeSymbol present => "Probe symbol present: " ++ (if present then "true" else "false")
  | .hosting script base cycles =>
    s!"Hosting {script.display} from {base.display} ({cycles} cycle(s))"
  | .initializing baseDir => s!"runtime_init({baseDir.display})"
  | .initialized handle => "Runtime initialized (handle " ++ Text.hexWord handle ++ ")"
  | .scriptRead path size => s!"Read entry script {path.display} ({size} bytes)"
  | .running path => s!"Running {path.display}"
  | .handingOver handle size =>
    "runtime_runscript(" ++ Text.hexWord handle ++ s!", {size} bytes)"
  | .releasing handle unwinding =>
    "Releasing runtime handle " ++ Text.hexWord handle
      ++ (if unwinding then " during unwind" else " at end of scope")
  | .deinitialized handle => "Runtime deinitialized (handle " ++ Text.hexWord handle ++ ")"
  | .cycleFinished => "Cycle finished in <elapsed>"
  | .probeSucceeded => "Runtime probe succeeded"
  | .completed cycles => s!"Completed {cycles} cycle(s)"
  | .failed context e => context ++ e.message

/-- The fields that an event carries besides its message. -/
def fields : Event → List (String × String)
  | .failed _ e => [("stage", e.stage.name), ("code", e.code)]
  | _ => []

end Event

/-- An event as it is entered in the log: inside a cycle, with the number of the cycle. -/
structure LogEntry where
  cycle : Option Nat
  event : Event
  deriving DecidableEq, Repr

end ScriptHost
