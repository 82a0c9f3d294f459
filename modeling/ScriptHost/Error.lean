import ScriptHost.Path

/-!
# Failures of a host

Every way in which hosting a script can fail is one constructor. A failure belongs to a stage of
the lifecycle, the stage decides the exit status of the program, and the code names the failure for
a machine. `diagnostic` is what a user reads last.
-/

namespace ScriptHost

/-- The stages of the lifecycle at which a host can fail. -/
inductive Stage where
  | configure
  | load
  /-- Starting the runtime, and what that needs. -/
  | start
  /-- Finding and reading the entry script. -/
  | readScript
  | probe
  deriving DecidableEq, Repr

def Stage.name : Stage → String
  | .configure => "configure"
  | .load => "load"
  | .start => "initialize"
  | .readScript => "read_script"
  | .probe => "probe"

def Stage.exitStatus : Stage → Nat
  | .configure => 78
  | .load => 69
  | .start => 70
  | .readScript => 66
  | .probe => 69

inductive HostError where
  | libraryLoad (path : Path) (reason : String)
  | missingSymbol (name : String)
  | baseDirectory (path : Path) (reason : String)
  | nonUtf8Path (path : Path)
  /-- The text named `what` has a NUL byte, so it cannot cross to the runtime. -/
  | interiorNul (what : String) (position : Nat)
  | comApartment (status : Int)
  | initializationFailure (baseDir : Path) (handle : Int)
  | entryScriptUnreadable (path : Path) (reason : String)
  | config (reason : String)
  deriving DecidableEq, Repr

/-- What the text handed to `runtime_init` is called in reports. -/
def baseDirectoryText : String := "base directory"

/-- What the text handed to `runtime_runscript` is called in reports. -/
def entryScriptText : String := "entry script"

namespace HostError

/-- The stage that failed. Of the symbols only `hello` can be missing behind a successful load, so
its absence is a failed probe. -/
def stage : HostError → Stage
  | .config _ => .configure
  | .libraryLoad _ _ => .load
  | .missingSymbol name => if name = "hello" then .probe else .load
  | .baseDirectory _ _ => .start
  | .comApartment _ => .start
  | .nonUtf8Path _ => .start
  | .initializationFailure _ _ => .start
  | .interiorNul what _ => if what = baseDirectoryText then .start else .readScript
  | .entryScriptUnreadable _ _ => .readScript

def code : HostError → String
  | .libraryLoad _ _ => "LIBRARY_LOAD"
  | .missingSymbol _ => "MISSING_SYMBOL"
  | .baseDirectory _ _ => "BASE_DIRECTORY"
  | .nonUtf8Path _ => "NON_UTF8_PATH"
  | .interiorNul _ _ => "INTERIOR_NUL"
  | .comApartment _ => "COM_APARTMENT"
  | .initializationFailure _ _ => "INITIALIZATION_FAILURE"
  | .entryScriptUnreadable _ _ => "ENTRY_SCRIPT_UNREADABLE"
  | .config _ => "CONFIG_ERROR"

def message : HostError → String
  | .libraryLoad path reason => s!"failed to load runtime library {path.display}: {reason}"
  | .missingSymbol name => "runtime library does not export `" ++ name ++ "`"
  | .baseDirectory path reason => s!"base directory {path.display} is not usable: {reason}"
  | .nonUtf8Path path => s!"path is not valid UTF-8: {path.display}"
  | .interiorNul what position => s!"{what} contains an interior NUL byte at offset {position}"
  | .comApartment status =>
    "COM apartment setup failed: HRESULT 0x" ++ Text.hex 8 (status % UInt32.size).toNat
  | .initializationFailure baseDir handle =>
    s!"runtime_init returned invalid handle {handle} for {baseDir.display}"
  | .entryScriptUnreadable path reason => s!"entry script {path.display} is unreadable: {reason}"
  | .config reason => s!"configuration error: {reason}"

def exitStatus (e : HostError) : Nat := e.stage.exitStatus

/-- The report that names code and stage. -/
def diagnostic (e : HostError) : String :=
  s!"error[{e.code}] {e.stage.name} failed: {e.message}"

end HostError

/-- How an operation ends when it does not return. A failure is reported to the caller; a panic
unwinds through the callers and releases on its way what they hold; and a panic that meets another
one while unwinding aborts the program. -/
inductive Stop where
  | failure (e : HostError)
  | panic (text : String)
  | abort
  deriving DecidableEq, Repr

end ScriptHost
