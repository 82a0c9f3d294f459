import ScriptHost.Error

/-!
# The configuration of a host

What to host (a base directory, a runtime library, an entry script, a number of cycles) and how to
log. Unset paths are decided later: the base directory is then that of the program itself, and the
library the default one below the base directory.
-/

namespace ScriptHost

inductive LogFormat where
  | pretty
  | json
  deriving DecidableEq, Repr

def LogFormat.name : LogFormat → String
  | .pretty => "pretty"
  | .json => "json"

def LogFormat.ofName? (s : String) : Option LogFormat :=
  if s = "pretty" then some .pretty else if s = "json" then some .json else none

def defaultEntryScript : Path := .ofString "App/main.js"

/-- The directory of the default library, below the base directory. -/
def defaultLibraryDirectory : Path := .ofString "libs"

/-- The name of the default library without the decoration that the platform adds. -/
def defaultLibraryStem : String := "nativescript"

/-- The file of the default library, below the base directory. -/
def defaultLibraryFile : Path :=
  defaultLibraryDirectory.join (.ofString ("lib" ++ defaultLibraryStem ++ ".so"))

structure RuntimeSection where
  baseDir : Option Path := none
  library : Option Path := none
  /-- Relative to the base directory. -/
  entryScript : Path := defaultEntryScript
  /-- How often the whole lifecycle is run through. -/
  cycles : UInt32 := 1
  deriving DecidableEq, Repr

structure LoggingSection where
  level : String := "info"
  format : LogFormat := .pretty
  deriving DecidableEq, Repr

structure HostConfig where
  runtime : RuntimeSection := {}
  logging : LoggingSection := {}
  deriving DecidableEq, Repr

/-- The path of the library of a host in the directory `base`. -/
def RuntimeSection.libraryPath (r : RuntimeSection) (base : Path) : Path :=
  base.join (r.library.getD defaultLibraryFile)

end ScriptHost
