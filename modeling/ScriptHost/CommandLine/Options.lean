import ScriptHost.CommandLine.Basic

/-!
# Options and where they may stand

Each option has a long name, mostly a short one, and takes one value. The command line has two
levels: the arguments in front of the command's name and those behind it. The global options may
stand on either level, the options of a command only behind its name.
-/

namespace ScriptHost

inductive CommandName where
  | run
  | probe
  | config
  deriving DecidableEq, Repr

namespace CommandName

def text : CommandName → String
  | .run => "run"
  | .probe => "probe"
  | .config => "config"

def about : CommandName → String
  | .run => "Run the entry script (default)"
  | .probe => "Call the runtime's `hello` diagnostic probe"
  | .config => "Print the effective configuration"

def all : List CommandName := [.run, .probe, .config]

def ofBytes? (arg : Bytes) : Option CommandName := all.find? fun n => bytesOf n.text = arg

end CommandName

/-- The name under which help is asked for like a command. -/
def helpName : String := "help"

/-- A level of the command line: in front of a command's name or behind it. -/
inductive Scope where
  | top
  | command (name : CommandName)
  deriving DecidableEq, Repr

inductive OptionName where
  | entry
  | cycles
  | config
  | baseDir
  | library
  | logLevel
  | logFormat
  deriving DecidableEq, Repr

namespace OptionName

def long : OptionName → String
  | .entry => "entry"
  | .cycles => "repeat"
  | .config => "config"
  | .baseDir => "base-dir"
  | .library => "library"
  | .logLevel => "log-level"
  | .logFormat => "log-format"

def short? : OptionName → Option Char
  | .entry => some 'e'
  | .cycles => some 'r'
  | .config => some 'c'
  | .baseDir => some 'b'
  | .library => some 'L'
  | .logLevel => some 'l'
  | .logFormat => none

def placeholder : OptionName → String
  | .entry => "ENTRY"
  | .cycles => "REPEAT"
  | .config => "CONFIG"
  | .baseDir => "BASE_DIR"
  | .library => "LIBRARY"
  | .logLevel => "LOG_LEVEL"
  | .logFormat => "LOG_FORMAT"

def about : OptionName → String
  | .entry => "Entry script, relative to the base directory"
  | .cycles => "Number of full init/run/deinit cycles"
  | .config => "Configuration file path"
  | .baseDir => "Base directory handed to the runtime (default: executable directory)"
  | .library => "Runtime library path"
  | .logLevel => "Log level / filter directive"
  | .logFormat => "Log output format"

def usage (o : OptionName) : String := "--" ++ o.long ++ " <" ++ o.placeholder ++ ">"

def globals : List OptionName := [.config, .baseDir, .library, .logLevel, .logFormat]

end OptionName

/-- The options that may stand on a level, in the order in which help lists them. -/
def Scope.options : Scope → List OptionName
  | .command .run => [.entry, .cycles] ++ OptionName.globals
  | _ => OptionName.globals

/-- The environment variable that stands in for the option that names the configuration file. -/
def configVariable : String := "NSHOST_CONFIG"

end ScriptHost
