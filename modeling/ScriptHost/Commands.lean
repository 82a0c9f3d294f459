import ScriptHost.CommandLine.Basic
import ScriptHost.Config.Rendering
import ScriptHost.Foreign.Library
import ScriptHost.Host
import ScriptHost.Settings.Layers

/-!
# What the commands do

Each command works from the effective configuration: that of the layers, with what the command line
gives on top of it, validated before and after. The base directory comes first, then the library
below it, and only then is anything run or probed.
-/

namespace ScriptHost

/-- The configuration of the layers with the given file. Whether there is such a file is entered in
the log. -/
def readConfig (file : Option Path) : Act HostConfig := do
  let s := (← get).system
  match file with
  | none => pure ()
  | some p =>
    Act.log (if s.files.exists? s.cwd p then .configFileFound p else .configFileMissing p)
  match Settings.loadConfig s file with
  | .ok c => pure c
  | .error stop => throw stop

/-- The configuration file that a command line names, or the default one. -/
def System.configPath (s : System) (cl : CommandLine) : Path :=
  match cl.options.config with
  | some p => .ofString (s.expandTilde p)
  | none => s.defaultConfigPath

def configure (cl : CommandLine) : Act HostConfig := do
  let s := (← get).system
  let c := cl.override (← readConfig (some (s.configPath cl)))
  match c.validate with
  | .ok () => pure c
  | .error stop => throw stop

/-- The base directory of a configuration: the one it names, in which a tilde means the home
directory, or that of the program. -/
def System.baseDir (s : System) (c : HostConfig) : Except HostError Path :=
  match c.runtime.baseDir with
  | none => s.resolveBaseDir s.programDirectory
  | some dir =>
    match dir.text? with
    | some text => s.resolveBaseDir (.ofString (s.expandTilde text))
    | none => s.resolveBaseDir dir

def runWith (runtime : Runtime) (base : Path) (c : HostConfig) : Act (List Report) := do
  let host ← Host.new runtime base c.runtime.entryScript
  let cycles := c.runtime.cycles.toNat
  Act.log (.hosting host.entryPath host.baseDir cycles)
  host.run cycles

def executeRun (c : HostConfig) : Act (List Report) := do
  let base ← Act.observe fun s => s.baseDir c
  let runtime ← Runtime.load (c.runtime.libraryPath base)
  runWith runtime base c

/-- The command that probes the runtime library; its answer names the library. -/
def executeProbe (c : HostConfig) : Act String := do
  let base ← Act.observe fun s => s.baseDir c
  let library := c.runtime.libraryPath base
  let runtime ← Runtime.load library
  runtime.hello
  pure (library.display ++ ": ok\n")

def showConfig (c : HostConfig) : Except HostError String := c.toToml.map (· ++ "\n")

end ScriptHost
