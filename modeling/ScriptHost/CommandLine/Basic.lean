import ScriptHost.Config.Basic

/-!
# Command lines

What a user can ask for on the command line: a command with options of its own, and options that
every command takes. Each option that is given overrides one field of the configuration.
-/

namespace ScriptHost

/-- The options that every command takes. -/
structure GlobalOptions where
  config : Option String := none
  baseDir : Option Path := none
  library : Option Path := none
  logLevel : Option String := none
  logFormat : Option LogFormat := none
  deriving DecidableEq, Repr

inductive Command where
  | run (entry : Option Path) (cycles : Option UInt32)
  | probe
  | config
  deriving DecidableEq, Repr

structure CommandLine where
  command : Option Command := none
  options : GlobalOptions := {}
  deriving DecidableEq, Repr

namespace CommandLine

/-- The command to carry out; without one the entry script is run. -/
def effective (cl : CommandLine) : Command := cl.command.getD (.run none none)

def override (cl : CommandLine) (c : HostConfig) : HostConfig :=
  let (entry, cycles) :=
    match cl.command with
    | some (.run entry cycles) => (entry, cycles)
    | _ => (none, none)
  { runtime :=
      { baseDir := cl.options.baseDir.or c.runtime.baseDir
        library := cl.options.library.or c.runtime.library
        entryScript := entry.getD c.runtime.entryScript
        cycles := cycles.getD c.runtime.cycles }
    logging :=
      { level := cl.options.logLevel.getD c.logging.level
        format := cl.options.logFormat.getD c.logging.format } }

end CommandLine

end ScriptHost
