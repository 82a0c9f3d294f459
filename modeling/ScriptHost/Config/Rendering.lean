import ScriptHost.Config.Basic
import ScriptHost.Toml.Quoting

/-!
# The configuration as TOML

Two tables, their fields in a fixed order and a blank line between them. Paths that are not set are
left out; a path that is not text cannot be written.
-/

namespace ScriptHost

def tomlLine (key value : String) : String := key ++ " = " ++ value ++ "\n"

/-- The line of a path, if it is set. -/
def tomlPathLine (key : String) (p : Option Path) : Option String :=
  match p with
  | none => some ""
  | some p => p.text?.map fun s => tomlLine key (Toml.quote s)

def unwritablePath : HostError := .config "path contains invalid UTF-8 characters"

def HostConfig.toToml (c : HostConfig) : Except HostError String :=
  match tomlPathLine "base_dir" c.runtime.baseDir, tomlPathLine "library" c.runtime.library,
      tomlPathLine "entry_script" (some c.runtime.entryScript) with
  | some baseDir, some library, some entryScript =>
    .ok ("[runtime]\n" ++ baseDir ++ library ++ entryScript
      ++ tomlLine "repeat" (toString c.runtime.cycles.toNat)
      ++ "\n[logging]\n"
      ++ tomlLine "level" (Toml.quote c.logging.level)
      ++ tomlLine "format" (Toml.quote c.logging.format.name))
  | _, _, _ => .error unwritablePath

end ScriptHost
