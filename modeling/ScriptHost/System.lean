import ScriptHost.FileTree.Basic

/-!
# What a program finds around it

The files, the working directory and the environment are given when a program starts, and so is
where it stands itself. From them follow the directories that a user does not have to name: the
home directory, the place of the default configuration file, and what a leading tilde means.
-/

namespace ScriptHost

structure System where
  files : FileTree
  cwd : Location
  /-- The environment, in the order in which its variables were set. No name occurs twice. -/
  env : List (Bytes × Bytes)
  /-- The home directory of the account, for when the environment names none. -/
  accountHome : Path
  programDirectory : Path
  /-- The libraries that the system finds by name alone. -/
  systemLibraries : List (Bytes × SharedObject)

namespace System

def var? (s : System) (name : String) : Option Bytes := s.env.lookup (bytesOf name)

def home (s : System) : Path :=
  match s.var? "HOME" with
  | none | some [] => s.accountHome
  | some h => ⟨h⟩

/-- A text with the home directory for a tilde that stands alone or in front of a slash. -/
def expandTilde (s : System) (text : String) : String :=
  match text.toList with
  | '~' :: rest =>
    if rest = [] ∨ rest.head? = some '/' then
      match s.home.text? with
      | some h => h ++ String.ofList rest
      | none => text
    else text
  | _ => text

def configDirectory (s : System) : Path :=
  let other := s.home.join (.ofString ".config")
  match s.var? "XDG_CONFIG_HOME" with
  | some d => if Path.isAbsolute ⟨d⟩ then ⟨d⟩ else other
  | none => other

/-- The path that a message shows for the absolute path `p`: as it is seen from the working
directory, unless that was removed. -/
def shown (s : System) (p : Path) : Path :=
  if s.files.get? s.cwd = some .directory then Path.shownFrom (Path.ofNames s.cwd) p else p

/-- The configuration file that is read when none is named. -/
def defaultConfigPath (s : System) : Path :=
  s.configDirectory.join (.ofString "nshost/config.toml")

end System

end ScriptHost
