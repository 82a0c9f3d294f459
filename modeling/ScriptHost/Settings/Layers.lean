import ScriptHost.Settings.Extraction
import ScriptHost.Settings.Variable
import ScriptHost.Toml.Reader
import ScriptHost.Config.Validation
import ScriptHost.System

/-!
# The layers of the configuration

The built-in values come first, a file is laid over them and the environment over both; only the
result is looked at. The file of a relative path is looked for in the working directory and then in
each directory above it. A file that is not there is no layer, but one that cannot be read is an
error even if nothing of it would count.
-/

namespace ScriptHost.Settings

def builtinLayer : Dict :=
  let text (s : String) : Value := .scalar .builtin (.text s)
  let c : HostConfig := {}
  [ ("logging", .dict .builtin
      [("format", text c.logging.format.name), ("level", text c.logging.level)]),
    ("runtime", .dict .builtin
      [("entry_script", text c.runtime.entryScript.display),
       ("repeat", .scalar .builtin (.unsigned c.runtime.cycles.toNat))]) ]

/-- A directory and those above it, up to the root. -/
def upwards (l : Location) : List Location :=
  (List.range (l.length + 1)).reverse.map l.take

/-- The file that a path names, looked for from the working directory upwards. From a working
directory that was removed there is no way up. -/
def findFile? (s : System) (p : Path) : Option Path :=
  if p.isAbsolute then if s.files.isFile s.cwd p then some p else none
  else if s.files.get? s.cwd = some .directory then
    ((upwards s.cwd).map fun dir => (Path.ofNames dir).join p).find? fun q =>
      s.files.isFile s.cwd q
  else none

/-- The report of a file that has no settings. The path of the file stands in a line of its own. -/
def fileReport (fault : String) (shown : Path) : String :=
  fault ++ "\n in " ++ shown.display ++ " TOML file"

def notTextFault : String := "stream did not contain valid UTF-8"

/-- What is wrong with a file that is text, but no TOML. An ellipsis stands for the place of the
fault, the line of the file that is quoted there, and what was expected. -/
def syntaxFault : String := "TOML parse error at line …"

/-- The settings that a file with the given content has. -/
def readLayer (shown : Path) (content : Bytes) : Except HostError Dict :=
  match Utf8.decode content with
  | .error _ => .error (.config (fileReport notTextFault shown))
  | .ok cs =>
    match Toml.read? cs with
    | none => .error (.config (fileReport syntaxFault shown))
    | some t => .ok (ofTomlEntries (.file shown) t)

def fileLayer (s : System) (p : Path) : Except HostError Dict :=
  match findFile? s p with
  | none => .ok []
  | some found =>
    match s.files.read s.cwd found with
    | .error e => .error (.config e.message)
    | .ok content => readLayer (s.shown found) content

/-- All layers, each laid over those below it. The environment is read even if the file cannot be,
and what goes wrong there goes first. -/
def layered (s : System) (file : Option Path) : Except Stop Dict :=
  match ofVariables s.env with
  | .error fault => .error (.panic fault.message)
  | .ok overlay =>
    match file with
    | none => .ok (mergeDict builtinLayer overlay)
    | some p =>
      match fileLayer s p with
      | .error e => .error (.failure e)
      | .ok d => .ok (mergeDict (mergeDict builtinLayer d) overlay)

/-- The configuration of the layers, if it is one and is valid. -/
def loadConfig (s : System) (file : Option Path) : Except Stop HostConfig :=
  match layered s file with
  | .error stop => .error stop
  | .ok d =>
    match extract d with
    | .error p => .error (.failure (.config p.message))
    | .ok c => c.validate.map fun _ => c

end ScriptHost.Settings
