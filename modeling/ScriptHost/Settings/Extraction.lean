import ScriptHost.Settings.Value
import ScriptHost.Config.Basic
import ScriptHost.Text.Blank
import ScriptHost.Text.Quoted

/-!
# From settings to a configuration

Settings have any shape; a configuration has a fixed one. Extraction visits the keys of a
dictionary in order and stops at the first value that does not fit, whose path and layer the report
names. Keys without a meaning are passed over, and a section may also be given as the list of its
fields.
-/

namespace ScriptHost.Settings

inductive Misfit where
  | wrongType (found expected : String)
  | wrongValue (found expected : String)
  | unknownVariant (name : String)
  deriving DecidableEq, Repr

def Misfit.message : Misfit → String
  | .wrongType found expected => s!"invalid type: found {found}, expected {expected}"
  | .wrongValue found expected => s!"invalid value {found}, expected {expected}"
  | .unknownVariant name =>
    "unknown variant: found `" ++ name ++ "`, expected ``pretty` or `json``"

/-- A value that does not fit, by its keys and the layer that it comes from. -/
structure Problem where
  misfit : Misfit
  keys : List String
  source : Source
  deriving DecidableEq, Repr

/-- The keys of a value as its layer writes them. -/
def Source.keyText (s : Source) (keys : List String) : String :=
  match s with
  | .environment =>
    ".".intercalate (keys.map fun k => String.ofList (k.toList.map Text.toAsciiUpper))
  | _ => ".".intercalate ("default" :: keys)

/-- Where a value comes from, at the end of a report. -/
def Source.origin : Source → String
  | .builtin => ""
  | .file shown => s!" in {shown.display} TOML file"
  | .environment => " in `NSHOST_` environment variable(s)"

def Problem.message (p : Problem) : String :=
  p.misfit.message
    ++ (if p.keys = [] then "" else " for key " ++ Text.quoted (p.source.keyText p.keys))
    ++ p.source.origin

def Scalar.describe : Scalar → String
  | .boolean b => if b then "bool true" else "bool false"
  | .signed n => "signed int `" ++ toString n ++ "`"
  | .unsigned n => "unsigned int `" ++ toString n ++ "`"
  | .float x => "float `" ++ x.display ++ "`"
  | .character c => "string " ++ Text.quoted (String.singleton c)
  | .text s => "string " ++ Text.quoted s

def Value.describe : Value → String
  | .scalar _ x => x.describe
  | .list _ _ => "sequence"
  | .dict _ _ => "map"

/-- The report that a value has another type than expected. -/
def Value.mistyped (v : Value) (keys : List String) (expected : String) : Problem :=
  ⟨.wrongType v.describe expected, keys, v.source⟩

/-- A text; a single character is one too. -/
def extractText (expected : String) (keys : List String) (v : Value) : Except Problem String :=
  match v with
  | .scalar _ (.text s) => .ok s
  | .scalar _ (.character c) => .ok (String.singleton c)
  | v => .error (v.mistyped keys expected)

def extractPath (keys : List String) (v : Value) : Except Problem Path :=
  (extractText "path string" keys v).map Path.ofString

/-- A count within 32 bits. -/
def extractCount (keys : List String) (v : Value) : Except Problem UInt32 :=
  let expected := "u32"
  let inRange (n : Int) : Except Problem UInt32 :=
    if 0 ≤ n ∧ n < UInt32.size then .ok (UInt32.ofNat n.toNat)
    else .error ⟨.wrongValue v.describe expected, keys, v.source⟩
  match v with
  | .scalar _ (.signed n) => inRange n
  | .scalar _ (.unsigned n) => inRange n
  | v => .error (v.mistyped keys expected)

/-- A format by its name. A dictionary can name it by its first key, but would have to hold
nothing there, which no value is. -/
def extractFormat (keys : List String) (v : Value) : Except Problem LogFormat :=
  match v with
  | .scalar s (.text name) =>
    match LogFormat.ofName? name with
    | some f => .ok f
    | none => .error ⟨.unknownVariant name, keys, s⟩
  | .dict _ [] => .error (v.mistyped keys "enum")
  | .dict _ ((k, w) :: _) =>
    match LogFormat.ofName? k with
    | some _ => .error (w.mistyped (keys ++ [k]) "unit")
    | none => .error ⟨.unknownVariant k, keys ++ [k], w.source⟩
  | v => .error (v.mistyped keys "enum LogFormat")

/-- The fields of the runtime section, in their order. -/
def runtimeFields : List String := ["base_dir", "library", "entry_script", "repeat"]

def loggingFields : List String := ["level", "format"]

def setRuntimeField (r : RuntimeSection) (field : String) (keys : List String) (v : Value) :
    Except Problem RuntimeSection :=
  if field = "base_dir" then (extractPath keys v).map fun p => { r with baseDir := some p }
  else if field = "library" then (extractPath keys v).map fun p => { r with library := some p }
  else if field = "entry_script" then (extractPath keys v).map fun p => { r with entryScript := p }
  else if field = "repeat" then (extractCount keys v).map fun n => { r with cycles := n }
  else .ok r

def setLoggingField (l : LoggingSection) (field : String) (keys : List String) (v : Value) :
    Except Problem LoggingSection :=
  if field = "level" then (extractText "a string" keys v).map fun s => { l with level := s }
  else if field = "format" then (extractFormat keys v).map fun f => { l with format := f }
  else .ok l

/-- A section as the values of its fields: a dictionary by their names, a list by their order. -/
def extractSection {α : Type} (fields : List String) (expected : String)
    (set : α → String → List String → Value → Except Problem α) (default : α)
    (keys : List String) (v : Value) : Except Problem α :=
  match v with
  | .dict _ entries => entries.foldlM (fun a e => set a e.1 (keys ++ [e.1]) e.2) default
  | .list _ items =>
    ((fields.zip items).zipIdx).foldlM
      (fun a e => set a e.1.1 (keys ++ [toString e.2]) e.1.2) default
  | v => .error (v.mistyped keys expected)

def setSection (c : HostConfig) (key : String) (v : Value) : Except Problem HostConfig :=
  if key = "logging" then
    (extractSection loggingFields "struct LoggingConfig" setLoggingField {} [key] v).map
      fun l => { c with logging := l }
  else if key = "runtime" then
    (extractSection runtimeFields "struct RuntimeSection" setRuntimeField {} [key] v).map
      fun r => { c with runtime := r }
  else .ok c

def extract (d : Dict) : Except Problem HostConfig :=
  d.foldlM (fun c e => setSection c e.1 e.2) {}

end ScriptHost.Settings
