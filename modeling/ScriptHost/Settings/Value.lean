import ScriptHost.Toml.Value
import ScriptHost.Path

/-!
# Settings and their layers

Settings are values of any shape, whatever the configuration later makes of them, and each node of
them knows the layer that it comes from, so that a report can name it. Layers are laid over each
other by `merge`: dictionaries are merged key by key, and of anything else the newer value stays.
Keys are kept in increasing order, so the order in which they were set leaves no trace.
-/

namespace ScriptHost.Settings

inductive Source where
  | builtin
  /-- A file, as the report of an error names it. -/
  | file (shown : Path)
  | environment
  deriving DecidableEq, Repr

inductive Scalar where
  | boolean (b : Bool)
  | signed (n : Int)
  | unsigned (n : Nat)
  | float (x : Binary64)
  | character (c : Char)
  | text (s : String)
  deriving DecidableEq, Repr

inductive Value where
  | scalar (source : Source) (x : Scalar)
  | list (source : Source) (items : List Value)
  | dict (source : Source) (entries : List (String × Value))

/-- The entries of a dictionary, in increasing order of their keys. -/
abbrev Dict := List (String × Value)

def Value.source : Value → Source
  | .scalar s _ => s
  | .list s _ => s
  | .dict s _ => s

def Dict.put (d : Dict) (key : String) (v : Value) : Dict :=
  match d with
  | [] => [(key, v)]
  | (k, w) :: rest =>
    if k = key then (key, v) :: rest
    else if key < k then (key, v) :: (k, w) :: rest
    else (k, w) :: Dict.put rest key v

def Dict.ofList (entries : List (String × Value)) : Dict :=
  entries.foldl (fun d e => Dict.put d e.1 e.2) []

mutual

/-- The value `new` laid over `old`. A merged dictionary counts as coming from the newer layer. -/
def merge (old : Value) (new : Value) : Value :=
  match new with
  | .scalar s x => .scalar s x
  | .list s items => .list s items
  | .dict s entries =>
    match old with
    | .dict _ below => .dict s (mergeDict below entries)
    | _ => .dict s entries

/-- The entries of `new` laid over those of `old`. -/
def mergeDict (old : Dict) (new : List (String × Value)) : Dict :=
  match new with
  | [] => old
  | (k, v) :: rest =>
    let v :=
      match old.lookup k with
      | some w => merge w v
      | none => v
    mergeDict (Dict.put old k v) rest

end

mutual

/-- A TOML value as a setting from `source`. A moment is a dictionary with a single key that no
setting has. -/
def ofToml (source : Source) : Toml.Value → Value
  | .text s => .scalar source (.text s)
  | .integer n => .scalar source (.signed n)
  | .float x => .scalar source (.float x)
  | .boolean b => .scalar source (.boolean b)
  | .moment s => .dict source [("$__toml_private_datetime", .scalar source (.text s))]
  | .array items => .list source (ofTomlItems source items)
  | .tables elements => .list source (ofTomlTables source elements)
  | .table _ entries => .dict source (ofTomlEntries source entries)

def ofTomlItems (source : Source) : List Toml.Value → List Value
  | [] => []
  | v :: vs => ofToml source v :: ofTomlItems source vs

def ofTomlTables (source : Source) : List (List (String × Toml.Value)) → List Value
  | [] => []
  | t :: ts => .dict source (ofTomlEntries source t) :: ofTomlTables source ts

def ofTomlEntries (source : Source) : List (String × Toml.Value) → Dict
  | [] => []
  | (k, v) :: rest => Dict.put (ofTomlEntries source rest) k (ofToml source v)

end

end ScriptHost.Settings
