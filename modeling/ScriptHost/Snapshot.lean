import ScriptHost.System
import ScriptHost.FileTree.Change

/-!
# Described surroundings

The surroundings of a program as lines of text, so that it can be run in files and an environment
that are only described. A line is a word for what it describes and the fields of that, divided by
blanks; names, paths and contents are written in hexadecimal, two digits per byte, and an empty one
as a dash.
-/

namespace ScriptHost.Snapshot

def bytes? : List Char → Option Bytes
  | [] => some []
  | a :: b :: cs => do
    let high ← Text.hexValue? a
    let low ← Text.hexValue? b
    (bytes? cs).map (UInt8.ofNat (16 * high + low) :: ·)
  | [_] => none

/-- The bytes of a field. -/
def field? (s : String) : Option Bytes := if s = "-" then some [] else bytes? s.toList

def symbol? (s : String) : Option Symbol :=
  [Symbol.init, .runScript, .deinit, .hello].find? fun x => x.name = s

/-- The items of a field that are divided by commas. -/
def items (s : String) : List String := if s = "-" then [] else s.splitOn ","

def empty : System where
  files := ⟨[]⟩
  cwd := []
  env := []
  accountHome := ⟨[slash]⟩
  programDirectory := ⟨[slash]⟩
  systemLibraries := []

/-- Adds an environment variable, in its old place if it has one. -/
def setVariable (env : List (Bytes × Bytes)) (name value : Bytes) : List (Bytes × Bytes) :=
  if (env.lookup name).isSome then env.map fun v => if v.1 = name then (name, value) else v
  else env ++ [(name, value)]

def unsetVariable (env : List (Bytes × Bytes)) (name : Bytes) : List (Bytes × Bytes) :=
  env.filter fun v => v.1 ≠ name

/-- The surroundings with a change to their files. -/
def change (s : System) (c : Change) : System := { s with files := s.files.apply c }

/-- The surroundings with what a line describes. -/
def addLine (s : System) (line : String) : Option System :=
  match line.splitOn " " with
  | ["cwd", p] => do
    let p ← field? p
    some { s with cwd := (Path.segments ⟨p⟩).filter fun n => !FileTree.stays n }
  | ["home", p] => (field? p).map fun p => { s with accountHome := ⟨p⟩ }
  | ["program", p] => (field? p).map fun p => { s with programDirectory := ⟨p⟩ }
  | ["var", name, value] => do
    some { s with env := setVariable s.env (← field? name) (← field? value) }
  | ["directory", p] => (field? p).map fun p => change s (.makeDirectory ⟨p⟩)
  | ["file", p, content] => do some (change s (.write ⟨← field? p⟩ (← field? content)))
  | ["link", p, target] => do some (change s (.makeLink ⟨← field? p⟩ ⟨← field? target⟩))
  | ["object", p, exports, handles] => do
    let exports ← (items exports).mapM symbol?
    let handles ← (items handles).mapM String.toInt?
    some (change s (.install ⟨← field? p⟩ ⟨exports, handles⟩))
  | _ => none

/-- The surroundings that lines describe, if each of them describes something. -/
def ofLines (lines : List String) : Option System := lines.foldlM addLine empty

end ScriptHost.Snapshot
