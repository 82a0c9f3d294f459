import ScriptHost.Path

/-!
# A tree of files

Every entry stands at a location, the list of names from the root directory down to it. A path
leads to a location by a walk that takes one segment at a time: every segment but the last needs a
directory to stand in, a link puts the segments of its target in front of those still to come, and
forty links are the most that one walk follows. The walk therefore ends, by the number of links
left and then by the number of segments left.
-/

namespace ScriptHost

abbrev Name := Bytes

/-- The names from the root directory down. -/
abbrev Location := List Name

inductive Symbol where
  | init
  | runScript
  | deinit
  | hello
  deriving DecidableEq, Repr

def Symbol.name : Symbol → String
  | .init => "runtime_init"
  | .runScript => "runtime_runscript"
  | .deinit => "runtime_deinit"
  | .hello => "hello"

/-- A loadable library: what it exports, and the values that its `init` returns in turn (zero when
they are used up). -/
structure SharedObject where
  exports : List Symbol
  handles : List Int
  deriving DecidableEq, Repr

inductive Entry where
  | file (content : Bytes)
  | object (library : SharedObject)
  | directory
  | link (target : Path)
  deriving DecidableEq, Repr

inductive Errno where
  | noEntry
  | notDirectory
  | isDirectory
  | nameTooLong
  | linkLoop
  deriving DecidableEq, Repr

def Errno.text : Errno → String
  | .noEntry => "No such file or directory"
  | .notDirectory => "Not a directory"
  | .isDirectory => "Is a directory"
  | .nameTooLong => "File name too long"
  | .linkLoop => "Too many levels of symbolic links"

def Errno.number : Errno → Nat
  | .noEntry => 2
  | .notDirectory => 20
  | .isDirectory => 21
  | .nameTooLong => 36
  | .linkLoop => 40

/-- Why a file operation fails: the system refuses it, or the path cannot be handed to the system
because it has a NUL byte. -/
inductive FileFault where
  | system (e : Errno)
  | nulInPath
  deriving DecidableEq, Repr

def FileFault.message : FileFault → String
  | .system e => s!"{e.text} (os error {e.number})"
  | .nulInPath => "file name contained an unexpected NUL byte"

/-- The entries of a file system by location. The root directory is always there and is not
listed. -/
structure FileTree where
  entries : List (Location × Entry)
  deriving Repr

namespace FileTree

def maxName : Nat := 255

/-- The longest path that a file is opened by. -/
def maxPath : Nat := 4095

def maxLinks : Nat := 40

/-- The entry at a location. No name has a NUL byte, so nothing is found under one that does. -/
def get? (t : FileTree) (l : Location) : Option Entry :=
  if l = [] then some .directory
  else if ∃ s ∈ l, 0 ∈ s then none
  else t.entries.lookup l

/-- A segment that names no entry but stays in the directory it stands in. -/
def stays (s : Bytes) : Bool := s = [] || s = [dot]

def isParent (s : Bytes) : Bool := s = [dot, dot]

/-- The location that `steps` lead to from `at`, with at most `links` links on the way. -/
def walk (t : FileTree) (links : Nat) (here : Location) (steps : List Bytes) :
    Except Errno Location :=
  match steps with
  | [] => .ok here
  | s :: rest =>
    match t.get? here with
    | none => .error .noEntry
    | some .directory =>
      if stays s then t.walk links here rest
      else if isParent s then t.walk links here.dropLast rest
      else if maxName < s.length then .error .nameTooLong
      else
        match t.get? (here ++ [s]) with
        | none => .error .noEntry
        | some (.link target) =>
          match links with
          | 0 => .error .linkLoop
          | links + 1 =>
            if target.bytes = [] then .error .noEntry
            else t.walk links (if target.isAbsolute then [] else here) (target.segments ++ rest)
        | some _ => t.walk links (here ++ [s]) rest
    | some _ => .error .notDirectory
termination_by (links, steps.length)

/-- The location that a path leads to from the directory `cwd`. -/
def follow (t : FileTree) (cwd : Location) (p : Path) : Except FileFault Location :=
  if 0 ∈ p.bytes then .error .nulInPath
  else if p.bytes = [] then .error (.system .noEntry)
  else
    match t.walk maxLinks (if p.isAbsolute then [] else cwd) p.segments with
    | .ok l => .ok l
    | .error e => .error (.system e)

/-- `follow` for operations that take the path as a whole, which bounds its length. -/
def locate (t : FileTree) (cwd : Location) (p : Path) : Except FileFault Location :=
  if 0 ∈ p.bytes then .error .nulInPath
  else if maxPath < p.bytes.length then .error (.system .nameTooLong)
  else t.follow cwd p

/-- The entry that a path leads to; never a link. -/
def find (t : FileTree) (cwd : Location) (p : Path) : Except FileFault Entry :=
  match t.locate cwd p with
  | .error e => .error e
  | .ok l =>
    match t.get? l with
    | some e => .ok e
    | none => .error (.system .noEntry)

def exists? (t : FileTree) (cwd : Location) (p : Path) : Bool :=
  match t.find cwd p with
  | .ok _ => true
  | .error _ => false

/-- Whether a path leads to something that can be read as a file. -/
def isFile (t : FileTree) (cwd : Location) (p : Path) : Bool :=
  match t.find cwd p with
  | .ok (.file _) | .ok (.object _) => true
  | _ => false

/-- What a library is read as. The tree knows a library by what a loader finds in it and not by its
bytes, so these stand for them: the first bytes of the header of an object file, up to the version
of the format, and then a byte that no character begins with. Of the bytes of a library only that
matters here: they are no text. -/
def objectHeader : Bytes := [0x7F, 0x45, 0x4C, 0x46, 0x02, 0x01, 0x01, 0x80]

def read (t : FileTree) (cwd : Location) (p : Path) : Except FileFault Bytes :=
  match t.find cwd p with
  | .ok (.file content) => .ok content
  | .ok (.object _) => .ok objectHeader
  | .ok .directory => .error (.system .isDirectory)
  | .ok (.link _) => .error (.system .noEntry)
  | .error e => .error e

/-- The location that a path leads to, as an absolute path without links, dots and empty
segments. -/
def canonical (t : FileTree) (cwd : Location) (p : Path) : Except FileFault Path :=
  match t.follow cwd p with
  | .error e => .error e
  | .ok l => if (t.get? l).isSome then .ok (Path.ofNames l) else .error (.system .noEntry)

end FileTree

end ScriptHost
