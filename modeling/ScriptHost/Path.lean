import ScriptHost.Text.Quoted

/-!
# Paths

A path is a byte string that the slash divides into segments. Empty segments and single dots carry
no meaning behind the first one, so two paths can spell the same walk; `components` gives the walk
itself, which is what containment is about. Joining keeps the bytes as they were written.
-/

namespace ScriptHost

/-- A path, byte for byte as it was written. -/
structure Path where
  bytes : Bytes
  deriving DecidableEq, Repr, Inhabited

/-- One step of the walk that a path describes. -/
inductive Component where
  | root
  /-- A leading single dot. -/
  | here
  | parent
  | normal (name : Bytes)
  deriving DecidableEq, Repr

def slash : UInt8 := 0x2F

def dot : UInt8 := 0x2E

def Component.bytes : Component → Bytes
  | .root => [slash]
  | .here => [dot]
  | .parent => [dot, dot]
  | .normal name => name

namespace Path

def ofString (s : String) : Path := ⟨bytesOf s⟩

def text? (p : Path) : Option String := Utf8.text? p.bytes

def display (p : Path) : String := Utf8.lossy p.bytes

def quoted (p : Path) : String := Text.quotedBytes p.bytes

def isAbsolute (p : Path) : Bool := p.bytes.head? = some slash

/-- The pieces between slashes; there is always at least one. -/
def split : Bytes → List Bytes
  | [] => [[]]
  | b :: bs =>
    if b = slash then [] :: split bs
    else match split bs with
      | [] => [[b]]
      | s :: ss => (b :: s) :: ss

/-- The segments of a path, empty ones and dots included. -/
def segments (p : Path) : List Bytes := split p.bytes

/-- What a segment means behind other segments; nothing, if it stays where it is. -/
def component? (s : Bytes) : Option Component :=
  if s = [] ∨ s = [dot] then none
  else if s = [dot, dot] then some .parent
  else some (.normal s)

/-- The walk that a path describes. -/
def components (p : Path) : List Component :=
  if p.isAbsolute then .root :: p.segments.filterMap component?
  else match p.segments with
    | [] => []
    | s :: ss =>
      (if s = [dot] then [Component.here] else (component? s).toList) ++ ss.filterMap component?

/-- `p` as seen from the directory `base`. An absolute path is itself from everywhere. -/
def join (base p : Path) : Path :=
  if p.isAbsolute then p
  else if base.bytes = [] ∨ base.bytes.getLast? = some slash then ⟨base.bytes ++ p.bytes⟩
  else ⟨base.bytes ++ slash :: p.bytes⟩

/-- The names on the way to an absolute path, joined. -/
def ofNames (names : List Bytes) : Path :=
  if names = [] then ⟨[slash]⟩ else ⟨names.flatMap (slash :: ·)⟩

/-- Steps that both walks begin with, taken off. -/
def dropCommon : List Component → List Component → List Component × List Component
  | a :: as, b :: bs => if a = b then dropCommon as bs else (a :: as, b :: bs)
  | as, bs => (as, bs)

def ofSteps (cs : List Component) : Path :=
  ⟨[slash].intercalate (cs.map Component.bytes)⟩

/-- The absolute path `p` as seen from the absolute directory `base`, with the number of its steps:
up to where the two part, then down. -/
def fromDirectory (base p : Path) : List Component :=
  let (up, down) := dropCommon base.components p.components
  up.map (fun _ => Component.parent) ++ down

/-- The path that a message shows for the absolute path `p` when `base` is the working directory:
the way from there if it has fewer steps, else the path itself. -/
def shownFrom (base p : Path) : Path :=
  let way := fromDirectory base p
  if way.length < p.components.length then ofSteps way else p

end Path

end ScriptHost
