import ScriptHost.FileTree.Basic

/-!
# Changes to a tree of files

While the host is at work its files can change under it. A change names a path from the root
directory; directories on the way to something new are made where they are missing, and links on
the way are followed.
-/

namespace ScriptHost

inductive Change where
  | write (path : Path) (content : Bytes)
  | install (path : Path) (library : SharedObject)
  | makeDirectory (path : Path)
  | makeLink (path : Path) (target : Path)
  | remove (path : Path)
  deriving DecidableEq, Repr

namespace FileTree

/-- Puts an entry at a location, in place of the one that is there. -/
def put (t : FileTree) (l : Location) (e : Entry) : FileTree :=
  if l = [] then t else ⟨t.entries.filter (fun x => x.1 ≠ l) ++ [(l, e)]⟩

/-- Takes away what is at a location and below it. -/
def prune (t : FileTree) (l : Location) : FileTree :=
  ⟨t.entries.filter fun x => !l.isPrefixOf x.1⟩

/-- Goes down from `here` along `names`, making the directories that are missing. -/
def descend (t : FileTree) (here : Location) : List Name → FileTree × Location
  | [] => (t, here)
  | s :: rest =>
    if stays s then t.descend here rest
    else if isParent s then t.descend here.dropLast rest
    else
      match t.walk maxLinks here [s] with
      | .ok next => t.descend next rest
      | .error _ => (t.put (here ++ [s]) .directory).descend (here ++ [s]) rest

/-- The directory that holds the last segment of a path, made if it is missing, and that
segment. -/
def parentOf (t : FileTree) (p : Path) : FileTree × Location × Name :=
  let names := p.segments.filter fun s => !stays s
  let (t, dir) := t.descend [] names.dropLast
  (t, dir, names.getLastD [])

/-- Puts an entry where a path leads, at the end of the links that stand there. -/
def store (t : FileTree) (p : Path) (e : Entry) : FileTree :=
  let (t, dir, name) := t.parentOf p
  match t.walk maxLinks dir [name] with
  | .ok l => t.put l e
  | .error _ => t.put (dir ++ [name]) e

def apply (t : FileTree) : Change → FileTree
  | .write p content => t.store p (.file content)
  | .install p library => t.store p (.object library)
  | .makeDirectory p => (t.descend [] p.segments).1
  | .makeLink p target =>
    let (t, dir, name) := t.parentOf p
    (t.prune (dir ++ [name])).put (dir ++ [name]) (.link target)
  | .remove p =>
    let names := p.segments.filter fun s => !stays s
    match t.walk maxLinks [] names.dropLast with
    | .ok dir => t.prune (dir ++ [names.getLastD []])
    | .error _ => t

def applyAll (t : FileTree) (changes : List Change) : FileTree := changes.foldl apply t

end FileTree

end ScriptHost
