import ScriptHost.Foreign.Runtime

/-!
# Loading a runtime library

A path with a slash is that of a file; a name without one is looked up among the libraries of the
system. A file has to be a loadable object, and the object has to export the three operations of
the lifecycle; the probe may be missing.
-/

namespace ScriptHost

/-- The least size of a file that can hold the header of an object. -/
def objectHeaderSize : Nat := 64

/-- The loadable object that a path leads to, or why there is none. -/
def System.loadObject (s : System) (p : Path) : Except String SharedObject :=
  if 0 ∈ p.bytes then .error "could not create a C string from bytes"
  else
    let cannotOpen (e : Errno) := s!"{p.display}: cannot open shared object file: {e.text}"
    if slash ∈ p.bytes then
      match s.files.find s.cwd p with
      | .ok (.object library) => .ok library
      | .ok .directory => .error s!"{p.display}: cannot read file data: {Errno.isDirectory.text}"
      | .ok (.file content) =>
        if content.length < objectHeaderSize then .error s!"{p.display}: file too short"
        else .error s!"{p.display}: invalid ELF header"
      | .ok (.link _) => .error (cannotOpen .noEntry)
      | .error (.system e) => .error (cannotOpen e)
      | .error .nulInPath => .error "could not create a C string from bytes"
    else
      match s.systemLibraries.lookup p.bytes with
      | some library => .ok library
      | none => .error (cannotOpen .noEntry)

/-- The operations that a library has to export, in the order in which they are looked for. -/
def requiredSymbols : List Symbol := [.init, .runScript, .deinit]

def Runtime.load (p : Path) : Act Runtime := do
  match (← get).system.loadObject p with
  | .error reason => Act.fail (.libraryLoad p reason)
  | .ok object =>
    match requiredSymbols.find? fun s => s ∉ object.exports with
    | some missing => Act.fail (.missingSymbol missing.name)
    | none =>
      let probe : Bool := .hello ∈ object.exports
      modify fun w => { w with supply := object.handles }
      Act.log (.libraryLoaded p)
      Act.log (.probeSymbol probe)
      pure (.library p probe)

def Runtime.inspect (p : Path) (probe : Bool) : String :=
  "NativeLibrary \x7b path: " ++ p.quoted ++ ", has_hello: " ++ (if probe then "true" else "false")
    ++ ", .. \x7d"

end ScriptHost
