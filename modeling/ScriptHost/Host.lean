import ScriptHost.Session

/-!
# Hosts

A host runs an entry script below a base directory, once per cycle, and every cycle has a runtime
of its own: it is started, the script is read and run, and the runtime is released on every way
out. The script is read only when the runtime is up, and from then on the file no longer matters.
-/

namespace ScriptHost

/-- A script in memory, byte for byte as its file has it. -/
structure EntryScript where
  path : Path
  source : String
  deriving DecidableEq, Repr

namespace EntryScript

def resolve (base relative : Path) : Path := base.join relative

def size (s : EntryScript) : Nat := (bytesOf s.source).length

/-- The script in the file that a path leads to. A script is text. -/
def ofFile (s : System) (p : Path) : Except HostError EntryScript :=
  match s.files.read s.cwd p with
  | .error e => .error (.entryScriptUnreadable p e.message)
  | .ok content =>
    match Utf8.decode content with
    | .error f => .error (.entryScriptUnreadable p s!"not valid UTF-8: {f.message}")
    | .ok cs => .ok ⟨p, String.ofList cs⟩

def read (p : Path) : Act EntryScript := do
  let script ← Act.observe fun s => ofFile s p
  Act.log (.scriptRead script.path script.size)
  pure script

end EntryScript

/-- The directory that a path leads to, in its canonical form. -/
def System.resolveBaseDir (s : System) (p : Path) : Except HostError Path :=
  match s.files.canonical s.cwd p with
  | .error e => .error (.baseDirectory p e.message)
  | .ok q =>
    match s.files.find s.cwd q with
    | .ok .directory => .ok q
    | _ => .error (.baseDirectory p "not a directory")

structure Report where
  cycle : Nat
  handle : Int
  script : Path
  size : Nat
  deriving DecidableEq, Repr

structure Host where
  runtime : Runtime
  /-- In canonical form. -/
  baseDir : Path
  entryScript : Path
  deriving DecidableEq, Repr

namespace Host

/-- A host of the script `entry` in the directory that `base` leads to. -/
def new (runtime : Runtime) (base entry : Path) : Act Host := do
  let baseDir ← Act.observe fun s => s.resolveBaseDir base
  pure ⟨runtime, baseDir, entry⟩

def entryPath (h : Host) : Path := EntryScript.resolve h.baseDir h.entryScript

/-- Reads the script and hands it to the runtime of a session. -/
def handOver (h : Host) (session : Session) : Act EntryScript := do
  let script ← EntryScript.read h.entryPath
  Act.log (.running script.path)
  session.run script.source
  pure script

/-- One whole lifecycle. -/
def runOnce (h : Host) (cycle : Nat) : Act Report :=
  Act.inCycle cycle do
    let session ← Session.start h.runtime h.baseDir
    let script ← session.owning (h.handOver session)
    session.close
    Act.log .cycleFinished
    pure ⟨cycle, session.raw, script.path, script.size⟩

/-- Cycles `first`, `first + 1`, and so on, `count` of them, up to the first that does not
return. -/
def runFrom (h : Host) (first : Nat) : Nat → Act (List Report)
  | 0 => pure []
  | count + 1 => do
    let report ← h.runOnce first
    let reports ← h.runFrom (first + 1) count
    pure (report :: reports)

/-- Independent cycles, counted from 1. -/
def run (h : Host) (count : Nat) : Act (List Report) := h.runFrom 1 count

def probe (h : Host) : Act Unit := do
  h.runtime.hello
  Act.log .probeSucceeded

def inspect (h : Host) : String :=
  "RuntimeHost \x7b base_dir: " ++ h.baseDir.quoted ++ ", entry_script: " ++ h.entryScript.quoted
    ++ ", .. \x7d"

end Host

end ScriptHost
