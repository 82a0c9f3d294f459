import ScriptHost.World
import ScriptHost.Foreign.Text

/-!
# Runtimes

The four operations that a host calls. A recorder notes what it is called with and lets hooks act;
a loaded library is given buffers and reads them for itself. Neither keeps book of handles: which
handle may be used, and when, is the business of a session.
-/

namespace ScriptHost

/-- A runtime that a host can drive. `probe` tells whether it has the diagnostic probe. -/
inductive Runtime where
  | recorder (probe : Bool)
  | library (path : Path) (probe : Bool)
  deriving DecidableEq, Repr

namespace Runtime

/-- What the runtime gets to see of a text. -/
def received (r : Runtime) (t : ForeignText) : Bytes :=
  match r with
  | .recorder _ => t.bytes
  | .library _ _ => ForeignText.readBuffer t.buffer

/-- Notes a call. A recorder then lets its hooks act. -/
def call (r : Runtime) (c : Call) : Act Unit := do
  Act.record c
  match r, c.kind? with
  | .recorder _, some k => Act.fireHooks k
  | _, _ => pure ()

/-- Starts a runtime for a base directory. A value that is not positive means failure. -/
def init (r : Runtime) (baseDir : ForeignText) : Act Int := do
  r.call (.init (r.received baseDir))
  Act.nextHandle

def run (r : Runtime) (handle : Int) (source : ForeignText) : Act Unit :=
  r.call (.run handle (r.received source))

def deinit (r : Runtime) (handle : Int) : Act Unit := r.call (.deinit handle)

/-- Calls the diagnostic probe. A library that lacks it is not called at all. -/
def hello (r : Runtime) : Act Unit :=
  let missing : HostError := .missingSymbol Symbol.hello.name
  match r with
  | .recorder probe => do
    r.call .hello
    if probe then pure () else Act.fail missing
  | .library _ probe => if probe then r.call .hello else Act.fail missing

end Runtime

/-- Whether a value of the runtime's `init` denotes a live runtime. -/
def isValidHandle (handle : Int) : Bool := 0 < handle

end ScriptHost
