import ScriptHost.Foreign.Runtime

/-!
# Sessions

A session owns the handle of one runtime. It comes into being when the runtime is started and ends
by `close` or, when its owner goes away without closing it, by `drop`. Both release the handle if
it is still live, and a handle stops being live before the runtime hears of its release, so that a
runtime which panics over one is not asked again. `owning` runs an action that the session outlives
only if the action returns: a failure or a panic on the way drops it.
-/

namespace ScriptHost

/-- Whether the handle of a session may still be used. -/
inductive SessionState where
  | live
  | deinitialized
  deriving DecidableEq, Repr

def SessionState.name : SessionState → String
  | .live => "Live"
  | .deinitialized => "Deinitialized"

/-- A runtime that was started. -/
structure Session where
  runtime : Runtime
  raw : Int
  state : SessionState
  deriving DecidableEq, Repr

namespace Session

/-- Starts the runtime for a base directory. A handle that is not valid is not owned, so it is
neither used nor released. -/
def start (runtime : Runtime) (baseDir : Path) : Act Session := do
  let text ← Act.ofExcept (ForeignText.ofPath baseDirectoryText baseDir)
  Act.log (.initializing baseDir)
  let raw ← runtime.init text
  if isValidHandle raw then
    Act.log (.initialized raw)
    pure ⟨runtime, raw, .live⟩
  else Act.fail (.initializationFailure baseDir raw)

/-- Hands a script to the runtime and waits until it has run. -/
def run (s : Session) (source : String) : Act Unit := do
  let text ← Act.ofExcept (ForeignText.ofText entryScriptText source)
  Act.log (.handingOver s.raw text.bytes.length)
  s.runtime.run s.raw text

/-- The release of the handle: the session as it is from then on, and what is done. A session that
was released before is left alone. -/
def release (s : Session) : Session × Act Unit :=
  if s.state = .live then
    ({ s with state := .deinitialized }, do
      s.runtime.deinit s.raw
      Act.log (.deinitialized s.raw))
  else (s, pure ())

/-- The end of a session whose owner goes away, `unwinding` if a panic takes it away. A second
panic then aborts. -/
def drop (s : Session) (unwinding : Bool) : Act Unit := fun w =>
  let body : Act Unit := do
    if s.state = .live then Act.log (.releasing s.raw unwinding)
    s.release.2
  match body w with
  | .error (.panic text) w => .error (if unwinding then .abort else .panic text) w
  | r => r

/-- Runs an action on behalf of the session's owner. If it does not return, neither does the
owner, and the session is dropped. -/
def owning {α : Type} (s : Session) (body : Act α) : Act α := fun w =>
  match body w with
  | .ok a w => .ok a w
  | .error (.failure e) w =>
    match s.drop false w with
    | .ok () w => .error (.failure e) w
    | .error stop w => .error stop w
  | .error (.panic text) w =>
    match s.drop true w with
    | .ok () w => .error (.panic text) w
    | .error stop w => .error stop w
  | .error .abort w => .error .abort w

/-- Releases the handle at once. The session ends with it, whether or not the runtime panics. -/
def close (s : Session) : Act Unit := do
  let (released, act) := s.release
  released.owning act
  released.drop false

def inspect (s : Session) : String :=
  "RuntimeHandle \x7b raw: " ++ toString s.raw ++ ", state: " ++ s.state.name ++ ", .. \x7d"

end Session

end ScriptHost
