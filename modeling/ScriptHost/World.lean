import ScriptHost.Event
import ScriptHost.System
import ScriptHost.FileTree.Change

/-!
# The world of a host

What a host acts on, and the trace of what it did. Its operations take the world from one state to
the next and end by returning or in a `Stop`; in either case the world tells what happened up to
then: the calls that the runtime received and the events that were logged, in order.

A world can hold surprises. A hook waits for the nth call of a kind, changes files when that call
has arrived, and may then panic.
-/

namespace ScriptHost

inductive Call where
  | init (baseDir : Bytes)
  | run (handle : Int) (source : Bytes)
  | deinit (handle : Int)
  | hello
  deriving DecidableEq, Repr

inductive CallKind where
  | init
  | run
  | deinit
  deriving DecidableEq, Repr

def CallKind.name : CallKind → String
  | .init => "init"
  | .run => "run"
  | .deinit => "deinit"

/-- The panic of a hook over the call number `n` of a kind. -/
def CallKind.panicText (k : CallKind) (n : Nat) : String := s!"{k.name} #{n} panicked"

def Call.kind? : Call → Option CallKind
  | .init _ => some .init
  | .run _ _ => some .run
  | .deinit _ => some .deinit
  | .hello => none

/-- What happens when the call number `nth` of a kind arrives, counted from 1. -/
structure Hook where
  kind : CallKind
  nth : Nat
  changes : List Change
  panics : Bool

structure World where
  system : System
  /-- The values that the runtime's `init` returns in turn; zero when they are used up. -/
  supply : List Int
  hooks : List Hook
  calls : List Call
  logs : List LogEntry
  /-- The number of the cycle that is going on. -/
  cycle : Option Nat

abbrev Act := EStateM Stop World

namespace World

def count (w : World) (k : CallKind) : Nat := w.calls.countP fun c => c.kind? = some k

/-- The hooks that wait for the call of kind `k` that arrived last. -/
def due (w : World) (k : CallKind) : List Hook :=
  w.hooks.filter fun h => h.kind = k ∧ h.nth = w.count k

def start (system : System) (supply : List Int) (hooks : List Hook) : World :=
  { system, supply, hooks, calls := [], logs := [], cycle := none }

end World

namespace Act

def log (e : Event) : Act Unit :=
  modify fun w => { w with logs := w.logs ++ [⟨w.cycle, e⟩] }

def record (c : Call) : Act Unit := modify fun w => { w with calls := w.calls ++ [c] }

def fail {α : Type} (e : HostError) : Act α := throw (.failure e)

def ofExcept {α : Type} : Except HostError α → Act α
  | .ok a => pure a
  | .error e => fail e

/-- Runs a computation on the surroundings as they are now. -/
def observe {α : Type} (f : System → Except HostError α) : Act α := do
  ofExcept (f (← get).system)

/-- Runs `body` as cycle `n`: what it logs is entered with that number, however it ends. -/
def inCycle {α : Type} (n : Nat) (body : Act α) : Act α := fun w =>
  match body { w with cycle := some n } with
  | .ok a w' => .ok a { w' with cycle := w.cycle }
  | .error e w' => .error e { w' with cycle := w.cycle }

def fire (n : Nat) (h : Hook) : Act Unit := do
  modify fun w => { w with system := { w.system with files := w.system.files.applyAll h.changes } }
  if h.panics then throw (.panic (h.kind.panicText n))

/-- Lets the hooks act that wait for the call of this kind which has just arrived. -/
def fireHooks (k : CallKind) : Act Unit := do
  let w ← get
  (w.due k).forM (fire (w.count k))

def nextHandle : Act Int :=
  modifyGet fun w =>
    match w.supply with
    | [] => (0, w)
    | h :: rest => (h, { w with supply := rest })

end Act

end ScriptHost
