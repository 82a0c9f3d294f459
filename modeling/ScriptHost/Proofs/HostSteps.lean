import ScriptHost.Proofs.InStep

/-!
# A host in use

A host is used step by step: it runs cycles, is probed and asked for its entry path, and
between that files change and the working directory moves. Whoever looks on sees of each
step how it ended, the calls that the runtime received during it and what was logged
(`Observation`); a failure or a panic ends the step and not the use, only an abort does.

Statements about two uses compare what is seen of them. `StepCoupling` adds to a
`Coupling` what that needs, and `observe_eq` carries it from one step to the next.
-/

namespace ScriptHost

/-! ## Steps and what is seen of them -/

/-- What is done with a host, or happens around it. -/
inductive HostStep where
  | runOnce (cycle : Nat)
  | run (count : Nat)
  | probe
  | entryPath
  | change (changes : List Change)
  /-- The working directory is moved to where a path leads. -/
  | move (dir : Path)
  deriving DecidableEq, Repr

def HostStep.isMove : HostStep → Bool
  | .move _ => true
  | _ => false

theorem HostStep.eq_move {x : HostStep} (h : x.isMove = true) : ∃ dir, x = .move dir := by
  cases x with
  | move dir => exact ⟨dir, rfl⟩
  | _ => cases h

inductive Answer where
  | done
  | report (r : Report)
  | reports (rs : List Report)
  | path (p : Path)
  /-- The working directory was moved, unless the system refused it. -/
  | moved (refusal : Option FileFault)
  deriving DecidableEq, Repr

/-- The surroundings with the working directory that a path leads to. -/
def System.move (s : System) (dir : Path) : Except FileFault System :=
  match s.files.locate s.cwd dir with
  | .error e => .error e
  | .ok l =>
    match s.files.get? l with
    | some .directory => .ok { s with cwd := l }
    | some _ => .error (.system .notDirectory)
    | none => .error (.system .noEntry)

/-- Moves the working directory, if the system lets it. -/
def Act.move (dir : Path) : Act (Option FileFault) := fun w =>
  match w.system.move dir with
  | .ok s => .ok none { w with system := s }
  | .error e => .ok (some e) w

/-- What is seen of a step. -/
structure Observation where
  step : HostStep
  ending : Except Stop Answer
  calls : List Call
  logs : List LogEntry

/-- Whether the step has aborted the program. -/
def Observation.aborts (o : Observation) : Bool :=
  match o.ending with
  | .error .abort => true
  | _ => false

namespace Host

def perform (h : Host) : HostStep → Act Answer
  | .runOnce cycle => do return .report (← h.runOnce cycle)
  | .run count => do return .reports (← h.run count)
  | .probe => do
    h.probe
    pure .done
  | .entryPath => pure (.path h.entryPath)
  | .change changes => do
    modify fun w => w.withFiles (w.system.files.applyAll changes)
    pure .done
  | .move dir => do return .moved (← Act.move dir)

/-- A step: what is seen of it, and the world behind it. -/
def observe (h : Host) (x : HostStep) (w : World) : Observation × World :=
  match h.perform x w with
  | .ok a w' =>
    (⟨x, .ok a, w'.calls.drop w.calls.length, w'.logs.drop w.logs.length⟩, w')
  | .error stop w' =>
    (⟨x, .error stop, w'.calls.drop w.calls.length, w'.logs.drop w.logs.length⟩, w')

/-- What is seen of a row of steps. After an abort there is nothing to see. -/
def observations (h : Host) : List HostStep → World → List Observation
  | [], _ => []
  | x :: xs, w =>
    (h.observe x w).1 ::
      if (h.observe x w).1.aborts then [] else h.observations xs (h.observe x w).2

theorem step_observe (h : Host) (x : HostStep) (w : World) : (h.observe x w).1.step = x := by
  unfold observe
  split <;> rfl

end Host

/-! ## Steps in step -/

/-- A coupling that also outlives changes of the files, and in whose worlds the same calls and the
same entries of the log have come up since two earlier worlds of it. -/
structure StepCoupling (R : World → World → Prop) (r r' : Runtime) (path : Path) : Prop
    extends Coupling R r r' path where
  files : ∀ {w v : World}, R w v → v.system.files = w.system.files
  withFiles : ∀ {w v : World} (t : FileTree), R w v → R (w.withFiles t) (v.withFiles t)
  calls : ∀ {w v w' v' : World}, R w v → R w' v' →
    v'.calls.drop v.calls.length = w'.calls.drop w.calls.length
  logs : ∀ {w v w' v' : World}, R w v → R w' v' →
    v'.logs.drop v.logs.length = w'.logs.drop w.logs.length

namespace StepCoupling

variable {R : World → World → Prop} {r' : Runtime} {h : Host} {x : HostStep} {w v : World}

/-- Every step but a move of the working directory is made in step. -/
theorem perform (hc : StepCoupling R h.runtime r' h.entryPath) (hx : x.isMove = false) :
    InStep R Eq (h.perform x) (Host.perform { h with runtime := r' } x) := by
  cases x with
  | runOnce cycle =>
    refine .bind (hc.runOnce cycle) ?_
    rintro report _ rfl
    exact .pure rfl
  | run count =>
    refine .bind (hc.runFrom 1 count) ?_
    rintro reports _ rfl
    exact .pure rfl
  | probe => exact .andThen hc.probe (.pure rfl)
  | entryPath => exact .pure rfl
  | change changes =>
    refine .andThen (S := Eq) ?_ (.pure rfl)
    intro w v hw
    refine .returned rfl ?_
    dsimp only
    rw [hc.files hw]
    exact hc.withFiles _ hw
  | move dir => cases hx

/-- **What is seen of a step made in step** is the same, and the worlds behind it look the same
again. -/
theorem observe_eq (hc : StepCoupling R h.runtime r' h.entryPath)
    (hx : InStep R Eq (h.perform x) (Host.perform { h with runtime := r' } x)) (hw : R w v) :
    (Host.observe { h with runtime := r' } x v).1 = (h.observe x w).1
      ∧ R (h.observe x w).2 (Host.observe { h with runtime := r' } x v).2 := by
  have hend := hx hw
  unfold Host.observe
  revert hend
  generalize h.perform x w = p
  generalize Host.perform { h with runtime := r' } x v = q
  intro hend
  cases hend with
  | returned hab hw' =>
    subst hab
    dsimp only
    rw [hc.calls hw hw', hc.logs hw hw']
    exact ⟨rfl, hw'⟩
  | stopped hw' =>
    dsimp only
    rw [hc.calls hw hw', hc.logs hw hw']
    exact ⟨rfl, hw'⟩

end StepCoupling

end ScriptHost
