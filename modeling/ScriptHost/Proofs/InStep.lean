import ScriptHost.Proofs.Sessions

/-!
# Two hosts in step

Two hosts that differ only in their runtimes, each in a world of its own, do the same
thing as long as their worlds look the same to them. What that means is a relation
between worlds, and a `Coupling` lists all that such a relation has to keep: the script
that is read, the log, the answers of the runtime and what a call to it comes to. Nothing
else of a world matters to a host.

The rest follows the host down. Each operation of a session and of a host goes in step
with its twin because its parts do, and the session that is carried from one part to the
next is the same but for its runtime (`Twins`).
-/

namespace ScriptHost

/-! ## Actions in step -/

/-- Two actions have ended alike: both have returned, with values that belong together, or both
have stopped for the same reason. -/
inductive Corresponds {α β : Type} (R : World → World → Prop) (S : α → β → Prop) :
    EStateM.Result Stop World α → EStateM.Result Stop World β → Prop where
  | returned {a : α} {b : β} {w v : World} : S a b → R w v → Corresponds R S (.ok a w) (.ok b v)
  | stopped {stop : Stop} {w v : World} : R w v →
      Corresponds R S (.error stop w) (.error stop v)

/-- Two actions end alike in worlds that look the same, and leave such worlds. -/
def InStep {α β : Type} (R : World → World → Prop) (S : α → β → Prop) (x : Act α) (y : Act β) :
    Prop :=
  ∀ ⦃w v : World⦄, R w v → Corresponds R S (x w) (y v)

namespace InStep

variable {α β γ δ : Type} {R : World → World → Prop} {S : α → β → Prop} {T : γ → δ → Prop}
  {x : Act α} {y : Act β}

protected theorem pure {a : α} {b : β} (h : S a b) :
    InStep R S (pure a : Act α) (pure b : Act β) :=
  fun _ _ hw => .returned h hw

protected theorem throw (stop : Stop) : InStep R S (throw stop : Act α) (throw stop : Act β) :=
  fun _ _ hw => .stopped hw

protected theorem bind {f : α → Act γ} {g : β → Act δ} (hx : InStep R S x y)
    (hf : ∀ a b, S a b → InStep R T (f a) (g b)) : InStep R T (x >>= f) (y >>= g) := by
  intro w v hw
  have hxy := hx hw
  show Corresponds R T (EStateM.bind x f w) (EStateM.bind y g v)
  unfold EStateM.bind
  revert hxy
  generalize x w = p
  generalize y v = q
  intro hxy
  cases hxy with
  | returned hab hw' => exact hf _ _ hab hw'
  | stopped hw' => exact .stopped hw'

/-- One action after the other, the value of the first not being looked at. -/
protected theorem andThen {f : Act γ} {g : Act δ} (hx : InStep R S x y) (hf : InStep R T f g) :
    InStep R T (x >>= fun _ => f) (y >>= fun _ => g) :=
  hx.bind fun _ _ _ => hf

protected theorem ofExcept (e : Except HostError α) :
    InStep R Eq (Act.ofExcept e) (Act.ofExcept e) := by
  cases e with
  | ok a => exact .pure rfl
  | error e => exact .throw _

end InStep

/-! ## What a relation of worlds has to keep -/

/-- The worlds of `R` look the same to a host of the script at `path`, over the runtime `r` in the
first of them and over `r'` in the second. -/
structure Coupling (R : World → World → Prop) (r r' : Runtime) (path : Path) : Prop where
  script : ∀ {w v : World}, R w v →
    EntryScript.ofFile v.system path = EntryScript.ofFile w.system path
  cycle : ∀ {w v : World}, R w v → v.cycle = w.cycle
  atCycle : ∀ {w v : World} (n : Option Nat), R w v → R (w.atCycle n) (v.atCycle n)
  logged : ∀ {w v : World} (e : Event), R w v → R (w.logged e) (v.logged e)
  answer : InStep R Eq Act.nextHandle Act.nextHandle
  call : ∀ c : Call, InStep R Eq (r.call c) (r'.call c)
  hello : InStep R Eq r.hello r'.hello

/-- Two sessions are the same but for their runtimes. -/
structure Session.Twins (r r' : Runtime) (s s' : Session) : Prop where
  runtime : s.runtime = r
  other : s' = { s with runtime := r' }

/-- What is done with a session whose owner goes away. -/
def Session.leaving (s : Session) (unwinding : Bool) : Act Unit := do
  if s.state = .live then Act.log (.releasing s.raw unwinding)
  s.release.2

/-- A panic over that aborts if another one is unwinding. -/
theorem Session.drop_eq_leaving (s : Session) (unwinding : Bool) (w : World) :
    s.drop unwinding w =
      match s.leaving unwinding w with
      | .error (.panic text) w => .error (if unwinding then .abort else .panic text) w
      | r => r := rfl

/-- Drops a session on the way out of an action that has stopped. A panic over that takes the place
of what stopped the action. -/
def Session.dropping {α : Type} (s : Session) (unwinding : Bool) (stop : Stop) : Act α := fun w =>
  match s.drop unwinding w with
  | .ok () w => .error stop w
  | .error stop w => .error stop w

namespace Coupling

variable {R : World → World → Prop} {r r' : Runtime} {path : Path} {α β : Type}
  {S : α → β → Prop}

theorem log (hc : Coupling R r r' path) (e : Event) : InStep R Eq (Act.log e) (Act.log e) :=
  fun _ _ hw => .returned rfl (hc.logged e hw)

theorem inCycle (hc : Coupling R r r' path) (n : Nat) {x : Act α} {y : Act β}
    (hxy : InStep R S x y) : InStep R S (Act.inCycle n x) (Act.inCycle n y) := by
  intro w v hw
  rw [Act.inCycle_eq, Act.inCycle_eq, hc.cycle hw]
  have hbody := hxy (hc.atCycle (some n) hw)
  revert hbody
  generalize x (w.atCycle (some n)) = p
  generalize y (v.atCycle (some n)) = q
  intro hbody
  cases hbody with
  | returned hab hw' => exact .returned hab (hc.atCycle w.cycle hw')
  | stopped hw' => exact .stopped (hc.atCycle w.cycle hw')

/-! ## Sessions -/

/-- Both runtimes get to see the text itself. -/
theorem init (hc : Coupling R r r' path) (t : ForeignText) :
    InStep R Eq (r.init t) (r'.init t) := by
  unfold Runtime.init
  rw [Runtime.received_eq, Runtime.received_eq]
  exact .andThen (hc.call _) hc.answer

theorem start (hc : Coupling R r r' path) (base : Path) :
    InStep R (Session.Twins r r') (Session.start r base) (Session.start r' base) := by
  unfold Session.start
  refine .bind (.ofExcept _) ?_
  rintro text _ rfl
  refine .andThen (hc.log _) (.bind (hc.init text) ?_)
  rintro raw _ rfl
  split
  · exact .andThen (hc.log _) (.pure ⟨rfl, rfl⟩)
  · exact .throw _

variable {s s' : Session}

theorem run (hc : Coupling R r r' path) (hs : Session.Twins r r' s s') (source : String) :
    InStep R Eq (s.run source) (s'.run source) := by
  obtain ⟨rfl, rfl⟩ := hs
  unfold Session.run Runtime.run
  refine .bind (.ofExcept _) ?_
  rintro text _ rfl
  refine .andThen (hc.log _) ?_
  rw [Runtime.received_eq, Runtime.received_eq]
  exact hc.call _

/-- A release leaves twins, and is done in step. -/
theorem release (hc : Coupling R r r' path) (hs : Session.Twins r r' s s') :
    Session.Twins r r' s.release.1 s'.release.1 ∧ InStep R Eq s.release.2 s'.release.2 := by
  obtain ⟨rfl, rfl⟩ := hs
  unfold Session.release
  dsimp only
  split
  · exact ⟨⟨rfl, rfl⟩, .andThen (hc.call _) (hc.log _)⟩
  · exact ⟨⟨rfl, rfl⟩, .pure rfl⟩

theorem drop (hc : Coupling R r r' path) (hs : Session.Twins r r' s s') (unwinding : Bool) :
    InStep R Eq (s.drop unwinding) (s'.drop unwinding) := by
  have hleaving : InStep R Eq (s.leaving unwinding) (s'.leaving unwinding) := by
    have hrelease := (hc.release hs).2
    obtain ⟨rfl, rfl⟩ := hs
    unfold Session.leaving
    dsimp only
    split
    · exact .andThen (hc.log _) hrelease
    · exact hrelease
  intro w v hw
  have hend := hleaving hw
  rw [Session.drop_eq_leaving, Session.drop_eq_leaving]
  revert hend
  generalize s.leaving unwinding w = p
  generalize s'.leaving unwinding v = q
  intro hend
  cases hend with
  | returned hab hw' => exact .returned hab hw'
  | @stopped stop w' v' hw' =>
    cases stop with
    | failure e => exact .stopped hw'
    | panic text => exact .stopped hw'
    | abort => exact .stopped hw'

/-- A session is dropped in step on the way out of an action. -/
theorem dropping (hc : Coupling R r r' path) (hs : Session.Twins r r' s s') (unwinding : Bool)
    (stop : Stop) : InStep R S (s.dropping unwinding stop) (s'.dropping unwinding stop) := by
  intro w v hw
  have hend := hc.drop hs unwinding hw
  unfold Session.dropping
  revert hend
  generalize s.drop unwinding w = p
  generalize s'.drop unwinding v = q
  intro hend
  cases hend with
  | returned _ hw' => exact .stopped hw'
  | stopped hw' => exact .stopped hw'

/-- Two actions that are in step stay so on behalf of owners that are twins. -/
theorem owning (hc : Coupling R r r' path) (hs : Session.Twins r r' s s') {x : Act α} {y : Act β}
    (hxy : InStep R S x y) : InStep R S (s.owning x) (s'.owning y) := by
  intro w v hw
  have hend := hxy hw
  unfold Session.owning
  revert hend
  generalize x w = p
  generalize y v = q
  intro hend
  cases hend with
  | returned hab hw' => exact .returned hab hw'
  | @stopped stop w' v' hw' =>
    cases stop with
    | failure e => exact hc.dropping hs false (.failure e) hw'
    | panic text => exact hc.dropping hs true (.panic text) hw'
    | abort => exact .stopped hw'

theorem close (hc : Coupling R r r' path) (hs : Session.Twins r r' s s') :
    InStep R Eq s.close s'.close := by
  obtain ⟨hreleased, hact⟩ := hc.release hs
  exact .andThen (hc.owning hreleased hact) (hc.drop hreleased false)

/-! ## Hosts -/

theorem read (hc : Coupling R r r' path) :
    InStep R Eq (EntryScript.read path) (EntryScript.read path) := by
  unfold EntryScript.read
  refine .bind (S := Eq) ?_ ?_
  · intro w v hw
    show Corresponds R Eq ((Act.ofExcept (EntryScript.ofFile w.system path) : Act EntryScript) w)
      ((Act.ofExcept (EntryScript.ofFile v.system path) : Act EntryScript) v)
    rw [hc.script hw]
    exact InStep.ofExcept _ hw
  · rintro script _ rfl
    exact .andThen (hc.log _) (.pure rfl)

theorem handOver {h : Host} (hc : Coupling R r r' h.entryPath)
    (hs : Session.Twins r r' s s') :
    InStep R Eq (h.handOver s) (Host.handOver { h with runtime := r' } s') := by
  unfold Host.handOver
  refine .bind hc.read ?_
  rintro script _ rfl
  exact .andThen (hc.log _) (.andThen (hc.run hs _) (.pure rfl))

/-- **A cycle** goes in step with that of a host that has the other runtime. -/
theorem runOnce {h : Host} (hc : Coupling R h.runtime r' h.entryPath) (n : Nat) :
    InStep R Eq (h.runOnce n) (Host.runOnce { h with runtime := r' } n) := by
  unfold Host.runOnce
  refine hc.inCycle n (.bind (hc.start _) ?_)
  intro s s' hs
  refine .bind (hc.owning hs (hc.handOver hs)) ?_
  rintro script _ rfl
  refine .andThen (hc.close hs) (.andThen (hc.log _) (.pure ?_))
  rw [hs.other]

/-- A row of cycles goes in step, by induction on their number. -/
theorem runFrom {h : Host} (hc : Coupling R h.runtime r' h.entryPath) (first count : Nat) :
    InStep R Eq (h.runFrom first count) (Host.runFrom { h with runtime := r' } first count) := by
  induction count generalizing first with
  | zero => exact .pure rfl
  | succ count ih =>
    refine .bind (hc.runOnce first) ?_
    rintro report _ rfl
    refine .bind (ih (first + 1)) ?_
    rintro reports _ rfl
    exact .pure rfl

/-- The probe goes in step. -/
theorem probe {h : Host} (hc : Coupling R h.runtime r' h.entryPath) :
    InStep R Eq h.probe (Host.probe { h with runtime := r' }) :=
  .andThen hc.hello (hc.log _)

end Coupling

end ScriptHost
