import ScriptHost.Proofs.Sessions

/-!
# How a cycle ends

A cycle can end in seven ways, and `Cycle` lists them with the world that each one
leaves: the runtime is not started, the script is refused, the runtime panics over
the script, or over its release, or the cycle comes to its end. Two ends of a
session's use, a refused script and a panic, drop the session, and the release in
that drop can panic once more; this is where seven comes from.

`runOnce_cases` is the only place where a cycle is evaluated. What the calls of a
cycle are, which script it runs and what it logs is read off its cases.
-/

namespace ScriptHost

/-! ## The script -/

/-- The world when a script was read and is about to be handed over. -/
def World.scriptLogged (w : World) (script : EntryScript) : World :=
  (w.logged (.scriptRead script.path script.size)).logged (.running script.path)

/-- The world when a script has arrived at the runtime of a session. -/
def Session.handedOver (s : Session) (script : EntryScript) (w : World) : World :=
  s.runtime.arrive (.run s.raw (bytesOf script.source))
    ((w.scriptLogged script).logged (.handingOver s.raw script.size))

section Frame

variable (w : World) (s : Session) (script : EntryScript)

@[simp] theorem World.scriptLogged_calls : (w.scriptLogged script).calls = w.calls := rfl
@[simp] theorem World.scriptLogged_supply : (w.scriptLogged script).supply = w.supply := rfl
@[simp] theorem World.scriptLogged_hooks : (w.scriptLogged script).hooks = w.hooks := rfl
@[simp] theorem World.scriptLogged_cycle : (w.scriptLogged script).cycle = w.cycle := rfl

@[simp] theorem Session.handedOver_calls :
    (s.handedOver script w).calls = w.calls ++ [.run s.raw (bytesOf script.source)] := by
  simp only [handedOver, Runtime.arrive_calls, World.logged_calls, World.scriptLogged_calls]

@[simp] theorem Session.handedOver_supply : (s.handedOver script w).supply = w.supply := by
  simp only [handedOver, Runtime.arrive_supply, World.logged_supply, World.scriptLogged_supply]

@[simp] theorem Session.handedOver_hooks : (s.handedOver script w).hooks = w.hooks := by
  simp only [handedOver, Runtime.arrive_hooks, World.logged_hooks, World.scriptLogged_hooks]

@[simp] theorem Session.handedOver_cycle : (s.handedOver script w).cycle = w.cycle := by
  simp only [handedOver, Runtime.arrive_cycle, World.logged_cycle, World.scriptLogged_cycle]

end Frame

namespace Host

/-- The script of a host cannot be handed over in the world `w`, and the world then is `w'`. -/
inductive Refuses (h : Host) (w : World) : HostError → World → Prop where
  /-- The file of the script cannot be read, or is not text. -/
  | unreadable {e : HostError} :
      EntryScript.ofFile w.system h.entryPath = .error e → Refuses h w e w
  /-- The script has a NUL byte. -/
  | nul {script : EntryScript} :
      EntryScript.ofFile w.system h.entryPath = .ok script → 0 ∈ bytesOf script.source →
      Refuses h w (.interiorNul entryScriptText ((bytesOf script.source).idxOf 0))
        (w.scriptLogged script)

/-- A refusal leaves the trace, the supply and the hooks alone. -/
theorem frame_of_refuses {h : Host} {w w' : World} {e : HostError} (hr : h.Refuses w e w') :
    w'.calls = w.calls ∧ w'.supply = w.supply ∧ w'.hooks = w.hooks := by
  cases hr with
  | nul _ _ => exact ⟨rfl, rfl, rfl⟩
  | unreadable _ => exact ⟨rfl, rfl, rfl⟩

/-- The script of a host can be handed over in the world `w`. -/
structure Hands (h : Host) (w : World) (script : EntryScript) : Prop where
  read : EntryScript.ofFile w.system h.entryPath = .ok script
  nul_notMem : 0 ∉ bytesOf script.source

/-- The ends of handing the script to a session. -/
inductive HandsOver (h : Host) (s : Session) (w : World) :
    EStateM.Result Stop World EntryScript → Prop where
  | refused {e : HostError} {w' : World} : h.Refuses w e w' →
      HandsOver h s w (.error (.failure e) w')
  | panicked {script : EntryScript} {text : String} : h.Hands w script →
      s.runtime.panic? (.run s.raw (bytesOf script.source))
        ((w.scriptLogged script).logged (.handingOver s.raw script.size)) = some text →
      HandsOver h s w (.error (.panic text) (s.handedOver script w))
  | returned {script : EntryScript} : h.Hands w script →
      s.runtime.panic? (.run s.raw (bytesOf script.source))
        ((w.scriptLogged script).logged (.handingOver s.raw script.size)) = none →
      HandsOver h s w (.ok script (s.handedOver script w))

theorem handOver_cases (h : Host) (s : Session) (w : World) :
    HandsOver h s w (h.handOver s w) := by
  unfold handOver
  cases hfile : EntryScript.ofFile w.system h.entryPath with
  | error e =>
    have hread : EntryScript.read h.entryPath w = .error (.failure e) w := by
      show (Act.ofExcept (EntryScript.ofFile w.system h.entryPath) >>= _) w = _
      rw [hfile]
      rfl
    rw [Act.bind_of_error hread]
    exact .refused (.unreadable hfile)
  | ok script =>
    have hread : EntryScript.read h.entryPath w
        = .ok script (w.logged (.scriptRead script.path script.size)) := by
      show (Act.ofExcept (EntryScript.ofFile w.system h.entryPath) >>= _) w = _
      rw [hfile]
      rfl
    rw [Act.bind_of_ok hread]
    show HandsOver h s w ((s.run script.source >>= _) (w.scriptLogged script))
    have hrun := s.run_eq script.source (w.scriptLogged script)
    rw [show (bytesOf script.source).length = script.size from rfl] at hrun
    -- a NUL byte is noticed late, when the script has been announced in the log
    by_cases hnul : 0 ∈ bytesOf script.source
    · rw [if_pos hnul] at hrun
      rw [Act.bind_of_error hrun]
      exact .refused (.nul hfile hnul)
    · rw [if_neg hnul] at hrun
      cases hp : s.runtime.panic? (.run s.raw (bytesOf script.source))
          ((w.scriptLogged script).logged (.handingOver s.raw script.size)) with
      | some text =>
        rw [hp] at hrun
        rw [Act.bind_of_error hrun]
        exact .panicked ⟨hfile, hnul⟩ hp
      | none =>
        rw [hp] at hrun
        rw [Act.bind_of_ok hrun]
        exact .returned ⟨hfile, hnul⟩ hp

/-! ## The cycle -/

/-- The ends of cycle `n` of a host in the world `w`. -/
inductive Cycle (h : Host) (n : Nat) (w : World) : EStateM.Result Stop World Report → Prop where
  /-- The runtime is not started. -/
  | notStarted {stop : Stop} {w₁ : World} :
      Session.Starts h.runtime h.baseDir (w.atCycle (some n)) (.error stop w₁) →
      Cycle h n w (.error stop (w₁.atCycle w.cycle))
  /-- The script is refused, and the session dropped. -/
  | refused {s : Session} {w₁ w₂ : World} {e : HostError} :
      Session.Starts h.runtime h.baseDir (w.atCycle (some n)) (.ok s w₁) → h.Refuses w₁ e w₂ →
      s.runtime.panic? (.deinit s.raw) (w₂.logged (.releasing s.raw false)) = none →
      Cycle h n w
        (.error (.failure e) ((s.released (w₂.logged (.releasing s.raw false))).atCycle w.cycle))
  /-- The script is refused, and the runtime panics over the drop. -/
  | refusedPanic {s : Session} {w₁ w₂ : World} {e : HostError} {text : String} :
      Session.Starts h.runtime h.baseDir (w.atCycle (some n)) (.ok s w₁) → h.Refuses w₁ e w₂ →
      s.runtime.panic? (.deinit s.raw) (w₂.logged (.releasing s.raw false)) = some text →
      Cycle h n w
        (.error (.panic text) ((s.releasing (w₂.logged (.releasing s.raw false))).atCycle w.cycle))
  /-- The runtime panics over the script, and the session is dropped. -/
  | scriptPanic {s : Session} {w₁ : World} {script : EntryScript} {text : String} :
      Session.Starts h.runtime h.baseDir (w.atCycle (some n)) (.ok s w₁) → h.Hands w₁ script →
      s.runtime.panic? (.run s.raw (bytesOf script.source))
        ((w₁.scriptLogged script).logged (.handingOver s.raw script.size)) = some text →
      s.runtime.panic? (.deinit s.raw)
        ((s.handedOver script w₁).logged (.releasing s.raw true)) = none →
      Cycle h n w
        (.error (.panic text)
          ((s.released ((s.handedOver script w₁).logged (.releasing s.raw true))).atCycle w.cycle))
  /-- The runtime panics over the script and over the drop. -/
  | abort {s : Session} {w₁ : World} {script : EntryScript} {text : String} :
      Session.Starts h.runtime h.baseDir (w.atCycle (some n)) (.ok s w₁) → h.Hands w₁ script →
      s.runtime.panic? (.run s.raw (bytesOf script.source))
        ((w₁.scriptLogged script).logged (.handingOver s.raw script.size)) = some text →
      (s.runtime.panic? (.deinit s.raw)
        ((s.handedOver script w₁).logged (.releasing s.raw true))).isSome →
      Cycle h n w
        (.error .abort
          ((s.releasing ((s.handedOver script w₁).logged (.releasing s.raw true))).atCycle w.cycle))
  /-- The script has run, and the runtime panics over the release. -/
  | releasePanic {s : Session} {w₁ : World} {script : EntryScript} {text : String} :
      Session.Starts h.runtime h.baseDir (w.atCycle (some n)) (.ok s w₁) → h.Hands w₁ script →
      s.runtime.panic? (.deinit s.raw) (s.handedOver script w₁) = some text →
      s.runtime.panic? (.run s.raw (bytesOf script.source))
        ((w₁.scriptLogged script).logged (.handingOver s.raw script.size)) = none →
      Cycle h n w
        (.error (.panic text) ((s.releasing (s.handedOver script w₁)).atCycle w.cycle))
  /-- The script has run and the session was released. -/
  | finished {s : Session} {w₁ : World} {script : EntryScript} :
      Session.Starts h.runtime h.baseDir (w.atCycle (some n)) (.ok s w₁) → h.Hands w₁ script →
      s.runtime.panic? (.run s.raw (bytesOf script.source))
        ((w₁.scriptLogged script).logged (.handingOver s.raw script.size)) = none →
      s.runtime.panic? (.deinit s.raw) (s.handedOver script w₁) = none →
      Cycle h n w
        (.ok ⟨n, s.raw, script.path, script.size⟩
          (((s.released (s.handedOver script w₁)).logged .cycleFinished).atCycle w.cycle))

/-- **A cycle ends in one of the seven ways.** -/
theorem runOnce_cases (h : Host) (n : Nat) (w : World) : h.Cycle n w (h.runOnce n w) := by
  have hstart := Session.start_cases h.runtime h.baseDir (w.atCycle (some n))
  unfold runOnce
  rw [Act.inCycle_eq]
  cases hs : Session.start h.runtime h.baseDir (w.atCycle (some n)) with
  | error stop w₁ =>
    rw [hs] at hstart
    rw [Act.bind_of_error hs]
    exact .notStarted hstart
  | ok s w₁ =>
    rw [hs] at hstart
    rw [Act.bind_of_ok hs]
    have hlive : s.state = .live := (Session.frame_of_starts hstart).2.1
    have hhand := h.handOver_cases s w₁
    -- the session is dropped if the script was not handed over, and closed if it was
    cases hh : h.handOver s w₁ with
    | error stop w₂ =>
      rw [hh] at hhand
      cases hhand with
      | refused hrefuses =>
        have howning := Session.owning_of_failure hlive hh
        cases hp : s.runtime.panic? (.deinit s.raw) (w₂.logged (.releasing s.raw false)) with
        | none =>
          rw [hp] at howning
          rw [Act.bind_of_error howning]
          exact .refused hstart hrefuses hp
        | some text =>
          rw [hp] at howning
          rw [Act.bind_of_error howning]
          exact .refusedPanic hstart hrefuses hp
      | @panicked script text hhands hrun =>
        have howning := Session.owning_of_panic hlive hh
        cases hp : s.runtime.panic? (.deinit s.raw)
            ((s.handedOver script w₁).logged (.releasing s.raw true)) with
        | none =>
          rw [hp] at howning
          rw [Act.bind_of_error howning]
          exact .scriptPanic hstart hhands hrun hp
        | some _ =>
          rw [hp] at howning
          rw [Act.bind_of_error howning]
          exact .abort hstart hhands hrun (Option.isSome_of_eq_some hp)
    | ok script w₂ =>
      rw [hh] at hhand
      cases hhand with
      | returned hhands hrun =>
        rw [Act.bind_of_ok (Session.owning_of_ok hh)]
        have hclose := Session.close_eq hlive (s.handedOver script w₁)
        cases hp : s.runtime.panic? (.deinit s.raw) (s.handedOver script w₁) with
        | none =>
          rw [hp] at hclose
          rw [Act.bind_of_ok hclose]
          exact .finished hstart hhands hrun hp
        | some text =>
          rw [hp] at hclose
          rw [Act.bind_of_error hclose]
          exact .releasePanic hstart hhands hp hrun

end Host

/-! ### A small host -/

/-- The directory `/app`, with a script in it or without. -/
def smallSystem (script : Option Bytes) : System :=
  { files := ⟨([bytesOf "app"], .directory) :: (script.map fun content =>
      ([bytesOf "app", bytesOf "main.js"], Entry.file content)).toList⟩
    cwd := []
    env := []
    accountHome := .ofString "/root"
    programDirectory := .ofString "/opt"
    systemLibraries := [] }

def smallWorld (script : Option Bytes) (hooks : List Hook) : World :=
  .start (smallSystem script) [7, 8] hooks

def smallHost : Host := ⟨.recorder true, .ofString "/app", .ofString "main.js"⟩

end ScriptHost
