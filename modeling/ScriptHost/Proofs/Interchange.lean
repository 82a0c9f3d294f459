import Mathlib
import ScriptHost.Foreign.Library
import ScriptHost.Proofs.BaseDirectory
import ScriptHost.Proofs.Cycle
import ScriptHost.Proofs.HostSteps

/-!
# A library does what a recorder does

A runtime library reads texts out of buffers, up to the first NUL byte; a recorder is
given the texts themselves. A text that crosses has no such byte, so both see the same
(`Runtime.received_eq`), and both answer from a supply of values in the order of their
starts. So a host over a library that exports all operations cannot be told from one over
a recorder that was given the library's values and has no hooks.

What came before the host is another matter: loading a library is logged. The two worlds
of `Mirrors` therefore share what has been called and logged since two starting points,
and not their whole histories.
-/

namespace ScriptHost

/-- The worlds `w`, of a library, and `v`, of a recorder, have come from `w₀` and `v₀` by the same
calls and the same entries of the log. -/
structure Mirrors (w₀ v₀ w v : World) : Prop where
  system : v.system = w.system
  supply : v.supply = w.supply
  hooks : v.hooks = []
  cycle : v.cycle = w.cycle
  calls : ∃ since, w.calls = w₀.calls ++ since ∧ v.calls = v₀.calls ++ since
  logs : ∃ since, w.logs = w₀.logs ++ since ∧ v.logs = v₀.logs ++ since

namespace Mirrors

variable {w₀ v₀ w v : World}

theorem recorded (h : Mirrors w₀ v₀ w v) (c : Call) :
    Mirrors w₀ v₀ (w.recorded c) (v.recorded c) := by
  obtain ⟨since, hw, hv⟩ := h.calls
  refine ⟨h.system, h.supply, h.hooks, h.cycle, ⟨since ++ [c], ?_, ?_⟩, h.logs⟩
  · rw [World.recorded, hw, List.append_assoc]
  · rw [World.recorded, hv, List.append_assoc]

theorem logged (h : Mirrors w₀ v₀ w v) (e : Event) :
    Mirrors w₀ v₀ (w.logged e) (v.logged e) := by
  obtain ⟨since, hw, hv⟩ := h.logs
  refine ⟨h.system, h.supply, h.hooks, h.cycle, h.calls, ⟨since ++ [⟨w.cycle, e⟩], ?_, ?_⟩⟩
  · rw [World.logged_logs, hw, List.append_assoc]
  · rw [World.logged_logs, hv, h.cycle, List.append_assoc]

theorem withSystem (h : Mirrors w₀ v₀ w v) (s : System) :
    Mirrors w₀ v₀ { w with system := s } { v with system := s } :=
  ⟨rfl, h.supply, h.hooks, h.cycle, h.calls, h.logs⟩

end Mirrors

/-- What was appended to two lists is the same, so it is what later ones have more. -/
theorem drop_since {α : Type} {xs ys as bs as' bs' since since' : List α}
    (hx : as = xs ++ since) (hy : bs = ys ++ since) (hx' : as' = xs ++ since')
    (hy' : bs' = ys ++ since') : bs'.drop bs.length = as'.drop as.length := by
  subst hx hy hx' hy'
  rw [List.length_append, List.length_append, List.drop_length_add_append,
    List.drop_length_add_append]

namespace Runtime

variable {w₀ v₀ : World}

/-- A recorder without hooks notes a call and returns, as a library does. -/
theorem call_mirrors (p : Path) (probe : Bool) (c : Call) :
    InStep (Mirrors w₀ v₀) Eq (call (.library p probe) c) (call (.recorder probe) c) := by
  intro w v h
  have hpanic : panic? (.recorder probe) c v = none := by
    refine panic?_eq_none _ _ ?_
    rw [h.hooks]
    exact fun _ hmem => absurd hmem List.not_mem_nil
  have harrive : arrive (.recorder probe) c v = v.recorded c := by
    unfold arrive
    split
    next k _ _ =>
      have hdue : (v.recorded c).due k = [] := by
        rw [World.due]
        show v.hooks.filter _ = []
        rw [h.hooks]
        rfl
      rw [hdue]
      rfl
    next => rfl
  rw [call_eq, call_eq, hpanic, harrive]
  exact .returned rfl (h.recorded c)

theorem hello_mirrors (p : Path) :
    InStep (Mirrors w₀ v₀) Eq (hello (.library p true)) (hello (.recorder true)) := by
  intro w v h
  have hcall := call_mirrors p true .hello h
  show Corresponds _ _ (call (.library p true) .hello w)
    ((call (.recorder true) .hello >>= fun _ => (pure () : Act Unit)) v)
  rwa [bind_pure_unit]

/-- A library that exports all operations is loaded, and leads to a world that mirrors that of a
recorder with its values. -/
theorem load_mirrors {s : System} {p : Path} {object : SharedObject}
    (hload : s.loadObject p = .ok object) (hall : ∀ x : Symbol, x ∈ object.exports)
    (supply : List Int) (hooks : List Hook) :
    ∃ w, Runtime.load p (World.start s supply hooks) = .ok (.library p true) w
      ∧ Mirrors w (World.start s object.handles []) w (World.start s object.handles []) := by
  have hsystem : (World.start s supply hooks).system.loadObject p = .ok object := hload
  refine ⟨((World.start s object.handles hooks).logged (.libraryLoaded p)).logged
    (.probeSymbol true), ?_, rfl, rfl, rfl, rfl, ⟨[], by simp, by simp⟩, ⟨[], by simp, by simp⟩⟩
  unfold Runtime.load
  simp only [bind, EStateM.bind, get, getThe, MonadStateOf.get, EStateM.get, hsystem, hall,
    decide_true]
  rfl

end Runtime

/-- Nothing that a host looks at tells a library from a recorder without hooks. -/
theorem coupling_mirrors (w₀ v₀ : World) (p script : Path) :
    StepCoupling (Mirrors w₀ v₀) (.library p true) (.recorder true) script where
  script h := by rw [h.system]
  cycle h := h.cycle
  atCycle _ h := ⟨h.system, h.supply, h.hooks, rfl, h.calls, h.logs⟩
  logged e h := h.logged e
  answer := by
    intro w v h
    rw [Act.nextHandle_eq, Act.nextHandle_eq, h.supply]
    exact .returned rfl ⟨h.system, rfl, h.hooks, h.cycle, h.calls, h.logs⟩
  call := Runtime.call_mirrors p true
  hello := Runtime.hello_mirrors p
  files h := by rw [h.system]
  withFiles t h := by
    rw [World.withFiles, World.withFiles, h.system]
    exact h.withSystem _
  calls h h' := by
    obtain ⟨since, hw, hv⟩ := h.calls
    obtain ⟨since', hw', hv'⟩ := h'.calls
    exact drop_since hw hv hw' hv'
  logs h h' := by
    obtain ⟨since, hw, hv⟩ := h.logs
    obtain ⟨since', hw', hv'⟩ := h'.logs
    exact drop_since hw hv hw' hv'

theorem Act.move_mirrors (w₀ v₀ : World) (dir : Path) :
    InStep (Mirrors w₀ v₀) Eq (Act.move dir) (Act.move dir) := by
  intro w v h
  unfold Act.move
  rw [h.system]
  cases w.system.move dir with
  | ok s => exact .returned rfl (h.withSystem s)
  | error e => exact .returned rfl h

namespace Host

variable {h : Host} {p : Path} {w₀ v₀ w v : World}

/-- Every step is made in step, moves of the working directory included. -/
theorem perform_mirrors (hr : h.runtime = .library p true) (x : HostStep) :
    InStep (Mirrors w₀ v₀) Eq (h.perform x) (perform { h with runtime := .recorder true } x) := by
  cases hx : x.isMove with
  | true =>
    obtain ⟨dir, rfl⟩ := HostStep.eq_move hx
    refine .bind (Act.move_mirrors w₀ v₀ dir) ?_
    rintro refusal _ rfl
    exact .pure rfl
  | false =>
    have hc := coupling_mirrors w₀ v₀ p h.entryPath
    rw [← hr] at hc
    exact hc.perform hx

/-- The same is seen of every row of steps, by induction on it. -/
theorem observations_mirrors (hr : h.runtime = .library p true) (steps : List HostStep)
    (hw : Mirrors w₀ v₀ w v) :
    observations { h with runtime := .recorder true } steps v = h.observations steps w := by
  have hc := coupling_mirrors w₀ v₀ p h.entryPath
  rw [← hr] at hc
  induction steps generalizing w v with
  | nil => rfl
  | cons x steps ih =>
    obtain ⟨hseen, hnext⟩ := hc.observe_eq (perform_mirrors hr x) hw
    rw [observations, observations, hseen, ih hnext]

/-- **A library and a recorder are interchangeable.** A library that exports all operations is
loaded; whether a host over it is built is the same as over a recorder that was given the library's
values and has no hooks; and of both hosts the same is seen, whatever steps are made. -/
theorem library_interchangeable {s : System} {p : Path} {object : SharedObject}
    (hload : s.loadObject p = .ok object) (hall : ∀ x : Symbol, x ∈ object.exports)
    (supply : List Int) (hooks : List Hook) :
    ∃ r w, Runtime.load p (World.start s supply hooks) = .ok r w ∧
      ∀ base entry : Path,
        (∀ h w', Host.new r base entry w = .ok h w' →
          ∃ v', Host.new (.recorder true) base entry (World.start s object.handles [])
              = .ok { h with runtime := .recorder true } v'
            ∧ ∀ steps, observations { h with runtime := .recorder true } steps v'
              = h.observations steps w')
        ∧ ∀ stop w', Host.new r base entry w = .error stop w' →
          ∃ v', Host.new (.recorder true) base entry (World.start s object.handles [])
            = .error stop v' := by
  obtain ⟨w, hloaded, hw⟩ := Runtime.load_mirrors hload hall supply hooks
  refine ⟨_, w, hloaded, fun base entry => ?_⟩
  rw [new_eq, new_eq, hw.system]
  cases w.system.resolveBaseDir base with
  | ok b =>
    constructor
    · intro h w' hnew
      cases hnew
      exact ⟨_, rfl, fun steps => observations_mirrors rfl steps hw⟩
    · intro stop w' hnew
      cases hnew
  | error e =>
    constructor
    · intro h w' hnew
      cases hnew
    · intro stop w' hnew
      cases hnew
      exact ⟨_, rfl⟩

end Host

/-- A library with all operations. Its second start fails. -/
def fullObject : SharedObject := ⟨[.init, .runScript, .deinit, .hello], [2 ^ 62, -1, 3]⟩

def fullPath : Path := .ofString "/app/lib.so"

def fullSystem : System :=
  { smallSystem (some (bytesOf "1")) with
    files := ⟨([bytesOf "app", bytesOf "lib.so"], .object fullObject)
      :: (smallSystem (some (bytesOf "1"))).files.entries⟩ }

/-- The world when the library has been loaded. -/
def fullWorld : World :=
  ((World.start fullSystem fullObject.handles []).logged (.libraryLoaded fullPath)).logged
    (.probeSymbol true)

theorem fullObject_interchangeable :
    fullSystem.loadObject fullPath = .ok fullObject
      ∧ Runtime.load fullPath (.start fullSystem [] []) = .ok (.library fullPath true) fullWorld
      ∧ ∃ v, Host.new (.recorder true) (.ofString "/app/.") (.ofString "main.js")
          (.start fullSystem fullObject.handles []) = .ok smallHost v
        ∧ smallHost.observations [.run 3, .move (.ofString "app"), .probe, .runOnce 1] v
          = Host.observations { smallHost with runtime := .library fullPath true }
            [.run 3, .move (.ofString "app"), .probe, .runOnce 1] fullWorld := by
  have hobject : fullSystem.loadObject fullPath = .ok fullObject := by cbv
  have hload : Runtime.load fullPath (.start fullSystem [] [])
      = .ok (.library fullPath true) fullWorld := by cbv
  have hnew : Host.new (.library fullPath true) (.ofString "/app/.") (.ofString "main.js") fullWorld
      = .ok { smallHost with runtime := .library fullPath true } fullWorld := by cbv
  refine ⟨hobject, hload, ?_⟩
  obtain ⟨_, _, hsame, hhosts⟩ :=
    Host.library_interchangeable hobject (fun x => by cases x <;> decide) [] []
  rw [hload] at hsame
  cases hsame
  obtain ⟨v, hrecorder, hseen⟩ := (hhosts _ _).1 _ _ hnew
  exact ⟨v, hrecorder, hseen _⟩

end ScriptHost
