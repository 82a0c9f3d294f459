import ScriptHost.Program
import ScriptHost.Proofs.CycleTrace

/-!
# What a command comes to

A command under a configuration goes through its phases in a fixed order, and the first
one that fails decides: for a run the base directory, the library below it, the host and
its cycles; for a probe the same two and the probe itself; and a configuration is
printed. `Performs` has one constructor for each way in which that can end, with the
calls that the runtime received.

The runtime of a command is always a library, and a library does not panic
(`failure_of_runFrom`), so every command ends by returning or in a failure.
-/

namespace ScriptHost

/-! ## Getting ready -/

/-- The runtime in a library, with the values that its `init` will return. -/
def System.openRuntime (s : System) (p : Path) : Except HostError (Runtime × List Int) :=
  match s.loadObject p with
  | .error reason => .error (.libraryLoad p reason)
  | .ok object =>
    match requiredSymbols.find? fun symbol => symbol ∉ object.exports with
    | some missing => .error (.missingSymbol missing.name)
    | none => .ok (.library p (.hello ∈ object.exports), object.handles)

/-- The base directory, and the runtime in the library below it. -/
def System.prepare (s : System) (c : HostConfig) : Except HostError (Path × Runtime × List Int) :=
  match s.baseDir c with
  | .error e => .error e
  | .ok base =>
    match s.openRuntime (c.runtime.libraryPath base) with
    | .error e => .error e
    | .ok (r, handles) => .ok (base, r, handles)

/-- Loading a library calls nothing, and from then on the runtime answers as the library does. -/
theorem Runtime.load_eq (p : Path) (w : World) :
    ∃ w' : World, w'.system = w.system ∧ w'.calls = w.calls
      ∧ match w.system.openRuntime p with
        | .error e => Runtime.load p w = .error (.failure e) w
        | .ok (r, handles) => Runtime.load p w = .ok r w' ∧ w'.supply = handles := by
  unfold System.openRuntime Runtime.load
  cases hload : w.system.loadObject p with
  | error reason =>
    refine ⟨w, rfl, rfl, ?_⟩
    simp only [bind, EStateM.bind, get, getThe, MonadStateOf.get, EStateM.get, hload]
    rfl
  | ok object =>
    dsimp only
    cases hfind : requiredSymbols.find? fun symbol => symbol ∉ object.exports with
    | some missing =>
      refine ⟨w, rfl, rfl, ?_⟩
      simp only [bind, EStateM.bind, get, getThe, MonadStateOf.get, EStateM.get, hload, hfind]
      rfl
    | none =>
      refine ⟨(({ w with supply := object.handles } : World).logged (.libraryLoaded p)).logged
        (.probeSymbol (.hello ∈ object.exports)), rfl, rfl, ?_⟩
      simp only [bind, EStateM.bind, get, getThe, MonadStateOf.get, EStateM.get, hload, hfind]
      exact ⟨rfl, rfl⟩

/-- A runtime that was loaded is a library. -/
theorem System.library_of_openRuntime {s : System} {p : Path} {r : Runtime} {handles : List Int}
    (h : s.openRuntime p = .ok (r, handles)) : ∃ probe, r = .library p probe := by
  unfold openRuntime at h
  split at h
  · cases h
  · split at h
    · cases h
    · cases h; exact ⟨_, rfl⟩

theorem Act.observe_eq {α : Type} (f : System → Except HostError α) (w : World) :
    Act.observe f w = match f w.system with
      | .ok a => .ok a w
      | .error e => .error (.failure e) w := by
  show (Act.ofExcept (f w.system) : Act α) w = _
  cases f w.system <;> rfl

/-- **A command that needs a runtime** gets one, or fails with what was missing. -/
theorem prepare_eq {α : Type} (c : HostConfig) (body : Path → Runtime → Act α) (w : World) :
    ∃ w' : World, w'.system = w.system ∧ w'.calls = w.calls
      ∧ match w.system.prepare c with
        | .error e => (Act.observe (fun s => s.baseDir c) >>= fun base =>
            Runtime.load (c.runtime.libraryPath base) >>= body base) w = .error (.failure e) w
        | .ok (base, r, handles) => w'.supply = handles
          ∧ (Act.observe (fun s => s.baseDir c) >>= fun base =>
            Runtime.load (c.runtime.libraryPath base) >>= body base) w = body base r w' := by
  have hobserve := Act.observe_eq (fun s => s.baseDir c) w
  unfold System.prepare
  cases hbase : w.system.baseDir c with
  | error e =>
    rw [hbase] at hobserve
    exact ⟨w, rfl, rfl, Act.bind_of_error hobserve⟩
  | ok base =>
    rw [hbase] at hobserve
    rw [Act.bind_of_ok hobserve]
    obtain ⟨w', hsystem, hcalls, hload⟩ := Runtime.load_eq (c.runtime.libraryPath base) w
    refine ⟨w', hsystem, hcalls, ?_⟩
    dsimp only
    cases hopen : w.system.openRuntime (c.runtime.libraryPath base) with
    | error e =>
      rw [hopen] at hload
      exact Act.bind_of_error hload
    | ok found =>
      obtain ⟨r, handles⟩ := found
      rw [hopen] at hload
      exact ⟨hload.2, Act.bind_of_ok hload.1⟩

theorem System.library_of_prepare {s : System} {c : HostConfig} {base : Path} {r : Runtime}
    {handles : List Int} (h : s.prepare c = .ok (base, r, handles)) :
    ∃ probe, r = .library (c.runtime.libraryPath base) probe := by
  unfold prepare at h
  split at h
  · cases h
  · split at h
    · cases h
    next hopen => cases h; exact library_of_openRuntime hopen

/-! ## A library does not panic -/

namespace Host

variable {h : Host} {p : Path} {probe : Bool}

/-- A cycle of a library that does not return has failed. -/
theorem failure_of_runOnce (hlib : h.runtime = .library p probe) {n : Nat} {w w' : World}
    {stop : Stop} (hone : h.runOnce n w = .error stop w') : ∃ e, stop = .failure e := by
  have hquiet : ∀ c w, h.runtime.panic? c w = none := fun c w => by rw [hlib]; rfl
  have hcycle := h.runOnce_cases n w
  rw [hone] at hcycle
  -- a session has the runtime of its host
  have hsession : ∀ {s : Session} {w₁ : World},
      Session.Starts h.runtime h.baseDir (w.atCycle (some n)) (.ok s w₁) →
      ∀ c w, s.runtime.panic? c w = none := by
    intro s w₁ hstart c w
    rw [(Session.frame_of_starts hstart).1]
    exact hquiet c w
  cases hcycle with
  | notStarted hstart =>
    cases hstart with
    | notText _ => exact ⟨_, rfl⟩
    | nul _ => exact ⟨_, rfl⟩
    | refused _ => exact ⟨_, rfl⟩
    | panicked hp => rw [hquiet] at hp; cases hp
  | refused _ _ => exact ⟨_, rfl⟩
  | refusedPanic hstart _ hp => rw [hsession hstart] at hp; cases hp
  | scriptPanic hstart _ hp => rw [hsession hstart] at hp; cases hp
  | abort hstart _ hp => rw [hsession hstart] at hp; cases hp
  | releasePanic hstart _ hp => rw [hsession hstart] at hp; cases hp

/-- **A run of a library returns or fails,** by induction on the cycles that are left. -/
theorem failure_of_runFrom (hlib : h.runtime = .library p probe) {count first : Nat}
    {w w' : World} {stop : Stop} (hrun : h.runFrom first count w = .error stop w') :
    ∃ e, stop = .failure e := by
  induction count generalizing first w with
  | zero => cases hrun
  | succ count ih =>
    unfold runFrom at hrun
    cases hone : h.runOnce first w with
    | error stop₁ w₁ =>
      rw [Act.bind_of_error hone] at hrun
      cases hrun
      exact failure_of_runOnce hlib hone
    | ok report w₁ =>
      rw [Act.bind_of_ok hone] at hrun
      cases hmany : h.runFrom (first + 1) count w₁ with
      | error stop₂ w₂ =>
        rw [Act.bind_of_error hmany] at hrun
        cases hrun
        exact ih hmany
      | ok reports w₂ =>
        rw [Act.bind_of_ok hmany] at hrun
        cases hrun

/-- The calls of a cycle that failed are fewer than those of a whole one. -/
theorem length_of_fails {value : Int} {e : HostError} {last : List Call}
    (hfails : h.Fails value e last) : last.length < 3 := by
  cases hfails <;> simp

end Host

/-! ## The ways in which a command ends -/

/-- What a command comes to under a configuration: what it writes to the output stream or how it
fails, and the calls that the runtime received. -/
inductive Performs (s : System) (c : HostConfig) :
    Command → Except HostError String → List Call → Prop where
  /-- The base directory or the library is missing. -/
  | unprepared {command : Command} {e : HostError} : command ≠ .config → s.prepare c = .error e →
      Performs s c command (.error e) []
  /-- The host finds no directory where the base directory was. -/
  | notHosted {entry : Option Path} {cycles : Option UInt32} {base : Path} {r : Runtime}
      {handles : List Int} {e : HostError} : s.prepare c = .ok (base, r, handles) →
      s.resolveBaseDir base = .error e → Performs s c (.run entry cycles) (.error e) []
  /-- A cycle fails behind some whole ones. -/
  | cut {entry : Option Path} {cycles : Option UInt32} {base dir : Path} {r : Runtime}
      {handles : List Int} {laps : List Lap} {last : List Call} {e : HostError} :
      s.prepare c = .ok (base, r, handles) → s.resolveBaseDir base = .ok dir →
      laps.length < c.runtime.cycles.toNat → laps.map (·.handle) <+: handles →
      (∀ lap ∈ laps, 0 < lap.handle) →
      Host.Fails ⟨r, dir, c.runtime.entryScript⟩ (handles.getD laps.length 0) e last →
      Performs s c (.run entry cycles) (.error e) (Host.lapCalls dir.bytes laps ++ last)
  /-- All cycles go through. -/
  | ran {entry : Option Path} {cycles : Option UInt32} {base dir : Path} {r : Runtime}
      {handles : List Int} {laps : List Lap} : s.prepare c = .ok (base, r, handles) →
      s.resolveBaseDir base = .ok dir → laps.length = c.runtime.cycles.toNat →
      laps.map (·.handle) <+: handles → (∀ lap ∈ laps, 0 < lap.handle) →
      Performs s c (.run entry cycles) (.ok "") (Host.lapCalls dir.bytes laps)
  /-- The library has no probe. -/
  | mute {base p : Path} {handles : List Int} :
      s.prepare c = .ok (base, .library p false, handles) →
      Performs s c .probe (.error (.missingSymbol Symbol.hello.name)) []
  /-- The probe answers. -/
  | answered {base p : Path} {handles : List Int} :
      s.prepare c = .ok (base, .library p true, handles) →
      Performs s c .probe (.ok ((c.runtime.libraryPath base).display ++ ": ok\n")) [.hello]
  /-- The configuration cannot be printed. -/
  | unprintable {e : HostError} : c.toToml = .error e → Performs s c .config (.error e) []
  | printed {t : String} : c.toToml = .ok t → Performs s c .config (.ok (t ++ "\n")) []

/-- How a command ended, as `Performs` tells it. -/
def Performed (s : System) (c : HostConfig) (command : Command) :
    EStateM.Result Stop World String → Prop
  | .ok out w => Performs s c command (.ok out) w.calls
  | .error (.failure e) w => Performs s c command (.error e) w.calls
  | .error _ _ => False

theorem runWith_eq (r : Runtime) (base : Path) (c : HostConfig) (w : World) :
    runWith r base c w = match w.system.resolveBaseDir base with
      | .error e => .error (.failure e) w
      | .ok dir =>
        let h : Host := ⟨r, dir, c.runtime.entryScript⟩
        h.run c.runtime.cycles.toNat
          (w.logged (.hosting h.entryPath dir c.runtime.cycles.toNat)) := by
  have hnew := Host.new_eq r base c.runtime.entryScript w
  unfold runWith
  cases hdir : w.system.resolveBaseDir base with
  | error e =>
    rw [hdir] at hnew
    exact Act.bind_of_error hnew
  | ok dir =>
    rw [hdir] at hnew
    rw [Act.bind_of_ok hnew]
    rfl

variable {c : HostConfig} {w : World}

/-- What the run command comes to when it has a runtime. -/
theorem performed_runWith {s : System} {entry : Option Path} {cycles : Option UInt32} {base : Path}
    {r : Runtime} {handles : List Int} (hprepare : s.prepare c = .ok (base, r, handles))
    (hsystem : w.system = s) (hcalls : w.calls = []) (hsupply : w.supply = handles) :
    Performed s c (.run entry cycles)
      ((runWith r base c >>= fun reports => do
        Act.log (.completed reports.length)
        pure "") w) := by
  subst hsystem hsupply
  have hrun := runWith_eq r base c w
  cases hdir : w.system.resolveBaseDir base with
  | error e =>
    rw [hdir] at hrun
    rw [Act.bind_of_error hrun, Performed, hcalls]
    exact .notHosted hprepare hdir
  | ok dir =>
    rw [hdir] at hrun
    dsimp only at hrun
    have hnew := Host.new_eq r base c.runtime.entryScript w
    rw [hdir] at hnew
    have hlaw := Host.runFrom_traceLaw (Host.nul_notMem_baseDir hnew) c.runtime.cycles.toNat 1
      (w.logged (.hosting (Host.entryPath ⟨r, dir, c.runtime.entryScript⟩) dir
        c.runtime.cycles.toNat))
    rw [Host.run] at hrun
    revert hrun
    cases hend : Host.runFrom ⟨r, dir, c.runtime.entryScript⟩ 1 c.runtime.cycles.toNat
      (w.logged (.hosting (Host.entryPath ⟨r, dir, c.runtime.entryScript⟩) dir
        c.runtime.cycles.toNat)) with
    | ok reports w' =>
      intro hrun
      rw [hend] at hlaw
      obtain ⟨laps, hlen, hadvances, _⟩ := hlaw
      rw [Act.bind_of_ok hrun]
      show Performs w.system c _ (.ok "") w'.calls
      rw [hadvances.calls, World.logged_calls, hcalls, List.nil_append]
      exact .ran hprepare hdir hlen ⟨_, hadvances.supply.symm⟩ hadvances.pos
    | error stop w' =>
      intro hrun
      rw [hend] at hlaw
      obtain ⟨probe, hlib⟩ := System.library_of_prepare hprepare
      obtain ⟨e, rfl⟩ := Host.failure_of_runFrom hlib hend
      obtain ⟨laps, w₁, last, hlen, _, hadvances, hlast, hcut⟩ := hlaw
      obtain ⟨hfails⟩ := hcut
      rw [← hadvances.getD_supply, World.logged_supply] at hfails
      rw [Act.bind_of_error hrun, Performed, hlast, hadvances.calls, World.logged_calls, hcalls,
        List.nil_append]
      exact .cut hprepare hdir hlen ⟨_, hadvances.supply.symm⟩ hadvances.pos hfails

/-- What the probe comes to when it has a runtime. -/
theorem performed_hello {s : System} {base : Path} {r : Runtime} {handles : List Int}
    (hprepare : s.prepare c = .ok (base, r, handles)) (hcalls : w.calls = []) :
    Performed s c .probe
      ((r.hello >>= fun _ => pure ((c.runtime.libraryPath base).display ++ ": ok\n")) w) := by
  obtain ⟨probe, rfl⟩ := System.library_of_prepare hprepare
  cases probe with
  | false =>
    have hello : Runtime.hello (.library (c.runtime.libraryPath base) false) w
        = .error (.failure (.missingSymbol Symbol.hello.name)) w := rfl
    rw [Act.bind_of_error hello, Performed, hcalls]
    exact .mute hprepare
  | true =>
    have hello : Runtime.hello (.library (c.runtime.libraryPath base) true) w
        = .ok () (w.recorded .hello) := rfl
    rw [Act.bind_of_ok hello]
    show Performs s c .probe _ (w.calls ++ [.hello])
    rw [hcalls]
    exact .answered hprepare

/-- A command that needs a runtime ends as it does with one, if there is one. -/
theorem performed_of_prepared (command : Command) (hcommand : command ≠ .config)
    (hcalls : w.calls = []) {body : Path → Runtime → Act String}
    (hbody : ∀ base r handles w', w.system.prepare c = .ok (base, r, handles) →
      w'.system = w.system → w'.calls = [] → w'.supply = handles →
      Performed w.system c command (body base r w')) :
    Performed w.system c command
      ((Act.observe (fun s => s.baseDir c) >>= fun base =>
        Runtime.load (c.runtime.libraryPath base) >>= body base) w) := by
  obtain ⟨w', hsystem, hcalls', hprepare⟩ := prepare_eq c body w
  cases hp : w.system.prepare c with
  | error e =>
    rw [hp] at hprepare
    dsimp only at hprepare
    rw [hprepare, Performed, hcalls]
    exact .unprepared hcommand hp
  | ok found =>
    obtain ⟨base, r, handles⟩ := found
    rw [hp] at hprepare
    dsimp only at hprepare
    rw [hprepare.2]
    exact hbody base r handles w' hp hsystem (hcalls'.trans hcalls) hprepare.1

/-- **Every command ends in one of these ways.** -/
theorem performed_perform (cl : CommandLine) (hcalls : w.calls = []) :
    Performed w.system c cl.effective (Program.perform cl c w) := by
  unfold Program.perform
  cases cl.effective with
  | run entry cycles =>
    dsimp only
    rw [executeRun, bind_assoc]
    simp only [bind_assoc]
    refine performed_of_prepared _ (by exact nofun) hcalls ?_
    intro base r handles w' hp hsystem hcalls hsupply
    exact performed_runWith hp hsystem hcalls hsupply
  | probe =>
    refine performed_of_prepared .probe (by exact nofun) hcalls ?_
    intro base r handles w' hp _ hcalls _
    exact performed_hello hp hcalls
  | config =>
    dsimp only
    rw [showConfig]
    cases htoml : c.toToml with
    | error e =>
      show Performs w.system c .config (.error e) w.calls
      rw [hcalls]
      exact .unprintable htoml
    | ok t =>
      show Performs w.system c .config (.ok (t ++ "\n")) w.calls
      rw [hcalls]
      exact .printed htoml

end ScriptHost
