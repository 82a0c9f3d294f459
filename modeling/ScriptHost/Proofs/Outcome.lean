import ScriptHost.Proofs.Phases
import ScriptHost.Proofs.TextPaths
import ScriptHost.Proofs.Validity

/-!
# The outcome of the program

What a user sees of a run of the program is decided by the first phase that fails, and
the configuration is the first of all (`Ends`). Its failure is the exit status and the
last line of the error stream, and the calls are those that were made up to it.

The only other way out is a panic, and there are three reasons for one (`Panics`): a
variable or a log filter is cut inside a character while it is read, or the report of an
entry script has to quote one that is not text. All of them come before the command, so
that no runtime is ever called in a run of the program that panics. Such an entry script
can only come from the command line, since the layers below it are text
(`textPaths_of_extract`).
-/

namespace ScriptHost

open Settings

/-! ## What keeps the program from a command -/

/-- The reasons for a panic, with what it says. -/
inductive Panics (s : System) (cl : CommandLine) : String → Prop where
  /-- A variable is cut inside a character. -/
  | unreadable {fault : Text.CutFault} : ofVariables s.env = .error fault →
      Panics s cl fault.message
  /-- An entry script that breaks a rule has to be quoted and is not text. -/
  | unquotable {c : HostConfig} : loadConfig s (some (s.configPath cl)) = .ok c →
      (cl.override c).runtime.entryScript.entryFault?.isSome →
      (cl.override c).runtime.entryScript.text? = none → Panics s cl HostConfig.unquotablePanic
  /-- A log filter is cut inside a character. -/
  | divided {c : HostConfig} {fault : Text.CutFault} : s.configured cl = .ok c →
      LogFilter.build s c.logging.level = .error fault → Panics s cl fault.message

/-- What is loaded and not accepted has failed, unless the variables cannot be read. -/
theorem Settings.loadConfig_eq_error {s : System} {file : Option Path} {stop : Stop}
    (h : loadConfig s file = .error stop) :
    (∃ e, stop = .failure e) ∨ ∃ fault, stop = .panic fault.message
      ∧ ofVariables s.env = .error fault := by
  unfold loadConfig at h
  split at h
  next stop' hlayered =>
    cases h
    unfold layered at hlayered
    split at hlayered
    next fault hvars => cases hlayered; exact .inr ⟨fault, rfl, hvars⟩
    next =>
      split at hlayered
      · cases hlayered
      · split at hlayered
        · cases hlayered; exact .inl ⟨_, rfl⟩
        · cases hlayered
  next =>
    split at h
    next => cases h; exact .inl ⟨_, rfl⟩
    next c hextract =>
      rcases HostConfig.validate_eq_error (map_eq_error_iff.mp h) with hfailed | ⟨_, _, hnone⟩
      · exact .inl hfailed
      · have htext := (textPaths_of_extract hextract).entryScript
        rw [hnone] at htext
        cases htext

/-- **A configuration that is not there has failed,** or there is a reason for a panic. -/
theorem configured_eq_error {s : System} {cl : CommandLine} {stop : Stop}
    (h : s.configured cl = .error stop) :
    (∃ e, stop = .failure e) ∨ ∃ text, stop = .panic text ∧ Panics s cl text := by
  unfold System.configured at h
  split at h
  next stop' hload =>
    cases h
    rcases Settings.loadConfig_eq_error hload with hfailed | ⟨fault, rfl, hvars⟩
    · exact .inl hfailed
    · exact .inr ⟨_, rfl, .unreadable hvars⟩
  next c hload =>
    rcases HostConfig.validate_eq_error (map_eq_error_iff.mp h) with
      hfailed | ⟨rfl, hfault, hnone⟩
    · exact .inl hfailed
    · exact .inr ⟨_, rfl, .unquotable hload hfault hnone⟩

/-! ## The outcome -/

/-- The outcomes of a command line. -/
inductive Ends (s : System) (cl : CommandLine) : Outcome → Prop where
  | panicked {text : String} : Panics s cl text →
      Ends s cl { exitStatus := Program.panicStatus, stderr := [text] }
  /-- There is no configuration. -/
  | unconfigured {e : HostError} : s.configured cl = .error (.failure e) →
      Ends s cl { exitStatus := e.exitStatus, stderr := [e.diagnostic] }
  /-- The command fails. -/
  | failed {c : HostConfig} {e : HostError} {calls : List Call} {lines : List String} :
      s.configured cl = .ok c → Performs s c cl.effective (.error e) calls →
      Ends s cl { exitStatus := e.exitStatus, stderr := lines ++ [e.diagnostic], calls }
  | performed {c : HostConfig} {out : String} {calls : List Call} {lines : List String} :
      s.configured cl = .ok c → Performs s c cl.effective (.ok out) calls →
      Ends s cl { exitStatus := 0, stdout := out, stderr := lines, calls }

namespace Program

variable {s : System} {cl : CommandLine}

theorem runCommand_eq (s : System) (cl : CommandLine) :
    runCommand s cl = match s.configured cl with
      | .error stop => stopped stop
      | .ok c => match LogFilter.build s c.logging.level with
        | .error fault => stopped (.panic fault.message)
        | .ok filter => runFiltered s cl c filter := by
  have hended := ended_configure cl (World.start s [] [])
  unfold runCommand
  cases hconfigure : configure cl (World.start s [] []) with
  | error stop w =>
    rw [hconfigure] at hended
    have hc : s.configured cl = .error stop := (congrArg Prod.fst hended).symm
    simp only [hc]
  | ok c w =>
    rw [hconfigure] at hended
    have hc : s.configured cl = .ok c := (congrArg Prod.fst hended).symm
    cases hfilter : LogFilter.build s c.logging.level <;> simp only [hc, hfilter]

/-- **Every command line has one of these outcomes.** -/
theorem ends_runCommand (s : System) (cl : CommandLine) : Ends s cl (runCommand s cl) := by
  rw [runCommand_eq]
  cases hc : s.configured cl with
  | error stop =>
    rcases configured_eq_error hc with ⟨e, rfl⟩ | ⟨text, rfl, hpanics⟩
    · exact .unconfigured hc
    · exact .panicked hpanics
  | ok c =>
    dsimp only
    cases hfilter : LogFilter.build s c.logging.level with
    | error fault => exact .panicked (.divided hc hfilter)
    | ok filter =>
      have hperformed := performed_perform (c := c) (w := World.start s [] []) cl rfl
      dsimp only
      unfold runFiltered
      revert hperformed
      cases perform cl c (World.start s [] []) with
      | ok out w => exact fun hperformed => .performed hc hperformed
      | error stop w =>
        cases stop with
        | failure e => exact fun hperformed => .failed hc hperformed
        | panic text => exact False.elim
        | abort => exact False.elim

/-- A reason for a panic brings one about. -/
theorem runCommand_of_panics {text : String} (h : Panics s cl text) :
    runCommand s cl = { exitStatus := panicStatus, stderr := [text] } := by
  rw [runCommand_eq]
  cases h with
  | unreadable hvars => rw [System.configured_of_unreadable hvars]; rfl
  | @unquotable c hload hfault hnone =>
    have hvalid : (cl.override c).validate = .error (.panic HostConfig.unquotablePanic) :=
      if_pos ⟨hfault, hnone⟩
    rw [System.configured, hload]
    dsimp only
    rw [hvalid]
    rfl
  | divided hc hfilter =>
    rw [hc]
    dsimp only
    rw [hfilter]
    rfl

/-! ## Calls and exit status -/

theorem exitStatus_mem (e : HostError) : e.exitStatus ∈ [66, 69, 70, 78] := by
  unfold HostError.exitStatus
  cases e.stage <;> decide

theorem exitStatus_ne_zero (e : HostError) : e.exitStatus ≠ 0 :=
  ne_of_mem_of_not_mem (exitStatus_mem e) (by decide)

theorem length_lapCalls (base : Bytes) (laps : List Lap) :
    (Host.lapCalls base laps).length = 3 * laps.length := by
  induction laps with
  | nil => rfl
  | cons lap laps ih =>
    rw [Host.lapCalls, List.flatMap_cons, List.length_append]
    rw [Host.lapCalls] at ih
    rw [ih]
    simp [Lap.calls]
    omega

variable {c : HostConfig} {entry : Option Path} {cycles : Option UInt32} {calls : List Call}

/-- A run that fails has made fewer calls than whole cycles would have. -/
theorem length_of_performs_error {e : HostError} (hpos : 0 < c.runtime.cycles.toNat)
    (h : Performs s c (.run entry cycles) (.error e) calls) :
    calls.length < 3 * c.runtime.cycles.toNat := by
  cases h with
  | unprepared _ _ => simpa using hpos
  | notHosted _ _ => simpa using hpos
  | cut _ _ hlen _ _ hfails =>
    have hlast := Host.length_of_fails hfails
    rw [List.length_append, length_lapCalls]
    omega

/-- The calls of a run are those of whole cycles, as many as it was asked for. -/
def WholeCycles (c : HostConfig) (calls : List Call) : Prop :=
  ∃ (base : Bytes) (laps : List Lap),
    laps.length = c.runtime.cycles.toNat ∧ calls = Host.lapCalls base laps

theorem length_of_wholeCycles (h : WholeCycles c calls) :
    calls.length = 3 * c.runtime.cycles.toNat := by
  obtain ⟨base, laps, hlen, rfl⟩ := h
  rw [length_lapCalls, hlen]

/-- **The outcome tells whether the cycles went through:** a run succeeds exactly if its calls are
those of whole cycles. -/
theorem exitStatus_eq_zero_iff_of_run {o : Outcome} (h : Ends s cl o)
    (hrun : cl.effective = .run entry cycles) (hc : s.configured cl = .ok c) :
    o.exitStatus = 0 ↔ WholeCycles c o.calls := by
  obtain ⟨_, _, _, hvalid⟩ := System.configured_eq_ok_iff.mp hc
  have hpos := HostConfig.cycles_pos_of_validate hvalid
  -- an outcome of a failure has fewer calls
  have hless : ∀ status, status ≠ 0 → ∀ calls : List Call,
      calls.length < 3 * c.runtime.cycles.toNat → (status = 0 ↔ WholeCycles c calls) :=
    fun status hstatus calls hlen => ⟨fun h => absurd h hstatus, fun hwhole => by
      rw [length_of_wholeCycles hwhole] at hlen
      exact absurd hlen (Nat.lt_irrefl _)⟩
  cases h with
  | panicked _ => exact hless Program.panicStatus (by decide) [] (by simpa using hpos)
  | unconfigured hnone => rw [hc] at hnone; cases hnone
  | failed hc' hperforms =>
    rw [hc] at hc'
    cases hc'
    rw [hrun] at hperforms
    exact hless _ (exitStatus_ne_zero _) _ (length_of_performs_error hpos hperforms)
  | performed hc' hperforms =>
    rw [hc] at hc'
    cases hc'
    rw [hrun] at hperforms
    cases hperforms with
    | ran _ _ hlen _ _ => exact ⟨fun _ => ⟨_, _, hlen, rfl⟩, fun _ => rfl⟩

/-- A probe succeeds exactly if the probe was called. -/
theorem exitStatus_eq_zero_iff_of_probe {o : Outcome} (h : Ends s cl o)
    (hprobe : cl.effective = .probe) :
    (o.exitStatus = 0 ↔ o.calls = [.hello]) ∧ (o.calls = [] ∨ o.calls = [.hello]) := by
  cases h with
  | panicked _ => exact ⟨⟨nofun, nofun⟩, .inl rfl⟩
  | unconfigured _ => exact ⟨⟨fun h => absurd h (exitStatus_ne_zero _), nofun⟩, .inl rfl⟩
  | @failed _ e _ _ _ hperforms =>
    have hstatus := exitStatus_ne_zero e
    rw [hprobe] at hperforms
    cases hperforms <;> exact ⟨⟨fun h => absurd h hstatus, nofun⟩, .inl rfl⟩
  | performed _ hperforms =>
    rw [hprobe] at hperforms
    cases hperforms
    exact ⟨⟨fun _ => rfl, fun _ => rfl⟩, .inr rfl⟩

/-- To print a configuration calls nothing. -/
theorem calls_of_config {o : Outcome} (h : Ends s cl o) (hconfig : cl.effective = .config) :
    o.calls = [] := by
  cases h with
  | panicked _ => rfl
  | unconfigured _ => rfl
  | failed _ hperforms =>
    rw [hconfig] at hperforms
    cases hperforms with
    | unprepared hne _ => exact absurd rfl hne
    | unprintable _ => rfl
  | performed _ hperforms =>
    rw [hconfig] at hperforms
    cases hperforms
    rfl

/-- **The outcome of the program.** A refused command line calls nothing. Any other ends in one of
the ways that `Ends` lists, so that the first phase that fails is the exit status and the last line
of the error stream; if there is no reason for a panic, the status is one of those of the stages,
and if there is one, nothing is called. -/
theorem run_ends (s : System) (args : List Bytes) :
    match CommandLine.parse (s.var? configVariable) args with
    | .error refusal =>
      run s args = if refusal.isAnswer then { exitStatus := 0, stdout := refusal.message }
        else { exitStatus := 2, stderr := [refusal.message] }
    | .ok cl => Ends s cl (run s args)
      ∧ ((∀ text, ¬ Panics s cl text) → (run s args).exitStatus ∈ [0, 66, 69, 70, 78])
      ∧ (∀ text, Panics s cl text → run s args = { exitStatus := 101, stderr := [text] })
      ∧ (∀ entry cycles c, cl.effective = .run entry cycles → s.configured cl = .ok c →
        ((run s args).exitStatus = 0 ↔ WholeCycles c (run s args).calls))
      ∧ (cl.effective = .probe → ((run s args).exitStatus = 0 ↔ (run s args).calls = [.hello])
        ∧ ((run s args).calls = [] ∨ (run s args).calls = [.hello]))
      ∧ (cl.effective = .config → (run s args).calls = []) := by
  unfold run
  cases CommandLine.parse (s.var? configVariable) args with
  | error refusal =>
    dsimp only
    rw [Refusal.exitStatus]
    split <;> rfl
  | ok cl =>
    have hends := ends_runCommand s cl
    refine ⟨hends, fun hcalm => ?_, fun text hpanics => runCommand_of_panics hpanics,
      fun entry cycles c hrun hc => exitStatus_eq_zero_iff_of_run hends hrun hc,
      exitStatus_eq_zero_iff_of_probe hends, calls_of_config hends⟩
    dsimp only
    revert hends
    generalize runCommand s cl = o
    intro hends
    cases hends with
    | panicked hpanics => exact absurd hpanics (hcalm _)
    | unconfigured _ => exact List.mem_cons_of_mem _ (exitStatus_mem _)
    | failed _ _ => exact List.mem_cons_of_mem _ (exitStatus_mem _)
    | performed _ _ => exact List.mem_cons_self

end Program

/-! ### Some runs -/

theorem loadConfig_nothing (cl : CommandLine) (hcl : cl.options.config = some "host.toml") :
    loadConfig (systemWith "" []) (some ((systemWith "" []).configPath cl)) = .ok {} := by
  rw [(layers_nothing cl hcl).loadConfig_eq]
  decide +kernel

/-- The absolute path of a name that is no text. -/
def unspeakablePath : Path := ⟨[0x2F, 0xFF]⟩

/-- A report that has to quote what is not text takes the place of the failure. -/
theorem unspeakable_panics :
    Program.run (systemWith "" [])
        [bytesOf "-c", bytesOf "host.toml", bytesOf "run", bytesOf "-e", unspeakablePath.bytes]
      = { exitStatus := 101, stderr := [HostConfig.unquotablePanic] } := by
  have hparse : CommandLine.parse none
      [bytesOf "-c", bytesOf "host.toml", bytesOf "run", bytesOf "-e", unspeakablePath.bytes]
      = .ok { command := some (.run (some unspeakablePath) none)
              options := { config := some "host.toml" } } := by
    decide +kernel
  have hvar : (systemWith "" []).var? configVariable = none := rfl
  rw [Program.run, hvar, hparse]
  exact Program.runCommand_of_panics
    (.unquotable (loadConfig_nothing _ rfl) (by decide +kernel) (by decide +kernel))

def printArguments : List Bytes := [bytesOf "-c", bytesOf "host.toml", bytesOf "config"]

/-- The configuration of nothing is printed, and nothing is called. -/
theorem printed_nothing :
    CommandLine.parse ((systemWith "" []).var? configVariable) printArguments
        = .ok { command := some .config, options := { config := some "host.toml" } }
      ∧ (Program.run (systemWith "" []) printArguments).calls = []
      ∧ (Program.run (systemWith "" []) printArguments).exitStatus ∈ [0, 66, 69, 70, 78] := by
  have hparse : CommandLine.parse ((systemWith "" []).var? configVariable) printArguments
      = .ok { command := some .config, options := { config := some "host.toml" } } := by
    rw [show (systemWith "" []).var? configVariable = none from rfl]
    decide +kernel
  have hends := Program.run_ends (systemWith "" []) printArguments
  rw [hparse] at hends
  obtain ⟨_, hstatus, _, _, _, hcalls⟩ := hends
  refine ⟨hparse, hcalls rfl, hstatus fun text hpanics => ?_⟩
  cases hpanics with
  | unreadable hvars =>
    rw [(layers_nothing { options := { config := some "host.toml" } } rfl).overlay_eq] at hvars
    cases hvars
  | unquotable hload _ hnone =>
    rw [loadConfig_nothing _ rfl] at hload
    cases hload
    exact absurd hnone (by decide +kernel)
  | divided hc hfilter =>
    have hconfigured : (systemWith "" []).configured
        { command := some .config, options := { config := some "host.toml" } } = .ok {} := by
      rw [System.configured, loadConfig_nothing _ rfl]
      decide +kernel
    rw [hconfigured] at hc
    cases hc
    have hbuild : (LogFilter.build (systemWith "" []) "info").isOk := by decide +kernel
    have heq := hfilter ▸ hbuild
    cases heq

end ScriptHost
