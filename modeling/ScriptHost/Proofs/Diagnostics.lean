import Mathlib
import ScriptHost.Proofs.ConfigReports
import ScriptHost.Proofs.FailureLog

/-!
# Diagnostics

A diagnostic is meant to be a single line, and the program is meant to end with one when it
fails. It does end with one, and what it takes to divide the line is known for every
operation (`diagnostic_lines`): for most a path with a line break, for a configuration reasons
of its own.
-/

namespace ScriptHost

open Settings

/-- A failure that an operation has returned, in some world. Loading a configuration is not among
the operations. -/
inductive Returned : HostError → Prop where
  | validate {c : HostConfig} {e : HostError} : c.validate = .error (.failure e) → Returned e
  | toToml {c : HostConfig} {e : HostError} : c.toToml = .error e → Returned e
  | baseDir {s : System} {c : HostConfig} {e : HostError} : s.baseDir c = .error e → Returned e
  | load {p : Path} {w w' : World} {e : HostError} :
      Runtime.load p w = .error (.failure e) w' → Returned e
  | new {r : Runtime} {base entry : Path} {w w' : World} {e : HostError} :
      Host.new r base entry w = .error (.failure e) w' → Returned e
  | run {h : Host} {count : Nat} {w w' : World} {e : HostError} :
      h.run count w = .error (.failure e) w' → Returned e
  | probe {h : Host} {w w' : World} {e : HostError} :
      h.probe w = .error (.failure e) w' → Returned e
  | perform {cl : CommandLine} {c : HostConfig} {w w' : World} {e : HostError} :
      Program.perform cl c w = .error (.failure e) w' → Returned e

theorem Returned.plain {e : HostError} (h : Returned e) : e.Plain := by
  cases h with
  | validate h => exact HostConfig.plain_of_validate h
  | toToml h => exact HostConfig.plain_of_toToml h
  | baseDir h => exact plain_of_baseDir h
  | load h => exact Runtime.plain_load _ _ _ _ h
  | new h => exact Host.plain_new _ _ _ _ _ _ h
  | run h => exact Host.plain_runFrom _ _ _ _ _ _ h
  | probe h => exact Host.plain_probe _ _ _ _ h
  | perform h => exact Program.plain_perform _ _ _ _ _ h

/-- A command that fails reports so at the very end. -/
theorem Program.diagnostic_last {s : System} {cl : CommandLine}
    (h : (runCommand s cl).exitStatus ∉ [0, panicStatus]) :
    ∃ e lines, (runCommand s cl).stderr = lines ++ [e.diagnostic]
      ∧ (runCommand s cl).exitStatus = e.exitStatus
      ∧ (Returned e ∨ s.configured cl = .error (.failure e)) := by
  obtain ⟨e, hc | ⟨c, w, hc, hperform⟩⟩ := failure_of_exitStatus h
  · refine ⟨e, [], ?_, ?_, .inr hc⟩ <;> rw [runCommand_eq, hc] <;> rfl
  · rw [runCommand_eq, hc] at h ⊢
    dsimp only at h ⊢
    cases hfilter : LogFilter.build s c.logging.level with
    | error fault =>
      rw [hfilter] at h
      exact absurd (List.mem_cons_of_mem _ List.mem_cons_self) h
    | ok filter =>
      dsimp only
      unfold runFiltered
      rw [hperform]
      exact ⟨e, _, rfl, rfl, .inl (.perform hperform)⟩

/-- **Diagnostics.** What any operation returns, in whatever world, is reported on one line unless
it names a path with a line break. For a configuration that cannot be loaded the reasons are others:
a file without settings, the name of a format, and the path of the file. A program that neither
succeeds nor panics ends its error stream with such a report. -/
theorem diagnostic_lines (s : System) (file : Option Path) (cl : CommandLine) (e : HostError) :
    (Returned e → (Breaks e.diagnostic ↔ ∃ p, e.path? = some p ∧ p.HasBreak))
      ∧ (loadConfig s file = .error (.failure e) → (Breaks e.diagnostic ↔ Divides s file))
      ∧ (s.configured cl = .error (.failure e) →
        (Breaks e.diagnostic ↔ Divides s (some (s.configPath cl))))
      ∧ ((Program.runCommand s cl).exitStatus ∉ [0, Program.panicStatus] →
        ∃ e' lines, (Program.runCommand s cl).stderr = lines ++ [e'.diagnostic]
          ∧ (Program.runCommand s cl).exitStatus = e'.exitStatus
          ∧ (Returned e' ∨ s.configured cl = .error (.failure e'))) :=
  ⟨fun h => h.plain.breaks_diagnostic_iff, breaks_of_loadConfig, breaks_of_configured,
    Program.diagnostic_last⟩

/-! ## Some reports -/

def dividedConfig : HostConfig := { runtime := { baseDir := some (.ofString "a\nb") } }

def dividedFailure : HostError :=
  .baseDirectory (.ofString "a\nb") "No such file or directory (os error 2)"

theorem dividedConfig_fails : (systemWith "" []).baseDir dividedConfig = .error dividedFailure := by
  cbv

/-- A configuration file that is no text. -/
def garbled : System := { systemAround [0xFF] with env := [] }

def garbledFailure : HostError :=
  .config "stream did not contain valid UTF-8\n in ../host.toml TOML file"

theorem garbled_fails :
    loadConfig garbled (some (.ofString "host.toml")) = .error (.failure garbledFailure) := by
  have hvars : ofVariables garbled.env = .ok [] := rfl
  rw [loadConfig, layered, hvars]
  dsimp only
  rw [garbled, fileLayer_systemAround]
  decide +kernel

def garbledCommand : CommandLine := { options := { config := some "host.toml" } }

theorem configPath_garbled : garbled.configPath garbledCommand = .ofString "host.toml" := by rfl

theorem garbled_unconfigured :
    garbled.configured garbledCommand = .error (.failure garbledFailure) := by
  rw [System.configured, configPath_garbled, garbled_fails]

/-- A base directory that is not there is reported on one line, and on two if its path has two; a
file that is no text is always reported on two. -/
theorem divided_reports :
    (Returned strayFailure ∧ ¬ Breaks strayFailure.diagnostic)
      ∧ (Returned dividedFailure ∧ Breaks dividedFailure.diagnostic)
      ∧ (loadConfig garbled (some (.ofString "host.toml")) = .error (.failure garbledFailure)
        ∧ Divides garbled (some (.ofString "host.toml")))
      ∧ (garbled.configured garbledCommand = .error (.failure garbledFailure)
        ∧ Divides garbled (some (garbled.configPath garbledCommand)))
      ∧ ∃ e : HostError, ∃ lines,
        (Program.runCommand garbled garbledCommand).stderr = lines ++ [e.diagnostic] := by
  have hstray : Returned strayFailure := .baseDir (show (systemWith "" []).baseDir strayConfig
    = .error strayFailure by cbv)
  have hdivided : Returned dividedFailure := .baseDir dividedConfig_fails
  have hbreaks : Breaks garbledFailure.diagnostic := by decide +kernel
  have hstatus : (Program.runCommand garbled garbledCommand).exitStatus
      ∉ [0, Program.panicStatus] := by
    rw [Program.runCommand_eq, garbled_unconfigured]
    decide
  have hlines := diagnostic_lines garbled (some (.ofString "host.toml")) garbledCommand
  refine ⟨⟨hstray, fun h => ?_⟩, ⟨hdivided, ?_⟩, ⟨garbled_fails, ?_⟩,
    ⟨garbled_unconfigured, ?_⟩, ?_⟩
  · obtain ⟨p, hp, hp'⟩ := ((hlines strayFailure).1 hstray).mp h
    cases hp
    revert hp'
    decide +kernel
  · exact ((hlines dividedFailure).1 hdivided).mpr ⟨_, rfl, by decide +kernel⟩
  · exact ((hlines garbledFailure).2.1 garbled_fails).mp hbreaks
  · exact ((hlines garbledFailure).2.2.1 garbled_unconfigured).mp hbreaks
  · obtain ⟨e, lines, hstderr, _⟩ := (hlines garbledFailure).2.2.2 hstatus
    exact ⟨e, lines, hstderr⟩

/-- Not every diagnostic is one line. -/
theorem divided_diagnostic : ¬ ∀ e, Returned e → ¬ Breaks e.diagnostic := by
  intro hclaim
  have hbreaks : Breaks dividedFailure.diagnostic := by decide +kernel
  exact hclaim _ (.baseDir dividedConfig_fails) hbreaks

end ScriptHost
