import ScriptHost.Proofs.Outcome

/-!
# Failures in the log

A program that fails says so twice: in the log, with the stage and the code of the
failure, and in the diagnostic at its very end. Logging starts when the configuration is
known, though. So the log tells every failure of a command, unless a filter keeps it out,
and no failure to get a configuration (`run_of_failure`).

The filter is the standard one if nobody asks for another. A layer asks for one by its
level (`Dict.level?`), which is the first setting of a section that is given as a list.
-/

namespace ScriptHost

open Settings

/-! ## The level of nobody -/

namespace Settings

/-- What settings have for the level of the log. -/
def Dict.level? (d : Dict) : Option Value :=
  match d.lookup "logging" with
  | some (.dict _ entries) => entries.lookup "level"
  | some (.list _ (v :: _)) => some v
  | _ => none

variable {d old new : Dict}

/-- Settings without a level leave that of the settings below, or hide it. -/
theorem level?_mergeDict (htidy : Dict.Tidy new) (hnew : Dict.level? new = none) (old : Dict) :
    Dict.level? (mergeDict old new) = none
      ∨ Dict.level? (mergeDict old new) = Dict.level? old := by
  have hlookup := lookup_mergeDict htidy.sorted old "logging"
  rw [Dict.level?] at hnew
  cases hv : new.lookup "logging" with
  | none =>
    rw [hv, laidOver_none] at hlookup
    exact .inr (by rw [Dict.level?, hlookup, Dict.level?])
  | some v =>
    rw [hv] at hlookup hnew
    cases hw : old.lookup "logging" with
    | none =>
      rw [hw, none_laidOver] at hlookup
      exact .inl (by rw [Dict.level?, hlookup]; exact hnew)
    | some w =>
      rw [hw, laidOver] at hlookup
      rcases merge_cases w v with heq | ⟨_, below, _, entries, rfl, rfl, heq⟩
      · rw [heq] at hlookup
        exact .inl (by rw [Dict.level?, hlookup]; exact hnew)
      · -- both sections are dictionaries, so the level is that of the older one
        have hentries := lookup_mergeDict (htidy.entries _ _ hv) below "level"
        rw [show entries.lookup "level" = none from hnew, laidOver_none] at hentries
        rw [heq] at hlookup
        exact .inr (by rw [Dict.level?, hlookup, Dict.level?, hw]; exact hentries)

/-- The built-in level stays if no layer has one. -/
theorem level?_layered {s : System} {p : Path}
    (hfile : ∀ d, fileLayer s p = .ok d → Dict.level? d = none)
    (hvars : ∀ d, ofVariables s.env = .ok d → Dict.level? d = none)
    (h : layered s (some p) = .ok d) {v : Value} (hv : Dict.level? d = some v) :
    v.text? = some "info" := by
  have hbuiltin : ∀ v, Dict.level? builtinLayer = some v → v.text? = some "info" := by
    rintro v ⟨⟩
    rfl
  obtain ⟨file, overlay, hlayer, hoverlay, rfl⟩ := layered_eq_ok_iff.mp h
  have hbelow := level?_mergeDict (tidy_fileLayer hlayer) (hfile _ hlayer) builtinLayer
  rcases level?_mergeDict (tidy_ofVariables hoverlay) (hvars _ hoverlay)
    (mergeDict builtinLayer file) with heq | heq
  · rw [heq] at hv; cases hv
  · rw [heq] at hv
    rcases hbelow with heq | heq
    · rw [heq] at hv; cases hv
    · rw [heq] at hv; exact hbuiltin v hv

variable {l l' : LoggingSection} {keys : List String} {v : Value} {text : String}

theorem level_of_setLoggingField (hv : v.text? = some text)
    (h : setLoggingField l "level" keys v = .ok l') : l'.level = text := by
  rw [setLoggingField, if_pos rfl, map_eq_ok_iff] at h
  obtain ⟨s, hs, rfl⟩ := h
  rw [← toOption_eq_some_iff, toOption_extractText, hv] at hs
  exact (Option.some.inj hs).symm

theorem level_of_setLoggingField_of_ne {field : String} (hne : field ≠ "level")
    (h : setLoggingField l field keys v = .ok l') : l'.level = l.level := by
  rw [setLoggingField, if_neg hne] at h
  split at h
  · obtain ⟨_, _, rfl⟩ := map_eq_ok_iff.mp h
    rfl
  · cases h; rfl

/-- A section that is a dictionary has the level of its key. -/
theorem level_of_entries {entries : Dict} (hsorted : Dict.Sorted entries)
    (hlevel : ∀ v, entries.lookup "level" = some v → v.text? = some l.level)
    (h : entries.foldlM (fun l e => setLoggingField l e.1 (keys ++ [e.1]) e.2) l = .ok l') :
    l'.level = l.level := by
  rw [foldlM_eq_visits (fun l k v => setLoggingField l k (keys ++ [k]) v) ["format", "level"]
    (by decide +kernel) (fun l k v hk => ?_) hsorted] at h
  · refine foldlM_keeps (fun l₁ => l₁.level = l.level) (fun l₁ k l₂ hkeep hstep => ?_) rfl h
    rw [visit] at hstep
    cases hfound : entries.lookup k with
    | none => rw [hfound] at hstep; cases hstep; exact hkeep
    | some v =>
      rw [hfound] at hstep
      by_cases hk : k = "level"
      · subst hk
        exact level_of_setLoggingField (hlevel v hfound) hstep
      · exact (level_of_setLoggingField_of_ne hk hstep).trans hkeep
  · rw [List.mem_cons, List.mem_singleton, not_or] at hk
    rw [setLoggingField, if_neg hk.2, if_neg hk.1]

/-- A section that is a list has the level that it begins with. -/
theorem level_of_items {items : List Value}
    (hlevel : ∀ v, items.head? = some v → v.text? = some l.level)
    (h : ((loggingFields.zip items).zipIdx).foldlM
      (fun l e => setLoggingField l e.1.1 (keys ++ [toString e.2]) e.1.2) l = .ok l') :
    l'.level = l.level := by
  cases items with
  | nil => cases h; rfl
  | cons v items =>
    rw [loggingFields, List.zip_cons_cons, List.zipIdx_cons] at h
    obtain ⟨l₁, hfirst, hrest⟩ := foldlM_cons_eq_ok_iff.mp h
    have hset := level_of_setLoggingField (hlevel v rfl) hfirst
    cases items with
    | nil => cases hrest; exact hset
    | cons w items =>
      have hne : "format" ≠ "level" := by decide
      obtain ⟨l₂, hsecond, hnil⟩ := foldlM_cons_eq_ok_iff.mp hrest
      cases hnil
      exact (level_of_setLoggingField_of_ne hne hsecond).trans hset

/-- **The level of a configuration** is the built-in one, if its settings have no other. -/
theorem level_of_extract {c : HostConfig} (htidy : Dict.Tidy d)
    (hlevel : ∀ v, Dict.level? d = some v → v.text? = some "info") (h : extract d = .ok c) :
    c.logging.level = "info" := by
  rw [extract, foldlM_eq_visits setSection ["logging", "runtime"] (by decide +kernel)
    (fun c k v hk => setSection_of_notMem hk c v) htidy.sorted] at h
  refine foldlM_keeps (fun c => c.logging.level = "info") (fun c₁ k c₂ hkeep hstep => ?_) rfl h
  rw [visit] at hstep
  cases hfound : d.lookup k with
  | none => rw [hfound] at hstep; cases hstep; exact hkeep
  | some v =>
    rw [hfound] at hstep
    dsimp only at hstep
    rw [setSection] at hstep
    split at hstep
    next hk =>
      subst hk
      obtain ⟨l, hsection, rfl⟩ := map_eq_ok_iff.mp hstep
      rw [Dict.level?, hfound] at hlevel
      unfold extractSection at hsection
      split at hsection
      next entries =>
        exact level_of_entries (htidy.entries _ _ hfound) hlevel hsection
      next items =>
        refine level_of_items (fun w hw => hlevel w ?_) hsection
        cases items with
        | nil => cases hw
        | cons => exact hw
      · cases hsection
    · split at hstep
      · obtain ⟨_, _, rfl⟩ := map_eq_ok_iff.mp hstep
        exact hkeep
      · cases hstep; exact hkeep

end Settings

/-- Nobody asks for a filter of the log: not the environment, not the command line, and none of the
layers below it. -/
structure Unfiltered (s : System) (cl : CommandLine) : Prop where
  environment : s.var? LogFilter.variableName = none
  flag : cl.options.logLevel = none
  file : ∀ d, fileLayer s (s.configPath cl) = .ok d → Dict.level? d = none
  overlay : ∀ d, ofVariables s.env = .ok d → Dict.level? d = none

variable {s : System} {cl : CommandLine} {c : HostConfig}

theorem Unfiltered.level_eq (h : Unfiltered s cl) (hc : s.configured cl = .ok c) :
    c.logging.level = "info" := by
  obtain ⟨c₀, hload, rfl, _⟩ := System.configured_eq_ok_iff.mp hc
  obtain ⟨_, hlayered, hextract, _⟩ := loadConfig_eq_ok_iff.mp hload
  have hbelow := level_of_extract (tidy_layered hlayered)
    (fun v => level?_layered h.file h.overlay hlayered) hextract
  rw [CommandLine.override]
  simp only [h.flag, Option.getD_none, hbelow]

/-! ## The line of a failure -/

/-- The line that tells a failure, with its stage and its code. -/
def errorLine (format : LogFormat) (context : String) (e : HostError) : String :=
  match format with
  | .pretty =>
    "ERROR " ++ String.join ((context ++ e.message).toList.map LogLine.shownChar)
      ++ " stage=" ++ e.stage.name ++ " code=\"" ++ e.code ++ "\""
  | .json =>
    LogLine.jsonObject [("level", "\"ERROR\""), ("fields", LogLine.jsonObject
      [("message", LogLine.jsonString (context ++ e.message)),
        ("stage", "\"" ++ e.stage.name ++ "\""), ("code", "\"" ++ e.code ++ "\"")])]

/-- Nothing in a code or the name of a stage has to be escaped. -/
theorem quoted_code (e : HostError) : Text.quoted e.code = "\"" ++ e.code ++ "\"" := by
  cases e <;> simp only [HostError.code] <;> decide +kernel

theorem jsonString_code (e : HostError) : LogLine.jsonString e.code = "\"" ++ e.code ++ "\"" := by
  cases e <;> simp only [HostError.code] <;> decide +kernel

theorem jsonString_stage (stage : Stage) :
    LogLine.jsonString stage.name = "\"" ++ stage.name ++ "\"" := by
  cases stage <;> decide +kernel

/-- **A failure in the log** is rendered with its stage and its code. -/
theorem render_failed (format : LogFormat) (showCycle : Bool) (context : String) (e : HostError) :
    LogLine.render format showCycle ⟨none, .failed context e⟩ = errorLine format context e := by
  cases format with
  | pretty =>
    have hlevel : "ERROR" ++ " " ++ "" = "ERROR " := by decide
    show "ERROR" ++ " " ++ "" ++ String.join ((context ++ e.message).toList.map LogLine.shownChar)
      ++ (" stage=" ++ e.stage.name ++ " code=" ++ Text.quoted e.code) = _
    rw [hlevel, quoted_code, errorLine]
    simp only [String.append_assoc]
    rfl
  | json =>
    have hlevel : LogLine.jsonString "ERROR" = "\"ERROR\"" := by decide
    rw [errorLine, ← jsonString_stage, ← jsonString_code, ← hlevel]
    rfl

namespace LogFilter

theorem build_of_unfiltered (h : Unfiltered s cl) (hc : s.configured cl = .ok c) :
    build s c.logging.level = .ok standard := by
  have hstandard : ofText "info" = .ok standard := by decide +kernel
  rw [build, h.environment, h.level_eq hc]
  show first ["info"] = _
  rw [first, hstandard]

theorem standard_lets_failed (context : String) (e : HostError) :
    standard.lets ⟨none, .failed context e⟩ := by
  rfl

end LogFilter

/-! ## The end of a program that fails -/

namespace Program

variable {e : HostError} {w : World}

theorem logLines_append (filter : LogFilter) (format : LogFormat) (logs logs' : List LogEntry) :
    logLines filter format (logs ++ logs')
      = logLines filter format logs ++ logLines filter format logs' := by
  rw [logLines, logLines, logLines, List.filter_append, List.map_append]

/-- The failure of a command is the last entry of the log, if the filter lets it through. -/
theorem runFiltered_of_failure {filter : LogFilter}
    (hlets : filter.lets ⟨none, .failed (context cl.effective) e⟩)
    (h : perform cl c (World.start s [] []) = .error (.failure e) w) :
    runFiltered s cl c filter
      = { exitStatus := e.exitStatus
          stderr := logLines filter c.logging.format w.logs
            ++ [errorLine c.logging.format (context cl.effective) e, e.diagnostic]
          calls := w.calls } := by
  have hline : logLines filter c.logging.format [⟨none, .failed (context cl.effective) e⟩]
      = [errorLine c.logging.format (context cl.effective) e] := by
    rw [logLines, List.filter_cons, if_pos hlets, ← render_failed]
    rfl
  unfold runFiltered
  rw [h]
  dsimp only
  rw [logLines_append, hline, List.append_assoc]
  rfl

/-- There is no status for a failure but that of a failure to get a configuration, and that of a
failure of the command. -/
theorem failure_of_exitStatus (h : (runCommand s cl).exitStatus ∉ [0, panicStatus]) :
    ∃ e, s.configured cl = .error (.failure e) ∨ ∃ c w, s.configured cl = .ok c
      ∧ perform cl c (World.start s [] []) = .error (.failure e) w := by
  rw [runCommand_eq] at h
  cases hc : s.configured cl with
  | error stop =>
    rw [hc] at h
    rcases configured_eq_error hc with ⟨e, rfl⟩ | ⟨text, rfl, _⟩
    · exact ⟨e, .inl rfl⟩
    · exact absurd (List.mem_cons_of_mem _ List.mem_cons_self) h
  | ok c =>
    rw [hc] at h
    dsimp only at h
    cases hfilter : LogFilter.build s c.logging.level with
    | error fault =>
      rw [hfilter] at h
      exact absurd (List.mem_cons_of_mem _ List.mem_cons_self) h
    | ok filter =>
      have hperformed := performed_perform (c := c) (w := World.start s [] []) cl rfl
      rw [hfilter] at h
      dsimp only at h
      unfold runFiltered at h
      revert h hperformed
      cases hperform : perform cl c (World.start s [] []) with
      | ok out w => exact fun h _ => absurd List.mem_cons_self h
      | error stop w =>
        cases stop with
        | failure e => exact fun _ _ => ⟨e, .inr ⟨c, w, rfl, hperform⟩⟩
        | panic text => exact fun _ hperformed => hperformed.elim
        | abort => exact fun _ hperformed => hperformed.elim

/-- **Failures and the log.** If nobody asks for a filter, the failure of a command is told twice
at the end of the error stream: by a line of the log with its stage and its code, and by the
diagnostic. A failure to get a configuration is told by the diagnostic alone. There is no other
failure. -/
theorem run_of_failure {args : List Bytes}
    (hparse : CommandLine.parse (s.var? configVariable) args = .ok cl) (h : Unfiltered s cl) :
    (∀ c e w, s.configured cl = .ok c →
        perform cl c (World.start s [] []) = .error (.failure e) w →
        ∃ lines, run s args
          = { exitStatus := e.exitStatus
              stderr := lines
                ++ [errorLine c.logging.format (context cl.effective) e, e.diagnostic]
              calls := w.calls })
      ∧ (∀ e, s.configured cl = .error (.failure e) →
        run s args = { exitStatus := e.exitStatus, stderr := [e.diagnostic] })
      ∧ ((run s args).exitStatus ∉ [0, panicStatus] →
        ∃ e, s.configured cl = .error (.failure e) ∨ ∃ c w, s.configured cl = .ok c
          ∧ perform cl c (World.start s [] []) = .error (.failure e) w) := by
  rw [run, hparse]
  dsimp only
  refine ⟨fun c e w hc hperform => ?_, fun e hc => ?_, failure_of_exitStatus⟩
  · refine ⟨logLines LogFilter.standard c.logging.format w.logs, ?_⟩
    rw [runCommand_eq, hc]
    dsimp only
    rw [LogFilter.build_of_unfiltered h hc]
    exact runFiltered_of_failure (LogFilter.standard_lets_failed _ e) hperform
  · rw [runCommand_eq, hc]
    rfl

end Program

/-! ### Two failures -/

theorem unfiltered_systemWith {text : String}
    (hcl : cl.options.config = some "host.toml" ∧ cl.options.logLevel = none)
    (htext : (Toml.read? text.toList).isSome) (hlevel : (Dict.level? (settingsOf text)).isNone) :
    Unfiltered (systemWith text []) cl where
  environment := rfl
  flag := hcl.2
  file d hd := by
    rw [configPath_systemWith hcl.1, fileLayer_systemWith htext] at hd
    cases hd
    exact Option.isNone_iff_eq_none.mp hlevel
  overlay d hd := by cases hd; rfl

def strayProbe : CommandLine :=
  { command := some .probe
    options := { config := some "host.toml", baseDir := some (.ofString "/nowhere") } }

def strayArguments : List Bytes := ["-c", "host.toml", "-b", "/nowhere", "probe"].map bytesOf

def strayConfig : HostConfig := { runtime := { baseDir := some (.ofString "/nowhere") } }

def strayFailure : HostError :=
  .baseDirectory (.ofString "/nowhere") "No such file or directory (os error 2)"

/-- A base directory that is not there is told twice. -/
theorem strayProbe_told :
    CommandLine.parse ((systemWith "" []).var? configVariable) strayArguments = .ok strayProbe
      ∧ Unfiltered (systemWith "" []) strayProbe
      ∧ ∃ lines, Program.run (systemWith "" []) strayArguments
        = { exitStatus := 70
            stderr := lines
              ++ ["ERROR runtime probe failed: base directory /nowhere is not usable: No such file "
                  ++ "or directory (os error 2) stage=initialize code=\"BASE_DIRECTORY\"",
                "error[BASE_DIRECTORY] initialize failed: base directory /nowhere is not usable: "
                  ++ "No such file or directory (os error 2)"] } := by
  have hparse : CommandLine.parse ((systemWith "" []).var? configVariable) strayArguments
      = .ok strayProbe := by
    rw [show (systemWith "" []).var? configVariable = none from rfl]
    decide +kernel
  have hunfiltered : Unfiltered (systemWith "" []) strayProbe :=
    unfiltered_systemWith ⟨rfl, rfl⟩ (by decide +kernel) (by decide +kernel)
  have hconfigured : (systemWith "" []).configured strayProbe = .ok strayConfig := by
    rw [System.configured, loadConfig_nothing _ rfl]
    decide +kernel
  have hbase : (systemWith "" []).baseDir strayConfig = .error strayFailure := by cbv
  have hperform : Program.perform strayProbe strayConfig (World.start (systemWith "" []) [] [])
      = .error (.failure strayFailure) (World.start (systemWith "" []) [] []) := by
    refine Act.bind_of_error ((Act.observe_eq _ _).trans ?_)
    rw [show (World.start (systemWith "" []) [] []).system = systemWith "" [] from rfl, hbase]
  obtain ⟨lines, hrun⟩ := (Program.run_of_failure hparse hunfiltered).1 _ _ _ hconfigured hperform
  have hends : [errorLine strayConfig.logging.format (Program.context strayProbe.effective)
        strayFailure, strayFailure.diagnostic]
      = ["ERROR runtime probe failed: base directory /nowhere is not usable: No such file "
          ++ "or directory (os error 2) stage=initialize code=\"BASE_DIRECTORY\"",
        "error[BASE_DIRECTORY] initialize failed: base directory /nowhere is not usable: "
          ++ "No such file or directory (os error 2)"] := by
    decide +kernel
  rw [hends] at hrun
  exact ⟨hparse, hunfiltered, lines, hrun⟩

/-- A file that asks for no cycle. -/
def cyclelessFile : String := "[runtime]\nrepeat = 0\n"

/-- Not every failure is told by a line of the log. -/
theorem unlogged_failure :
    ¬ ∀ s args cl e, CommandLine.parse (s.var? configVariable) args = .ok cl → Unfiltered s cl →
      s.configured cl = .error (.failure e) →
      ∃ lines format context,
        (Program.run s args).stderr = lines ++ [errorLine format context e, e.diagnostic] := by
  intro hclaim
  have hparse : CommandLine.parse ((systemWith cyclelessFile []).var? configVariable)
      (["-c", "host.toml"].map bytesOf) = .ok { options := { config := some "host.toml" } } := by
    rw [show (systemWith cyclelessFile []).var? configVariable = none from rfl]
    decide +kernel
  have hunfiltered : Unfiltered (systemWith cyclelessFile [])
      { options := { config := some "host.toml" } } :=
    unfiltered_systemWith ⟨rfl, rfl⟩ (by decide +kernel) (by decide +kernel)
  have hconfigured : (systemWith cyclelessFile []).configured
      { options := { config := some "host.toml" } }
      = .error (.failure (.config "runtime.repeat: range")) := by
    rw [configured_systemWith rfl (by decide +kernel)]
    decide +kernel
  obtain ⟨lines, format, context, htold⟩ := hclaim _ _ _ _ hparse hunfiltered hconfigured
  rw [Program.run, hparse] at htold
  dsimp only at htold
  rw [Program.runCommand_eq, hconfigured] at htold
  have hlength := congrArg List.length htold
  rw [List.length_append] at hlength
  simp [Program.stopped] at hlength

end ScriptHost
