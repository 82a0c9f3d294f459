import ScriptHost.Commands
import ScriptHost.Proofs.ConfigRoundTrip
import ScriptHost.Proofs.Delivery
import ScriptHost.Proofs.ForeignVariables

/-!
# The layers of a configuration, field by field

A configuration is put together from four layers, and each of its fields has what the
uppermost layer gives for it (`FromLayers`). The command line comes last, when all the
rest has become a configuration already; below it the variables are laid over the file
and both over what is built in, and that is done with settings of any shape. It comes to
a choice for each field by itself because a value that can be read is never mixed from
two layers.

So nothing else in the file and the variables matters, and neither does a value that is
hidden by the variables, even if it has the wrong type. The variables have to be
readable, though: one that is not takes all settings with it, whatever it sets.
-/

namespace ScriptHost

open Settings

/-! ## The effective configuration -/

/-- A configuration that is loaded is extracted from all layers, and valid. -/
theorem Settings.loadConfig_eq_ok_iff {s : System} {file : Option Path} {c : HostConfig} :
    loadConfig s file = .ok c ↔ ∃ d, layered s file = .ok d ∧ extract d = .ok c
      ∧ c.validate = .ok () := by
  unfold loadConfig
  cases layered s file with
  | error stop => simp
  | ok d =>
    dsimp only
    cases hextract : extract d with
    | error p => simp [hextract]
    | ok c₀ =>
      simp only [map_eq_ok_iff, Except.ok.injEq, exists_eq_left']
      constructor
      · rintro ⟨_, hvalid, rfl⟩
        exact ⟨hextract, hvalid⟩
      · rintro ⟨heq, hvalid⟩
        rw [hextract, Except.ok.injEq] at heq
        exact ⟨(), heq ▸ hvalid, heq⟩

/-- The effective configuration of a command line. -/
def System.configured (s : System) (cl : CommandLine) : Except Stop HostConfig :=
  match loadConfig s (some (s.configPath cl)) with
  | .error stop => .error stop
  | .ok c => (cl.override c).validate.map fun _ => cl.override c

/-- The effective configuration is what the layers below become under the command line, and it is
valid. -/
theorem System.configured_eq_ok_iff {s : System} {cl : CommandLine} {c : HostConfig} :
    s.configured cl = .ok c ↔ ∃ c₀, loadConfig s (some (s.configPath cl)) = .ok c₀
      ∧ c = cl.override c₀ ∧ c.validate = .ok () := by
  unfold configured
  cases loadConfig s (some (s.configPath cl)) with
  | error stop => simp
  | ok c₀ =>
    dsimp only
    rw [map_eq_ok_iff]
    constructor
    · rintro ⟨_, hvalid, rfl⟩
      exact ⟨c₀, rfl, rfl, hvalid⟩
    · rintro ⟨_, heq, rfl, hvalid⟩
      cases heq
      exact ⟨(), hvalid, rfl⟩

/-- Variables that cannot be read come before everything else. -/
theorem System.configured_of_unreadable {s : System} {fault : Text.CutFault}
    (h : ofVariables s.env = .error fault) (cl : CommandLine) :
    s.configured cl = .error (.panic fault.message) := by
  rw [configured, loadConfig, layered, h]

theorem ended_readConfig (p : Path) (w : World) :
    ∃ w', w'.calls = w.calls ∧ w'.system = w.system ∧ readConfig (some p) w
      = match loadConfig w.system (some p) with
        | .ok c => .ok c w'
        | .error stop => .error stop w' := by
  refine ⟨w.logged (if w.system.files.exists? w.system.cwd p then .configFileFound p
    else .configFileMissing p), rfl, rfl, ?_⟩
  unfold readConfig
  cases h : loadConfig w.system (some p) <;>
    simp only [bind, EStateM.bind, get, getThe, MonadStateOf.get, EStateM.get, h] <;> rfl

/-- To find the effective configuration, a command calls nothing. -/
theorem ended_configure (cl : CommandLine) (w : World) :
    ended (configure cl w) = (w.system.configured cl, w.calls) := by
  obtain ⟨w', hcalls, _, hread⟩ := ended_readConfig (w.system.configPath cl) w
  have hget : (get : Act World) w = .ok w w := rfl
  unfold configure
  rw [Act.bind_of_ok hget, System.configured]
  cases hload : loadConfig w.system (some (w.system.configPath cl)) with
  | error stop =>
    rw [hload] at hread
    rw [Act.bind_of_error hread, ended, hcalls]
  | ok c =>
    rw [hload] at hread
    rw [Act.bind_of_ok hread, ← hcalls]
    dsimp only
    cases (cl.override c).validate <;> rfl

/-! ## What each layer gives -/

/-- What the command line gives for a field. The entry script and the count can only be given to
the command that runs the script. -/
def CommandLine.flag? (cl : CommandLine) : Field → Option Content
  | .format => cl.options.logFormat.map .format
  | .level => cl.options.logLevel.map .text
  | .baseDir => cl.options.baseDir.map fun p => .path (some p)
  | .library => cl.options.library.map fun p => .path (some p)
  | .entryScript =>
    match cl.command with
    | some (.run entry _) => entry.map fun p => .path (some p)
    | _ => none
  | .cycles =>
    match cl.command with
    | some (.run _ cycles) => cycles.map .count
    | _ => none

theorem CommandLine.get_override (cl : CommandLine) (c : HostConfig) (f : Field) :
    f.get (cl.override c) = (cl.flag? f).getD (f.get c) := by
  obtain ⟨command, ⟨_, baseDir, library, level, format⟩⟩ := cl
  cases f with
  | format => cases format <;> rfl
  | level => cases level <;> rfl
  | baseDir => cases baseDir <;> rfl
  | library => cases library <;> rfl
  | entryScript =>
    obtain _ | ⟨entry, _⟩ | _ | _ := command <;> try rfl
    cases entry <;> rfl
  | cycles =>
    obtain _ | ⟨_, cycles⟩ | _ | _ := command <;> try rfl
    cases cycles <;> rfl

/-- The settings of the file and those of the variables that a command line meets. The sections of
both are dictionaries, as far as there are any. -/
structure Layers (s : System) (cl : CommandLine) (file overlay : Dict) : Prop where
  file_eq : fileLayer s (s.configPath cl) = .ok file
  overlay_eq : ofVariables s.env = .ok overlay
  sectioned_file : Sectioned file
  sectioned_overlay : Sectioned overlay

/-- A field of a configuration has what the uppermost layer gives for it: the command line, the
variables, the file, or what is built in. -/
def FromLayers (cl : CommandLine) (overlay file : Dict) (c : HostConfig) (f : Field) : Prop :=
  match cl.flag? f, Dict.at? overlay f, Dict.at? file f with
  | some x, _, _ => f.get c = x
  | none, some v, _ => read f v = some (f.get c)
  | none, none, some v => read f v = some (f.get c)
  | none, none, none => f.get c = f.get {}

/-- What is found for a field in all layers below the command line. -/
def layersAt (file overlay : Dict) (f : Field) : Option Value :=
  laidOver (laidOver (Dict.at? builtinLayer f) (Dict.at? file f)) (Dict.at? overlay f)

theorem read_builtinLayer {f : Field} {v : Value} (h : Dict.at? builtinLayer f = some v) :
    read f v = some (f.get {}) := by
  cases f <;> cases h <;> decide +kernel

theorem sectioned_builtinLayer : Sectioned builtinLayer := by
  intro f v hv
  cases f <;> cases hv <;> exact ⟨_, _, rfl⟩

section Below

variable {s : System} {cl : CommandLine} {file overlay : Dict} {c : HostConfig}

/-- **The layers below the command line** come to the configuration of what is found for each
field. -/
theorem Layers.loadConfig_eq (h : Layers s cl file overlay) :
    loadConfig s (some (s.configPath cl))
      = match extractFields (layersAt file overlay) with
        | .error p => .error (.failure (.config p.message))
        | .ok c => c.validate.map fun _ => c := by
  have htidyFile := tidy_fileLayer h.file_eq
  have htidyVariables := tidy_ofVariables h.overlay_eq
  have hbelow := sectioned_mergeDict htidyFile sectioned_builtinLayer h.sectioned_file
  have hextract := extract_eq_extractFields
    (tidy_mergeDict (tidy_mergeDict tidy_builtinLayer htidyFile) htidyVariables)
    (sectioned_mergeDict htidyVariables hbelow h.sectioned_overlay)
  have hat : Dict.at? (mergeDict (mergeDict builtinLayer file) overlay)
      = layersAt file overlay := by
    funext f
    rw [at?_mergeDict htidyVariables h.sectioned_overlay,
      at?_mergeDict htidyFile h.sectioned_file, layersAt]
  rw [loadConfig, layered, h.overlay_eq]
  cases hfields : extractFields (layersAt file overlay) <;>
    simp only [h.file_eq, hextract, hat, hfields]

/-- What can be read where settings are laid over each other is what the newer ones have, if they
have anything. -/
theorem read_of_laidOver {f : Field} {w : Option Value} {v y : Value} {x : Content}
    (h : laidOver w (some v) = some y) (hx : read f y = some x) : read f v = some x := by
  rw [← eq_of_read_laidOver h hx, hx]

/-- Without the command line, each field of the configuration comes from the layers below. -/
theorem fromLayers_of_extractFields
    (h : extractFields (layersAt file overlay) = .ok c) (f : Field) :
    FromLayers {} overlay file c f := by
  have hextracted := extracted_of_extractFields h f
  rw [Extracted, layersAt] at hextracted
  have hflag : CommandLine.flag? {} f = none := by cases f <;> rfl
  rw [FromLayers, hflag]
  cases hv : Dict.at? overlay f with
  | some v =>
    rw [hv] at hextracted
    obtain ⟨y, hy⟩ := exists_laidOver (laidOver (Dict.at? builtinLayer f) (Dict.at? file f)) v
    rw [hy] at hextracted
    exact read_of_laidOver hy hextracted
  | none =>
    rw [hv, laidOver_none] at hextracted
    cases hw : Dict.at? file f with
    | some w =>
      rw [hw] at hextracted
      obtain ⟨y, hy⟩ := exists_laidOver (Dict.at? builtinLayer f) w
      rw [hy] at hextracted
      exact read_of_laidOver hy hextracted
    | none =>
      rw [hw, laidOver_none] at hextracted
      cases hb : Dict.at? builtinLayer f with
      | none => rw [hb] at hextracted; exact hextracted
      | some b =>
        rw [hb] at hextracted
        exact Option.some.inj (hextracted.symm.trans (read_builtinLayer hb))

theorem CommandLine.fromLayers_override {f : Field} (h : FromLayers {} overlay file c f) :
    FromLayers cl overlay file (cl.override c) f := by
  have hflag : CommandLine.flag? {} f = none := by cases f <;> rfl
  rw [FromLayers, hflag] at h
  rw [FromLayers, cl.get_override]
  cases cl.flag? f with
  | some x => rfl
  | none => exact h

theorem Layers.configured_eq_ok (h : Layers s cl file overlay) (hc : s.configured cl = .ok c) :
    ∃ c₀, extractFields (layersAt file overlay) = .ok c₀ ∧ c = cl.override c₀ := by
  obtain ⟨c₀, hload, rfl, _⟩ := System.configured_eq_ok_iff.mp hc
  rw [h.loadConfig_eq] at hload
  refine ⟨c₀, ?_, rfl⟩
  cases hfields : extractFields (layersAt file overlay) with
  | error p => rw [hfields] at hload; cases hload
  | ok c₁ =>
    simp only [hfields] at hload
    obtain ⟨_, _, rfl⟩ := map_eq_ok_iff.mp hload
    rfl

/-- What the variables give for a field hides what the file has there, if the extraction succeeds
at all. -/
theorem layersAt_eq_of_extractFields {file' : Dict}
    (h : extractFields (layersAt file overlay) = .ok c)
    (hfile : ∀ f, Dict.at? overlay f = none → Dict.at? file' f = Dict.at? file f) :
    layersAt file' overlay = layersAt file overlay := by
  funext f
  cases hv : Dict.at? overlay f with
  | none => rw [layersAt, layersAt, hfile f hv]
  | some v =>
    obtain ⟨y, hy⟩ := exists_laidOver (laidOver (Dict.at? builtinLayer f) (Dict.at? file f)) v
    have hextracted := extracted_of_extractFields h f
    rw [Extracted, layersAt, hv, hy] at hextracted
    have hread := read_of_laidOver hy hextracted
    rw [layersAt, layersAt, hv, laidOver_of_read hread, laidOver_of_read hread]

end Below

/-! ## The choice of each field -/

variable {cl : CommandLine} {w w' : World} {file file' overlay overlay' : Dict}

/-- **Every field comes from the uppermost layer that gives it.** Nothing else in the layers makes a
difference, not even to a failure; where the variables give a field, neither does what the file has
there, once the configuration is accepted; and a variable that sets no field can come and go. -/
theorem configure_fromLayers (h : Layers w.system cl file overlay) :
    (∀ c, (ended (configure cl w)).1 = .ok c → ∀ f, FromLayers cl overlay file c f)
      ∧ (∀ w' file' overlay', Layers w'.system cl file' overlay' →
        (∀ f, Dict.at? overlay' f = Dict.at? overlay f) →
        ((∀ f, Dict.at? file' f = Dict.at? file f) →
          (ended (configure cl w')).1 = (ended (configure cl w)).1)
        ∧ ∀ c, (∀ f, Dict.at? overlay f = none → Dict.at? file' f = Dict.at? file f) →
          (ended (configure cl w)).1 = .ok c → (ended (configure cl w')).1 = .ok c)
      ∧ ∀ pre post var keys x, w.system.env = pre ++ post →
        keyPath? (Utf8.lossyFrom [] var.1) = some keys → Foreign keys →
        ofText (Utf8.lossyFrom [] var.2) = .ok x →
        (ended (configure cl { w with system := { w.system with env := pre ++ var :: post } })).1
          = (ended (configure cl w)).1 := by
  -- the same values for the fields come to the same end
  have hsame : ∀ {w' : World} {file' overlay' : Dict}, Layers w'.system cl file' overlay' →
      layersAt file' overlay' = layersAt file overlay →
      (ended (configure cl w')).1 = (ended (configure cl w)).1 := by
    intro w' file' overlay' h' heq
    rw [ended_configure, ended_configure]
    unfold System.configured
    rw [h'.loadConfig_eq, h.loadConfig_eq, heq]
  refine ⟨fun c hc f => ?_, fun w' file' overlay' h' hoverlay => ⟨fun hfile => ?_, ?_⟩, ?_⟩
  · rw [ended_configure] at hc
    obtain ⟨c₀, hfields, rfl⟩ := h.configured_eq_ok hc
    exact cl.fromLayers_override (fromLayers_of_extractFields hfields f)
  · refine hsame h' (funext fun f => ?_)
    rw [layersAt, layersAt, hoverlay f, hfile f]
  · intro c hfile hc
    rw [← hc]
    rw [ended_configure] at hc
    obtain ⟨c₀, hfields, _⟩ := h.configured_eq_ok hc
    refine hsame h' (Eq.trans (funext fun f => ?_) (layersAt_eq_of_extractFields hfields hfile))
    rw [layersAt, layersAt, hoverlay f]
  · intro pre post var keys x henv hkeys hforeign hvalue
    obtain ⟨overlay', hoverlay', halike⟩ :=
      ofVariables_insert hkeys hforeign hvalue (henv ▸ h.overlay_eq)
    have hpath := System.configPath_insert (s := w.system) henv hkeys cl
    have hinserted : Layers { w.system with env := pre ++ var :: post } cl file overlay' := by
      refine ⟨?_, hoverlay', h.sectioned_file, fun f => halike.fits f (h.sectioned_overlay f)⟩
      rw [hpath]
      exact h.file_eq
    refine hsame hinserted (funext fun f => ?_)
    rw [layersAt, layersAt, halike.at_eq f]

/-! ### Some layers -/

/-- The file `host.toml` above the working directory, and some variables. -/
def systemWith (text : String) (vars : List (String × String)) : System :=
  { systemAround (bytesOf text) with env := vars.map fun e => (bytesOf e.1, bytesOf e.2) }

/-- The settings of that file, if it is one of settings. -/
def settingsOf (text : String) : Dict :=
  ofTomlEntries (.file (.ofString "../host.toml")) ((Toml.read? text.toList).getD [])

def overlayOf (vars : List (String × String)) : Dict :=
  (ofVariables (vars.map fun e => (bytesOf e.1, bytesOf e.2))).toOption.getD []

section Some

variable {text : String} {vars : List (String × String)}

/-- The file is found, whatever the variables are. -/
theorem fileLayer_systemAround (content : Bytes) (env : List (Bytes × Bytes)) :
    fileLayer { systemAround content with env } (.ofString "host.toml")
      = readLayer (.ofString "../host.toml") content := by
  have hfind : findFile? { systemAround content with env } (.ofString "host.toml")
      = some (.ofString "/app/host.toml") := by cbv
  have hread : (systemAround content).files.read (systemAround content).cwd
      (.ofString "/app/host.toml") = .ok content := by cbv
  have hshown : System.shown { systemAround content with env } (.ofString "/app/host.toml")
      = .ofString "../host.toml" := by cbv
  rw [fileLayer, hfind]
  simp only [hread, hshown]

theorem fileLayer_systemWith (h : (Toml.read? text.toList).isSome) :
    fileLayer (systemWith text vars) (.ofString "host.toml") = .ok (settingsOf text) := by
  obtain ⟨t, ht⟩ := Option.isSome_iff_exists.mp h
  rw [systemWith, fileLayer_systemAround, readLayer, bytesOf, Utf8.decode_encode, settingsOf]
  simp only [ht, Option.getD_some]

theorem ofVariables_systemWith (h : (ofVariables (systemWith text vars).env).isOk) :
    ofVariables (systemWith text vars).env = .ok (overlayOf vars) :=
  eq_ok_of_isOk h []

theorem configPath_systemWith (hcl : cl.options.config = some "host.toml") :
    (systemWith text vars).configPath cl = .ofString "host.toml" := by
  rw [System.configPath, hcl]
  rfl

/-- The layers of the system are its file and its variables, if both can be read. -/
theorem layers_systemWith (hcl : cl.options.config = some "host.toml")
    (h : (Toml.read? text.toList).isSome ∧ (ofVariables (systemWith text vars).env).isOk
      ∧ Sectioned (settingsOf text) ∧ Sectioned (overlayOf vars)) :
    Layers (systemWith text vars) cl (settingsOf text) (overlayOf vars) :=
  ⟨by rw [configPath_systemWith hcl]; exact fileLayer_systemWith h.1,
    ofVariables_systemWith h.2.1, h.2.2.1, h.2.2.2⟩

theorem configured_systemWith (hcl : cl.options.config = some "host.toml")
    (h : (Toml.read? text.toList).isSome ∧ (ofVariables (systemWith text vars).env).isOk) :
    (systemWith text vars).configured cl
      = match extract (mergeDict (mergeDict builtinLayer (settingsOf text)) (overlayOf vars)) with
        | .error p => .error (.failure (.config p.message))
        | .ok c => match c.validate with
          | .error stop => .error stop
          | .ok () => (cl.override c).validate.map fun _ => cl.override c := by
  rw [System.configured, configPath_systemWith hcl, loadConfig, layered,
    ofVariables_systemWith h.2]
  simp only [fileLayer_systemWith h.1]
  cases extract (mergeDict (mergeDict builtinLayer (settingsOf text)) (overlayOf vars)) with
  | error p => rfl
  | ok c => dsimp only; cases c.validate <;> rfl

/-- Without a file there are only the variables. -/
theorem loadConfig_systemWith (h : (ofVariables (systemWith text vars).env).isOk) :
    loadConfig (systemWith text vars) none
      = match extract (mergeDict builtinLayer (overlayOf vars)) with
        | .error p => .error (.failure (.config p.message))
        | .ok c => c.validate.map fun _ => c := by
  have hlayered : layered (systemWith text vars) none
      = .ok (mergeDict builtinLayer (overlayOf vars)) := by
    unfold layered
    simp only [ofVariables_systemWith h]
  cases hextract : extract (mergeDict builtinLayer (overlayOf vars)) <;>
    simp only [loadConfig, hlayered, hextract]

/-- An empty file and no variables. -/
theorem layers_nothing (cl : CommandLine) (hcl : cl.options.config = some "host.toml") :
    Layers (systemWith "" []) cl (settingsOf "") (overlayOf []) :=
  layers_systemWith hcl (by decide +kernel)

end Some

/-- A file whose level is no text. -/
def numberedLevel : String :=
  "[runtime]\nentry_script = \"a.js\"\nrepeat = 2\n\n[logging]\nlevel = 5\n"

def debugVariable : List (String × String) := [("NSHOST_LOGGING__LEVEL", "debug")]

def threeCycles : CommandLine :=
  { command := some (.run none (some 3)), options := { config := some "host.toml" } }

theorem layers_numberedLevel :
    Layers (systemWith numberedLevel debugVariable) threeCycles (settingsOf numberedLevel)
      (overlayOf debugVariable) :=
  layers_systemWith rfl (by decide +kernel)

/-- Each of three layers gives a field, and one of them hides a value of the wrong type. -/
theorem numberedLevel_fromLayers :
    Layers (systemWith numberedLevel debugVariable) threeCycles (settingsOf numberedLevel)
        (overlayOf debugVariable)
      ∧ (ended (configure threeCycles
          (.start (systemWith numberedLevel debugVariable) [] []))).1
        = .ok { runtime := { entryScript := .ofString "a.js", cycles := 3 }
                logging := { level := "debug" } }
      ∧ ∀ f, FromLayers threeCycles (overlayOf debugVariable) (settingsOf numberedLevel)
        { runtime := { entryScript := .ofString "a.js", cycles := 3 }
          logging := { level := "debug" } } f := by
  have hend : (ended (configure threeCycles
      (.start (systemWith numberedLevel debugVariable) [] []))).1
      = .ok { runtime := { entryScript := .ofString "a.js", cycles := 3 }
              logging := { level := "debug" } } := by
    rw [ended_configure]
    unfold System.configured
    rw [World.start, layers_numberedLevel.loadConfig_eq]
    decide +kernel
  exact ⟨layers_numberedLevel, hend,
    (configure_fromLayers (w := .start (systemWith numberedLevel debugVariable) [] [])
      layers_numberedLevel).1 _ hend⟩

/-- A variable that sets no field, and whose value cannot be read: its only escape stands behind a
character of two bytes. -/
def unreadableVariable : List (String × String) :=
  [("NSHOST_RUNTIME__FOO", "\"é\\n\"")]

/-- What cannot be read takes all settings with it, even those of no field. -/
theorem unreadable_variable :
    Layers (systemWith "" []) threeCycles (settingsOf "") (overlayOf [])
      ∧ (ended (configure threeCycles (.start (systemWith "" []) [] []))).1
        = .ok { runtime := { cycles := 3 } }
      ∧ (∃ keys, keyPath? "NSHOST_RUNTIME__FOO".toList = some keys ∧ Foreign keys)
      ∧ ∃ text, (ended (configure threeCycles (.start (systemWith "" unreadableVariable) [] []))).1
        = .error (.panic text) := by
  have hlayers := layers_nothing threeCycles rfl
  refine ⟨hlayers, ?_, ⟨["runtime", "foo"], by decide +kernel, ?_⟩, ?_⟩
  · rw [ended_configure]
    unfold System.configured
    rw [World.start, hlayers.loadConfig_eq]
    decide +kernel
  · intro f
    cases f <;> decide +kernel
  · rw [ended_configure]
    cases hvars : ofVariables (systemWith "" unreadableVariable).env with
    | error fault => exact ⟨fault.message, System.configured_of_unreadable hvars threeCycles⟩
    | ok d =>
      have hunread : (ofVariables (systemWith "" unreadableVariable).env).isOk = false := by
        decide +kernel
      rw [hvars] at hunread
      cases hunread

end ScriptHost
