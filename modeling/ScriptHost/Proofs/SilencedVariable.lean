import Mathlib
import ScriptHost.Proofs.FileSearch
import ScriptHost.Proofs.GivenOptions
import ScriptHost.Proofs.VariableOrder

/-!
# A configuration file that is named silences its variable

The variable for the configuration file acts in two ways. It stands in for the option of
the command line, and since its name begins with the prefix of the settings it is a
setting, too, for a key that is not a section. Where the option is given neither matters:
the option comes first (`parse_of_mentioned`), and nothing looks at the key.

The second part is said of dictionaries that differ under one key only (`besides`). Laying
variables over them keeps it so, and the extraction passes the key by. As for all
variables, the value has to be one that can be read.
-/

namespace ScriptHost

namespace Settings

/-! ## All keys but one -/

/-- What a dictionary has under every key but one. -/
def besides (key : String) (d : Dict) (k : String) : Option Value :=
  if k = key then none else d.lookup k

section Besides

variable {key : String} {d d' old old' new new' : Dict} {name : Bytes} {var : Bytes × Bytes}
  {env env' : List (Bytes × Bytes)}

theorem besides_mergeDict (hnew : Dict.Sorted new) (k : String) :
    besides key (mergeDict old new) k = laidOver (besides key old k) (besides key new k) := by
  unfold besides
  split
  next => rfl
  next => exact lookup_mergeDict hnew old k

theorem besides_mergeDict_congr (hnew : Dict.Sorted new) (hnew' : Dict.Sorted new')
    (hold : besides key old = besides key old') (h : besides key new = besides key new') :
    besides key (mergeDict old new) = besides key (mergeDict old' new') := by
  funext k
  rw [besides_mergeDict hnew, besides_mergeDict hnew', hold, h]

theorem sorted_singleton (k : String) (v : Value) : Dict.Sorted [(k, v)] :=
  List.pairwise_singleton _ _

theorem besides_withVariable_congr (h : besides key d = besides key d') :
    besides key (withVariable d var) = besides key (withVariable d' var) := by
  unfold withVariable
  split
  next => exact besides_mergeDict_congr (sorted_singleton _ _) (sorted_singleton _ _) h rfl
  next => exact h

/-- A variable for a key, or for one below it, sets nothing besides. -/
theorem besides_withVariable {ks : List String} (hkeys : keysOf? var = some (key :: ks))
    (d : Dict) : besides key (withVariable d var) = besides key d := by
  rw [withVariable, hkeys]
  split
  next k' ks' v heq _ =>
    cases heq
    funext k
    rw [besides_mergeDict (sorted_singleton _ _), besides, besides]
    split
    next => rfl
    next hne => rw [lookup_cons_eq_ite, if_neg hne, List.lookup_nil, laidOver_none]
  next => rfl

/-- **Without the variables of a name,** which are all for the same key and can be read, the
settings are the same besides. -/
theorem map_besides_ofVariables
    (hvars : ∀ var ∈ env, var.1 = name → Readable var ∧ ∃ ks, keysOf? var = some (key :: ks)) :
    (ofVariables env).map (besides key)
      = (ofVariables (env.filter (·.1 ≠ name))).map (besides key) := by
  rw [ofVariables_eq, ofVariables_eq]
  suffices ∀ d d', besides key d = besides key d' →
      (env.foldlM addVariable d).map (besides key)
        = ((env.filter (·.1 ≠ name)).foldlM addVariable d').map (besides key) from
    this [] [] rfl
  induction env with
  | nil => exact fun d d' h => congrArg Except.ok h
  | cons var env ih =>
    intro d d' h
    obtain ⟨hvar, hrest⟩ := List.forall_mem_cons.mp hvars
    rw [List.foldlM_cons]
    by_cases hname : var.1 = name
    · obtain ⟨hread, ks, hkeys⟩ := hvar hname
      rw [List.filter_cons_of_neg (by simp [hname]), addVariable_of_readable hread]
      exact ih hrest _ _ ((besides_withVariable hkeys d).trans h)
    · rw [List.filter_cons_of_pos (by simp [hname]), List.foldlM_cons]
      by_cases hread : Readable var
      · rw [addVariable_of_readable hread, addVariable_of_readable hread]
        exact ih hrest _ _ (besides_withVariable_congr h)
      · obtain ⟨fault, hfault⟩ := addVariable_of_not_readable hread
        rw [hfault, hfault]
        rfl

/-- A key that is not a section is nothing to the extraction. -/
theorem extract_congr (hkey : key ∉ ["logging", "runtime"]) (hd : Dict.Sorted d)
    (hd' : Dict.Sorted d') (h : besides key d = besides key d') : extract d = extract d' := by
  have hkeys : ["logging", "runtime"].Pairwise (· < ·) := by decide +kernel
  have hskip : ∀ (c : HostConfig) (k : String) (v : Value), k ∉ ["logging", "runtime"] →
      setSection c k v = .ok c := fun c k v hk => setSection_of_notMem hk c v
  rw [extract, extract, foldlM_eq_visits setSection _ hkeys hskip hd,
    foldlM_eq_visits setSection _ hkeys hskip hd']
  refine foldlM_visit_congr (fun k hk => ?_) _
  have hlookup := congrFun h k
  rwa [besides, besides, if_neg (ne_of_mem_of_not_mem hk hkey),
    if_neg (ne_of_mem_of_not_mem hk hkey)] at hlookup

/-- A key that is not a section is nothing to the configuration. -/
theorem loadConfig_congr {s : System} (hkey : key ∉ ["logging", "runtime"])
    (h : (ofVariables env').map (besides key) = (ofVariables s.env).map (besides key))
    (file : Option Path) : loadConfig { s with env := env' } file = loadConfig s file := by
  unfold loadConfig layered
  cases hoverlay : ofVariables s.env with
  | error fault =>
    rw [hoverlay] at h
    have hoverlay' : ofVariables env' = .error fault := map_eq_error_iff.mp h
    simp only [hoverlay']
  | ok overlay =>
    rw [hoverlay] at h
    obtain ⟨overlay', hoverlay', heq⟩ := map_eq_ok_iff.mp h
    -- over the same settings, those of the variables come to the same configuration
    have hover : ∀ base : Dict, Dict.Sorted base →
        extract (mergeDict base overlay') = extract (mergeDict base overlay) := fun base hbase =>
      extract_congr hkey (sorted_mergeDict hbase _) (sorted_mergeDict hbase _)
        (besides_mergeDict_congr (tidy_ofVariables hoverlay').sorted
          (tidy_ofVariables hoverlay).sorted rfl heq)
    have hbuiltin : Dict.Sorted builtinLayer := tidy_builtinLayer.sorted
    have hlayer : ∀ p, fileLayer { s with env := env' } p = fileLayer s p := fun p => rfl
    simp only [hoverlay', hlayer]
    cases file with
    | none => simp only [hover _ hbuiltin]
    | some p =>
      dsimp only
      cases fileLayer s p with
      | error e => rfl
      | ok d => simp only [hover _ (sorted_mergeDict hbuiltin d)]

end Besides

end Settings

/-! ## The file that is named -/

open Settings CommandLine

/-- The variables without the one that stands in for the option. -/
def otherVariables (env : List (Bytes × Bytes)) : List (Bytes × Bytes) :=
  env.filter (·.1 ≠ bytesOf configVariable)

/-- As a setting, the variable is one for a key of its own. -/
theorem keysOf?_configVariable (value : Bytes) :
    keysOf? (bytesOf configVariable, value) = some ["config"] :=
  show keyPath? (Utf8.lossyFrom [] (bytesOf configVariable)) = _ by decide +kernel

/-- The variable for the configuration file has no value that cannot be read. -/
def ReadableConfig (env : List (Bytes × Bytes)) : Prop :=
  ∀ value, (bytesOf configVariable, value) ∈ env →
    ∃ v, valueOf (bytesOf configVariable, value) = .ok v

theorem readableConfig_of_isOk {env : List (Bytes × Bytes)} (h : (ofVariables env).isOk) :
    ReadableConfig env := fun value hvar =>
  readable_of_isOk h _ hvar _ (keysOf?_configVariable value)

theorem map_besides_otherVariables {env : List (Bytes × Bytes)} (hread : ReadableConfig env) :
    (ofVariables env).map (besides "config")
      = (ofVariables (otherVariables env)).map (besides "config") := by
  refine map_besides_ofVariables ?_
  rintro ⟨_, value⟩ hvar rfl
  exact ⟨fun _ _ => hread value hvar, [], keysOf?_configVariable value⟩

theorem lookup_otherVariables {name : Bytes} (hname : name ≠ bytesOf configVariable)
    (env : List (Bytes × Bytes)) : (otherVariables env).lookup name = env.lookup name := by
  induction env with
  | nil => rfl
  | cons var env ih =>
    obtain ⟨key, value⟩ := var
    unfold otherVariables at ih ⊢
    by_cases hkey : key = bytesOf configVariable
    · rw [List.filter_cons_of_neg (by simp [hkey]), ih, List.lookup_cons,
        beq_false_of_ne (hkey ▸ hname)]
    · rw [List.filter_cons_of_pos (by simp [hkey]), List.lookup_cons, List.lookup_cons, ih]

section Named

variable {s : System} {env' : List (Bytes × Bytes)}

/-- No directory is named by the variable. -/
theorem configPath_otherVariables (h : otherVariables env' = otherVariables s.env)
    (cl : CommandLine) : System.configPath { s with env := env' } cl = s.configPath cl := by
  have hvar : ∀ name : String, bytesOf name ≠ bytesOf configVariable →
      System.var? { s with env := env' } name = s.var? name := by
    intro name hname
    rw [System.var?, System.var?, ← lookup_otherVariables hname env', h,
      lookup_otherVariables hname]
  exact System.configPath_congr (hvar _ (by decide)) (hvar _ (by decide)) rfl cl

/-- The log of a configuration says whether its path leads anywhere, and nothing else. -/
theorem logs_configure (cl : CommandLine) (w : World) :
    (worldAfter (configure cl w)).logs = w.logs
      ++ [⟨w.cycle, if w.system.files.exists? w.system.cwd (w.system.configPath cl)
        then .configFileFound (w.system.configPath cl)
        else .configFileMissing (w.system.configPath cl)⟩] := by
  have hlogs := logs_readConfig (w.system.configPath cl) w
  have hget : (get : Act World) w = .ok w w := rfl
  rw [← hlogs]
  unfold configure
  rw [Act.bind_of_ok hget]
  cases hread : readConfig (some (w.system.configPath cl)) w with
  | error stop w₁ => rw [Act.bind_of_error hread]
  | ok c w₁ =>
    rw [Act.bind_of_ok hread]
    cases (cl.override c).validate <;> rfl

/-- **A configuration file that is named silences its variable.** Under two environments that differ
in nothing but the variable, arguments that mention the option are the same command line, what is
logged is the same, and so is the configuration, or what is wrong with it, as long as the variable's
values can be read. That the variable is a setting, too, makes no difference. -/
theorem mentioned_config_silences {args : List Bytes} {cl : CommandLine}
    (hsame : otherVariables env' = otherVariables s.env)
    (htext : ∀ value, System.var? { s with env := env' } configVariable = some value →
      Utf8.WellFormed value)
    (hmentioned : ∃ arg ∈ args, OptionName.config.Mentioned arg)
    (hparse : parse (s.var? configVariable) args = .ok cl) :
    parse (System.var? { s with env := env' } configVariable) args = .ok cl
      ∧ (∀ value, keysOf? (bytesOf configVariable, value) = some ["config"])
      ∧ ∀ w : World, w.system = s →
        (worldAfter (configure cl { w with system := { s with env := env' } })).logs
            = (worldAfter (configure cl w)).logs
          ∧ (ReadableConfig s.env → ReadableConfig env' →
            ended (configure cl { w with system := { s with env := env' } })
              = ended (configure cl w)) := by
  have hpath := configPath_otherVariables hsame cl
  refine ⟨parse_of_mentioned hparse hmentioned htext, keysOf?_configVariable, ?_⟩
  rintro w rfl
  refine ⟨?_, fun hread hread' => ?_⟩
  · rw [logs_configure, logs_configure, hpath]
  · have hoverlay : (ofVariables env').map (besides "config")
        = (ofVariables w.system.env).map (besides "config") := by
      rw [map_besides_otherVariables hread', map_besides_otherVariables hread, hsame]
    have hload := loadConfig_congr (by decide) hoverlay (some (w.system.configPath cl))
    rw [ended_configure, ended_configure, System.configured, System.configured, hpath, hload]

end Named

/-! ### Two environments -/

/-- A variable with a file that would be missing. -/
def elsewhere : List (String × String) :=
  [("NSHOST_CONFIG", "elsewhere.toml"), ("NSHOST_LOGGING__LEVEL", "debug")]

/-- The same variable with text that looks like a section. -/
def disguised : List (String × String) :=
  [("NSHOST_LOGGING__LEVEL", "debug"), ("NSHOST_CONFIG", "\x7bruntime=\x7brepeat=9\x7d\x7d")]

def namedArgs : List Bytes := [bytesOf "run", bytesOf "-chost.toml"]

def namedLine : CommandLine :=
  { command := some (.run none none), options := { config := some "host.toml" } }

theorem mentioned_namedArgs : ∃ arg ∈ namedArgs, OptionName.config.Mentioned arg :=
  ⟨bytesOf "-c" ++ bytesOf "host.toml", by decide, .short (c := 'c') (bytesOf "host.toml") rfl⟩

theorem elsewhere_silenced :
    otherVariables (systemWith fiveCycles disguised).env
        = otherVariables (systemWith fiveCycles elsewhere).env
      ∧ (∀ value, (systemWith fiveCycles disguised).var? configVariable = some value →
        Utf8.WellFormed value)
      ∧ (∃ arg ∈ namedArgs, OptionName.config.Mentioned arg)
      ∧ parse ((systemWith fiveCycles elsewhere).var? configVariable) namedArgs = .ok namedLine
      ∧ parse ((systemWith fiveCycles disguised).var? configVariable) namedArgs = .ok namedLine
      ∧ ReadableConfig (systemWith fiveCycles elsewhere).env
      ∧ ReadableConfig (systemWith fiveCycles disguised).env
      ∧ (ended (configure namedLine (.start (systemWith fiveCycles elsewhere) [] []))).1
        = .ok { runtime := { cycles := 5 }, logging := { level := "debug" } }
      ∧ (ended (configure namedLine (.start (systemWith fiveCycles disguised) [] []))).1
        = .ok { runtime := { cycles := 5 }, logging := { level := "debug" } } := by
  have hsame : otherVariables (systemWith fiveCycles disguised).env
      = otherVariables (systemWith fiveCycles elsewhere).env := by decide +kernel
  have htext : ∀ value, (systemWith fiveCycles disguised).var? configVariable = some value →
      Utf8.WellFormed value := by
    intro value hvalue
    have hvar : (systemWith fiveCycles disguised).var? configVariable
        = some (bytesOf "\x7bruntime=\x7brepeat=9\x7d\x7d") := by decide +kernel
    cases hvar.symm.trans hvalue
    exact ⟨_, rfl⟩
  have hparse : parse ((systemWith fiveCycles elsewhere).var? configVariable) namedArgs
      = .ok namedLine := by decide +kernel
  have hread : ReadableConfig (systemWith fiveCycles elsewhere).env :=
    readableConfig_of_isOk (by decide +kernel)
  have hread' : ReadableConfig (systemWith fiveCycles disguised).env :=
    readableConfig_of_isOk (by decide +kernel)
  have hconfigured : (systemWith fiveCycles elsewhere).configured namedLine
      = .ok { runtime := { cycles := 5 }, logging := { level := "debug" } } := by
    rw [configured_systemWith rfl (by decide +kernel)]
    decide +kernel
  have hend : (ended (configure namedLine (.start (systemWith fiveCycles elsewhere) [] []))).1
      = .ok { runtime := { cycles := 5 }, logging := { level := "debug" } } := by
    rw [ended_configure]
    exact hconfigured
  obtain ⟨hparse', _, hworlds⟩ := mentioned_config_silences hsame htext mentioned_namedArgs hparse
  have hended := (hworlds (.start (systemWith fiveCycles elsewhere) [] []) rfl).2 hread hread'
  exact ⟨hsame, htext, mentioned_namedArgs, hparse, hparse', hread, hread', hend,
    (congrArg Prod.fst hended).trans hend⟩

/-- A value that cannot be read: its only escape stands behind a character of two bytes. -/
def unreadableConfig : List (String × String) := [("NSHOST_CONFIG", "\"é\\n\"")]

/-- **A value that cannot be read is not silenced.** -/
theorem unreadable_not_silenced :
    ¬ ∀ (s : System) (env' : List (Bytes × Bytes)) (args : List Bytes) (cl : CommandLine),
      otherVariables env' = otherVariables s.env →
      (∀ value, System.var? { s with env := env' } configVariable = some value →
        Utf8.WellFormed value) →
      (∃ arg ∈ args, OptionName.config.Mentioned arg) →
      parse (s.var? configVariable) args = .ok cl →
      (ended (configure cl (.start { s with env := env' } [] []))).1
        = (ended (configure cl (.start s [] []))).1 := by
  intro hclaim
  have htext : ∀ value, (systemWith "" unreadableConfig).var? configVariable = some value →
      Utf8.WellFormed value := by
    intro value hvalue
    have hvar : (systemWith "" unreadableConfig).var? configVariable
        = some (bytesOf "\"é\\n\"") := by decide +kernel
    cases hvar.symm.trans hvalue
    exact ⟨_, rfl⟩
  have hsame := hclaim (systemWith "" []) (systemWith "" unreadableConfig).env namedArgs namedLine
    (by decide +kernel) htext mentioned_namedArgs (by decide +kernel)
  have hload : (systemWith "" []).configured namedLine = .ok {} := by
    rw [configured_systemWith rfl (by decide +kernel)]
    decide +kernel
  have hpanic : ∃ text, (systemWith "" unreadableConfig).configured namedLine
      = .error (.panic text) := by
    cases hvars : ofVariables (systemWith "" unreadableConfig).env with
    | error fault => exact ⟨fault.message, System.configured_of_unreadable hvars namedLine⟩
    | ok d =>
      have hunread : (ofVariables (systemWith "" unreadableConfig).env).isOk = false := by
        decide +kernel
      rw [hvars] at hunread
      cases hunread
  obtain ⟨text, hpanic⟩ := hpanic
  rw [ended_configure, ended_configure] at hsame
  cases hpanic.symm.trans (hsame.trans hload)

end ScriptHost
