import Mathlib
import ScriptHost.Commands
import ScriptHost.Proofs.Cycle
import ScriptHost.Proofs.SettingsTables

/-!
# A configuration comes back from its file

What is printed of a configuration can be put into a file, and a program that reads the
file has the same configuration again. There are three steps. The text is a document of
two tables (`toList_of_toToml`), so it is read as those two (`readLayer_document`). Laid
over the built-in settings they decide every field (`extract_tables`). What is left is
the check, which is the same for both.

Strings are unrestricted here, the paths among them too: a path that is not text cannot
be written at all, and any that can be written is read back byte for byte.
-/

namespace ScriptHost

/-! ## The layers -/

namespace Settings

/-- No variable is a setting: none has the prefix with keys behind it. -/
def Unset (env : List (Bytes × Bytes)) : Prop :=
  ∀ var ∈ env, keyPath? (Utf8.lossyFrom [] var.1) = none

theorem ofVariables_of_unset {env : List (Bytes × Bytes)} (h : Unset env) :
    ofVariables env = .ok [] := by
  unfold ofVariables
  induction env with
  | nil => rfl
  | cons var env ih =>
    rw [List.foldlM_cons, h var List.mem_cons_self]
    exact ih fun v hv => h v (List.mem_cons_of_mem _ hv)

/-- A path leads to a file with the given content, in the working directory or above it. -/
def Found (s : System) (p : Path) (content : Bytes) : Prop :=
  ∃ found, findFile? s p = some found ∧ s.files.read s.cwd found = .ok content

/-- The content of a file that is found is read. -/
theorem fileLayer_of_found {s : System} {p : Path} {content : Bytes} (h : Found s p content) :
    ∃ shown, fileLayer s p = readLayer shown content := by
  obtain ⟨found, hfind, hcontent⟩ := h
  rw [fileLayer, hfind]
  simp only [hcontent]
  exact ⟨_, rfl⟩

/-- What is loaded from a file whose settings, over the built-in ones, are a configuration. -/
theorem loadConfig_of_found {s : System} {p : Path} {content : Bytes} {d : Source → Dict}
    {c : HostConfig} (henv : Unset s.env) (hfound : Found s p content)
    (hread : ∀ shown, readLayer shown content = .ok (d (.file shown)))
    (hextract : ∀ source, extract (mergeDict builtinLayer (d source)) = .ok c) :
    loadConfig s (some p) = c.validate.map fun _ => c := by
  obtain ⟨shown, hlayer⟩ := fileLayer_of_found hfound
  rw [hread] at hlayer
  have hlayered : layered s (some p) = .ok (mergeDict builtinLayer (d (.file shown))) := by
    rw [layered, ofVariables_of_unset henv]
    simp only [hlayer, mergeDict]
  rw [loadConfig, hlayered]
  simp only [hextract]

end Settings

/-! ## The round trip -/

namespace HostConfig

/-- Every path that is set is text. -/
structure Textual (c : HostConfig) : Prop where
  baseDir : ∀ p, c.runtime.baseDir = some p → Utf8.WellFormed p.bytes
  library : ∀ p, c.runtime.library = some p → Utf8.WellFormed p.bytes
  entryScript : Utf8.WellFormed c.runtime.entryScript.bytes

/-- What is printed of a configuration: its text, or the answer of the command that shows it. -/
def Printed (c : HostConfig) (t : String) : Prop := c.toToml = .ok t ∨ showConfig c = .ok t

variable {c : HostConfig} {t : String}

theorem isSome_tomlPathLine {key : String} {p : Option Path} :
    (tomlPathLine key p).isSome ↔ ∀ q, p = some q → Utf8.WellFormed q.bytes := by
  cases p with
  | none => exact ⟨fun _ _ h => (Option.some_ne_none _ h.symm).elim, fun _ => rfl⟩
  | some p =>
    rw [tomlPathLine, Option.isSome_map, Path.text?, Utf8.isSome_text?_iff]
    constructor
    · rintro h _ ⟨⟩
      exact h
    · exact fun h => h p rfl

/-- A configuration can be written if and only if its paths are text. -/
theorem toToml_ok_iff : (∃ t, c.toToml = .ok t) ↔ c.Textual := by
  have hlines : c.Textual ↔ (tomlPathLine "base_dir" c.runtime.baseDir).isSome
      ∧ (tomlPathLine "library" c.runtime.library).isSome
      ∧ (tomlPathLine "entry_script" (some c.runtime.entryScript)).isSome := by
    simp only [isSome_tomlPathLine]
    constructor
    · intro h
      exact ⟨h.baseDir, h.library, fun _ hq => Option.some.inj hq ▸ h.entryScript⟩
    · rintro ⟨hbase, hlibrary, hentry⟩
      exact ⟨hbase, hlibrary, hentry _ rfl⟩
  rw [hlines, toToml]
  generalize tomlPathLine "base_dir" c.runtime.baseDir = baseLine
  generalize tomlPathLine "library" c.runtime.library = libraryLine
  generalize tomlPathLine "entry_script" (some c.runtime.entryScript) = entryLine
  cases baseLine <;> cases libraryLine <;> cases entryLine <;> simp

/-- What is printed is the text, with a line end behind it if a command has printed it. -/
theorem Printed.eq_append (h : c.Printed t) :
    ∃ text rest, c.toToml = .ok text ∧ t.toList = text.toList ++ rest
      ∧ (rest = [] ∨ rest = ['\n']) := by
  rcases h with h | h
  · exact ⟨t, [], h, (List.append_nil _).symm, Or.inl rfl⟩
  · rw [showConfig] at h
    cases htext : c.toToml with
    | error e => rw [htext] at h; cases h
    | ok text =>
      rw [htext] at h
      cases h
      exact ⟨text, ['\n'], rfl, String.toList_append, Or.inr rfl⟩

/-- The rules decide whether a configuration that can be written is valid. -/
theorem Textual.validate_eq (h : c.Textual) :
    c.validate = if c.faults = [] then .ok () else .error (.failure (faultReport c.faults)) := by
  -- a report that quotes the entry script can do so, and nothing panics
  have htext : c.runtime.entryScript.text? ≠ none :=
    Option.isSome_iff_ne_none.mp (Utf8.isSome_text?_iff.mpr h.entryScript)
  rw [validate, if_neg fun hquote => htext hquote.2]
  cases c.faults with
  | nil => rfl
  | cons f fs => rfl

/-- What is loaded from a file that holds what was printed. -/
theorem Printed.loadConfig_eq (h : c.Printed t) {s : System} {p : Path}
    (henv : Settings.Unset s.env) (hfound : Settings.Found s p (bytesOf t)) :
    Settings.loadConfig s (some p) = c.validate.map fun _ => c := by
  obtain ⟨text, rest, htext, hrest, hend⟩ := h.eq_append
  obtain ⟨baseDir, library, entryScript, hbase, hlibrary, hentry, hchars⟩ :=
    toList_of_toToml htext
  rw [hchars] at hrest
  -- the document decides the settings, and they decide the configuration
  refine Settings.loadConfig_of_found henv hfound
    (fun shown => Settings.readLayer_document ?_ ?_ hrest hend shown)
    (Settings.extract_tables hbase hlibrary hentry)
  · intro b hb
    rcases List.mem_cons.mp hb with rfl | hb
    · exact good_runtimeBlock baseDir library entryScript c.runtime.cycles
    · rw [List.mem_singleton.mp hb]
      exact good_loggingBlock c.logging
  · simp [Toml.Block.entry]

/-- **A configuration can be written if its paths are text, and then it comes back.** Loading what
was printed gives the configuration itself if that is valid, and otherwise the report of exactly
the rules that it breaks. -/
theorem printed_roundTrip (c : HostConfig) :
    ((∃ t, c.toToml = .ok t) ↔ c.Textual)
      ∧ ∀ t, c.Printed t → ∀ s p, Settings.Unset s.env → Settings.Found s p (bytesOf t) →
        (c.validate = .ok () → Settings.loadConfig s (some p) = .ok c)
        ∧ (c.validate ≠ .ok () → c.faults ≠ []
            ∧ c.validate = .error (.failure (faultReport c.faults))
            ∧ Settings.loadConfig s (some p) = .error (.failure (faultReport c.faults))) := by
  refine ⟨toToml_ok_iff, fun t hprinted s p henv hfound => ?_⟩
  obtain ⟨text, _, htext, _⟩ := hprinted.eq_append
  have hvalidate := (toToml_ok_iff.mp ⟨text, htext⟩).validate_eq
  rw [hprinted.loadConfig_eq henv hfound]
  constructor
  · intro hvalid
    rw [hvalid]
    rfl
  · intro hinvalid
    have hfaults : c.faults ≠ [] := by
      intro hnil
      rw [if_pos hnil] at hvalidate
      exact hinvalid hvalidate
    rw [if_neg hfaults] at hvalidate
    rw [hvalidate]
    exact ⟨hfaults, rfl, rfl⟩

end HostConfig

/-- A configuration with quotes, backslashes and a line end in its strings. -/
def crookedConfig (cycles : UInt32) : HostConfig where
  runtime := { baseDir := some (.ofString "/it's\\"), cycles := cycles }
  logging := { level := "a \"b\"\n", format := .json }

/-- The text of the crooked configuration. -/
def crookedText (cycles : String) : String :=
  "[runtime]\nbase_dir = '''/it's\\'''\nentry_script = \"App/main.js\"\nrepeat = " ++ cycles
    ++ "\n\n[logging]\nlevel = \"\"\"\na \"b\"\n\"\"\"\nformat = \"json\"\n"

theorem printed_crookedConfig {cycles : UInt32} {digits : String}
    (h : (crookedConfig cycles).toToml.toOption = some (crookedText digits)) :
    (crookedConfig cycles).Printed (crookedText digits) := by
  left
  cases htoml : (crookedConfig cycles).toToml with
  | error e => rw [htoml] at h; cases h
  | ok t => rw [htoml] at h; exact congrArg Except.ok (Option.some.inj h)

/-- A file above the working directory, and variables that are no settings. -/
def systemAround (content : Bytes) : System :=
  { smallSystem none with
    files := ⟨[([bytesOf "app"], .directory), ([bytesOf "app", bytesOf "log"], .directory),
      ([bytesOf "app", bytesOf "host.toml"], .file content)]⟩
    cwd := [bytesOf "app", bytesOf "log"]
    env := [(bytesOf "HOME", bytesOf "/root"), (bytesOf "NSHOST", bytesOf "1")] }

theorem unset_systemAround (content : Bytes) : Settings.Unset (systemAround content).env := by
  intro var hvar
  have hnames : ∀ name ∈ [bytesOf "HOME", bytesOf "NSHOST"],
      Settings.keyPath? (Utf8.lossyFrom [] name) = none := by decide +kernel
  exact hnames var.1 (List.mem_map_of_mem hvar)

theorem found_systemAround (content : Bytes) :
    Settings.Found (systemAround content) (.ofString "host.toml") content :=
  ⟨.ofString "/app/host.toml", by cbv, by cbv⟩

theorem crookedConfig_roundTrip :
    Settings.loadConfig (systemAround (bytesOf (crookedText "3"))) (some (.ofString "host.toml"))
        = .ok (crookedConfig 3)
      ∧ Settings.loadConfig (systemAround (bytesOf (crookedText "0")))
          (some (.ofString "host.toml"))
        = .error (.failure (.config "runtime.repeat: range")) := by
  have hvalid : (crookedConfig 3).validate = .ok () := by rfl
  have hinvalid : (crookedConfig 0).validate ≠ .ok () := by intro h; cases h
  constructor
  · exact (((crookedConfig 3).printed_roundTrip.2 _ (printed_crookedConfig (by decide +kernel)) _ _
      (unset_systemAround _) (found_systemAround _)).1 hvalid)
  · exact (((crookedConfig 0).printed_roundTrip.2 _ (printed_crookedConfig (by decide +kernel)) _ _
      (unset_systemAround _) (found_systemAround _)).2 hinvalid).2.2

end ScriptHost
