import ScriptHost.Config.Rendering
import ScriptHost.Proofs.TomlDocuments
import ScriptHost.Proofs.Utf8

/-!
# The text of a configuration is a document

The renderer puts lines together; the reader knows documents of tables. Here the lines
are recognised as two tables, in which each field is of one of two kinds: a string, or a
number (`toList_of_toToml`). That the document can be read (`good_runtimeBlock`,
`good_loggingBlock`) needs nothing of the strings, and of the number only that it has no
more than 32 bits.
-/

namespace ScriptHost

/-! ## Fields -/

/-- A field that holds a string. -/
def textField (key s : String) : Toml.Field :=
  ⟨key, Toml.quoteIn (Toml.formOf s.toList) s.toList, .text s⟩

/-- A field that holds a number. -/
def numberField (key : String) (n : Nat) : Toml.Field :=
  ⟨key, Nat.toDigits 10 n, .integer n⟩

theorem good_textField {key : String} (hbare : Toml.Bare key) (s : String) :
    (textField key s).Good where
  bare := hbare
  reads := by
    have h := Toml.reads_quote s.toList
    rwa [String.ofList_toList] at h
  head := by
    obtain ⟨tail, heq | heq⟩ := Toml.quoteIn_head (Toml.formOf s.toList) s.toList
    · exact ⟨_, tail, heq, by decide⟩
    · exact ⟨_, tail, heq, by decide⟩
  cr := Toml.cr_notMem_quoteIn s.toList

theorem good_numberField {key : String} (hbare : Toml.Bare key) {n : Nat}
    (hn : (n : Int) < Text.signedBound) : (numberField key n).Good where
  bare := hbare
  reads := Toml.reads_number hn
  head := by
    obtain ⟨d, ds, hds, hd, _⟩ := Toml.toDigits_cons n
    exact ⟨d, ds, hds, Toml.isBlank_of_isDigit hd⟩
  cr := fun hmem => absurd (Toml.isDigit_of_mem_toDigits hmem) (by decide)

theorem toList_tomlLine (key value : String) :
    (tomlLine key value).toList = key.toList ++ ' ' :: '=' :: ' ' :: (value.toList ++ ['\n']) := by
  simp [tomlLine]

theorem line_textField (key s : String) :
    (textField key s).line = (tomlLine key (Toml.quote s)).toList := by
  rw [toList_tomlLine, Toml.quote, String.toList_ofList]
  rfl

theorem line_numberField (key : String) (n : Nat) :
    (numberField key n).line = (tomlLine key (toString n)).toList := by
  rw [toList_tomlLine]
  simp [numberField, Toml.Field.line]

/-! ## Tables -/

/-- The fields of an optional path. -/
def pathFields (key : String) (s : Option String) : List Toml.Field :=
  (s.map (textField key)).toList

/-- The table of what is hosted, with the texts of its paths. -/
def runtimeBlock (baseDir library : Option String) (entryScript : String) (cycles : UInt32) :
    Toml.Block where
  name := "runtime"
  fields := pathFields "base_dir" baseDir ++ pathFields "library" library
    ++ [textField "entry_script" entryScript, numberField "repeat" cycles.toNat]

/-- The table of what is logged. -/
def loggingBlock (l : LoggingSection) : Toml.Block where
  name := "logging"
  fields := [textField "level" l.level, textField "format" l.format.name]

@[simp] theorem name_runtimeBlock (baseDir library : Option String) (entryScript : String)
    (cycles : UInt32) : (runtimeBlock baseDir library entryScript cycles).name = "runtime" := rfl

@[simp] theorem name_loggingBlock (l : LoggingSection) : (loggingBlock l).name = "logging" := rfl

/-! ## The text -/

/-- A path is text if and only if it is the path of a text. -/
theorem text?_eq_some_iff {p : Path} {s : String} : p.text? = some s ↔ p = Path.ofString s := by
  rw [Path.text?, Utf8.text?_eq_some_iff, Path.ofString]
  constructor
  · intro h
    rw [h]
  · rintro rfl
    rfl

theorem tomlPathLine_eq_some {key line : String} {p : Option Path}
    (h : tomlPathLine key p = some line) :
    ∃ s : Option String, p = s.map Path.ofString
      ∧ line.toList = (pathFields key s).flatMap Toml.Field.line := by
  cases p with
  | none =>
    cases h
    exact ⟨none, rfl, rfl⟩
  | some p =>
    obtain ⟨s, hs, rfl⟩ := Option.map_eq_some_iff.mp h
    refine ⟨some s, by rw [text?_eq_some_iff.mp hs]; rfl, ?_⟩
    simp [pathFields, line_textField]

theorem chars_runtimeBlock (baseDir library : Option String) (entryScript : String)
    (cycles : UInt32) :
    (runtimeBlock baseDir library entryScript cycles).chars
      = "[runtime]\n".toList ++ ((pathFields "base_dir" baseDir).flatMap Toml.Field.line
        ++ ((pathFields "library" library).flatMap Toml.Field.line
          ++ ((tomlLine "entry_script" (Toml.quote entryScript)).toList
            ++ (tomlLine "repeat" (toString cycles.toNat)).toList))) := by
  have hheader : Toml.headerLine "runtime" = "[runtime]\n".toList := by decide
  simp only [Toml.Block.chars, runtimeBlock, hheader, List.flatMap_append, List.flatMap_cons,
    List.flatMap_nil, List.append_nil, line_textField, line_numberField, List.append_assoc]

theorem laterBlocks_loggingBlock (l : LoggingSection) :
    Toml.laterBlocks [loggingBlock l]
      = "\n[logging]\n".toList ++ ((tomlLine "level" (Toml.quote l.level)).toList
        ++ (tomlLine "format" (Toml.quote l.format.name)).toList) := by
  have hheader : '\n' :: Toml.headerLine "logging" = "\n[logging]\n".toList := by decide
  simp only [Toml.laterBlocks, Toml.Block.chars, loggingBlock, ← hheader, List.flatMap_cons,
    List.flatMap_nil, List.append_nil, line_textField, List.cons_append]

/-- The text of a configuration is a document of two tables. -/
theorem toList_of_toToml {c : HostConfig} {t : String} (h : c.toToml = .ok t) :
    ∃ baseDir library entryScript, c.runtime.baseDir = baseDir.map Path.ofString
      ∧ c.runtime.library = library.map Path.ofString
      ∧ c.runtime.entryScript = Path.ofString entryScript
      ∧ t.toList = (runtimeBlock baseDir library entryScript c.runtime.cycles).chars
          ++ Toml.laterBlocks [loggingBlock c.logging] := by
  unfold HostConfig.toToml at h
  split at h
  next baseLine libraryLine entryLine hbase hlibrary hentry =>
    cases h
    obtain ⟨baseDir, hbaseDir, hbaseLine⟩ := tomlPathLine_eq_some hbase
    obtain ⟨library, hlibraryDir, hlibraryLine⟩ := tomlPathLine_eq_some hlibrary
    obtain ⟨entry, hentryScript, hentryLine⟩ := tomlPathLine_eq_some hentry
    cases entry with
    | none => cases hentryScript
    | some entryScript =>
      refine ⟨baseDir, library, entryScript, hbaseDir, hlibraryDir,
        Option.some.inj hentryScript, ?_⟩
      have hentryChars : entryLine.toList
          = (tomlLine "entry_script" (Toml.quote entryScript)).toList := by
        rw [hentryLine, pathFields, Option.map_some, Option.toList_some, List.flatMap_singleton,
          line_textField]
      simp only [chars_runtimeBlock, laterBlocks_loggingBlock, String.toList_append, hbaseLine,
        hlibraryLine, hentryChars, List.append_assoc]
  next => cases h

theorem good_pathFields {key : String} (hbare : Toml.Bare key) (s : Option String) :
    ∀ f ∈ pathFields key s, f.Good := by
  cases s with
  | none => intro f hf; cases hf
  | some s =>
    intro f hf
    rw [List.mem_singleton.mp hf]
    exact good_textField hbare s

theorem good_runtimeBlock (baseDir library : Option String) (entryScript : String)
    (cycles : UInt32) : (runtimeBlock baseDir library entryScript cycles).Good where
  bare := show Toml.Bare "runtime" by decide +kernel
  fields := by
    intro f hf
    rcases List.mem_append.mp hf with hf | hf
    · rcases List.mem_append.mp hf with hf | hf
      · exact good_pathFields (by decide +kernel) baseDir f hf
      · exact good_pathFields (by decide +kernel) library f hf
    · rcases List.mem_cons.mp hf with rfl | hf
      · exact good_textField (by decide +kernel) entryScript
      · rw [List.mem_singleton.mp hf]
        refine good_numberField (by decide +kernel) ?_
        exact Int.lt_of_lt_of_le (Int.ofNat_lt.mpr cycles.toNat_lt) (by decide)
  nodup := by
    cases baseDir <;> cases library <;>
      simp [Toml.Block.entries, runtimeBlock, pathFields, textField, numberField]

theorem good_loggingBlock (l : LoggingSection) : (loggingBlock l).Good where
  bare := show Toml.Bare "logging" by decide +kernel
  fields := by
    intro f hf
    rcases List.mem_cons.mp hf with rfl | hf
    · exact good_textField (by decide +kernel) l.level
    · rw [List.mem_singleton.mp hf]
      exact good_textField (by decide +kernel) l.format.name
  nodup := by simp [Toml.Block.entries, loggingBlock, textField]

end ScriptHost
