import ScriptHost.Proofs.ConfigText
import ScriptHost.Settings.Layers

/-!
# Two tables decide a configuration

The tables of a configuration's text, laid over the built-in settings, leave nothing of
those: every field that has a built-in setting is in the tables, and the fields that can
be missing are those that have none. So the extraction finds in each field what the
configuration has there (`extract_tables`).

The extraction is a fold over the keys in their order, and the lemmas follow it key by
key: `setRuntimeField_library` and its likes say what a key does, `foldlM_field` and
`foldlM_givenPath` how the fold goes on.
-/

namespace ScriptHost

namespace Settings

/-! ## From the document -/

/-- The settings of a file that holds a document. -/
theorem readLayer_document {b : Toml.Block} {bs : List Toml.Block} {t : String} {rest : List Char}
    (hgood : ∀ x ∈ b :: bs, x.Good)
    (hnodup : (((b :: bs).map Toml.Block.entry).map Prod.fst).Nodup)
    (ht : t.toList = b.chars ++ Toml.laterBlocks bs ++ rest) (hrest : rest = [] ∨ rest = ['\n'])
    (shown : Path) :
    readLayer shown (bytesOf t)
      = .ok (ofTomlEntries (.file shown) ((b :: bs).map Toml.Block.entry)) := by
  have hdoc := Toml.read?_document hgood hnodup hrest
  rw [← ht] at hdoc
  rw [readLayer, bytesOf, Utf8.decode_encode]
  simp only [hdoc]

/-! Where a dictionary gets a key. -/

theorem put_before {d : Dict} {k key : String} {w v : Value} (h : k ≠ key ∧ key < k) :
    Dict.put ((k, w) :: d) key v = (key, v) :: (k, w) :: d := by
  rw [Dict.put, if_neg h.1, if_pos h.2]

theorem put_behind {d : Dict} {k key : String} {w v : Value} (h : k ≠ key ∧ ¬ key < k) :
    Dict.put ((k, w) :: d) key v = (k, w) :: Dict.put d key v := by
  rw [Dict.put, if_neg h.1, if_neg h.2]

theorem put_self {d : Dict} {key : String} {w v : Value} :
    Dict.put ((key, w) :: d) key v = (key, v) :: d := by
  rw [Dict.put, if_pos rfl]

theorem put_nil {key : String} {v : Value} : Dict.put [] key v = [(key, v)] := rfl

section Tables

variable (source : Source)

/-- A text that a file gives. -/
def given (s : String) : Value := .scalar source (.text s)

/-- The settings of an optional path. -/
def givenPath (key : String) (s : Option String) : Dict :=
  (s.map fun s => (key, given source s)).toList

/-- The settings of the first table, in the order of their keys. -/
def runtimeDict (baseDir library : Option String) (entryScript : String) (cycles : UInt32) : Dict :=
  givenPath source "base_dir" baseDir ++ ("entry_script", given source entryScript)
    :: (givenPath source "library" library
      ++ [("repeat", .scalar source (.signed cycles.toNat))])

/-- The settings of the second. -/
def loggingDict (l : LoggingSection) : Dict :=
  [("format", given source l.format.name), ("level", given source l.level)]

theorem ofTomlEntries_runtimeBlock (baseDir library : Option String) (entryScript : String)
    (cycles : UInt32) :
    ofTomlEntries source (runtimeBlock baseDir library entryScript cycles).entries
      = runtimeDict source baseDir library entryScript cycles := by
  cases baseDir <;> cases library <;>
    simp (disch := decide +kernel) [Toml.Block.entries, runtimeBlock, pathFields, textField,
      numberField, ofTomlEntries, ofToml, put_nil, put_before, put_behind, runtimeDict, givenPath,
      given]

theorem ofTomlEntries_loggingBlock (l : LoggingSection) :
    ofTomlEntries source (loggingBlock l).entries = loggingDict source l := by
  simp (disch := decide +kernel) [Toml.Block.entries, loggingBlock, textField, ofTomlEntries,
    ofToml, put_nil, put_behind, loggingDict, given]

/-- The file decides every setting that is built in. -/
theorem mergeDict_builtinLayer (baseDir library : Option String) (entryScript : String)
    (cycles : UInt32) (l : LoggingSection) :
    mergeDict builtinLayer
        [("logging", .dict source (loggingDict source l)),
          ("runtime", .dict source (runtimeDict source baseDir library entryScript cycles))]
      = [("logging", .dict source (loggingDict source l)),
          ("runtime", .dict source (runtimeDict source baseDir library entryScript cycles))] := by
  cases baseDir <;> cases library <;>
    simp (disch := decide +kernel) [builtinLayer, mergeDict, merge, put_self, put_before,
      put_behind, List.lookup_cons, loggingDict, runtimeDict, givenPath, given]

theorem ofName?_name (f : LogFormat) : LogFormat.ofName? f.name = some f := by
  cases f <;> decide

theorem extractCount_toNat (cycles : UInt32) (keys : List String) :
    extractCount keys (.scalar source (.signed cycles.toNat)) = .ok cycles := by
  have hrange : (0 : Int) ≤ cycles.toNat ∧ (cycles.toNat : Int) < UInt32.size :=
    ⟨Int.natCast_nonneg _, Int.ofNat_lt.mpr cycles.toNat_lt⟩
  unfold extractCount
  dsimp only
  rw [if_pos hrange, Int.toNat_natCast, UInt32.ofNat_toNat]

/-! ## To the configuration -/

section Fields

variable (r : RuntimeSection) (l : LoggingSection) (keys : List String) (s : String)

theorem setRuntimeField_baseDir : setRuntimeField r "base_dir" keys (given source s)
    = .ok { r with baseDir := some (.ofString s) } := by
  rw [setRuntimeField, if_pos rfl]
  rfl

theorem setRuntimeField_library : setRuntimeField r "library" keys (given source s)
    = .ok { r with library := some (.ofString s) } := by
  rw [setRuntimeField, if_neg (by decide), if_pos rfl]
  rfl

theorem setRuntimeField_entryScript : setRuntimeField r "entry_script" keys (given source s)
    = .ok { r with entryScript := .ofString s } := by
  rw [setRuntimeField, if_neg (by decide), if_neg (by decide), if_pos rfl]
  rfl

theorem setRuntimeField_cycles (cycles : UInt32) :
    setRuntimeField r "repeat" keys (.scalar source (.signed cycles.toNat))
      = .ok { r with cycles := cycles } := by
  rw [setRuntimeField, if_neg (by decide), if_neg (by decide), if_neg (by decide), if_pos rfl,
    extractCount_toNat]
  rfl

theorem setLoggingField_level : setLoggingField l "level" keys (given source s)
    = .ok { l with level := s } := by
  rw [setLoggingField, if_pos rfl]
  rfl

theorem setLoggingField_format (f : LogFormat) :
    setLoggingField l "format" keys (given source f.name) = .ok { l with format := f } := by
  rw [setLoggingField, if_neg (by decide), if_pos rfl, given, extractFormat, ofName?_name]
  rfl

end Fields

/-! And one after another. -/

section Fold

variable {α : Type} (set : α → String → List String → Value → Except Problem α)
variable (keys : List String) {a b : α} {key : String}

theorem foldlM_field {v : Value} (h : set a key (keys ++ [key]) v = .ok b) (d : Dict) :
    ((key, v) :: d).foldlM (fun a e => set a e.1 (keys ++ [e.1]) e.2) a
      = d.foldlM (fun a e => set a e.1 (keys ++ [e.1]) e.2) b := by
  rw [List.foldlM_cons, h]
  rfl

theorem foldlM_givenPath {b : Option Path → α} (hnone : b none = a)
    (hsome : ∀ s, set a key (keys ++ [key]) (given source s) = .ok (b (some (.ofString s))))
    (path : Option String) (d : Dict) :
    (givenPath source key path ++ d).foldlM (fun a e => set a e.1 (keys ++ [e.1]) e.2) a
      = d.foldlM (fun a e => set a e.1 (keys ++ [e.1]) e.2) (b (path.map .ofString)) := by
  cases path with
  | none => rw [Option.map_none, hnone]; rfl
  | some s => exact foldlM_field set keys (hsome s) d

end Fold

theorem setSection_logging (c : HostConfig) (l : LoggingSection) :
    setSection c "logging" (.dict source (loggingDict source l))
      = .ok { c with logging := l } := by
  have hfields : extractSection loggingFields "struct LoggingConfig" setLoggingField {} ["logging"]
      (.dict source (loggingDict source l)) = .ok l := by
    rw [extractSection, loggingDict,
      foldlM_field setLoggingField _ (setLoggingField_format source _ _ l.format),
      foldlM_field setLoggingField _ (setLoggingField_level source _ _ l.level)]
    rfl
  rw [setSection, if_pos rfl, hfields]
  rfl

theorem setSection_runtime (c : HostConfig) (baseDir library : Option String)
    (entryScript : String) (cycles : UInt32) :
    setSection c "runtime"
        (.dict source (runtimeDict source baseDir library entryScript cycles))
      = .ok { c with
          runtime := ⟨baseDir.map Path.ofString, library.map Path.ofString,
            Path.ofString entryScript, cycles⟩ } := by
  have hbase := foldlM_givenPath source setRuntimeField ["runtime"]
    (b := fun p => { baseDir := p }) rfl (setRuntimeField_baseDir source {} _) baseDir
  have hlibrary := foldlM_givenPath source setRuntimeField ["runtime"]
    (b := fun p => ⟨baseDir.map .ofString, p, .ofString entryScript, 1⟩) rfl
    (setRuntimeField_library source _ _) library
  have hfields : extractSection runtimeFields "struct RuntimeSection" setRuntimeField {}
      ["runtime"] (.dict source (runtimeDict source baseDir library entryScript cycles))
      = .ok ⟨baseDir.map Path.ofString, library.map Path.ofString,
          Path.ofString entryScript, cycles⟩ := by
    rw [extractSection, runtimeDict, hbase,
      foldlM_field setRuntimeField _ (setRuntimeField_entryScript source _ _ entryScript), hlibrary,
      foldlM_field setRuntimeField _ (setRuntimeField_cycles source _ _ cycles)]
    rfl
  rw [setSection, if_neg (by decide), if_pos rfl, hfields]
  rfl

end Tables

/-- **The two tables decide the configuration.** -/
theorem extract_tables {c : HostConfig} {baseDir library : Option String} {entryScript : String}
    (hbase : c.runtime.baseDir = baseDir.map Path.ofString)
    (hlibrary : c.runtime.library = library.map Path.ofString)
    (hentry : c.runtime.entryScript = Path.ofString entryScript) (source : Source) :
    extract (mergeDict builtinLayer (ofTomlEntries source
      [(runtimeBlock baseDir library entryScript c.runtime.cycles).entry,
        (loggingBlock c.logging).entry])) = .ok c := by
  -- keys are in increasing order, so the second table comes first
  have htables : ofTomlEntries source
      [(runtimeBlock baseDir library entryScript c.runtime.cycles).entry,
        (loggingBlock c.logging).entry]
      = [("logging", .dict source (loggingDict source c.logging)),
          ("runtime",
            .dict source (runtimeDict source baseDir library entryScript c.runtime.cycles))] := by
    simp (disch := decide +kernel) [Toml.Block.entry, ofTomlEntries, ofToml,
      ofTomlEntries_runtimeBlock, ofTomlEntries_loggingBlock, put_nil, put_behind]
  rw [htables, mergeDict_builtinLayer, extract, List.foldlM_cons, setSection_logging]
  show (setSection _ "runtime" _ >>= fun c => pure c) = _
  rw [setSection_runtime, ← hbase, ← hlibrary, ← hentry]
  rfl

end Settings

end ScriptHost
