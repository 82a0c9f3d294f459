import ScriptHost.Proofs.Dictionaries

/-!
# Six fields decide a configuration

A configuration has six fields, and each of them has its place in the settings: a key in
a section. What settings have in these six places is all that the extraction looks at,
as long as the sections are dictionaries (`extract_eq_extractFields`), and it looks at
each of them by itself: the extraction returns a configuration whose fields have what
the places spell (`extracted_of_extractFields`), and there is one if every place can be read
(`exists_extractFields`).

Where settings are laid over each other, so are the places (`at?_mergeDict`), and what
can be read is never mixed from two layers (`laidOver_of_read`).
-/

namespace ScriptHost

/-- The fields of a configuration, in the order in which the settings have them. -/
inductive Field where
  | format
  | level
  | baseDir
  | entryScript
  | library
  | cycles
  deriving DecidableEq

/-- What a field can have. Only an optional path can be missing. -/
inductive Content where
  | format (f : LogFormat)
  | text (s : String)
  | path (p : Option Path)
  | count (n : UInt32)
  deriving DecidableEq

namespace Field

def all : List Field := [.format, .level, .baseDir, .entryScript, .library, .cycles]

def sectionName : Field → String
  | .format | .level => "logging"
  | .baseDir | .entryScript | .library | .cycles => "runtime"

def key : Field → String
  | .format => "format"
  | .level => "level"
  | .baseDir => "base_dir"
  | .entryScript => "entry_script"
  | .library => "library"
  | .cycles => "repeat"

def get : Field → HostConfig → Content
  | .format, c => .format c.logging.format
  | .level, c => .text c.logging.level
  | .baseDir, c => .path c.runtime.baseDir
  | .entryScript, c => .path (some c.runtime.entryScript)
  | .library, c => .path c.runtime.library
  | .cycles, c => .count c.runtime.cycles

/-- A configuration with another content of a field, if it is of its type. -/
def put (c : HostConfig) : Field → Content → HostConfig
  | .format, .format m => { c with logging := { c.logging with format := m } }
  | .level, .text s => { c with logging := { c.logging with level := s } }
  | .baseDir, .path p => { c with runtime := { c.runtime with baseDir := p } }
  | .entryScript, .path (some p) => { c with runtime := { c.runtime with entryScript := p } }
  | .library, .path p => { c with runtime := { c.runtime with library := p } }
  | .cycles, .count n => { c with runtime := { c.runtime with cycles := n } }
  | _, _ => c

theorem get_put_of_ne {f g : Field} (h : g ≠ f) (c : HostConfig) (x : Content) :
    g.get (put c f x) = g.get c := by
  unfold put
  split <;> cases g <;> first | rfl | exact absurd rfl h

theorem mem_all (f : Field) : f ∈ all := by cases f <;> decide

theorem nodup_all : all.Nodup := by decide

/-- **A configuration is its six fields.** -/
theorem ext {c c' : HostConfig} (h : ∀ f : Field, f.get c = f.get c') : c = c' := by
  obtain ⟨⟨b, l, e, n⟩, ⟨v, m⟩⟩ := c
  obtain ⟨⟨b', l', e', n'⟩, ⟨v', m'⟩⟩ := c'
  have hm := h .format
  have hv := h .level
  have hb := h .baseDir
  have he := h .entryScript
  have hl := h .library
  have hn := h .cycles
  simp only [get, Content.format.injEq, Content.text.injEq, Content.path.injEq, Content.count.injEq,
    Option.some.injEq] at hm hv hb he hl hn
  rw [hm, hv, hb, he, hl, hn]

end Field

namespace Settings

/-! ## Reading a value -/

/-- The text that a value spells: a text, or a single character. -/
def Value.text? : Value → Option String
  | .scalar _ (.text s) => some s
  | .scalar _ (.character c) => some (String.singleton c)
  | _ => none

def Scalar.integer? : Scalar → Option Int
  | .signed n => some n
  | .unsigned n => some n
  | _ => none

/-- The count within 32 bits that a value spells. -/
def Value.count? : Value → Option UInt32
  | .scalar _ x => x.integer?.bind fun n =>
    if 0 ≤ n ∧ n < UInt32.size then some (UInt32.ofNat n.toNat) else none
  | _ => none

def Value.format? : Value → Option LogFormat
  | .scalar _ (.text name) => LogFormat.ofName? name
  | _ => none

/-- What a value spells for a field, if it has the type of the field. -/
def read : Field → Value → Option Content
  | .format, v => v.format?.map .format
  | .level, v => v.text?.map .text
  | .baseDir, v | .entryScript, v | .library, v => v.text?.map fun s => .path (some (.ofString s))
  | .cycles, v => v.count?.map .count

variable {f : Field} {v w : Value} {x : Content} {keys : List String}

/-- What can be read stands for itself, whatever it is laid over. -/
theorem merge_of_read (h : read f v = some x) (w : Value) : merge w v = v := by
  rcases merge_cases w v with heq | ⟨_, _, _, _, _, rfl, _⟩
  · exact heq
  · cases f <;> cases h

theorem laidOver_of_read (h : read f v = some x) (w : Option Value) :
    laidOver w (some v) = some v := by
  cases w with
  | none => rfl
  | some w => rw [laidOver, merge_of_read h]

/-- What can be read of a merged value is what the newer layer has. -/
theorem eq_of_read_laidOver {w : Option Value} {y : Value} (hy : laidOver w (some v) = some y)
    (h : read f y = some x) : y = v := by
  cases w with
  | none => exact (Option.some.inj hy).symm
  | some w =>
    rw [laidOver, Option.some.injEq] at hy
    rcases merge_cases w v with heq | ⟨_, _, _, _, _, _, heq⟩
    · rw [← hy, heq]
    · rw [← hy, heq] at h
      cases f <;> cases h

/-! The readers of the extraction, apart from what they report. -/

theorem toOption_eq_some_iff {ε α : Type} {y : Except ε α} {a : α} :
    y.toOption = some a ↔ y = .ok a := by
  cases y with
  | error e => exact ⟨nofun, nofun⟩
  | ok b => exact ⟨fun h => congrArg _ (Option.some.inj h), fun h => congrArg _ (Except.ok.inj h)⟩

theorem toOption_map {ε α β : Type} (y : Except ε α) (g : α → β) :
    (y.map g).toOption = y.toOption.map g := by
  cases y <;> rfl

theorem toOption_extractText (expected : String) (keys : List String) (v : Value) :
    (extractText expected keys v).toOption = v.text? := by
  cases v with
  | scalar _ y => cases y <;> rfl
  | _ => rfl

theorem toOption_extractPath (keys : List String) (v : Value) :
    (extractPath keys v).toOption = v.text?.map Path.ofString := by
  rw [extractPath, toOption_map, toOption_extractText]

theorem toOption_extractCount (keys : List String) (v : Value) :
    (extractCount keys v).toOption = v.count? := by
  cases v with
  | scalar _ y =>
    cases y with
    | signed n =>
      rw [Value.count?, Scalar.integer?, Option.bind_some]
      unfold extractCount
      by_cases h : 0 ≤ n ∧ n < UInt32.size <;> simp only [h] <;> rfl
    | unsigned n =>
      rw [Value.count?, Scalar.integer?, Option.bind_some]
      unfold extractCount
      by_cases h : 0 ≤ (n : Int) ∧ (n : Int) < UInt32.size <;> simp only [h] <;> rfl
    | _ => rfl
  | _ => rfl

theorem toOption_extractFormat (keys : List String) (v : Value) :
    (extractFormat keys v).toOption = v.format? := by
  cases v with
  | scalar _ y =>
    cases y with
    | text name => simp only [extractFormat, Value.format?]; cases LogFormat.ofName? name <;> rfl
    | _ => rfl
  | list => rfl
  | dict _ entries =>
    cases entries with
    | nil => rfl
    | cons e rest => simp only [extractFormat]; cases LogFormat.ofName? e.1 <;> rfl

/-! ## Extracting a field -/

/-- A configuration with a field from a value. -/
def setField (c : HostConfig) (f : Field) (v : Value) : Except Problem HostConfig :=
  match f with
  | .format | .level =>
    (setLoggingField c.logging f.key [f.sectionName, f.key] v).map fun l => { c with logging := l }
  | .baseDir | .entryScript | .library | .cycles =>
    (setRuntimeField c.runtime f.key [f.sectionName, f.key] v).map fun r => { c with runtime := r }

variable {c c' : HostConfig}

theorem get_put_self (h : read f v = some x) (c : HostConfig) : f.get (Field.put c f x) = x := by
  cases f <;> obtain ⟨_, _, rfl⟩ := Option.map_eq_some_iff.mp h <;> rfl

theorem toOption_setField (c : HostConfig) (f : Field) (v : Value) :
    (setField c f v).toOption = (read f v).map (Field.put c f) := by
  cases f <;>
    simp only [setField, Field.key, setLoggingField, setRuntimeField, String.reduceEq, if_true,
      if_false, toOption_map, toOption_extractText, toOption_extractPath, toOption_extractCount,
      toOption_extractFormat, read, Option.map_map] <;>
    rfl

/-- **A field is extracted** by reading its value, and the other fields stay as they are. -/
theorem setField_eq_ok_iff :
    setField c f v = .ok c' ↔ read f v = some (f.get c') ∧ ∀ g, g ≠ f → g.get c' = g.get c := by
  rw [← toOption_eq_some_iff, toOption_setField]
  cases hread : read f v with
  | none => exact ⟨nofun, fun h => nomatch h.1⟩
  | some x =>
    simp only [Option.map_some, Option.some.injEq]
    constructor
    · rintro rfl
      exact ⟨(get_put_self hread c).symm, fun g h => Field.get_put_of_ne h c x⟩
    · rintro ⟨hf, hg⟩
      refine Field.ext fun g => ?_
      by_cases h : g = f
      · rw [h, get_put_self hread, hf]
      · rw [Field.get_put_of_ne h, hg g h]

/-- What the extraction does about a field, with what is found in its place. -/
def visitField (found : Field → Option Value) (c : HostConfig) (f : Field) :
    Except Problem HostConfig :=
  match found f with
  | some v => setField c f v
  | none => .ok c

/-- The configuration of what is found in the place of each field. -/
def extractFields (found : Field → Option Value) : Except Problem HostConfig :=
  Field.all.foldlM (visitField found) {}

/-- A field has what its place spells, or what it had before if nothing is there. -/
def Extracted (found : Field → Option Value) (c₀ c : HostConfig) (f : Field) : Prop :=
  match found f with
  | some v => read f v = some (f.get c)
  | none => f.get c = f.get c₀

theorem extracted_of_foldlM {found : Field → Option Value} {fs : List Field} {c₀ c : HostConfig}
    (hfs : fs.Nodup) (h : fs.foldlM (visitField found) c₀ = .ok c) :
    (∀ f ∈ fs, Extracted found c₀ c f) ∧ ∀ f, f ∉ fs → f.get c = f.get c₀ := by
  induction fs generalizing c₀ with
  | nil => cases h; exact ⟨fun _ hf => absurd hf List.not_mem_nil, fun _ _ => rfl⟩
  | cons f fs ih =>
    obtain ⟨hf, hfs⟩ := List.nodup_cons.mp hfs
    rw [List.foldlM_cons, visitField] at h
    obtain ⟨c₁, hfirst, hothers, hrest⟩ : ∃ c₁, Extracted found c₀ c₁ f
        ∧ (∀ g, g ≠ f → g.get c₁ = g.get c₀) ∧ fs.foldlM (visitField found) c₁ = .ok c := by
      cases hfound : found f with
      | none =>
        rw [hfound] at h
        exact ⟨c₀, by rw [Extracted, hfound], fun _ _ => rfl, h⟩
      | some v =>
        rw [hfound] at h
        cases hset : setField c₀ f v with
        | error e => simp only [hset] at h; cases h
        | ok c₁ =>
          simp only [hset] at h
          obtain ⟨hread, hothers⟩ := setField_eq_ok_iff.mp hset
          exact ⟨c₁, by rw [Extracted, hfound]; exact hread, hothers, h⟩
    obtain ⟨hin, hout⟩ := ih hfs hrest
    constructor
    · intro g hg
      rcases List.mem_cons.mp hg with rfl | hg
      · rw [Extracted] at hfirst ⊢
        rwa [hout g hf]
      · have hne : g ≠ f := ne_of_mem_of_not_mem hg hf
        have := hin g hg
        rw [Extracted] at this ⊢
        rwa [hothers g hne] at this
    · intro g hg
      rw [List.mem_cons, not_or] at hg
      rw [hout g hg.2, hothers g hg.1]

/-- **The configuration of some places** has in every field what its place spells, or what is
built in. -/
theorem extracted_of_extractFields {found : Field → Option Value} {c : HostConfig}
    (h : extractFields found = .ok c) (f : Field) : Extracted found {} c f :=
  (extracted_of_foldlM Field.nodup_all h).1 f (Field.mem_all f)

theorem exists_extractFields {found : Field → Option Value}
    (h : ∀ f v, found f = some v → (read f v).isSome) : ∃ c, extractFields found = .ok c := by
  suffices ∀ (fs : List Field) c₀, ∃ c, fs.foldlM (visitField found) c₀ = .ok c from this _ _
  intro fs
  induction fs with
  | nil => exact fun c₀ => ⟨c₀, rfl⟩
  | cons f fs ih =>
    intro c₀
    rw [List.foldlM_cons, visitField]
    cases hfound : found f with
    | none => exact ih c₀
    | some v =>
      obtain ⟨x, hx⟩ := Option.isSome_iff_exists.mp (h f v hfound)
      have hset : setField c₀ f v = .ok (Field.put c₀ f x) := by
        rw [← toOption_eq_some_iff, toOption_setField, hx, Option.map_some]
      simp only [hset]
      exact ih _

/-! ## The places in a dictionary -/

/-- What a dictionary has in the place of a field. -/
def Dict.at? (d : Dict) (f : Field) : Option Value :=
  match d.lookup f.sectionName with
  | some (.dict _ entries) => entries.lookup f.key
  | _ => none

/-- The section of a field is a dictionary, or missing. -/
def SectionFits (d : Dict) (f : Field) : Prop :=
  ∀ v, d.lookup f.sectionName = some v → ∃ source entries, v = .dict source entries

instance (d : Dict) (f : Field) : Decidable (SectionFits d f) :=
  match h : d.lookup f.sectionName with
  | none => .isTrue fun v hv => by rw [h] at hv; cases hv
  | some (.dict source entries) => .isTrue fun v hv => ⟨source, entries, by
      rw [h] at hv; exact (Option.some.inj hv).symm⟩
  | some (.scalar _ _) => .isFalse fun hfits => by obtain ⟨_, _, hv⟩ := hfits _ h; cases hv
  | some (.list _ _) => .isFalse fun hfits => by obtain ⟨_, _, hv⟩ := hfits _ h; cases hv

def Sectioned (d : Dict) : Prop := ∀ f, SectionFits d f

instance (d : Dict) : Decidable (Sectioned d) :=
  decidable_of_iff (∀ f ∈ Field.all, SectionFits d f)
    ⟨fun h f => h f (Field.mem_all f), fun h f _ => h f⟩

/-- What a merged dictionary has in the place of a field. A section that is no dictionary takes the
place of the older one, and has no fields. -/
theorem at?_mergeDict_eq {new : Dict} (htidy : Dict.Tidy new) (old : Dict) (f : Field) :
    Dict.at? (mergeDict old new) f = match new.lookup f.sectionName with
      | none => Dict.at? old f
      | some (.dict _ entries) => laidOver (Dict.at? old f) (entries.lookup f.key)
      | some _ => none := by
  rw [Dict.at?, Dict.at?, lookup_mergeDict htidy.sorted]
  cases hv : new.lookup f.sectionName with
  | none => rw [laidOver_none]
  | some v =>
    cases hw : old.lookup f.sectionName with
    | none => rw [none_laidOver]; cases v <;> first | rfl | exact (none_laidOver _).symm
    | some w =>
      rw [laidOver]
      cases v with
      | scalar => rw [merge]
      | list => rw [merge]
      | dict _ entries =>
        cases w with
        | scalar => rw [merge_of_old (by simp)]; exact (none_laidOver _).symm
        | list => rw [merge_of_old (by simp)]; exact (none_laidOver _).symm
        | dict _ below => rw [merge]; exact lookup_mergeDict (htidy.entries _ _ hv) below f.key

theorem sectionFits_mergeDict {new : Dict} (htidy : Dict.Tidy new) (old : Dict) (f : Field) :
    SectionFits (mergeDict old new) f ↔ match new.lookup f.sectionName with
      | none => SectionFits old f
      | some (.dict _ _) => True
      | some _ => False := by
  rw [SectionFits, SectionFits, lookup_mergeDict htidy.sorted]
  cases hv : new.lookup f.sectionName with
  | none => rw [laidOver_none]
  | some v =>
    obtain ⟨y, hy⟩ := exists_laidOver (old.lookup f.sectionName) v
    rw [hy]
    simp only [Option.some.injEq, forall_eq']
    cases hw : old.lookup f.sectionName with
    | none =>
      rw [hw, none_laidOver, Option.some.injEq] at hy
      rw [← hy]
      cases v <;> simp
    | some w =>
      rw [hw, laidOver, Option.some.injEq] at hy
      rw [← hy]
      cases v with
      | scalar => rw [merge]; simp
      | list => rw [merge]; simp
      | dict => cases w <;> rw [merge] <;> simp

/-- In a dictionary laid over another, so are the places of the fields. -/
theorem at?_mergeDict {new : Dict} (htidy : Dict.Tidy new) (hnew : Sectioned new) (old : Dict)
    (f : Field) :
    Dict.at? (mergeDict old new) f = laidOver (Dict.at? old f) (Dict.at? new f) := by
  rw [at?_mergeDict_eq htidy, Dict.at?.eq_def new]
  cases hv : new.lookup f.sectionName with
  | none => rw [laidOver_none]
  | some v => obtain ⟨_, _, rfl⟩ := hnew f v hv; rfl

theorem sectioned_mergeDict {old new : Dict} (htidy : Dict.Tidy new) (hold : Sectioned old)
    (hnew : Sectioned new) : Sectioned (mergeDict old new) := by
  intro f
  rw [sectionFits_mergeDict htidy]
  cases hv : new.lookup f.sectionName with
  | none => exact hold f
  | some v => obtain ⟨_, _, rfl⟩ := hnew f v hv; trivial

/-! ## Extracting a section -/

section Sections

variable {α : Type} {set : α → String → List String → Value → Except Problem α}
  {embed : α → HostConfig} {fs : List Field} {name : String} {found : Field → Option Value}

/-- The fields of a section, visited one after the other in a configuration or in the section by
itself. -/
theorem foldlM_visitField (entries : Dict) (hset : ∀ f ∈ fs, ∀ a v,
      setField (embed a) f v = (set a f.key [name, f.key] v).map embed)
    (hfound : ∀ f ∈ fs, found f = entries.lookup f.key) (a : α) :
    fs.foldlM (visitField found) (embed a)
      = ((fs.map Field.key).foldlM (visit (fun a k v => set a k [name, k] v) entries) a).map
        embed := by
  induction fs generalizing a with
  | nil => rfl
  | cons f fs ih =>
    have hrest := ih (fun g hg => hset g (List.mem_cons_of_mem _ hg))
      (fun g hg => hfound g (List.mem_cons_of_mem _ hg))
    rw [List.foldlM_cons, List.map_cons, List.foldlM_cons, visitField, visit,
      hfound f List.mem_cons_self]
    cases entries.lookup f.key with
    | none => exact hrest a
    | some v =>
      simp only [hset f List.mem_cons_self]
      cases set a f.key [name, f.key] v with
      | error e => rfl
      | ok a => exact hrest a

/-- **A section is extracted field by field,** if it is a dictionary or missing. -/
theorem visit_section (embed : α → HostConfig) {d : Dict} {fields : List String}
    {expected : String} {a : α} (htidy : Dict.Tidy d) (hd : Sectioned d)
    (hsection : ∀ v, setSection (embed a) name v
      = (extractSection fields expected set a [name] v).map embed)
    (hname : ∀ f ∈ fs, f.sectionName = name) (hsome : fs ≠ [])
    (hkeys : (fs.map Field.key).Pairwise (· < ·))
    (hskip : ∀ a k keys v, k ∉ fs.map Field.key → set a k keys v = .ok a)
    (hset : ∀ f ∈ fs, ∀ a v, setField (embed a) f v = (set a f.key [name, f.key] v).map embed) :
    visit setSection d (embed a) name = fs.foldlM (visitField (Dict.at? d)) (embed a) := by
  rw [visit]
  cases hv : d.lookup name with
  | none =>
    have hnone : ∀ f ∈ fs, Dict.at? d f = none := by
      intro f hf
      rw [Dict.at?, hname f hf, hv]
    rw [foldlM_visitField [] hset (fun f hf => by rw [hnone f hf]; rfl),
      foldlM_visit_none fun _ _ => rfl]
    rfl
  | some v =>
    obtain ⟨f, hf⟩ := List.exists_mem_of_ne_nil fs hsome
    obtain ⟨source, entries, rfl⟩ := hd f v (by rw [hname f hf, hv])
    have hfound : ∀ f ∈ fs, Dict.at? d f = entries.lookup f.key := by
      intro f hf
      rw [Dict.at?, hname f hf, hv]
    rw [foldlM_visitField entries hset hfound]
    simp only [hsection, extractSection]
    exact congrArg _ (foldlM_eq_visits (fun a k v => set a k [name, k] v) _ hkeys
      (fun a k v hk => hskip a k _ v hk) (htidy.entries _ _ hv) a)

end Sections

variable {d : Dict}

theorem visit_logging (htidy : Dict.Tidy d) (hd : Sectioned d) :
    visit setSection d {} "logging"
      = [Field.format, .level].foldlM (visitField (Dict.at? d)) {} := by
  refine visit_section (fun l => { logging := l }) (a := {}) htidy hd (fun _ => rfl)
    (by simp [Field.sectionName]) (by simp) (by decide +kernel) ?_ ?_
  · intro l k keys v hk
    simp only [List.map_cons, List.map_nil, Field.key, List.mem_cons, List.not_mem_nil, or_false,
      not_or] at hk
    rw [setLoggingField, if_neg hk.2, if_neg hk.1]
  · simp only [List.mem_cons, List.not_mem_nil, or_false]
    rintro f (rfl | rfl) l v <;> rfl

theorem visit_runtime (htidy : Dict.Tidy d) (hd : Sectioned d) (l : LoggingSection) :
    visit setSection d { logging := l } "runtime"
      = [Field.baseDir, .entryScript, .library, .cycles].foldlM (visitField (Dict.at? d))
        { logging := l } := by
  refine visit_section (fun r => { logging := l, runtime := r }) (a := {}) htidy hd
    (fun _ => rfl) (by simp [Field.sectionName]) (by simp) (by decide +kernel) ?_ ?_
  · intro r k keys v hk
    simp only [List.map_cons, List.map_nil, Field.key, List.mem_cons, List.not_mem_nil, or_false,
      not_or] at hk
    rw [setRuntimeField, if_neg hk.1, if_neg hk.2.2.1, if_neg hk.2.1, if_neg hk.2.2.2]
  · simp only [List.mem_cons, List.not_mem_nil, or_false]
    rintro f (rfl | rfl | rfl | rfl) r v <;> rfl

theorem setSection_of_notMem {k : String} (h : k ∉ ["logging", "runtime"]) (c : HostConfig)
    (v : Value) : setSection c k v = .ok c := by
  rw [List.mem_cons, List.mem_singleton, not_or] at h
  rw [setSection, if_neg h.1, if_neg h.2]

/-- **The six places decide the extraction.** -/
theorem extract_eq_extractFields (htidy : Dict.Tidy d) (hd : Sectioned d) :
    extract d = extractFields (Dict.at? d) := by
  rw [extract, foldlM_eq_visits setSection ["logging", "runtime"] (by decide +kernel)
    (fun c k v hk => setSection_of_notMem hk c v) htidy.sorted, extractFields,
    show Field.all = [.format, .level] ++ [.baseDir, .entryScript, .library, .cycles] from rfl,
    List.foldlM_append, List.foldlM_cons, visit_logging htidy hd]
  cases hlogging : [Field.format, .level].foldlM (visitField (Dict.at? d)) {} with
  | error p => rfl
  | ok c =>
    have hother := (extracted_of_foldlM (by decide) hlogging).2
    have hc : c = { logging := c.logging } := by
      refine Field.ext fun f => ?_
      cases f with
      | format => rfl
      | level => rfl
      | _ => exact hother _ (by decide)
    show [_].foldlM (visit setSection d) c = _
    rw [hc, List.foldlM_cons, visit_runtime htidy hd]
    exact bind_pure _

end Settings

end ScriptHost
