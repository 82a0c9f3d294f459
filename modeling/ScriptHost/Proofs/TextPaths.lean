import ScriptHost.Proofs.Layering

/-!
# Paths that are text

A path can be any bytes, and on the command line it is. In the layers below it a path is
the text of a setting, so no other path ever comes out of them (`textPaths_of_extract`).

A file that is not text is refused. A variable is not: the bytes that are no text are
replaced first, and what is read is the text that is left. So a variable whose value is
not text does exactly what that text would do (`configured_lossy`), and the path that it
means is lost for the configuration, which has another one in its place.
-/

namespace ScriptHost

open Settings

/-! ## The layers are text -/

/-- The fields that are paths. -/
def Field.paths : List Field := [.baseDir, .library, .entryScript]

/-- All paths of a section are text. -/
structure TextPaths (r : RuntimeSection) : Prop where
  baseDir : ∀ p, r.baseDir = some p → p.text?.isSome
  library : ∀ p, r.library = some p → p.text?.isSome
  entryScript : r.entryScript.text?.isSome

theorem isSome_text?_ofString (s : String) : (Path.ofString s).text?.isSome := by
  rw [text?_eq_some_iff.mpr rfl]
  rfl

/-- A field of the configuration that is a path is text if all paths of the section are. -/
theorem TextPaths.isSome_text? {c : HostConfig} (h : TextPaths c.runtime) {f : Field} {p : Path}
    (hf : f.get c = .path (some p)) : p.text?.isSome := by
  cases f with
  | baseDir => exact h.baseDir p (Content.path.inj hf)
  | library => exact h.library p (Content.path.inj hf)
  | entryScript =>
    rw [← Option.some.inj (Content.path.inj hf)]
    exact h.entryScript
  | _ => cases hf

namespace Settings

theorem textPaths_of_setRuntimeField {r r' : RuntimeSection} {field : String}
    {keys : List String} {v : Value} (hr : TextPaths r)
    (h : setRuntimeField r field keys v = .ok r') : TextPaths r' := by
  have hpath : ∀ {g : Path → RuntimeSection},
      (extractPath keys v).map g = .ok r' → ∃ s, r' = g (.ofString s) := by
    intro g hg
    rw [extractPath, map_eq_ok_iff] at hg
    obtain ⟨_, hpath, rfl⟩ := hg
    obtain ⟨s, _, rfl⟩ := map_eq_ok_iff.mp hpath
    exact ⟨s, rfl⟩
  have htext : ∀ s p, some (Path.ofString s) = some p → p.text?.isSome := by
    rintro s p ⟨⟩
    exact isSome_text?_ofString s
  unfold setRuntimeField at h
  split at h
  · obtain ⟨s, rfl⟩ := hpath h; exact { hr with baseDir := htext s }
  · split at h
    · obtain ⟨s, rfl⟩ := hpath h; exact { hr with library := htext s }
    · split at h
      · obtain ⟨s, rfl⟩ := hpath h; exact { hr with entryScript := isSome_text?_ofString s }
      · split at h
        · obtain ⟨n, _, rfl⟩ := map_eq_ok_iff.mp h; exact { hr with }
        · cases h; exact hr

theorem keeps_of_extractSection {α : Type} (keeps : α → Prop) {fields : List String}
    {expected : String} {set : α → String → List String → Value → Except Problem α} {a b : α}
    {keys : List String} {v : Value}
    (hset : ∀ a field keys v b, keeps a → set a field keys v = .ok b → keeps b) (ha : keeps a)
    (h : extractSection fields expected set a keys v = .ok b) : keeps b := by
  unfold extractSection at h
  split at h
  · exact foldlM_keeps keeps (fun a e b ha hb => hset a e.1 _ e.2 b ha hb) ha h
  · exact foldlM_keeps keeps (fun a e b ha hb => hset a e.1.1 _ e.1.2 b ha hb) ha h
  · cases h

/-- **The paths of the layers are text,** of whatever shape the settings are. -/
theorem textPaths_of_extract {d : Dict} {c : HostConfig} (h : extract d = .ok c) :
    TextPaths c.runtime := by
  have hbuiltin : TextPaths {} := ⟨nofun, nofun, by decide +kernel⟩
  refine foldlM_keeps (fun c => TextPaths c.runtime) (fun c e c' hc hset => ?_) hbuiltin h
  unfold setSection at hset
  split at hset
  · obtain ⟨_, _, rfl⟩ := map_eq_ok_iff.mp hset
    exact hc
  · split at hset
    · obtain ⟨_, hr, rfl⟩ := map_eq_ok_iff.mp hset
      exact keeps_of_extractSection TextPaths
        (fun r field keys v r' hr h => textPaths_of_setRuntimeField hr h) hbuiltin hr
    · cases hset; exact hc

end Settings

variable {s : System} {cl : CommandLine} {c : HostConfig} {f : Field}

/-- A path that the command line does not give is text. -/
theorem System.isSome_text?_of_configured (hflag : cl.flag? f = none)
    (hc : s.configured cl = .ok c) {p : Path} (hp : f.get c = .path (some p)) :
    p.text?.isSome := by
  obtain ⟨c₀, hload, rfl, _⟩ := configured_eq_ok_iff.mp hc
  rw [cl.get_override, hflag, Option.getD_none] at hp
  obtain ⟨_, _, hextract, _⟩ := loadConfig_eq_ok_iff.mp hload
  exact (textPaths_of_extract hextract).isSome_text? hp

/-! ## A variable that is not text -/

variable {pre post : List (Bytes × Bytes)} {name value : Bytes} {keys : List String}

/-- A variable does what the text does that is left of its value. -/
theorem Settings.ofVariables_lossy (pre post : List (Bytes × Bytes)) (name value : Bytes) :
    ofVariables (pre ++ (name, Utf8.encode (Utf8.lossyFrom [] value)) :: post)
      = ofVariables (pre ++ (name, value) :: post) := by
  have hvar : ∀ d, addVariable d (name, Utf8.encode (Utf8.lossyFrom [] value))
      = addVariable d (name, value) := by
    intro d
    rw [addVariable, addVariable]
    simp only [Utf8.lossyFrom_encode, List.reverse_nil, List.nil_append]
  rw [ofVariables_eq, ofVariables_eq, List.foldlM_append, List.foldlM_append]
  simp only [List.foldlM_cons, hvar]

/-- **What is not text in the value of a setting is lost** before it is read. -/
theorem System.configured_lossy (henv : s.env = pre ++ (name, value) :: post)
    (hkeys : keyPath? (Utf8.lossyFrom [] name) = some keys) (cl : CommandLine) :
    System.configured
        { s with env := pre ++ (name, Utf8.encode (Utf8.lossyFrom [] value)) :: post } cl
      = s.configured cl := by
  have hpath : ∀ value, System.configPath { s with env := pre ++ (name, value) :: post } cl
      = System.configPath { s with env := pre ++ post } cl :=
    fun value => configPath_insert (s := { s with env := pre ++ post }) rfl hkeys cl
  have hsame : System.configPath { s with env := pre ++ (name, value) :: post } cl
      = s.configPath cl := by
    rw [← henv]
  rw [configured, configured, hpath, ← hpath value, hsame, loadConfig, loadConfig, layered,
    layered, ofVariables_lossy, henv]
  rfl

/-! ## What becomes of it -/

namespace Settings

/-- Variables whose names pass by a field leave what is in its place. -/
theorem at?_of_passingVariables {env : List (Bytes × Bytes)} {d d' : Dict}
    (henv : ∀ var ∈ env, ∀ keys, keyPath? (Utf8.lossyFrom [] var.1) = some keys → PassesBy keys f)
    (h : env.foldlM addVariable d = .ok d') : Dict.at? d' f = Dict.at? d f := by
  induction env generalizing d with
  | nil => cases h; rfl
  | cons var env ih =>
    obtain ⟨d₁, hvar, hrest⟩ := foldlM_cons_eq_ok_iff.mp h
    rw [ih (fun var hmem => henv var (List.mem_cons_of_mem _ hmem)) hrest]
    rw [addVariable] at hvar
    split at hvar
    next k ks hkeys =>
      obtain ⟨v, hv, rfl⟩ := map_eq_ok_iff.mp hvar
      exact (at?_of_passesBy (tidy_ofText hv) (henv var List.mem_cons_self _ hkeys) d).1
    next => cases hvar; rfl

/-- The last variable of a field is laid over what the others have set there. -/
theorem at?_ofVariables {overlay : Dict}
    (hname : keyPath? (Utf8.lossyFrom [] name) = some [f.sectionName, f.key])
    (hpost : ∀ var ∈ post, ∀ keys, keyPath? (Utf8.lossyFrom [] var.1) = some keys →
      PassesBy keys f)
    (h : ofVariables (pre ++ (name, value) :: post) = .ok overlay) :
    ∃ v w, ofText (Utf8.lossyFrom [] value) = .ok v
      ∧ Dict.at? overlay f = laidOver w (some v) := by
  rw [ofVariables_eq, List.foldlM_append] at h
  cases hpre : pre.foldlM addVariable [] with
  | error e => rw [hpre] at h; cases h
  | ok d =>
    rw [hpre] at h
    obtain ⟨d₁, hvar, hrest⟩ := foldlM_cons_eq_ok_iff.mp h
    rw [addVariable, hname] at hvar
    obtain ⟨v, hv, rfl⟩ := map_eq_ok_iff.mp hvar
    refine ⟨v, Dict.at? d f, hv, ?_⟩
    have htidy : Dict.Tidy [(f.sectionName, nest v [f.key])] :=
      tidy_put tidy_nil (tidy_nest (tidy_ofText hv) [f.key]) f.sectionName
    rw [at?_of_passingVariables hpost hrest, at?_mergeDict_eq htidy, lookup_cons_eq_ite,
      if_pos rfl, nest]
    dsimp only
    rw [lookup_cons_eq_ite, if_pos rfl, nest]

end Settings

/-- A path is read from a value that spells a text. -/
theorem exists_text_of_read {v : Value} {x : Content} (hf : f ∈ Field.paths)
    (h : read f v = some x) : ∃ t, v.text? = some t ∧ x = .path (some (.ofString t)) := by
  simp only [Field.paths, List.mem_cons, List.not_mem_nil, or_false] at hf
  rcases hf with rfl | rfl | rfl <;>
  · obtain ⟨t, ht, rfl⟩ := Option.map_eq_some_iff.mp h
    exact ⟨t, ht, rfl⟩

/-- **The path of a variable that is not text is never the path of the configuration.** It has some
path that is text; the end is the one that it would be with the text that is left of the value; and
if no other variable sets the field behind it, the path is what that text spells. -/
theorem configure_lossy {w : World} (henv : w.system.env = pre ++ (name, value) :: post)
    (hname : keyPath? (Utf8.lossyFrom [] name) = some [f.sectionName, f.key])
    (hf : f ∈ Field.paths) (hflag : cl.flag? f = none) (hvalue : ¬ Utf8.WellFormed value) :
    (∀ c p, (ended (configure cl w)).1 = .ok c → f.get c = .path (some p) →
        p.bytes ≠ value ∧ Utf8.WellFormed p.bytes)
      ∧ (ended (configure cl { w with system := { w.system with
          env := pre ++ (name, Utf8.encode (Utf8.lossyFrom [] value)) :: post } })).1
        = (ended (configure cl w)).1
      ∧ ∀ file overlay c, Layers w.system cl file overlay →
        (∀ var ∈ post, ∀ keys, keyPath? (Utf8.lossyFrom [] var.1) = some keys →
          PassesBy keys f) →
        (ended (configure cl w)).1 = .ok c →
        ∃ v t, ofText (Utf8.lossyFrom [] value) = .ok v ∧ v.text? = some t
          ∧ f.get c = .path (some (.ofString t)) := by
  rw [ended_configure, ended_configure]
  refine ⟨fun c p hc hp => ?_, w.system.configured_lossy henv hname cl, ?_⟩
  · have htext := Utf8.isSome_text?_iff.mp (System.isSome_text?_of_configured hflag hc hp)
    refine ⟨?_, htext⟩
    rintro rfl
    exact hvalue htext
  · intro file overlay c hlayers hpost hc
    obtain ⟨v, w₀, hv, hat⟩ := at?_ofVariables hname hpost (henv ▸ hlayers.overlay_eq)
    obtain ⟨y, hy⟩ := exists_laidOver w₀ v
    obtain ⟨c₀, hfields, rfl⟩ := hlayers.configured_eq_ok hc
    have hfrom := cl.fromLayers_override (fromLayers_of_extractFields hfields f)
    rw [FromLayers, hflag, hat, hy] at hfrom
    obtain ⟨t, ht, hget⟩ := exists_text_of_read hf (read_of_laidOver hy hfrom)
    exact ⟨v, t, hv, ht, hget⟩

/-! ### A directory that is not text -/

/-- The absolute path of a name that is no text, as a base directory. -/
def unspeakableVariable : Bytes × Bytes := (bytesOf "NSHOST_RUNTIME__BASE_DIR", [0x2F, 0xFF])

def unspeakableSystem : System :=
  { systemAround (bytesOf "") with env := [unspeakableVariable] }

def plainRun : CommandLine := { options := { config := some "host.toml" } }

def unspeakableOverlay : Dict := (ofVariables unspeakableSystem.env).toOption.getD []

theorem layers_unspeakable :
    Layers unspeakableSystem plainRun (settingsOf "") unspeakableOverlay where
  file_eq := @fileLayer_systemWith "" [] (by decide +kernel)
  overlay_eq := eq_ok_of_isOk (by decide +kernel) []
  sectioned_file := by decide +kernel
  sectioned_overlay := by decide +kernel

def unspeakableConfig : HostConfig := { runtime := { baseDir := some (.ofString "/\ufffd") } }

theorem not_wellFormed_unspeakable : ¬ Utf8.WellFormed unspeakableVariable.2 := by
  rw [← Utf8.isSome_text?_iff]
  decide +kernel

theorem keyPath?_unspeakable : keyPath? (Utf8.lossyFrom [] unspeakableVariable.1)
    = some [Field.sectionName .baseDir, Field.key .baseDir] := by
  decide +kernel

/-- The configuration has a mark of replacement where the byte was. -/
theorem ended_unspeakable :
    (ended (configure plainRun (.start unspeakableSystem [] []))).1 = .ok unspeakableConfig := by
  rw [ended_configure]
  unfold System.configured
  rw [World.start, layers_unspeakable.loadConfig_eq]
  decide +kernel

/-- The configuration has what the text with a mark of replacement spells. -/
theorem unspeakable_lossy :
    ¬ Utf8.WellFormed unspeakableVariable.2
      ∧ (ended (configure plainRun (.start unspeakableSystem [] []))).1 = .ok unspeakableConfig
      ∧ Path.ofString "/\ufffd" ≠ ⟨unspeakableVariable.2⟩
      ∧ ∃ v t, ofText (Utf8.lossyFrom [] unspeakableVariable.2) = .ok v ∧ v.text? = some t
        ∧ Field.get .baseDir unspeakableConfig = .path (some (.ofString t)) := by
  have henv : (World.start unspeakableSystem [] []).system.env = [] ++ unspeakableVariable :: [] :=
    rfl
  have hflag : plainRun.flag? .baseDir = none := rfl
  obtain ⟨hnever, _, hspelled⟩ := configure_lossy henv keyPath?_unspeakable List.mem_cons_self hflag
    not_wellFormed_unspeakable
  exact ⟨not_wellFormed_unspeakable, ended_unspeakable,
    fun heq => (hnever _ _ ended_unspeakable rfl).1 (congrArg Path.bytes heq),
    hspelled _ _ _ layers_unspeakable nofun ended_unspeakable⟩

/-- A path in a variable can come back as another one. -/
theorem path_replaced :
    ¬ ∀ (w : World) (cl : CommandLine) (f : Field) (name value : Bytes) (c : HostConfig),
      (name, value) ∈ w.system.env →
      keyPath? (Utf8.lossyFrom [] name) = some [f.sectionName, f.key] → f ∈ Field.paths →
      cl.flag? f = none → ¬ Utf8.WellFormed value →
      (∃ file overlay, Layers w.system cl file overlay) →
      (ended (configure cl w)).1 = .ok c → f.get c = .path (some ⟨value⟩) := by
  intro hclaim
  have hkept := hclaim (.start unspeakableSystem [] []) plainRun .baseDir _ _ _
    List.mem_cons_self keyPath?_unspeakable List.mem_cons_self rfl not_wellFormed_unspeakable
    ⟨_, _, layers_unspeakable⟩ ended_unspeakable
  exact absurd hkept (by decide +kernel)

end ScriptHost
