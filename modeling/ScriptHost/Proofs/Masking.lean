import ScriptHost.Proofs.Layering

/-!
# What the command line hides

The command line overrides what the layers below it give for a field, but only after
these have been accepted by themselves. So a hidden value makes no difference between two
configurations that are accepted, and yet it can keep one from being accepted: a count of
zero in the file is refused even if the command line gives another count.

Of the settings this needs types that fit, and sections that are dictionaries. A section
can also be a list, but then one that is laid over it hides all of its fields.
-/

namespace ScriptHost

open Settings

/-- Whatever is in the place of a field has the type of the field. -/
def Settings.WellTyped (d : Dict) : Prop :=
  ∀ f v, Dict.at? d f = some v → (read f v).isSome

instance (d : Dict) : Decidable (WellTyped d) :=
  decidable_of_iff (∀ f ∈ Field.all, ∀ v ∈ Dict.at? d f, (read f v).isSome)
    ⟨fun h f v hv => h f (Field.mem_all f) v hv, fun h f _ v hv => h f v hv⟩

variable {cl : CommandLine} {w w' : World} {file file' overlay overlay' : Dict}
  {c c' : HostConfig}

/-- What is found for a field in well-typed layers can be read. -/
theorem isSome_read_layersAt (hfile : WellTyped file) (hoverlay : WellTyped overlay) {f : Field}
    {y : Value} (h : layersAt file overlay f = some y) : (read f y).isSome := by
  rw [layersAt] at h
  cases hv : Dict.at? overlay f with
  | some v =>
    obtain ⟨x, hx⟩ := Option.isSome_iff_exists.mp (hoverlay f v hv)
    rw [hv, laidOver_of_read hx, Option.some.injEq] at h
    exact h ▸ hoverlay f v hv
  | none =>
    rw [hv, laidOver_none] at h
    cases hu : Dict.at? file f with
    | some u =>
      obtain ⟨x, hx⟩ := Option.isSome_iff_exists.mp (hfile f u hu)
      rw [hu, laidOver_of_read hx, Option.some.injEq] at h
      exact h ▸ hfile f u hu
    | none =>
      rw [hu, laidOver_none] at h
      rw [read_builtinLayer h]
      rfl

/-- Layers that have the same for a field lead to configurations that have. -/
theorem get_eq_of_layersAt {f : Field} (hc : extractFields (layersAt file overlay) = .ok c)
    (hc' : extractFields (layersAt file' overlay') = .ok c')
    (h : layersAt file' overlay' f = layersAt file overlay f) : f.get c' = f.get c := by
  have hf := extracted_of_extractFields hc f
  have hf' := extracted_of_extractFields hc' f
  rw [Extracted] at hf hf'
  rw [h] at hf'
  cases hfound : layersAt file overlay f with
  | none => rw [hfound] at hf hf'; exact hf'.trans hf.symm
  | some v => rw [hfound] at hf hf'; exact Option.some.inj (hf'.symm.trans hf)

/-- Configurations that agree where the command line gives nothing are the same under it. -/
theorem CommandLine.override_eq (h : ∀ f, cl.flag? f = none → f.get c' = f.get c) :
    cl.override c' = cl.override c := by
  refine Field.ext fun f => ?_
  rw [cl.get_override, cl.get_override]
  cases hflag : cl.flag? f with
  | some x => rfl
  | none => exact h f hflag

/-- The end of a configuration that is there below the command line. -/
theorem Layers.ended_configure_eq (h : Layers w.system cl file overlay)
    (hc : extractFields (layersAt file overlay) = .ok c) :
    (ended (configure cl w)).1 = match c.validate with
      | .error stop => .error stop
      | .ok () => (cl.override c).validate.map fun _ => cl.override c := by
  rw [ended_configure]
  unfold System.configured
  rw [h.loadConfig_eq, hc]
  dsimp only
  cases c.validate <;> rfl

/-- **A value that the command line hides decides nothing but whether the layers below are
accepted.** Two well-typed worlds that differ only in hidden values come to the same end if what
is below the command line is valid in both; where it is not, its report is the end. -/
theorem configure_masked (h : Layers w.system cl file overlay)
    (h' : Layers w'.system cl file' overlay') (hfile : WellTyped file) (hfile' : WellTyped file')
    (hoverlay : WellTyped overlay) (hoverlay' : WellTyped overlay')
    (hdiff : ∀ f, cl.flag? f = none →
      Dict.at? file' f = Dict.at? file f ∧ Dict.at? overlay' f = Dict.at? overlay f) :
    ∃ c c', (∀ f, FromLayers {} overlay file c f) ∧ (∀ f, FromLayers {} overlay' file' c' f)
      ∧ (∀ stop, c.validate = .error stop → (ended (configure cl w)).1 = .error stop)
      ∧ (∀ stop, c'.validate = .error stop → (ended (configure cl w')).1 = .error stop)
      ∧ (c.validate = .ok () → c'.validate = .ok () →
        (ended (configure cl w')).1 = (ended (configure cl w)).1) := by
  obtain ⟨c, hc⟩ := exists_extractFields fun f v => isSome_read_layersAt hfile hoverlay (f := f)
  obtain ⟨c', hc'⟩ := exists_extractFields fun f v => isSome_read_layersAt hfile' hoverlay' (f := f)
  have hover : cl.override c' = cl.override c := by
    refine CommandLine.override_eq fun f hflag => get_eq_of_layersAt hc hc' ?_
    rw [layersAt, layersAt, (hdiff f hflag).1, (hdiff f hflag).2]
  refine ⟨c, c', fromLayers_of_extractFields hc, fromLayers_of_extractFields hc', ?_, ?_, ?_⟩
  · intro stop hstop
    rw [h.ended_configure_eq hc, hstop]
  · intro stop hstop
    rw [h'.ended_configure_eq hc', hstop]
  · intro hvalid hvalid'
    rw [h.ended_configure_eq hc, h'.ended_configure_eq hc', hvalid, hvalid', hover]

/-! ### Hidden values that decide -/

def noCycles : String := "[runtime]\nrepeat = 0\n"

/-- The runtime section as the list of its fields; the first one is the base directory. -/
def listedSection : String := "runtime = [\"/b\"]\n"

def twoCycles : List (String × String) := [("NSHOST_RUNTIME__REPEAT", "2")]

/-- Nothing is given but the count, if that is, and it can be read. -/
def CountOnly (d : Dict) : Prop :=
  WellTyped d ∧ ∀ f ∈ Field.all, f ≠ .cycles → (Dict.at? d f).isNone

instance (d : Dict) : Decidable (CountOnly d) := inferInstanceAs (Decidable (_ ∧ _))

theorem CountOnly.at?_eq {d d' : Dict} (h : CountOnly d) (h' : CountOnly d') {f : Field}
    (hf : f ≠ .cycles) : Dict.at? d' f = Dict.at? d f := by
  rw [Option.isNone_iff_eq_none.mp (h.2 f f.mem_all hf),
    Option.isNone_iff_eq_none.mp (h'.2 f f.mem_all hf)]

theorem countOnly_layers :
    CountOnly (settingsOf "") ∧ CountOnly (settingsOf noCycles) ∧ CountOnly (overlayOf [])
      ∧ CountOnly (overlayOf twoCycles) := by
  decide +kernel

/-- The only thing that `threeCycles` gives is the count. -/
theorem ne_cycles_of_flag? {f : Field} (h : threeCycles.flag? f = none) : f ≠ .cycles := by
  rintro rfl
  cases h

theorem layers_noCycles : ∀ vars ∈ [[], twoCycles],
    Layers (systemWith noCycles vars) threeCycles (settingsOf noCycles) (overlayOf vars) := by
  have hread : ∀ vars ∈ [[], twoCycles], (Toml.read? noCycles.toList).isSome
      ∧ (ofVariables (systemWith noCycles vars).env).isOk
      ∧ Sectioned (settingsOf noCycles) ∧ Sectioned (overlayOf vars) := by
    decide +kernel
  exact fun vars hvars => layers_systemWith rfl (hread vars hvars)

/-- **Hidden values can decide.** A hidden count of zero is refused. And where a section is a list,
a hidden count among the variables takes the other fields of the list away. -/
theorem masked_values_decide :
    (¬ ∀ (cl : CommandLine) (w w' : World) (file file' overlay overlay' : Dict),
      Layers w.system cl file overlay → Layers w'.system cl file' overlay' →
      WellTyped file → WellTyped file' → WellTyped overlay → WellTyped overlay' →
      (∀ f, cl.flag? f = none →
        Dict.at? file' f = Dict.at? file f ∧ Dict.at? overlay' f = Dict.at? overlay f) →
      (ended (configure cl w')).1 = (ended (configure cl w)).1)
    ∧ (∀ f, f ≠ .cycles → Dict.at? (overlayOf twoCycles) f = Dict.at? (overlayOf []) f)
      ∧ (ended (configure threeCycles (.start (systemWith listedSection []) [] []))).1
        = .ok { runtime := { baseDir := some (.ofString "/b"), cycles := 3 } }
      ∧ (ended (configure threeCycles (.start (systemWith listedSection twoCycles) [] []))).1
        = .ok { runtime := { cycles := 3 } } := by
  obtain ⟨hempty, hnoCycles, hnone, htwo⟩ := countOnly_layers
  refine ⟨fun hclaim => ?_, fun f hf => hnone.at?_eq htwo hf, ?_, ?_⟩
  · have hsame := hclaim threeCycles (.start (systemWith "" []) [] [])
      (.start (systemWith noCycles []) [] []) _ _ _ _ (layers_nothing threeCycles rfl)
      (layers_noCycles [] (by simp)) hempty.1 hnoCycles.1 hnone.1 hnone.1
      fun f hf => ⟨hempty.at?_eq hnoCycles (ne_cycles_of_flag? hf), rfl⟩
    rw [ended_configure, ended_configure] at hsame
    unfold System.configured at hsame
    rw [World.start, World.start, (layers_noCycles [] (by simp)).loadConfig_eq,
      (layers_nothing threeCycles rfl).loadConfig_eq] at hsame
    revert hsame
    decide +kernel
  · rw [ended_configure, World.start, configured_systemWith rfl] <;> decide +kernel
  · rw [ended_configure, World.start, configured_systemWith rfl] <;> decide +kernel

/-- The variables hide the count of the file, which is none, and the command line hides theirs. -/
theorem twoCycles_masked :
    Layers (systemWith "" []) threeCycles (settingsOf "") (overlayOf [])
      ∧ Layers (systemWith noCycles twoCycles) threeCycles (settingsOf noCycles)
        (overlayOf twoCycles)
      ∧ (ended (configure threeCycles (.start (systemWith noCycles twoCycles) [] []))).1
        = (ended (configure threeCycles (.start (systemWith "" []) [] []))).1 := by
  obtain ⟨hempty, hnoCycles, hnone, htwo⟩ := countOnly_layers
  have hlayers := layers_noCycles twoCycles (by simp)
  refine ⟨layers_nothing threeCycles rfl, hlayers, ?_⟩
  obtain ⟨c, c', _, _, hstop, hstop', hsame⟩ :=
    configure_masked (w := .start (systemWith "" []) [] []) (layers_nothing threeCycles rfl)
      (show Layers (World.start (systemWith noCycles twoCycles) [] []).system _ _ _ from hlayers)
      hempty.1 hnoCycles.1 hnone.1 htwo.1
      fun f hf => ⟨hempty.at?_eq hnoCycles (ne_cycles_of_flag? hf),
        hnone.at?_eq htwo (ne_cycles_of_flag? hf)⟩
  have hend : (ended (configure threeCycles (.start (systemWith "" []) [] []))).1
      = .ok { runtime := { cycles := 3 } } := by
    rw [ended_configure, World.start, configured_systemWith rfl] <;> decide +kernel
  have hend' : (ended (configure threeCycles (.start (systemWith noCycles twoCycles) [] []))).1
      = .ok { runtime := { cycles := 3 } } := by
    rw [ended_configure, World.start, configured_systemWith rfl] <;> decide +kernel
  refine hsame ?_ ?_
  · cases hc : c.validate with
    | ok _ => rfl
    | error stop => rw [hstop stop hc] at hend; cases hend
  · cases hc : c'.validate with
    | ok _ => rfl
    | error stop => rw [hstop' stop hc] at hend'; cases hend'

end ScriptHost
