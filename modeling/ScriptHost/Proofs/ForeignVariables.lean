import ScriptHost.Commands
import ScriptHost.Proofs.SettingsFields

/-!
# Variables that set no field

The name of a variable spells a path of keys. If that path neither leads to a field nor
passes by one, the variable sets something that no field looks at: it can be anywhere
among the others, and none of the six places notices (`ofVariables_insert`). What it
needs is only that its value can be read at all, since a value that cannot be read takes
all settings with it.

The other variables still act on what this one has left behind, so the proof follows two
dictionaries through them that agree on the fields (`Alike`).
-/

namespace ScriptHost

namespace Settings

/-- A path of keys that neither leads to a field, nor into one, nor to a section. -/
def Foreign (keys : List String) : Prop :=
  ∀ f : Field, ¬ [f.sectionName, f.key] <+: keys ∧ ¬ keys <+: [f.sectionName, f.key]

/-- The second dictionary has the same as the first in the place of every field, and no more
sections that are no dictionaries. -/
structure Alike (d d' : Dict) : Prop where
  at_eq : ∀ f, Dict.at? d' f = Dict.at? d f
  fits : ∀ f, SectionFits d f → SectionFits d' f

theorem Alike.mergeDict {d d' new : Dict} (h : Alike d d') (htidy : Dict.Tidy new) :
    Alike (mergeDict d new) (mergeDict d' new) := by
  constructor
  · intro f
    rw [at?_mergeDict_eq htidy, at?_mergeDict_eq htidy, h.at_eq f]
  · intro f
    rw [sectionFits_mergeDict htidy, sectionFits_mergeDict htidy]
    cases new.lookup f.sectionName with
    | none => exact h.fits f
    | some v => cases v <;> exact id

/-- A path of keys passes by a field: neither leads to the other. -/
def PassesBy (keys : List String) (f : Field) : Prop :=
  ¬ [f.sectionName, f.key] <+: keys ∧ ¬ keys <+: [f.sectionName, f.key]

/-- What a variable sets whose name passes by a field is not in the place of that field. -/
theorem at?_of_passesBy {k : String} {ks : List String} {v : Value} {f : Field} (hv : v.Tidy)
    (h : PassesBy (k :: ks) f) (d : Dict) :
    Dict.at? (mergeDict d [(k, nest v ks)]) f = Dict.at? d f
      ∧ (SectionFits d f → SectionFits (mergeDict d [(k, nest v ks)]) f) := by
  have htidy : Dict.Tidy [(k, nest v ks)] := tidy_put tidy_nil (tidy_nest hv ks) k
  rw [at?_mergeDict_eq htidy, sectionFits_mergeDict htidy, lookup_cons_eq_ite]
  by_cases hf : f.sectionName = k
  · -- a variable that enters the section sets some other key there
    obtain ⟨k', ks', rfl, hkey⟩ : ∃ k' ks', ks = k' :: ks' ∧ f.key ≠ k' := by
      cases ks with
      | nil => exact absurd (hf ▸ List.prefix_append [f.sectionName] [f.key]) h.2
      | cons k' ks' =>
        refine ⟨k', ks', rfl, fun hkey => h.1 ?_⟩
        rw [hf, hkey]
        exact List.prefix_append [k, k'] ks'
    rw [if_pos hf, nest]
    dsimp only
    rw [lookup_cons_eq_ite, if_neg hkey]
    exact ⟨laidOver_none _, fun _ => trivial⟩
  · rw [if_neg hf]
    exact ⟨rfl, id⟩

/-- What a variable with a foreign name sets is in the place of no field. -/
theorem alike_of_foreign {k : String} {ks : List String} {v : Value} (hv : v.Tidy)
    (h : Foreign (k :: ks)) (d : Dict) : Alike d (mergeDict d [(k, nest v ks)]) :=
  ⟨fun f => (at?_of_passesBy hv (h f) d).1, fun f => (at?_of_passesBy hv (h f) d).2⟩

theorem Alike.addVariables {env : List (Bytes × Bytes)} {d d' v : Dict} (h : Alike d d')
    (hv : env.foldlM addVariable d = .ok v) :
    ∃ v', env.foldlM addVariable d' = .ok v' ∧ Alike v v' := by
  induction env generalizing d d' with
  | nil => cases hv; exact ⟨d', rfl, h⟩
  | cons var env ih =>
    rw [List.foldlM_cons, addVariable] at hv ⊢
    split at hv
    next k ks hkeys =>
      cases htext : ofText (Utf8.lossyFrom [] var.2) with
      | error e => rw [htext] at hv; cases hv
      | ok x =>
        rw [htext] at hv
        exact ih (h.mergeDict (tidy_put tidy_nil (tidy_nest (tidy_ofText htext) ks) k)) hv
    next => exact ih h hv

/-- **A foreign variable changes no field,** wherever it stands among the others, if its value can
be read. -/
theorem ofVariables_insert {pre post : List (Bytes × Bytes)} {var : Bytes × Bytes}
    {keys : List String} {x : Value} {v : Dict}
    (hkeys : keyPath? (Utf8.lossyFrom [] var.1) = some keys) (hforeign : Foreign keys)
    (hvalue : ofText (Utf8.lossyFrom [] var.2) = .ok x) (h : ofVariables (pre ++ post) = .ok v) :
    ∃ v', ofVariables (pre ++ var :: post) = .ok v' ∧ Alike v v' := by
  cases keys with
  | nil => exact absurd List.nil_prefix (hforeign .format).2
  | cons k ks =>
    rw [ofVariables_eq, List.foldlM_append] at h ⊢
    cases hpre : pre.foldlM addVariable [] with
    | error e => rw [hpre] at h; cases h
    | ok d =>
      rw [hpre] at h
      have hvar : addVariable d var = .ok (mergeDict d [(k, nest x ks)]) := by
        rw [addVariable, hkeys]
        simp only [hvalue]
        rfl
      show ∃ v', (var :: post).foldlM addVariable d = .ok v' ∧ Alike v v'
      rw [List.foldlM_cons, hvar]
      exact (alike_of_foreign (tidy_ofText hvalue) hforeign d).addVariables h

end Settings

/-! ## The file is not looked for elsewhere -/

/-- Only the variables that name directories decide where the configuration file is. -/
theorem System.configPath_congr {s s' : System} (hhome : s'.var? "HOME" = s.var? "HOME")
    (hconfig : s'.var? "XDG_CONFIG_HOME" = s.var? "XDG_CONFIG_HOME")
    (haccount : s'.accountHome = s.accountHome) (cl : CommandLine) :
    s'.configPath cl = s.configPath cl := by
  have hhome' : s'.home = s.home := by rw [home, home, hhome, haccount]
  unfold configPath expandTilde defaultConfigPath configDirectory
  rw [hhome', hconfig]

/-- A variable that is a setting is not one of those. -/
theorem System.configPath_insert {s : System} {pre post : List (Bytes × Bytes)}
    {var : Bytes × Bytes} {keys : List String} (henv : s.env = pre ++ post)
    (hkeys : Settings.keyPath? (Utf8.lossyFrom [] var.1) = some keys) (cl : CommandLine) :
    System.configPath { s with env := pre ++ var :: post } cl = s.configPath cl := by
  have hvar : ∀ name : String, Settings.keyPath? (Utf8.lossyFrom [] (bytesOf name)) = none →
      System.var? { s with env := pre ++ var :: post } name = s.var? name := by
    intro name hname
    have hne : bytesOf name ≠ var.1 := by
      rintro heq
      rw [← heq, hname] at hkeys
      cases hkeys
    rw [System.var?, System.var?, henv, List.lookup_append, List.lookup_append,
      List.lookup_cons, beq_false_of_ne hne]
  exact configPath_congr (hvar _ (by decide +kernel)) (hvar _ (by decide +kernel)) rfl cl

end ScriptHost
