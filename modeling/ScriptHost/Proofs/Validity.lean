import ScriptHost.Config.Validation

/-!
# What a valid configuration has

A validation that returns has found no fault, and one that does not has either reported
the faults or had to quote an entry script that is not text. Whether an entry script goes
up is a matter of its walk; it can be told from the segments of the path as well.
-/

namespace ScriptHost

namespace Path

/-- Only two dots step to the parent. -/
theorem component?_eq_parent_iff {s : Bytes} : component? s = some .parent ↔ s = [dot, dot] := by
  constructor
  · intro h
    unfold component? at h
    split at h
    · cases h
    · split at h
      next hdots => exact hdots
      next => cases h
  · rintro rfl
    decide

/-- **A walk steps to a parent** exactly if a segment of the path is two dots. -/
theorem parent_mem_components_iff {p : Path} :
    .parent ∈ p.components ↔ [dot, dot] ∈ p.segments := by
  have hrest : ∀ ss : List Bytes, .parent ∈ ss.filterMap component? ↔ [dot, dot] ∈ ss := by
    intro ss
    simp only [List.mem_filterMap, component?_eq_parent_iff, exists_eq_right]
  unfold components
  split
  · simp only [List.mem_cons, reduceCtorEq, false_or, hrest]
  · cases p.segments with
    | nil => simp
    | cons s ss =>
      -- a leading dot is kept, but it is no step to the parent either
      have hfirst : .parent ∈ (if s = [dot] then [Component.here] else (component? s).toList)
          ↔ [dot, dot] = s := by
        split
        next hdot => rw [hdot]; decide
        next => rw [Option.mem_toList, component?_eq_parent_iff, eq_comm]
      dsimp only
      rw [List.mem_append, hfirst, hrest, List.mem_cons]

/-- A path can be an entry script if it is relative, not empty, and never goes up. -/
theorem entryFault?_eq_none {p : Path} :
    p.entryFault? = none ↔ p.bytes ≠ [] ∧ p.isAbsolute = false ∧ .parent ∉ p.components := by
  unfold entryFault?
  split
  next h => simp [h]
  next h =>
    split
    next habs => simp [habs]
    next habs =>
      split
      next hparent => simp [hparent]
      next hparent => simp [h, habs, hparent]

end Path

namespace HostConfig

variable {c : HostConfig}

theorem faults_of_validate (h : c.validate = .ok ()) : c.faults = [] := by
  unfold validate at h
  split at h
  · cases h
  · split at h
    next hnil => exact hnil
    next => cases h

/-- The entry script of a valid configuration breaks no rule. -/
theorem entryFault?_of_validate (h : c.validate = .ok ()) :
    c.runtime.entryScript.entryFault? = none := by
  have hnil := faults_of_validate h
  rw [faults, List.append_eq_nil_iff, List.append_eq_nil_iff] at hnil
  simpa using hnil.1.2

/-- A valid configuration asks for a cycle. -/
theorem cycles_pos_of_validate (h : c.validate = .ok ()) : 0 < c.runtime.cycles.toNat := by
  have hnil := faults_of_validate h
  rw [faults, List.append_eq_nil_iff] at hnil
  have hne : c.runtime.cycles ≠ 0 := by
    intro hzero
    rw [if_pos hzero] at hnil
    exact List.cons_ne_nil _ _ hnil.2
  exact Nat.pos_of_ne_zero fun h => hne (UInt32.toNat_inj.mp h)

/-- A validation that stops has failed, or has to quote what is not text. -/
theorem validate_eq_error {stop : Stop} (h : c.validate = .error stop) :
    (∃ e, stop = .failure e) ∨ stop = .panic unquotablePanic
      ∧ c.runtime.entryScript.entryFault?.isSome ∧ c.runtime.entryScript.text? = none := by
  unfold validate at h
  split at h
  next hquote => cases h; exact .inr ⟨rfl, hquote⟩
  next =>
    split at h
    · cases h
    · cases h; exact .inl ⟨_, rfl⟩

end HostConfig

end ScriptHost
