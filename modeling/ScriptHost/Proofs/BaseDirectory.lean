import ScriptHost.Host

/-!
# The base directory of a host

A host keeps its base directory in canonical form: the names from the root directory
down to it, as the walk of the configured path found them. So it is absolute, and since
no name of an entry has a NUL byte, neither has the base directory.
-/

namespace ScriptHost

theorem Path.nul_notMem_ofNames {names : List Bytes} (h : ∀ s ∈ names, 0 ∉ s) :
    0 ∉ (Path.ofNames names).bytes := by
  unfold Path.ofNames
  split
  · exact List.not_mem_cons_of_ne_of_not_mem (by decide) List.not_mem_nil
  · rw [List.mem_flatMap]
    rintro ⟨s, hs, hmem⟩
    rcases List.mem_cons.mp hmem with h0 | h0
    · exact absurd h0 (by decide)
    · exact h s hs h0

theorem Path.isAbsolute_ofNames (names : List Bytes) : (Path.ofNames names).isAbsolute = true := by
  cases names with
  | nil => rfl
  | cons s names => rfl

theorem FileTree.nul_notMem_of_get? {t : FileTree} {l : Location} (h : (t.get? l).isSome) :
    ∀ s ∈ l, 0 ∉ s := by
  unfold FileTree.get? at h
  split at h
  next hl => rw [hl]; exact fun s hs => absurd hs List.not_mem_nil
  next =>
    split at h
    next => exact absurd h Bool.false_ne_true
    next hnul => exact fun s hs h0 => hnul ⟨s, hs, h0⟩

/-- A path has a canonical form if it leads to an entry. -/
theorem FileTree.canonical_eq_ok_iff {t : FileTree} {cwd : Location} {p q : Path} :
    t.canonical cwd p = .ok q ↔
      ∃ l, t.follow cwd p = .ok l ∧ (t.get? l).isSome ∧ q = Path.ofNames l := by
  unfold canonical
  cases t.follow cwd p with
  | error e => simp
  | ok l =>
    constructor
    · intro h
      dsimp only at h
      split at h
      next hl => cases h; exact ⟨l, rfl, hl, rfl⟩
      next => cases h
    · rintro ⟨_, heq, hl, rfl⟩
      cases heq
      exact if_pos hl

/-- A base directory is the canonical form of the path that was given, and a directory. -/
theorem System.resolveBaseDir_eq_ok_iff {s : System} {p q : Path} :
    s.resolveBaseDir p = .ok q ↔
      s.files.canonical s.cwd p = .ok q ∧ s.files.find s.cwd q = .ok .directory := by
  unfold resolveBaseDir
  cases hc : s.files.canonical s.cwd p with
  | error e => simp
  | ok q' =>
    constructor
    · intro h
      dsimp only at h
      split at h
      next hdir => cases h; exact ⟨rfl, hdir⟩
      next => cases h
    · rintro ⟨hq, hdir⟩
      cases hq
      simp only [hdir]

namespace Host

/-- **A host is built** on the base directory that its path leads to, and nothing else is done. -/
theorem new_eq (r : Runtime) (base entry : Path) (w : World) :
    Host.new r base entry w =
      match w.system.resolveBaseDir base with
      | .ok b => .ok ⟨r, b, entry⟩ w
      | .error e => .error (.failure e) w := by
  show ((Act.ofExcept (w.system.resolveBaseDir base) : Act Path) >>=
    fun b => (pure ⟨r, b, entry⟩ : Act Host)) w = _
  cases w.system.resolveBaseDir base <;> rfl

variable {r : Runtime} {base entry : Path} {w w' : World} {h : Host}

theorem new_eq_ok (hnew : Host.new r base entry w = .ok h w') :
    w.system.resolveBaseDir base = .ok h.baseDir ∧ h = ⟨r, h.baseDir, entry⟩ ∧ w' = w := by
  rw [new_eq] at hnew
  cases hres : w.system.resolveBaseDir base with
  | error e => rw [hres] at hnew; cases hnew
  | ok b => rw [hres] at hnew; cases hnew; exact ⟨rfl, rfl, rfl⟩

theorem baseDir_eq_ofNames (hnew : Host.new r base entry w = .ok h w') :
    ∃ l, (w.system.files.get? l).isSome ∧ h.baseDir = Path.ofNames l := by
  obtain ⟨hcanonical, _⟩ := System.resolveBaseDir_eq_ok_iff.mp (new_eq_ok hnew).1
  obtain ⟨l, _, hl, heq⟩ := FileTree.canonical_eq_ok_iff.mp hcanonical
  exact ⟨l, hl, heq⟩

/-- **No host has a base directory with a NUL byte.** -/
theorem nul_notMem_baseDir (hnew : Host.new r base entry w = .ok h w') : 0 ∉ h.baseDir.bytes := by
  obtain ⟨l, hl, heq⟩ := baseDir_eq_ofNames hnew
  rw [heq]
  exact Path.nul_notMem_ofNames (FileTree.nul_notMem_of_get? hl)

/-- The base directory of every host is absolute. -/
theorem isAbsolute_baseDir (hnew : Host.new r base entry w = .ok h w') :
    h.baseDir.isAbsolute = true := by
  obtain ⟨l, _, heq⟩ := baseDir_eq_ofNames hnew
  rw [heq]
  exact Path.isAbsolute_ofNames l

end Host

end ScriptHost
