import Mathlib
import ScriptHost.Proofs.Containment
import ScriptHost.Proofs.HostSteps

/-!
# A host does not depend on the working directory

The base directory of a host is absolute, so the path of its script is, whatever the
entry script was given as; and a walk along an absolute path begins at the root
directory. Nothing else that a host does looks at a path. So two worlds that differ in
their working directories look the same to it (`coupling_movedTo`), and a move of the
working directory leads from one to another of them.
-/

namespace ScriptHost

/-- The world with another working directory. -/
def World.movedTo (w : World) (cwd : Location) : World :=
  { w with system := { w.system with cwd } }

/-! ## What an absolute path leads to -/

namespace FileTree

variable {t : FileTree} {p : Path}

theorem locate_of_isAbsolute (hp : p.isAbsolute = true) (cwd cwd' : Location) :
    t.locate cwd p = t.locate cwd' p := by
  unfold locate follow
  simp only [hp, if_true]

theorem read_of_isAbsolute (hp : p.isAbsolute = true) (cwd cwd' : Location) :
    t.read cwd p = t.read cwd' p := by
  unfold read find
  rw [locate_of_isAbsolute hp cwd cwd']

end FileTree

/-- A script at an absolute path is the same from everywhere. -/
theorem EntryScript.ofFile_of_isAbsolute {p : Path} (hp : p.isAbsolute = true) (s : System)
    (cwd : Location) : ofFile { s with cwd } p = ofFile s p := by
  unfold ofFile
  rw [FileTree.read_of_isAbsolute hp cwd s.cwd]

/-- A move of the working directory moves nothing else. -/
theorem System.movedTo_of_move {s s' : System} {dir : Path} (h : s.move dir = .ok s') :
    ∃ cwd, s' = { s with cwd } := by
  unfold System.move at h
  split at h
  · cases h
  · split at h
    · cases h; exact ⟨_, rfl⟩
    · cases h
    · cases h

/-! ## Worlds that look the same -/

/-- `v` is the world `w`, up to the working directory. -/
def MovedTo (w v : World) : Prop := ∃ cwd, v = w.movedTo cwd

namespace Runtime

/-- A call comes to the same from everywhere. -/
theorem call_movedTo (r : Runtime) (c : Call) : InStep MovedTo Eq (r.call c) (r.call c) := by
  rintro w _ ⟨cwd, rfl⟩
  have hpanic : r.panic? c (w.movedTo cwd) = r.panic? c w := by
    unfold panic?
    split <;> rfl
  have harrive : r.arrive c (w.movedTo cwd) = (r.arrive c w).movedTo cwd := by
    unfold arrive
    split <;> rfl
  rw [r.call_eq, r.call_eq, hpanic, harrive]
  cases r.panic? c w with
  | none => exact .returned rfl ⟨cwd, rfl⟩
  | some text => exact .stopped ⟨cwd, rfl⟩

/-- The probe comes to the same from everywhere. -/
theorem hello_movedTo (r : Runtime) : InStep MovedTo Eq r.hello r.hello := by
  cases r with
  | recorder probe =>
    cases probe with
    | false => exact .andThen (call_movedTo _ _) (.throw _)
    | true => exact .andThen (call_movedTo _ _) (.pure rfl)
  | library p probe =>
    cases probe with
    | false => exact .throw _
    | true => exact call_movedTo (.library p true) .hello

end Runtime

/-- Nothing that a host with a script at an absolute path looks at tells the two worlds apart. -/
theorem coupling_movedTo (r : Runtime) {p : Path} (hp : p.isAbsolute = true) :
    StepCoupling MovedTo r r p where
  script := by
    rintro w _ ⟨cwd, rfl⟩
    exact EntryScript.ofFile_of_isAbsolute hp w.system cwd
  cycle := by rintro w _ ⟨cwd, rfl⟩; rfl
  atCycle := by rintro w _ n ⟨cwd, rfl⟩; exact ⟨cwd, rfl⟩
  logged := by rintro w _ e ⟨cwd, rfl⟩; exact ⟨cwd, rfl⟩
  answer := by
    rintro w _ ⟨cwd, rfl⟩
    rw [Act.nextHandle_eq, Act.nextHandle_eq]
    exact .returned rfl ⟨cwd, rfl⟩
  call := r.call_movedTo
  hello := r.hello_movedTo
  files := by rintro w _ ⟨cwd, rfl⟩; rfl
  withFiles := by rintro w _ t ⟨cwd, rfl⟩; exact ⟨cwd, rfl⟩
  calls := by rintro w _ w' _ ⟨cwd, rfl⟩ ⟨cwd', rfl⟩; rfl
  logs := by rintro w _ w' _ ⟨cwd, rfl⟩ ⟨cwd', rfl⟩; rfl

/-! ## Steps of a host -/

namespace Host

variable {h : Host} {w v : World}

theorem isAbsolute_entryPath {r : Runtime} {base entry : Path} {w₀ w₁ : World}
    (hnew : Host.new r base entry w₀ = .ok h w₁) : h.entryPath.isAbsolute = true :=
  Path.isAbsolute_join (isAbsolute_baseDir hnew)

/-- A move of the working directory moves nothing else, and aborts nothing. -/
theorem observe_move (h : Host) (dir : Path) (w : World) :
    (h.observe (.move dir) w).1.aborts = false ∧ MovedTo w (h.observe (.move dir) w).2 := by
  unfold observe
  cases hsystem : w.system.move dir with
  | error e =>
    have hact : Act.move dir w = .ok (some e) w := by
      unfold Act.move
      rw [hsystem]
    have hmove : h.perform (.move dir) w = .ok (.moved (some e)) w := Act.bind_of_ok hact
    rw [hmove]
    exact ⟨rfl, w.system.cwd, rfl⟩
  | ok s =>
    have hact : Act.move dir w = .ok none { w with system := s } := by
      unfold Act.move
      rw [hsystem]
    have hmove : h.perform (.move dir) w = .ok (.moved none) { w with system := s } :=
      Act.bind_of_ok hact
    rw [hmove]
    obtain ⟨cwd, rfl⟩ := System.movedTo_of_move hsystem
    exact ⟨rfl, cwd, rfl⟩

/-- **Moves of the working directory can be left out,** by induction on the steps. -/
theorem observations_filter (habs : h.entryPath.isAbsolute = true) (xs : List HostStep)
    (hw : MovedTo w v) :
    (h.observations xs w).filter (!·.step.isMove) = h.observations (xs.filter (!·.isMove)) v := by
  induction xs generalizing w v with
  | nil => rfl
  | cons x xs ih =>
    have hstep := h.step_observe x w
    cases hx : x.isMove with
    | true =>
      obtain ⟨dir, rfl⟩ := HostStep.eq_move hx
      obtain ⟨haborts, hmoved⟩ := h.observe_move dir w
      have hsame : MovedTo (h.observe (.move dir) w).2 v := by
        obtain ⟨cwd, rfl⟩ := hw
        obtain ⟨cwd', hcwd'⟩ := hmoved
        exact ⟨cwd, by rw [hcwd']; rfl⟩
      rw [observations, haborts, List.filter_cons_of_neg (by simp [hstep, HostStep.isMove]),
        List.filter_cons_of_neg (by simp [HostStep.isMove])]
      exact ih hsame
    | false =>
      have hc := coupling_movedTo h.runtime habs
      obtain ⟨hseen, hsame⟩ := hc.observe_eq (hc.perform hx) hw
      rw [observations, List.filter_cons_of_pos (by simp [hstep, hx]),
        List.filter_cons_of_pos (by simp [hx]), observations, hseen]
      split
      · rfl
      · rw [ih hsame]

/-- **A host does not depend on the working directory.** Of two rows of steps that differ only in
moves of the working directory the same is seen, the moves themselves apart, wherever the working
directory is when they begin. -/
theorem observations_indifferent {r : Runtime} {base entry : Path} {w₀ w₁ : World}
    (hnew : Host.new r base entry w₀ = .ok h w₁) {xs ys : List HostStep}
    (hsame : xs.filter (!·.isMove) = ys.filter (!·.isMove)) (w : World) (cwd : Location) :
    (h.observations xs w).filter (!·.step.isMove)
      = (h.observations ys (w.movedTo cwd)).filter (!·.step.isMove) := by
  have habs := isAbsolute_entryPath hnew
  rw [observations_filter habs xs ⟨w.system.cwd, rfl⟩,
    observations_filter habs ys ⟨w.system.cwd, rfl⟩, hsame]
  rfl

end Host

/-- A world whose script goes away in the first cycle. -/
def forgetfulWorld : World :=
  smallWorld (some (bytesOf "1")) [⟨.run, 1, [.remove (.ofString "/app/main.js")], false⟩]

/-- A host whose base directory was given relative to the working directory. -/
theorem smallHost_indifferent :
    Host.new (.recorder true) (.ofString "app/.") (.ofString "main.js") forgetfulWorld
        = .ok smallHost forgetfulWorld
      ∧ (smallHost.observations [.runOnce 1, .probe, .runOnce 2] forgetfulWorld).filter
          (!·.step.isMove)
        = (smallHost.observations
            [.move (.ofString "app"), .runOnce 1, .probe, .move (.ofString "nowhere"), .runOnce 2]
            (forgetfulWorld.movedTo [bytesOf "app"])).filter (!·.step.isMove) := by
  have hnew : Host.new (.recorder true) (.ofString "app/.") (.ofString "main.js") forgetfulWorld
      = .ok smallHost forgetfulWorld := by cbv
  exact ⟨hnew, Host.observations_indifferent hnew (by rfl) forgetfulWorld [bytesOf "app"]⟩

end ScriptHost
