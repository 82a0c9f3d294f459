import Mathlib
import ScriptHost.Proofs.CanonicalBase
import ScriptHost.Proofs.Layering
import ScriptHost.Proofs.LogAccount

/-!
# Which file a missing configuration file is

A configuration file is looked for twice: once for the log, where the path leads from
the working directory, and once for its settings, which are looked for in the directories
above as well. The two agree about the working directory itself. Its canonical path leads
back to it without a link, so what is found there by the joined path is found by the path
as it was given (`find_of_join`).

They do not agree about the directories above. A file that is reported missing has no
influence only if it is not there either; if it is, the nearest one is read, as if it
had been named (`readConfig_of_missing`).
-/

namespace ScriptHost

/-! ## From the working directory -/

namespace FileTree

variable {t : FileTree} {cwd l : Location} {p : Path} {e : Entry}

/-- The walk of a joined path comes to the directory first, with all links left, and goes on as the
walk from there. -/
theorem arrives_of_join (hcwd : t.Reached cwd) (hdir : t.get? cwd = some .directory)
    (hp : p.isAbsolute = false) (h : t.follow cwd ((Path.ofNames cwd).join p) = .ok l) :
    ∃ left, Arrives t maxLinks cwd p.segments left l := by
  obtain ⟨links, dir, left, hthere, _, hrest⟩ :=
    arrives_of_follow_join (Path.isAbsolute_ofNames cwd) hp h
  have hdown := arrives_ofNames hcwd (Option.isSome_of_eq_some hdir)
  obtain ⟨rfl, rfl⟩ := hthere.unique hdown
  exact ⟨left, hrest⟩

theorem length_le_join (hp : p.isAbsolute = false) (base : Path) :
    p.bytes.length ≤ (base.join p).bytes.length := by
  rw [Path.join, if_neg (by simp [hp])]
  split <;> simp only [List.length_append, List.length_cons] <;> omega

/-- An entry that is no directory is found by the path itself. -/
theorem find_of_join (hcwd : t.Reached cwd) (hdir : t.get? cwd = some .directory)
    (hp : p.isAbsolute = false) (h : t.find cwd ((Path.ofNames cwd).join p) = .ok e)
    (he : e ≠ .directory) : t.find cwd p = .ok e := by
  obtain ⟨l, hlocate, hget⟩ := find_eq_ok h
  obtain ⟨hnul, _, _⟩ := follow_eq_ok_iff.mp (locate_eq_ok hlocate)
  obtain ⟨left, harr⟩ := arrives_of_join hcwd hdir hp (locate_eq_ok hlocate)
  have hpNul : 0 ∉ p.bytes := fun h0 => hnul (Path.mem_join hp (.inr h0))
  have hpLength : ¬ maxPath < p.bytes.length := by
    intro hlong
    rw [locate, if_neg hnul,
      if_pos (Nat.lt_of_lt_of_le hlong (length_le_join hp (Path.ofNames cwd)))] at hlocate
    cases hlocate
  have hpNil : p.bytes ≠ [] := by
    intro hnil
    -- an empty path would lead to the directory itself
    have hempty : p.segments = [[]] := by rw [Path.segments, hnil]; rfl
    rw [hempty] at harr
    obtain ⟨_, rfl⟩ := harr.unique (.step hdir (.stay rfl) .done)
    rw [hdir] at hget
    exact he (Option.some.inj hget).symm
  have hfollow : t.follow cwd p = .ok l := by
    refine follow_eq_ok_iff.mpr ⟨hpNul, hpNil, ?_⟩
    rw [hp]
    exact walk_of_arrives harr
  rw [find, locate, if_neg hpNul, if_neg hpLength, hfollow]
  simp only [hget]

/-- What can be read as a file was found, and is no directory. -/
theorem find_of_isFile (h : t.isFile cwd p = true) :
    ∃ e, t.find cwd p = .ok e ∧ e ≠ .directory := by
  unfold isFile at h
  cases hfind : t.find cwd p with
  | error fault => rw [hfind] at h; cases h
  | ok e =>
    refine ⟨e, rfl, ?_⟩
    rintro rfl
    rw [hfind] at h
    cases h

theorem exists?_of_find (h : t.find cwd p = .ok e) : t.exists? cwd p = true := by
  rw [exists?, h]

end FileTree

/-! ## The search -/

namespace Settings

variable {s : System} {p : Path}

/-- The directories above one, the nearest first. -/
def above (l : Location) : List Location := (List.range l.length).reverse.map l.take

theorem upwards_eq (l : Location) : upwards l = l :: above l := by
  simp [upwards, above, List.range_succ]

/-- A path leads to a file, seen from the directory `dir`. -/
def FileIn (s : System) (p : Path) (dir : Location) : Prop :=
  s.files.isFile s.cwd ((Path.ofNames dir).join p) = true

/-- No file is found in the working directory by a path that leads nowhere from there. -/
theorem not_fileIn_of_missing (hstands : s.Stands)
    (hdir : s.files.get? s.cwd = some .directory) (hp : p.isAbsolute = false)
    (hmissing : s.files.exists? s.cwd p = false) : ¬ FileIn s p s.cwd := by
  intro hfile
  obtain ⟨e, hfind, he⟩ := FileTree.find_of_isFile hfile
  have hthere := FileTree.find_of_join (hstands hdir) hdir hp hfind he
  rw [FileTree.exists?_of_find hthere] at hmissing
  cases hmissing

/-- An absolute path is searched for in one place. -/
theorem findFile?_of_isAbsolute (hp : p.isAbsolute = true) :
    findFile? s p = if s.files.isFile s.cwd p then some p else none := by
  rw [findFile?, if_pos hp]

theorem findFile?_of_fileIn {dir : Location} (h : FileIn s p dir) :
    findFile? s ((Path.ofNames dir).join p) = some ((Path.ofNames dir).join p) := by
  rw [findFile?_of_isAbsolute (Path.isAbsolute_join (Path.isAbsolute_ofNames dir))]
  exact if_pos h

/-- Nothing is found if there is no file in the directory or above it. -/
theorem findFile?_eq_none (hp : p.isAbsolute = false)
    (h : ∀ dir ∈ upwards s.cwd, ¬ FileIn s p dir) : findFile? s p = none := by
  rw [findFile?, hp, if_neg Bool.false_ne_true]
  split
  next =>
    rw [List.find?_eq_none]
    intro q hq
    obtain ⟨dir, hdir, rfl⟩ := List.mem_map.mp hq
    exact h dir hdir
  next => rfl

/-- The nearest file is the one that is found. -/
theorem findFile?_eq_some {nearer farther : List Location} {dir : Location}
    (hcwd : s.files.get? s.cwd = some .directory) (hp : p.isAbsolute = false)
    (hsplit : upwards s.cwd = nearer ++ dir :: farther)
    (hnearer : ∀ d ∈ nearer, ¬ FileIn s p d) (hdir : FileIn s p dir) :
    findFile? s p = some ((Path.ofNames dir).join p) := by
  rw [findFile?, hp, if_neg Bool.false_ne_true, if_pos hcwd, hsplit, List.map_append,
    List.find?_append]
  have hnone : (nearer.map fun d => (Path.ofNames d).join p).find?
      (fun q => s.files.isFile s.cwd q) = none := by
    rw [List.find?_eq_none]
    intro q hq
    obtain ⟨d, hd, rfl⟩ := List.mem_map.mp hq
    exact hnearer d hd
  rw [hnone, Option.none_or, List.map_cons, List.find?_cons_of_pos hdir]

/-- Loading without a file is loading one that is not found. -/
theorem loadConfig_of_findFile?_none (h : findFile? s p = none) :
    loadConfig s (some p) = loadConfig s none := by
  have hlayer : fileLayer s p = .ok [] := by rw [fileLayer, h]
  unfold loadConfig layered
  simp only [hlayer, mergeDict]

theorem loadConfig_of_findFile?_eq {q : Path} (h : findFile? s p = findFile? s q) :
    loadConfig s (some p) = loadConfig s (some q) := by
  have hlayer : fileLayer s p = fileLayer s q := by rw [fileLayer, fileLayer, h]
  unfold loadConfig layered
  simp only [hlayer]

end Settings

/-! ## A file that is reported missing -/

open Settings

variable {w : World} {p : Path}

theorem ended_readConfig_eq (file : Option Path) (w : World) :
    ended (readConfig file w) = (loadConfig w.system file, w.calls) := by
  cases file with
  | none =>
    unfold readConfig
    cases h : loadConfig w.system none <;>
      simp only [bind, EStateM.bind, get, getThe, MonadStateOf.get, EStateM.get, h] <;> rfl
  | some p =>
    obtain ⟨w', hcalls, _, hread⟩ := ended_readConfig p w
    rw [hread, ← hcalls]
    cases loadConfig w.system (some p) <;> rfl

/-- What is logged of a configuration file is whether the path leads anywhere. -/
theorem logs_readConfig (p : Path) (w : World) :
    (worldAfter (readConfig (some p) w)).logs = w.logs
      ++ [⟨w.cycle, if w.system.files.exists? w.system.cwd p then .configFileFound p
        else .configFileMissing p⟩] := by
  unfold readConfig
  cases h : loadConfig w.system (some p) <;>
    simp only [bind, EStateM.bind, get, getThe, MonadStateOf.get, EStateM.get, h] <;> rfl

/-- **A file that is reported missing may be one of a directory above.** From a working directory
that was reached, an absolute path that is reported missing, and a relative one that leads to no
file from any directory above, loads what is loaded without a file; otherwise the file of the
nearest such directory is loaded. -/
theorem readConfig_of_missing (hstands : w.system.Stands)
    (hdir : w.system.files.get? w.system.cwd = some .directory)
    (hlog : (worldAfter (readConfig (some p) w)).logs
      = w.logs ++ [⟨w.cycle, .configFileMissing p⟩]) :
    ((p.isAbsolute = true ∨ ∀ dir ∈ above w.system.cwd, ¬ FileIn w.system p dir) →
        (ended (readConfig (some p) w)).1 = (ended (readConfig none w)).1)
      ∧ ∀ nearer dir farther, p.isAbsolute = false →
        above w.system.cwd = nearer ++ dir :: farther →
        (∀ d ∈ nearer, ¬ FileIn w.system p d) → FileIn w.system p dir →
        (ended (readConfig (some p) w)).1
          = (ended (readConfig (some ((Path.ofNames dir).join p)) w)).1 := by
  have hmissing : w.system.files.exists? w.system.cwd p = false := by
    rw [logs_readConfig, List.append_cancel_left_eq] at hlog
    cases hexists : w.system.files.exists? w.system.cwd p with
    | false => rfl
    | true => rw [hexists] at hlog; simp at hlog
  simp only [ended_readConfig_eq]
  constructor
  · intro hnowhere
    apply loadConfig_of_findFile?_none
    cases hp : p.isAbsolute with
    | true =>
      have hfile : w.system.files.isFile w.system.cwd p = false := by
        rw [← Bool.not_eq_true]
        intro hfile
        obtain ⟨e, hfind, _⟩ := FileTree.find_of_isFile hfile
        rw [FileTree.exists?_of_find hfind] at hmissing
        cases hmissing
      rw [findFile?_of_isAbsolute hp, hfile, if_neg Bool.false_ne_true]
    | false =>
      have habove := hnowhere.resolve_left (by simp [hp])
      refine findFile?_eq_none hp ?_
      rw [upwards_eq]
      exact List.forall_mem_cons.mpr ⟨not_fileIn_of_missing hstands hdir hp hmissing, habove⟩
  · intro nearer dir farther hp hsplit hnearer hfile
    apply loadConfig_of_findFile?_eq
    have hhere := not_fileIn_of_missing hstands hdir hp hmissing
    have hall : upwards w.system.cwd = (w.system.cwd :: nearer) ++ dir :: farther := by
      rw [upwards_eq, hsplit]
      rfl
    rw [findFile?_eq_some hdir hp hall (List.forall_mem_cons.mpr ⟨hhere, hnearer⟩) hfile,
      findFile?_of_fileIn hfile]

/-- A file for five cycles. -/
def fiveCycles : String := "[runtime]\nrepeat = 5\n"

/-- The working directory below that of the file. -/
def besideFive : World := .start (systemWith fiveCycles []) [] []

theorem stands_besideFive : besideFive.system.Stands := by
  have hmove : System.move { besideFive.system with cwd := [] } (.ofString "app/log")
      = .ok besideFive.system := by cbv
  exact System.stands_of_move (System.stands_of_root rfl) hmove

/-- The file of the directory above is reported missing. -/
theorem logs_besideFive :
    (worldAfter (readConfig (some (.ofString "host.toml")) besideFive)).logs
      = besideFive.logs ++ [⟨besideFive.cycle, .configFileMissing (.ofString "host.toml")⟩] := by
  have hexists : besideFive.system.files.exists? besideFive.system.cwd (.ofString "host.toml")
      = false := by cbv
  rw [logs_readConfig, hexists]
  rfl

/-- The file that is reported missing is read. -/
theorem besideFive_reads :
    besideFive.system.Stands
      ∧ besideFive.system.files.get? besideFive.system.cwd = some .directory
      ∧ (worldAfter (readConfig (some (.ofString "host.toml")) besideFive)).logs
        = besideFive.logs ++ [⟨besideFive.cycle, .configFileMissing (.ofString "host.toml")⟩]
      ∧ FileIn besideFive.system (.ofString "host.toml") [bytesOf "app"]
      ∧ (ended (readConfig (some (.ofString "host.toml")) besideFive)).1
        = (ended (readConfig (some (.ofString "/app/host.toml")) besideFive)).1 := by
  have hdir : besideFive.system.files.get? besideFive.system.cwd = some .directory := by cbv
  have hfile : FileIn besideFive.system (.ofString "host.toml") [bytesOf "app"] := by
    unfold FileIn
    cbv
  have habove : above besideFive.system.cwd = [] ++ [bytesOf "app"] :: [[]] := by cbv
  refine ⟨stands_besideFive, hdir, logs_besideFive, hfile, ?_⟩
  have hpath : (Path.ofNames [bytesOf "app"]).join (.ofString "host.toml")
      = .ofString "/app/host.toml" := by cbv
  rw [← hpath]
  exact (readConfig_of_missing stands_besideFive hdir logs_besideFive).2 _ _ _ rfl habove
    (by simp) hfile

/-- **Not every file that is reported missing has no influence.** -/
theorem missing_file_counts :
    ¬ ∀ (w : World) (p : Path), w.system.Stands →
      w.system.files.get? w.system.cwd = some .directory →
      (worldAfter (readConfig (some p) w)).logs = w.logs ++ [⟨w.cycle, .configFileMissing p⟩] →
      (ended (readConfig (some p) w)).1 = (ended (readConfig none w)).1 := by
  intro hclaim
  have hsame := hclaim besideFive (.ofString "host.toml") stands_besideFive (by cbv)
    logs_besideFive
  rw [ended_readConfig_eq, ended_readConfig_eq] at hsame
  have hfile : loadConfig besideFive.system (some (.ofString "host.toml"))
      = .ok { runtime := { cycles := 5 } } := by
    have hlayers : Layers (systemWith fiveCycles []) { options := { config := some "host.toml" } }
        (settingsOf fiveCycles) (overlayOf []) := layers_systemWith rfl (by decide +kernel)
    have hload := hlayers.loadConfig_eq
    rw [configPath_systemWith rfl] at hload
    rw [besideFive, World.start, hload]
    decide +kernel
  have hnone : loadConfig besideFive.system none = .ok {} := by
    rw [besideFive, World.start, loadConfig_systemWith (by decide +kernel)]
    decide +kernel
  rw [hfile, hnone] at hsame
  cases hsame

end ScriptHost
