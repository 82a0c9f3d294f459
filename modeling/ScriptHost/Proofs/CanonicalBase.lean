import Mathlib
import ScriptHost.Proofs.Containment
import ScriptHost.Proofs.Delivery
import ScriptHost.Proofs.HostSteps
import ScriptHost.Proofs.Phases

/-!
# One base directory everywhere

The base directory is resolved twice: the command does it to find the library, and the
host does it once more. Both mean the same directory because a canonical path leads to
itself. A walk only ever stands in directories that it came to by names (`Reached`),
links and steps to a parent included, since a link is left behind when its target is
taken; so the names that it ends with can be walked down again without meeting anything
but directories (`follow_ofNames`), and resolving what was resolved changes nothing.

The one thing that a walk does not find for itself is where it begins. A working
directory that is there was reached in the same way (`System.Stands`): it was the root
directory once, and moves of it keep to reached locations (`stands_of_move`).
-/

namespace ScriptHost

/-- A segment that names an entry. -/
structure Path.IsName (s : Bytes) : Prop where
  not_stays : ¬ FileTree.stays s
  not_isParent : ¬ FileTree.isParent s
  slash_notMem : slash ∉ s
  length_le : s.length ≤ FileTree.maxName

/-! ## Where a walk can stand -/

namespace FileTree

/-- A location is the end of a way through directories, by names, and no link stands there. -/
structure Reached (t : FileTree) (l : Location) : Prop where
  names : ∀ s ∈ l, Path.IsName s
  through : ∀ dir s, dir ++ [s] <+: l → t.get? dir = some .directory
  not_link : ∀ target, t.get? l ≠ some (.link target)

variable {t : FileTree} {here here₁ l : Location} {s : Bytes} {links links₁ left : Nat}
  {steps more : List Bytes}

theorem reached_nil (t : FileTree) : t.Reached [] where
  names _ hs := absurd hs List.not_mem_nil
  through dir s h := absurd (List.prefix_nil.mp h) (by simp)
  not_link target := by simp [get?]

namespace Reached

/-- On the way to a location there is that location, and directories. -/
theorem directory_of_prefix (h : t.Reached l) {dir : Location} (hdir : dir <+: l) :
    dir = l ∨ t.get? dir = some .directory := by
  obtain ⟨rest, rfl⟩ := hdir
  cases rest with
  | nil => exact .inl (List.append_nil dir).symm
  | cons s rest => exact .inr (h.through dir s ⟨rest, by simp⟩)

theorem of_prefix (h : t.Reached l) (hpre : here <+: l) : t.Reached here where
  names s hs := h.names s (hpre.subset hs)
  through dir s hdir := h.through dir s (hdir.trans hpre)
  not_link target := by
    rcases h.directory_of_prefix hpre with rfl | hdir
    · exact h.not_link target
    · simp [hdir]

/-- One name further down. -/
theorem append (h : t.Reached here) (hdir : t.get? here = some .directory) (hs : Path.IsName s)
    (hlink : ∀ target, t.get? (here ++ [s]) ≠ some (.link target)) : t.Reached (here ++ [s]) where
  names x hx := by
    rcases List.mem_append.mp hx with hx | hx
    · exact h.names x hx
    · rw [List.mem_singleton.mp hx]; exact hs
  through dir x hpre := by
    rcases List.prefix_concat_iff.mp hpre with heq | hpre
    · rw [(List.append_inj' heq rfl).1]; exact hdir
    · exact h.through dir x hpre
  not_link := hlink

end Reached

/-- **What one segment does** keeps to reached locations, and puts only segments before the rest. -/
theorem reached_of_moves (h : t.Reached here) (hdir : t.get? here = some .directory)
    (hs : slash ∉ s) (hmove : Moves t here s links links₁ here₁ more) :
    t.Reached here₁ ∧ ∀ x ∈ more, slash ∉ x := by
  cases hmove with
  | stay => exact ⟨h, by simp⟩
  | up => exact ⟨h.of_prefix (List.dropLast_prefix here), by simp⟩
  | @down _ e hstays hup hlen hget hlink =>
    exact ⟨h.append hdir ⟨hstays, hup, hs, hlen⟩ (by simp [hget, hlink]), by simp⟩
  | @link _ target =>
    refine ⟨?_, fun x hx => Path.slash_notMem_of_mem_split hx⟩
    split
    · exact reached_nil t
    · exact h

/-- **A walk arrives at a reached location,** by induction on its steps. -/
theorem reached_of_arrives (harr : Arrives t links here steps left l) (h : t.Reached here)
    (hsteps : ∀ s ∈ steps, slash ∉ s) : t.Reached l := by
  induction harr with
  | done => exact h
  | step hdir hmove _ ih =>
    obtain ⟨hs, hrest⟩ := List.forall_mem_cons.mp hsteps
    obtain ⟨hthere, hmore⟩ := reached_of_moves h hdir hs hmove
    exact ih hthere (List.forall_mem_append.mpr ⟨hmore, hrest⟩)

/-- A path leads to a reached location. -/
theorem reached_of_follow {cwd : Location} {p : Path}
    (hcwd : t.get? cwd = some .directory → t.Reached cwd) (h : t.follow cwd p = .ok l) :
    t.Reached l := by
  obtain ⟨_, _, hwalk⟩ := follow_eq_ok_iff.mp h
  obtain ⟨left, harr⟩ := arrives_of_walk hwalk
  have hsegments : ∀ s ∈ p.segments, slash ∉ s := fun s hs => Path.slash_notMem_of_mem_split hs
  -- a path has a segment, and taking it needs a directory to stand in
  have hstand : t.get? (if p.isAbsolute then [] else cwd) = some .directory := by
    cases hsegs : p.segments with
    | nil => exact absurd hsegs (Path.split_ne_nil _)
    | cons s rest => rw [hsegs] at harr; cases harr; assumption
  refine reached_of_arrives harr ?_ hsegments
  split
  · exact reached_nil t
  · rename_i hp
    rw [if_neg hp] at hstand
    exact hcwd hstand

/-! ## Canonical paths lead to themselves -/

/-- The names on the way to an entry can be walked down again. -/
theorem arrives_of_reached {names : List Name} (h : t.Reached (here ++ names))
    (hl : (t.get? (here ++ names)).isSome) : Arrives t links here names links (here ++ names) := by
  induction names generalizing here with
  | nil => rw [List.append_nil]; exact .done
  | cons s names ih =>
    have hnext : here ++ s :: names = here ++ [s] ++ names := by simp
    rw [hnext] at h hl ⊢
    have hpre : here ++ [s] <+: here ++ [s] ++ names := List.prefix_append _ _
    obtain ⟨e, he⟩ : ∃ e, t.get? (here ++ [s]) = some e := by
      rcases h.directory_of_prefix hpre with heq | hdir
      · rw [heq]; exact Option.isSome_iff_exists.mp hl
      · exact ⟨_, hdir⟩
    have hname := h.names s (by simp)
    have hdown : Moves t here s links links (here ++ [s]) [] := by
      refine .down hname.not_stays hname.not_isParent hname.length_le he fun target hlink => ?_
      exact (h.of_prefix hpre).not_link target (hlink ▸ he)
    exact .step (h.through here s hpre) hdown (ih h hl)

/-- The walk of a canonical path goes down to the location that it spells. -/
theorem arrives_ofNames (h : t.Reached l) (hl : (t.get? l).isSome) :
    Arrives t maxLinks [] (Path.ofNames l).segments maxLinks l := by
  have hroot : t.get? [] = some .directory := if_pos rfl
  have hdown : Arrives t maxLinks [] l maxLinks l := arrives_of_reached h hl
  cases l with
  | nil => exact .step hroot (.stay rfl) (.step hroot (.stay rfl) .done)
  | cons s names =>
    have hsegments : (Path.ofNames (s :: names)).segments = [] :: s :: names :=
      Path.segments_under (fun x hx => (h.names x hx).slash_notMem) ⟨[]⟩
    rw [hsegments]
    exact .step hroot (.stay rfl) hdown

/-- **A canonical path leads to the location that it spells,** from everywhere. -/
theorem follow_ofNames {cwd : Location} (h : t.Reached l) (hl : (t.get? l).isSome) :
    t.follow cwd (Path.ofNames l) = .ok l := by
  have habs := Path.isAbsolute_ofNames l
  refine follow_eq_ok_iff.mpr ⟨Path.nul_notMem_ofNames (nul_notMem_of_get? hl),
    Path.bytes_ne_nil_of_isAbsolute habs, ?_⟩
  rw [if_pos habs]
  exact walk_of_arrives (arrives_ofNames h hl)

end FileTree

/-! ## The base directory -/

namespace System

variable {s : System} {c : HostConfig} {p b : Path}

/-- The working directory, where it is there, was reached. -/
def Stands (s : System) : Prop :=
  s.files.get? s.cwd = some .directory → s.files.Reached s.cwd

theorem stands_of_root (h : s.cwd = []) : s.Stands := by
  intro _
  rw [h]
  exact FileTree.reached_nil _

/-- The working directory is only moved to where a walk leads. -/
theorem stands_of_move {s' : System} (hstands : s.Stands) (h : s.move p = .ok s') : s'.Stands := by
  unfold move at h
  split at h
  · cases h
  · next l hlocate =>
    split at h
    · cases h
      exact fun _ => FileTree.reached_of_follow hstands (FileTree.locate_eq_ok hlocate)
    · cases h
    · cases h

/-- `b` is the directory that `p` leads to, spelled by the names on the way from the root directory.
All on this way are directories, so none of them is a link. -/
structure Leads (s : System) (p b : Path) (names : List Name) : Prop where
  spelled : b = Path.ofNames names
  proper : ∀ name ∈ names, name ≠ [] ∧ name ≠ [dot] ∧ name ≠ [dot, dot] ∧ slash ∉ name
  directories : ∀ dir, dir <+: names → s.files.get? dir = some .directory
  follows : s.files.follow s.cwd p = .ok names

/-- The path of the base directory that a configuration means: that of the program if it names
none, with the home directory for a leading tilde, and else as it is written. -/
inductive Means (s : System) (c : HostConfig) : Path → Prop where
  | program : c.runtime.baseDir = none → Means s c s.programDirectory
  | tilde {dir : Path} {text home : String} {rest : List Char} :
      c.runtime.baseDir = some dir → dir.text? = some text → text.toList = '~' :: rest →
      (rest = [] ∨ rest.head? = some '/') → s.home.text? = some home →
      Means s c ⟨s.home.bytes ++ bytesOf (String.ofList rest)⟩
  | written {dir : Path} : c.runtime.baseDir = some dir →
      (∀ text rest home, dir.text? = some text → text.toList = '~' :: rest →
        (rest = [] ∨ rest.head? = some '/') → s.home.text? ≠ some home) →
      Means s c dir

/-- The base directory of a configuration is that of the path that it means. -/
theorem baseDir_of_means (h : s.Means c p) : s.baseDir c = s.resolveBaseDir p := by
  unfold baseDir
  cases h with
  | program hnone => rw [hnone]
  | @tilde dir text home rest hsome htext hlist hrest hhome =>
    have hexpand : s.expandTilde text = home ++ String.ofList rest := by
      simp only [expandTilde, hlist, hrest, if_true, hhome]
    have hbytes : Path.ofString (home ++ String.ofList rest)
        = ⟨s.home.bytes ++ bytesOf (String.ofList rest)⟩ := by
      rw [Path.ofString, Utf8.bytesOf_append, Utf8.text?_eq_some_iff.mp hhome]
    simp only [hsome, htext]
    rw [hexpand, hbytes]
  | written hsome hnot =>
    rw [hsome]
    dsimp only
    cases htext : p.text? with
    | none => rfl
    | some text =>
      have hexpand : s.expandTilde text = text := by
        unfold expandTilde
        split
        next rest hlist =>
          split
          next hrest =>
            split
            next home hhome => exact absurd hhome (hnot text rest home htext hlist hrest)
            next => rfl
          next => rfl
        next => rfl
      have hbytes : Path.ofString text = p := by
        rw [Path.ofString, Utf8.text?_eq_some_iff.mp htext]
      dsimp only
      rw [hexpand, hbytes]

theorem exists_means (s : System) (c : HostConfig) : ∃ p, s.Means c p := by
  cases hdir : c.runtime.baseDir with
  | none => exact ⟨_, .program hdir⟩
  | some dir =>
    by_cases htilde : ∃ text rest home, dir.text? = some text ∧ text.toList = '~' :: rest
        ∧ (rest = [] ∨ rest.head? = some '/') ∧ s.home.text? = some home
    · obtain ⟨text, rest, home, htext, hlist, hrest, hhome⟩ := htilde
      exact ⟨_, .tilde hdir htext hlist hrest hhome⟩
    · refine ⟨_, .written hdir ?_⟩
      intro text rest home htext hlist hrest hhome
      exact htilde ⟨text, rest, home, htext, hlist, hrest, hhome⟩

/-- **A base directory is in normal form.** -/
theorem leads_of_resolveBaseDir (hstands : s.Stands) (h : s.resolveBaseDir p = .ok b) :
    ∃ names, s.Leads p b names := by
  obtain ⟨hcanonical, hfind⟩ := resolveBaseDir_eq_ok_iff.mp h
  obtain ⟨names, hfollow, hsome, rfl⟩ := FileTree.canonical_eq_ok_iff.mp hcanonical
  have hreached := FileTree.reached_of_follow hstands hfollow
  obtain ⟨l, hlocate, hget⟩ := FileTree.find_eq_ok hfind
  -- what was found under the canonical path is at the location that it spells
  have hl : names = l := by
    have hsame := FileTree.locate_eq_ok hlocate
    rw [FileTree.follow_ofNames hreached hsome] at hsame
    exact Except.ok.inj hsame
  subst hl
  refine ⟨names, rfl, fun name hname => ?_, fun dir hdir => ?_, hfollow⟩
  · obtain ⟨hstays, hup, hslash, _⟩ := hreached.names name hname
    refine ⟨?_, ?_, ?_, hslash⟩
    · rintro rfl; exact hstays rfl
    · rintro rfl; exact hstays rfl
    · rintro rfl; exact hup rfl
  · rcases hreached.directory_of_prefix hdir with rfl | hdirectory
    · exact hget
    · exact hdirectory

/-- Resolving a base directory again changes nothing. -/
theorem resolveBaseDir_idem (hstands : s.Stands) (h : s.resolveBaseDir p = .ok b) :
    s.resolveBaseDir b = .ok b := by
  obtain ⟨hcanonical, hfind⟩ := resolveBaseDir_eq_ok_iff.mp h
  obtain ⟨names, hfollow, hsome, rfl⟩ := FileTree.canonical_eq_ok_iff.mp hcanonical
  have hreached := FileTree.reached_of_follow hstands hfollow
  exact resolveBaseDir_eq_ok_iff.mpr ⟨FileTree.canonical_eq_ok_iff.mpr
    ⟨names, FileTree.follow_ofNames hreached hsome, hsome, rfl⟩, hfind⟩

/-- The libraries of the system are not looked at for an absolute path. -/
theorem loadObject_of_isAbsolute (hp : p.isAbsolute = true)
    (libraries : List (Bytes × SharedObject)) :
    { s with systemLibraries := libraries }.loadObject p = s.loadObject p := by
  have hslash : slash ∈ p.bytes := List.mem_of_mem_head? (by simpa [Path.isAbsolute] using hp)
  unfold loadObject
  simp only [hslash, if_true]

end System

/-! ## A run -/

/-- A run of a configuration with all that belongs to it below the directory `base`. -/
def runIn (base : Path) (c : HostConfig) : Act (List Report) := do
  let runtime ← Runtime.load (base.join (c.runtime.library.getD defaultLibraryFile))
  let host : Host := ⟨runtime, base, c.runtime.entryScript⟩
  Act.log (.hosting (base.join c.runtime.entryScript) base c.runtime.cycles.toNat)
  host.run c.runtime.cycles.toNat

variable {c : HostConfig} {b : Path} {w : World}

/-- The second resolution is left out. -/
theorem executeRun_eq (hb : w.system.baseDir c = .ok b)
    (hagain : w.system.resolveBaseDir b = .ok b) : executeRun c w = runIn b c w := by
  have hobserve := Act.observe_eq (fun s => s.baseDir c) w
  rw [hb] at hobserve
  unfold executeRun runIn
  rw [Act.bind_of_ok hobserve]
  obtain ⟨w', hsystem, _, hload⟩ := Runtime.load_eq (c.runtime.libraryPath b) w
  have hpath : b.join (c.runtime.library.getD defaultLibraryFile) = c.runtime.libraryPath b := rfl
  rw [hpath]
  cases hopen : w.system.openRuntime (c.runtime.libraryPath b) with
  | error e =>
    rw [hopen] at hload
    rw [Act.bind_of_error hload, Act.bind_of_error hload]
  | ok found =>
    rw [hopen] at hload
    rw [Act.bind_of_ok hload.1, Act.bind_of_ok hload.1, runWith_eq, hsystem, hagain]
    rfl

namespace Host

/-- Whole cycles start the runtime for the base directory only. -/
theorem init_mem_lapCalls {base dir : Bytes} {laps : List Lap}
    (h : .init dir ∈ lapCalls base laps) : dir = base := by
  obtain ⟨lap, _, hlap⟩ := List.mem_flatMap.mp h
  simpa [Lap.calls] using hlap

/-- A cycle that is cut short starts it for no other directory. -/
theorem init_mem_cutShort {h : Host} {n : Nat} {w : World} {stop : Stop} {last : List Call}
    {dir : Bytes} (hcut : h.CutShort n w stop last) (hmem : .init dir ∈ last) :
    dir = h.baseDir.bytes := by
  cases hcut with
  | failed hfails =>
    cases hfails with
    | notText => exact absurd hmem List.not_mem_nil
    | _ => simpa using hmem
  | _ => simpa using hmem

/-- **A run of a host starts its runtime for the base directory of the host only.** -/
theorem init_of_run {h : Host} (hbase : 0 ∉ h.baseDir.bytes) (count : Nat) (w : World) :
    ∃ more, (ended (h.run count w)).2 = w.calls ++ more
      ∧ ∀ dir, .init dir ∈ more → dir = h.baseDir.bytes := by
  have hlaw := runFrom_traceLaw hbase count 1 w
  rw [run]
  cases hend : h.runFrom 1 count w with
  | ok reports w' =>
    rw [hend] at hlaw
    obtain ⟨laps, _, hadvances, _⟩ := hlaw
    exact ⟨_, hadvances.calls, fun dir hmem => init_mem_lapCalls hmem⟩
  | error stop w' =>
    rw [hend] at hlaw
    obtain ⟨laps, w₁, last, _, _, hadvances, hlast, hcut⟩ := hlaw
    rw [hadvances.calls, List.append_assoc] at hlast
    refine ⟨_, hlast, fun dir hmem => ?_⟩
    rcases List.mem_append.mp hmem with hmem | hmem
    · exact init_mem_lapCalls hmem
    · exact init_mem_cutShort hcut hmem

end Host

theorem init_of_runIn (hbase : 0 ∉ b.bytes) (c : HostConfig) (w : World) :
    ∃ more, (ended (runIn b c w)).2 = w.calls ++ more
      ∧ ∀ dir, .init dir ∈ more → dir = b.bytes := by
  obtain ⟨w', _, hcalls, hload⟩ := Runtime.load_eq (c.runtime.libraryPath b) w
  unfold runIn
  have hpath : b.join (c.runtime.library.getD defaultLibraryFile) = c.runtime.libraryPath b := rfl
  rw [hpath]
  cases hopen : w.system.openRuntime (c.runtime.libraryPath b) with
  | error e =>
    rw [hopen] at hload
    rw [Act.bind_of_error hload]
    exact ⟨[], (List.append_nil _).symm, by simp⟩
  | ok found =>
    rw [hopen] at hload
    rw [Act.bind_of_ok hload.1, ← hcalls]
    exact Host.init_of_run (h := ⟨found.1, b, c.runtime.entryScript⟩) hbase _ (w'.logged _)

/-- **One base directory everywhere.** The base directory of a configuration is absolute and in
normal form, is where the path that the configuration means leads to, and is its own base
directory. So a run has all that belongs to it below this one directory: the library, whose path is
absolute and which is therefore never looked for among those of the system, the script, and what
the runtime is started for in every cycle. -/
theorem executeRun_in_baseDir (hstands : w.system.Stands) (hb : w.system.baseDir c = .ok b) :
    b.isAbsolute = true
      ∧ (∃ p, w.system.Means c p)
      ∧ (∀ p, w.system.Means c p → ∃ names, w.system.Leads p b names)
      ∧ w.system.resolveBaseDir b = .ok b
      ∧ executeRun c w = runIn b c w
      ∧ (∃ more, (ended (executeRun c w)).2 = w.calls ++ more
        ∧ ∀ dir, .init dir ∈ more → dir = b.bytes)
      ∧ (c.runtime.libraryPath b).isAbsolute = true
      ∧ ∀ libraries, { w.system with systemLibraries := libraries }.loadObject
          (c.runtime.libraryPath b) = w.system.loadObject (c.runtime.libraryPath b) := by
  obtain ⟨p, hp⟩ := w.system.exists_means c
  have hres : w.system.resolveBaseDir p = .ok b := by rw [← System.baseDir_of_means hp, hb]
  have hagain := System.resolveBaseDir_idem hstands hres
  have hnew := Host.new_eq (.recorder true) b c.runtime.entryScript w
  rw [hagain] at hnew
  have habs : b.isAbsolute = true := Host.isAbsolute_baseDir hnew
  have hlibrary := Path.isAbsolute_join (p := c.runtime.library.getD defaultLibraryFile) habs
  have hrun := executeRun_eq hb hagain
  refine ⟨habs, ⟨p, hp⟩, fun q hq => ?_, hagain, hrun, ?_, hlibrary,
    System.loadObject_of_isAbsolute hlibrary⟩
  · rw [System.baseDir_of_means hq] at hb
    exact System.leads_of_resolveBaseDir hstands hb
  · rw [hrun]
    exact init_of_runIn (Host.nul_notMem_baseDir hnew) c w

/-- A home directory whose application is reached through links, from somewhere else. -/
def linkedSystem : System :=
  let home : Location := [bytesOf "home"]
  let app : Location := home ++ [bytesOf "app"]
  { files := ⟨[(home, .directory),
      (home ++ [bytesOf "current"], .link (.ofString "../srv/back/./app")),
      (app, .directory), (app ++ [bytesOf "main.js"], .file (bytesOf "1")),
      (app ++ [bytesOf "lib.so"], .object ⟨[.init, .runScript, .deinit], [5, 6]⟩),
      ([bytesOf "srv"], .directory),
      ([bytesOf "srv", bytesOf "back"], .link (.ofString "/home"))]⟩
    cwd := [bytesOf "srv"]
    env := [(bytesOf "HOME", bytesOf "back")]
    accountHome := .ofString "/root"
    programDirectory := .ofString "/opt"
    systemLibraries := [(bytesOf "lib.so", ⟨[], []⟩)] }

def linkedConfig : HostConfig :=
  { runtime := {
      baseDir := some (.ofString "~/current/.")
      library := some (.ofString "lib.so")
      entryScript := .ofString "main.js"
      cycles := 2 } }

theorem linkedSystem_stands : linkedSystem.Stands := by
  have hmove : System.move { linkedSystem with cwd := [] } (.ofString "srv/.")
      = .ok linkedSystem := by cbv
  exact System.stands_of_move (System.stands_of_root rfl) hmove

theorem linkedConfig_in_baseDir :
    linkedSystem.baseDir linkedConfig = .ok (.ofString "/home/app")
      ∧ linkedSystem.Means linkedConfig (.ofString "back/current/.")
      ∧ (∃ names, linkedSystem.Leads (.ofString "back/current/.") (.ofString "/home/app") names)
      ∧ executeRun linkedConfig (.start linkedSystem [] [])
        = runIn (.ofString "/home/app") linkedConfig (.start linkedSystem [] []) := by
  have hb : linkedSystem.baseDir linkedConfig = .ok (.ofString "/home/app") := by cbv
  have hmeans : linkedSystem.Means linkedConfig (.ofString "back/current/.") := by
    have hpath : (⟨linkedSystem.home.bytes ++ bytesOf (String.ofList "/current/.".toList)⟩ : Path)
        = .ofString "back/current/." := by cbv
    have htext : (Path.ofString "~/current/.").text? = some "~/current/." := by cbv
    have hhome : linkedSystem.home.text? = some "back" := by cbv
    rw [← hpath]
    exact .tilde rfl htext (by decide) (.inr (by decide)) hhome
  obtain ⟨_, _, hleads, _, hrun, _⟩ :=
    executeRun_in_baseDir (w := .start linkedSystem [] []) linkedSystem_stands hb
  exact ⟨hb, hmeans, hleads _ hmeans, hrun⟩

end ScriptHost
