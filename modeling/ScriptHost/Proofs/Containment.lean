import Mathlib
import ScriptHost.Proofs.BaseDirectory
import ScriptHost.Proofs.Cycle
import ScriptHost.Proofs.Validity
import ScriptHost.Proofs.Walks

/-!
# The entry script stays below the base directory

A configuration is only accepted if its entry script is a relative path without a step
to a parent. Such a path has nothing but names in it, once empty segments and dots are
left out, so joined to the base directory it spells a walk that begins with the base
directory and goes down from there (`components_join`). That is a statement about texts.

The file that is opened is another matter, since a link can lead anywhere. It is below
the base directory unless one of the paths between the two names a link
(`follow_join`): links on the way to the base directory do no harm, and neither
do links that the script's path does not go through.
-/

namespace ScriptHost

/-! ## The segments of a path -/

namespace Path

theorem split_ne_nil (bs : Bytes) : split bs ≠ [] := by
  cases bs with
  | nil => simp [split]
  | cons b bs =>
    rw [split]
    split
    · exact List.cons_ne_nil _ _
    · split <;> exact List.cons_ne_nil _ _

theorem split_append (xs ys : Bytes) : split (xs ++ slash :: ys) = split xs ++ split ys := by
  induction xs with
  | nil => simp [split]
  | cons b xs ih =>
    rw [List.cons_append, split, split, ih]
    split
    · rfl
    · cases hs : split xs with
      | nil => exact absurd hs (split_ne_nil xs)
      | cons s ss => rfl

theorem slash_notMem_of_mem_split {bs s : Bytes} (h : s ∈ split bs) : slash ∉ s := by
  induction bs generalizing s with
  | nil => rw [split, List.mem_singleton] at h; rw [h]; exact List.not_mem_nil
  | cons b bs ih =>
    rw [split] at h
    split at h
    next =>
      rcases List.mem_cons.mp h with rfl | h
      · exact List.not_mem_nil
      · exact ih h
    next hb =>
      cases hs : split bs with
      | nil => exact absurd hs (split_ne_nil bs)
      | cons x xs =>
        rw [hs] at h ih
        rcases List.mem_cons.mp h with rfl | h
        · exact List.not_mem_cons_of_ne_of_not_mem (Ne.symm hb) (ih List.mem_cons_self)
        · exact ih (List.mem_cons_of_mem _ h)

theorem mem_of_mem_split {bs s : Bytes} {b : UInt8} (h : s ∈ split bs) (hb : b ∈ s) : b ∈ bs := by
  induction bs generalizing s with
  | nil => rw [split, List.mem_singleton] at h; rw [h] at hb; exact absurd hb List.not_mem_nil
  | cons c bs ih =>
    rw [split] at h
    split at h
    next =>
      rcases List.mem_cons.mp h with rfl | h
      · exact absurd hb List.not_mem_nil
      · exact List.mem_cons_of_mem _ (ih h hb)
    next =>
      cases hs : split bs with
      | nil => exact absurd hs (split_ne_nil bs)
      | cons x xs =>
        rw [hs] at h ih
        rcases List.mem_cons.mp h with rfl | h
        · rcases List.mem_cons.mp hb with rfl | hb
          · exact List.mem_cons_self
          · exact List.mem_cons_of_mem _ (ih List.mem_cons_self hb)
        · exact List.mem_cons_of_mem _ (ih (List.mem_cons_of_mem _ h) hb)

/-- A text without a slash is a segment. -/
theorem split_of_notMem {s : Bytes} (h : slash ∉ s) : split s = [s] := by
  induction s with
  | nil => rfl
  | cons b s ih =>
    rw [List.mem_cons, not_or] at h
    rw [split, if_neg (Ne.symm h.1), ih h.2]

/-- The path of names below a base path. -/
def under (base : Path) (names : List Bytes) : Path := ⟨base.bytes ++ names.flatMap (slash :: ·)⟩

theorem segments_under {names : List Bytes} (h : ∀ s ∈ names, slash ∉ s) (base : Path) :
    (base.under names).segments = base.segments ++ names := by
  induction names generalizing base with
  | nil => simp [under, segments]
  | cons s names ih =>
    have hs : Path.segments ⟨base.bytes ++ slash :: s⟩ = base.segments ++ [s] := by
      rw [segments, split_append, split_of_notMem (h s List.mem_cons_self)]
      rfl
    have hrest := ih (fun x hx => h x (List.mem_cons_of_mem _ hx)) ⟨base.bytes ++ slash :: s⟩
    rw [hs, List.append_assoc] at hrest
    rw [← show Path.segments _ = base.segments ++ s :: names from hrest]
    simp [under, segments]

/-- A join puts the segments of both paths together. A slash at the end of the first one is the
one between them. -/
theorem segments_join {base p : Path} (hbase : base.bytes ≠ []) (hp : p.isAbsolute = false) :
    ∃ first, (base.segments = first ∨ base.segments = first ++ [[]])
      ∧ (base.join p).segments = first ++ p.segments := by
  have hjoin : base.join p = if base.bytes.getLast? = some slash then ⟨base.bytes ++ p.bytes⟩
      else ⟨base.bytes ++ slash :: p.bytes⟩ := by
    simp [join, hp, hbase]
  rw [hjoin]
  split
  next hlast =>
    obtain ⟨xs, hxs⟩ := List.getLast?_eq_some_iff.mp hlast
    refine ⟨split xs, Or.inr ?_, ?_⟩
    · rw [segments, hxs, split_append]; rfl
    · rw [segments, hxs, List.append_assoc]; exact split_append xs p.bytes
  next => exact ⟨base.segments, Or.inl rfl, split_append _ _⟩

theorem bytes_ne_nil_of_isAbsolute {p : Path} (h : p.isAbsolute = true) : p.bytes ≠ [] := by
  intro hnil
  simp [isAbsolute, hnil] at h

/-- An absolute path stays one when another is joined to it. -/
theorem isAbsolute_join {base p : Path} (hbase : base.isAbsolute = true) :
    (base.join p).isAbsolute = true := by
  have hhead : ∀ bs, (⟨base.bytes ++ bs⟩ : Path).isAbsolute = true := by
    intro bs
    simp only [isAbsolute, decide_eq_true_eq] at hbase ⊢
    rw [List.head?_append, hbase]
    rfl
  unfold join
  split
  next h => exact h
  next => split <;> exact hhead _

/-- A join keeps the bytes of both paths. -/
theorem mem_join {base p : Path} {b : UInt8} (hp : p.isAbsolute = false)
    (hb : b ∈ base.bytes ∨ b ∈ p.bytes) : b ∈ (base.join p).bytes := by
  rw [join, if_neg (by simp [hp])]
  split <;> simp only [List.mem_append, List.mem_cons] <;> tauto

/-! ## Its walk -/

/-- The names that a path goes through. -/
def names (p : Path) : List Name := p.segments.filter (!FileTree.stays ·)

theorem component?_of_stays {s : Bytes} (h : FileTree.stays s = true) : component? s = none := by
  unfold FileTree.stays at h
  rw [component?, if_pos (by simpa using h)]

theorem component?_of_name {s : Bytes} (hstays : ¬ FileTree.stays s) (hup : ¬ FileTree.isParent s) :
    component? s = some (.normal s) := by
  unfold FileTree.stays at hstays
  unfold FileTree.isParent at hup
  rw [component?, if_neg (by simpa using hstays), if_neg (by simpa using hup)]

/-- Segments that never go up are names, and segments without a meaning. -/
theorem filterMap_component? {steps : List Bytes} (h : ∀ s ∈ steps, ¬ FileTree.isParent s) :
    steps.filterMap component? = (steps.filter (!FileTree.stays ·)).map .normal := by
  induction steps with
  | nil => rfl
  | cons s steps ih =>
    have hrest := ih fun x hx => h x (List.mem_cons_of_mem _ hx)
    by_cases hstays : FileTree.stays s
    · simp [component?_of_stays hstays, hstays, hrest]
    · simp [component?_of_name hstays (h s List.mem_cons_self), hstays, hrest]

theorem components_of_isAbsolute {p : Path} (h : p.isAbsolute = true) :
    p.components = .root :: p.segments.filterMap component? := by
  rw [components, if_pos h]

/-- A path whose walk has no step to a parent has no such segment. -/
theorem not_isParent_of_components {p : Path} (hparent : .parent ∉ p.components) :
    ∀ s ∈ p.segments, ¬ FileTree.isParent s := by
  intro s hs hup
  unfold FileTree.isParent at hup
  rw [of_decide_eq_true hup] at hs
  exact hparent (parent_mem_components_iff.mpr hs)

/-- **Joined to an absolute directory,** a relative path that never goes up walks to the directory
and then down by names only. -/
theorem components_join {base p : Path} (hbase : base.isAbsolute = true)
    (hp : p.isAbsolute = false) (hparent : .parent ∉ p.components) :
    (base.join p).components = base.components ++ p.names.map .normal := by
  have hne := bytes_ne_nil_of_isAbsolute hbase
  obtain ⟨first, hfirst, hjoin⟩ := segments_join hne hp
  have hsame : base.segments.filterMap component? = first.filterMap component? := by
    rcases hfirst with h | h
    · rw [h]
    · rw [h, List.filterMap_append]
      simp [component?]
  rw [components_of_isAbsolute (isAbsolute_join hbase), components_of_isAbsolute hbase, hjoin,
    List.filterMap_append, hsame, filterMap_component? (not_isParent_of_components hparent)]
  rfl

/-! ## Its normal form -/

/-- One more component behind a walk in normal form, without looking at any file. -/
def settle (done : List Component) : Component → List Component
  | .root => [.root]
  | .here => done
  | .parent =>
    match done.getLast? with
    | some (.normal _) => done.dropLast
    | some .root => done
    | _ => done ++ [.parent]
  | .normal name => done ++ [.normal name]

/-- The walk of a path with every step to a parent taken back, by the text of the path alone. -/
def lexical (p : Path) : List Component := p.components.foldl settle []

theorem foldl_settle_names (names : List Bytes) (done : List Component) :
    (names.map Component.normal).foldl settle done = done ++ names.map .normal := by
  induction names generalizing done with
  | nil => simp
  | cons name names ih =>
    rw [List.map_cons, List.foldl_cons, ih]
    simp [settle]

/-- Names at the end of a walk stay in its normal form. -/
theorem lexical_of_components {p q : Path} {names : List Bytes}
    (h : q.components = p.components ++ names.map .normal) :
    q.lexical = p.lexical ++ names.map .normal := by
  rw [lexical, h, List.foldl_append, foldl_settle_names]
  rfl

/-- Walking on from where `p` leads. -/
def Extends (q p : Path) : Prop := p.components <+: q.components ∧ q.components ≠ p.components

theorem isAbsolute_under {base : Path} {names : List Bytes} (hbase : base.isAbsolute = true) :
    (base.under names).isAbsolute = true := by
  simp only [isAbsolute, decide_eq_true_eq] at hbase ⊢
  rw [under, List.head?_append, hbase]
  rfl

/-- The paths of names below an absolute path extend it by these names. -/
theorem components_under {base : Path} {names : List Bytes} (hbase : base.isAbsolute = true)
    (hslash : ∀ s ∈ names, slash ∉ s) :
    (base.under names).components = base.components ++ names.filterMap component? := by
  rw [components_of_isAbsolute (isAbsolute_under hbase), components_of_isAbsolute hbase,
    segments_under hslash, List.filterMap_append]
  rfl

end Path

/-! ## The file that is opened -/

namespace FileTree

variable {t : FileTree} {cwd : Location}

/-- The absolute path `p` names a link: its last name is that of one, where the way in front of it
leads. -/
def IsLink (t : FileTree) (cwd : Location) (p : Path) : Prop :=
  ∃ dir name here target, p.components = dir.components ++ [.normal name]
    ∧ t.follow cwd dir = .ok here ∧ t.get? (here ++ [name]) = some (.link target)

theorem not_isLink {p : Path} (h : ∀ e ∈ t.entries, ∀ target, e.2 ≠ .link target) :
    ¬ t.IsLink cwd p := by
  rintro ⟨_, name, here, target, _, _, hget⟩
  unfold get? at hget
  split at hget
  · cases hget
  · split at hget
    · cases hget
    · obtain ⟨_, _, hmem, _⟩ := List.lookup_eq_some_iff.mp hget
      exact h (here ++ [name], .link target) (by rw [hmem]; simp) target rfl

theorem follow_eq_ok_iff {p : Path} {l : Location} :
    t.follow cwd p = .ok l ↔ 0 ∉ p.bytes ∧ p.bytes ≠ []
      ∧ t.walk maxLinks (if p.isAbsolute then [] else cwd) p.segments = .ok l := by
  unfold follow
  by_cases hnul : 0 ∈ p.bytes
  · simp [hnul]
  · by_cases hnil : p.bytes = []
    · simp [hnil]
    · rw [if_neg hnul, if_neg hnil]
      cases t.walk maxLinks (if p.isAbsolute then [] else cwd) p.segments <;> simp [hnul, hnil]

theorem locate_eq_ok {p : Path} {l : Location} (h : t.locate cwd p = .ok l) :
    t.follow cwd p = .ok l := by
  unfold locate at h
  split at h
  · cases h
  · split at h
    · cases h
    · exact h

theorem find_eq_ok {p : Path} {e : Entry} (h : t.find cwd p = .ok e) :
    ∃ l, t.locate cwd p = .ok l ∧ t.get? l = some e := by
  unfold find at h
  split at h
  next => cases h
  next l hl =>
    split at h
    next hget => cases h; exact ⟨l, hl, hget⟩
    next => cases h

/-- What is read is the content of a file, or the header of a library. -/
theorem read_eq_ok {p : Path} {content : Bytes} (h : t.read cwd p = .ok content) :
    ∃ l, t.locate cwd p = .ok l ∧ (t.get? l = some (.file content)
      ∨ (∃ library, t.get? l = some (.object library)) ∧ content = objectHeader) := by
  unfold read at h
  split at h
  next hfind =>
    cases h
    obtain ⟨l, hl, hget⟩ := find_eq_ok hfind
    exact ⟨l, hl, .inl hget⟩
  next hfind =>
    cases h
    obtain ⟨l, hl, hget⟩ := find_eq_ok hfind
    exact ⟨l, hl, .inr ⟨⟨_, hget⟩, rfl⟩⟩
  all_goals cases h

/-- A walk along a joined path comes to the directory that the first path leads to, and goes on from
there. -/
theorem arrives_of_follow_join {base p : Path} {l : Location} (hbase : base.isAbsolute = true)
    (hp : p.isAbsolute = false) (h : t.follow cwd (base.join p) = .ok l) :
    ∃ links dir left, Arrives t maxLinks [] base.segments links dir
      ∧ t.get? dir = some .directory ∧ Arrives t links dir p.segments left l := by
  obtain ⟨_, _, hwalk⟩ := follow_eq_ok_iff.mp h
  have hne := Path.bytes_ne_nil_of_isAbsolute hbase
  obtain ⟨first, hfirst, hsegs⟩ := Path.segments_join hne hp
  rw [if_pos (Path.isAbsolute_join hbase), hsegs] at hwalk
  obtain ⟨left, harr⟩ := arrives_of_walk hwalk
  obtain ⟨links, dir, hdir, hrest⟩ := arrives_append.mp harr
  -- the second path has a segment, and taking it needs a directory to stand in
  have hstand : t.get? dir = some .directory := by
    cases hsegs : p.segments with
    | nil => exact absurd hsegs (Path.split_ne_nil _)
    | cons s rest => rw [hsegs] at hrest; cases hrest; assumption
  refine ⟨links, dir, left, ?_, hstand, hrest⟩
  rcases hfirst with h | h
  · rw [h]; exact hdir
  · rw [h]; exact arrives_trans hdir (.step hstand (.stay rfl) .done)

/-- **Only a link leads out of a directory.** A relative path that never goes up leads to where its
names say, seen from an absolute path, unless a path between the two names a link. -/
theorem follow_join {base p : Path} {l : Location} (hbase : base.isAbsolute = true)
    (hp : p.isAbsolute = false) (hparent : .parent ∉ p.components)
    (hlinks : ∀ q : Path, q.Extends base → q.components <+: (base.join p).components →
      ¬ t.IsLink cwd q)
    (h : t.follow cwd (base.join p) = .ok l) :
    ∃ dir, t.follow cwd base = .ok dir ∧ l = dir ++ p.names := by
  obtain ⟨hnul, _, _⟩ := follow_eq_ok_iff.mp h
  obtain ⟨links, dir, left, hthere, _, hrest⟩ := arrives_of_follow_join hbase hp h
  have hne := Path.bytes_ne_nil_of_isAbsolute hbase
  have hbaseNul : 0 ∉ base.bytes := fun h0 => hnul (Path.mem_join hp (.inl h0))
  have hsegNul : ∀ s ∈ p.segments, 0 ∉ s := fun s hs h0 =>
    hnul (Path.mem_join hp (.inr (Path.mem_of_mem_split hs h0)))
  have hfollow : ∀ pre links' mid, (∀ s ∈ pre, s ∈ p.segments) →
      Arrives t links dir pre links' mid → t.follow cwd (base.under pre) = .ok mid := by
    intro pre links' mid hpre hmid
    have hslash : ∀ s ∈ pre, slash ∉ s := fun s hs => Path.slash_notMem_of_mem_split (hpre s hs)
    refine follow_eq_ok_iff.mpr ⟨?_, ?_, ?_⟩
    · simp only [Path.under, List.mem_append, List.mem_flatMap, List.mem_cons, not_or, not_exists,
        not_and]
      exact ⟨hbaseNul, fun s hs => ⟨by decide, hsegNul s (hpre s hs)⟩⟩
    · simp [Path.under, hne]
    · rw [Path.isAbsolute_under hbase, if_pos rfl, Path.segments_under hslash]
      exact walk_of_arrives (arrives_trans hthere hmid)
  refine ⟨dir, ?_, eq_of_arrives hrest (Path.not_isParent_of_components hparent) ?_⟩
  · simpa [Path.under] using hfollow [] links dir (by simp) .done
  intro pre s hpre hstays links' mid hmid target hget
  have hmem : ∀ x ∈ pre ++ [s], x ∈ p.segments := fun x hx => hpre.subset hx
  have hname : Path.component? s = some (.normal s) :=
    Path.component?_of_name hstays
      (Path.not_isParent_of_components hparent s (hmem s (by simp)))
  have hcomponents : ∀ xs, (∀ x ∈ xs, x ∈ p.segments) →
      (base.under xs).components = base.components ++ xs.filterMap Path.component? := by
    intro xs hxs
    exact Path.components_under hbase fun x hx => Path.slash_notMem_of_mem_split (hxs x hx)
  apply hlinks (base.under (pre ++ [s]))
  · rw [Path.Extends, hcomponents _ hmem]
    simp [hname]
  · rw [hcomponents _ hmem, Path.components_join hbase hp hparent, Path.names,
      ← Path.filterMap_component? (Path.not_isParent_of_components hparent),
      List.prefix_append_right_inj]
    exact hpre.filterMap _
  · refine ⟨base.under pre, s, mid, target, ?_, ?_, hget⟩
    · rw [hcomponents _ hmem, hcomponents _ fun x hx => hmem x (List.mem_append_left _ hx)]
      simp [hname]
    · exact hfollow pre links' mid (fun x hx => hmem x (List.mem_append_left _ hx)) hmid

end FileTree

namespace EntryScript

theorem not_text_objectHeader (cs : List Char) : Utf8.decode FileTree.objectHeader ≠ .ok cs := by
  have hfault : Utf8.decode FileTree.objectHeader = .error ⟨7, some 1⟩ := by cbv
  intro h
  rw [hfault] at h
  cases h

/-- A script that was read is the content of the file that its path leads to. -/
theorem file_of_ofFile {s : System} {p : Path} {script : EntryScript}
    (h : ofFile s p = .ok script) :
    ∃ l, s.files.locate s.cwd p = .ok l
      ∧ s.files.get? l = some (.file (bytesOf script.source)) := by
  unfold ofFile at h
  split at h
  next => cases h
  next content hread =>
    split at h
    next => cases h
    next cs hdecode =>
      cases h
      have hcontent : bytesOf (String.ofList cs) = content := by
        rw [Utf8.bytesOf_ofList, Utf8.encode_of_decode hdecode]
      rcases FileTree.read_eq_ok hread with ⟨l, hl, hfile | ⟨_, rfl⟩⟩
      · exact ⟨l, hl, hcontent ▸ hfile⟩
      · exact absurd hdecode (not_text_objectHeader cs)

end EntryScript

namespace Host

variable {c : HostConfig} {r : Runtime} {base : Path} {w w' : World} {h : Host}

/-- **The entry script stays below the base directory.** On the walk of its path only names follow
those of the base directory, so its normal form is that of the base directory or below it. In
whatever files are there when it is read, unless a path that extends the base directory and that
the script's path goes through is a link, the file that is opened is the base directory's own or
below it, and what was read is the content of that file. -/
theorem entryPath_contained (hvalid : c.validate = .ok ())
    (hnew : Host.new r base c.runtime.entryScript w = .ok h w') :
    (∃ names : List Name, h.entryPath.components = h.baseDir.components ++ names.map .normal)
      ∧ h.baseDir.lexical <+: h.entryPath.lexical
      ∧ ∀ s : System,
        (∀ q : Path, q.Extends h.baseDir → q.components <+: h.entryPath.components →
          ¬ s.files.IsLink s.cwd q) →
        (∀ l, s.files.locate s.cwd h.entryPath = .ok l →
          ∃ dir, s.files.follow s.cwd h.baseDir = .ok dir ∧ dir <+: l)
        ∧ ∀ script, EntryScript.ofFile s h.entryPath = .ok script →
          ∃ dir l, s.files.follow s.cwd h.baseDir = .ok dir ∧ dir <+: l
            ∧ s.files.get? l = some (.file (bytesOf script.source)) := by
  obtain ⟨_, hrel, hparent⟩ :=
    Path.entryFault?_eq_none.mp (HostConfig.entryFault?_of_validate hvalid)
  have hentry : h.entryPath = h.baseDir.join c.runtime.entryScript := by
    rw [(new_eq_ok hnew).2.1]
    rfl
  have habs := isAbsolute_baseDir hnew
  have hcomponents := Path.components_join habs hrel hparent
  rw [hentry]
  refine ⟨⟨_, hcomponents⟩, ?_, fun s hlinks => ?_⟩
  · rw [Path.lexical_of_components hcomponents]
    exact List.prefix_append _ _
  have hopens : ∀ l, s.files.locate s.cwd (h.baseDir.join c.runtime.entryScript) = .ok l →
      ∃ dir, s.files.follow s.cwd h.baseDir = .ok dir ∧ dir <+: l := by
    intro l hl
    obtain ⟨dir, hdir, rfl⟩ :=
      FileTree.follow_join habs hrel hparent hlinks (FileTree.locate_eq_ok hl)
    exact ⟨dir, hdir, List.prefix_append _ _⟩
  refine ⟨hopens, fun script hscript => ?_⟩
  obtain ⟨l, hl, hfile⟩ := EntryScript.file_of_ofFile hscript
  obtain ⟨dir, hdir, hprefix⟩ := hopens l hl
  exact ⟨dir, l, hdir, hprefix, hfile⟩

end Host

/-- A script whose path has more in it than names. -/
def dottedConfig : HostConfig := { runtime := { entryScript := .ofString ".//main.js" } }

theorem dottedConfig_contained :
    dottedConfig.validate = .ok ()
      ∧ Host.new (.recorder true) (.ofString "/app/.") (.ofString ".//main.js") (smallWorld none [])
        = .ok { smallHost with entryScript := .ofString ".//main.js" } (smallWorld none [])
      ∧ ∃ dir l, (smallSystem (some [0x31])).files.follow [] (.ofString "/app") = .ok dir
        ∧ dir <+: l ∧ (smallSystem (some [0x31])).files.get? l = some (.file [0x31]) := by
  have hnew : Host.new (.recorder true) (.ofString "/app/.") (.ofString ".//main.js")
      (smallWorld none [])
      = .ok { smallHost with entryScript := .ofString ".//main.js" } (smallWorld none []) := by
    cbv
  have hvalid : dottedConfig.validate = .ok () := by rfl
  refine ⟨hvalid, hnew, ?_⟩
  exact ((Host.entryPath_contained (c := dottedConfig) hvalid hnew).2.2 (smallSystem (some [0x31]))
    fun q _ _ => FileTree.not_isLink (by simp [smallSystem])).2
      ⟨.ofString "/app/.//main.js", "1"⟩ (by cbv)

end ScriptHost
