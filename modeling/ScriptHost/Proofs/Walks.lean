import ScriptHost.FileTree.Basic

/-!
# Walks, step by step

A walk through a tree of files takes one segment after the other, and a link puts new
segments in front of those still to come. `Moves` says what one segment can do and
`Arrives` chains such steps, with the links that are left; a walk succeeds exactly if it
arrives (`walk_eq_ok_iff`). The chain can be cut anywhere and put together again
(`arrives_append`), which the walk itself does not offer, because its answer does not
tell how many links are left.

What this is for is `eq_of_arrives`: a walk that meets no link and never goes up ends
exactly where its segments say.
-/

namespace ScriptHost.FileTree

/-- Taking the segment `s` in the directory `here`, with some links left, leads to a place with
some segments to be taken there first. -/
inductive Moves (t : FileTree) (here : Location) (s : Bytes) :
    Nat → Nat → Location → List Bytes → Prop where
  | stay {links : Nat} : stays s → Moves t here s links links here []
  | up {links : Nat} : ¬ stays s → isParent s → Moves t here s links links here.dropLast []
  | down {links : Nat} {e : Entry} : ¬ stays s → ¬ isParent s → s.length ≤ maxName →
      t.get? (here ++ [s]) = some e → (∀ target, e ≠ .link target) →
      Moves t here s links links (here ++ [s]) []
  | link {links : Nat} {target : Path} : ¬ stays s → ¬ isParent s → s.length ≤ maxName →
      t.get? (here ++ [s]) = some (.link target) → target.bytes ≠ [] →
      Moves t here s (links + 1) links (if target.isAbsolute then [] else here) target.segments

/-- Taking segments one after the other leads to a place, with some links left. -/
inductive Arrives (t : FileTree) : Nat → Location → List Bytes → Nat → Location → Prop where
  | done {links : Nat} {here : Location} : Arrives t links here [] links here
  | step {links links₁ links₂ : Nat} {here here₁ l : Location} {s : Bytes}
      {more rest : List Bytes} :
      t.get? here = some .directory → Moves t here s links links₁ here₁ more →
      Arrives t links₁ here₁ (more ++ rest) links₂ l →
      Arrives t links here (s :: rest) links₂ l

variable {t : FileTree} {links left : Nat} {here l : Location} {steps : List Bytes}

/-! ## A walk arrives -/

theorem arrives_of_walk (h : t.walk links here steps = .ok l) :
    ∃ left, Arrives t links here steps left l := by
  fun_induction walk t links here steps with
  | case1 => cases h; exact ⟨_, .done⟩
  | case3 links here s rest hdir hstays ih =>
    obtain ⟨left, harr⟩ := ih h
    exact ⟨left, .step hdir (.stay hstays) harr⟩
  | case4 links here s rest hdir hstays hup ih =>
    obtain ⟨left, harr⟩ := ih h
    exact ⟨left, .step hdir (.up hstays hup) harr⟩
  | case9 here s rest hdir hstays hup hlen target hget links htarget ih =>
    obtain ⟨left, harr⟩ := ih h
    exact ⟨left, .step hdir (.link hstays hup (Nat.le_of_not_lt hlen) hget htarget) harr⟩
  | case10 links here s rest hdir hstays hup hlen e hlink hget ih =>
    obtain ⟨left, harr⟩ := ih h
    exact ⟨left, .step hdir (.down hstays hup (Nat.le_of_not_lt hlen) hget hlink) harr⟩
  | _ => cases h

theorem walk_of_arrives (h : Arrives t links here steps left l) :
    t.walk links here steps = .ok l := by
  induction h with
  | done => rw [walk]
  | step hdir hmove _ ih =>
    cases hmove with
    | stay hstays => simpa [walk, hdir, hstays] using ih
    | up hstays hup => simpa [walk, hdir, hstays, hup] using ih
    | down hstays hup hlen hget hlink =>
      rw [walk, hdir]
      simp only [if_neg hstays, if_neg hup, if_neg (Nat.not_lt_of_ge hlen), hget]
      exact ih
    | link hstays hup hlen hget htarget =>
      rw [walk, hdir]
      simp only [if_neg hstays, if_neg hup, if_neg (Nat.not_lt_of_ge hlen), hget, if_neg htarget]
      exact ih

/-- **A walk succeeds exactly if it arrives.** -/
theorem walk_eq_ok_iff :
    t.walk links here steps = .ok l ↔ ∃ left, Arrives t links here steps left l :=
  ⟨arrives_of_walk, fun ⟨_, h⟩ => walk_of_arrives h⟩

/-! ## Cutting a walk -/

theorem arrives_trans {links₁ links₂ : Nat} {here₁ : Location} {xs ys : List Bytes}
    (hxs : Arrives t links here xs links₁ here₁) (hys : Arrives t links₁ here₁ ys links₂ l) :
    Arrives t links here (xs ++ ys) links₂ l := by
  induction hxs with
  | done => exact hys
  | step hdir hmove _ ih =>
    have harr := ih hys
    rw [List.append_assoc] at harr
    exact .step hdir hmove harr

/-- **A walk can be cut anywhere.** -/
theorem arrives_append {xs ys : List Bytes} :
    Arrives t links here (xs ++ ys) left l ↔
      ∃ links₁ here₁, Arrives t links here xs links₁ here₁ ∧ Arrives t links₁ here₁ ys left l := by
  constructor
  · intro h
    generalize hsteps : xs ++ ys = steps at h
    induction h generalizing xs with
    | @done links here =>
      obtain ⟨rfl, rfl⟩ := List.append_eq_nil_iff.mp hsteps
      exact ⟨links, here, .done, .done⟩
    | @step links links₁ left here here₁ l s more rest hdir hmove harr ih =>
      cases xs with
      | nil =>
        refine ⟨links, here, .done, ?_⟩
        rw [List.nil_append] at hsteps
        rw [hsteps]
        exact .step hdir hmove harr
      | cons x xs =>
        obtain ⟨rfl, rfl⟩ := List.cons.inj hsteps
        obtain ⟨links₂, here₂, hxs, hys⟩ := ih (List.append_assoc more xs ys)
        exact ⟨links₂, here₂, .step hdir hmove hxs, hys⟩
  · rintro ⟨_, _, hxs, hys⟩
    exact arrives_trans hxs hys

/-! ## A walk has one end -/

theorem Moves.unique {s : Bytes} {links₁ links₂ : Nat} {here₁ here₂ : Location}
    {more₁ more₂ : List Bytes} (h₁ : Moves t here s links links₁ here₁ more₁)
    (h₂ : Moves t here s links links₂ here₂ more₂) :
    links₁ = links₂ ∧ here₁ = here₂ ∧ more₁ = more₂ := by
  cases h₁ <;> cases h₂ <;> grind

/-- **A walk arrives in one place,** with as many links left as there are. -/
theorem Arrives.unique {left₁ left₂ : Nat} {l₁ l₂ : Location}
    (h₁ : Arrives t links here steps left₁ l₁) (h₂ : Arrives t links here steps left₂ l₂) :
    left₁ = left₂ ∧ l₁ = l₂ := by
  induction h₁ with
  | done => cases h₂; exact ⟨rfl, rfl⟩
  | step _ hmove₁ _ ih =>
    cases h₂ with
    | step _ hmove₂ hrest₂ =>
      obtain ⟨rfl, rfl, rfl⟩ := hmove₁.unique hmove₂
      exact ih hrest₂

/-! ## Walks that go down only -/

/-- **A walk that meets no link and never goes up** ends where its segments say. -/
theorem eq_of_arrives (h : Arrives t links here steps left l)
    (hdown : ∀ s ∈ steps, ¬ isParent s)
    (hlink : ∀ pre s, pre ++ [s] <+: steps → ¬ stays s → ∀ left' mid,
      Arrives t links here pre left' mid → ∀ target, t.get? (mid ++ [s]) ≠ some (.link target)) :
    l = here ++ steps.filter (!stays ·) := by
  induction h with
  | done => simp
  | @step links links₁ left here here₁ l s more rest hdir hmove _ ih =>
    have hrest : ∀ s ∈ rest, ¬ isParent s := fun s hs => hdown s (List.mem_cons_of_mem _ hs)
    -- what the rest meets, the whole walk meets one step later
    have hlater : ∀ (_ : more = []) pre x, pre ++ [x] <+: rest → ¬ stays x → ∀ left' mid,
        Arrives t links₁ here₁ pre left' mid →
        ∀ target, t.get? (mid ++ [x]) ≠ some (.link target) := by
      rintro rfl pre x hpre hstays left' mid hmid
      exact hlink (s :: pre) x (List.cons_prefix_cons.mpr ⟨rfl, hpre⟩) hstays left' mid
        (.step hdir hmove hmid)
    cases hmove with
    | stay hstays =>
      rw [ih hrest (hlater rfl)]
      simp [hstays]
    | up _ hup => exact absurd hup (hdown s List.mem_cons_self)
    | down hstays _ _ _ _ =>
      rw [ih hrest (hlater rfl)]
      simp [hstays]
    | link hstays _ _ hget _ =>
      exact absurd hget (hlink [] s (by simp) hstays _ _ .done _)

end ScriptHost.FileTree
