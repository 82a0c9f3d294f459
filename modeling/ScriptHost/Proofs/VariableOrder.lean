import Mathlib
import ScriptHost.Proofs.Layering

/-!
# The order of the variables

Variables are laid over each other in the order of the environment, so their order can
matter. It does so only for those whose paths of keys meet, one path leading to the other:
what two variables set in different places is the same whichever comes first
(`place_comm`), and any order that keeps those that meet apart from each other can be
reached by moving one variable after the other past such as it does not meet
(`foldl_of_reordered`).

Where paths are equal, a value that is no dictionary takes the place of all that was there
before, so that earlier ones need not be there at all.
-/

namespace ScriptHost

/-! ## Lists in another order -/

/-- An element can be moved to the front of a fold, past those that it commutes with. -/
theorem foldl_middle {α β : Type} {f : β → α → β} {x : α} {front back : List α}
    (hcomm : ∀ y ∈ front, ∀ b, f (f b x) y = f (f b y) x) (b : β) :
    (front ++ x :: back).foldl f b = (x :: (front ++ back)).foldl f b := by
  induction front generalizing b with
  | nil => rfl
  | cons y front ih =>
    have hrest := ih (fun z hz => hcomm z (List.mem_cons_of_mem _ hz)) (f b y)
    rw [List.cons_append, List.foldl_cons, hrest, List.foldl_cons,
      ← hcomm y List.mem_cons_self b]
    rfl

/-- The same elements in another order, in which two that are to be kept in order are so. -/
structure Reordered {α : Type} [DecidableEq α] (keep : α → α → Prop) (xs ys : List α) : Prop where
  perm : xs.Perm ys
  kept : ∀ x ∈ xs, ∀ y ∈ xs, keep x y →
    xs.filter (fun z => z = x ∨ z = y) = ys.filter fun z => z = x ∨ z = y

instance {α : Type} [DecidableEq α] (keep : α → α → Prop) [DecidableRel keep] (xs ys : List α) :
    Decidable (Reordered keep xs ys) :=
  decidable_of_iff (xs.Perm ys ∧ ∀ x ∈ xs, ∀ y ∈ xs, keep x y →
      xs.filter (fun z => z = x ∨ z = y) = ys.filter fun z => z = x ∨ z = y)
    ⟨fun h => ⟨h.1, h.2⟩, fun h => ⟨h.perm, h.kept⟩⟩

section Reordered

variable {α β : Type} [DecidableEq α] {keep : α → α → Prop} {x : α} {xs ys front back : List α}
  {f : β → α → β}

/-- What stands first in one order has only such before it in the other as it need not be kept in
order with. -/
theorem Reordered.peel (hsymm : ∀ a b, keep a b → keep b a) (h : Reordered keep (x :: xs) ys) :
    ∃ front back, ys = front ++ x :: back ∧ (∀ y ∈ front, ¬ keep x y)
      ∧ Reordered keep xs (front ++ back) := by
  obtain ⟨front, back, rfl, hfirst⟩ :=
    List.eq_append_cons_of_mem (h.perm.subset List.mem_cons_self)
  have hne : ∀ z ∈ front, z ≠ x := fun z hz heq => hfirst (heq ▸ hz)
  have hfree : ∀ y ∈ front, ¬ keep x y := by
    intro y hy hkeep
    have hy' : y ∈ x :: xs := h.perm.symm.subset (List.mem_append_left _ hy)
    have hkept := h.kept x List.mem_cons_self y hy' hkeep
    -- of the two, `x` comes first in one order, and does not in the other
    obtain ⟨z, zs, hzs⟩ : ∃ z zs, front.filter (fun z => z = x ∨ z = y) = z :: zs := by
      refine List.exists_cons_of_ne_nil (List.ne_nil_of_mem (a := y) ?_)
      simp [hy]
    rw [List.filter_append, hzs, List.filter_cons_of_pos (by simp)] at hkept
    have hz : z ∈ front := by
      have hmem : z ∈ front.filter fun z => z = x ∨ z = y := by rw [hzs]; exact List.mem_cons_self
      exact (List.mem_filter.mp hmem).1
    exact hne z hz (List.cons.inj hkept).1.symm
  refine ⟨front, back, rfl, hfree, (h.perm.trans List.perm_middle).cons_inv, ?_⟩
  intro u hu v hv hkeep
  have hkept := h.kept u (List.mem_cons_of_mem _ hu) v (List.mem_cons_of_mem _ hv) hkeep
  rw [List.filter_append, List.filter_cons, List.filter_cons] at hkept
  rw [List.filter_append]
  by_cases hx : x = u ∨ x = v
  · -- nothing in front of `x` is one of the two
    have hnone : front.filter (fun z => z = u ∨ z = v) = [] := by
      rw [List.filter_eq_nil_iff]
      intro z hz
      rw [decide_eq_true_eq]
      rintro (rfl | rfl) <;> rcases hx with rfl | rfl
      · exact hne _ hz rfl
      · exact hfree _ hz (hsymm _ _ hkeep)
      · exact hfree _ hz hkeep
      · exact hne _ hz rfl
    rw [if_pos (decide_eq_true hx), if_pos (decide_eq_true hx), hnone] at hkept
    rw [hnone]
    exact (List.cons.inj hkept).2
  · rwa [if_neg (by simpa using hx), if_neg (by simpa using hx)] at hkept

/-- **A fold does not depend on the order** of elements that commute. -/
theorem foldl_of_reordered (hsymm : ∀ a b, keep a b → keep b a)
    (hcomm : ∀ x y, ¬ keep x y → ∀ b, f (f b x) y = f (f b y) x) (h : Reordered keep xs ys)
    (b : β) : ys.foldl f b = xs.foldl f b := by
  induction xs generalizing ys b with
  | nil => rw [List.nil_perm.mp h.perm]
  | cons x xs ih =>
    obtain ⟨front, back, rfl, hfree, hrest⟩ := h.peel hsymm
    rw [foldl_middle (fun y hy => hcomm x y (hfree y hy)) b]
    exact ih hrest (f b x)

end Reordered

namespace Settings

/-! ## Values in their places -/

/-- The entries of what is found somewhere, if it is a dictionary. -/
def below : Option Value → Dict
  | some (.dict _ entries) => entries
  | _ => []

/-- What becomes of a place when the variables give a value for a path of keys below it. -/
def place (v : Value) : List String → Option Value → Value
  | [], none => v
  | [], some w => merge w v
  | k :: ks, w => .dict .environment (Dict.put (below w) k (place v ks ((below w).lookup k)))

@[simp] theorem below_dict (s : Source) (d : Dict) : below (some (.dict s d)) = d := rfl

theorem below_of_not_dict {w : Value} (h : ∀ s entries, w ≠ .dict s entries) :
    below (some w) = [] := by
  cases w with
  | dict s entries => exact absurd rfl (h s entries)
  | _ => rfl

theorem mergeDict_singleton {d : Dict} {k : String} {v x : Value}
    (h : laidOver (d.lookup k) (some v) = some x) : mergeDict d [(k, v)] = Dict.put d k x := by
  obtain ⟨y, hy, hmerge⟩ := mergeDict_cons d k v []
  rw [h] at hy
  rw [hmerge, mergeDict, Option.some.inj hy]

theorem laidOver_nest (v : Value) (ks : List String) (w : Option Value) :
    laidOver w (some (nest v ks)) = some (place v ks w) := by
  induction ks generalizing w with
  | nil => cases w <;> rfl
  | cons k ks ih =>
    -- nothing is mixed where no dictionary is
    have hfresh : nest v (k :: ks) = .dict .environment (Dict.put [] k (place v ks none)) := by
      rw [nest, Option.some.inj (ih none)]
      rfl
    cases w with
    | none => rw [none_laidOver, hfresh]; rfl
    | some w =>
      cases w with
      | dict s entries =>
        rw [nest, laidOver, merge, mergeDict_singleton (ih (entries.lookup k)), place, below_dict]
      | scalar | list =>
        rw [laidOver, merge_of_old (by simp), hfresh, place, below_of_not_dict (by simp)]
        rfl

/-- A variable that is laid over others gives its value for its path below the whole. -/
theorem dict_mergeDict_nest (d : Dict) (k : String) (ks : List String) (v : Value) :
    Value.dict .environment (mergeDict d [(k, nest v ks)])
      = place v (k :: ks) (some (.dict .environment d)) := by
  rw [mergeDict_singleton (laidOver_nest v ks (d.lookup k)), place, below_dict]

theorem put_put (d : Dict) (k : String) (v w : Value) :
    Dict.put (Dict.put d k v) k w = Dict.put d k w := by
  induction d with
  | nil => exact put_self
  | cons e d ih =>
    obtain ⟨k', x⟩ := e
    by_cases heq : k' = k
    · subst heq
      rw [put_self, put_self, put_self]
    · by_cases hlt : k < k'
      · rw [put_before ⟨heq, hlt⟩, put_before ⟨heq, hlt⟩, put_self]
      · rw [put_behind ⟨heq, hlt⟩, put_behind ⟨heq, hlt⟩, put_behind ⟨heq, hlt⟩, ih]

theorem put_comm_of_lt {k k' : String} (h : k < k') (d : Dict) (v w : Value) :
    Dict.put (Dict.put d k v) k' w = Dict.put (Dict.put d k' w) k v := by
  have hbehind : k ≠ k' ∧ ¬ k' < k := ⟨h.ne, h.asymm⟩
  induction d with
  | nil => exact (put_behind hbehind).trans (put_before ⟨h.ne', h⟩).symm
  | cons e d ih =>
    obtain ⟨j, x⟩ := e
    rcases lt_trichotomy j k with hlt | rfl | hgt
    · have hj : j ≠ k ∧ ¬ k < j := ⟨hlt.ne, hlt.asymm⟩
      have hj' : j ≠ k' ∧ ¬ k' < j := ⟨(hlt.trans h).ne, (hlt.trans h).asymm⟩
      rw [put_behind hj, put_behind hj', put_behind hj', put_behind hj, ih]
    · rw [put_self, put_behind hbehind, put_behind hbehind, put_self]
    · rw [put_before ⟨hgt.ne', hgt⟩, put_behind hbehind]
      -- whatever comes of `j`, its key or `k'` is in front
      rw [Dict.put]
      split
      · exact (put_before ⟨h.ne', h⟩).symm
      · split
        · exact (put_before ⟨h.ne', h⟩).symm
        · exact (put_before ⟨hgt.ne', hgt⟩).symm

theorem put_comm {k k' : String} (h : k ≠ k') (d : Dict) (v w : Value) :
    Dict.put (Dict.put d k v) k' w = Dict.put (Dict.put d k' w) k v := by
  rcases lt_or_gt_of_ne h with hlt | hgt
  · exact put_comm_of_lt hlt d v w
  · exact (put_comm_of_lt hgt d w v).symm

/-- **Values for paths that do not meet** can be given in any order. -/
theorem place_comm {ks ks' : List String} (h : ¬ ks <+: ks') (h' : ¬ ks' <+: ks) (v v' : Value)
    (w : Option Value) :
    place v' ks' (some (place v ks w)) = place v ks (some (place v' ks' w)) := by
  induction ks generalizing ks' w with
  | nil => exact absurd List.nil_prefix h
  | cons k ks ih =>
    cases ks' with
    | nil => exact absurd List.nil_prefix h'
    | cons k' ks' =>
      simp only [place, below_dict, lookup_put]
      by_cases hk : k = k'
      · subst hk
        rw [List.cons_prefix_cons, not_and] at h h'
        rw [if_pos rfl, if_pos rfl, ih (h rfl) (h' rfl), put_put, put_put]
      · rw [if_neg hk, if_neg (Ne.symm hk), put_comm hk]

/-- **A value that is no dictionary** takes the place of whatever was given for the same path. -/
theorem place_again {v : Value} (hv : ∀ s entries, v ≠ .dict s entries) (v' : Value)
    (ks : List String) (w : Option Value) :
    place v ks (some (place v' ks w)) = place v ks w := by
  induction ks generalizing w with
  | nil =>
    have hmerge : ∀ w, merge w v = v := by
      intro w
      rcases merge_cases w v with heq | ⟨_, _, s, entries, _, heq, _⟩
      · exact heq
      · exact absurd heq (hv s entries)
    cases w <;> simp only [place, hmerge]
  | cons k ks ih =>
    simp only [place, below_dict, lookup_put, if_true]
    rw [ih, put_put]

/-! ## Variables over each other -/

/-- The path of keys that the name of a variable spells. -/
def keysOf? (var : Bytes × Bytes) : Option (List String) := keyPath? (Utf8.lossyFrom [] var.1)

/-- The value that the text of a variable spells. -/
def valueOf (var : Bytes × Bytes) : Except Text.CutFault Value := ofText (Utf8.lossyFrom [] var.2)

/-- A variable that is a setting has a value. -/
def Readable (var : Bytes × Bytes) : Prop :=
  ∀ keys, keysOf? var = some keys → ∃ v, valueOf var = .ok v

/-- The paths of two variables, as `keys?` reads them, meet: one leads to the other. -/
def Meets (keys? : Bytes × Bytes → Option (List String)) (x y : Bytes × Bytes) : Prop :=
  ∃ ks ∈ keys? x, ∃ ks' ∈ keys? y, ks <+: ks' ∨ ks' <+: ks

instance (keys? : Bytes × Bytes → Option (List String)) : DecidableRel (Meets keys?) :=
  fun x y => inferInstanceAs (Decidable (∃ ks ∈ keys? x, ∃ ks' ∈ keys? y, ks <+: ks' ∨ ks' <+: ks))

/-- Settings with a variable laid over them, if it is one of settings. -/
def withVariable (d : Dict) (var : Bytes × Bytes) : Dict :=
  match keysOf? var, valueOf var with
  | some (k :: ks), .ok v => mergeDict d [(k, nest v ks)]
  | _, _ => d

variable {x y var : Bytes × Bytes} {env env' : List (Bytes × Bytes)} {keys : List String}

theorem splitDots_ne_nil (cs : List Char) : splitDots cs ≠ [] := by
  cases cs with
  | nil => simp [splitDots]
  | cons c cs =>
    rw [splitDots]
    split
    · exact List.cons_ne_nil _ _
    · split <;> exact List.cons_ne_nil _ _

/-- A path has a key. -/
theorem keysOf?_ne_nil (var : Bytes × Bytes) : keysOf? var ≠ some [] := by
  intro h
  unfold keysOf? keyPath? at h
  dsimp only at h
  split at h
  · split at h
    · cases h
    · exact splitDots_ne_nil _ (List.map_eq_nil_iff.mp (Option.some.inj h))
  · cases h

/-- A variable gives its value for its path. -/
theorem withVariable_eq {v : Value} (hkeys : keysOf? var = some keys) (hvalue : valueOf var = .ok v)
    (d : Dict) : Value.dict .environment (withVariable d var)
      = place v keys (some (.dict .environment d)) := by
  cases keys with
  | nil => exact absurd hkeys (keysOf?_ne_nil var)
  | cons k ks => rw [withVariable, hkeys, hvalue, ← dict_mergeDict_nest]

theorem withVariable_of_none (h : keysOf? var = none) (d : Dict) : withVariable d var = d := by
  rw [withVariable, h]

theorem withVariable_of_error {fault : Text.CutFault} (h : valueOf var = .error fault) (d : Dict) :
    withVariable d var = d := by
  rw [withVariable, h]
  split
  next heq => cases heq
  next => rfl

/-- A variable changes nothing, or it lays its value over the settings at the end of its keys. -/
theorem withVariable_cases (var : Bytes × Bytes) :
    (∀ d, withVariable d var = d)
      ∨ ∃ keys v, keysOf? var = some keys ∧ ∀ d,
        Value.dict .environment (withVariable d var)
          = place v keys (some (.dict .environment d)) := by
  cases hkeys : keysOf? var with
  | none => exact .inl (withVariable_of_none hkeys)
  | some keys =>
    cases hvalue : valueOf var with
    | error fault => exact .inl (withVariable_of_error hvalue)
    | ok v => exact .inr ⟨keys, v, rfl, withVariable_eq hkeys hvalue⟩

/-- Variables that do not meet can change places. -/
theorem withVariable_comm (h : ¬ Meets keysOf? x y) (d : Dict) :
    withVariable (withVariable d x) y = withVariable (withVariable d y) x := by
  rcases withVariable_cases x with hx | ⟨ks, v, hks, hx⟩
  · rw [hx, hx]
  rcases withVariable_cases y with hy | ⟨ks', v', hks', hy⟩
  · rw [hy, hy]
  have hsame := place_comm (fun hpre => h ⟨ks, hks, ks', hks', .inl hpre⟩)
    (fun hpre => h ⟨ks, hks, ks', hks', .inr hpre⟩) v v' (some (.dict .environment d))
  rw [← hx, ← hy, ← hy, ← hx] at hsame
  exact (Value.dict.inj hsame).2

/-- A variable for the same path can be left out in front of one whose value is no dictionary. -/
theorem withVariable_again {v : Value} (hx : keysOf? x = some keys)
    (hvar : keysOf? var = some keys) (hvalue : valueOf var = .ok v)
    (hv : ∀ s entries, v ≠ .dict s entries) (d : Dict) :
    withVariable (withVariable d x) var = withVariable d var := by
  cases hx' : valueOf x with
  | error fault => rw [withVariable_of_error hx']
  | ok v' =>
    have hsame := place_again hv v' keys (some (.dict .environment d))
    rw [← withVariable_eq hx hx', ← withVariable_eq hvar hvalue,
      ← withVariable_eq hvar hvalue] at hsame
    exact (Value.dict.inj hsame).2

theorem addVariable_of_readable (h : Readable var) (d : Dict) :
    addVariable d var = .ok (withVariable d var) := by
  rw [addVariable, ← keysOf?, ← valueOf, withVariable]
  cases hkeys : keysOf? var with
  | none => rfl
  | some keys =>
    obtain ⟨v, hv⟩ := h keys hkeys
    rw [hv]
    cases keys <;> rfl

/-- What cannot be read ends it, whatever the settings are by then. -/
theorem addVariable_of_not_readable (h : ¬ Readable var) :
    ∃ fault, ∀ d, addVariable d var = .error fault := by
  simp only [Readable, not_forall, not_exists] at h
  obtain ⟨keys, hkeys, hvalue⟩ := h
  cases hv : valueOf var with
  | ok v => exact absurd hv (hvalue v)
  | error fault =>
    refine ⟨fault, fun d => ?_⟩
    cases keys with
    | nil => exact absurd hkeys (keysOf?_ne_nil var)
    | cons k ks =>
      rw [addVariable, ← keysOf?, ← valueOf, hkeys, hv]
      rfl

/-- The settings of variables that can all be read. -/
theorem ofVariables_of_readable (h : ∀ var ∈ env, Readable var) :
    ofVariables env = .ok (env.foldl withVariable []) := by
  rw [ofVariables_eq]
  generalize ([] : Dict) = d
  induction env generalizing d with
  | nil => rfl
  | cons var env ih =>
    rw [List.foldlM_cons, addVariable_of_readable (h var List.mem_cons_self)]
    exact ih (fun y hy => h y (List.mem_cons_of_mem _ hy)) (withVariable d var)

/-- There are no settings of variables of which one cannot be read. -/
theorem ofVariables_of_not_readable (h : ∃ var ∈ env, ¬ Readable var) :
    ∃ fault, ofVariables env = .error fault := by
  rw [ofVariables_eq]
  generalize ([] : Dict) = d
  induction env generalizing d with
  | nil =>
    obtain ⟨_, hmem, _⟩ := h
    exact absurd hmem List.not_mem_nil
  | cons var env ih =>
    rw [List.foldlM_cons]
    by_cases hvar : Readable var
    · rw [addVariable_of_readable hvar]
      refine ih ?_ (withVariable d var)
      obtain ⟨y, hy, hunread⟩ := h
      rcases List.mem_cons.mp hy with rfl | hy
      · exact absurd hvar hunread
      · exact ⟨y, hy, hunread⟩
    · obtain ⟨fault, hfault⟩ := addVariable_of_not_readable hvar
      exact ⟨fault, by rw [hfault]; rfl⟩

/-- Variables that have settings can all be read. -/
theorem readable_of_isOk (h : (ofVariables env).isOk) : ∀ var ∈ env, Readable var := by
  intro var hvar
  by_contra hunread
  obtain ⟨fault, hfault⟩ := ofVariables_of_not_readable ⟨var, hvar, hunread⟩
  rw [hfault] at h
  cases h

/-- **The settings of variables in another order** are the same if those that meet are kept in
order. -/
theorem ofVariables_of_reordered (hread : ∀ var ∈ env, Readable var)
    (h : Reordered (Meets keysOf?) env env') : ofVariables env' = ofVariables env := by
  have hsymm : ∀ a b, Meets keysOf? a b → Meets keysOf? b a :=
    fun a b ⟨ks, hks, ks', hks', hpre⟩ => ⟨ks', hks', ks, hks, hpre.symm⟩
  rw [ofVariables_of_readable hread,
    ofVariables_of_readable fun var hvar => hread var (h.perm.symm.subset hvar),
    foldl_of_reordered hsymm (fun x y hfree d => withVariable_comm hfree d) h]

/-- **The last of several variables decides** what their path leads to. The earlier ones can be left
out where no other variable in front of the last one meets them. -/
theorem ofVariables_of_last {pre post : List (Bytes × Bytes)} {v : Value}
    (hvar : keysOf? var = some keys) (hvalue : valueOf var = .ok v)
    (hv : ∀ s entries, v ≠ .dict s entries)
    (hpre : ∀ y ∈ pre, (keysOf? y = some keys ∧ Readable y) ∨ ¬ Meets keysOf? y var) :
    ofVariables (pre.filter (fun y => keysOf? y ≠ some keys) ++ var :: post)
      = ofVariables (pre ++ var :: post) := by
  have hread : Readable var := fun keys' h' => ⟨v, hvalue⟩
  rw [ofVariables_eq, ofVariables_eq]
  -- both come to the same as soon as `var` is laid over them
  suffices ∀ d d', withVariable d' var = withVariable d var →
      (pre.filter (fun y => keysOf? y ≠ some keys) ++ var :: post).foldlM addVariable d'
        = (pre ++ var :: post).foldlM addVariable d from this [] [] rfl
  induction pre with
  | nil =>
    intro d d' hsame
    rw [List.filter_nil, List.nil_append, List.foldlM_cons, List.foldlM_cons,
      addVariable_of_readable hread, addVariable_of_readable hread, hsame]
  | cons y pre ih =>
    intro d d' hsame
    have hrest := ih fun z hz => hpre z (List.mem_cons_of_mem _ hz)
    rw [List.cons_append, List.foldlM_cons]
    rcases hpre y List.mem_cons_self with ⟨hy, hyread⟩ | hfree
    · rw [List.filter_cons_of_neg (by simp [hy]), addVariable_of_readable hyread]
      refine hrest _ _ ?_
      rw [withVariable_again hy hvar hvalue hv, hsame]
    · have hy : keysOf? y ≠ some keys := fun hy =>
        hfree ⟨keys, hy, keys, hvar, .inl (List.prefix_refl keys)⟩
      rw [List.filter_cons_of_pos (by simp [hy]), List.cons_append, List.foldlM_cons]
      by_cases hyread : Readable y
      · rw [addVariable_of_readable hyread, addVariable_of_readable hyread]
        refine hrest _ _ ?_
        rw [withVariable_comm hfree, withVariable_comm hfree, hsame]
      · obtain ⟨fault, hfault⟩ := addVariable_of_not_readable hyread
        rw [hfault, hfault]
        rfl

/-! ## The configuration -/

section Config

variable {s : System}

/-- A configuration depends on the environment by its settings alone. -/
theorem loadConfig_of_ofVariables (h : ofVariables env = ofVariables s.env) (file : Option Path) :
    loadConfig { s with env } file = loadConfig s file := by
  unfold loadConfig layered
  rw [h]
  rfl

theorem loadConfig_of_unreadable {fault : Text.CutFault} (h : ofVariables s.env = .error fault)
    (file : Option Path) : loadConfig s file = .error (.panic fault.message) := by
  rw [loadConfig, layered, h]

/-- **The order of the variables matters only where their paths meet.** In an order that keeps those
that meet in order, the configuration, or what is wrong with it, is the same, unless a variable
cannot be read; in no order is there one then. And of several variables for one path the last one
decides: if its value is no dictionary, and no path of those before it leads further than theirs
or not as far, they might as well not be there. -/
theorem loadConfig_reordered (s : System) (file : Option Path) :
    (∀ env', Reordered (Meets keysOf?) s.env env' →
        ((∀ var ∈ s.env, Readable var) →
          loadConfig { s with env := env' } file = loadConfig s file)
        ∧ ((∃ var ∈ s.env, ¬ Readable var) → ∃ text text',
          loadConfig s file = .error (.panic text)
          ∧ loadConfig { s with env := env' } file = .error (.panic text')))
      ∧ ∀ pre var post keys v, s.env = pre ++ var :: post → keysOf? var = some keys →
        valueOf var = .ok v → (∀ source entries, v ≠ .dict source entries) →
        (∀ y ∈ pre, keysOf? y = some keys → Readable y) →
        (∀ y ∈ pre, ∀ ks, keysOf? y = some ks → ks ≠ keys → ¬ ks <+: keys ∧ ¬ keys <+: ks) →
        loadConfig { s with env := pre.filter (fun y => keysOf? y ≠ some keys) ++ var :: post } file
          = loadConfig s file := by
  refine ⟨fun env' h => ⟨fun hread => ?_, fun ⟨var, hvar, hunread⟩ => ?_⟩, ?_⟩
  · exact loadConfig_of_ofVariables (ofVariables_of_reordered hread h) file
  · obtain ⟨fault, hfault⟩ := ofVariables_of_not_readable ⟨var, hvar, hunread⟩
    obtain ⟨fault', hfault'⟩ := ofVariables_of_not_readable ⟨var, h.perm.subset hvar, hunread⟩
    exact ⟨_, _, loadConfig_of_unreadable hfault file,
      loadConfig_of_unreadable (s := { s with env := env' }) hfault' file⟩
  · intro pre var post keys v henv hvar hvalue hv hread hother
    refine loadConfig_of_ofVariables ?_ file
    rw [henv]
    refine ofVariables_of_last hvar hvalue hv fun y hy => ?_
    by_cases hkeys : keysOf? y = some keys
    · exact .inl ⟨hkeys, hread y hy hkeys⟩
    · right
      rintro ⟨ks, hks, ks', hks', hmeet⟩
      cases hvar.symm.trans hks'
      have hne : ks ≠ keys := fun heq => hkeys (heq ▸ hks)
      obtain ⟨hnot, hnot'⟩ := hother y hy ks hks hne
      exact hmeet.elim hnot hnot'

end Config

/-- Two variables for the count, and one for all of the section. -/
def scattered : List (String × String) :=
  [("NSHOST_RUNTIME__REPEAT", "four"), ("nshost_Logging__Level", "debug"), ("HOME", "/x"),
    ("NsHost_runtime.repeat", "5"), ("NSHOST_RUNTIME", "\x7bentry_script=\"a.js\"\x7d"),
    ("NSHOST_LOGGING__FORMAT", "json")]

/-- The scattered variables, those of each section together. -/
def gathered : List (String × String) :=
  [("NSHOST_LOGGING__FORMAT", "json"), ("nshost_Logging__Level", "debug"),
    ("NSHOST_RUNTIME__REPEAT", "four"), ("NsHost_runtime.repeat", "5"),
    ("NSHOST_RUNTIME", "\x7bentry_script=\"a.js\"\x7d"), ("HOME", "/x")]

theorem gathered_reordered :
    Reordered (Meets keysOf?) (systemWith "" scattered).env (systemWith "" gathered).env
      ∧ (∀ var ∈ (systemWith "" scattered).env, Readable var)
      ∧ loadConfig (systemWith "" scattered) none
        = .ok { runtime := { entryScript := .ofString "a.js", cycles := 5 }
                logging := { level := "debug", format := .json } }
      ∧ loadConfig (systemWith "" gathered) none = loadConfig (systemWith "" scattered) none
      ∧ loadConfig (systemWith "" scattered.tail) none
        = loadConfig (systemWith "" scattered) none := by
  have hreordered : Reordered (Meets keysOf?) (systemWith "" scattered).env
      (systemWith "" gathered).env := by decide +kernel
  have hisOk : (ofVariables (systemWith "" scattered).env).isOk := by decide +kernel
  have hread := readable_of_isOk hisOk
  have hload : loadConfig (systemWith "" scattered) none
      = .ok { runtime := { entryScript := .ofString "a.js", cycles := 5 }
              logging := { level := "debug", format := .json } } := by
    rw [loadConfig_systemWith hisOk]
    decide +kernel
  have hlaws := loadConfig_reordered (systemWith "" scattered) none
  refine ⟨hreordered, hread, hload, (hlaws.1 _ hreordered).1 hread, ?_⟩
  have hpre : ∀ y ∈ (systemWith "" (scattered.take 3)).env, ∀ ks ∈ keysOf? y,
      ks ≠ ["runtime", "repeat"] →
        ¬ ks <+: ["runtime", "repeat"] ∧ ¬ ["runtime", "repeat"] <+: ks := by
    decide +kernel
  have hkeys : keysOf? (bytesOf "NsHost_runtime.repeat", bytesOf "5")
      = some ["runtime", "repeat"] := by
    decide +kernel
  have hvalue : valueOf (bytesOf "NsHost_runtime.repeat", bytesOf "5")
      = .ok (.scalar .environment (.unsigned 5)) := by
    cbv
  have hrest : (systemWith "" (scattered.take 3)).env.filter
        (fun y => keysOf? y ≠ some ["runtime", "repeat"])
      ++ (bytesOf "NsHost_runtime.repeat", bytesOf "5") :: (systemWith "" (scattered.drop 4)).env
      = (systemWith "" scattered.tail).env := by
    decide +kernel
  have hlast := hlaws.2 (systemWith "" (scattered.take 3)).env
    (bytesOf "NsHost_runtime.repeat", bytesOf "5") (systemWith "" (scattered.drop 4)).env _ _
    rfl hkeys hvalue (by simp) (fun y hy _ => hread y (List.mem_append_left _ hy)) hpre
  rw [hrest] at hlast
  exact hlast

/-- The keys that stand between double underscores, and nothing else between them. -/
def underscoredKeys? (var : Bytes × Bytes) : Option (List String) :=
  let name := Utf8.lossyFrom [] var.1
  let n := variablePrefix.length
  if (name.take n).map Text.toAsciiUpper = variablePrefix.toList then
    some ((splitDouble (name.drop n)).map fun k => String.ofList (k.map Text.toAsciiLower))
  else none

/-- Two variables for the count, one with a dot. -/
def dotted : List (String × String) :=
  [("NSHOST_RUNTIME__REPEAT", "2"), ("NSHOST_RUNTIME.REPEAT", "6")]

/-- **Not only underscores divide keys:** variables that meet by their dots must be kept in order,
too. -/
theorem dotted_order :
    ¬ ∀ (s : System) (file : Option Path) (env' : List (Bytes × Bytes)),
      Reordered (Meets underscoredKeys?) s.env env' → (∀ var ∈ s.env, Readable var) →
      loadConfig { s with env := env' } file = loadConfig s file := by
  intro hclaim
  have hisOk : (ofVariables (systemWith "" dotted).env).isOk := by decide +kernel
  have hsame := hclaim (systemWith "" dotted) none (systemWith "" dotted.reverse).env
    (by decide +kernel) (readable_of_isOk hisOk)
  have hload : loadConfig (systemWith "" dotted) none = .ok { runtime := { cycles := 6 } } := by
    rw [loadConfig_systemWith hisOk]
    decide +kernel
  have hload' : loadConfig (systemWith "" dotted.reverse) none
      = .ok { runtime := { cycles := 2 } } := by
    rw [loadConfig_systemWith (by decide +kernel)]
    decide +kernel
  have hdiffer := hload'.symm.trans (hsame.trans hload)
  cases hdiffer

end Settings

end ScriptHost
