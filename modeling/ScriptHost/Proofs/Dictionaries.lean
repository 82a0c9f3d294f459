import Mathlib.Data.String.Basic
import ScriptHost.Settings.Layers

/-!
# Dictionaries of settings

The keys of every dictionary increase, however it came about, so that a dictionary is
known by what is looked up in it. In one dictionary laid over another, that is what is
found in the newer one laid over what is found in the older one (`lookup_mergeDict`).

An extraction folds over the keys of a dictionary in their order and passes over those
without a meaning, so it can as well fold over the keys that have one and look each of
them up (`foldlM_eq_visits`).
-/

namespace ScriptHost.Settings

/-- The keys increase, so none of them occurs twice. -/
def Dict.Sorted (d : Dict) : Prop := d.Pairwise fun a b => a.1 < b.1

instance (d : Dict) : Decidable (Dict.Sorted d) :=
  inferInstanceAs (Decidable (d.Pairwise fun a b => a.1 < b.1))

/-- A value is tidy if its keys increase. -/
def Value.Tidy : Value → Prop
  | .dict _ entries => Dict.Sorted entries
  | _ => True

/-- In a tidy dictionary the keys increase, and so do those of its entries. -/
structure Dict.Tidy (d : Dict) : Prop where
  sorted : Dict.Sorted d
  entries : ∀ k v, d.lookup k = some v → v.Tidy

/-! ## Results -/

theorem map_eq_ok_iff {ε α β : Type} {f : α → β} {y : Except ε α} {b : β} :
    y.map f = .ok b ↔ ∃ a, y = .ok a ∧ f a = b := by
  cases y <;> simp [Except.map]

theorem map_eq_error_iff {ε α β : Type} {f : α → β} {y : Except ε α} {e : ε} :
    y.map f = .error e ↔ y = .error e := by
  cases y <;> simp [Except.map]

theorem eq_ok_of_isOk {ε α : Type} {y : Except ε α} (h : y.isOk) (a : α) :
    y = .ok (y.toOption.getD a) := by
  cases y with
  | ok _ => rfl
  | error _ => cases h

theorem foldlM_cons_eq_ok_iff {ε α β : Type} {step : α → β → Except ε α} {x : β} {xs : List β}
    {a b : α} : (x :: xs).foldlM step a = .ok b
      ↔ ∃ a', step a x = .ok a' ∧ xs.foldlM step a' = .ok b := by
  rw [List.foldlM_cons]
  cases hx : step a x with
  | error e => exact ⟨nofun, fun ⟨_, h, _⟩ => nomatch h⟩
  | ok a' => exact ⟨fun h => ⟨a', rfl, h⟩, fun ⟨_, heq, h⟩ => by cases heq; exact h⟩

/-- What every step of a fold keeps, the fold keeps. -/
theorem foldlM_keeps {ε α β : Type} (keeps : α → Prop) {step : α → β → Except ε α}
    (hstep : ∀ a x b, keeps a → step a x = .ok b → keeps b) {xs : List β} {a b : α}
    (ha : keeps a) (h : xs.foldlM step a = .ok b) : keeps b := by
  induction xs generalizing a with
  | nil => cases h; exact ha
  | cons x xs ih =>
    obtain ⟨a', hx, hrest⟩ := foldlM_cons_eq_ok_iff.mp h
    exact ih (hstep a x a' ha hx) hrest

/-! ## Looking up -/

theorem lookup_cons_eq_ite {d : Dict} {k key : String} {v : Value} :
    List.lookup k ((key, v) :: d) = if k = key then some v else d.lookup k := by
  by_cases h : k = key
  · rw [List.lookup_cons, if_pos h, h, beq_self_eq_true]
  · rw [List.lookup_cons, if_neg h, beq_false_of_ne h]

/-- A key in front of all others is not among them. -/
theorem lookup_eq_none {d : Dict} {k : String} (h : ∀ e ∈ d, k < e.1) : d.lookup k = none := by
  rw [List.lookup_eq_none_iff]
  intro e he
  simpa using (h e he).ne

theorem lookup_put (d : Dict) (key k : String) (v : Value) :
    (Dict.put d key v).lookup k = if k = key then some v else d.lookup k := by
  induction d with
  | nil => exact lookup_cons_eq_ite
  | cons e d ih =>
    obtain ⟨k', w⟩ := e
    rw [Dict.put]
    split
    next h =>
      subst h
      rw [lookup_cons_eq_ite, lookup_cons_eq_ite]
      by_cases hk : k = k' <;> simp only [hk, if_true, if_false]
    next h =>
      split
      · exact lookup_cons_eq_ite
      · rw [lookup_cons_eq_ite, lookup_cons_eq_ite, ih]
        by_cases hk : k = k'
        · rw [if_pos hk, if_pos hk, if_neg (hk ▸ h)]
        · rw [if_neg hk, if_neg hk]

/-! ## One layer over another -/

/-- A value takes the place of one that is no dictionary. -/
theorem merge_of_old {w : Value} (h : ∀ s below, w ≠ .dict s below) (v : Value) :
    merge w v = v := by
  cases v with
  | scalar => rw [merge]
  | list => rw [merge]
  | dict => rw [merge]; exact h

/-- **Only dictionaries are mixed.** -/
theorem merge_cases (w v : Value) :
    merge w v = v ∨ ∃ s below s' entries, w = .dict s below ∧ v = .dict s' entries
      ∧ merge w v = .dict s' (mergeDict below entries) := by
  cases w with
  | scalar => exact .inl (merge_of_old (by simp) v)
  | list => exact .inl (merge_of_old (by simp) v)
  | dict s below =>
    cases v with
    | scalar => left; rw [merge]
    | list => left; rw [merge]
    | dict s' entries => exact .inr ⟨s, below, s', entries, rfl, rfl, by rw [merge]⟩

/-- What is found where one dictionary is laid over another. -/
def laidOver (old new : Option Value) : Option Value :=
  match old, new with
  | some w, some v => some (merge w v)
  | none, some v => some v
  | w, none => w

@[simp] theorem laidOver_none (w : Option Value) : laidOver w none = w := by cases w <;> rfl

@[simp] theorem none_laidOver (v : Option Value) : laidOver none v = v := by cases v <;> rfl

theorem exists_laidOver (w : Option Value) (v : Value) : ∃ y, laidOver w (some v) = some y := by
  cases w with
  | none => exact ⟨v, rfl⟩
  | some w => exact ⟨merge w v, rfl⟩

theorem mergeDict_cons (old : Dict) (k : String) (v : Value) (rest : Dict) :
    ∃ x, laidOver (old.lookup k) (some v) = some x
      ∧ mergeDict old ((k, v) :: rest) = mergeDict (Dict.put old k x) rest := by
  rw [mergeDict]
  cases old.lookup k with
  | none => exact ⟨v, rfl, rfl⟩
  | some w => exact ⟨merge w v, rfl, rfl⟩

/-- **In a merged dictionary** each key has what the newer one has for it, laid over what the older
one has. -/
theorem lookup_mergeDict {new : Dict} (hnew : Dict.Sorted new) (old : Dict) (k : String) :
    (mergeDict old new).lookup k = laidOver (old.lookup k) (new.lookup k) := by
  induction new generalizing old with
  | nil => rw [mergeDict]; exact (laidOver_none _).symm
  | cons e rest ih =>
    obtain ⟨key, v⟩ := e
    obtain ⟨hkey, hrest⟩ := List.pairwise_cons.mp hnew
    obtain ⟨x, hx, hmerge⟩ := mergeDict_cons old key v rest
    rw [hmerge, ih hrest, lookup_put]
    by_cases hk : k = key
    · subst hk
      rw [lookup_eq_none hkey, laidOver_none, lookup_cons_eq_ite, if_pos rfl, if_pos rfl, hx]
    · rw [lookup_cons_eq_ite, if_neg hk, if_neg hk]

/-! ## The order of the keys -/

theorem fst_of_mem_put {d : Dict} {key : String} {v : Value} {e : String × Value}
    (h : e ∈ Dict.put d key v) : e.1 = key ∨ ∃ e' ∈ d, e'.1 = e.1 := by
  induction d with
  | nil => exact .inl (by rw [List.mem_singleton.mp h])
  | cons e' d ih =>
    rw [Dict.put] at h
    split at h
    · rcases List.mem_cons.mp h with rfl | h
      · exact .inl rfl
      · exact .inr ⟨e, List.mem_cons_of_mem _ h, rfl⟩
    · split at h
      · rcases List.mem_cons.mp h with rfl | h
        · exact .inl rfl
        · exact .inr ⟨e, h, rfl⟩
      · rcases List.mem_cons.mp h with rfl | h
        · exact .inr ⟨_, List.mem_cons_self, rfl⟩
        · rcases ih h with h | ⟨e'', hmem, heq⟩
          · exact .inl h
          · exact .inr ⟨e'', List.mem_cons_of_mem _ hmem, heq⟩

theorem sorted_put {d : Dict} (h : Dict.Sorted d) (key : String) (v : Value) :
    Dict.Sorted (Dict.put d key v) := by
  induction d with
  | nil => exact List.pairwise_singleton _ _
  | cons e d ih =>
    obtain ⟨k, w⟩ := e
    obtain ⟨hk, hd⟩ := List.pairwise_cons.mp h
    rw [Dict.put]
    split
    next heq => subst heq; exact List.pairwise_cons.mpr ⟨hk, hd⟩
    next hne =>
      split
      next hlt =>
        refine List.pairwise_cons.mpr ⟨fun e he => ?_, h⟩
        rcases List.mem_cons.mp he with rfl | he
        · exact hlt
        · exact hlt.trans (hk e he)
      next hnlt =>
        refine List.pairwise_cons.mpr ⟨fun e he => ?_, ih hd⟩
        rcases fst_of_mem_put he with heq | ⟨e', hmem, heq⟩
        · rw [heq]; exact lt_of_le_of_ne (not_lt.mp hnlt) hne
        · rw [← heq]; exact hk e' hmem

theorem sorted_mergeDict {old : Dict} (h : Dict.Sorted old) (new : Dict) :
    Dict.Sorted (mergeDict old new) := by
  induction new generalizing old with
  | nil => rw [mergeDict]; exact h
  | cons e rest ih =>
    obtain ⟨x, _, hmerge⟩ := mergeDict_cons old e.1 e.2 rest
    rw [hmerge]
    exact ih (sorted_put h _ _)

theorem sorted_ofList (entries : List (String × Value)) : Dict.Sorted (Dict.ofList entries) := by
  suffices ∀ d, Dict.Sorted d → Dict.Sorted (entries.foldl (fun d e => Dict.put d e.1 e.2) d) from
    this [] List.Pairwise.nil
  induction entries with
  | nil => exact fun _ h => h
  | cons e entries ih => exact fun d h => ih _ (sorted_put h e.1 e.2)

/-! ## Tidy dictionaries -/

theorem tidy_nil : Dict.Tidy [] := ⟨List.Pairwise.nil, fun _ _ h => nomatch h⟩

theorem tidy_put {d : Dict} {v : Value} (hd : Dict.Tidy d) (hv : v.Tidy) (key : String) :
    Dict.Tidy (Dict.put d key v) := by
  refine ⟨sorted_put hd.sorted key v, fun k w hw => ?_⟩
  rw [lookup_put] at hw
  split at hw
  · cases hw; exact hv
  · exact hd.entries k w hw

theorem tidy_merge {w v : Value} (hw : w.Tidy) (hv : v.Tidy) : (merge w v).Tidy := by
  rcases merge_cases w v with heq | ⟨_, below, _, entries, rfl, rfl, heq⟩
  · rw [heq]; exact hv
  · rw [heq]; exact sorted_mergeDict hw entries

theorem tidy_mergeDict {old new : Dict} (hold : Dict.Tidy old) (hnew : Dict.Tidy new) :
    Dict.Tidy (mergeDict old new) := by
  refine ⟨sorted_mergeDict hold.sorted new, fun k x hx => ?_⟩
  rw [lookup_mergeDict hnew.sorted] at hx
  cases hw : old.lookup k with
  | none => rw [hw, none_laidOver] at hx; exact hnew.entries k x hx
  | some w =>
    cases hv : new.lookup k with
    | none => rw [hw, hv] at hx; rw [← Option.some.inj hx]; exact hold.entries k w hw
    | some v =>
      rw [hw, hv] at hx
      rw [← Option.some.inj hx]
      exact tidy_merge (hold.entries k w hw) (hnew.entries k v hv)

/-! ## Every layer is tidy -/

theorem tidy_builtinLayer : Dict.Tidy builtinLayer := by
  refine ⟨by decide +kernel, fun k v hv => ?_⟩
  rw [builtinLayer, lookup_cons_eq_ite, lookup_cons_eq_ite] at hv
  split at hv
  · cases hv; rw [Value.Tidy]; decide +kernel
  · split at hv
    · cases hv; rw [Value.Tidy]; decide +kernel
    · cases hv

theorem sorted_ofTomlEntries (source : Source) (t : List (String × Toml.Value)) :
    Dict.Sorted (ofTomlEntries source t) := by
  induction t with
  | nil => rw [ofTomlEntries]; exact List.Pairwise.nil
  | cons e t ih => rw [ofTomlEntries]; exact sorted_put ih _ _

theorem tidy_ofToml (source : Source) (v : Toml.Value) : (ofToml source v).Tidy := by
  cases v with
  | moment s => rw [ofToml]; exact List.pairwise_singleton _ _
  | table _ entries => rw [ofToml]; exact sorted_ofTomlEntries source entries
  | _ => rw [ofToml]; trivial

theorem tidy_ofTomlEntries (source : Source) (t : List (String × Toml.Value)) :
    Dict.Tidy (ofTomlEntries source t) := by
  induction t with
  | nil => rw [ofTomlEntries]; exact tidy_nil
  | cons e t ih => rw [ofTomlEntries]; exact tidy_put ih (tidy_ofToml source e.2) e.1

/-- The layer of a file is tidy. -/
theorem tidy_fileLayer {s : System} {p : Path} {d : Dict} (h : fileLayer s p = .ok d) :
    Dict.Tidy d := by
  unfold fileLayer at h
  split at h
  next => cases h; exact tidy_nil
  next =>
    split at h
    next => cases h
    next =>
      unfold readLayer at h
      split at h
      next => cases h
      next =>
        split at h
        next => cases h
        next => cases h; exact tidy_ofTomlEntries _ _

theorem tidy_value {depth : Nat} {cs rest : List Char} {v : Value}
    (h : value depth cs = .ok (v, rest)) : v.Tidy := by
  unfold value at h
  split at h
  case h_3 inner depth _ =>
    simp only [bind, Except.bind] at h
    cases hitems : items (entry (value depth)) '}' inner with
    | error e => rw [hitems] at h; cases h
    | ok found => rw [hitems] at h; cases h; exact sorted_ofList _
  case h_4 inner depth _ =>
    simp only [bind, Except.bind] at h
    cases hitems : items (value depth) ']' inner with
    | error e => rw [hitems] at h; cases h
    | ok found => rw [hitems] at h; cases h; trivial
  case h_7 inner _ =>
    simp only [bind, Except.bind] at h
    cases hstring : string inner with
    | error e => rw [hstring] at h; cases h
    | ok found => rw [hstring] at h; cases h; trivial
  all_goals cases h
  all_goals trivial

theorem tidy_ofText {cs : List Char} {v : Value} (h : ofText cs = .ok v) : v.Tidy := by
  unfold ofText at h
  split at h
  next hvalue => cases h; exact tidy_value hvalue
  next => cases h
  next => cases h; trivial

theorem tidy_nest {v : Value} (hv : v.Tidy) (ks : List String) : (nest v ks).Tidy := by
  cases ks with
  | nil => exact hv
  | cons k ks => exact List.pairwise_singleton _ _

/-- A variable laid over those before it. -/
def addVariable (d : Dict) (var : Bytes × Bytes) : Except Text.CutFault Dict :=
  match keyPath? (Utf8.lossyFrom [] var.1) with
  | some (k :: ks) =>
    (ofText (Utf8.lossyFrom [] var.2)).map fun v => mergeDict d [(k, nest v ks)]
  | _ => .ok d

theorem ofVariables_eq (env : List (Bytes × Bytes)) : ofVariables env = env.foldlM addVariable [] :=
  rfl

/-- The layer of the variables is tidy. -/
theorem tidy_ofVariables {env : List (Bytes × Bytes)} {d : Dict} (h : ofVariables env = .ok d) :
    Dict.Tidy d := by
  refine foldlM_keeps Dict.Tidy (fun d var d' hd hvar => ?_) tidy_nil (ofVariables_eq env ▸ h)
  unfold addVariable at hvar
  split at hvar
  next k ks hkeys =>
    obtain ⟨v, hv, rfl⟩ := map_eq_ok_iff.mp hvar
    exact tidy_mergeDict hd (tidy_put tidy_nil (tidy_nest (tidy_ofText hv) ks) k)
  next => cases hvar; exact hd

/-- All layers are a file over what is built in, and the variables over both. -/
theorem layered_eq_ok_iff {s : System} {p : Path} {d : Dict} :
    layered s (some p) = .ok d ↔ ∃ file overlay, fileLayer s p = .ok file
      ∧ ofVariables s.env = .ok overlay ∧ d = mergeDict (mergeDict builtinLayer file) overlay := by
  rw [layered]
  dsimp only
  cases ofVariables s.env <;> cases fileLayer s p <;> simp [eq_comm]

theorem tidy_layered {s : System} {p : Path} {d : Dict} (h : layered s (some p) = .ok d) :
    Dict.Tidy d := by
  obtain ⟨file, overlay, hfile, hoverlay, rfl⟩ := layered_eq_ok_iff.mp h
  exact tidy_mergeDict (tidy_mergeDict tidy_builtinLayer (tidy_fileLayer hfile))
    (tidy_ofVariables hoverlay)

/-! ## Folding over the keys -/

section Folds

variable {ε α : Type} {step : α → String → Value → Except ε α} {keys : List String} {d d' : Dict}

/-- What a fold does about a key, with what the dictionary has for it. -/
def visit (step : α → String → Value → Except ε α) (d : Dict) (a : α) (k : String) : Except ε α :=
  match d.lookup k with
  | some v => step a k v
  | none => .ok a

theorem foldlM_visit_congr (h : ∀ k ∈ keys, d.lookup k = d'.lookup k) (a : α) :
    keys.foldlM (visit step d) a = keys.foldlM (visit step d') a := by
  induction keys generalizing a with
  | nil => rfl
  | cons k keys ih =>
    rw [List.foldlM_cons, List.foldlM_cons, visit, visit, h k List.mem_cons_self]
    exact congrArg _ (funext fun a => ih (fun k hk => h k (List.mem_cons_of_mem _ hk)) a)

theorem foldlM_visit_none (h : ∀ k ∈ keys, d.lookup k = none) (a : α) :
    keys.foldlM (visit step d) a = .ok a := by
  induction keys with
  | nil => rfl
  | cons k keys ih =>
    rw [List.foldlM_cons, visit, h k List.mem_cons_self]
    exact ih fun k hk => h k (List.mem_cons_of_mem _ hk)

/-- **A fold over a dictionary** that passes over all but some keys is a fold over these keys, with
what is looked up for each. -/
theorem foldlM_eq_visits (step : α → String → Value → Except ε α) (keys : List String)
    (hkeys : keys.Pairwise (· < ·)) (hskip : ∀ a k v, k ∉ keys → step a k v = .ok a)
    (hd : Dict.Sorted d) (a : α) :
    d.foldlM (fun a e => step a e.1 e.2) a = keys.foldlM (visit step d) a := by
  induction d generalizing a with
  | nil => exact (foldlM_visit_none (fun _ _ => rfl) a).symm
  | cons e d ih =>
    obtain ⟨key, v⟩ := e
    obtain ⟨hkey, hd⟩ := List.pairwise_cons.mp hd
    rw [List.foldlM_cons]
    by_cases hmem : key ∈ keys
    · obtain ⟨pre, post, rfl⟩ := List.append_of_mem hmem
      obtain ⟨_, hpost, hlt⟩ := List.pairwise_append.mp hkeys
      -- the keys in front come before all keys of the dictionary
      have hpre : ∀ k ∈ pre, ∀ e ∈ (key, v) :: d, k < e.1 := by
        intro k hk e he
        have hkkey := hlt k hk key List.mem_cons_self
        rcases List.mem_cons.mp he with rfl | he
        · exact hkkey
        · exact hkkey.trans (hkey e he)
      have hfull : (pre ++ key :: post).foldlM (visit step ((key, v) :: d)) a
          = step a key v >>= fun a => post.foldlM (visit step d) a := by
        rw [List.foldlM_append, foldlM_visit_none fun k hk => lookup_eq_none (hpre k hk)]
        change (key :: post).foldlM (visit step ((key, v) :: d)) a = _
        rw [List.foldlM_cons, visit, lookup_cons_eq_ite, if_pos rfl]
        refine congrArg _ (funext fun a => foldlM_visit_congr (fun k hk => ?_) a)
        rw [lookup_cons_eq_ite, if_neg ((List.pairwise_cons.mp hpost).1 k hk).ne']
      have hrest : ∀ a, (pre ++ key :: post).foldlM (visit step d) a
          = post.foldlM (visit step d) a := by
        intro a
        rw [List.foldlM_append, foldlM_visit_none fun k hk =>
          lookup_eq_none fun e he => hpre k hk e (List.mem_cons_of_mem _ he)]
        change (key :: post).foldlM (visit step d) a = _
        rw [List.foldlM_cons, visit, lookup_eq_none hkey]
        rfl
      rw [hfull]
      exact congrArg _ (funext fun a => (ih hd a).trans (hrest a))
    · rw [hskip a key v hmem]
      refine (ih hd a).trans (foldlM_visit_congr (fun k hk => ?_) a)
      rw [lookup_cons_eq_ite, if_neg (ne_of_mem_of_not_mem hk hmem)]

end Folds

end ScriptHost.Settings
