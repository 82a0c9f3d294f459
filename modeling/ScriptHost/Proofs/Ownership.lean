import Mathlib
import ScriptHost.Proofs.Clients

/-!
# Ownership

Whatever a client does with the interface, every handle that the runtime gave is
released once, after everything else that happened to it. The runtime may give the
same value twice, so this cannot be read off the values: it is a law of each session's
own calls (`Life`), and the invariant says that it holds of all of them at every
moment, together with what the client still holds.

A balance follows for the values as well (`ledger`): what was given is what was
released and what is still held. No value is therefore ever released more often than
it was given, at any point of the trace.
-/

namespace ScriptHost

/-- This call is a start that was answered with `v`. -/
def OwnedCall.obtains (x : OwnedCall) (v : Int) : Bool :=
  x.call.kind? = some .init ∧ x.answer = some v

/-- This call is a release of `v`. -/
def OwnedCall.releases (x : OwnedCall) (v : Int) : Bool := x.call = .deinit v

/-- The scripts of a session, as calls. -/
def ranCalls (k : Nat) (v : Int) (sources : List Bytes) : List OwnedCall :=
  sources.map fun source => ⟨some k, .run v source, none⟩

/-- The calls on behalf of the session `k`, with what the client holds of it. -/
inductive Life (k : Nat) : Option Session → List OwnedCall → Prop where
  /-- There is no such session, or its start did not reach the runtime. -/
  | unmade : Life k none []
  /-- The runtime panicked over the start. -/
  | panicked {base : Bytes} : Life k none [⟨some k, .init base, none⟩]
  /-- The runtime answered the start with a value that is no handle. -/
  | refused {base : Bytes} {v : Int} : v ≤ 0 → Life k none [⟨some k, .init base, some v⟩]
  /-- The session is held, and some scripts have run. -/
  | held {r : Runtime} {base : Bytes} {v : Int} (sources : List Bytes) : 0 < v →
      Life k (some ⟨r, v, .live⟩) (⟨some k, .init base, some v⟩ :: ranCalls k v sources)
  /-- The session was released, once and after all scripts. -/
  | released {base : Bytes} {v : Int} (sources : List Bytes) : 0 < v →
      Life k none
        (⟨some k, .init base, some v⟩ :: ranCalls k v sources ++ [⟨some k, .deinit v, none⟩])

/-- What the history says of a start, of a script that was refused and of a look at a session. -/
structure Deed.Sound (trace : List OwnedCall) (d : Deed) : Prop where
  /-- A start returns a session if the runtime answers with a handle, which it then has. -/
  started : ∀ r base v, d.use = .start r base →
    (d.ending = .started v ↔ 0 < v ∧ ∃ k, d.calls = [⟨some k, .init base.bytes, some v⟩])
  /-- A script that is refused, or has a NUL byte, is not the occasion of any call. -/
  refused : ∀ k source, d.use = .run k source →
    (0 ∈ bytesOf source ∨ ∃ e, d.ending = .failed e) → d.calls = []
  /-- A session is seen live and with the handle that its start was answered with. -/
  observed : ∀ k raw state, d.use = .observe k → d.ending = .seen raw state →
    state = .live ∧ ∃ base, ⟨some k, .init base, some raw⟩ ∈ trace

namespace Client

/-! ## The invariant -/

/-- The sessions that are held with the handle `v`. -/
def holding (c : Client) (v : Int) : Nat := c.sessions.countP fun o => o.any (·.raw = v)

/-- What holds of a client at every moment, if it began in the world `w`. -/
structure Orderly (w : World) (c : Client) : Prop where
  /-- The trace is what the runtime was called with. -/
  calls : c.world.calls = w.calls ++ c.trace.map (·.call)
  /-- The answers are the values of the runtime in turn. -/
  answers : ∃ n, c.trace.filterMap (·.answer) = (List.range n).map (w.supply.getD · 0)
    ∧ c.world.supply = w.supply.drop n
  /-- Calls are on behalf of sessions that were started. -/
  owners : ∀ x ∈ c.trace, ∀ k, x.owner = some k → k < c.sessions.length
  /-- Only probes are on behalf of none. -/
  probes : ∀ x ∈ c.trace, x.owner = none → x.call = .hello
  lives : ∀ k, Life k (c.held k) (c.callsOf k)
  /-- What was given is what was released and what is held. -/
  ledger : ∀ v, 0 < v →
    c.trace.countP (·.obtains v) = c.trace.countP (·.releases v) + c.holding v
  /-- Nothing is released more often than it was given, at any point. -/
  balanced : ∀ v calls, calls <+: c.trace → calls.countP (·.releases v) ≤ calls.countP (·.obtains v)
  deeds : ∀ d ∈ c.history, d.Sound c.trace

theorem orderly_fresh (w : World) : (fresh w).Orderly w where
  calls := by simp [fresh, trace]
  answers := ⟨0, rfl, rfl⟩
  owners := by intro x hx; cases hx
  probes := by intro x hx; cases hx
  lives := fun _ => .unmade
  ledger := by intro v _; rfl
  balanced := by
    intro v calls hpre
    rw [List.prefix_nil.mp hpre]
    exact Nat.le_refl 0
  deeds := by intro d hd; cases hd

section Steps

variable {w : World} {c c' : Client} {d : Deed} {use : Use}

theorem trace_of_performed (h : c.Performed d c') : c'.trace = c.trace ++ d.calls := by
  rw [trace, h.history, List.flatMap_append]
  simp [trace]

theorem callsOf_of_performed (h : c.Performed d c') (k : Nat) :
    c'.callsOf k = c.callsOf k ++ d.calls.filter (·.owner = some k) := by
  rw [callsOf, trace_of_performed h, List.filter_append]
  rfl

theorem mem_callsOf {k : Nat} {x : OwnedCall} :
    x ∈ c.callsOf k ↔ x ∈ c.trace ∧ x.owner = some k := by
  rw [callsOf, List.mem_filter, decide_eq_true_iff]

end Steps

end Client

/-! ## Lives -/

namespace Life

variable {k : Nat} {s : Session} {o : Option Session} {calls : List OwnedCall}

/-- A session that is held is live, and its handle is what its start was answered with. -/
theorem of_held (h : Life k (some s) calls) :
    s.state = .live ∧ 0 < s.raw ∧ ∃ base, ⟨some k, .init base, some s.raw⟩ ∈ calls := by
  cases h with
  | held sources hpos => exact ⟨rfl, hpos, _, List.mem_cons_self⟩

theorem run (h : Life k (some s) calls) (source : Bytes) :
    Life k (some s) (calls ++ [⟨some k, .run s.raw source, none⟩]) := by
  cases h with
  | @held r base v sources hpos =>
    have happend : ranCalls k v sources ++ [⟨some k, .run v source, none⟩]
        = ranCalls k v (sources ++ [source]) := by
      simp [ranCalls]
    rw [List.cons_append, happend]
    exact .held _ hpos

theorem release (h : Life k (some s) calls) :
    Life k none (calls ++ [⟨some k, .deinit s.raw, none⟩]) := by
  cases h with
  | held sources hpos => exact .released sources hpos

/-- What is run on or released is a handle, and the start was answered with it. -/
theorem init_of_mem (h : Life k o calls) {x : OwnedCall} (hx : x ∈ calls) {v : Int}
    (hcall : x.call = .deinit v ∨ ∃ source, x.call = .run v source) :
    0 < v ∧ ∃ base, ⟨some k, .init base, some v⟩ ∈ calls := by
  have hinit : ∀ {base : Bytes}, x.call ≠ .init base := by
    intro base hbase
    rw [hbase] at hcall
    rcases hcall with h | ⟨_, h⟩ <;> cases h
  -- a script tells the handle of its session
  have hran : ∀ {sources : List Bytes} {v' : Int}, x ∈ ranCalls k v' sources → v' = v := by
    intro sources v' hmem
    obtain ⟨source, _, rfl⟩ := List.mem_map.mp hmem
    rcases hcall with h | ⟨_, h⟩
    · cases h
    · cases h; rfl
  cases h with
  | unmade => cases hx
  | panicked => exact absurd (congrArg OwnedCall.call (List.mem_singleton.mp hx)) hinit
  | refused _ => exact absurd (congrArg OwnedCall.call (List.mem_singleton.mp hx)) hinit
  | held sources hpos =>
    rcases List.mem_cons.mp hx with h | h
    · exact absurd (congrArg OwnedCall.call h) hinit
    · rw [← hran h]
      exact ⟨hpos, _, List.mem_cons_self⟩
  | released sources hpos =>
    rcases List.mem_append.mp hx with h | h
    · rcases List.mem_cons.mp h with h | h
      · exact absurd (congrArg OwnedCall.call h) hinit
      · rw [← hran h]
        exact ⟨hpos, _, List.mem_cons_self⟩
    · rw [List.mem_singleton.mp h] at hcall
      rcases hcall with h | ⟨_, h⟩
      · cases h; exact ⟨hpos, _, List.mem_cons_self⟩
      · cases h

/-- A session that was given a handle and is not held was released. -/
theorem released_of_init (h : Life k none calls) {base : Bytes} {v : Int}
    (hinit : ⟨some k, .init base, some v⟩ ∈ calls) (hv : 0 < v) :
    ∃ sources, calls
      = ⟨some k, .init base, some v⟩ :: ranCalls k v sources ++ [⟨some k, .deinit v, none⟩] := by
  cases h with
  | unmade => cases hinit
  | panicked => simp at hinit
  | refused hle =>
    simp at hinit
    omega
  | released sources hpos =>
    -- neither a script nor the release is a start
    simp [ranCalls] at hinit
    obtain ⟨rfl, rfl⟩ := hinit
    exact ⟨sources, rfl⟩

end Life

namespace Client

section Steps

variable {w : World} {c c' : Client} {d : Deed} {use : Use}

/-- A new session has the next number. -/
theorem getD_concat (sessions : List (Option Session)) (o : Option Session) (k : Nat) :
    (sessions ++ [o]).getD k none = if k = sessions.length then o else sessions.getD k none := by
  simp only [List.getD_eq_getElem?_getD, List.getElem?_append]
  grind

/-- A session that was let go is not held. -/
theorem getD_set_none (sessions : List (Option Session)) (j k : Nat) :
    (sessions.set j none).getD k none = if k = j then none else sessions.getD k none := by
  simp only [List.getD_eq_getElem?_getD, List.getElem?_set]
  grind

/-- The calls on behalf of one session belong to its life and to no other. -/
theorem lives_of_own (ho : c.Orderly w) {sessions : List (Option Session)} {j : Nat}
    {o : Option Session} {calls : List OwnedCall}
    (hheld : ∀ k, sessions.getD k none = if k = j then o else c.held k)
    (howner : ∀ x ∈ calls, x.owner = some j) (hlife : Life j o (c.callsOf j ++ calls)) (k : Nat) :
    Life k (sessions.getD k none) (c.callsOf k ++ calls.filter (·.owner = some k)) := by
  rw [hheld]
  by_cases hk : k = j
  · subst hk
    have hall : calls.filter (·.owner = some k) = calls :=
      List.filter_eq_self.mpr fun x hx => decide_eq_true (howner x hx)
    rw [if_pos rfl, hall]
    exact hlife
  · have hnone : calls.filter (·.owner = some k) = [] := by
      rw [List.filter_eq_nil_iff]
      intro x hx hown
      have hjk : some j = some k := (howner x hx).symm.trans (of_decide_eq_true hown)
      exact hk (Option.some.inj hjk).symm
    rw [if_neg hk, hnone, List.append_nil]
    exact ho.lives k

/-- Nothing was called yet on behalf of the session that comes next. -/
theorem callsOf_next (ho : c.Orderly w) : c.callsOf c.sessions.length = [] := by
  rw [callsOf, List.filter_eq_nil_iff]
  intro x hx hown
  exact Nat.lt_irrefl _ (ho.owners x hx _ (of_decide_eq_true hown))

theorem lives_performed (ho : c.Orderly w) (h : c.Performed d c') (k : Nat) :
    Life k (c'.held k) (c'.callsOf k) := by
  -- a start belongs to a session that nothing was called for yet; any other call goes on a life
  have hnext := callsOf_next ho
  rw [callsOf_of_performed h, held]
  have heffect := h.effect
  generalize c'.sessions = sessions, d.calls = calls, d.use = use, d.ending = ending at heffect ⊢
  have hlife : Life k (c.sessions.getD k none) (c.callsOf k ++ []) := by
    rw [List.append_nil]
    exact ho.lives k
  cases heffect with
  | idle => exact hlife
  | observed _ => exact hlife
  | refused _ => exact hlife
  | noProbe => exact hlife
  | probed _ => exact hlife
  | notCalled =>
    refine lives_of_own ho (getD_concat c.sessions none) (by simp) ?_ k
    rw [hnext]
    exact .unmade
  | startPanic =>
    refine lives_of_own ho (getD_concat c.sessions none) (by simp) ?_ k
    rw [hnext]
    exact .panicked
  | notStarted hle =>
    refine lives_of_own ho (getD_concat c.sessions none) (by simp) ?_ k
    rw [hnext]
    exact .refused hle
  | started hpos =>
    refine lives_of_own ho (getD_concat c.sessions _) (by simp) ?_ k
    rw [hnext]
    exact .held [] hpos
  | @ran j source s _ hs _ _ =>
    have hheld : ∀ i, c.sessions.getD i none = if i = j then some s else c.held i := by
      intro i
      split
      next hi => rw [hi]; exact hs
      next => rfl
    refine lives_of_own ho hheld (by simp) (Life.run ?_ _) k
    rw [← hs]
    exact ho.lives j
  | @ended j s _ _ hs _ _ =>
    refine lives_of_own ho (getD_set_none c.sessions j) (by simp) (Life.release ?_) k
    rw [← hs]
    exact ho.lives j

/-- The sessions that a client holds are live. -/
theorem live_of_held (ho : c.Orderly w) (k : Nat) (s : Session) (hs : c.held k = some s) :
    s.state = .live := by
  have hlife := ho.lives k
  rw [hs] at hlife
  exact hlife.of_held.1

theorem lt_of_held {k : Nat} {s : Session} (hs : c.held k = some s) : k < c.sessions.length := by
  rw [held, List.getD_eq_getElem?_getD] at hs
  by_cases hlt : k < c.sessions.length
  · exact hlt
  · rw [List.getElem?_eq_none (Nat.not_lt.mp hlt)] at hs
    cases hs

/-! ## The other parts of the invariant -/

section Effects

variable {ending : Ending} {sessions : List (Option Session)} {calls : List OwnedCall}

theorem length_le_of_effect (h : c.Effect use ending sessions calls) :
    c.sessions.length ≤ sessions.length := by
  cases h <;> simp

theorem owner_lt_of_effect (h : c.Effect use ending sessions calls) {x : OwnedCall}
    (hx : x ∈ calls) {k : Nat} (hk : x.owner = some k) : k < sessions.length := by
  cases h with
  | idle => cases hx
  | observed _ => cases hx
  | notCalled => cases hx
  | refused _ => cases hx
  | noProbe => cases hx
  | probed _ => rw [List.mem_singleton.mp hx] at hk; cases hk
  | startPanic => rw [List.mem_singleton.mp hx] at hk; cases hk; simp
  | notStarted _ => rw [List.mem_singleton.mp hx] at hk; cases hk; simp
  | started _ => rw [List.mem_singleton.mp hx] at hk; cases hk; simp
  | ran hs _ _ => rw [List.mem_singleton.mp hx] at hk; cases hk; exact lt_of_held hs
  | ended hs _ _ =>
    rw [List.mem_singleton.mp hx] at hk
    cases hk
    rw [List.length_set]
    exact lt_of_held hs

theorem probe_of_effect (h : c.Effect use ending sessions calls) {x : OwnedCall}
    (hx : x ∈ calls) (hk : x.owner = none) : x.call = .hello := by
  cases h <;> simp_all

/-- A use makes at most one call. -/
theorem length_calls_of_effect (h : c.Effect use ending sessions calls) : calls.length ≤ 1 := by
  cases h <;> simp

/-- The values of the runtime are used up by the starts that it answered. -/
theorem answers_of_effect (h : c.Effect use ending sessions calls) :
    calls.filterMap (·.answer) = []
      ∨ calls.filterMap (·.answer) = [c.world.supply.headD 0] := by
  cases h <;> simp

/-- A session that is let go is held no more, and all others are held as before. -/
theorem countP_set_none {k : Nat} {s : Session} (hs : c.held k = some s) (v : Int) :
    (c.sessions.set k none).countP (fun o => o.any (·.raw = v)) + (if s.raw = v then 1 else 0)
      = c.holding v := by
  have hlt := lt_of_held hs
  have hget : c.sessions[k] = some s := by
    rw [held, List.getD_eq_getElem?_getD, List.getElem?_eq_getElem hlt] at hs
    exact hs
  -- the session that is let go was counted, so the number does not go below zero
  have hle := List.boole_getElem_le_countP (p := fun o : Option Session => o.any (·.raw = v)) hlt
  rw [List.countP_set hlt, holding]
  rw [hget] at hle ⊢
  by_cases hv : s.raw = v
  · simp only [Option.any_some, hv, decide_true, if_true, Option.any_none, Bool.false_eq_true,
      if_false] at hle ⊢
    omega
  · simp [hv]

/-- One step of the ledger. -/
theorem ledger_of_effect (h : c.Effect use ending sessions calls) {v : Int} (hv : 0 < v) :
    calls.countP (·.obtains v) + c.holding v
      = calls.countP (·.releases v) + sessions.countP (fun o => o.any (·.raw = v)) := by
  cases h with
  | idle => rfl
  | observed _ => rfl
  | refused _ => rfl
  | noProbe => rfl
  | notCalled => simp [holding]
  | startPanic => simp [holding, OwnedCall.obtains, OwnedCall.releases]
  | notStarted hle =>
    -- a value that was refused is not a handle, and only handles are counted
    generalize c.world.supply.headD 0 = value at hle
    have hne : value ≠ v := by omega
    simp [holding, OwnedCall.obtains, OwnedCall.releases, hne]
  | started _ =>
    simp [holding, OwnedCall.obtains, OwnedCall.releases, Call.kind?, List.countP_append,
      List.countP_cons]
    omega
  | ran _ _ _ => simp [holding, OwnedCall.obtains, OwnedCall.releases]
  | ended hs _ _ =>
    have hset := countP_set_none hs v
    simp [OwnedCall.obtains, OwnedCall.releases, Call.kind?, List.countP_cons]
    omega
  | probed _ => simp [holding, OwnedCall.obtains, OwnedCall.releases]

end Effects

theorem init_of_mem_trace (hprobes : ∀ x ∈ c.trace, x.owner = none → x.call = .hello)
    (hlives : ∀ k, Life k (c.held k) (c.callsOf k)) {x : OwnedCall} (hx : x ∈ c.trace) {v : Int}
    (hcall : x.call = .deinit v ∨ ∃ source, x.call = .run v source) :
    0 < v ∧ ∃ k base, x.owner = some k ∧ ⟨some k, .init base, some v⟩ ∈ c.trace := by
  cases hown : x.owner with
  | none =>
    rw [hprobes x hx hown] at hcall
    rcases hcall with h | ⟨_, h⟩ <;> cases h
  | some k =>
    obtain ⟨hv, base, hmem⟩ := (hlives k).init_of_mem (mem_callsOf.mpr ⟨hx, hown⟩) hcall
    exact ⟨hv, k, base, rfl, (mem_callsOf.mp hmem).1⟩

theorem sound_mono {trace more : List OwnedCall} (h : d.Sound trace) :
    d.Sound (trace ++ more) where
  started := h.started
  refused := h.refused
  observed := by
    intro k raw state huse hending
    obtain ⟨hstate, base, hmem⟩ := h.observed k raw state huse hending
    exact ⟨hstate, base, List.mem_append_left _ hmem⟩

theorem sound_performed (ho : c.Orderly w) (h : c.Performed d c') : d.Sound c'.trace := by
  rw [trace_of_performed h]
  have heffect := h.effect
  refine ⟨?_, ?_, ?_⟩
  · intro r base v huse
    generalize c'.sessions = sessions, d.calls = calls, d.ending = ending at heffect ⊢
    rw [huse] at heffect
    cases heffect with
    | idle => simp
    | notCalled => simp
    | startPanic => simp
    | notStarted hle =>
      generalize c.world.supply.headD 0 = value at hle
      simp
      omega
    | started hpos =>
      generalize c.world.supply.headD 0 = value at hpos
      simp
      omega
    | ended _ hend _ => rcases hend with h | ⟨_, h⟩ <;> cases h
  · intro k source huse hrefused
    generalize c'.sessions = sessions, d.calls = calls, d.ending = ending at *
    rw [huse] at heffect
    cases heffect with
    | idle => rfl
    | refused _ => rfl
    | ran _ hnul hfailed =>
      rcases hrefused with h0 | ⟨e, he⟩
      · exact absurd h0 hnul
      · exact absurd he (hfailed e)
    | ended _ hend _ => rcases hend with h | ⟨_, h⟩ <;> cases h
  · intro k raw state huse hending
    rw [huse, hending] at heffect
    generalize c'.sessions = sessions, d.calls = calls at heffect
    cases heffect with
    | @observed _ s hs =>
      have hlife := ho.lives k
      rw [hs] at hlife
      obtain ⟨hlive, _, base, hmem⟩ := hlife.of_held
      exact ⟨hlive, base, List.mem_append_left _ (List.mem_filter.mp hmem).1⟩
    | ended _ hend _ => rcases hend with h | ⟨_, h⟩ <;> cases h

theorem answers_performed (ho : c.Orderly w) (h : c.Performed d c') :
    ∃ n, c'.trace.filterMap (·.answer) = (List.range n).map (w.supply.getD · 0)
      ∧ c'.world.supply = w.supply.drop n := by
  obtain ⟨n, hanswers, hsupply⟩ := ho.answers
  rw [trace_of_performed h, List.filterMap_append, hanswers, h.supply, hsupply]
  rcases answers_of_effect h.effect with hnone | hone
  · exact ⟨n, by simp [hnone], by simp [hnone]⟩
  · refine ⟨n + 1, ?_, ?_⟩
    · rw [hone, hsupply, List.range_succ, List.map_append]
      simp [List.head?_drop]
    · rw [hone, List.drop_drop]
      rfl

theorem owners_performed (ho : c.Orderly w) (h : c.Performed d c') :
    ∀ x ∈ c'.trace, ∀ k, x.owner = some k → k < c'.sessions.length := by
  intro x hx k hk
  rw [trace_of_performed h] at hx
  rcases List.mem_append.mp hx with hx | hx
  · exact Nat.lt_of_lt_of_le (ho.owners x hx k hk) (length_le_of_effect h.effect)
  · exact owner_lt_of_effect h.effect hx hk

theorem probes_performed (ho : c.Orderly w) (h : c.Performed d c') :
    ∀ x ∈ c'.trace, x.owner = none → x.call = .hello := by
  intro x hx hk
  rw [trace_of_performed h] at hx
  rcases List.mem_append.mp hx with hx | hx
  · exact ho.probes x hx hk
  · exact probe_of_effect h.effect hx hk

theorem ledger_performed (ho : c.Orderly w) (h : c.Performed d c') {v : Int} (hv : 0 < v) :
    c'.trace.countP (·.obtains v) = c'.trace.countP (·.releases v) + c'.holding v := by
  have hold := ho.ledger v hv
  have hstep := ledger_of_effect h.effect hv
  rw [trace_of_performed h, List.countP_append, List.countP_append, holding]
  omega

/-- A use makes at most one call, so a prefix of the trace is an old one or the whole trace. -/
theorem prefix_performed (h : c.Performed d c') {calls : List OwnedCall}
    (hpre : calls <+: c'.trace) : calls <+: c.trace ∨ calls = c'.trace := by
  have hlen := length_calls_of_effect h.effect
  rw [trace_of_performed h] at hpre ⊢
  rcases hd : d.calls with _ | ⟨x, _ | ⟨y, rest⟩⟩
  · rw [hd, List.append_nil] at hpre
    exact Or.inl hpre
  · rw [hd, List.prefix_concat_iff] at hpre
    exact hpre.symm
  · rw [hd] at hlen
    simp at hlen

theorem balanced_performed (ho : c.Orderly w) (h : c.Performed d c') (v : Int)
    {calls : List OwnedCall} (hpre : calls <+: c'.trace) :
    calls.countP (·.releases v) ≤ calls.countP (·.obtains v) := by
  rcases prefix_performed h hpre with hold | rfl
  · exact ho.balanced v calls hold
  · by_cases hv : 0 < v
    · rw [ledger_performed ho h hv]
      exact Nat.le_add_right _ _
    · -- a value that is no handle is never released
      have hzero : c'.trace.countP (·.releases v) = 0 := by
        rw [List.countP_eq_zero]
        intro x hx hrel
        exact hv (init_of_mem_trace (probes_performed ho h) (lives_performed ho h) hx
          (Or.inl (of_decide_eq_true hrel))).1
      rw [hzero]
      exact Nat.zero_le _

/-- **Preserved by every step.** -/
theorem orderly_performed (ho : c.Orderly w) (h : c.Performed d c') : c'.Orderly w where
  calls := by
    rw [h.calls, ho.calls, trace_of_performed h, List.map_append, List.append_assoc]
  answers := answers_performed ho h
  owners := owners_performed ho h
  probes := probes_performed ho h
  lives := lives_performed ho h
  ledger := fun _ hv => ledger_performed ho h hv
  balanced := fun v _ hpre => balanced_performed ho h v hpre
  deeds := by
    intro d' hd'
    rw [h.history] at hd'
    rcases List.mem_append.mp hd' with hd' | hd'
    · rw [trace_of_performed h]
      exact sound_mono (ho.deeds d' hd')
    · rw [List.mem_singleton.mp hd']
      exact sound_performed ho h

/-- **Whatever a client does, it is orderly.** -/
theorem orderly_performAll (ho : c.Orderly w) {uses : List Use}
    (h : c.performAll uses = some c') : c'.Orderly w := by
  induction uses generalizing c with
  | nil =>
    rw [performAll, List.foldlM_nil] at h
    cases h
    exact ho
  | cons use uses ih =>
    rw [performAll, List.foldlM_cons] at h
    obtain ⟨c₁, hone, hrest⟩ := Option.bind_eq_some_iff.mp h
    obtain ⟨d, _, hd⟩ := perform_cases (live_of_held ho) hone
    exact ih (orderly_performed ho hd) hrest

end Steps

/-! ## When all sessions are gone -/

/-- What is left of a client that began in the world `w` when all its sessions are gone. -/
structure Settled (w : World) (c : Client) : Prop where
  /-- The trace is what the runtime was called with. -/
  calls : c.world.calls = w.calls ++ c.trace.map (·.call)
  /-- The answers are the values of the runtime in turn. -/
  answers : ∃ n, c.trace.filterMap (·.answer) = (List.range n).map (w.supply.getD · 0)
  /-- A start that was answered with a handle is followed, on behalf of its session, by scripts
  that are run on that handle, by one release of it, and by nothing else. -/
  released : ∀ k base v, ⟨some k, .init base, some v⟩ ∈ c.trace → 0 < v →
    ∃ sources, c.callsOf k
      = ⟨some k, .init base, some v⟩ :: ranCalls k v sources ++ [⟨some k, .deinit v, none⟩]
  /-- Scripts are run on, and releases are of, handles that were given to the same session. -/
  owned : ∀ x ∈ c.trace, ∀ v, (x.call = .deinit v ∨ ∃ source, x.call = .run v source) →
    0 < v ∧ ∃ k base, x.owner = some k ∧ ⟨some k, .init base, some v⟩ ∈ c.trace
  deeds : ∀ d ∈ c.history, d.Sound c.trace
  /-- Nothing is released more often than it was given, at any point. -/
  balanced : ∀ v calls, calls <+: c.trace → calls.countP (·.releases v) ≤ calls.countP (·.obtains v)

theorem held_of_gone {c : Client} (h : ∀ o ∈ c.sessions, o = none) (k : Nat) :
    c.held k = none := by
  rw [held, List.getD_eq_getElem?_getD]
  cases hk : c.sessions[k]? with
  | none => rfl
  | some o => exact h o (List.mem_of_getElem? hk)

/-- **Ownership.** A client may do anything with any number of sessions. When it has let go of
all of them, every handle was released once, and after everything else. -/
theorem settled_of_performAll {w : World} {uses : List Use} {c : Client}
    (hrun : (fresh w).performAll uses = some c) (hgone : ∀ o ∈ c.sessions, o = none) :
    c.Settled w := by
  have ho := orderly_performAll (orderly_fresh w) hrun
  have hlives : ∀ k, Life k none (c.callsOf k) := by
    intro k
    rw [← held_of_gone hgone k]
    exact ho.lives k
  obtain ⟨n, hanswers, _⟩ := ho.answers
  refine ⟨ho.calls, ⟨n, hanswers⟩, ?_, ?_, ho.deeds, ho.balanced⟩
  · intro k base v hmem hv
    exact (hlives k).released_of_init (mem_callsOf.mpr ⟨hmem, rfl⟩) hv
  · intro x hx v hcall
    exact init_of_mem_trace ho.probes ho.lives hx hcall

end Client

/-- Two sessions with the same handle at once, a start that is refused, a panic over a script and
one over a release. -/
def crowdedUses : List Use :=
  [.start (.recorder true) (.ofString "/a"), .start (.recorder true) (.ofString "/b"),
    .run 0 "1", .run 1 "\x00", .observe 1, .start (.recorder true) (.ofString "/c"), .close 1,
    .run 0 "2", .drop 0 true]

def crowdedWorld : World :=
  .start ⟨⟨[]⟩, [], [], .ofString "/", .ofString "/", []⟩ [7, 7, -1]
    [⟨.run, 1, [], true⟩, ⟨.deinit, 1, [], true⟩]

theorem settled_crowded :
    ∃ c, (Client.fresh crowdedWorld).performAll crowdedUses = some c
      ∧ (∀ o ∈ c.sessions, o = none) ∧ c.Settled crowdedWorld := by
  have hrun : ((Client.fresh crowdedWorld).performAll crowdedUses).map (·.sessions)
      = some [none, none, none] := by cbv
  obtain ⟨c, hc, hsessions⟩ := Option.map_eq_some_iff.mp hrun
  have hgone : ∀ o ∈ c.sessions, o = none := by
    rw [hsessions]
    decide
  exact ⟨c, hc, hgone, Client.settled_of_performAll hc hgone⟩

end ScriptHost
