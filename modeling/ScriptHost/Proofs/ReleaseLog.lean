import Mathlib
import ScriptHost.Proofs.LogAccount

/-!
# How a release is logged

A session that is not closed is released when it is dropped, and the drop enters this in
the log before it calls the runtime. It knows one thing about the way it came to be there:
whether a panic is going on. So a release is warned about if the runtime panicked over
the script, and in no other cycle is there a warning (`Host.runOnce_releaseLog`).

A script that is refused is a failure and no panic. The handle is dropped then as well,
and told of before its release, but not as a warning (`Host.unwarned_release`).
-/

namespace ScriptHost

namespace Host

/-- No event is a warning. -/
def Unwarned (events : List Event) : Prop := ∀ e ∈ events, e.level ≠ .warn

/-- How the log of a cycle that ends in `res` tells of the release, beside the calls of the cycle
and what became of them. -/
structure ReleaseLog (res : EStateM.Result Stop World Report) (events : List Event)
    (rs : List (Call × Reply)) : Prop where
  /-- A cycle that returns warns of nothing. -/
  returned : ∀ report w', res = .ok report w' → Unwarned events
  /-- A cycle that fails warns of nothing, and ends with the release of its handle if it got one. -/
  failed : ∀ e w', res = .error (.failure e) w' → Unwarned events ∧ ∀ base v, 0 < v →
    (.init base, .answered v) ∈ rs →
    ∃ before, events = before ++ [.releasing v false, .deinitialized v]
  /-- If the runtime panics over the script, there is a warning before the release, and nothing
  behind it if the runtime panics over that as well. -/
  unwound : ∀ v source, (.run v source, .panicked) ∈ rs →
    ∃ before, Unwarned before
      ∧ ((events = before ++ [.releasing v true, .deinitialized v]
          ∧ ∃ text w', res = .error (.panic text) w')
        ∨ (events = before ++ [.releasing v true] ∧ ∃ w', res = .error .abort w'))
  /-- There is no other warning. -/
  warned : ∀ e ∈ events, e.level = .warn →
    ∃ v source, e = .releasing v true ∧ (.run v source, .panicked) ∈ rs

variable {res : EStateM.Result Stop World Report} {events before : List Event}
  {rs : List (Call × Reply)}

/-- A cycle without a warning, in which the runtime does not panic over the script. -/
theorem ReleaseLog.of_unwarned (hcalm : Unwarned events)
    (hrun : ∀ v source, (.run v source, .panicked) ∉ rs)
    (hfailed : ∀ e w', res = .error (.failure e) w' → ∀ base v, 0 < v →
      (.init base, .answered v) ∈ rs →
      ∃ before, events = before ++ [.releasing v false, .deinitialized v]) :
    ReleaseLog res events rs where
  returned _ _ _ := hcalm
  failed e w' he := ⟨hcalm, hfailed e w' he⟩
  unwound v source hmem := absurd hmem (hrun v source)
  warned e he hwarn := absurd hwarn (hcalm e he)

/-- A cycle that the runtime's panic over the script unwinds: the warning, and what is behind it. -/
theorem ReleaseLog.of_unwinding {v : Int} {source : Bytes} {reply : Reply} {base : Bytes}
    {last : List Event} (hcalm : Unwarned before)
    (hend : last = [.deinitialized v] ∧ (∃ text w', res = .error (.panic text) w')
      ∨ last = [] ∧ ∃ w', res = .error .abort w') :
    ReleaseLog res (before ++ .releasing v true :: last)
      [(.init base, .answered v), (.run v source, .panicked), (.deinit v, reply)] where
  returned report w' hok := by
    rcases hend with ⟨_, _, _, hres⟩ | ⟨_, _, hres⟩ <;> rw [hres] at hok <;> cases hok
  failed e w' he := by
    rcases hend with ⟨_, _, _, hres⟩ | ⟨_, _, hres⟩ <;> rw [hres] at he <;> cases he
  unwound v' source' hmem := by
    obtain ⟨rfl, -⟩ : v' = v ∧ source' = source := by simpa using hmem
    refine ⟨before, hcalm, ?_⟩
    rcases hend with ⟨rfl, hres⟩ | ⟨rfl, hres⟩
    · exact .inl ⟨rfl, hres⟩
    · exact .inr ⟨rfl, hres⟩
  warned e he hwarn := by
    rcases List.mem_append.mp he with he | he
    · exact absurd hwarn (hcalm e he)
    · refine ⟨v, source, ?_, by simp⟩
      rcases List.mem_cons.mp he with rfl | he
      · rfl
      · rcases hend with ⟨rfl, _⟩ | ⟨rfl, _⟩
        · rw [List.mem_singleton.mp he] at hwarn
          cases hwarn
        · exact absurd he List.not_mem_nil

/-- What is logged until a script runs. -/
theorem unwarned_opening (h : Host) (s : Session) (script : EntryScript) :
    Unwarned ([.initializing h.baseDir, .initialized s.raw] ++ handingOver s script) := by
  simp [Unwarned, Event.level, handingOver]

/-- **A warning is a release over a panic.** In every cycle, with every number, host and world: what
is logged and called in it are events and calls as `ReleaseLog` has them. -/
theorem runOnce_releaseLog (h : Host) (n : Nat) (w : World) :
    ∃ w₁ events rs, worldAfter (h.runOnce n w) = w₁.atCycle w.cycle
      ∧ Adds h.runtime (w.atCycle (some n)) w₁ events rs
      ∧ ReleaseLog (h.runOnce n w) events rs := by
  have hrun : ∀ handle source, (Call.run handle source).kind? ≠ some .init := nofun
  have hcycle := h.runOnce_cases n w
  generalize h.runOnce n w = res at hcycle
  cases hcycle with
  | notStarted hs =>
    -- no handle was given out
    cases hs with
    | notText _ =>
      exact ⟨_, [], [], rfl, .refl _ _, .of_unwarned (by simp [Unwarned]) (by simp) (by simp)⟩
    | nul _ =>
      exact ⟨_, [], [], rfl, .refl _ _, .of_unwarned (by simp [Unwarned]) (by simp) (by simp)⟩
    | panicked hp =>
      exact ⟨_, _, _, rfl, (Adds.logged _ _ _).trans (.panicked (Option.isSome_of_eq_some hp)),
        .of_unwarned (by simp [Unwarned, Event.level]) (by simp) (by simp)⟩
    | refused hle hp =>
      refine ⟨_, _, _, rfl, .started hp,
        .of_unwarned (by simp [Unwarned, Event.level]) (by simp) ?_⟩
      intro e w' _ base v hpos hmem
      simp only [List.mem_singleton, Prod.mk.injEq, Reply.answered.injEq] at hmem
      exact absurd hpos (Int.not_lt.mpr (hmem.2 ▸ hle))
  | @refused s _ _ _ hs hr hp =>
    obtain ⟨middle, hrefused, _, hcalm⟩ := adds_of_refuses s.runtime hr
    refine ⟨_, _, _, rfl,
      adds_of_session hs ((hrefused.trans (.logged _ _ _)).trans (adds_released hp)),
      .of_unwarned (by simpa [Unwarned, Event.level, or_imp, forall_and] using hcalm) (by simp) ?_⟩
    intro e w' _ base v _ hmem
    obtain ⟨-, rfl⟩ : base = h.baseDir.bytes ∧ v = s.raw := by simpa using hmem
    exact ⟨[.initializing h.baseDir, .initialized s.raw] ++ middle, by simp⟩
  | @refusedPanic s _ _ _ _ hs hr hp =>
    obtain ⟨middle, hrefused, _, hcalm⟩ := adds_of_refuses s.runtime hr
    exact ⟨_, _, _, rfl,
      adds_of_session hs
        ((hrefused.trans (.logged _ _ _)).trans (.panicked (Option.isSome_of_eq_some hp))),
      .of_unwarned (by simpa [Unwarned, Event.level, or_imp, forall_and] using hcalm) (by simp)
        (by simp)⟩
  | @scriptPanic s _ script text hs _ hpanic hp =>
    have hall := adds_of_session hs
      ((adds_handedOver (.panicked (Option.isSome_of_eq_some hpanic))).trans
        ((Adds.logged _ _ _).trans (adds_released hp)))
    exact ⟨_, _, _, rfl, hall, .of_unwinding (unwarned_opening h s script) (.inl ⟨rfl, _, _, rfl⟩)⟩
  | @abort s _ script _ hs _ hpanic hp =>
    have hall := adds_of_session hs
      ((adds_handedOver (.panicked (Option.isSome_of_eq_some hpanic))).trans
        ((Adds.logged _ _ _).trans (.panicked hp)))
    exact ⟨_, _, _, rfl, hall, .of_unwinding (unwarned_opening h s script) (.inr ⟨rfl, _, rfl⟩)⟩
  | releasePanic hs _ hp hreturn =>
    exact ⟨_, _, _, rfl,
      adds_of_session hs
        ((adds_handedOver (.returned (hrun _ _) hreturn)).trans
          (.panicked (Option.isSome_of_eq_some hp))),
      .of_unwarned (by simp [Unwarned, Event.level, handingOver]) (by simp) (by simp)⟩
  | finished hs _ hreturn hp =>
    exact ⟨_, _, _, rfl,
      adds_of_session hs
        ((adds_handedOver (.returned (hrun _ _) hreturn)).trans
          ((adds_released hp).trans (.logged _ _ _))),
      .of_unwarned (by simp [Unwarned, Event.level, handingOver]) (by simp) (by simp)⟩

/-- A cycle that fails for want of a script. -/
theorem fails_without_script : smallHost.runOnce 1 (smallWorld none [])
    = .error (.failure (.entryScriptUnreadable (.ofString "/app/main.js")
        "No such file or directory (os error 2)"))
      { smallWorld none [] with
        supply := [8]
        calls := [.init (bytesOf "/app"), .deinit 7]
        logs := [⟨some 1, .initializing (.ofString "/app")⟩, ⟨some 1, .initialized 7⟩,
          ⟨some 1, .releasing 7 false⟩, ⟨some 1, .deinitialized 7⟩] } := by
  cbv

/-- **Not every failure after a start is warned about.** -/
theorem unwarned_release :
    ¬ ∀ (h : Host) (n : Nat) (w w' : World) (e : HostError) (v : Int),
      h.runOnce n w = .error (.failure e) w' → ⟨some n, .initialized v⟩ ∈ w'.logs →
      ∃ entry ∈ w'.logs, entry.event.level = .warn := by
  intro hclaim
  obtain ⟨entry, hentry, hwarn⟩ := hclaim _ _ _ _ _ 7 fails_without_script (by simp)
  simp only [List.mem_cons, List.not_mem_nil, or_false] at hentry
  rcases hentry with rfl | rfl | rfl | rfl <;> cases hwarn

end Host

end ScriptHost
