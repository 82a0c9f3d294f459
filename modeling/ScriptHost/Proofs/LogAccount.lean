import Mathlib.Data.List.Count
import ScriptHost.Proofs.Cycle

/-!
# The log accounts for the calls

The log of a run tells which handles the runtime gave out and which it took back, and it
tells it of the calls as they came out: a start that was answered with a handle, and a
release that returned. The trace holds the calls alone, so what became of them is read
off it first (`Runtime.replies`), from the hooks that wait for them and the values that
`init` returns.

Entries and calls are made one after the other, each a small step of the world
(`Adds`), and a cycle is a row of such steps. That its log and its calls balance can then
be seen by looking at the two rows, for each of the ways in which a cycle can end, an
abort included (`runOnce_accounted`). Nothing is logged between cycles, so that a run
balances too.
-/

namespace ScriptHost

/-! ## What became of the calls -/

/-- What became of a call. -/
inductive Reply where
  | panicked
  | returned
  /-- A start returned, with this value. -/
  | answered (value : Int)
  deriving DecidableEq

def Reply.value? : Reply → Option Int
  | .answered value => some value
  | _ => none

namespace Runtime

/-- Whether a runtime panics over a call that arrives behind others. -/
def panics (r : Runtime) (hooks : List Hook) (past : List Call) (c : Call) : Bool :=
  match r, c.kind? with
  | .recorder _, some k => hooks.any fun h => h.panics && h.kind = k
      && h.nth = (past ++ [c]).countP fun c => c.kind? = some k
  | _, _ => false

/-- What a runtime replies to a call that arrives behind others, when its `init` will return the
values `supply`. -/
def reply (r : Runtime) (hooks : List Hook) (past : List Call) (supply : List Int) (c : Call) :
    Reply :=
  if r.panics hooks past c then .panicked
  else if c.kind? = some .init then .answered (supply.headD 0)
  else .returned

/-- Calls with what became of each of them. -/
def replies (r : Runtime) (hooks : List Hook) :
    List Call → List Int → List Call → List (Call × Reply)
  | _, _, [] => []
  | past, supply, c :: cs =>
    let reply := r.reply hooks past supply c
    (c, reply) :: r.replies hooks (past ++ [c]) (supply.drop reply.value?.toList.length) cs

variable {r : Runtime} {hooks : List Hook} {c : Call} {w w' : World}

/-- A reply is a panic exactly if the call panics. -/
theorem panics_eq (r : Runtime) (c : Call) (w : World) :
    r.panics w.hooks w.calls c = (r.panic? c w).isSome := by
  cases r with
  | library => rfl
  | recorder probe =>
    cases hk : c.kind? with
    | none => simp only [panics, panic?, hk, Option.isSome_none]
    | some k =>
      have hdue : (((w.recorded c).due k).any fun h => h.panics) = w.hooks.any fun h =>
          h.panics && h.kind = k
            && h.nth = (w.calls ++ [c]).countP fun c => c.kind? = some k := by
        rw [World.due, List.any_filter]
        refine congrArg _ (funext fun h => ?_)
        rw [World.count, Bool.decide_and]
        exact (Bool.and_comm _ _).trans (Bool.and_assoc _ _ _).symm
      simp only [panics, panic?, hk, hdue]
      cases w.hooks.any _ <;> rfl

theorem reply_eq (r : Runtime) (c : Call) (w : World) :
    r.reply w.hooks w.calls w.supply c = match r.panic? c w with
      | some _ => .panicked
      | none => if c.kind? = some .init then .answered (w.supply.headD 0) else .returned := by
  rw [reply, panics_eq]
  cases r.panic? c w <;> rfl

/-- A call returns or panics as its reply says. -/
theorem reply_of_call (hc : c.kind? ≠ some .init) (w : World) :
    r.reply w.hooks w.calls w.supply c = match r.call c w with
      | .ok _ _ => .returned
      | .error _ _ => .panicked := by
  rw [reply_eq, call_eq]
  cases r.panic? c w with
  | none => exact if_neg hc
  | some text => rfl

/-- A start returns the value that its reply has. -/
theorem reply_of_init (base : ForeignText) (w : World) :
    r.reply w.hooks w.calls w.supply (.init base.bytes) = match r.init base w with
      | .ok value _ => .answered value
      | .error _ _ => .panicked := by
  rw [reply_eq, Session.init_eq]
  cases r.panic? (.init base.bytes) w <;> rfl

/-- The values among replies. -/
def values (rs : List (Call × Reply)) : List Int := rs.filterMap (·.2.value?)

theorem values_cons (x : Call × Reply) (rs : List (Call × Reply)) :
    values (x :: rs) = x.2.value?.toList ++ values rs := by
  rw [values, List.filterMap_cons]
  cases x.2.value? <;> rfl

theorem replies_append (past : List Call) (supply : List Int) (cs cs' : List Call) :
    r.replies hooks past supply (cs ++ cs')
      = r.replies hooks past supply cs
        ++ r.replies hooks (past ++ cs)
          (supply.drop (values (r.replies hooks past supply cs)).length) cs' := by
  induction cs generalizing past supply with
  | nil => simp [replies, values]
  | cons c cs ih =>
    rw [List.cons_append, replies, ih, replies, List.append_assoc, List.drop_drop, values_cons,
      List.length_append]
    rfl

end Runtime

/-! ## Steps of the world -/

/-- From the world `w` to the world `w'` a runtime got calls and replied to them. -/
structure Replied (r : Runtime) (w w' : World) (rs : List (Call × Reply)) : Prop where
  calls : w'.calls = w.calls ++ rs.map Prod.fst
  hooks : w'.hooks = w.hooks
  supply : w'.supply = w.supply.drop (Runtime.values rs).length
  replies : r.replies w.hooks w.calls w.supply (rs.map Prod.fst) = rs

/-- From the world `w` to the world `w'` events were logged, and a runtime got calls and replied
to them. -/
structure Adds (r : Runtime) (w w' : World) (events : List Event)
    (rs : List (Call × Reply)) : Prop extends Replied r w w' rs where
  cycle : w'.cycle = w.cycle
  logs : w'.logs = w.logs ++ events.map fun e => ⟨w.cycle, e⟩

variable {r : Runtime} {w w₁ w₂ : World} {events events' : List Event}
  {rs rs' : List (Call × Reply)}

theorem Replied.refl (r : Runtime) (w : World) : Replied r w w [] :=
  ⟨(List.append_nil _).symm, rfl, rfl, rfl⟩

theorem Replied.trans (h : Replied r w w₁ rs) (h' : Replied r w₁ w₂ rs') :
    Replied r w w₂ (rs ++ rs') where
  calls := by rw [h'.calls, h.calls, List.map_append, List.append_assoc]
  hooks := h'.hooks.trans h.hooks
  supply := by
    rw [h'.supply, h.supply, List.drop_drop, Runtime.values, Runtime.values, Runtime.values,
      List.filterMap_append, List.length_append]
  replies := by
    have hrest := h'.replies
    rw [h.hooks, h.calls, h.supply] at hrest
    rw [List.map_append, Runtime.replies_append, h.replies, hrest]

namespace Adds

theorem refl (r : Runtime) (w : World) : Adds r w w [] [] :=
  ⟨.refl r w, rfl, (List.append_nil _).symm⟩

theorem trans (h : Adds r w w₁ events rs) (h' : Adds r w₁ w₂ events' rs') :
    Adds r w w₂ (events ++ events') (rs ++ rs') where
  toReplied := h.toReplied.trans h'.toReplied
  cycle := h'.cycle.trans h.cycle
  logs := by rw [h'.logs, h.logs, h.cycle, List.map_append, List.append_assoc]

theorem logged (r : Runtime) (w : World) (e : Event) : Adds r w (w.logged e) [e] [] :=
  ⟨⟨(List.append_nil _).symm, rfl, rfl, rfl⟩, rfl, rfl⟩

/-- A call that panics adds itself and its panic. -/
theorem panicked {c : Call} (hp : (r.panic? c w).isSome) :
    Adds r w (r.arrive c w) [] [(c, .panicked)] where
  calls := r.arrive_calls c w
  hooks := r.arrive_hooks c w
  supply := r.arrive_supply c w
  replies := by
    show [(c, r.reply w.hooks w.calls w.supply c)] = _
    rw [Runtime.reply, Runtime.panics_eq, if_pos hp]
  cycle := r.arrive_cycle c w
  logs := (r.arrive_logs c w).trans (List.append_nil _).symm

/-- A call that returns adds itself and its return. -/
theorem returned {c : Call} (hc : c.kind? ≠ some .init) (hp : r.panic? c w = none) :
    Adds r w (r.arrive c w) [] [(c, .returned)] where
  calls := r.arrive_calls c w
  hooks := r.arrive_hooks c w
  supply := r.arrive_supply c w
  replies := by
    show [(c, r.reply w.hooks w.calls w.supply c)] = _
    rw [Runtime.reply_of_call hc, Runtime.call_eq, hp]
  cycle := r.arrive_cycle c w
  logs := (r.arrive_logs c w).trans (List.append_nil _).symm

/-- A start that returns adds itself and the value that it was answered with. -/
theorem started {base : Path}
    (hp : r.panic? (.init base.bytes) (w.logged (.initializing base)) = none) :
    Adds r w (r.started base w) [.initializing base]
      [(.init base.bytes, .answered (w.supply.headD 0))] where
  calls := r.started_calls base w
  hooks := r.started_hooks base w
  supply := by rw [r.started_supply, ← List.drop_one]; rfl
  replies := by
    have hreply := r.reply_eq (.init base.bytes) (w.logged (.initializing base))
    rw [hp] at hreply
    exact congrArg (fun reply => [(Call.init base.bytes, reply)]) hreply
  cycle := r.started_cycle base w
  logs := r.started_logs base w

end Adds

/-! ## The balance -/

/-- The handle that was given out, as the log tells it. -/
def Event.initialized? : Event → Option Int
  | .initialized handle => some handle
  | _ => none

/-- The handle that was taken back, as the log tells it. -/
def Event.deinitialized? : Event → Option Int
  | .deinitialized handle => some handle
  | _ => none

/-- The handle that a runtime gave out with its reply. -/
def Reply.handle? (reply : Reply) : Option Int := reply.value?.filter fun value => 0 < value

/-- The handle that a call releases. -/
def Call.released? : Call → Option Int
  | .deinit handle => some handle
  | _ => none

/-- The handle that a runtime took back with its reply. -/
def takenBack? (x : Call × Reply) : Option Int :=
  if x.2 = .returned then x.1.released? else none

/-- The log balances with the calls: every handle that was given out is told and released, every
handle that was taken back is told, and all of it in the same order. -/
structure Balanced (events : List Event) (rs : List (Call × Reply)) : Prop where
  given : events.filterMap Event.initialized? = rs.filterMap (·.2.handle?)
  released : events.filterMap Event.initialized? = rs.filterMap (·.1.released?)
  taken : events.filterMap Event.deinitialized? = rs.filterMap takenBack?

theorem Balanced.append (h : Balanced events rs) (h' : Balanced events' rs') :
    Balanced (events ++ events') (rs ++ rs') := by
  constructor
  · rw [List.filterMap_append, List.filterMap_append, h.given, h'.given]
  · rw [List.filterMap_append, List.filterMap_append, h.released, h'.released]
  · rw [List.filterMap_append, List.filterMap_append, h.taken, h'.taken]

/-- An event that tells neither of a handle nor of the end of a cycle. -/
def Event.silent : Event → Bool
  | .initialized _ | .deinitialized _ | .cycleFinished => false
  | _ => true

theorem filterMap_of_silent (h : events.all Event.silent) :
    events.filterMap Event.initialized? = [] ∧ events.filterMap Event.deinitialized? = []
      ∧ events.count .cycleFinished = 0 := by
  have hsilent : ∀ e ∈ events, e.initialized? = none ∧ e.deinitialized? = none
      ∧ e ≠ .cycleFinished := by
    intro e he
    have he := List.all_eq_true.mp h e he
    cases e with
    | initialized | deinitialized | cycleFinished => cases he
    | _ => exact ⟨rfl, rfl, nofun⟩
  exact ⟨List.filterMap_eq_nil_iff.mpr fun e he => (hsilent e he).1,
    List.filterMap_eq_nil_iff.mpr fun e he => (hsilent e he).2.1,
    List.count_eq_zero.mpr fun hmem => (hsilent _ hmem).2.2 rfl⟩

/-! ## The steps of a cycle -/

section Steps

variable {s : Session} {script : EntryScript} {base : Path} {h : Host}

/-- A session that was started has its handle from the runtime. -/
theorem adds_of_starts (hs : Session.Starts r base w (.ok s w₁)) :
    Adds r w w₁ [.initializing base, .initialized s.raw]
      [(.init base.bytes, .answered s.raw)] := by
  cases hs with
  | started _ _ _ hp => exact (Adds.started hp).trans (.logged r _ _)

/-- What follows the start of a session is added to its handle. -/
theorem adds_of_session (hs : Session.Starts r base w (.ok s w₁))
    (hrest : Adds s.runtime w₁ w₂ events rs) :
    Adds r w w₂ ([.initializing base, .initialized s.raw] ++ events)
      ([(.init base.bytes, .answered s.raw)] ++ rs) := by
  rw [(Session.frame_of_starts hs).1] at hrest
  exact (adds_of_starts hs).trans hrest

/-- A refusal is no call, and what is logged of it is silent and no warning. -/
theorem adds_of_refuses {e : HostError} (r : Runtime) (hr : h.Refuses w e w₁) :
    ∃ events, Adds r w w₁ events [] ∧ events.all Event.silent
      ∧ ∀ e ∈ events, e.level ≠ .warn := by
  cases hr with
  | unreadable _ => exact ⟨[], Adds.refl r w, rfl, by simp⟩
  | @nul script _ _ =>
    exact ⟨[.scriptRead script.path script.size, .running script.path],
      (Adds.logged r _ _).trans (.logged r _ _), rfl, by simp [Event.level]⟩

/-- What is logged when a script is handed over. -/
def handingOver (s : Session) (script : EntryScript) : List Event :=
  [.scriptRead script.path script.size, .running script.path, .handingOver s.raw script.size]

/-- A script that was handed over is a call. -/
theorem adds_handedOver {reply : Reply}
    (hcall : Adds s.runtime ((w.scriptLogged script).logged (.handingOver s.raw script.size))
      (s.handedOver script w) [] [(.run s.raw (bytesOf script.source), reply)]) :
    Adds s.runtime w (s.handedOver script w) (handingOver s script)
      [(.run s.raw (bytesOf script.source), reply)] :=
  (((Adds.logged _ _ _).trans (.logged _ _ _)).trans (.logged _ _ _)).trans hcall

/-- A release that returns is told. -/
theorem adds_released (hp : s.runtime.panic? (.deinit s.raw) w = none) :
    Adds s.runtime w (s.released w) [.deinitialized s.raw] [(.deinit s.raw, .returned)] :=
  (Adds.returned (by exact nofun) hp).trans (.logged _ _ _)

end Steps

/-! ## A cycle balances -/

namespace Host

/-- Cycle `n` of a host went from the world `w` to the world `w'`: its log balances with its calls,
and tells the end of a cycle `ends` times. -/
def Accounted (h : Host) (n : Nat) (w w' : World) (ends : Nat) : Prop :=
  ∃ w₁ events rs, w' = w₁.atCycle w.cycle ∧ Adds h.runtime (w.atCycle (some n)) w₁ events rs
    ∧ Balanced events rs ∧ events.count .cycleFinished = ends

variable {h : Host} {n ends : Nat} {s : Session} {middle last : List Event} {reply : Reply}

/-- A cycle balances that starts a session, is silent on what it does with it, and tells of its
release if that returns. -/
theorem accounted_of_session
    (hs : Session.Starts h.runtime h.baseDir (w.atCycle (some n)) (.ok s w₁))
    (hmiddle : Adds s.runtime w₁ w₂ middle rs) (hsilent : middle.all Event.silent)
    (hrs : Balanced [] rs) {w₃ : World}
    (hlast : Adds s.runtime w₂ w₃ last [(.deinit s.raw, reply)])
    (hlaconic : last.filterMap Event.initialized? = [] ∧ reply.value? = none)
    (htold : last.filterMap Event.deinitialized? = [(.deinit s.raw, reply)].filterMap takenBack?)
    (hends : last.count .cycleFinished = ends) :
    h.Accounted n w (w₃.atCycle w.cycle) ends := by
  obtain ⟨_, _, hpos, _⟩ := Session.frame_of_starts hs
  obtain ⟨hgiven, htaken, hcount⟩ := filterMap_of_silent hsilent
  have hall := adds_of_session hs (hmiddle.trans hlast)
  have hhandle : (Reply.answered s.raw).handle? = some s.raw := by
    simp [Reply.handle?, Reply.value?, hpos]
  have hnone : reply.handle? = none := by rw [Reply.handle?, hlaconic.2]; rfl
  have hanswered : [(Call.init h.baseDir.bytes, Reply.answered s.raw)].filterMap (·.2.handle?)
      = [s.raw] := List.filterMap_cons_some hhandle
  have hreleased : [(Call.deinit s.raw, reply)].filterMap (·.2.handle?) = [] :=
    List.filterMap_cons_none hnone
  -- the runtime gives the handle out in front of all that is silent, and is asked for it behind
  refine ⟨_, _, _, rfl, hall, ⟨?_, ?_, ?_⟩, ?_⟩
  · simp only [List.filterMap_append, hgiven, hlaconic.1, ← hrs.given, hanswered, hreleased]
    rfl
  · simp only [List.filterMap_append, hgiven, hlaconic.1, ← hrs.released]
    rfl
  · simp only [List.filterMap_append, htaken, htold, ← hrs.taken]
    rfl
  · rw [List.count_append, List.count_append, hcount, hends, Nat.zero_add]
    exact Nat.zero_add ends

/-- **A cycle balances,** however it ends, and tells its end if it comes to it. -/
theorem runOnce_accounted (h : Host) (n : Nat) (w : World) :
    match h.runOnce n w with
    | .ok _ w' => h.Accounted n w w' 1
    | .error _ w' => h.Accounted n w w' 0 := by
  have hrun : ∀ handle source, (Call.run handle source).kind? ≠ some .init := nofun
  have hcycle := h.runOnce_cases n w
  generalize h.runOnce n w = res at hcycle
  cases hcycle with
  | notStarted hs =>
    -- no handle was given out, so there is nothing to tell
    cases hs with
    | notText _ => exact ⟨_, [], [], rfl, Adds.refl _ _, ⟨rfl, rfl, rfl⟩, rfl⟩
    | nul _ => exact ⟨_, [], [], rfl, Adds.refl _ _, ⟨rfl, rfl, rfl⟩, rfl⟩
    | panicked hp =>
      exact ⟨_, _, _, rfl, (Adds.logged _ _ _).trans (.panicked (Option.isSome_of_eq_some hp)),
        ⟨rfl, rfl, rfl⟩, rfl⟩
    | refused hle hp =>
      have hnone : [(Call.init h.baseDir.bytes, Reply.answered
          ((w.atCycle (some n)).supply.headD 0))].filterMap (·.2.handle?) = [] :=
        List.filterMap_cons_none (by simpa [Reply.handle?, Reply.value?] using hle)
      exact ⟨_, _, _, rfl, .started hp, ⟨hnone.symm, rfl, rfl⟩, rfl⟩
  | @refused s w₁ w₂ e hs hr hp =>
    obtain ⟨events, hrefused, hsilent, _⟩ := adds_of_refuses s.runtime hr
    exact accounted_of_session hs (hrefused.trans (.logged _ _ _)) (by simp [hsilent, Event.silent])
      ⟨rfl, rfl, rfl⟩ (adds_released hp) ⟨rfl, rfl⟩ rfl rfl
  | @refusedPanic s w₁ w₂ e text hs hr hp =>
    obtain ⟨events, hrefused, hsilent, _⟩ := adds_of_refuses s.runtime hr
    exact accounted_of_session hs (hrefused.trans (.logged _ _ _)) (by simp [hsilent, Event.silent])
      ⟨rfl, rfl, rfl⟩ (.panicked (Option.isSome_of_eq_some hp)) ⟨rfl, rfl⟩ rfl rfl
  | @scriptPanic s w₁ script text hs _ hpanic hp =>
    exact accounted_of_session hs
      ((adds_handedOver (.panicked (Option.isSome_of_eq_some hpanic))).trans (.logged _ _ _))
      rfl ⟨rfl, rfl, rfl⟩ (adds_released hp) ⟨rfl, rfl⟩ rfl rfl
  | abort hs _ hpanic hp =>
    exact accounted_of_session hs
      ((adds_handedOver (.panicked (Option.isSome_of_eq_some hpanic))).trans (.logged _ _ _))
      rfl ⟨rfl, rfl, rfl⟩ (.panicked hp) ⟨rfl, rfl⟩ rfl rfl
  | releasePanic hs _ hp hreturn =>
    exact accounted_of_session hs (adds_handedOver (.returned (hrun _ _) hreturn)) rfl
      ⟨rfl, rfl, rfl⟩ (.panicked (Option.isSome_of_eq_some hp)) ⟨rfl, rfl⟩ rfl rfl
  | finished hs _ hreturn hp =>
    exact accounted_of_session hs (adds_handedOver (.returned (hrun _ _) hreturn)) rfl
      ⟨rfl, rfl, rfl⟩ ((adds_released hp).trans (.logged _ _ _)) ⟨rfl, rfl⟩ rfl rfl

end Host

/-! ## A run balances -/

/-- The world that an operation leaves, however it ends. -/
def worldAfter {α : Type} : EStateM.Result Stop World α → World
  | .ok _ w => w
  | .error _ w => w

/-- A cycle of a run with all that was logged in it. -/
structure CycleLog where
  number : Nat
  /-- The cycle came to its end. -/
  completed : Bool
  entries : List LogEntry

namespace CycleLog

/-- A cycle was entered in the log with its number, and its end once, if it came to it. -/
structure Sound (c : CycleLog) : Prop where
  numbered : ∀ e ∈ c.entries, e.cycle = some c.number
  ended : (c.entries.map (·.event)).count .cycleFinished = if c.completed then 1 else 0

/-- The log of a row of cycles. -/
def entriesOf (cycles : List CycleLog) : List LogEntry := cycles.flatMap (·.entries)

/-- The events of a row of cycles. -/
def eventsOf (cycles : List CycleLog) : List Event := (entriesOf cycles).map (·.event)

end CycleLog

open CycleLog

/-- From the world `w` to the world `w'` a runtime was driven through cycles: all that was logged
was logged in one of them, and it balances with the calls. -/
structure Tallies (r : Runtime) (w w' : World) (cycles : List CycleLog)
    (rs : List (Call × Reply)) : Prop extends Replied r w w' rs where
  logs : w'.logs = w.logs ++ entriesOf cycles
  sound : ∀ c ∈ cycles, c.Sound
  balanced : Balanced (eventsOf cycles) rs

theorem Tallies.refl (r : Runtime) (w : World) : Tallies r w w [] [] :=
  ⟨.refl r w, (List.append_nil _).symm, nofun, ⟨rfl, rfl, rfl⟩⟩

theorem Tallies.trans {cycles cycles' : List CycleLog} (h : Tallies r w w₁ cycles rs)
    (h' : Tallies r w₁ w₂ cycles' rs') : Tallies r w w₂ (cycles ++ cycles') (rs ++ rs') where
  toReplied := h.toReplied.trans h'.toReplied
  logs := by rw [h'.logs, h.logs, entriesOf, entriesOf, entriesOf, List.flatMap_append,
    List.append_assoc]
  sound c hc := (List.mem_append.mp hc).elim (h.sound c) (h'.sound c)
  balanced := by
    rw [eventsOf, entriesOf, List.flatMap_append, List.map_append]
    exact h.balanced.append h'.balanced

namespace Host

variable {h : Host} {n : Nat}

/-- A cycle by itself. -/
theorem Accounted.tallies {w' : World} (completed : Bool)
    (ha : h.Accounted n w w' (if completed then 1 else 0)) :
    ∃ rs, Tallies h.runtime w w' [⟨n, completed, w'.logs.drop w.logs.length⟩] rs := by
  obtain ⟨w₁, events, rs, rfl, hadds, hbalanced, hends⟩ := ha
  have hlogs : (w₁.atCycle w.cycle).logs = w.logs ++ events.map fun e => ⟨some n, e⟩ := hadds.logs
  have hevents : (events.map fun e => (⟨some n, e⟩ : LogEntry)).map (·.event) = events := by
    rw [List.map_map]
    exact List.map_id events
  rw [hlogs, List.drop_left]
  refine ⟨rs, ⟨hadds.calls, hadds.hooks, hadds.supply, hadds.replies⟩, ?_, ?_, ?_⟩
  · rw [hlogs, entriesOf, List.flatMap_singleton]
  · intro c hc
    rw [List.mem_singleton.mp hc]
    refine ⟨fun e he => ?_, ?_⟩
    · obtain ⟨_, _, rfl⟩ := List.mem_map.mp he
      rfl
    · rw [hevents, hends]
  · rw [eventsOf, entriesOf, List.flatMap_singleton, hevents]
    exact hbalanced

/-- The cycles that a run goes through, with the log of each. -/
def cycleLogs (h : Host) (first : Nat) : Nat → World → List CycleLog
  | 0, _ => []
  | count + 1, w =>
    match h.runOnce first w with
    | .ok _ w' => ⟨first, true, w'.logs.drop w.logs.length⟩ :: h.cycleLogs (first + 1) count w'
    | .error _ w' => [⟨first, false, w'.logs.drop w.logs.length⟩]

/-- **A run balances,** by induction on the cycles that are left. -/
theorem runFrom_tallies (h : Host) (first count : Nat) (w : World) :
    ∃ rs, Tallies h.runtime w (worldAfter (h.runFrom first count w)) (h.cycleLogs first count w)
      rs := by
  induction count generalizing first w with
  | zero => exact ⟨[], .refl _ w⟩
  | succ count ih =>
    have hone := h.runOnce_accounted first w
    rw [runFrom, cycleLogs]
    cases hcycle : h.runOnce first w with
    | error stop w₁ =>
      rw [hcycle] at hone
      rw [Act.bind_of_error hcycle]
      exact Accounted.tallies false hone
    | ok report w₁ =>
      rw [hcycle] at hone
      obtain ⟨rs, hfirst⟩ := Accounted.tallies true hone
      obtain ⟨rs', hrest⟩ := ih (first + 1) w₁
      rw [Act.bind_of_ok hcycle]
      refine ⟨rs ++ rs', hfirst.trans ?_⟩
      -- the reports of the cycles make no difference to the world
      cases hmany : h.runFrom (first + 1) count w₁ with
      | error stop w₂ => rw [hmany] at hrest; rw [Act.bind_of_error hmany]; exact hrest
      | ok reports w₂ => rw [hmany] at hrest; rw [Act.bind_of_ok hmany]; exact hrest

/-- The cycles of a run are numbered one after the other. -/
theorem number_cycleLogs (h : Host) (first count : Nat) (w : World) :
    ∃ m ≤ count, (h.cycleLogs first count w).map (·.number) = List.range' first m := by
  induction count generalizing first w with
  | zero => exact ⟨0, Nat.le_refl 0, rfl⟩
  | succ count ih =>
    rw [cycleLogs]
    cases h.runOnce first w with
    | error stop w₁ => exact ⟨1, Nat.succ_le_succ (Nat.zero_le _), rfl⟩
    | ok report w₁ =>
      obtain ⟨m, hm, hnumbers⟩ := ih (first + 1) w₁
      refine ⟨m + 1, Nat.succ_le_succ hm, ?_⟩
      rw [List.range'_succ, ← hnumbers]
      rfl

/-- A cycle has come to its end in a run exactly if the run would return with this cycle as its
last. -/
theorem completed_cycleLogs (h : Host) (first count : Nat) (w : World) (i : Nat) :
    (∃ c ∈ h.cycleLogs first count w, c.number = first + i ∧ c.completed)
      ↔ i < count ∧ ∃ reports w', h.runFrom first (i + 1) w = .ok reports w' := by
  induction count generalizing first w i with
  | zero => simp [cycleLogs]
  | succ count ih =>
    rw [cycleLogs, runFrom]
    cases hcycle : h.runOnce first w with
    | error stop w₁ =>
      rw [Act.bind_of_error hcycle]
      simp
    | ok report w₁ =>
      rw [Act.bind_of_ok hcycle]
      cases i with
      | zero => exact ⟨fun _ => ⟨Nat.succ_pos count, _, _, rfl⟩,
          fun _ => ⟨_, List.mem_cons_self, rfl, rfl⟩⟩
      | succ i =>
        have hlater : (∃ reports w', (h.runFrom (first + 1) (i + 1) >>= fun reports =>
              pure (report :: reports)) w₁ = .ok reports w')
            ↔ ∃ reports w', h.runFrom (first + 1) (i + 1) w₁ = .ok reports w' := by
          cases hmany : h.runFrom (first + 1) (i + 1) w₁ with
          | error stop w₂ => rw [Act.bind_of_error hmany]
          | ok reports w₂ =>
            rw [Act.bind_of_ok hmany]
            exact ⟨fun _ => ⟨_, _, rfl⟩, fun _ => ⟨_, _, rfl⟩⟩
        have hrest := ih (first + 1) w₁ i
        rw [show first + 1 + i = first + (i + 1) by omega] at hrest
        rw [hlater, Nat.add_lt_add_iff_right, ← hrest]
        simp

end Host

/-! ## The law of the log -/

section Counts

variable {v : Int}

/-- What gives a value is counted as the value is among all that is given. -/
theorem countP_eq_count_filterMap {α β : Type} [DecidableEq β] {give : α → Option β}
    {p : α → Bool} {v : β} (h : ∀ x, p x ↔ give x = some v) (xs : List α) :
    xs.countP p = (xs.filterMap give).count v := by
  rw [List.count_filterMap]
  exact List.countP_congr fun x _ => (h x).trans beq_iff_eq.symm

theorem count_initialized (events : List Event) (v : Int) :
    events.count (.initialized v) = (events.filterMap Event.initialized?).count v :=
  countP_eq_count_filterMap (fun e => by cases e <;> simp [Event.initialized?]) events

theorem count_deinitialized (events : List Event) (v : Int) :
    events.count (.deinitialized v) = (events.filterMap Event.deinitialized?).count v :=
  countP_eq_count_filterMap (fun e => by cases e <;> simp [Event.deinitialized?]) events

theorem countP_answered (rs : List (Call × Reply)) (v : Int) :
    rs.countP (fun x => x.2 = .answered v ∧ 0 < v) = (rs.filterMap (·.2.handle?)).count v := by
  refine countP_eq_count_filterMap (fun x => ?_) rs
  cases x.2 <;> simp [Reply.handle?, Reply.value?, Option.filter_eq_some_iff]

theorem count_deinit (rs : List (Call × Reply)) (v : Int) :
    (rs.map Prod.fst).count (.deinit v) = (rs.filterMap (·.1.released?)).count v := by
  rw [List.count, List.countP_map]
  refine countP_eq_count_filterMap (fun x => ?_) rs
  obtain ⟨c, _⟩ := x
  cases c <;> simp [Call.released?]

theorem count_takenBack (rs : List (Call × Reply)) (v : Int) :
    rs.count (.deinit v, .returned) = (rs.filterMap takenBack?).count v := by
  refine countP_eq_count_filterMap (fun x => ?_) rs
  obtain ⟨c, reply⟩ := x
  cases c <;> cases reply <;> simp [takenBack?, Call.released?]

end Counts

/-! The ends of cycles. -/

namespace CycleLog

variable {c : CycleLog} {cycles : List CycleLog} {k : Nat}

/-- A sound cycle is told to be at its end once, under its number, if it came to it. -/
theorem Sound.count_finished (hc : c.Sound) :
    c.entries.count ⟨some c.number, .cycleFinished⟩ = if c.completed then 1 else 0 := by
  rw [← hc.ended, List.count, List.count, List.countP_map]
  refine List.countP_congr fun e he => ?_
  have hnumber := hc.numbered e he
  obtain ⟨cycle, event⟩ := e
  cases hnumber
  simp

theorem Sound.mem_finished (hc : c.Sound) (h : ⟨some k, .cycleFinished⟩ ∈ c.entries) :
    c.number = k ∧ c.completed := by
  have hnumber : c.number = k := (Option.some.inj (hc.numbered _ h)).symm
  refine ⟨hnumber, ?_⟩
  have hpos := List.count_pos_iff.mpr h
  rw [← hnumber, hc.count_finished] at hpos
  cases hcompleted : c.completed with
  | true => rfl
  | false => rw [hcompleted] at hpos; cases hpos

/-- Only a completed cycle is told to be at its end. -/
theorem count_unfinished (hsound : ∀ c ∈ cycles, c.Sound)
    (h : ¬ ∃ c ∈ cycles, c.number = k ∧ c.completed) :
    (entriesOf cycles).count ⟨some k, .cycleFinished⟩ = 0 := by
  refine List.count_eq_zero.mpr fun hmem => h ?_
  obtain ⟨c, hc, he⟩ := List.mem_flatMap.mp hmem
  exact ⟨c, hc, (hsound c hc).mem_finished he⟩

/-- A completed cycle is told to be at its end once. -/
theorem count_finished (hsound : ∀ c ∈ cycles, c.Sound) (hnodup : (cycles.map (·.number)).Nodup)
    (hc : c ∈ cycles) (hcompleted : c.completed) :
    (entriesOf cycles).count ⟨some c.number, .cycleFinished⟩ = 1 := by
  obtain ⟨pre, post, rfl⟩ := List.append_of_mem hc
  rw [List.map_append, List.map_cons, List.nodup_append, List.nodup_cons] at hnodup
  obtain ⟨_, ⟨hpost, _⟩, hpre⟩ := hnodup
  have hpre : (entriesOf pre).count ⟨some c.number, .cycleFinished⟩ = 0 :=
    count_unfinished (fun d hd => hsound d (List.mem_append_left _ hd))
      fun ⟨d, hd, hnumber, _⟩ => hpre _ (List.mem_map_of_mem hd) _ List.mem_cons_self hnumber
  have hpost : (entriesOf post).count ⟨some c.number, .cycleFinished⟩ = 0 :=
    count_unfinished (fun d hd => hsound d (List.mem_append_right _ (List.mem_cons_of_mem _ hd)))
      fun ⟨d, hd, hnumber, _⟩ => hpost (List.mem_map.mpr ⟨d, hd, hnumber⟩)
  rw [entriesOf] at hpre hpost
  rw [entriesOf, List.flatMap_append, List.flatMap_cons, List.count_append, List.count_append,
    hpre, hpost, (hsound c hc).count_finished, hcompleted]
  rfl

end CycleLog

namespace Host

/-- Cycle `k` of a run of `count` cycles comes to its end. -/
def Completes (h : Host) (count : Nat) (w : World) (k : Nat) : Prop :=
  1 ≤ k ∧ k ≤ count ∧ ∃ reports w', h.run k w = .ok reports w'

/-- **The law of the log** of a run that goes from the world `w` to the world `w'`. -/
structure LogLaw (h : Host) (count : Nat) (w w' : World) (calls : List Call)
    (replies : List (Call × Reply)) (cycles : List CycleLog) : Prop where
  trace : w'.calls = w.calls ++ calls
  /-- All that is logged is logged in a cycle, with the number of that cycle. -/
  log : w'.logs = w.logs ++ entriesOf cycles
  numbered : ∀ c ∈ cycles, ∀ e ∈ c.entries, e.cycle = some c.number
  numbers : ∃ m ≤ count, cycles.map (·.number) = List.range' 1 m
  /-- A handle is told to be initialized as often as it was given out. -/
  given : ∀ v, (eventsOf cycles).count (.initialized v)
    = replies.countP fun x => x.2 = .answered v ∧ 0 < v
  /-- A handle is told to be initialized as often as it is released. -/
  released : ∀ v, (eventsOf cycles).count (.initialized v) = calls.count (.deinit v)
  /-- A handle is told to be deinitialized as often as a release of it returned. -/
  taken : ∀ v, (eventsOf cycles).count (.deinitialized v) = replies.count (.deinit v, .returned)
  order : (eventsOf cycles).filterMap Event.initialized? = replies.filterMap (·.2.handle?)
    ∧ (eventsOf cycles).filterMap Event.initialized? = calls.filterMap Call.released?
  finished : ∀ k, h.Completes count w k → (entriesOf cycles).count ⟨some k, .cycleFinished⟩ = 1
  unfinished : ∀ k, ¬ h.Completes count w k →
    (entriesOf cycles).count ⟨some k, .cycleFinished⟩ = 0

/-- A cycle is completed in the log of a run exactly if it comes to its end. -/
theorem completes_iff (h : Host) (count : Nat) (w : World) (k : Nat) :
    (∃ c ∈ h.cycleLogs 1 count w, c.number = k ∧ c.completed) ↔ h.Completes count w k := by
  cases k with
  | zero =>
    refine ⟨fun ⟨c, hc, hnumber, _⟩ => ?_, fun ⟨hpos, _⟩ => absurd hpos (by decide)⟩
    obtain ⟨m, _, hnumbers⟩ := h.number_cycleLogs 1 count w
    have hmem : c.number ∈ List.range' 1 m := hnumbers ▸ List.mem_map_of_mem hc
    rw [List.mem_range'_1] at hmem
    omega
  | succ i =>
    have hiff := h.completed_cycleLogs 1 count w i
    rw [Nat.add_comm 1 i] at hiff
    rw [hiff, Completes, run]
    exact ⟨fun ⟨hlt, hreturns⟩ => ⟨Nat.succ_pos i, hlt, hreturns⟩,
      fun ⟨_, hlt, hreturns⟩ => ⟨hlt, hreturns⟩⟩

/-- **The log of a run accounts for its calls,** however the run ends and whatever the world does
to it. -/
theorem run_logLaw (h : Host) (count : Nat) (w : World) :
    ∃ calls, h.LogLaw count w (worldAfter (h.run count w)) calls
      (h.runtime.replies w.hooks w.calls w.supply calls) (h.cycleLogs 1 count w) := by
  obtain ⟨rs, htallies⟩ := h.runFrom_tallies 1 count w
  obtain ⟨m, hm, hnumbers⟩ := h.number_cycleLogs 1 count w
  have hnodup : ((h.cycleLogs 1 count w).map (·.number)).Nodup :=
    hnumbers ▸ List.nodup_range'
  refine ⟨rs.map Prod.fst, ?_⟩
  rw [htallies.replies]
  exact
    { trace := htallies.calls
      log := htallies.logs
      numbered := fun c hc => (htallies.sound c hc).numbered
      numbers := ⟨m, hm, hnumbers⟩
      given := fun v => by
        rw [count_initialized, countP_answered, htallies.balanced.given]
      released := fun v => by
        rw [count_initialized, count_deinit, htallies.balanced.released]
      taken := fun v => by
        rw [count_deinitialized, count_takenBack, htallies.balanced.taken]
      order := ⟨htallies.balanced.given, by
        rw [List.filterMap_map]
        exact htallies.balanced.released⟩
      finished := fun k hk => by
        obtain ⟨c, hc, rfl, hcompleted⟩ := (h.completes_iff count w k).mpr hk
        exact count_finished htallies.sound hnodup hc hcompleted
      unfinished := fun k hk =>
        count_unfinished htallies.sound (mt (h.completes_iff count w k).mp hk) }

end Host

end ScriptHost
