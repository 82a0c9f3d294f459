import ScriptHost.Proofs.Sessions

/-!
# What a client of the interface can do

The equations of a session speak of one operation on one session. A client does more:
it holds any number of sessions at a time, uses them in any order, catches a panic and
goes on, or lets sessions go while a panic unwinds. Here such a client is a state and
`perform` its step.

The history is proof-only. It records what each use came to and on whose behalf the
runtime was called, which no call tells by itself: the runtime may give two sessions the
same handle, and then their releases look alike.

`perform_cases` says once what a step can do (`Effect`). Nothing after it looks inside
`perform`.
-/

namespace ScriptHost

/-- One use of the interface. A session is named by the number of its start, from zero. -/
inductive Use where
  | start (runtime : Runtime) (base : Path)
  | run (k : Nat) (source : String)
  | observe (k : Nat)
  | close (k : Nat)
  | drop (k : Nat) (unwinding : Bool)
  | hello (runtime : Runtime)
  deriving DecidableEq, Repr

/-- What a use came to. -/
inductive Ending where
  /-- The client does not hold the session, so nothing was done. -/
  | idle
  | returned
  | started (raw : Int)
  | seen (raw : Int) (state : SessionState)
  | failed (e : HostError)
  | panicked (text : String)
  deriving DecidableEq, Repr

/-- What the runtime answered to the start that came to this. -/
def Ending.answer : Ending → Option Int
  | .started raw => some raw
  | .failed (.initializationFailure _ value) => some value
  | _ => none

/-- A call with the session on whose behalf it was made, and the answer to it if it was a start
that returned. A probe is made on behalf of none. -/
structure OwnedCall where
  owner : Option Nat
  call : Call
  answer : Option Int
  deriving DecidableEq, Repr

/-- A use in the history. -/
structure Deed where
  use : Use
  ending : Ending
  calls : List OwnedCall

structure Client where
  world : World
  /-- By the number of the start: the session, as long as the client holds it. -/
  sessions : List (Option Session)
  history : List Deed

namespace Client

/-- A client that has not done anything. -/
def fresh (w : World) : Client := ⟨w, [], []⟩

/-- The session of a start, if the client holds it. -/
def held (c : Client) (k : Nat) : Option Session := c.sessions.getD k none

/-- The calls that the runtime received from the client. -/
def trace (c : Client) : List OwnedCall := c.history.flatMap (·.calls)

/-- The calls on behalf of one session. -/
def callsOf (c : Client) (k : Nat) : List OwnedCall := c.trace.filter (·.owner = some k)

/-- The client when a use has ended in the world `w`. The calls since then are the owner's. -/
def note (c : Client) (use : Use) (ending : Ending) (owner : Option Nat)
    (sessions : List (Option Session)) (w : World) : Client :=
  { world := w
    sessions
    history := c.history ++ [⟨use, ending, (w.calls.drop c.world.calls.length).map
      fun call => ⟨owner, call, ending.answer⟩⟩] }

@[simp] theorem note_world (c : Client) (use : Use) (ending : Ending) (owner : Option Nat)
    (sessions : List (Option Session)) (w : World) :
    (c.note use ending owner sessions w).world = w := rfl

/-- The client when an operation has ended; none if the process was aborted. -/
def attempt (c : Client) (use : Use) (owner : Option Nat) (sessions : List (Option Session))
    (act : Act Unit) : Option Client :=
  match act c.world with
  | .ok () w => some (c.note use .returned owner sessions w)
  | .error (.failure e) w => some (c.note use (.failed e) owner sessions w)
  | .error (.panic text) w => some (c.note use (.panicked text) owner sessions w)
  | .error .abort _ => none

/-- What a client does with a session that it may not hold. -/
def onHeld (c : Client) (use : Use) (k : Nat) (f : Session → Option Client) : Option Client :=
  match c.held k with
  | none => some (c.note use .idle none c.sessions c.world)
  | some s => f s

/-- The client when a start has ended. -/
def begin (c : Client) (r : Runtime) (base : Path) : Option Client :=
  let owner := some c.sessions.length
  match Session.start r base c.world with
  | .ok s w => some (c.note (.start r base) (.started s.raw) owner (c.sessions ++ [some s]) w)
  | .error (.failure e) w =>
    some (c.note (.start r base) (.failed e) owner (c.sessions ++ [none]) w)
  | .error (.panic text) w =>
    some (c.note (.start r base) (.panicked text) owner (c.sessions ++ [none]) w)
  | .error .abort _ => none

/-- **One use of the interface.** `close` and `drop` take the session away from the client however
they end; a panic over a script leaves it with the client. None if the process was aborted. -/
def perform (c : Client) (use : Use) : Option Client :=
  match use with
  | .start r base => c.begin r base
  | .run k source =>
    c.onHeld use k fun s => c.attempt use (some k) c.sessions (s.run source)
  | .observe k =>
    c.onHeld use k fun s => some (c.note use (.seen s.raw s.state) none c.sessions c.world)
  | .close k =>
    c.onHeld use k fun s => c.attempt use (some k) (c.sessions.set k none) s.close
  | .drop k unwinding =>
    c.onHeld use k fun s => c.attempt use (some k) (c.sessions.set k none) (s.drop unwinding)
  | .hello r => c.attempt use none c.sessions r.hello

/-- A row of uses. -/
def performAll (c : Client) (uses : List Use) : Option Client := uses.foldlM perform c

/-! ## What a step can do -/

/-- What a use can come to: its ending, the sessions that the client has then, and the calls. -/
inductive Effect (c : Client) :
    Use → Ending → List (Option Session) → List OwnedCall → Prop where
  /-- The client does not hold the session. -/
  | idle {use : Use} : Effect c use .idle c.sessions []
  /-- A look at a session. -/
  | observed {k : Nat} {s : Session} : c.held k = some s →
      Effect c (.observe k) (.seen s.raw s.state) c.sessions []
  /-- The directory does not make a text, so the runtime is not called. -/
  | notCalled {r : Runtime} {base : Path} {e : HostError} :
      Effect c (.start r base) (.failed e) (c.sessions ++ [none]) []
  /-- The runtime panics over a start. -/
  | startPanic {r : Runtime} {base : Path} {text : String} :
      Effect c (.start r base) (.panicked text) (c.sessions ++ [none])
        [⟨some c.sessions.length, .init base.bytes, none⟩]
  /-- The runtime answers with a value that is no handle. -/
  | notStarted {r : Runtime} {base : Path} : c.world.supply.headD 0 ≤ 0 →
      Effect c (.start r base) (.failed (.initializationFailure base (c.world.supply.headD 0)))
        (c.sessions ++ [none])
        [⟨some c.sessions.length, .init base.bytes, some (c.world.supply.headD 0)⟩]
  /-- The runtime answers with a handle. -/
  | started {r : Runtime} {base : Path} : 0 < c.world.supply.headD 0 →
      Effect c (.start r base) (.started (c.world.supply.headD 0))
        (c.sessions ++ [some ⟨r, c.world.supply.headD 0, .live⟩])
        [⟨some c.sessions.length, .init base.bytes, some (c.world.supply.headD 0)⟩]
  /-- The script has a NUL byte, so the runtime is not called. -/
  | refused {k : Nat} {source : String} : 0 ∈ bytesOf source →
      Effect c (.run k source)
        (.failed (.interiorNul entryScriptText ((bytesOf source).idxOf 0))) c.sessions []
  /-- The script is handed over, and the runtime returns or panics. -/
  | ran {k : Nat} {source : String} {s : Session} {o : Ending} : c.held k = some s →
      0 ∉ bytesOf source → (∀ e, o ≠ .failed e) →
      Effect c (.run k source) o c.sessions [⟨some k, .run s.raw (bytesOf source), none⟩]
  /-- The session is released, and the runtime returns or panics. -/
  | ended {k : Nat} {s : Session} {use : Use} {o : Ending} : c.held k = some s →
      (use = .close k ∨ ∃ unwinding, use = .drop k unwinding) → (∀ e, o ≠ .failed e) →
      Effect c use o (c.sessions.set k none) [⟨some k, .deinit s.raw, none⟩]
  /-- The probe is not there, so the runtime is not called. -/
  | noProbe {r : Runtime} {e : HostError} : Effect c (.hello r) (.failed e) c.sessions []
  /-- The probe is called. -/
  | probed {r : Runtime} {o : Ending} : o.answer = none →
      Effect c (.hello r) o c.sessions [⟨none, .hello, none⟩]

/-- `c'` is the client `c` after `d`. -/
structure Performed (c : Client) (d : Deed) (c' : Client) : Prop where
  effect : c.Effect d.use d.ending c'.sessions d.calls
  history : c'.history = c.history ++ [d]
  calls : c'.world.calls = c.world.calls ++ d.calls.map (·.call)
  /-- A start that was answered used up one value. -/
  supply : c'.world.supply = c.world.supply.drop (d.calls.filterMap (·.answer)).length

section Steps

variable {c c' : Client} {use : Use} {ending : Ending} {owner : Option Nat}
  {sessions : List (Option Session)} {w : World}

/-- What is noted when a use has made no call. -/
theorem performed_note_nil (hcalls : w.calls = c.world.calls)
    (hsupply : w.supply = c.world.supply) (he : c.Effect use ending sessions []) :
    ∃ d, d.use = use ∧ c.Performed d (c.note use ending owner sessions w) := by
  refine ⟨⟨use, ending, []⟩, rfl, he, ?_, ?_, ?_⟩
  · simp [note, hcalls]
  · simpa using hcalls
  · simpa using hsupply

/-- What is noted when a use has made one call. -/
theorem performed_note_one {call : Call} (hcalls : w.calls = c.world.calls ++ [call])
    (hsupply : w.supply = c.world.supply.drop ending.answer.toList.length)
    (he : c.Effect use ending sessions [⟨owner, call, ending.answer⟩]) :
    ∃ d, d.use = use ∧ c.Performed d (c.note use ending owner sessions w) := by
  refine ⟨⟨use, ending, [⟨owner, call, ending.answer⟩]⟩, rfl, he, ?_, ?_, ?_⟩
  · simp [note, hcalls]
  · simpa using hcalls
  · show w.supply = _
    rw [hsupply]
    cases ending.answer <;> rfl

/-- The step of a start. -/
theorem begin_cases {r : Runtime} {base : Path} (h : c.begin r base = some c') :
    ∃ d, d.use = .start r base ∧ c.Performed d c' := by
  have hstarts := Session.start_cases r base c.world
  unfold begin at h
  cases hres : Session.start r base c.world with
  | ok s w =>
    rw [hres] at h hstarts
    cases h
    cases hstarts with
    | started _ _ hpos _ =>
      refine performed_note_one (by simp) ?_ (.started hpos)
      simp [Ending.answer]
  | error stop w =>
    rw [hres] at h hstarts
    cases hstarts with
    | notText _ => cases h; exact performed_note_nil rfl rfl .notCalled
    | nul _ => cases h; exact performed_note_nil rfl rfl .notCalled
    | panicked _ =>
      cases h
      refine performed_note_one (by simp) ?_ .startPanic
      simp [Ending.answer]
    | refused hle =>
      cases h
      refine performed_note_one (by simp) ?_ (.notStarted hle)
      simp [Ending.answer]

/-- The step of a script. -/
theorem attempt_run {k : Nat} {source : String} {s : Session} (hs : c.held k = some s)
    (h : c.attempt (.run k source) (some k) c.sessions (s.run source) = some c') :
    ∃ d, d.use = .run k source ∧ c.Performed d c' := by
  unfold attempt at h
  rw [Session.run_eq] at h
  by_cases hnul : 0 ∈ bytesOf source
  · rw [if_pos hnul] at h
    cases h
    exact performed_note_nil rfl rfl (.refused hnul)
  · rw [if_neg hnul] at h
    cases hp : s.runtime.panic? (.run s.raw (bytesOf source))
        (c.world.logged (.handingOver s.raw (bytesOf source).length)) with
    | none =>
      rw [hp] at h
      cases h
      refine performed_note_one (by simp) ?_ (.ran hs hnul (by simp))
      simp [Ending.answer]
    | some text =>
      rw [hp] at h
      cases h
      refine performed_note_one (by simp) ?_ (.ran hs hnul (by simp))
      simp [Ending.answer]

/-- The step of a use that ends a session: `act` is its release, in a world that may have one more
entry in its log. -/
theorem attempt_end {k : Nat} {s : Session} (hs : c.held k = some s) {act : Act Unit}
    (huse : use = .close k ∨ ∃ unwinding, use = .drop k unwinding)
    (w₀ : World) (hcalls : w₀.calls = c.world.calls) (hsupply : w₀.supply = c.world.supply)
    {stop : String → Stop} (hstop : ∀ text, stop text = .panic text ∨ stop text = .abort)
    (hact : act c.world = match s.runtime.panic? (.deinit s.raw) w₀ with
      | none => .ok () (s.released w₀)
      | some text => .error (stop text) (s.releasing w₀))
    (h : c.attempt use (some k) (c.sessions.set k none) act = some c') :
    ∃ d, d.use = use ∧ c.Performed d c' := by
  unfold attempt at h
  cases hp : s.runtime.panic? (.deinit s.raw) w₀ with
  | none =>
    rw [hp] at hact
    rw [hact] at h
    cases h
    refine performed_note_one (by simp [hcalls]) ?_ (.ended hs huse (by simp))
    simp [Ending.answer, hsupply]
  | some text =>
    rw [hp] at hact
    rw [hact] at h
    dsimp only at h
    rcases hstop text with htext | htext
    · rw [htext] at h
      cases h
      refine performed_note_one (by simp [hcalls]) ?_ (.ended hs huse (by simp))
      simp [Ending.answer, hsupply]
    · -- the panic came over a release while another one was unwinding
      rw [htext] at h
      cases h

/-- The step of a probe. -/
theorem attempt_hello {r : Runtime} (h : c.attempt (.hello r) none c.sessions r.hello = some c') :
    ∃ d, d.use = .hello r ∧ c.Performed d c' := by
  have hcall : r.call .hello c.world = .ok () (r.arrive .hello c.world) := by
    rw [r.call_eq, show r.panic? .hello c.world = none by unfold Runtime.panic?; split <;> trivial]
  unfold attempt Runtime.hello at h
  cases r with
  | recorder probe =>
    dsimp only at h
    rw [Act.bind_of_ok hcall] at h
    cases probe with
    | true =>
      cases h
      exact performed_note_one (by simp) (by simp [Ending.answer]) (.probed rfl)
    | false =>
      cases h
      exact performed_note_one (by simp) (by simp [Ending.answer]) (.probed rfl)
  | library p probe =>
    cases probe with
    | true =>
      simp only [if_true, hcall] at h
      cases h
      exact performed_note_one (by simp) (by simp [Ending.answer]) (.probed rfl)
    | false =>
      cases h
      exact performed_note_nil rfl rfl .noProbe

/-- **What a step can do**, if the sessions that the client holds are live. -/
theorem perform_cases (hlive : ∀ k s, c.held k = some s → s.state = .live)
    (h : c.perform use = some c') : ∃ d, d.use = use ∧ c.Performed d c' := by
  -- a session that is not held makes every use of it the same step
  have honHeld : ∀ {k : Nat} {f : Session → Option Client}, c.onHeld use k f = some c' →
      (∀ s, c.held k = some s → f s = some c' → ∃ d, d.use = use ∧ c.Performed d c') →
      ∃ d, d.use = use ∧ c.Performed d c' := by
    intro k f hon hf
    unfold onHeld at hon
    cases hs : c.held k with
    | none =>
      rw [hs] at hon
      cases hon
      exact performed_note_nil rfl rfl .idle
    | some s =>
      rw [hs] at hon
      exact hf s hs hon
  cases use with
  | start r base => exact begin_cases h
  | run k source => exact honHeld h fun s hs => attempt_run hs
  | observe k =>
    refine honHeld h fun s hs hnote => ?_
    cases hnote
    exact performed_note_nil rfl rfl (.observed hs)
  | close k =>
    refine honHeld h fun s hs hclose => ?_
    exact attempt_end hs (Or.inl rfl) c.world rfl rfl (fun _ => Or.inl rfl)
      (Session.close_eq (hlive k s hs) c.world) hclose
  | drop k unwinding =>
    refine honHeld h fun s hs hdrop => ?_
    refine attempt_end hs (Or.inr ⟨unwinding, rfl⟩)
      (c.world.logged (.releasing s.raw unwinding)) rfl rfl ?_
      (Session.drop_eq (hlive k s hs) unwinding c.world) hdrop
    intro text
    cases unwinding with
    | false => exact Or.inl rfl
    | true => exact Or.inr rfl
  | hello r => exact attempt_hello h

/-! ## When there is no next step -/

theorem attempt_eq_none {act : Act Unit} (h : c.attempt use owner sessions act = none) :
    ∃ w, act c.world = .error .abort w := by
  unfold attempt at h
  split at h
  next => cases h
  next => cases h
  next => cases h
  next w habort => exact ⟨w, habort⟩

/-- No start aborts. -/
theorem begin_ne_none {r : Runtime} {base : Path} : c.begin r base ≠ none := by
  intro h
  have hstarts := Session.start_cases r base c.world
  unfold begin at h
  split at h
  next => cases h
  next => cases h
  next => cases h
  next w habort =>
    rw [habort] at hstarts
    cases hstarts

/-- **A client comes to a sudden end in one way**: it drops a session while a panic unwinds, and
the runtime panics over the release. -/
theorem perform_eq_none (hlive : ∀ k s, c.held k = some s → s.state = .live)
    (h : c.perform use = none) :
    ∃ k s text, use = .drop k true ∧ c.held k = some s
      ∧ s.runtime.panic? (.deinit s.raw) (c.world.logged (.releasing s.raw true)) = some text := by
  have honHeld : ∀ {k : Nat} {f : Session → Option Client}, c.onHeld use k f = none →
      ∃ s, c.held k = some s ∧ f s = none := by
    intro k f hon
    unfold onHeld at hon
    cases hs : c.held k with
    | none => rw [hs] at hon; cases hon
    | some s => rw [hs] at hon; exact ⟨s, rfl, hon⟩
  cases use with
  | start r base => exact absurd h begin_ne_none
  | run k source =>
    obtain ⟨s, hs, hrun⟩ := honHeld h
    obtain ⟨w, habort⟩ := attempt_eq_none hrun
    rw [Session.run_eq] at habort
    split at habort
    · cases habort
    · split at habort <;> cases habort
  | observe k =>
    obtain ⟨s, hs, hnote⟩ := honHeld h
    cases hnote
  | close k =>
    obtain ⟨s, hs, hclose⟩ := honHeld h
    obtain ⟨w, habort⟩ := attempt_eq_none hclose
    rw [Session.close_eq (hlive k s hs)] at habort
    split at habort <;> cases habort
  | drop k unwinding =>
    obtain ⟨s, hs, hdrop⟩ := honHeld h
    obtain ⟨w, habort⟩ := attempt_eq_none hdrop
    rw [Session.drop_eq (hlive k s hs)] at habort
    split at habort
    next => cases habort
    next text hp =>
      cases unwinding with
      | false => cases habort
      | true => exact ⟨k, s, text, rfl, hs, hp⟩
  | hello r =>
    obtain ⟨w, habort⟩ := attempt_eq_none h
    cases r with
    | recorder probe =>
      unfold Runtime.hello at habort
      cases probe <;> cases habort
    | library p probe => cases probe <;> cases habort

end Steps

end Client

end ScriptHost
