import ScriptHost.Proofs.Effects
import ScriptHost.Proofs.Utf8

/-!
# How the operations of a session end

One statement for each operation, with everything that it can do: how it ends, and
the world that it leaves. A start has five ends, so it gets a relation of its own
(`Starts`); the others are equations that branch on whether the runtime panics.

The release is where a double release would show. `release` marks the session
before the runtime is called, and `close` and `drop` act on the marked session
afterwards; `close_eq` and `drop_eq` say that this comes to a single call, whether
the runtime returns or panics.
-/

namespace ScriptHost

/-! ## Texts that cross to the runtime -/

namespace ForeignText

theorem ofBytes_of_nul {what : String} {bytes : Bytes} (h : 0 ∈ bytes) :
    ofBytes what bytes = .error (.interiorNul what (bytes.idxOf 0)) := by
  rw [ofBytes, dif_pos h]

theorem ofBytes_of_notMem {what : String} {bytes : Bytes} (h : 0 ∉ bytes) :
    ofBytes what bytes = .ok ⟨bytes, h⟩ := by
  rw [ofBytes, dif_neg h]

theorem ofPath_of_text {what : String} {p : Path} {s : String} (h : p.text? = some s) :
    ofPath what p = ofBytes what p.bytes := by
  -- a path that is text is the text of its own bytes
  have hs : bytesOf s = p.bytes := Utf8.text?_eq_some_iff.mp h
  rw [ofPath, h, ← hs]
  rfl

/-- **A text is read back from its buffer as it was put in.** -/
theorem readBuffer_buffer (t : ForeignText) : readBuffer t.buffer = t.bytes := by
  have hall : ∀ b ∈ t.bytes, decide (b ≠ 0) = true := by
    intro b hb
    rw [decide_eq_true_eq]
    rintro rfl
    exact t.nul_notMem hb
  rw [readBuffer, buffer, List.takeWhile_append_of_pos hall]
  simp

end ForeignText

/-- Every runtime gets to see the text itself. -/
theorem Runtime.received_eq (r : Runtime) (t : ForeignText) : r.received t = t.bytes := by
  cases r with
  | recorder probe => rfl
  | library p probe => exact t.readBuffer_buffer

/-! ## The start -/

/-- The world when a runtime has answered its start. -/
def Runtime.started (r : Runtime) (base : Path) (w : World) : World :=
  { r.arrive (.init base.bytes) (w.logged (.initializing base)) with supply := w.supply.tail }

section Started

variable (r : Runtime) (base : Path) (w : World)

@[simp] theorem Runtime.started_calls :
    (r.started base w).calls = w.calls ++ [.init base.bytes] := by
  simp only [started, arrive_calls, World.logged_calls]

@[simp] theorem Runtime.started_supply : (r.started base w).supply = w.supply.tail := rfl

@[simp] theorem Runtime.started_hooks : (r.started base w).hooks = w.hooks := by
  simp only [started, arrive_hooks, World.logged_hooks]

@[simp] theorem Runtime.started_cycle : (r.started base w).cycle = w.cycle := by
  simp only [started, arrive_cycle, World.logged_cycle]

@[simp] theorem Runtime.started_logs :
    (r.started base w).logs = w.logs ++ [⟨w.cycle, .initializing base⟩] := by
  simp only [started, arrive_logs, World.logged_logs]

end Started

namespace Session

/-- The ends of a start of the runtime `r` for the directory `base` in the world `w`. -/
inductive Starts (r : Runtime) (base : Path) (w : World) :
    EStateM.Result Stop World Session → Prop where
  /-- The directory is not text. -/
  | notText : base.text? = none → Starts r base w (.error (.failure (.nonUtf8Path base)) w)
  /-- The directory has a NUL byte. -/
  | nul : 0 ∈ base.bytes →
      Starts r base w
        (.error (.failure (.interiorNul baseDirectoryText (base.bytes.idxOf 0))) w)
  /-- The runtime panics. -/
  | panicked {text : String} :
      r.panic? (.init base.bytes) (w.logged (.initializing base)) = some text →
      Starts r base w
        (.error (.panic text) (r.arrive (.init base.bytes) (w.logged (.initializing base))))
  /-- The runtime answers with a value that is no handle. -/
  | refused : w.supply.headD 0 ≤ 0 →
      r.panic? (.init base.bytes) (w.logged (.initializing base)) = none →
      Starts r base w
        (.error (.failure (.initializationFailure base (w.supply.headD 0))) (r.started base w))
  /-- The runtime answers with a handle. -/
  | started : base.text?.isSome → 0 ∉ base.bytes → 0 < w.supply.headD 0 →
      r.panic? (.init base.bytes) (w.logged (.initializing base)) = none →
      Starts r base w
        (.ok ⟨r, w.supply.headD 0, .live⟩
          ((r.started base w).logged (.initialized (w.supply.headD 0))))

/-- What the runtime answers to its start. -/
theorem init_eq (r : Runtime) (base : ForeignText) (w : World) :
    r.init base w =
      match r.panic? (.init base.bytes) w with
      | none =>
        .ok (w.supply.headD 0)
          { r.arrive (.init base.bytes) w with supply := w.supply.tail }
      | some text => .error (.panic text) (r.arrive (.init base.bytes) w) := by
  have hcall := r.call_eq (.init base.bytes) w
  unfold Runtime.init
  rw [r.received_eq]
  cases hp : r.panic? (.init base.bytes) w with
  | some text =>
    rw [hp] at hcall
    rw [Act.bind_of_error hcall]
  | none =>
    rw [hp] at hcall
    rw [Act.bind_of_ok hcall, Act.nextHandle_eq, Runtime.arrive_supply]

/-- **A start ends in one of the five ways.** -/
theorem start_cases (r : Runtime) (base : Path) (w : World) :
    Starts r base w (start r base w) := by
  unfold start
  cases ht : base.text? with
  | none =>
    have hfail : (Act.ofExcept (ForeignText.ofPath baseDirectoryText base) : Act ForeignText) w
        = .error (.failure (.nonUtf8Path base)) w := by
      rw [ForeignText.ofPath, ht]
      rfl
    rw [Act.bind_of_error hfail]
    exact .notText ht
  | some s =>
    rw [ForeignText.ofPath_of_text ht]
    by_cases hnul : 0 ∈ base.bytes
    · rw [ForeignText.ofBytes_of_nul hnul]
      exact .nul hnul
    · rw [ForeignText.ofBytes_of_notMem hnul]
      -- the text is there: log the call and make it
      show Starts r base w ((r.init ⟨base.bytes, hnul⟩ >>= _) (w.logged (.initializing base)))
      have hinit := init_eq r ⟨base.bytes, hnul⟩ (w.logged (.initializing base))
      cases hp : r.panic? (.init base.bytes) (w.logged (.initializing base)) with
      | some text =>
        rw [hp] at hinit
        rw [Act.bind_of_error hinit]
        exact .panicked hp
      | none =>
        rw [hp] at hinit
        rw [Act.bind_of_ok hinit]
        -- the answer is taken from the supply, and tells whether there is a session
        by_cases hpos : 0 < w.supply.headD 0
        · rw [World.logged_supply, if_pos (by rw [isValidHandle, decide_eq_true_eq]; exact hpos)]
          exact .started (by rw [ht]; rfl) hnul hpos hp
        · rw [World.logged_supply, if_neg (by rw [isValidHandle, decide_eq_true_eq]; exact hpos)]
          exact .refused (Int.not_lt.mp hpos) hp

section Starts

variable {r : Runtime} {base : Path} {w w₁ w₂ : World} {s s' : Session} {stop : Stop}

/-- There is one way to start. -/
theorem starts_unique (h : Starts r base w (.ok s w₁)) (h' : Starts r base w (.ok s' w₂)) :
    s' = s ∧ w₂ = w₁ := by
  cases h
  cases h'
  exact ⟨rfl, rfl⟩

/-- What starts does not fail to start. -/
theorem not_starts_error (h : Starts r base w (.ok s w₁)) :
    ¬ Starts r base w (.error stop w₂) := by
  intro h'
  cases h with
  | started htext hnul hpos hp =>
    cases h' with
    | notText hnone => rw [hnone] at htext; cases htext
    | nul hmem => exact hnul hmem
    | panicked hpanic => rw [hp] at hpanic; cases hpanic
    | refused hle => exact absurd hpos (Int.not_lt.mpr hle)

/-- A session that was started is live, and starting it leaves the hooks as they are. -/
theorem frame_of_starts (h : Starts r base w (.ok s w₁)) :
    s.runtime = r ∧ s.state = .live ∧ 0 < s.raw ∧ w.supply = s.raw :: w₁.supply
      ∧ w₁.calls = w.calls ++ [.init base.bytes] ∧ w₁.hooks = w.hooks := by
  cases h with
  | started _ _ hpos _ =>
    refine ⟨rfl, rfl, hpos, ?_, by simp, by simp⟩
    cases hsup : w.supply with
    | nil => rw [hsup] at hpos; exact absurd hpos (by decide)
    | cons v rest => simp [hsup]

end Starts

/-! ## The script -/

/-- **A script** is refused before anything happens if it has a NUL byte, and else handed over
once. -/
theorem run_eq (s : Session) (source : String) (w : World) :
    s.run source w =
      if 0 ∈ bytesOf source then
        .error (.failure (.interiorNul entryScriptText ((bytesOf source).idxOf 0))) w
      else
        match s.runtime.panic? (.run s.raw (bytesOf source))
            (w.logged (.handingOver s.raw (bytesOf source).length)) with
        | none =>
          .ok () (s.runtime.arrive (.run s.raw (bytesOf source))
            (w.logged (.handingOver s.raw (bytesOf source).length)))
        | some text =>
          .error (.panic text) (s.runtime.arrive (.run s.raw (bytesOf source))
            (w.logged (.handingOver s.raw (bytesOf source).length))) := by
  unfold run ForeignText.ofText
  split
  next h =>
    rw [ForeignText.ofBytes_of_nul h]
    rfl
  next h =>
    rw [ForeignText.ofBytes_of_notMem h]
    show s.runtime.run s.raw _ (w.logged (.handingOver s.raw (bytesOf source).length)) = _
    rw [Runtime.run, Runtime.received_eq]
    exact Runtime.call_eq s.runtime _ _

/-! ## The release -/

/-- The world when a session has asked its runtime for the release. -/
def releasing (s : Session) (w : World) : World := s.runtime.arrive (.deinit s.raw) w

/-- The world when a session was released. -/
def released (s : Session) (w : World) : World := (s.releasing w).logged (.deinitialized s.raw)

section Frame

variable (s : Session) (w : World)

@[simp] theorem releasing_calls : (s.releasing w).calls = w.calls ++ [.deinit s.raw] :=
  s.runtime.arrive_calls _ w
@[simp] theorem releasing_supply : (s.releasing w).supply = w.supply :=
  s.runtime.arrive_supply _ w
@[simp] theorem releasing_hooks : (s.releasing w).hooks = w.hooks := s.runtime.arrive_hooks _ w
@[simp] theorem releasing_logs : (s.releasing w).logs = w.logs := s.runtime.arrive_logs _ w
@[simp] theorem releasing_cycle : (s.releasing w).cycle = w.cycle := s.runtime.arrive_cycle _ w

@[simp] theorem released_calls : (s.released w).calls = w.calls ++ [.deinit s.raw] :=
  s.releasing_calls w
@[simp] theorem released_supply : (s.released w).supply = w.supply := s.releasing_supply w
@[simp] theorem released_hooks : (s.released w).hooks = w.hooks := s.releasing_hooks w
@[simp] theorem released_cycle : (s.released w).cycle = w.cycle := s.releasing_cycle w

end Frame

/-- Nothing is left to release of a session that was released. -/
theorem drop_of_deinitialized {s : Session} (h : s.state = .deinitialized) (unwinding : Bool)
    (w : World) : s.drop unwinding w = .ok () w := by
  unfold drop release
  rw [h]
  rfl

/-- The release of a live session is one call. -/
theorem release_eq {s : Session} (h : s.state = .live) (w : World) :
    s.release.2 w =
      match s.runtime.panic? (.deinit s.raw) w with
      | none => .ok () (s.released w)
      | some text => .error (.panic text) (s.releasing w) := by
  have hcall := s.runtime.call_eq (.deinit s.raw) w
  unfold release
  rw [if_pos h]
  show (s.runtime.call (.deinit s.raw) >>= fun _ => Act.log (.deinitialized s.raw)) w = _
  cases hp : s.runtime.panic? (.deinit s.raw) w with
  | some text =>
    rw [hp] at hcall
    rw [Act.bind_of_error hcall]
    rfl
  | none =>
    rw [hp] at hcall
    rw [Act.bind_of_ok hcall]
    rfl

theorem release_state {s : Session} (h : s.state = .live) :
    s.release.1.state = .deinitialized := by
  rw [release, if_pos h]

/-- An action that returns leaves the session to its owner. -/
theorem owning_of_ok {α : Type} {s : Session} {body : Act α} {a : α} {w w' : World}
    (hbody : body w = .ok a w') : s.owning body w = .ok a w' := by
  unfold owning
  rw [hbody]

/-- **Closing** a live session releases it once, even if the runtime panics. -/
theorem close_eq {s : Session} (h : s.state = .live) (w : World) :
    s.close w =
      match s.runtime.panic? (.deinit s.raw) w with
      | none => .ok () (s.released w)
      | some text => .error (.panic text) (s.releasing w) := by
  have hrel := release_eq h w
  have hdrop := drop_of_deinitialized (release_state h)
  show (s.release.1.owning s.release.2 >>= fun _ => s.release.1.drop false) w = _
  cases hp : s.runtime.panic? (.deinit s.raw) w with
  | some text =>
    -- the panic unwinds through the released session, which has nothing left to do
    rw [hp] at hrel
    have howning : s.release.1.owning s.release.2 w = .error (.panic text) (s.releasing w) := by
      unfold owning
      rw [hrel]
      simp only [hdrop]
    rw [Act.bind_of_error howning]
  | none =>
    rw [hp] at hrel
    rw [Act.bind_of_ok (owning_of_ok hrel), hdrop]

/-- **Dropping** a live session releases it once; a panic over that aborts if another one is
unwinding. -/
theorem drop_eq {s : Session} (h : s.state = .live) (unwinding : Bool) (w : World) :
    s.drop unwinding w =
      match s.runtime.panic? (.deinit s.raw) (w.logged (.releasing s.raw unwinding)) with
      | none => .ok () (s.released (w.logged (.releasing s.raw unwinding)))
      | some text =>
        .error (if unwinding then .abort else .panic text)
          (s.releasing (w.logged (.releasing s.raw unwinding))) := by
  have hrel := release_eq h (w.logged (.releasing s.raw unwinding))
  have hlog : (do if s.state = .live then Act.log (.releasing s.raw unwinding)
                  s.release.2 : Act Unit) w
      = s.release.2 (w.logged (.releasing s.raw unwinding)) := by
    rw [if_pos h]
    rfl
  unfold drop
  simp only [hlog, hrel]
  cases s.runtime.panic? (.deinit s.raw) (w.logged (.releasing s.raw unwinding)) <;> rfl

/-! ## What a session outlives -/

section Owning

variable {α : Type} {s : Session} {body : Act α} {w w' : World}

/-- A failure drops the session. A panic over the drop takes its place. -/
theorem owning_of_failure (h : s.state = .live) {e : HostError}
    (hbody : body w = .error (.failure e) w') :
    s.owning body w =
      match s.runtime.panic? (.deinit s.raw) (w'.logged (.releasing s.raw false)) with
      | none => .error (.failure e) (s.released (w'.logged (.releasing s.raw false)))
      | some text => .error (.panic text) (s.releasing (w'.logged (.releasing s.raw false))) := by
  have hdrop := drop_eq h false w'
  unfold owning
  rw [hbody]
  cases hp : s.runtime.panic? (.deinit s.raw) (w'.logged (.releasing s.raw false)) with
  | none =>
    rw [hp] at hdrop
    simp only [hdrop]
  | some text =>
    rw [hp] at hdrop
    simp only [hdrop]
    rfl

/-- A panic drops the session while it unwinds, and a second one aborts. -/
theorem owning_of_panic (h : s.state = .live) {text : String}
    (hbody : body w = .error (.panic text) w') :
    s.owning body w =
      match s.runtime.panic? (.deinit s.raw) (w'.logged (.releasing s.raw true)) with
      | none => .error (.panic text) (s.released (w'.logged (.releasing s.raw true)))
      | some _ => .error .abort (s.releasing (w'.logged (.releasing s.raw true))) := by
  have hdrop := drop_eq h true w'
  unfold owning
  rw [hbody]
  cases hp : s.runtime.panic? (.deinit s.raw) (w'.logged (.releasing s.raw true)) with
  | none =>
    rw [hp] at hdrop
    simp only [hdrop]
  | some text' =>
    rw [hp] at hdrop
    simp only [hdrop]
    rfl

end Owning

end Session

end ScriptHost
