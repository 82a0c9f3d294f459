import Mathlib
import ScriptHost.Proofs.Cycle

/-!
# What reaches the runtime is the file

A cycle reads its script when the runtime is up, once, and after that the file does not
matter. What it read decides everything else (`Delivers`): text without a NUL byte
reaches the runtime byte for byte, and anything else does not reach it at all. Which of
the two failures it is depends on the bytes alone, and so do the position that each of
them names.

Hooks may change any file at any time. Only those that act while the runtime is being
started can change what the cycle comes to, because they act before the script is read.
-/

namespace ScriptHost

/-- How an operation ended, with the calls that were made up to then. -/
def ended {α : Type} : EStateM.Result Stop World α → Except Stop α × List Call
  | .ok a w => (.ok a, w.calls)
  | .error stop w => (.error stop, w.calls)

/-- No hook panics in this world. -/
def World.Calm (w : World) : Prop := ∀ hook ∈ w.hooks, hook.panics = false

/-- A hook has panicked, so the operation neither returned nor failed. -/
def World.Surprises {α : Type} (w : World) (ending : Except Stop α) : Prop :=
  ¬ w.Calm ∧ ∃ stop, ending = .error stop ∧ ∀ e, stop ≠ .failure e

/-! ## Reading a script -/

namespace EntryScript

variable {s : System} {p : Path} {c : Bytes}

/-- A file that is text is read as it is. -/
theorem ofFile_of_wellFormed (hread : s.files.read s.cwd p = .ok c) (hc : Utf8.WellFormed c) :
    ∃ script, ofFile s p = .ok script ∧ script.path = p ∧ bytesOf script.source = c := by
  obtain ⟨cs, hcs⟩ := Utf8.wellFormed_iff_decode.mp hc
  refine ⟨⟨p, String.ofList cs⟩, ?_, rfl, ?_⟩
  · simp only [ofFile, hread, hcs]
  · rw [Utf8.bytesOf_ofList, Utf8.encode_of_decode hcs]

/-- A file that is not text is refused where its longest text ends. -/
theorem ofFile_of_not_wellFormed (hread : s.files.read s.cwd p = .ok c)
    (hc : ¬ Utf8.WellFormed c) :
    ∃ f, Utf8.decode c = .error f ∧ Utf8.LongestText c f.validUpTo
      ∧ ofFile s p = .error (.entryScriptUnreadable p ("not valid UTF-8: " ++ f.message)) := by
  cases hdecode : Utf8.decode c with
  | ok cs => exact absurd (Utf8.wellFormed_iff_decode.mpr ⟨cs, hdecode⟩) hc
  | error f =>
    refine ⟨f, rfl, Utf8.decode_eq_error hdecode, ?_⟩
    simp only [ofFile, hread, hdecode]
    rfl

end EntryScript

/-- The words for a fault end with its position. -/
theorem Utf8.Fault.message_eq (f : Fault) :
    ∃ what, f.message = what ++ " from index " ++ toString f.validUpTo := by
  obtain ⟨validUpTo, length⟩ := f
  cases length with
  | none =>
    refine ⟨"incomplete utf-8 byte sequence", ?_⟩
    show "incomplete utf-8 byte sequence from index " ++ toString validUpTo = _
    rfl
  | some n =>
    refine ⟨"invalid utf-8 sequence of " ++ toString n ++ " bytes", ?_⟩
    show "invalid utf-8 sequence of " ++ toString n ++ " bytes from index " ++ toString validUpTo
      = _
    rw [show " bytes from index " = " bytes" ++ " from index " from rfl, ← String.append_assoc]

/-! ## One cycle -/

namespace Host

/-- **What a cycle comes to** that begins in the world `w` and has started its runtime on the
handle `raw`, if the file of its script has the bytes `c` then. -/
structure Delivers (h : Host) (n : Nat) (w : World) (raw : Int) (c : Bytes)
    (ending : Except Stop Report) (calls : List Call) : Prop where
  /-- Text without a NUL byte is handed over once, and a reader of it reads what the file had. -/
  text : Utf8.WellFormed c → 0 ∉ c → ∃ text : ForeignText,
    calls = w.calls ++ [.init h.baseDir.bytes, .run raw (h.runtime.received text), .deinit raw]
      ∧ h.runtime.received text = c ∧ ForeignText.readBuffer text.buffer = c
      ∧ (ending = .ok ⟨n, raw, h.entryPath, c.length⟩ ∨ w.Surprises ending)
  /-- What is not text is not handed over, and the failure names the place where it stops being
  text. -/
  notText : ¬ Utf8.WellFormed c →
    calls = w.calls ++ [.init h.baseDir.bytes, .deinit raw]
      ∧ ∃ f what, Utf8.decode c = .error f ∧ Utf8.LongestText c f.validUpTo
        ∧ f.message = what ++ " from index " ++ toString f.validUpTo
        ∧ (ending = .error (.failure
              (.entryScriptUnreadable h.entryPath ("not valid UTF-8: " ++ f.message)))
            ∨ w.Surprises ending)
  /-- Text with a NUL byte is not handed over, and the failure names the first one. -/
  nul : Utf8.WellFormed c → 0 ∈ c →
    calls = w.calls ++ [.init h.baseDir.bytes, .deinit raw]
      ∧ (ending = .error (.failure (.interiorNul entryScriptText (c.idxOf 0)))
          ∨ w.Surprises ending)

section Reading

variable {h : Host} {w w' : World} {c : Bytes}

/-- The script that is handed over is the file. -/
theorem hands_of_read (hread : w.system.files.read w.system.cwd h.entryPath = .ok c)
    {script : EntryScript} (hh : h.Hands w script) :
    Utf8.WellFormed c ∧ 0 ∉ c ∧ script.path = h.entryPath ∧ bytesOf script.source = c := by
  have hfile := hh.read
  by_cases hc : Utf8.WellFormed c
  · obtain ⟨script', hok, hpath, hsource⟩ := EntryScript.ofFile_of_wellFormed hread hc
    rw [hok] at hfile
    cases hfile
    exact ⟨hc, hsource ▸ hh.nul_notMem, hpath, hsource⟩
  · obtain ⟨f, _, _, herror⟩ := EntryScript.ofFile_of_not_wellFormed hread hc
    rw [herror] at hfile
    cases hfile

/-- A script is refused over what the file holds. -/
theorem refuses_of_read (hread : w.system.files.read w.system.cwd h.entryPath = .ok c)
    {e : HostError} (hr : h.Refuses w e w') :
    (¬ Utf8.WellFormed c ∧ ∃ f, Utf8.decode c = .error f ∧ Utf8.LongestText c f.validUpTo
        ∧ e = .entryScriptUnreadable h.entryPath ("not valid UTF-8: " ++ f.message))
      ∨ (Utf8.WellFormed c ∧ 0 ∈ c ∧ e = .interiorNul entryScriptText (c.idxOf 0)) := by
  by_cases hc : Utf8.WellFormed c
  · obtain ⟨script, hok, _, hsource⟩ := EntryScript.ofFile_of_wellFormed hread hc
    cases hr with
    | unreadable hfile => rw [hok] at hfile; cases hfile
    | nul hfile hnul =>
      rw [hok] at hfile
      cases hfile
      rw [hsource] at hnul ⊢
      exact Or.inr ⟨hc, hnul, rfl⟩
  · obtain ⟨f, hdecode, hlongest, herror⟩ := EntryScript.ofFile_of_not_wellFormed hread hc
    cases hr with
    | unreadable hfile =>
      rw [herror] at hfile
      cases hfile
      exact Or.inl ⟨hc, f, hdecode, hlongest, rfl⟩
    | nul hfile _ => rw [herror] at hfile; cases hfile

end Reading

/-- A runtime that panics does so because a hook does. -/
theorem not_calm_of_panic? {r : Runtime} {call : Call} {w w' : World} {text : String}
    (hp : r.panic? call w' = some text) (hhooks : w'.hooks = w.hooks) : ¬ w.Calm := by
  intro hcalm
  rw [r.panic?_eq_none call (hhooks ▸ hcalm)] at hp
  cases hp

section Cycles

variable {h : Host} {n : Nat} {w w₁ : World} {s : Session} {c : Bytes} {ending : Except Stop Report}

/-- What follows when the script was handed over. -/
theorem delivers_of_hands (hread : w₁.system.files.read w₁.system.cwd h.entryPath = .ok c)
    {script : EntryScript} (hh : h.Hands w₁ script) {calls : List Call}
    (hcalls : calls = w.calls
      ++ [.init h.baseDir.bytes, .run s.raw (bytesOf script.source), .deinit s.raw])
    (hending : ending = .ok ⟨n, s.raw, script.path, script.size⟩ ∨ w.Surprises ending) :
    h.Delivers n w s.raw c ending calls := by
  obtain ⟨hc, hnul, hpath, hsource⟩ := hands_of_read hread hh
  refine ⟨?_, fun h => absurd hc h, fun _ h => absurd h hnul⟩
  intro _ _
  have hreceived : h.runtime.received ⟨c, hnul⟩ = c := Runtime.received_eq _ _
  refine ⟨⟨c, hnul⟩, ?_, hreceived, ForeignText.readBuffer_buffer _, ?_⟩
  · rw [hcalls, hsource, hreceived]
  · rw [hpath, EntryScript.size, hsource] at hending
    exact hending

/-- What follows when the script was refused. -/
theorem delivers_of_refuses (hread : w₁.system.files.read w₁.system.cwd h.entryPath = .ok c)
    {e : HostError} {w₂ : World} (hr : h.Refuses w₁ e w₂) {calls : List Call}
    (hcalls : calls = w.calls ++ [.init h.baseDir.bytes, .deinit s.raw])
    (hending : ending = .error (.failure e) ∨ w.Surprises ending) :
    h.Delivers n w s.raw c ending calls := by
  rcases refuses_of_read hread hr with ⟨hc, f, hdecode, hlongest, rfl⟩ | ⟨hc, hnul, rfl⟩
  · obtain ⟨what, hwhat⟩ := f.message_eq
    refine ⟨fun h => absurd h hc, fun _ => ?_, fun h => absurd h hc⟩
    exact ⟨hcalls, f, what, hdecode, hlongest, hwhat, hending⟩
  · exact ⟨fun _ h => absurd hnul h, fun h => absurd hc h, fun _ _ => ⟨hcalls, hending⟩⟩

/-- **The script that reaches the runtime is the file** as it is when the runtime has started. -/
theorem delivers_of_start
    (hstart : Session.start h.runtime h.baseDir (w.atCycle (some n)) = .ok s w₁)
    (hread : w₁.system.files.read w₁.system.cwd h.entryPath = .ok c) :
    h.Delivers n w s.raw c (ended (h.runOnce n w)).1 (ended (h.runOnce n w)).2 := by
  have hstarts := Session.start_cases h.runtime h.baseDir (w.atCycle (some n))
  rw [hstart] at hstarts
  obtain ⟨_, _, _, _, hcalls, hhooks⟩ := Session.frame_of_starts hstarts
  rw [World.atCycle_calls] at hcalls
  rw [World.atCycle_hooks] at hhooks
  -- the cycle starts its runtime as the start on its own does, so it has the same session
  have hcycle := h.runOnce_cases n w
  generalize h.runOnce n w = res at hcycle
  cases hcycle with
  | notStarted hs => exact absurd hs (Session.not_starts_error hstarts)
  | refused hs hr =>
    obtain ⟨rfl, rfl⟩ := Session.starts_unique hstarts hs
    refine delivers_of_refuses hread hr ?_ (Or.inl rfl)
    simp [ended, (frame_of_refuses hr).1, hcalls]
  | refusedPanic hs hr hp =>
    obtain ⟨rfl, rfl⟩ := Session.starts_unique hstarts hs
    obtain ⟨hcalls₂, _, hhooks₂⟩ := frame_of_refuses hr
    refine delivers_of_refuses hread hr ?_ (Or.inr ⟨not_calm_of_panic? hp ?_, _, rfl, by simp⟩)
    · simp [ended, hcalls₂, hcalls]
    · rw [World.logged_hooks, hhooks₂, hhooks]
  | scriptPanic hs hh hp =>
    obtain ⟨rfl, rfl⟩ := Session.starts_unique hstarts hs
    refine delivers_of_hands hread hh ?_ (Or.inr ⟨not_calm_of_panic? hp ?_, _, rfl, by simp⟩)
    · simp [ended, hcalls]
    · rw [World.logged_hooks, World.scriptLogged_hooks, hhooks]
  | abort hs hh hp =>
    obtain ⟨rfl, rfl⟩ := Session.starts_unique hstarts hs
    refine delivers_of_hands hread hh ?_ (Or.inr ⟨not_calm_of_panic? hp ?_, _, rfl, by simp⟩)
    · simp [ended, hcalls]
    · rw [World.logged_hooks, World.scriptLogged_hooks, hhooks]
  | releasePanic hs hh hp =>
    obtain ⟨rfl, rfl⟩ := Session.starts_unique hstarts hs
    refine delivers_of_hands hread hh ?_ (Or.inr ⟨not_calm_of_panic? hp ?_, _, rfl, by simp⟩)
    · simp [ended, hcalls]
    · rw [Session.handedOver_hooks, hhooks]
  | finished hs hh =>
    obtain ⟨rfl, rfl⟩ := Session.starts_unique hstarts hs
    refine delivers_of_hands hread hh ?_ (Or.inl rfl)
    simp [ended, hcalls]

/-- Without panics the bytes of the script decide all. -/
theorem delivers_unique {w' : World} {raw : Int} {ending' : Except Stop Report}
    {calls calls' : List Call} (hcalm : w.Calm) (hcalm' : w'.Calm) (hw : w'.calls = w.calls)
    (hd : h.Delivers n w raw c ending calls) (hd' : h.Delivers n w' raw c ending' calls') :
    ending' = ending ∧ calls' = calls := by
  have hends : ∀ {e : Except Stop Report}, ending = e ∨ w.Surprises ending →
      ending' = e ∨ w'.Surprises ending' → ending' = ending := by
    rintro e (rfl | ⟨hnot, _⟩) hend'
    · rcases hend' with hend' | ⟨hnot', _⟩
      · exact hend'
      · exact absurd hcalm' hnot'
    · exact absurd hcalm hnot
  -- the three cases of `Delivers` exclude each other
  by_cases hc : Utf8.WellFormed c
  · by_cases hnul : 0 ∈ c
    · obtain ⟨hcalls, hend⟩ := hd.nul hc hnul
      obtain ⟨hcalls', hend'⟩ := hd'.nul hc hnul
      exact ⟨hends hend hend', by rw [hcalls', hcalls, hw]⟩
    · obtain ⟨text, hcalls, htext, _, hend⟩ := hd.text hc hnul
      obtain ⟨text', hcalls', htext', _, hend'⟩ := hd'.text hc hnul
      exact ⟨hends hend hend', by rw [hcalls', hcalls, hw, htext, htext']⟩
  · obtain ⟨hcalls, f, _, hdecode, _, _, hend⟩ := hd.notText hc
    obtain ⟨hcalls', f', _, hdecode', _, _, hend'⟩ := hd'.notText hc
    rw [hdecode, Except.error.injEq] at hdecode'
    subst hdecode'
    exact ⟨hends hend hend', by rw [hcalls', hcalls, hw]⟩

end Cycles

end Host

/-! ## Hooks that come later -/

namespace World

/-- The world with other hooks. -/
def withHooks (w : World) (hooks : List Hook) : World := { w with hooks }

@[simp] theorem withHooks_system (w : World) (hooks : List Hook) :
    (w.withHooks hooks).system = w.system := rfl
@[simp] theorem withHooks_supply (w : World) (hooks : List Hook) :
    (w.withHooks hooks).supply = w.supply := rfl
@[simp] theorem withHooks_calls (w : World) (hooks : List Hook) :
    (w.withHooks hooks).calls = w.calls := rfl
@[simp] theorem withHooks_hooks (w : World) (hooks : List Hook) :
    (w.withHooks hooks).hooks = hooks := rfl

/-- The hooks that wait for calls of one kind. -/
def hooksOf (w : World) (k : CallKind) : List Hook := w.hooks.filter (·.kind = k)

theorem due_eq (w : World) (k : CallKind) : w.due k = (w.hooksOf k).filter (·.nth = w.count k) := by
  rw [due, hooksOf, List.filter_filter]
  congr 1
  funext hook
  rw [Bool.and_comm, Bool.decide_and]

end World

/-- What a call does to the files depends on the hooks of its own kind only. -/
theorem Runtime.arrive_system_congr {r : Runtime} {c : Call} {w w' : World}
    (hsystem : w'.system = w.system) (hcalls : w'.calls = w.calls)
    (hhooks : ∀ k, c.kind? = some k → w'.hooksOf k = w.hooksOf k) :
    (r.arrive c w').system = (r.arrive c w).system := by
  unfold arrive
  split
  next p k hk =>
    -- the number of the call and the hooks of its kind decide which hooks are due
    have hcount : (w'.recorded c).count k = (w.recorded c).count k := by
      simp only [World.count, World.recorded, hcalls]
    have hdue : (w'.recorded c).due k = (w.recorded c).due k := by
      rw [World.due_eq, World.due_eq, hcount]
      exact congrArg _ (hhooks k hk)
    simp only [World.withFiles, World.recorded, hsystem] at hdue ⊢
    rw [hdue]
  next => exact hsystem

namespace Session

/-- A start comes to the same whatever hooks wait for later calls. -/
theorem start_withHooks {r : Runtime} {base : Path} {w w₁ : World} {s : Session}
    (hstart : start r base w = .ok s w₁) {hooks : List Hook}
    (hinit : (w.withHooks hooks).hooksOf .init = w.hooksOf .init)
    (hcalm : (w.withHooks hooks).Calm) :
    ∃ w₂, start r base (w.withHooks hooks) = .ok s w₂ ∧ w₂.system = w₁.system := by
  have hstarts := start_cases r base w
  have hstarts' := start_cases r base (w.withHooks hooks)
  rw [hstart] at hstarts
  generalize start r base (w.withHooks hooks) = res at hstarts' ⊢
  cases hstarts with
  | started htext hnul hpos hp =>
    cases hstarts' with
    | notText hnone => rw [hnone] at htext; cases htext
    | nul hmem => exact absurd hmem hnul
    | refused hle => exact absurd hpos (Int.not_lt.mpr hle)
    | panicked hpanic => exact absurd hcalm (Host.not_calm_of_panic? hpanic rfl)
    | started _ _ _ _ =>
      refine ⟨_, rfl, ?_⟩
      show (r.arrive _ _).system = (r.arrive _ _).system
      refine Runtime.arrive_system_congr rfl rfl fun k hk => ?_
      cases hk
      exact hinit

end Session

namespace Host

/-- **Delivery.** The script that reaches the runtime is the file as it is when the runtime has
started, and what hooks do to it later makes no difference to the cycle. -/
theorem runOnce_delivers {h : Host} {n : Nat} {w w₁ : World} {s : Session} {c : Bytes}
    (hstart : Session.start h.runtime h.baseDir (w.atCycle (some n)) = .ok s w₁)
    (hread : w₁.system.files.read w₁.system.cwd h.entryPath = .ok c) :
    h.Delivers n w s.raw c (ended (h.runOnce n w)).1 (ended (h.runOnce n w)).2
      ∧ ∀ hooks, (w.withHooks hooks).hooksOf .init = w.hooksOf .init → w.Calm →
          (w.withHooks hooks).Calm →
          ended (h.runOnce n (w.withHooks hooks)) = ended (h.runOnce n w) := by
  have hd := delivers_of_start hstart hread
  refine ⟨hd, ?_⟩
  intro hooks hinit hcalm hcalm'
  obtain ⟨w₂, hstart₂, hsystem⟩ :=
    Session.start_withHooks (w := w.atCycle (some n)) hstart hinit hcalm'
  rw [← hsystem] at hread
  have hd' := delivers_of_start (w := w.withHooks hooks) hstart₂ hread
  obtain ⟨hending, hcalls⟩ := delivers_unique hcalm hcalm' rfl hd hd'
  exact Prod.ext hending hcalls

end Host

/-- A byte order mark, and a line end of two bytes. -/
def markedScript : Bytes := bytesOf "\ufeff1\r\n"

/-- The script is put in place while the runtime starts, and changed again while it runs. -/
def changingWorld : World :=
  smallWorld none
    [⟨.init, 1, [.write (.ofString "/app/main.js") markedScript], false⟩,
      ⟨.run, 1, [.write (.ofString "/app/main.js") [0xFF]], false⟩]

theorem changingWorld_delivers :
    ∃ s w₁, Session.start smallHost.runtime smallHost.baseDir (changingWorld.atCycle (some 1))
          = .ok s w₁
      ∧ w₁.system.files.read w₁.system.cwd smallHost.entryPath = .ok markedScript
      ∧ smallHost.Delivers 1 changingWorld s.raw markedScript
        (ended (smallHost.runOnce 1 changingWorld)).1
        (ended (smallHost.runOnce 1 changingWorld)).2 := by
  have hstart : Session.start smallHost.runtime smallHost.baseDir (changingWorld.atCycle (some 1))
      = .ok ⟨.recorder true, 7, .live⟩
        { changingWorld with
          system := smallSystem (some markedScript)
          supply := [8]
          calls := [.init (bytesOf "/app")]
          logs := [⟨some 1, .initializing (.ofString "/app")⟩, ⟨some 1, .initialized 7⟩]
          cycle := some 1 } := by
    cbv
  exact ⟨_, _, hstart, by cbv, (Host.runOnce_delivers hstart (by cbv)).1⟩

end ScriptHost
