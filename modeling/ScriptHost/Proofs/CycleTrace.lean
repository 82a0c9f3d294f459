import Mathlib
import ScriptHost.Proofs.BaseDirectory
import ScriptHost.Proofs.Cycle

/-!
# The calls of a run

A run of a host is a row of cycles, and so is its trace: what the runtime was called
with falls into one piece per cycle. Every cycle that came to its end called
`init`, `run` and `deinit` on the handle that its own start was answered with. Only
the last piece can be shorter, and how the run stopped tells which calls it has
(`CutShort`).

One thing is easily missed. A runtime can panic over a release that no script went
before: the script was refused, the session was dropped on the way out, and the
panic of that drop takes the place of the refusal. The panic alone does not tell such a
cycle from one whose script has run; the world does in which the cycle began, so the law
of a run carries it along.
-/

namespace ScriptHost

/-! ## One cycle -/

/-- A cycle that came to its end: its handle, and the script that it ran. -/
structure Lap where
  handle : Int
  source : Bytes

/-- The calls of a cycle that came to its end. -/
def Lap.calls (base : Bytes) (l : Lap) : List Call :=
  [.init base, .run l.handle l.source, .deinit l.handle]

namespace Host

/-- The calls of a cycle that failed, by its failure. Its start was answered with `value`, if it
was answered. -/
inductive Fails (h : Host) (value : Int) : HostError → List Call → Prop where
  /-- The base directory is not text, so nothing is called. -/
  | notText : h.baseDir.text? = none → Fails h value (.nonUtf8Path h.baseDir) []
  /-- The runtime answers with a value that is no handle. -/
  | notStarted : value ≤ 0 →
      Fails h value (.initializationFailure h.baseDir value) [.init h.baseDir.bytes]
  /-- The file of the script cannot be read as text. -/
  | unreadable {reason : String} : 0 < value →
      Fails h value (.entryScriptUnreadable h.entryPath reason)
        [.init h.baseDir.bytes, .deinit value]
  /-- The script has a NUL byte. -/
  | nulInScript {position : Nat} : 0 < value →
      Fails h value (.interiorNul entryScriptText position)
        [.init h.baseDir.bytes, .deinit value]

/-- Cycle `n`, begun in the world `w`, has the session `s`, and its start left the world `w₁`. -/
def Opens (h : Host) (n : Nat) (w : World) (s : Session) (w₁ : World) : Prop :=
  Session.Starts h.runtime h.baseDir (w.atCycle (some n)) (.ok s w₁)

/-- The calls of cycle `n`, begun in the world `w`, if it did not come to its end, by how the run
stopped. -/
inductive CutShort (h : Host) (n : Nat) (w : World) : Stop → List Call → Prop where
  | failed {e : HostError} {last : List Call} :
      h.Fails (w.supply.headD 0) e last → CutShort h n w (.failure e) last
  /-- The runtime panics over the start. -/
  | startPanic {k : Nat} : CutShort h n w (.panic (CallKind.init.panicText k))
      [.init h.baseDir.bytes]
  /-- The runtime panics over the script. -/
  | runPanic {k : Nat} {s : Session} {w₁ : World} {script : EntryScript} :
      h.Opens n w s w₁ → h.Hands w₁ script →
      CutShort h n w (.panic (CallKind.run.panicText k))
        [.init h.baseDir.bytes, .run s.raw (bytesOf script.source), .deinit s.raw]
  /-- The runtime panics over the release of a session whose script has run. -/
  | releasePanic {k : Nat} {s : Session} {w₁ : World} {script : EntryScript} :
      h.Opens n w s w₁ → h.Hands w₁ script →
      CutShort h n w (.panic (CallKind.deinit.panicText k))
        [.init h.baseDir.bytes, .run s.raw (bytesOf script.source), .deinit s.raw]
  /-- The runtime panics over the release of a session whose script was refused. -/
  | dropPanic {k : Nat} {s : Session} {w₁ w₂ : World} {e : HostError} :
      h.Opens n w s w₁ → h.Refuses w₁ e w₂ →
      CutShort h n w (.panic (CallKind.deinit.panicText k))
        [.init h.baseDir.bytes, .deinit s.raw]
  /-- The runtime panics over the script and over the release that follows. -/
  | abort {s : Session} {w₁ : World} {script : EntryScript} :
      h.Opens n w s w₁ → h.Hands w₁ script →
      CutShort h n w .abort
        [.init h.baseDir.bytes, .run s.raw (bytesOf script.source), .deinit s.raw]

/-- What a cycle adds to the trace. -/
def LapLaw (h : Host) (n : Nat) (w : World) : EStateM.Result Stop World Report → Prop
  | .ok report w' => ∃ lap : Lap,
      w.supply = lap.handle :: w'.supply
        ∧ 0 < lap.handle
        ∧ w'.calls = w.calls ++ lap.calls h.baseDir.bytes
        ∧ report = ⟨n, lap.handle, h.entryPath, lap.source.length⟩
  | .error stop w' => ∃ last, w'.calls = w.calls ++ last ∧ h.CutShort n w stop last

theorem path_of_ofFile {s : System} {p : Path} {script : EntryScript}
    (h : EntryScript.ofFile s p = .ok script) : script.path = p := by
  unfold EntryScript.ofFile at h
  split at h
  · cases h
  · split at h
    · cases h
    · cases h; rfl

/-- A script is refused with one of two failures. -/
theorem failure_of_refuses {h : Host} {w w' : World} {e : HostError} (hr : h.Refuses w e w') :
    (∃ reason, e = .entryScriptUnreadable h.entryPath reason)
      ∨ ∃ position, e = .interiorNul entryScriptText position := by
  cases hr with
  | nul _ _ => exact Or.inr ⟨_, rfl⟩
  | unreadable hfile =>
    unfold EntryScript.ofFile at hfile
    split at hfile
    · cases hfile; exact Or.inl ⟨_, rfl⟩
    · split at hfile
      · cases hfile; exact Or.inl ⟨_, rfl⟩
      · cases hfile

/-- What a session was started with is in the trace and gone from the supply. -/
theorem frame_of_opens {h : Host} {n : Nat} {w w₁ : World} {s : Session} (ho : h.Opens n w s w₁) :
    0 < s.raw ∧ w.supply = s.raw :: w₁.supply
      ∧ w₁.calls = w.calls ++ [.init h.baseDir.bytes] := by
  obtain ⟨_, _, hpos, hsup, hcalls, _⟩ := Session.frame_of_starts ho
  exact ⟨hpos, hsup, hcalls⟩

/-- The text of a panic over a call of a kind. -/
theorem panicText_of_panic? {r : Runtime} {c : Call} {k : CallKind} {w : World} {text : String}
    (hp : r.panic? c w = some text) (hk : c.kind? = some k) : ∃ n, text = k.panicText n := by
  obtain ⟨k', hk', htext⟩ := Runtime.panic?_eq_some hp
  rw [hk, Option.some.injEq] at hk'
  exact ⟨_, hk' ▸ htext⟩

/-- **One cycle** adds its calls to the trace, and a cycle that does not come to its end leaves
the last ones. -/
theorem runOnce_lap {h : Host} (hbase : 0 ∉ h.baseDir.bytes) (n : Nat) (w : World) :
    h.LapLaw n w (h.runOnce n w) := by
  have hcycle := h.runOnce_cases n w
  cases hres : h.runOnce n w with
  | ok report w' =>
    rw [hres] at hcycle
    cases hcycle with
    | @finished s w₁ script hstart hhands =>
      obtain ⟨hpos, hsup, hcalls⟩ := frame_of_opens hstart
      refine ⟨⟨s.raw, bytesOf script.source⟩, ?_, hpos, ?_, ?_⟩
      · simpa using hsup
      · simp [hcalls, Lap.calls]
      · rw [path_of_ofFile hhands.read]; rfl
  | error stop w' =>
    rw [hres] at hcycle
    cases hcycle with
    | notStarted hstart =>
      cases hstart with
      | notText htext => exact ⟨[], by simp, .failed (.notText htext)⟩
      -- a host was built on a directory that exists, and no name on the way to it has a NUL byte
      | nul hnul => exact absurd hnul hbase
      | refused hle => exact ⟨[.init h.baseDir.bytes], by simp, .failed (.notStarted hle)⟩
      | panicked hp =>
        obtain ⟨_, rfl⟩ := panicText_of_panic? hp rfl
        exact ⟨[.init h.baseDir.bytes], by simp, .startPanic⟩
    | @refused s w₁ w₂ e hstart hrefuses =>
      obtain ⟨hpos, hsup, hcalls⟩ := frame_of_opens hstart
      refine ⟨[.init h.baseDir.bytes, .deinit s.raw], ?_, .failed ?_⟩
      · simp [(frame_of_refuses hrefuses).1, hcalls]
      · rw [hsup, List.headD_cons]
        rcases failure_of_refuses hrefuses with ⟨_, rfl⟩ | ⟨_, rfl⟩
        · exact .unreadable hpos
        · exact .nulInScript hpos
    | @refusedPanic s w₁ w₂ e text hstart hrefuses hp =>
      obtain ⟨_, _, hcalls⟩ := frame_of_opens hstart
      obtain ⟨_, rfl⟩ := panicText_of_panic? hp rfl
      refine ⟨_, ?_, .dropPanic hstart hrefuses⟩
      simp [(frame_of_refuses hrefuses).1, hcalls]
    | @scriptPanic s w₁ script text hstart hhands hp =>
      obtain ⟨_, _, hcalls⟩ := frame_of_opens hstart
      obtain ⟨_, rfl⟩ := panicText_of_panic? hp rfl
      exact ⟨_, by simp [hcalls], .runPanic hstart hhands⟩
    | @abort s w₁ script text hstart hhands hp =>
      obtain ⟨_, _, hcalls⟩ := frame_of_opens hstart
      exact ⟨_, by simp [hcalls], .abort hstart hhands⟩
    | @releasePanic s w₁ script text hstart hhands hp =>
      obtain ⟨_, _, hcalls⟩ := frame_of_opens hstart
      obtain ⟨_, rfl⟩ := panicText_of_panic? hp rfl
      exact ⟨_, by simp [hcalls], .releasePanic hstart hhands⟩

/-! ## A run -/

/-- The calls of a row of cycles that came to their ends. -/
def lapCalls (base : Bytes) (laps : List Lap) : List Call := laps.flatMap (·.calls base)

/-- The reports of a row of cycles, the first of them with the number `first`. -/
def lapReports (h : Host) (first : Nat) (laps : List Lap) : List Report :=
  laps.mapIdx fun i lap => ⟨first + i, lap.handle, h.entryPath, lap.source.length⟩

theorem lapReports_cons (h : Host) (first : Nat) (lap : Lap) (laps : List Lap) :
    h.lapReports first (lap :: laps)
      = ⟨first, lap.handle, h.entryPath, lap.source.length⟩ :: h.lapReports (first + 1) laps := by
  simp only [lapReports, List.mapIdx_cons, Nat.add_zero]
  congr 2
  funext i lap
  rw [Nat.add_assoc, Nat.add_comm 1 i]

/-- Cycles that came to their ends in a row lead from the world `w` to the world `w'`. -/
structure Advances (h : Host) (w : World) (laps : List Lap) (w' : World) : Prop where
  /-- The runtime answered their starts in turn. -/
  supply : w.supply = laps.map (·.handle) ++ w'.supply
  pos : ∀ lap ∈ laps, 0 < lap.handle
  calls : w'.calls = w.calls ++ lapCalls h.baseDir.bytes laps

/-- **The law of a run.** Its cycles came to their ends in a row, on the handles that the runtime
answered in turn. A run that stops has one more, which began in the world that those before it left
and of which `CutShort` tells the calls. -/
def TraceLaw (h : Host) (first count : Nat) (w : World) :
    EStateM.Result Stop World (List Report) → Prop
  | .ok reports w' => ∃ laps : List Lap,
      laps.length = count ∧ h.Advances w laps w' ∧ reports = h.lapReports first laps
  | .error stop w' => ∃ (laps : List Lap) (w₁ : World) (last : List Call),
      laps.length < count
        ∧ h.runFrom first laps.length w = .ok (h.lapReports first laps) w₁
        ∧ h.Advances w laps w₁
        ∧ w'.calls = w₁.calls ++ last
        ∧ h.CutShort (first + laps.length) w₁ stop last

section Steps

variable {h : Host} {first count : Nat} {w w₁ w₂ : World} {lap : Lap} {laps : List Lap}
  {stop : Stop} {report : Report}

theorem Advances.nil (h : Host) (w : World) : h.Advances w [] w :=
  ⟨rfl, by simp, by simp [lapCalls]⟩

/-- One more cycle in front. -/
theorem Advances.cons (hsup : w.supply = lap.handle :: w₁.supply) (hpos : 0 < lap.handle)
    (hcalls : w₁.calls = w.calls ++ lap.calls h.baseDir.bytes) (hrest : h.Advances w₁ laps w₂) :
    h.Advances w (lap :: laps) w₂ where
  supply := by rw [hsup, hrest.supply, List.map_cons, List.cons_append]
  pos := List.forall_mem_cons.mpr ⟨hpos, hrest.pos⟩
  calls := by
    rw [hrest.calls, hcalls]
    simp [lapCalls]

/-- The runtime answers the next start with the handle behind those of the cycles. -/
theorem Advances.getD_supply (hadvances : h.Advances w laps w₁) :
    w.supply.getD laps.length 0 = w₁.supply.headD 0 := by
  rw [hadvances.supply, List.getD_eq_getElem?_getD,
    List.getElem?_append_right (by rw [List.length_map]), List.length_map, Nat.sub_self,
    ← List.head?_eq_getElem?, ← List.headD_eq_head?_getD]

/-- A row of cycles with one more in front. -/
theorem runFrom_succ {reports : List Report} (hone : h.runOnce first w = .ok report w₁)
    (hmany : h.runFrom (first + 1) count w₁ = .ok reports w₂) :
    h.runFrom first (count + 1) w = .ok (report :: reports) w₂ := by
  rw [runFrom, Act.bind_of_ok hone, Act.bind_of_ok hmany]
  rfl

/-- A run can stop in its first cycle. -/
theorem traceLaw_of_stop (hlap : h.LapLaw first w (.error stop w₁)) :
    h.TraceLaw first (count + 1) w (.error stop w₁) := by
  obtain ⟨last, hcalls, hcut⟩ := hlap
  exact ⟨[], w, last, Nat.succ_pos count, rfl, .nil h w, hcalls, hcut⟩

/-- A cycle that came to its end can stand in front of a run that stops. -/
theorem traceLaw_cons_error (hone : h.runOnce first w = .ok report w₁)
    (hlap : h.LapLaw first w (.ok report w₁))
    (hrest : h.TraceLaw (first + 1) count w₁ (.error stop w₂)) :
    h.TraceLaw first (count + 1) w (.error stop w₂) := by
  obtain ⟨lap, hsup, hpos, hcalls, rfl⟩ := hlap
  obtain ⟨laps, w', last, hlen, hrun, hadvances, hcalls', hcut⟩ := hrest
  refine ⟨lap :: laps, w', last, Nat.succ_lt_succ hlen, ?_, .cons hsup hpos hcalls hadvances,
    hcalls', ?_⟩
  · rw [lapReports_cons]
    exact runFrom_succ hone hrun
  · rwa [List.length_cons, Nat.add_comm laps.length 1, ← Nat.add_assoc]

/-- A cycle that came to its end can stand in front of a run that goes through. -/
theorem traceLaw_cons_ok {reports : List Report} (hlap : h.LapLaw first w (.ok report w₁))
    (hrest : h.TraceLaw (first + 1) count w₁ (.ok reports w₂)) :
    h.TraceLaw first (count + 1) w (.ok (report :: reports) w₂) := by
  obtain ⟨lap, hsup, hpos, hcalls, rfl⟩ := hlap
  obtain ⟨laps, hlen, hadvances, rfl⟩ := hrest
  exact ⟨lap :: laps, congrArg (· + 1) hlen, .cons hsup hpos hcalls hadvances,
    (lapReports_cons h first lap laps).symm⟩

end Steps

/-- **Every run obeys the law**, by induction on the cycles that are left. -/
theorem runFrom_traceLaw {h : Host} (hbase : 0 ∉ h.baseDir.bytes) (count first : Nat)
    (w : World) : h.TraceLaw first count w (h.runFrom first count w) := by
  induction count generalizing first w with
  | zero => exact ⟨[], rfl, .nil h w, rfl⟩
  | succ count ih =>
    have hlap := runOnce_lap hbase first w
    unfold runFrom
    cases hone : h.runOnce first w with
    | error stop w₁ =>
      rw [hone] at hlap
      rw [Act.bind_of_error hone]
      exact traceLaw_of_stop hlap
    | ok report w₁ =>
      rw [hone] at hlap
      rw [Act.bind_of_ok hone]
      have hrest := ih (first + 1) w₁
      cases hmany : h.runFrom (first + 1) count w₁ with
      | error stop w₂ =>
        rw [hmany] at hrest
        rw [Act.bind_of_error hmany]
        exact traceLaw_cons_error hone hlap hrest
      | ok reports w₂ =>
        rw [hmany] at hrest
        rw [Act.bind_of_ok hmany]
        exact traceLaw_cons_ok hlap hrest

/-- **The trace of a host.** However the world changes under it and whatever its runtime panics
over, a run of a host that was built obeys the law. -/
theorem run_traceLaw {r : Runtime} {base entry : Path} {w₀ w₀' : World} {h : Host}
    (hnew : Host.new r base entry w₀ = .ok h w₀') (count : Nat) (w : World) :
    h.TraceLaw 1 count w (h.run count w) :=
  runFrom_traceLaw (nul_notMem_baseDir hnew) count 1 w

end Host

theorem new_smallHost (script : Option Bytes) (hooks : List Hook) :
    Host.new (.recorder true) (.ofString "/app") (.ofString "main.js") (smallWorld script hooks)
      = .ok smallHost (smallWorld script hooks) := by
  cbv

/-- Two cycles, the second of which panics over its script. -/
theorem smallHost_traceLaw :
    Host.new (.recorder true) (.ofString "/app") (.ofString "main.js") (smallWorld none [])
        = .ok smallHost (smallWorld none [])
      ∧ smallHost.TraceLaw 1 2 (smallWorld (some (bytesOf "1")) [⟨.run, 2, [], true⟩])
        (smallHost.run 2 (smallWorld (some (bytesOf "1")) [⟨.run, 2, [], true⟩])) :=
  ⟨new_smallHost none [], Host.run_traceLaw (new_smallHost none []) 2 _⟩

/-- A panic over a release need not follow a script: here there is none to run. -/
theorem release_panic_without_script :
    Host.new (.recorder true) (.ofString "/app") (.ofString "main.js")
        (smallWorld none [⟨.deinit, 1, [], true⟩])
        = .ok smallHost (smallWorld none [⟨.deinit, 1, [], true⟩])
      ∧ ∃ w, smallHost.run 1 (smallWorld none [⟨.deinit, 1, [], true⟩])
          = .error (.panic (CallKind.deinit.panicText 1)) w
        ∧ ∀ base handle source,
          w.calls ≠ [.init base, .run handle source, .deinit handle] := by
  refine ⟨by cbv, { smallWorld none [⟨.deinit, 1, [], true⟩] with
    supply := [8]
    calls := [.init (bytesOf "/app"), .deinit 7]
    logs := [⟨some 1, .initializing (.ofString "/app")⟩, ⟨some 1, .initialized 7⟩,
      ⟨some 1, .releasing 7 false⟩] }, by cbv, ?_⟩
  intro base handle source hcalls
  simp at hcalls

end ScriptHost
