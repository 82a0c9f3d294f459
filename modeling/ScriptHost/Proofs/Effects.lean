import ScriptHost.Host

/-!
# What the primitive operations do to the world

An operation is a function of the world, and every proof about hosts starts by
evaluating one. The equations here do that once: sequencing, an entry in the log,
a call. A call is where a world can surprise, so its equation is the important one:
the call is in the trace, the hooks that wait for it have changed the files, nothing
else is different (`arrive`), and if one of them panics, so does the call (`panic?`).

The fields of the world that an operation leaves alone are `simp` lemmas, so that
no later proof looks inside `logged` or `arrive`.
-/

namespace ScriptHost

/-! ## Sequencing -/

section Sequencing

variable {α β : Type} {x : Act α} {f : α → Act β} {w w' : World} {a : α} {stop : Stop}

theorem Act.bind_of_ok (h : x w = .ok a w') : (x >>= f) w = f a w' := by
  show EStateM.bind x f w = _
  simp only [EStateM.bind, h]

theorem Act.bind_of_error (h : x w = .error stop w') : (x >>= f) w = .error stop w' := by
  show EStateM.bind x f w = _
  simp only [EStateM.bind, h]

end Sequencing

/-! ## The log -/

namespace World

/-- The world with one more entry in the log. -/
def logged (w : World) (e : Event) : World := { w with logs := w.logs ++ [⟨w.cycle, e⟩] }

@[simp] theorem logged_system (w : World) (e : Event) : (w.logged e).system = w.system := rfl
@[simp] theorem logged_supply (w : World) (e : Event) : (w.logged e).supply = w.supply := rfl
@[simp] theorem logged_hooks (w : World) (e : Event) : (w.logged e).hooks = w.hooks := rfl
@[simp] theorem logged_calls (w : World) (e : Event) : (w.logged e).calls = w.calls := rfl
@[simp] theorem logged_cycle (w : World) (e : Event) : (w.logged e).cycle = w.cycle := rfl
@[simp] theorem logged_logs (w : World) (e : Event) :
    (w.logged e).logs = w.logs ++ [⟨w.cycle, e⟩] := rfl

/-- The world in cycle `n`, or outside of all cycles. -/
def atCycle (w : World) (n : Option Nat) : World := { w with cycle := n }

@[simp] theorem atCycle_system (w : World) (n : Option Nat) : (w.atCycle n).system = w.system := rfl
@[simp] theorem atCycle_supply (w : World) (n : Option Nat) : (w.atCycle n).supply = w.supply := rfl
@[simp] theorem atCycle_hooks (w : World) (n : Option Nat) : (w.atCycle n).hooks = w.hooks := rfl
@[simp] theorem atCycle_calls (w : World) (n : Option Nat) : (w.atCycle n).calls = w.calls := rfl
@[simp] theorem atCycle_logs (w : World) (n : Option Nat) : (w.atCycle n).logs = w.logs := rfl
@[simp] theorem atCycle_cycle (w : World) (n : Option Nat) : (w.atCycle n).cycle = n := rfl

end World

/-- What a cycle does is entered with its number, and the number goes when the cycle ends. -/
theorem Act.inCycle_eq {α : Type} (n : Nat) (body : Act α) (w : World) :
    Act.inCycle n body w =
      match body (w.atCycle (some n)) with
      | .ok a w' => .ok a (w'.atCycle w.cycle)
      | .error e w' => .error e (w'.atCycle w.cycle) := rfl

theorem Act.nextHandle_eq (w : World) :
    Act.nextHandle w = .ok (w.supply.headD 0) { w with supply := w.supply.tail } := by
  obtain ⟨system, supply, hooks, calls, logs, cycle⟩ := w
  cases supply <;> rfl

/-! ## Calls -/

/-- The files when hooks have acted in turn, up to the first that panics. -/
def Hook.files (t : FileTree) : List Hook → FileTree
  | [] => t
  | h :: hs => if h.panics then t.applyAll h.changes else files (t.applyAll h.changes) hs

/-- The world with other files. -/
def World.withFiles (w : World) (t : FileTree) : World :=
  { w with system := { w.system with files := t } }

/-- The world when a call has entered the trace. -/
def World.recorded (w : World) (c : Call) : World := { w with calls := w.calls ++ [c] }

/-- Hooks act in turn, and the first panic ends it. -/
theorem Act.fire_forM {k : CallKind} (n : Nat) {hs : List Hook} (hk : ∀ h ∈ hs, h.kind = k)
    (w : World) :
    (hs.forM (Act.fire n)) w =
      if hs.any (·.panics) then
        .error (.panic (k.panicText n)) (w.withFiles (Hook.files w.system.files hs))
      else .ok () (w.withFiles (Hook.files w.system.files hs)) := by
  induction hs generalizing w with
  | nil => rfl
  | cons h hs ih =>
    show (Act.fire n h >>= fun _ => hs.forM (Act.fire n)) w = _
    cases hp : h.panics with
    | true =>
      -- the hooks behind the first panic do not act
      have hfire : Act.fire n h w
          = .error (.panic (h.kind.panicText n))
            (w.withFiles (w.system.files.applyAll h.changes)) := by
        unfold Act.fire
        simp only [hp, if_true]
        rfl
      rw [Act.bind_of_error hfire, hk h List.mem_cons_self]
      simp only [List.any_cons, hp, Bool.true_or, if_true, Hook.files]
    | false =>
      have hfire : Act.fire n h w = .ok () (w.withFiles (w.system.files.applyAll h.changes)) := by
        unfold Act.fire
        simp only [hp]
        rfl
      rw [Act.bind_of_ok hfire, ih fun x hx => hk x (List.mem_cons_of_mem _ hx)]
      simp only [List.any_cons, hp, Bool.false_or, Hook.files]
      rfl

namespace Runtime

/-- The world when a call has arrived: it is in the trace, and a recorder has let its hooks
change the files. -/
def arrive (r : Runtime) (c : Call) (w : World) : World :=
  match r, c.kind? with
  | .recorder _, some k =>
    (w.recorded c).withFiles (Hook.files w.system.files ((w.recorded c).due k))
  | _, _ => w.recorded c

/-- What a runtime panics with over a call, if it does. -/
def panic? (r : Runtime) (c : Call) (w : World) : Option String :=
  match r, c.kind? with
  | .recorder _, some k =>
    if ((w.recorded c).due k).any (·.panics) then some (k.panicText ((w.recorded c).count k))
    else none
  | _, _ => none

/-- **A call** arrives, and the runtime returns or panics. -/
theorem call_eq (r : Runtime) (c : Call) (w : World) :
    r.call c w =
      match r.panic? c w with
      | none => .ok () (r.arrive c w)
      | some text => .error (.panic text) (r.arrive c w) := by
  have hrec : Act.record c w = .ok () (w.recorded c) := rfl
  unfold call
  rw [Act.bind_of_ok hrec]
  cases r with
  | library p probe => rfl
  | recorder probe =>
    unfold panic? arrive
    cases hk : c.kind? with
    | none => rfl
    | some k =>
      -- all hooks that are due wait for the same kind of call, so any panic has the same text
      have hkind : ∀ h ∈ (w.recorded c).due k, h.kind = k := by
        intro h hh
        exact (of_decide_eq_true (List.mem_filter.mp hh).2).1
      have hfire := Act.fire_forM ((w.recorded c).count k) hkind (w.recorded c)
      show (((w.recorded c).due k).forM (Act.fire ((w.recorded c).count k)) : Act Unit)
        (w.recorded c) = _
      rw [hfire]
      cases hany : ((w.recorded c).due k).any (·.panics) with
      | true => simp only [hany, if_true]; rfl
      | false => simp only [hany, Bool.false_eq_true, if_false]; rfl

section Frame

variable (r : Runtime) (c : Call) (w : World)

@[simp] theorem arrive_calls : (r.arrive c w).calls = w.calls ++ [c] := by
  unfold arrive; split <;> rfl

@[simp] theorem arrive_supply : (r.arrive c w).supply = w.supply := by
  unfold arrive; split <;> rfl

@[simp] theorem arrive_hooks : (r.arrive c w).hooks = w.hooks := by
  unfold arrive; split <;> rfl

@[simp] theorem arrive_logs : (r.arrive c w).logs = w.logs := by
  unfold arrive; split <;> rfl

@[simp] theorem arrive_cycle : (r.arrive c w).cycle = w.cycle := by
  unfold arrive; split <;> rfl

end Frame

/-- The text of a panic tells the call that it came over. -/
theorem panic?_eq_some {r : Runtime} {c : Call} {w : World} {text : String}
    (h : r.panic? c w = some text) :
    ∃ k, c.kind? = some k ∧ text = k.panicText ((w.recorded c).count k) := by
  unfold panic? at h
  split at h
  · rename_i k hk
    split at h
    · exact ⟨k, hk, (Option.some.inj h).symm⟩
    · cases h
  · cases h

/-- A runtime whose hooks do not panic never does. -/
theorem panic?_eq_none (r : Runtime) (c : Call) {w : World}
    (h : ∀ hook ∈ w.hooks, hook.panics = false) : r.panic? c w = none := by
  unfold panic?
  split
  · rw [if_neg]
    rw [Bool.not_eq_true, List.any_eq_false]
    intro hook hmem
    rw [h hook (List.mem_filter.mp hmem).1]
    exact Bool.false_ne_true
  · rfl

end Runtime

end ScriptHost
