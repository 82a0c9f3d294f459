import Mathlib
import ScriptHost.Proofs.LineBreaks
import ScriptHost.Proofs.Phases

/-!
# What a failure brings a line break from

Most failures are one line whatever the world has in it, because their reasons are fixed
texts and numbers. The one thing that gets through is the path that a failure names, which
is shown as it is: such a failure is plain (`HostError.Plain`).

Whatever the operations fail with is plain. For those that are put together from others
there is nothing to look at but the parts (`Act.plain_bind`), so every function has its own
lemma, up to the commands of the program.
-/

namespace ScriptHost

/-! ## Reasons -/

theorem FileFault.not_breaks_message (fault : FileFault) : ¬ Breaks fault.message := by
  cases fault with
  | system e => cases e <;> decide +kernel
  | nulInPath => decide +kernel

theorem Utf8.Fault.not_breaks_message (fault : Utf8.Fault) : ¬ Breaks fault.message := by
  have hfixed : ∀ s ∈ ["invalid utf-8 sequence of ", " bytes from index ",
      "incomplete utf-8 byte sequence from index "], ¬ Breaks s := by decide +kernel
  simp only [List.forall_mem_cons] at hfixed
  obtain ⟨validUpTo, length⟩ := fault
  cases length with
  | none =>
    show ¬ Breaks ("incomplete utf-8 byte sequence from index " ++ toString validUpTo)
    simp only [breaks_append, hfixed, not_breaks_nat, or_self, not_false_eq_true]
  | some n =>
    show ¬ Breaks ("invalid utf-8 sequence of " ++ toString n ++ " bytes from index "
      ++ toString validUpTo)
    simp only [breaks_append, hfixed, not_breaks_nat, or_self, not_false_eq_true]

/-- A failure that was given no line breaks but those of the path that it names. -/
def HostError.Plain (e : HostError) : Prop :=
  Breaks e.given → ∃ p, e.path? = some p ∧ p.HasBreak

theorem HostError.plain_of_not_breaks {e : HostError} (h : ¬ Breaks e.given) : e.Plain :=
  fun hbreaks => absurd hbreaks h

theorem HostError.Plain.breaks_diagnostic_iff {e : HostError} (h : e.Plain) :
    Breaks e.diagnostic ↔ ∃ p, e.path? = some p ∧ p.HasBreak := by
  rw [breaks_diagnostic]
  exact or_iff_left_of_imp h

section Reasons

variable {s : System} {p : Path} {c : HostConfig} {e : HostError}

theorem plain_of_resolveBaseDir (h : s.resolveBaseDir p = .error e) : e.Plain := by
  unfold System.resolveBaseDir at h
  split at h
  next fault _ =>
    cases h
    exact HostError.plain_of_not_breaks (FileFault.not_breaks_message fault)
  next =>
    split at h <;> cases h
    have hfixed : ¬ Breaks "not a directory" := by decide
    exact HostError.plain_of_not_breaks hfixed

theorem plain_of_baseDir (h : s.baseDir c = .error e) : e.Plain := by
  unfold System.baseDir at h
  split at h
  · exact plain_of_resolveBaseDir h
  · split at h <;> exact plain_of_resolveBaseDir h

/-- The loader names the path, too. -/
theorem hasBreak_of_loadObject {reason : String} (h : s.loadObject p = .error reason)
    (hbreaks : Breaks reason) : p.HasBreak := by
  have htext : ∀ e : Errno, ¬ Breaks e.text := by
    intro e
    cases e <;> decide +kernel
  have hfixed : ∀ s ∈ ["could not create a C string from bytes",
      ": cannot open shared object file: ", ": cannot read file data: ", ": file too short",
      ": invalid ELF header"], ¬ Breaks s := by decide +kernel
  simp only [List.forall_mem_cons] at hfixed
  -- the path stands in front of fixed text, or does not stand there at all
  have hshown : ∀ text, ¬ Breaks text → reason = p.display ++ text → p.HasBreak := by
    rintro text htext rfl
    rw [breaks_append] at hbreaks
    exact p.breaks_display.mp (hbreaks.resolve_right htext)
  have hopen : ∀ e : Errno, reason = p.display ++ (": cannot open shared object file: " ++ e.text) →
      p.HasBreak := fun e => hshown _ (by simp [hfixed, htext])
  unfold System.loadObject at h
  split at h
  next => cases h; exact absurd hbreaks hfixed.1
  next =>
    dsimp only at h
    split at h
    next =>
      split at h
      next => cases h
      next =>
        cases h
        exact hshown (": cannot read file data: " ++ Errno.isDirectory.text)
          (by simp [hfixed, htext]) String.append_assoc
      next =>
        split at h
        next => cases h; exact hshown ": file too short" (by simp [hfixed]) rfl
        next => cases h; exact hshown ": invalid ELF header" (by simp [hfixed]) rfl
      next => cases h; exact hopen _ String.append_assoc
      next e _ => cases h; exact hopen e String.append_assoc
      next => cases h; exact absurd hbreaks hfixed.1
    next =>
      split at h
      next => cases h
      next => cases h; exact hopen _ String.append_assoc

theorem plain_of_openRuntime (h : s.openRuntime p = .error e) : e.Plain := by
  unfold System.openRuntime at h
  split at h
  next reason hload =>
    cases h
    exact fun hbreaks => ⟨p, rfl, hasBreak_of_loadObject hload hbreaks⟩
  next =>
    split at h <;> cases h
    next missing _ =>
      refine HostError.plain_of_not_breaks ?_
      show ¬ Breaks missing.name
      cases missing <;> decide

theorem plain_of_ofFile (h : EntryScript.ofFile s p = .error e) : e.Plain := by
  unfold EntryScript.ofFile at h
  split at h
  next fault _ =>
    cases h
    exact HostError.plain_of_not_breaks (FileFault.not_breaks_message fault)
  next =>
    split at h <;> cases h
    next fault _ =>
      refine HostError.plain_of_not_breaks ?_
      show ¬ Breaks ("not valid UTF-8: " ++ fault.message)
      rw [breaks_append, not_or]
      exact ⟨by decide, fault.not_breaks_message⟩

end Reasons

/-! ## Operations -/

/-- An operation whose failures are plain. -/
def Act.Plain {α : Type} (x : Act α) : Prop :=
  ∀ w e w', x w = .error (.failure e) w' → e.Plain

namespace Act

variable {α β : Type} {x : Act α} {f : α → Act β}

theorem plain_pure (a : α) : Act.Plain (pure a : Act α) := by
  intro w e w' h
  cases h

theorem plain_log (event : Event) : Act.Plain (Act.log event) := by
  intro w e w' h
  cases h

/-- What comes first may fail, and so may what it is followed by. -/
theorem plain_bind (hx : Act.Plain x) (hf : ∀ a, Act.Plain (f a)) : Act.Plain (x >>= f) := by
  intro w e w' h
  cases hend : x w with
  | ok a w₁ =>
    rw [bind_of_ok hend] at h
    exact hf a _ _ _ h
  | error stop w₁ =>
    rw [bind_of_error hend] at h
    cases h
    exact hx _ _ _ hend

theorem plain_observe {g : System → Except HostError α} (h : ∀ s e, g s = .error e → e.Plain) :
    Act.Plain (Act.observe g) := by
  intro w e w' hend
  rw [observe_eq] at hend
  split at hend <;> cases hend
  next hg => exact h _ _ hg

end Act

theorem Runtime.plain_load (p : Path) : Act.Plain (Runtime.load p) := by
  intro w e w' h
  obtain ⟨_, _, _, hload⟩ := Runtime.load_eq p w
  split at hload
  next hopen =>
    rw [hload] at h
    cases h
    exact plain_of_openRuntime hopen
  next => rw [hload.1] at h; cases h

/-- A call panics if it does not return. -/
theorem Runtime.plain_call (r : Runtime) (c : Call) : Act.Plain (r.call c) := by
  intro w e w' h
  rw [Runtime.call_eq] at h
  split at h <;> cases h

theorem Runtime.plain_hello (r : Runtime) : Act.Plain r.hello := by
  have hfail : Act.Plain (Act.fail (.missingSymbol Symbol.hello.name) : Act Unit) := by
    intro w e w' h
    cases h
    have hname : ¬ Breaks Symbol.hello.name := by decide
    exact HostError.plain_of_not_breaks hname
  cases r with
  | recorder probe =>
    refine Act.plain_bind (Runtime.plain_call (.recorder probe) .hello) fun _ => ?_
    cases probe with
    | true => exact Act.plain_pure ()
    | false => exact hfail
  | library path probe =>
    cases probe with
    | true => exact Runtime.plain_call (.library path true) .hello
    | false => exact hfail

namespace Host

/-- What one cycle fails with. -/
theorem plain_runOnce (h : Host) (n : Nat) : Act.Plain (h.runOnce n) := by
  have hnothing : ¬ Breaks "" := by decide
  have hnames : ¬ Breaks baseDirectoryText ∧ ¬ Breaks entryScriptText := by decide
  intro w e w' hrun
  have hcycle := h.runOnce_cases n w
  rw [hrun] at hcycle
  cases hcycle with
  | notStarted hstart =>
    cases hstart with
    | notText _ => exact HostError.plain_of_not_breaks hnothing
    | nul _ => exact HostError.plain_of_not_breaks hnames.1
    | refused _ => exact HostError.plain_of_not_breaks hnothing
  | refused _ hrefuses _ =>
    cases hrefuses with
    | unreadable hfile => exact plain_of_ofFile hfile
    | nul _ => exact HostError.plain_of_not_breaks hnames.2

/-- What a run fails with, by induction on the cycles that are left. -/
theorem plain_runFrom (h : Host) (count first : Nat) : Act.Plain (h.runFrom first count) := by
  induction count generalizing first with
  | zero => exact Act.plain_pure []
  | succ count ih =>
    exact Act.plain_bind (h.plain_runOnce first) fun _ =>
      Act.plain_bind (ih (first + 1)) fun _ => Act.plain_pure _

theorem plain_new (r : Runtime) (base entry : Path) : Act.Plain (Host.new r base entry) :=
  Act.plain_bind (Act.plain_observe fun _ _ => plain_of_resolveBaseDir) fun _ => Act.plain_pure _

theorem plain_probe (h : Host) : Act.Plain h.probe :=
  Act.plain_bind h.runtime.plain_hello fun _ => Act.plain_log _

end Host

theorem plain_runWith (r : Runtime) (base : Path) (c : HostConfig) :
    Act.Plain (runWith r base c) :=
  Act.plain_bind (Host.plain_new r base _) fun host =>
    Act.plain_bind (Act.plain_log _) fun _ => host.plain_runFrom _ 1

theorem HostConfig.plain_of_toToml {c : HostConfig} {e : HostError} (h : c.toToml = .error e) :
    e.Plain := by
  unfold toToml at h
  split at h <;> cases h
  have hreason : ¬ Breaks unwritablePath.given := by decide
  exact HostError.plain_of_not_breaks hreason

theorem ConfigFault.not_breaks_message (fault : ConfigFault) : ¬ Breaks fault.message := by
  cases fault with
  | emptyLevel => decide
  | entryScript fault => cases fault <;> decide
  | noCycle => decide

theorem HostConfig.plain_of_validate {c : HostConfig} {e : HostError}
    (h : c.validate = .error (.failure e)) : e.Plain := by
  unfold validate at h
  split at h
  · cases h
  · split at h <;> cases h
    refine HostError.plain_of_not_breaks (not_breaks_intercalate (by decide) fun t ht => ?_)
    obtain ⟨fault, _, rfl⟩ := List.mem_map.mp ht
    exact fault.not_breaks_message

/-- What a command of the program fails with. -/
theorem Program.plain_perform (cl : CommandLine) (c : HostConfig) :
    Act.Plain (Program.perform cl c) := by
  have hprepare : ∀ {β : Type} (body : Path → Runtime → Act β),
      (∀ base r, Act.Plain (body base r)) →
      Act.Plain (Act.observe (fun s => s.baseDir c) >>= fun base =>
        Runtime.load (c.runtime.libraryPath base) >>= body base) := fun body hbody =>
    Act.plain_bind (Act.plain_observe fun _ _ => plain_of_baseDir) fun base =>
      Act.plain_bind (Runtime.plain_load _) (hbody base)
  unfold Program.perform
  cases cl.effective with
  | run entry cycles =>
    exact Act.plain_bind (hprepare (fun base r => runWith r base c) fun base r =>
        plain_runWith r base c) fun _ => Act.plain_bind (Act.plain_log _) fun _ => Act.plain_pure _
  | probe =>
    exact hprepare (fun base r => r.hello >>= fun _ =>
        pure ((c.runtime.libraryPath base).display ++ ": ok\n")) fun base r =>
      Act.plain_bind r.plain_hello fun _ => Act.plain_pure _
  | config =>
    intro w e w' h
    cases hshow : c.toToml with
    | ok text =>
      rw [showConfig, hshow] at h
      cases h
    | error e₁ =>
      rw [showConfig, hshow] at h
      cases h
      exact HostConfig.plain_of_toToml hshow

end ScriptHost
