import Mathlib.Data.List.Perm.Basic
import ScriptHost.Proofs.Validity

/-!
# What a validation accepts, and what it reports

A validation looks at three fields. Two of them have one rule each; the entry script has
three, and a path that breaks several of them is told by the first. The rules are stated
here on bytes: a path is cut at its slashes, whereas the validation follows the walk that
the path describes and drops empty segments and dots from it. The two agree
(`parent_mem_components_iff`), so a validation accepts exactly the valid configurations.

Any other configuration gets a report, a single text in which the broken rules stand side by
side. To read it back, the text is cut at the semicolons again (`reportParts_intercalate`):
there is one part for each field that breaks a rule, and no other part. Only an entry script
that is not text gets no report, since the report would have to quote it.
-/

namespace ScriptHost

/-! ## The rules -/

/-- The fields that a validation looks at. -/
inductive CheckedField where
  | cycles
  | level
  | entryScript
  deriving DecidableEq

namespace CheckedField

def all : List CheckedField := [.level, .entryScript, .cycles]

/-- The name of a field in reports. -/
def name : CheckedField → String
  | .cycles => "runtime.repeat"
  | .level => "logging.level"
  | .entryScript => "runtime.entry_script"

theorem mem_all (f : CheckedField) : f ∈ all := by cases f <;> decide

end CheckedField

namespace HostConfig

/-- The code of the rule that a configuration breaks with a field, the first one if there are
several. -/
def broken? (c : HostConfig) : CheckedField → Option String
  | .cycles => if c.runtime.cycles.toNat < 1 then some "range" else none
  | .level => if c.logging.level = "" then some "length" else none
  | .entryScript =>
    let p := c.runtime.entryScript
    if p.bytes = [] then some "empty_entry_script"
    else if p.bytes.head? = some slash then some "entry_script_not_relative"
    else if [dot, dot] ∈ p.segments then some "entry_script_escapes_base_dir"
    else none

/-- The part of a report that is about a field. -/
def part? (c : HostConfig) (f : CheckedField) : Option String :=
  (c.broken? f).map fun code => f.name ++ ": " ++ code

/-- A configuration that a host can work from. -/
structure Valid (c : HostConfig) : Prop where
  cycles : 1 ≤ c.runtime.cycles.toNat
  level : c.logging.level ≠ ""
  named : c.runtime.entryScript.bytes ≠ []
  relative : c.runtime.entryScript.bytes.head? ≠ some slash
  inside : [dot, dot] ∉ c.runtime.entryScript.segments

/-- A report can quote the entry script, or does not have to. -/
def Quotable (c : HostConfig) : Prop :=
  c.broken? .entryScript = none ∨ c.runtime.entryScript.text?.isSome

theorem valid_iff {c : HostConfig} : c.Valid ↔ ∀ f, c.broken? f = none := by
  constructor
  · intro h f
    cases f with
    | cycles => exact if_neg (Nat.not_lt.mpr h.cycles)
    | level => exact if_neg h.level
    | entryScript =>
      rw [broken?, if_neg h.named, if_neg h.relative, if_neg h.inside]
  · intro h
    have hcycles := h .cycles
    have hlevel := h .level
    have hentry := h .entryScript
    simp only [broken?, ite_eq_right_iff, reduceCtorEq, imp_false] at hcycles hlevel
    simp only [broken?] at hentry
    split at hentry
    · cases hentry
    next hnamed =>
      split at hentry
      · cases hentry
      next hrelative =>
        split at hentry
        · cases hentry
        next hinside => exact ⟨Nat.not_lt.mp hcycles, hlevel, hnamed, hrelative, hinside⟩

end HostConfig

/-! ## The faults -/

namespace HostConfig

variable {c : HostConfig}

/-- The rule for entry scripts that a path breaks is the one that it breaks by its bytes. -/
theorem broken?_entryScript :
    c.broken? .entryScript = c.runtime.entryScript.entryFault?.map EntryFault.code := by
  simp only [broken?, Path.entryFault?, Path.isAbsolute, decide_eq_true_eq,
    Path.parent_mem_components_iff]
  split
  · rfl
  · split
    · rfl
    · split <;> rfl

theorem broken?_cycles :
    c.broken? .cycles = if c.runtime.cycles = 0 then some "range" else none := by
  rw [broken?]
  simp only [Nat.lt_one_iff, ← UInt32.toNat_inj, UInt32.toNat_zero]

/-- What the faults of a configuration say is what its fields say. -/
theorem messages_faults :
    c.faults.map ConfigFault.message = CheckedField.all.filterMap c.part? := by
  have hlevel : (c.part? .level).toList
      = (if c.logging.level = "" then [ConfigFault.emptyLevel] else []).map
        ConfigFault.message := by
    rw [part?, broken?]
    split <;> decide
  have hentry : (c.part? .entryScript).toList
      = ((c.runtime.entryScript.entryFault?.map ConfigFault.entryScript).toList).map
        ConfigFault.message := by
    rw [part?, broken?_entryScript]
    cases c.runtime.entryScript.entryFault? with
    | none => rfl
    | some fault => cases fault <;> decide
  have hcycles : (c.part? .cycles).toList
      = (if c.runtime.cycles = 0 then [ConfigFault.noCycle] else []).map ConfigFault.message := by
    rw [part?, broken?_cycles]
    split <;> decide
  rw [faults, List.map_append, List.map_append, ← hlevel, ← hentry, ← hcycles, CheckedField.all,
    List.filterMap_eq_flatMap_toList, List.flatMap_cons, List.flatMap_cons, List.flatMap_cons,
    List.flatMap_nil, List.append_nil, List.append_assoc]

end HostConfig

/-! ## Reading a report -/

/-- What stands between the semicolons of a text, where a blank follows each of them. -/
def semicolonParts : List Char → List (List Char)
  | ';' :: ' ' :: cs => [] :: semicolonParts cs
  | c :: cs =>
    match semicolonParts cs with
    | [] => [[c]]
    | p :: ps => (c :: p) :: ps
  | [] => [[]]

def reportParts (report : String) : List String :=
  (semicolonParts report.toList).map String.ofList

theorem semicolonParts_cons {c : Char} {cs p : List Char} {ps : List (List Char)} (hc : c ≠ ';')
    (h : semicolonParts cs = p :: ps) : semicolonParts (c :: cs) = (c :: p) :: ps := by
  rw [semicolonParts, h]
  intro rest heq
  exact absurd heq hc

theorem semicolonParts_append {cs p : List Char} {ps : List (List Char)} {rest : List Char}
    (hcs : ';' ∉ cs) (h : semicolonParts rest = p :: ps) :
    semicolonParts (cs ++ rest) = (cs ++ p) :: ps := by
  induction cs with
  | nil => exact h
  | cons c cs ih =>
    rw [List.mem_cons, not_or] at hcs
    exact semicolonParts_cons (Ne.symm hcs.1) (ih hcs.2)

/-- **A report is read back** as the texts that it was put together from. -/
theorem reportParts_intercalate {texts : List String} (hne : texts ≠ [])
    (h : ∀ t ∈ texts, ';' ∉ t.toList) : reportParts ("; ".intercalate texts) = texts := by
  suffices semicolonParts ("; ".intercalate texts).toList = texts.map String.toList by
    rw [reportParts, this, List.map_map]
    exact (List.map_congr_left fun t _ => String.ofList_toList).trans (List.map_id texts)
  induction texts with
  | nil => exact absurd rfl hne
  | cons t texts ih =>
    have ht := h t List.mem_cons_self
    cases texts with
    | nil =>
      have hlast : semicolonParts (t.toList ++ []) = [t.toList ++ []] :=
        semicolonParts_append ht rfl
      rw [List.append_nil] at hlast
      rw [String.intercalate_singleton]
      exact hlast
    | cons u texts =>
      have hrest := ih (List.cons_ne_nil _ _) fun t ht => h t (List.mem_cons_of_mem _ ht)
      have hbreak : semicolonParts (';' :: ' ' :: ("; ".intercalate (u :: texts)).toList)
          = [] :: (u :: texts).map String.toList := by
        rw [semicolonParts, hrest]
      have happend := semicolonParts_append ht hbreak
      rw [List.append_nil] at happend
      rw [String.intercalate_cons_cons, String.toList_append, String.toList_append,
        List.append_assoc]
      exact happend

namespace HostConfig

variable {c : HostConfig}

/-- No part has a semicolon of its own. -/
theorem semicolon_notMem_message (fault : ConfigFault) : ';' ∉ fault.message.toList := by
  cases fault with
  | entryScript fault => cases fault <;> decide
  | _ => decide

/-- Faults that are reported can be read off the report. -/
theorem reportParts_faults (hne : c.faults ≠ []) :
    reportParts ("; ".intercalate (c.faults.map ConfigFault.message))
      = c.faults.map ConfigFault.message := by
  refine reportParts_intercalate (by simpa using hne) fun t ht => ?_
  obtain ⟨fault, _, rfl⟩ := List.mem_map.mp ht
  exact semicolon_notMem_message fault

theorem faults_eq_nil_iff : c.faults = [] ↔ c.Valid := by
  rw [valid_iff, ← List.map_eq_nil_iff (f := ConfigFault.message), messages_faults,
    List.filterMap_eq_nil_iff]
  constructor
  · intro h f
    simpa [part?] using h f f.mem_all
  · intro h f _
    rw [part?, h f, Option.map_none]

theorem quotable_iff :
    c.Quotable ↔ ¬ (c.runtime.entryScript.entryFault?.isSome
      ∧ c.runtime.entryScript.text? = none) := by
  rw [Quotable, broken?_entryScript, Option.map_eq_none_iff]
  cases c.runtime.entryScript.entryFault? <;> cases c.runtime.entryScript.text? <;> simp

/-- **A validation is exact.** It accepts the valid configurations and no other. The report on any
other, cut at its semicolons, has one part for each field that breaks a rule, with the first rule
that the field breaks, and nothing else. There is no report, but a panic, if it would have to quote
an entry script that is not text. -/
theorem validate_exact (c : HostConfig) :
    (c.validate = .ok () ↔ c.Valid)
      ∧ (c.Quotable → ¬ c.Valid → ∃ reason, c.validate = .error (.failure (.config reason))
        ∧ (reportParts reason).Perm (CheckedField.all.filterMap c.part?))
      ∧ (¬ c.Quotable → c.validate = .error (.panic unquotablePanic)) := by
  unfold validate
  by_cases hquotable : c.Quotable
  · rw [if_neg (quotable_iff.mp hquotable)]
    refine ⟨?_, fun _ hinvalid => ?_, fun h => absurd hquotable h⟩
    · rw [← faults_eq_nil_iff]
      cases c.faults <;> simp
    · have hne : c.faults ≠ [] := fun hnil => hinvalid (faults_eq_nil_iff.mp hnil)
      refine ⟨"; ".intercalate (c.faults.map ConfigFault.message), ?_, ?_⟩
      · cases hfaults : c.faults with
        | nil => exact absurd hfaults hne
        | cons fault faults => rfl
      · rw [reportParts_faults hne, messages_faults]
  · have hpanics := not_not.mp (mt quotable_iff.mpr hquotable)
    rw [if_pos hpanics]
    refine ⟨⟨nofun, fun hvalid => absurd (.inl (valid_iff.mp hvalid .entryScript)) hquotable⟩,
      fun h => absurd h hquotable, fun _ => rfl⟩

/-- Every field breaks a rule, and the entry script breaks two of its own. -/
def hopeless : HostConfig :=
  { runtime := { entryScript := .ofString "/../x.js", cycles := 0 }, logging := { level := "" } }

/-- Each of them is reported once. -/
theorem hopeless_exact :
    hopeless.Quotable ∧ ¬ hopeless.Valid
      ∧ ∃ reason, hopeless.validate = .error (.failure (.config reason))
        ∧ (reportParts reason).Perm ["logging.level: length",
          "runtime.entry_script: entry_script_not_relative", "runtime.repeat: range"] := by
  have hquotable : hopeless.Quotable := .inr (by decide +kernel)
  have hinvalid : ¬ hopeless.Valid := fun h => absurd h.level (by decide)
  obtain ⟨reason, hreport, hparts⟩ := (validate_exact hopeless).2.1 hquotable hinvalid
  refine ⟨hquotable, hinvalid, reason, hreport, ?_⟩
  have hall : CheckedField.all.filterMap hopeless.part? = ["logging.level: length",
      "runtime.entry_script: entry_script_not_relative", "runtime.repeat: range"] := by
    decide +kernel
  rw [← hall]
  exact hparts

/-- Not every configuration that breaks a rule gets a report. -/
theorem unquotable_entryScript :
    ¬ ∀ c : HostConfig, ¬ c.Valid →
      ∃ reason, c.validate = .error (.failure (.config reason)) := by
  intro hclaim
  have hinvalid : ¬ Valid { runtime := { entryScript := ⟨[slash, 0xFF]⟩ } } :=
    fun h => absurd rfl h.relative
  obtain ⟨reason, hreport⟩ := hclaim _ hinvalid
  have hpanics : HostConfig.validate { runtime := { entryScript := ⟨[slash, 0xFF]⟩ } }
      = .error (.panic unquotablePanic) := by
    decide +kernel
  rw [hpanics] at hreport
  cases hreport

end HostConfig

end ScriptHost
