import Mathlib
import ScriptHost.Proofs.ConfigRoundTrip
import ScriptHost.Proofs.PlainFailures

/-!
# What divides the report of a configuration

A configuration that cannot be loaded has more to show than a path. The values that do not
fit are quoted, but not the name of an unknown format; the path of the file stands at the
end; and a file that is no text, or no TOML, is always reported on several lines
(`Divides`). There is nothing else that could divide the report (`breaks_of_loadConfig`).
-/

namespace ScriptHost

open Settings

namespace Settings

/-! ## What does not fit -/

/-- A misfit that shows nothing as it stands, unless it is the name of an unknown variant. -/
def Misfit.Plain : Misfit → Prop
  | .wrongType found expected | .wrongValue found expected => ¬ Breaks found ∧ ¬ Breaks expected
  | .unknownVariant _ => True

theorem Scalar.not_breaks_describe (x : Scalar) : ¬ Breaks x.describe := by
  have hfixed : ∀ s ∈ ["signed int `", "unsigned int `", "float `", "string ", "`"],
      ¬ Breaks s := by decide +kernel
  simp only [List.forall_mem_cons] at hfixed
  cases x with
  | boolean b => cases b <;> decide
  | signed n =>
    show ¬ Breaks ("signed int `" ++ toString n ++ "`")
    simp only [breaks_append, hfixed, not_breaks_int, or_self, not_false_eq_true]
  | unsigned n =>
    show ¬ Breaks ("unsigned int `" ++ toString n ++ "`")
    simp only [breaks_append, hfixed, not_breaks_nat, or_self, not_false_eq_true]
  | float x =>
    show ¬ Breaks ("float `" ++ x.display ++ "`")
    simp only [breaks_append, hfixed, x.not_breaks_display, or_self, not_false_eq_true]
  | character c =>
    show ¬ Breaks ("string " ++ Text.quoted _)
    simp only [breaks_append, hfixed, Text.not_breaks_quoted, or_self, not_false_eq_true]
  | text s =>
    show ¬ Breaks ("string " ++ Text.quoted s)
    simp only [breaks_append, hfixed, Text.not_breaks_quoted, or_self, not_false_eq_true]

theorem Value.not_breaks_describe (v : Value) : ¬ Breaks v.describe := by
  cases v with
  | scalar s x => exact x.not_breaks_describe
  | list s items =>
    show ¬ Breaks "sequence"
    decide
  | dict s entries =>
    show ¬ Breaks "map"
    decide

section Problems

variable {v : Value} {keys : List String} {problem : Problem} {expected : String}

theorem plain_mistyped (h : ¬ Breaks expected) : (v.mistyped keys expected).misfit.Plain :=
  ⟨v.not_breaks_describe, h⟩

theorem plain_of_extractText (hexpected : ¬ Breaks expected)
    (h : extractText expected keys v = .error problem) : problem.misfit.Plain := by
  unfold extractText at h
  split at h <;> cases h
  exact plain_mistyped hexpected

theorem plain_of_extractPath (h : extractPath keys v = .error problem) :
    problem.misfit.Plain :=
  plain_of_extractText (by decide) (map_eq_error_iff.mp h)

theorem plain_of_extractCount (h : extractCount keys v = .error problem) :
    problem.misfit.Plain := by
  have hexpected : ¬ Breaks "u32" := by decide
  unfold extractCount at h
  dsimp only at h
  split at h
  · split at h <;> cases h
    exact ⟨Value.not_breaks_describe _, hexpected⟩
  · split at h <;> cases h
    exact ⟨Value.not_breaks_describe _, hexpected⟩
  · cases h
    exact plain_mistyped hexpected

theorem plain_of_extractFormat (h : extractFormat keys v = .error problem) :
    problem.misfit.Plain := by
  unfold extractFormat at h
  split at h
  · split at h <;> cases h
    exact trivial
  · cases h
    exact plain_mistyped (by decide)
  · split at h <;> cases h
    · exact plain_mistyped (by decide)
    · exact trivial
  · cases h
    exact plain_mistyped (by decide)

/-- What a fold fails with is what one of its steps fails with. -/
theorem foldlM_fails {ε α β : Type} {step : α → β → Except ε α} (fails : ε → Prop)
    (hstep : ∀ a x e, step a x = .error e → fails e) {xs : List β} {a : α} {e : ε}
    (h : xs.foldlM step a = .error e) : fails e := by
  induction xs generalizing a with
  | nil => cases h
  | cons x xs ih =>
    rw [List.foldlM_cons] at h
    cases hx : step a x with
    | error e₁ =>
      rw [hx] at h
      cases h
      exact hstep _ _ _ hx
    | ok b =>
      rw [hx] at h
      exact ih h

theorem plain_of_setRuntimeField {r : RuntimeSection} {field : String}
    (h : setRuntimeField r field keys v = .error problem) : problem.misfit.Plain := by
  unfold setRuntimeField at h
  split at h
  · exact plain_of_extractPath (map_eq_error_iff.mp h)
  split at h
  · exact plain_of_extractPath (map_eq_error_iff.mp h)
  split at h
  · exact plain_of_extractPath (map_eq_error_iff.mp h)
  split at h
  · exact plain_of_extractCount (map_eq_error_iff.mp h)
  · cases h

theorem plain_of_setLoggingField {l : LoggingSection} {field : String}
    (h : setLoggingField l field keys v = .error problem) : problem.misfit.Plain := by
  unfold setLoggingField at h
  split at h
  · exact plain_of_extractText (by decide) (map_eq_error_iff.mp h)
  split at h
  · exact plain_of_extractFormat (map_eq_error_iff.mp h)
  · cases h

theorem plain_of_extractSection {α : Type} {fields : List String}
    {set : α → String → List String → Value → Except Problem α} {default : α}
    (hexpected : ¬ Breaks expected)
    (hset : ∀ a field keys v p, set a field keys v = .error p → p.misfit.Plain)
    (h : extractSection fields expected set default keys v = .error problem) :
    problem.misfit.Plain := by
  unfold extractSection at h
  split at h
  · exact foldlM_fails _ (fun _ _ _ => hset _ _ _ _ _) h
  · exact foldlM_fails _ (fun _ _ _ => hset _ _ _ _ _) h
  · cases h
    exact plain_mistyped hexpected

/-- **What does not fit** is quoted, or is the name of an unknown variant. -/
theorem plain_of_extract {d : Dict} (h : extract d = .error problem) : problem.misfit.Plain := by
  refine foldlM_fails (fun p => p.misfit.Plain) (fun c e p hstep => ?_) h
  unfold setSection at hstep
  split at hstep
  · exact plain_of_extractSection (by decide) (fun _ _ _ _ _ => plain_of_setLoggingField)
      (map_eq_error_iff.mp hstep)
  split at hstep
  · exact plain_of_extractSection (by decide) (fun _ _ _ _ _ => plain_of_setRuntimeField)
      (map_eq_error_iff.mp hstep)
  · cases hstep

theorem Misfit.Plain.breaks_message_iff {m : Misfit} (h : m.Plain) :
    Breaks m.message ↔ ∃ name, m = .unknownVariant name ∧ Breaks name := by
  have hfixed : ∀ s ∈ ["invalid type: found ", "invalid value ", ", expected ",
      "unknown variant: found `", "`, expected ``pretty` or `json``"], ¬ Breaks s := by
    decide +kernel
  simp only [List.forall_mem_cons] at hfixed
  cases m with
  | wrongType found expected =>
    show Breaks ("invalid type: found " ++ found ++ ", expected " ++ expected) ↔ _
    simp [hfixed, h.1, h.2]
  | wrongValue found expected =>
    show Breaks ("invalid value " ++ found ++ ", expected " ++ expected) ↔ _
    simp [hfixed, h.1, h.2]
  | unknownVariant name =>
    show Breaks ("unknown variant: found `" ++ name ++ "`, expected ``pretty` or `json``") ↔ _
    simp [hfixed]

theorem Source.breaks_origin (s : Source) :
    Breaks s.origin ↔ ∃ shown, s = .file shown ∧ shown.HasBreak := by
  have hfixed : ∀ s ∈ ["", " in ", " TOML file", " in `NSHOST_` environment variable(s)"],
      ¬ Breaks s := by decide +kernel
  simp only [List.forall_mem_cons] at hfixed
  cases s with
  | builtin => simp [origin, hfixed]
  | environment => simp [origin, hfixed]
  | file shown =>
    show Breaks (" in " ++ shown.display ++ " TOML file") ↔ _
    simp [hfixed]

/-- **The report of a value that does not fit.** Its keys are quoted, its path is not. -/
theorem breaks_problem (h : problem.misfit.Plain) :
    Breaks problem.message ↔ (∃ name, problem.misfit = .unknownVariant name ∧ Breaks name)
      ∨ ∃ shown, problem.source = .file shown ∧ shown.HasBreak := by
  have hkeys : ¬ Breaks (if problem.keys = [] then ""
      else " for key " ++ Text.quoted (problem.source.keyText problem.keys)) := by
    have hfixed : ¬ Breaks "" ∧ ¬ Breaks " for key " := by decide
    split
    · exact hfixed.1
    · rw [breaks_append, not_or]
      exact ⟨hfixed.2, Text.not_breaks_quoted _⟩
  rw [Problem.message, breaks_append, breaks_append, or_iff_left hkeys, h.breaks_message_iff,
    Source.breaks_origin]

end Problems

/-! ## Loading -/

/-- A file with the given content has no settings: it is no text, or it is no TOML. -/
inductive NoSettings : Bytes → Prop where
  | notText {content : Bytes} : ¬ Utf8.WellFormed content → NoSettings content
  | notToml {t : String} : Toml.read? t.toList = none → NoSettings (bytesOf t)

/-- Why the report of a configuration that cannot be loaded takes more than one line. -/
inductive Divides (s : System) (file : Option Path) : Prop where
  /-- The file has no settings. -/
  | noSettings {p : Path} {content : Bytes} : file = some p → Found s p content →
      NoSettings content → Divides s file
  /-- A format is asked for that there is not, by a name of several lines. -/
  | format {d : Dict} {problem : Problem} {name : String} : layered s file = .ok d →
      extract d = .error problem → problem.misfit = .unknownVariant name → Breaks name →
      Divides s file
  /-- Something in the file does not fit, and the path of the file has a line break. -/
  | origin {d : Dict} {problem : Problem} {shown : Path} : layered s file = .ok d →
      extract d = .error problem → problem.source = .file shown → shown.HasBreak →
      Divides s file

variable {s : System} {file : Option Path} {e : HostError}

theorem breaks_fileReport (fault : String) (shown : Path) : Breaks (fileReport fault shown) := by
  have hbreak : Breaks "\n in " := by decide +kernel
  rw [fileReport, breaks_append, breaks_append, breaks_append]
  exact .inl (.inl (.inr hbreak))

/-- Only a file without settings has no layer, and its report is divided. -/
theorem readLayer_eq_error {shown : Path} {content : Bytes}
    (h : readLayer shown content = .error e) : NoSettings content ∧ Breaks e.given := by
  unfold readLayer at h
  split at h
  next fault hdecode =>
    cases h
    refine ⟨.notText ?_, breaks_fileReport _ shown⟩
    rintro ⟨cs, rfl⟩
    rw [Utf8.decode_encode] at hdecode
    cases hdecode
  next cs hdecode =>
    split at h
    next hread =>
      cases h
      have hcontent : bytesOf (String.ofList cs) = content := by
        rw [bytesOf, String.toList_ofList, Utf8.encode_of_decode hdecode]
      rw [← String.toList_ofList (l := cs)] at hread
      exact ⟨hcontent ▸ .notToml hread, breaks_fileReport _ shown⟩
    next => cases h

/-- A file that has a layer has settings. -/
theorem not_noSettings_of_readLayer {shown : Path} {content : Bytes} {d : Dict}
    (h : readLayer shown content = .ok d) : ¬ NoSettings content := by
  unfold readLayer at h
  split at h
  next => cases h
  next cs hdecode =>
    split at h
    next => cases h
    next t hread =>
      intro hno
      cases hno with
      | notText hw => exact hw ⟨cs, Utf8.encode_of_decode hdecode⟩
      | @notToml text hnone =>
        rw [bytesOf, Utf8.decode_encode] at hdecode
        cases hdecode
        rw [hread] at hnone
        cases hnone

/-- A file that is no layer is reported on several lines if it was found and has no settings. -/
theorem breaks_of_fileLayer {p : Path} (h : fileLayer s p = .error e) :
    Breaks e.diagnostic ↔ ∃ content, Found s p content ∧ NoSettings content := by
  rw [HostError.breaks_diagnostic]
  unfold fileLayer at h
  split at h
  next => cases h
  next found hfind =>
    split at h
    next fault hread =>
      -- it cannot be read at all
      cases h
      constructor
      · rintro (⟨_, hpath, _⟩ | hbreaks)
        · cases hpath
        · exact absurd hbreaks fault.not_breaks_message
      · rintro ⟨content, ⟨found', hfind', hcontent⟩, _⟩
        rw [hfind] at hfind'
        cases hfind'
        rw [hread] at hcontent
        cases hcontent
    next content hread =>
      obtain ⟨hno, hbreaks⟩ := readLayer_eq_error h
      exact iff_of_true (.inr hbreaks) ⟨content, ⟨found, hfind, hread⟩, hno⟩

/-- Where there are layers, the file among them has settings. -/
theorem not_noSettings_of_layered {d : Dict} {p : Path} {content : Bytes}
    (h : layered s (some p) = .ok d) (hfound : Found s p content) : ¬ NoSettings content := by
  obtain ⟨_, _, hlayer, _⟩ := layered_eq_ok_iff.mp h
  obtain ⟨shown, heq⟩ := fileLayer_of_found hfound
  rw [heq] at hlayer
  exact not_noSettings_of_readLayer hlayer

/-- Where there are layers, only what does not fit divides a report. -/
theorem divides_iff_of_layered {d : Dict} (h : layered s file = .ok d) :
    Divides s file ↔ ∃ problem, extract d = .error problem ∧ Breaks problem.message := by
  constructor
  · intro hdivides
    cases hdivides with
    | noSettings hfile hfound hno =>
      subst hfile
      exact absurd hno (not_noSettings_of_layered h hfound)
    | @format _ problem name hd hproblem hname hbreaks =>
      cases h.symm.trans hd
      exact ⟨problem, hproblem, (breaks_problem (plain_of_extract hproblem)).mpr
        (.inl ⟨name, hname, hbreaks⟩)⟩
    | @origin _ problem shown hd hproblem hsource hbreaks =>
      cases h.symm.trans hd
      exact ⟨problem, hproblem, (breaks_problem (plain_of_extract hproblem)).mpr
        (.inr ⟨shown, hsource, hbreaks⟩)⟩
  · rintro ⟨problem, hproblem, hbreaks⟩
    rcases (breaks_problem (plain_of_extract hproblem)).mp hbreaks with
      ⟨name, hname, hbreaks⟩ | ⟨shown, hsource, hbreaks⟩
    · exact .format h hproblem hname hbreaks
    · exact .origin h hproblem hsource hbreaks

/-- Where a configuration comes out, nothing of the layers is in the way. -/
theorem not_divides_of_extract {d : Dict} {c : HostConfig} (hlayered : layered s file = .ok d)
    (hextract : extract d = .ok c) : ¬ Divides s file := by
  rw [divides_iff_of_layered hlayered]
  rintro ⟨problem, hproblem, _⟩
  cases hextract.symm.trans hproblem

theorem breaks_config (reason : String) :
    Breaks (HostError.config reason).diagnostic ↔ Breaks reason := by
  rw [HostError.breaks_diagnostic, HostError.given]
  refine or_iff_right ?_
  rintro ⟨_, hpath, _⟩
  cases hpath

theorem not_breaks_of_validate {c : HostConfig} (h : c.validate = .error (.failure e)) :
    ¬ Breaks e.diagnostic := by
  rw [(HostConfig.plain_of_validate h).breaks_diagnostic_iff]
  rintro ⟨p, hpath, _⟩
  unfold HostConfig.validate at h
  split at h
  · cases h
  · split at h <;> cases h
    cases hpath

/-- **The report of a configuration that cannot be loaded.** -/
theorem breaks_of_loadConfig (h : loadConfig s file = .error (.failure e)) :
    Breaks e.diagnostic ↔ Divides s file := by
  unfold loadConfig at h
  split at h
  next stop hlayered =>
    cases h
    unfold layered at hlayered
    split at hlayered
    next => cases hlayered
    next overlay hvars =>
      split at hlayered
      next => cases hlayered
      next p =>
        split at hlayered <;> cases hlayered
        next hfile =>
          -- there are no layers, so nothing of them can be wrong
          have hlayers : ∀ d, layered s (some p) ≠ .ok d := by
            intro d hd
            obtain ⟨_, _, hlayer, _⟩ := layered_eq_ok_iff.mp hd
            rw [hfile] at hlayer
            cases hlayer
          rw [breaks_of_fileLayer hfile]
          constructor
          · rintro ⟨content, hfound, hno⟩
            exact .noSettings rfl hfound hno
          · intro hdivides
            cases hdivides with
            | noSettings heq hfound hno => cases heq; exact ⟨_, hfound, hno⟩
            | format hd => exact absurd hd (hlayers _)
            | origin hd => exact absurd hd (hlayers _)
  next d hlayered =>
    split at h
    next problem hextract =>
      cases h
      rw [divides_iff_of_layered hlayered, breaks_config]
      constructor
      · exact fun hbreaks => ⟨problem, hextract, hbreaks⟩
      · rintro ⟨problem', heq, hbreaks⟩
        cases hextract.symm.trans heq
        exact hbreaks
    next c hextract =>
      exact iff_of_false (not_breaks_of_validate (map_eq_error_iff.mp h))
        (not_divides_of_extract hlayered hextract)

end Settings

/-- The command line adds no reason to those of the layers below it. -/
theorem breaks_of_configured {s : System} {cl : CommandLine} {e : HostError}
    (h : s.configured cl = .error (.failure e)) :
    Breaks e.diagnostic ↔ Divides s (some (s.configPath cl)) := by
  unfold System.configured at h
  split at h
  next stop hload =>
    cases h
    exact breaks_of_loadConfig hload
  next c hload =>
    obtain ⟨d, hlayered, hextract, _⟩ := loadConfig_eq_ok_iff.mp hload
    exact iff_of_false (not_breaks_of_validate (map_eq_error_iff.mp h))
      (not_divides_of_extract hlayered hextract)

end ScriptHost
