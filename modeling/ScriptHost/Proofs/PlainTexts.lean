import Mathlib
import ScriptHost.Proofs.CycleCounts
import ScriptHost.Proofs.Literals

/-!
# Plain text in a variable

Most texts need no quotes to be the value of a variable: the grammar for values gives way
to the text as it stands wherever it does not reach the last character. So only the two
ends of a text and the text as a whole matter (`Plain`), and nothing inside it does.

There are three cases (`value_cases`). A text may begin with a boolean, and what is left
behind that, if anything, is not white space alone. Otherwise it is read as a word, up to
a separator, which is then left over; or it is a word as a whole, and that is text unless
it is a literal of a number (`word_eq_text_iff`). Behind the grammar nothing looks at a
text any more, so it arrives where it was meant for (`plain_text_arrives`).
-/

namespace ScriptHost

open Settings

namespace Text

/-- A text with a character at least, and no white space around it. -/
structure Trimmed (cs : List Char) : Prop where
  ne_nil : cs ≠ []
  head : ∀ c ∈ cs.head?, isWhite c = false
  last : ∀ c ∈ cs.getLast?, isWhite c = false

variable {cs : List Char}

instance (cs : List Char) : Decidable (Trimmed cs) :=
  decidable_of_iff (cs ≠ [] ∧ cs.head?.all (!isWhite ·) ∧ cs.getLast?.all (!isWhite ·)) (by
    rw [Option.all_eq_true, Option.all_eq_true]
    simp only [Bool.not_eq_true']
    exact ⟨fun h => ⟨h.1, h.2.1, h.2.2⟩, fun h => ⟨h.ne_nil, h.head, h.last⟩⟩)

theorem dropWhile_of_head {p : Char → Bool} (h : ∀ c ∈ cs.head?, p c = false) :
    cs.dropWhile p = cs := by
  cases cs with
  | nil => rfl
  | cons c cs => exact List.dropWhile_cons_of_neg (by rw [h c rfl]; exact Bool.false_ne_true)

theorem Trimmed.trim_eq (h : Trimmed cs) : trim cs = cs := by
  have hlast : ∀ c ∈ cs.reverse.head?, isWhite c = false := by
    rw [List.head?_reverse]
    exact h.last
  rw [trim, dropWhile_of_head h.head, trimRight, dropWhile_of_head hlast, List.reverse_reverse]

/-- A character that is in some literal of a number. -/
def isLiteralChar (c : Char) : Bool := isDigit c || c ∈ ['+', '-', '.', 'e', 'E']

theorem Digits.literalChars {ds : List Char} (h : Digits ds) :
    ∀ c ∈ ds, isLiteralChar c = true := by
  intro c hc
  rw [isLiteralChar, h.isDigit c hc, Bool.true_or]

theorem IntegerLiteral.literalChars (h : IntegerLiteral cs) :
    ∀ c ∈ cs, isLiteralChar c = true := by
  cases h with
  | bare hds _ => exact hds.literalChars
  | plus hds _ => exact List.forall_mem_cons.mpr ⟨by decide, hds.literalChars⟩
  | minus hds _ => exact List.forall_mem_cons.mpr ⟨by decide, hds.literalChars⟩

theorem FloatLiteral.literalChars (h : FloatLiteral cs) :
    ∀ c ∈ cs, isLiteralChar c = true := by
  have hsigns : ∀ sign, Sign sign → ∀ c ∈ sign, isLiteralChar c = true := by
    intro sign hsign
    cases hsign with
    | none => exact fun c hc => absurd hc List.not_mem_nil
    | plus => exact List.forall_mem_singleton.mpr (by decide)
    | minus => exact List.forall_mem_singleton.mpr (by decide)
  cases h with
  | @mk sign whole places exponent hsign hdigits hexponent =>
    have hdigit := hdigits.literalChars
    simp only [List.forall_mem_append, List.forall_mem_cons] at hdigit ⊢
    refine ⟨hsigns _ hsign, hdigit.1, by decide, hdigit.2, ?_⟩
    cases hexponent with
    | absent => exact fun c hc => absurd hc List.not_mem_nil
    | present he hsign hds =>
      simp only [List.forall_mem_append, List.forall_mem_cons]
      exact ⟨by rcases he with rfl | rfl <;> decide, hsigns _ hsign, hds.literalChars⟩

end Text

namespace Settings

open Text

variable {cs : List Char}

/-- **A word** is text unless it is a literal of a number. -/
theorem word_eq_text_iff (h : Trimmed cs) : word cs = .text (String.ofList cs)
    ↔ ¬ IntegerLiteral cs ∧ ¬ FloatLiteral cs := by
  rw [word, h.trim_eq, integerLiteral_iff, Binary64.floatLiteral_iff]
  constructor
  · intro hword
    split at hword
    next => cases hword
    next hfloat =>
      split at hword
      next => cases hword
      next hunsigned =>
        split at hword
        next => cases hword
        next hsigned =>
          refine ⟨?_, ?_⟩
          · rintro (⟨n, hn⟩ | ⟨n, hn⟩)
            · rw [hn] at hunsigned; cases hunsigned
            · rw [hn] at hsigned; cases hsigned
          · rintro ⟨hdot, hparse⟩
            rw [if_pos hdot] at hfloat
            rw [hfloat] at hparse
            cases hparse
  · rintro ⟨hinteger, hfloat⟩
    have hnone : (if '.' ∈ cs then Binary64.parse? cs else none) = none := by
      split
      next hdot => exact Option.not_isSome_iff_eq_none.mp fun hparse => hfloat ⟨hdot, hparse⟩
      next => rfl
    rw [hnone]
    dsimp only
    split
    next n hn => exact absurd (.inl ⟨n, hn⟩) hinteger
    next =>
      split
      next n hn => exact absurd (.inr ⟨n, hn⟩) hinteger
      next => rfl

/-- A text on which no rule of the grammar for values is tried but those for booleans and words. -/
structure Bare (cs : List Char) : Prop extends Trimmed cs where
  front : ∀ c ∈ cs.head?, c ∉ ['"', '\'', '[', '{']

instance (cs : List Char) : Decidable (Bare cs) :=
  decidable_of_iff (Trimmed cs ∧ cs.head?.all (· ∉ ['"', '\'', '[', '{'])) (by
    rw [Option.all_eq_true]
    simp only [decide_eq_true_eq]
    exact ⟨fun h => ⟨h.1, h.2⟩, fun h => ⟨h.toTrimmed, h.front⟩⟩)

theorem Bare.cons_ne (h : Bare cs) {c : Char} (hc : c ∈ ['"', '\'', '[', '{']) (rest : List Char) :
    cs ≠ c :: rest := by
  rintro rfl
  exact h.front c rfl hc

theorem isWhite_of_isAsciiWhite {c : Char} (h : isAsciiWhite c = true) : isWhite c = true := by
  simp only [isAsciiWhite, Bool.or_eq_true, decide_eq_true_eq] at h
  rcases h with (((rfl | rfl) | rfl) | rfl) | rfl <;> decide

theorem skipWhite_of_trimmed (h : Trimmed cs) : skipWhite cs = cs := by
  refine dropWhile_of_head fun c hc => ?_
  rw [← Bool.not_eq_true]
  exact fun hwhite => by simpa [h.head c hc] using isWhite_of_isAsciiWhite hwhite

/-- **The value of a bare text**, and what is left of the text behind it. -/
theorem value_cases (h : Bare cs) (depth : Nat) :
    (∃ b rest, cs = (if b then "true" else "false").toList ++ rest
        ∧ value depth cs = .ok (.scalar .environment (.boolean b), skipWhite rest))
      ∨ (∀ b : Bool, cs ≠ (if b then "true" else "false").toList)
        ∧ value depth cs = .ok (.scalar .environment (word (cs.takeWhile (!isSeparator ·))),
          skipWhite (cs.dropWhile (!isSeparator ·))) := by
  have hskip := skipWhite_of_trimmed h.toTrimmed
  rw [value.eq_def]
  simp only [hskip]
  split
  next rest => exact .inl ⟨true, rest, rfl, rfl⟩
  next rest => exact .inl ⟨false, rest, rfl, rfl⟩
  next => exact absurd rfl (h.cons_ne (by decide) _)
  next => exact absurd rfl (h.cons_ne (by decide) _)
  next => exact absurd rfl (h.cons_ne (by decide) _)
  next => exact absurd rfl (h.cons_ne (by decide) _)
  next => exact absurd rfl (h.cons_ne (by decide) _)
  next => exact absurd rfl (h.cons_ne (by decide) _)
  next => exact absurd rfl (h.cons_ne (by decide) _)
  next htrue hfalse _ _ _ _ _ _ _ =>
    refine .inr ⟨fun b heq => ?_, rfl⟩
    cases b with
    | true => exact htrue [] heq
    | false => exact hfalse [] heq

/-- What stands at the end of a trimmed text is not skipped as white space. -/
theorem skipWhite_ne_nil {front rest : List Char} (h : Trimmed (front ++ rest))
    (hrest : rest ≠ []) : skipWhite rest ≠ [] := by
  intro hnil
  have hwhite := List.dropWhile_eq_nil_iff.mp hnil _ (List.getLast_mem hrest)
  have hlast := h.last (rest.getLast hrest)
    (by rw [List.getLast?_append_of_ne_nil _ hrest]; exact List.getLast?_eq_some_getLast hrest)
  rw [isWhite_of_isAsciiWhite hwhite] at hlast
  cases hlast

/-- What is left over makes the whole text plain. -/
theorem ofText_of_rest {v : Value} {rest : List Char}
    (h : value cs.length cs = .ok (v, rest)) (hrest : rest ≠ []) :
    ofText cs = .ok (.scalar .environment (.text (String.ofList cs))) := by
  rw [ofText, h]
  cases rest with
  | nil => exact absurd rfl hrest
  | cons c rest => rfl

/-- A text with another character than those of numbers is no number. -/
theorem not_literal_of_mem {c : Char} (hc : c ∈ cs) (hother : isLiteralChar c = false) :
    ¬ IntegerLiteral cs ∧ ¬ FloatLiteral cs := by
  refine ⟨fun h => ?_, fun h => ?_⟩ <;>
  · have := h.literalChars c hc
    rw [hother] at this
    cases this

/-- **A bare text is taken as it stands** if it is neither a boolean nor a number, and only then. -/
theorem ofText_eq_text_iff (h : Bare cs) :
    ofText cs = .ok (.scalar .environment (.text (String.ofList cs)))
      ↔ cs ≠ "true".toList ∧ cs ≠ "false".toList ∧ ¬ IntegerLiteral cs ∧ ¬ FloatLiteral cs := by
  rcases value_cases h cs.length with ⟨b, rest, hcs, hvalue⟩ | ⟨hne, hvalue⟩
  · by_cases hrest : rest = []
    · -- a boolean and nothing else
      subst hrest
      rw [List.append_nil] at hcs
      refine iff_of_false (fun htext => ?_) fun ⟨htrue, hfalse, _⟩ => ?_
      · rw [ofText, hvalue] at htext
        cases htext
      · cases b with
        | true => exact htrue hcs
        | false => exact hfalse hcs
    · -- a boolean with something behind it
      have hleft := skipWhite_ne_nil (hcs ▸ h.toTrimmed) hrest
      refine iff_of_true (ofText_of_rest hvalue hleft) ?_
      subst hcs
      cases b with
      | true =>
        exact ⟨fun heq => hrest (by simpa using heq), fun heq => by simp at heq,
          not_literal_of_mem (c := 't') (by simp) (by decide)⟩
      | false =>
        exact ⟨fun heq => by simp at heq, fun heq => hrest (by simpa using heq),
          not_literal_of_mem (c := 'f') (by simp) (by decide)⟩
  · have hbooleans : cs ≠ "true".toList ∧ cs ≠ "false".toList := ⟨hne true, hne false⟩
    by_cases hseparator : ∀ c ∈ cs, (!isSeparator c) = true
    · -- a word and nothing else
      rw [List.takeWhile_eq_self_iff.mpr hseparator,
        List.dropWhile_eq_nil_iff.mpr hseparator] at hvalue
      have hword : ofText cs = .ok (.scalar .environment (word cs)) := by
        rw [ofText, hvalue]
        rfl
      rw [hword, Except.ok.injEq, Value.scalar.injEq, word_eq_text_iff h.toTrimmed]
      exact ⟨fun hplain => ⟨hbooleans.1, hbooleans.2, hplain.2⟩, fun hplain => ⟨rfl, hplain.2.2⟩⟩
    · -- a word up to a separator
      have hsplit := List.takeWhile_append_dropWhile (p := (!isSeparator ·)) (l := cs)
      have hrest : cs.dropWhile (!isSeparator ·) ≠ [] := fun hnil =>
        hseparator (List.dropWhile_eq_nil_iff.mp hnil)
      have hleft := skipWhite_ne_nil (hsplit.symm ▸ h.toTrimmed) hrest
      refine iff_of_true (ofText_of_rest hvalue hleft) ?_
      obtain ⟨c, hc, hsep⟩ : ∃ c ∈ cs, isSeparator c = true := by
        simpa using hseparator
      have hother : isLiteralChar c = false := by
        simp only [isSeparator, Bool.or_eq_true, decide_eq_true_eq] at hsep
        rcases hsep with (((rfl | rfl) | rfl) | rfl) | rfl <;> decide
      exact ⟨hbooleans.1, hbooleans.2, not_literal_of_mem hc hother⟩

/-- Text that a variable gives as it stands: nothing but the beginning, the end and the whole of it
is looked at. -/
structure Plain (cs : List Char) : Prop extends Bare cs where
  not_true : cs ≠ "true".toList
  not_false : cs ≠ "false".toList
  not_integer : ¬ IntegerLiteral cs
  not_float : ¬ FloatLiteral cs

instance (cs : List Char) : Decidable (Plain cs) :=
  decidable_of_iff (Bare cs ∧ cs ≠ "true".toList ∧ cs ≠ "false".toList ∧ ¬ IntegerLiteral cs
      ∧ ¬ FloatLiteral cs)
    ⟨fun h => ⟨h.1, h.2.1, h.2.2.1, h.2.2.2.1, h.2.2.2.2⟩,
      fun h => ⟨h.toBare, h.not_true, h.not_false, h.not_integer, h.not_float⟩⟩

theorem valueOf_plain {text : String} (h : Plain text.toList) (name : Bytes) :
    valueOf (name, bytesOf text) = .ok (.scalar .environment (.text text)) := by
  have htext := (ofText_eq_text_iff h.toBare).mpr
    ⟨h.not_true, h.not_false, h.not_integer, h.not_float⟩
  rw [String.ofList_toList] at htext
  rw [valueOf, bytesOf, Utf8.lossyFrom_encode]
  exact htext

/-! ## A variable for a single field -/

variable {pre post : List (Bytes × Bytes)} {f g : Field} {v : Value} {x : Content}

/-- What is built in but for one field that can be read is a configuration. -/
theorem extractFields_of_field (h : read f v = some x) :
    extractFields (fun g => if g = f then some v else Dict.at? builtinLayer g)
      = .ok (Field.put {} f x) := by
  have hread : ∀ g w, (if g = f then some v else Dict.at? builtinLayer g) = some w →
      (read g w).isSome := by
    intro g w hw
    split at hw
    next heq => cases hw; rw [heq, h]; rfl
    next => rw [read_builtinLayer hw]; rfl
  obtain ⟨c, hc⟩ := exists_extractFields hread
  rw [hc]
  refine congrArg Except.ok (Field.ext fun g => ?_)
  have hextracted := extracted_of_extractFields hc g
  rw [Extracted] at hextracted
  by_cases hg : g = f
  · subst hg
    rw [if_pos rfl] at hextracted
    dsimp only at hextracted
    rw [get_put_self h]
    exact (Option.some.inj (h.symm.trans hextracted)).symm
  · rw [if_neg hg] at hextracted
    rw [Field.get_put_of_ne hg]
    cases hw : Dict.at? builtinLayer g with
    | none => rwa [hw] at hextracted
    | some w =>
      rw [hw] at hextracted
      exact (Option.some.inj ((read_builtinLayer hw).symm.trans hextracted)).symm

/-- There is no file, or one that has no field. -/
def SilentFile (s : System) (file : Option Path) : Prop :=
  ∀ p, file = some p → ∃ d, fileLayer s p = .ok d ∧ Silent d

/-- Without a field in the file the variables are laid over what is built in. -/
theorem layered_of_silentFile {s : System} {file : Option Path} {overlay : Dict}
    (hfile : SilentFile s file) (hvars : ofVariables s.env = .ok overlay) :
    ∃ base, Dict.Tidy base ∧ Sectioned base ∧ (∀ g, Dict.at? base g = Dict.at? builtinLayer g)
      ∧ layered s file = .ok (mergeDict base overlay) := by
  cases file with
  | none =>
    refine ⟨builtinLayer, tidy_builtinLayer, sectioned_builtinLayer, fun _ => rfl, ?_⟩
    rw [layered, hvars]
  | some p =>
    obtain ⟨d, hlayer, hsilent⟩ := hfile p rfl
    have htidy := tidy_fileLayer hlayer
    refine ⟨mergeDict builtinLayer d, tidy_mergeDict tidy_builtinLayer htidy,
      sectioned_mergeDict htidy sectioned_builtinLayer hsilent.sectioned, fun g => ?_, ?_⟩
    · rw [at?_mergeDict htidy hsilent.sectioned, hsilent.at_eq, laidOver_none]
    · rw [layered, hvars]
      simp only [hlayer]

end Settings

/-- A system with the variable `name` set to a text, among others. -/
def System.giving (s : System) (pre post : List (Bytes × Bytes)) (name text : String) : System :=
  { s with env := pre ++ (bytesOf name, bytesOf text) :: post }

section Arrival

variable {s : System} {file : Option Path} {pre post : List (Bytes × Bytes)} {text : String}

/-- What is loaded where a single field is set. -/
theorem loadConfig_of_field {f : Field} {name : String} {x : Content} (hplain : Plain text.toList)
    (hkeys : keyPath? name.toList = some [f.sectionName, f.key])
    (hread : read f (.scalar .environment (.text text)) = some x)
    (hpre : Quiet pre) (hpost : Quiet post) (hfile : SilentFile s file) :
    loadConfig (s.giving pre post name text) file
      = (Field.put {} f x).validate.map fun _ => Field.put {} f x := by
  have hkeys' : keysOf? (bytesOf name, bytesOf text) = some [f.sectionName, f.key] := by
    rw [keysOf?, bytesOf, Utf8.lossyFrom_encode]
    exact hkeys
  have hvalue := valueOf_plain hplain (bytesOf name)
  have hreadable : ∀ var ∈ (s.giving pre post name text).env, Readable var := by
    intro var hvar
    rw [System.giving, List.mem_append, List.mem_cons] at hvar
    rcases hvar with hvar | rfl | hvar
    · exact hpre.readable var hvar
    · exact fun _ _ => ⟨_, hvalue⟩
    · exact hpost.readable var hvar
  have hvars := ofVariables_of_readable hreadable
  have hfile' : SilentFile (s.giving pre post name text) file := hfile
  obtain ⟨hsectioned, hat⟩ := field_foldl hkeys' hvalue hpre hpost
  obtain ⟨base, htidy, hbase, hbuiltin, hlayered⟩ := layered_of_silentFile hfile' hvars
  have htidy' := tidy_ofVariables hvars
  have hextract : extract (mergeDict base _) = _ :=
    extract_eq_extractFields (tidy_mergeDict htidy htidy')
      (sectioned_mergeDict htidy' hbase hsectioned)
  have hfound : Dict.at? (mergeDict base ((s.giving pre post name text).env.foldl withVariable []))
      = fun g => if g = f then some (.scalar .environment (.text text))
        else Dict.at? builtinLayer g := by
    funext g
    rw [at?_mergeDict htidy' hsectioned, hbuiltin]
    refine (congrArg (laidOver _) (hat g)).trans ?_
    split
    · rw [laidOver_scalar]
    · rw [laidOver_none]
  rw [loadConfig, hlayered]
  dsimp only
  rw [hextract, hfound, extractFields_of_field hread]

/-- A configuration is valid if its level is not empty and its script and its cycles are those that
are built in. -/
theorem validate_of_builtin {c : HostConfig} (hlevel : c.logging.level ≠ "")
    (hentry : c.runtime.entryScript = defaultEntryScript) (hcycles : c.runtime.cycles = 1) :
    c.validate = .ok () := by
  have hfault : defaultEntryScript.entryFault? = none := by decide +kernel
  have hfaults : c.faults = [] := by
    rw [HostConfig.faults, if_neg hlevel, hentry, hfault, hcycles]
    rfl
  rw [HostConfig.validate, hentry, hfault, hfaults]
  rfl

theorem Settings.Plain.ne_empty (h : Plain text.toList) : text ≠ "" := by
  rintro rfl
  exact h.ne_nil rfl

/-- **Plain text arrives.** A text that is not empty, has no white space around it, begins with no
quote and no bracket, and is neither a boolean nor a number, whatever it has inside, is what the
level of the log, the base directory or the library is when a variable is set to it and nothing
else is set. -/
theorem plain_text_arrives (hplain : Plain text.toList) (hpre : Quiet pre) (hpost : Quiet post)
    (hfile : SilentFile s file) :
    loadConfig (s.giving pre post "NSHOST_LOGGING__LEVEL" text) file
        = .ok { logging := { level := text } }
      ∧ loadConfig (s.giving pre post "NSHOST_RUNTIME__BASE_DIR" text) file
        = .ok { runtime := { baseDir := some (.ofString text) } }
      ∧ loadConfig (s.giving pre post "NSHOST_RUNTIME__LIBRARY" text) file
        = .ok { runtime := { library := some (.ofString text) } } := by
  have hlevelKeys : keyPath? "NSHOST_LOGGING__LEVEL".toList
      = some [Field.level.sectionName, Field.level.key] := by decide +kernel
  have hbaseKeys : keyPath? "NSHOST_RUNTIME__BASE_DIR".toList
      = some [Field.baseDir.sectionName, Field.baseDir.key] := by decide +kernel
  have hlibraryKeys : keyPath? "NSHOST_RUNTIME__LIBRARY".toList
      = some [Field.library.sectionName, Field.library.key] := by decide +kernel
  have hlevel := loadConfig_of_field hplain hlevelKeys rfl hpre hpost hfile
  have hbase := loadConfig_of_field hplain hbaseKeys rfl hpre hpost hfile
  have hlibrary := loadConfig_of_field hplain hlibraryKeys rfl hpre hpost hfile
  have hinfo : ({} : LoggingSection).level ≠ "" := by decide
  rw [validate_of_builtin hplain.ne_empty rfl rfl] at hlevel
  rw [validate_of_builtin hinfo rfl rfl] at hbase hlibrary
  exact ⟨hlevel, hbase, hlibrary⟩

end Arrival

/-- A filter of two directives, and a path that has about all that a grammar could stumble over. -/
theorem awkward_texts_arrive :
    loadConfig ((systemAround []).giving (systemAround []).env [] "NSHOST_LOGGING__LEVEL"
        "nshost=debug,info") (some (.ofString "none.toml"))
        = .ok { logging := { level := "nshost=debug,info" } }
      ∧ loadConfig ((systemAround []).giving (systemAround []).env [] "NSHOST_RUNTIME__BASE_DIR"
        "true, 1.5 [a]\x7b'=\"\x7d") none
        = .ok { runtime := { baseDir := some (.ofString "true, 1.5 [a]\x7b'=\"\x7d") } } := by
  have hfilter : Plain "nshost=debug,info".toList := by decide +kernel
  have hpath : Plain "true, 1.5 [a]\x7b'=\"\x7d".toList := by decide +kernel
  have hpre : Quiet (systemAround []).env := quiet_of_unset (unset_systemAround [])
  have hpost : Quiet [] := fun var hvar => absurd hvar List.not_mem_nil
  have hmissing : SilentFile (systemAround []) (some (.ofString "none.toml")) := by
    rintro _ ⟨⟩
    exact ⟨[], fileLayer_none (systemAround []).env, silent_nil⟩
  have hnone : SilentFile (systemAround []) none := fun _ heq => by cases heq
  exact ⟨(plain_text_arrives hfilter hpre hpost hmissing).1,
    (plain_text_arrives hpath hpre hpost hnone).2.1⟩

end ScriptHost
