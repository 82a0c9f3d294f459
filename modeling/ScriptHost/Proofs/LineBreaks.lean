import Mathlib
import ScriptHost.Proofs.CountTexts
import ScriptHost.Settings.Extraction

/-!
# Line breaks in reports

A report shows texts in one of two ways. A value is quoted, and then its line breaks are
escaped (`not_breaks_quoted`); a path is shown as it is, and then it breaks the line where
its bytes do (`breaks_display`). That a path need not be text makes no difference: what is
replaced are bytes of which none is a line break.

All else in the report of a failure is fixed text and numbers. So a failure has two things
to look at, the path that it names and the reason that it was given (`breaks_diagnostic`).
-/

namespace ScriptHost

/-- A character that ends a line. -/
def isBreak (c : Char) : Bool := c = '\n' || c = '\r'

/-- A text that takes more than one line. -/
def Breaks (s : String) : Prop := s.toList.any isBreak = true

instance (s : String) : Decidable (Breaks s) := inferInstanceAs (Decidable (_ = true))

/-- A path with a byte that ends a line. -/
def Path.HasBreak (p : Path) : Prop := 0x0A ∈ p.bytes ∨ 0x0D ∈ p.bytes

instance (p : Path) : Decidable p.HasBreak := inferInstanceAs (Decidable (_ ∨ _))

section Texts

variable {s t : String} {cs : List Char}

theorem breaks_iff : Breaks s ↔ '\n' ∈ s.toList ∨ '\r' ∈ s.toList := by
  simp only [Breaks, isBreak, List.any_eq_true, Bool.or_eq_true, decide_eq_true_eq]
  constructor
  · rintro ⟨c, hc, rfl | rfl⟩
    · exact .inl hc
    · exact .inr hc
  · rintro (hc | hc)
    · exact ⟨_, hc, .inl rfl⟩
    · exact ⟨_, hc, .inr rfl⟩

@[simp] theorem breaks_append : Breaks (s ++ t) ↔ Breaks s ∨ Breaks t := by
  rw [Breaks, String.toList_append, List.any_append, Bool.or_eq_true]
  rfl

theorem not_breaks_ofList (h : ∀ c ∈ cs, isBreak c = false) : ¬ Breaks (String.ofList cs) := by
  rw [Breaks, String.toList_ofList, Bool.not_eq_true, List.any_eq_false]
  exact fun c hc => by rw [h c hc]; exact Bool.false_ne_true

theorem not_breaks_join {ts : List String} (h : ∀ t ∈ ts, ¬ Breaks t) :
    ¬ Breaks (String.join ts) := by
  induction ts with
  | nil => decide
  | cons t ts ih =>
    obtain ⟨ht, hts⟩ := List.forall_mem_cons.mp h
    rw [String.join_cons, breaks_append, not_or]
    exact ⟨ht, ih hts⟩

theorem not_breaks_intercalate {ts : List String} (hs : ¬ Breaks s) (h : ∀ t ∈ ts, ¬ Breaks t) :
    ¬ Breaks (s.intercalate ts) := by
  induction ts with
  | nil =>
    rw [String.intercalate_nil]
    decide
  | cons t ts ih =>
    obtain ⟨ht, hts⟩ := List.forall_mem_cons.mp h
    cases ts with
    | nil => rwa [String.intercalate_singleton]
    | cons u ts =>
      rw [String.intercalate_cons_cons, breaks_append, breaks_append, not_or, not_or]
      exact ⟨⟨ht, hs⟩, ih hts⟩

end Texts

/-! ## Paths as they are shown -/

namespace Utf8

theorem le_of_width {a : UInt8} (h : width a ≠ 1) : 0x80 ≤ a.toNat := by
  rw [Ne, width_eq_one] at h
  omega

theorem le_of_isSecond {a b : UInt8} (h : isSecond a b = true) : 0x80 ≤ b.toNat :=
  ((isSecond_iff a b).mp h).1

theorem le_of_isTrail {b : UInt8} (h : isTrail b = true) : 0x80 ≤ b.toNat :=
  ((isTrail_iff b).mp h).1

/-- No byte that no character begins with is a character of its own. -/
theorem le_of_front_bad {a b : UInt8} {rest : Bytes} {n : Nat} (h : front a rest = .bad n)
    (hb : b ∈ a :: rest.take (n - 1)) : 0x80 ≤ b.toNat := by
  have hfirst : 0x80 ≤ a.toNat := by
    refine le_of_width fun hw => ?_
    rw [front_of_width_one hw] at h
    cases h
  rcases List.mem_cons.mp hb with rfl | hb
  · exact hfirst
  · -- behind it only such are taken along as could follow it
    unfold front at h
    split at h <;> try cases h
    case h_3 =>
      split at h <;> cases h
      cases hb
    case h_5 =>
      split at h
      case isFalse => cases h; cases hb
      case isTrue hsecond =>
        split at h <;> try cases h
        split at h <;> cases h
        rw [List.mem_singleton.mp hb]
        exact le_of_isSecond hsecond
    case h_7 =>
      split at h
      case isFalse => cases h; cases hb
      case isTrue hsecond =>
        split at h <;> try cases h
        split at h
        case isFalse =>
          cases h
          rw [List.mem_singleton.mp hb]
          exact le_of_isSecond hsecond
        case isTrue htrail =>
          split at h <;> try cases h
          split at h <;> cases h
          rcases List.mem_pair.mp hb with rfl | rfl
          · exact le_of_isSecond hsecond
          · exact le_of_isTrail htrail
    all_goals cases hb

theorem le_of_front_cut {a b : UInt8} {rest : Bytes} (h : front a rest = .cut)
    (hb : b ∈ a :: rest) : 0x80 ≤ b.toNat := by
  have hfirst : 0x80 ≤ a.toNat := by
    refine le_of_width fun hw => ?_
    rw [front_of_width_one hw] at h
    cases h
  rcases List.mem_cons.mp hb with rfl | hb
  · exact hfirst
  · unfold front at h
    split at h <;> try cases h
    case h_2 | h_4 | h_6 => cases hb
    case h_3 => split at h <;> cases h
    case h_5 =>
      split at h <;> try cases h
      case isTrue hsecond =>
        split at h
        case h_1 =>
          rw [List.mem_singleton.mp hb]
          exact le_of_isSecond hsecond
        case h_2 => split at h <;> cases h
    case h_7 =>
      split at h <;> try cases h
      case isTrue hsecond =>
        split at h
        case h_1 =>
          rw [List.mem_singleton.mp hb]
          exact le_of_isSecond hsecond
        case h_2 =>
          split at h <;> try cases h
          case isTrue htrail =>
            split at h
            case h_1 =>
              rcases List.mem_pair.mp hb with rfl | rfl
              · exact le_of_isSecond hsecond
              · exact le_of_isTrail htrail
            case h_2 => split at h <;> cases h

theorem toNat_charOfNat {b : UInt8} (hb : b.toNat < 0x80) :
    (Char.ofNat b.toNat).toNat = b.toNat := by
  have hvalid : b.toNat.isValidChar := .inl (by omega)
  rw [Char.ofNat, dif_pos hvalid]
  rfl

/-- A byte below 128 is in the writing of no character but its own. -/
theorem mem_utf8EncodeChar {b : UInt8} (hb : b.toNat < 0x80) (x : Char) :
    b ∈ String.utf8EncodeChar x ↔ x = Char.ofNat b.toNat := by
  have hchar := toNat_charOfNat hb
  have hnot : ∀ bytes : Bytes, 0x7F < x.toNat → (∀ y ∈ bytes, 0x80 ≤ y.toNat) →
      (b ∈ bytes ↔ x = Char.ofNat b.toNat) := by
    intro bytes hx hbytes
    constructor
    · exact fun hmem => absurd (hbytes b hmem) (Nat.not_le.mpr hb)
    · rintro rfl
      omega
  fun_cases String.utf8EncodeChar x with
  | case1 v h =>
    have hv : (UInt8.ofNat v).toNat = v := by simp; omega
    rw [List.mem_singleton, ← UInt8.toNat_inj, hv]
    constructor
    · intro heq
      rw [heq]
      exact (Char.ofNat_toNat x).symm
    · rintro rfl
      exact hchar.symm
  | case2 v h1 h2 =>
    refine hnot _ (Nat.lt_of_not_le h1) fun y hy => ?_
    simp only [List.mem_cons, List.not_mem_nil, or_false] at hy
    rcases hy with rfl | rfl <;> simp <;> omega
  | case3 v h1 h2 h3 =>
    refine hnot _ (Nat.lt_of_not_le h1) fun y hy => ?_
    simp only [List.mem_cons, List.not_mem_nil, or_false] at hy
    rcases hy with rfl | rfl | rfl <;> simp <;> omega
  | case4 v h1 h2 h3 =>
    refine hnot _ (Nat.lt_of_not_le h1) fun y hy => ?_
    simp only [List.mem_cons, List.not_mem_nil, or_false] at hy
    rcases hy with rfl | rfl | rfl | rfl <;> simp <;> omega

/-- **Reading that puts up with faults** neither hides nor makes up a character of one byte. -/
theorem mem_lossyFrom {read : List Char} {bytes : Bytes} {b : UInt8} (hb : b.toNat < 0x80) :
    Char.ofNat b.toNat ∈ lossyFrom read bytes ↔ Char.ofNat b.toNat ∈ read ∨ b ∈ bytes := by
  have hmark : Char.ofNat b.toNat ≠ '\ufffd' := by
    intro heq
    have hchar := toNat_charOfNat hb
    rw [heq] at hchar
    exact absurd (hchar ▸ hb) (by decide)
  fun_induction lossyFrom read bytes with
  | case1 read => simp
  | case2 read a rest c w hfront ih =>
    obtain ⟨tail, hc, rfl, hrest⟩ := encodeChar_of_front hfront
    rw [Nat.add_sub_cancel] at ih hrest
    have hmem : b ∈ a :: rest ↔ c = Char.ofNat b.toNat ∨ b ∈ rest.drop tail.length := by
      rw [← mem_utf8EncodeChar hb, hc, ← List.mem_append, List.cons_append, ← hrest]
    rw [Nat.add_sub_cancel]
    refine ih.trans ?_
    rw [hmem, List.mem_cons, or_assoc, eq_comm, or_left_comm]
  | case3 read a rest n hfront ih =>
    have hnot : b ∉ a :: rest.take (n - 1) := fun hmem =>
      absurd (le_of_front_bad hfront hmem) (Nat.not_le.mpr hb)
    have hmem : b ∈ a :: rest ↔ b ∈ rest.drop (n - 1) := by
      conv_lhs => rw [← List.take_append_drop (n - 1) rest, ← List.cons_append, List.mem_append]
      exact or_iff_right hnot
    refine ih.trans ?_
    rw [hmem, List.mem_cons, or_iff_right hmark]
  | case4 read a rest hfront =>
    have hnot : b ∉ a :: rest := fun hmem =>
      absurd (le_of_front_cut hfront hmem) (Nat.not_le.mpr hb)
    simp [hmark, hnot]

end Utf8

/-- **A path is shown with the line breaks that it has.** -/
@[simp] theorem Path.breaks_display (p : Path) : Breaks p.display ↔ p.HasBreak := by
  have hshown : ∀ b : UInt8, b.toNat < 0x80 →
      (Char.ofNat b.toNat ∈ p.display.toList ↔ b ∈ p.bytes) := by
    intro b hb
    rw [display, Utf8.lossy, String.toList_ofList, Utf8.mem_lossyFrom hb]
    simp
  rw [breaks_iff, Path.HasBreak, ← hshown 0x0A (by decide), ← hshown 0x0D (by decide)]
  rfl

/-! ## Numbers and quoted values -/

/-- The digits of a number, in any of the bases that are used. -/
theorem exists_digitChar {b n : Nat} (hb : 1 < b) (hb' : b ≤ 16) {c : Char}
    (hc : c ∈ Nat.toDigits b n) : ∃ d < 16, c = Nat.digitChar d := by
  induction n using Nat.strongRecOn with
  | ind n ih =>
    rw [Nat.toDigits_eq_if hb] at hc
    split at hc
    next hlt => exact ⟨n, by omega, List.mem_singleton.mp hc⟩
    next hle =>
      rcases List.mem_append.mp hc with hc | hc
      · exact ih _ (Nat.div_lt_self (by omega) hb) hc
      · exact ⟨n % b, (Nat.mod_lt n (by omega)).trans_le hb', List.mem_singleton.mp hc⟩

theorem isBreak_of_digit {b n : Nat} (hb : 1 < b) (hb' : b ≤ 16) {c : Char}
    (hc : c ∈ Nat.toDigits b n) : isBreak c = false ∧ isBreak c.toLower = false := by
  have hdigits : ∀ d < 16, isBreak (Nat.digitChar d) = false
      ∧ isBreak (Nat.digitChar d).toLower = false := by decide
  obtain ⟨d, hd, rfl⟩ := exists_digitChar hb hb' hc
  exact hdigits d hd

theorem not_breaks_nat (n : Nat) : ¬ Breaks (toString n) := by
  rw [Breaks, toList_toString, Bool.not_eq_true, List.any_eq_false]
  intro c hc
  rw [(isBreak_of_digit (by decide) (by decide) hc).1]
  exact Bool.false_ne_true

theorem not_breaks_int (n : Int) : ¬ Breaks (toString n) := by
  cases n with
  | ofNat n => exact not_breaks_nat n
  | negSucc n =>
    show ¬ Breaks ("-" ++ toString (n + 1))
    rw [breaks_append, not_or]
    exact ⟨by decide, not_breaks_nat _⟩

namespace Text

theorem not_breaks_hex (width n : Nat) : ¬ Breaks (hex width n) := by
  refine not_breaks_ofList fun c hc => ?_
  rcases List.mem_append.mp hc with hc | hc
  · rw [List.eq_of_mem_replicate hc]
    decide
  · obtain ⟨d, hd, rfl⟩ := List.mem_map.mp hc
    exact (isBreak_of_digit (by decide) (by decide) hd).2

theorem not_breaks_escape (c : Char) : ¬ Breaks (escape c) := by
  cases hc : isBreak c with
  | true =>
    simp only [isBreak, Bool.or_eq_true, decide_eq_true_eq] at hc
    rcases hc with rfl | rfl <;> decide
  | false =>
    unfold escape
    iterate 6 (split; · decide)
    split
    · rw [breaks_append, breaks_append, not_or, not_or]
      exact ⟨⟨by decide, not_breaks_hex 1 c.toNat⟩, by decide⟩
    · rwa [Breaks, String.toList_singleton, List.any_cons, List.any_nil, Bool.or_false,
        Bool.not_eq_true]

/-- **A value that is quoted never breaks a line.** -/
theorem not_breaks_quoted (s : String) : ¬ Breaks (quoted s) := by
  rw [quoted, breaks_append, breaks_append, not_or, not_or]
  refine ⟨⟨by decide, not_breaks_join fun t ht => ?_⟩, by decide⟩
  obtain ⟨c, _, rfl⟩ := List.mem_map.mp ht
  exact not_breaks_escape c

end Text

namespace Binary64

theorem mem_withPoint {digits : List Char} {places : Nat} {c : Char}
    (hc : c ∈ withPoint digits places) : c = '0' ∨ c = '.' ∨ c ∈ digits := by
  have hpadded : c ∈ List.replicate (places + 1 - digits.length) '0' ++ digits →
      c = '0' ∨ c = '.' ∨ c ∈ digits := by
    intro hc
    rcases List.mem_append.mp hc with hc | hc
    · exact .inl (List.eq_of_mem_replicate hc)
    · exact .inr (.inr hc)
  unfold withPoint at hc
  rcases List.mem_append.mp hc with hc | hc
  · exact hpadded (List.mem_of_mem_take hc)
  · rcases List.mem_cons.mp hc with rfl | hc
    · exact .inr (.inl rfl)
    · exact hpadded (List.mem_of_mem_drop hc)

theorem not_breaks_display (x : Binary64) : ¬ Breaks x.display := by
  have hdigit : ∀ n, ∀ c ∈ Nat.toDigits 10 n, isBreak c = false := fun n c hc =>
    (isBreak_of_digit (by decide) (by decide) hc).1
  cases x with
  | nan => decide
  | infinite negative => cases negative <;> decide
  | finite negative m e =>
    rw [display]
    generalize (if m = 0 then ((0, 0) : Nat × Int) else shortest m e) = decimal
    obtain ⟨digits, exponent⟩ := decimal
    dsimp only
    generalize htext : (if 0 ≤ exponent then _ else _ : List Char) = text
    have hbreak : ∀ c ∈ text, isBreak c = false := by
      intro c hc
      rw [← htext] at hc
      split at hc
      · rcases List.mem_append.mp hc with hc | hc
        · exact hdigit _ c hc
        · split at hc
          · cases hc
          · rw [List.eq_of_mem_replicate hc]
            decide
      · rcases mem_withPoint hc with rfl | rfl | hc
        · decide
        · decide
        · exact hdigit _ c hc
    refine not_breaks_ofList fun c hc => ?_
    split at hc
    · rcases List.mem_cons.mp hc with rfl | hc
      · decide
      · exact hbreak c hc
    · exact hbreak c hc

end Binary64

/-! ## Failures -/

namespace HostError

/-- The path that a failure names. -/
def path? : HostError → Option Path
  | .libraryLoad path _ | .baseDirectory path _ | .entryScriptUnreadable path _ => some path
  | .nonUtf8Path path => some path
  | .initializationFailure baseDir _ => some baseDir
  | _ => none

/-- The text that a failure was given, to be shown as it is. -/
def given : HostError → String
  | .libraryLoad _ reason | .baseDirectory _ reason | .entryScriptUnreadable _ reason => reason
  | .config reason => reason
  | .missingSymbol name => name
  | .interiorNul what _ => what
  | _ => ""

theorem breaks_message (e : HostError) :
    Breaks e.message ↔ (∃ p, e.path? = some p ∧ p.HasBreak) ∨ Breaks e.given := by
  -- each message is fixed text around what is shown
  have hfixed : ∀ s ∈ ["failed to load runtime library ", ": ", "base directory ",
      " is not usable: ", "path is not valid UTF-8: ", " contains an interior NUL byte at offset ",
      "COM apartment setup failed: HRESULT 0x", "runtime_init returned invalid handle ", " for ",
      "entry script ", " is unreadable: ", "configuration error: ",
      "runtime library does not export `", "`", ""], ¬ Breaks s := by decide +kernel
  simp only [List.forall_mem_cons] at hfixed
  cases e with
  | libraryLoad path reason =>
    show Breaks ("failed to load runtime library " ++ path.display ++ ": " ++ reason) ↔ _
    simp [hfixed, path?, given]
  | missingSymbol name =>
    show Breaks ("runtime library does not export `" ++ name ++ "`") ↔ _
    simp [hfixed, path?, given]
  | baseDirectory path reason =>
    show Breaks ("base directory " ++ path.display ++ " is not usable: " ++ reason) ↔ _
    simp [hfixed, path?, given]
  | nonUtf8Path path =>
    show Breaks ("path is not valid UTF-8: " ++ path.display) ↔ _
    simp [hfixed, path?, given]
  | interiorNul what position =>
    show Breaks (what ++ " contains an interior NUL byte at offset " ++ toString position) ↔ _
    simp only [breaks_append, hfixed, not_breaks_nat, or_false]
    simp [path?, given]
  | comApartment status =>
    show Breaks ("COM apartment setup failed: HRESULT 0x" ++ Text.hex 8 _) ↔ _
    simp [hfixed, path?, given, Text.not_breaks_hex]
  | initializationFailure baseDir handle =>
    show Breaks ("runtime_init returned invalid handle " ++ toString handle ++ " for "
      ++ baseDir.display) ↔ _
    simp only [breaks_append, hfixed, not_breaks_int, or_false, false_or, Path.breaks_display]
    simp [hfixed, path?, given]
  | entryScriptUnreadable path reason =>
    show Breaks ("entry script " ++ path.display ++ " is unreadable: " ++ reason) ↔ _
    simp [hfixed, path?, given]
  | config reason =>
    show Breaks ("configuration error: " ++ reason) ↔ _
    simp [hfixed, path?, given]

/-- **The report of a failure** has the line breaks of the path that it names and those of the text
that it was given. -/
theorem breaks_diagnostic (e : HostError) :
    Breaks e.diagnostic ↔ (∃ p, e.path? = some p ∧ p.HasBreak) ∨ Breaks e.given := by
  have hfixed : ¬ Breaks "error[" ∧ ¬ Breaks "] " ∧ ¬ Breaks " failed: " := by decide
  have hcode : ¬ Breaks e.code := by
    cases e <;> rw [code] <;> decide
  have hstage : ¬ Breaks e.stage.name := by cases e.stage <;> decide
  rw [← breaks_message]
  show Breaks ("error[" ++ e.code ++ "] " ++ e.stage.name ++ " failed: " ++ e.message) ↔ _
  simp [hfixed, hcode, hstage]

end HostError

end ScriptHost
