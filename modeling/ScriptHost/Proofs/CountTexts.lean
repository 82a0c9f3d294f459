import Mathlib
import ScriptHost.Proofs.VariableOrder
import ScriptHost.Proofs.Spelling

/-!
# A number in digits, by three readers

A count can stand in the configuration file, in a variable or on the command line, and
each of the three has a reader of its own with integers of its own size. Here is what they
make of a number of any size. In a file it has to fit a signed word of 64 bits, or the
text is no TOML (`read?_number`). In a variable it has to fit an unsigned word, or it is
taken for text (`valueOf_toString`). On the command line it has to fit a signed word at
first, and then 32 bits (`readCount_toString`).

None of them makes another number of it: digits are read one after the other, and the
first that leads out of the range ends the reading.
-/

namespace ScriptHost

theorem toList_toString (n : Nat) : (toString n).toList = Nat.toDigits 10 n := by simp

/-! ## In a file -/

namespace Toml

/-- The text of a table that has a single number. -/
def numberChars (name key : String) (n : Nat) (rest : List Char) : List Char :=
  headerLine name ++ (key.toList ++ ' ' :: '=' :: ' ' :: (Nat.toDigits 10 n ++ rest))

section Number

variable {name key : String} {rest : List Char}

theorem lines_number (hname : Bare name) (hkey : Bare key) (n : Nat)
    (hrest : rest = [] ∨ rest = ['\n']) :
    lines (numberChars name key n rest) = if (n : Int) < Text.signedBound then
        some (Block.toLines ⟨name, [numberField key n]⟩) else none := by
  have hend : AtLineEnd rest := hrest.imp_right fun h => ⟨[], h⟩
  have hlineEnd : lineEnd rest = some [] := by rcases hrest with rfl | rfl <;> rfl
  have hline : lines (key.toList ++ ' ' :: '=' :: ' ' :: (Nat.toDigits 10 n ++ rest))
      = if (n : Int) < Text.signedBound then some [(numberField key n).toLine] else none := by
    have hvalue := value_number n maxDepth hend
    obtain ⟨d, ds, hds, hd, _⟩ := toDigits_cons n
    rw [hds, List.cons_append] at hvalue ⊢
    rw [lines_bare hkey, assignment_bare hkey (isBlank_of_isDigit hd), hvalue]
    by_cases hn : (n : Int) < Text.signedBound
    · rw [if_pos hn, if_pos hn]
      simp only [Option.map_some, hlineEnd, lines_end (.inl rfl)]
      rw [if_pos (by simp)]
      rfl
    · rw [if_neg hn, if_neg hn]
      rfl
  have hskip : skipLines (numberChars name key n rest) = numberChars name key n rest :=
    skipLines_header name _
  rw [lines_header hname hskip (by simp [numberChars, headerLine]; omega), hline]
  split <;> rfl

/-- **A number in a file** is read if it fits a signed word of 64 bits; otherwise the whole text is
refused. -/
theorem read?_number (hname : Bare name) (hkey : Bare key) (n : Nat)
    (hrest : rest = [] ∨ rest = ['\n']) :
    read? (numberChars name key n rest) = if (n : Int) < Text.signedBound then
        some [(name, .table .header [(key, .integer n)])] else none := by
  have hlines := lines_number hname hkey n hrest
  have hcr : '\r' ∉ numberChars name key n rest := by
    have hdigits : '\r' ∉ Nat.toDigits 10 n := fun hmem =>
      absurd (isDigit_of_mem_toDigits hmem) (by decide)
    have hend : '\r' ∉ rest := by rcases hrest with rfl | rfl <;> decide
    simp [numberChars, headerLine, hname.cr_notMem, hkey.cr_notMem, hdigits, hend]
  have hmark : dropMark (numberChars name key n rest) = numberChars name key n rest := rfl
  by_cases hn : (n : Int) < Text.signedBound
  · have hgood : ∀ b ∈ [(⟨name, [numberField key n]⟩ : Block)], b.Good := by
      intro b hb
      rw [List.mem_singleton.mp hb]
      refine ⟨hname, fun f hf => ?_, by simp [Block.entries]⟩
      rw [List.mem_singleton.mp hf]
      exact good_numberField hkey hn
    rw [if_pos hn] at hlines ⊢
    exact read?_of_lines hgood (by simp) hmark hcr (by simpa using hlines)
  · rw [if_neg hn] at hlines ⊢
    unfold read?
    rw [hmark, unifyBreaks_of_notMem hcr, hlines]
    rfl

end Number

end Toml

/-! ## In a variable -/

namespace Text

theorem toNat_of_isDigit {c : Char} (hc : isDigit c = true) : 48 ≤ c.toNat ∧ c.toNat ≤ 57 := by
  simp only [isDigit, Bool.and_eq_true, decide_eq_true_eq, Char.le_def,
    UInt32.le_iff_toNat_le] at hc
  exact hc

theorem isWhite_of_isDigit {c : Char} (hc : isDigit c = true) : isWhite c = false := by
  obtain ⟨hlow, hhigh⟩ := toNat_of_isDigit hc
  simp only [isWhite, Bool.or_eq_false_iff, Bool.and_eq_false_iff, decide_eq_false_iff_not]
  omega

/-- A text without white space has none around it. -/
theorem trim_eq_self {cs : List Char} (h : ∀ c ∈ cs, isWhite c = false) : trim cs = cs := by
  have hdrop : ∀ ds : List Char, (∀ c ∈ ds, isWhite c = false) → ds.dropWhile isWhite = ds := by
    intro ds hds
    cases ds with
    | nil => rfl
    | cons d ds => exact List.dropWhile_cons_of_neg (by simp [hds d List.mem_cons_self])
  rw [trim, hdrop cs h, trimRight, hdrop cs.reverse fun c hc => h c (List.mem_reverse.mp hc),
    List.reverse_reverse]

end Text

namespace Settings

/-- A number in digits is an unsigned word if it fits one, and a text if not: what does not fit an
unsigned word does not fit a signed one either. -/
def numeral (n : Nat) : Scalar :=
  if n < UInt64.size then .unsigned n else .text (toString n)

theorem word_toDigits (n : Nat) : word (Nat.toDigits 10 n) = numeral n := by
  have hdigit : ∀ c ∈ Nat.toDigits 10 n, Text.isDigit c = true :=
    fun _ => Toml.isDigit_of_mem_toDigits
  have hdot : '.' ∉ Nat.toDigits 10 n := fun hmem => absurd (hdigit _ hmem) (by decide)
  unfold word
  rw [Text.trim_eq_self fun c hc => Text.isWhite_of_isDigit (hdigit c hc)]
  simp only [if_neg hdot]
  by_cases hn : n < UInt64.size
  · have hparse : Text.parseNat64 (Nat.toDigits 10 n) = .ok (n : Int) :=
      Text.parseInt_toDigits (by omega)
    simp only [hparse, numeral, if_pos hn, Int.toNat_natCast]
  · have hunsigned : Text.parseNat64 (Nat.toDigits 10 n) = .error .tooLarge :=
      Text.parseInt_toDigits_of_lt (by decide) (by omega)
    have hsigned : Text.parseInt64 (Nat.toDigits 10 n) = .error .tooLarge := by
      refine Text.parseInt_toDigits_of_lt (by decide) ?_
      have hbound : (Text.signedBound : Int) ≤ UInt64.size := by decide
      omega
    simp only [hunsigned, hsigned, numeral, if_neg hn]
    rw [← toList_toString, String.ofList_toList]

theorem isSeparator_of_isDigit {c : Char} (hc : Text.isDigit c = true) :
    (!isSeparator c) = true := by
  have hne : ∀ x, Text.isDigit x = false → decide (c = x) = false := fun x hx =>
    decide_eq_false (Toml.ne_of_isDigit hc hx)
  rw [isSeparator, hne ',' rfl, hne '{' rfl, hne '}' rfl, hne '[' rfl, hne ']' rfl]
  rfl

theorem ofText_toDigits (n : Nat) :
    ofText (Nat.toDigits 10 n) = .ok (.scalar .environment (numeral n)) := by
  have hdigit : ∀ c ∈ Nat.toDigits 10 n, Text.isDigit c = true :=
    fun _ => Toml.isDigit_of_mem_toDigits
  have hword : ∀ c ∈ Nat.toDigits 10 n, (!isSeparator c) = true := fun c hc =>
    isSeparator_of_isDigit (hdigit c hc)
  have htake : (Nat.toDigits 10 n).takeWhile (!isSeparator ·) = Nat.toDigits 10 n :=
    List.takeWhile_eq_self_iff.mpr hword
  have hdrop : (Nat.toDigits 10 n).dropWhile (!isSeparator ·) = [] :=
    List.dropWhile_eq_nil_iff.mpr hword
  have hread := word_toDigits n
  obtain ⟨d, ds, hds, hd, _⟩ := Toml.toDigits_cons n
  have hskip : skipWhite (d :: ds) = d :: ds := by
    refine List.dropWhile_cons_of_neg ?_
    have hne : ∀ x, Text.isDigit x = false → decide (d = x) = false := fun x hx =>
      decide_eq_false (Toml.ne_of_isDigit hd hx)
    rw [Text.isAsciiWhite, hne ' ' rfl, hne '\t' rfl, hne '\n' rfl, hne '\x0c' rfl, hne '\r' rfl]
    simp
  rw [hds] at htake hdrop hread ⊢
  have hvalue : value (d :: ds).length (d :: ds) = .ok (.scalar .environment (numeral n), []) := by
    rw [value.eq_def]
    simp only [hskip]
    split
    next heq => exact absurd heq (Toml.cons_ne_of_isDigit hd)
    next heq => exact absurd heq (Toml.cons_ne_of_isDigit hd)
    next heq _ => exact absurd heq (Toml.cons_ne_of_isDigit hd)
    next heq _ => exact absurd heq (Toml.cons_ne_of_isDigit hd)
    next heq _ => exact absurd heq (Toml.cons_ne_of_isDigit hd)
    next heq _ => exact absurd heq (Toml.cons_ne_of_isDigit hd)
    next heq => exact absurd heq (Toml.cons_ne_of_isDigit hd)
    next heq => exact absurd heq (Toml.cons_ne_of_isDigit hd)
    next heq => exact absurd heq (Toml.cons_ne_of_isDigit hd)
    next =>
      rw [htake, hdrop, hread]
      rfl
  rw [ofText, hvalue]

/-- **A number in a variable** is its value, if it fits an unsigned word of 64 bits. -/
theorem valueOf_toString (name : Bytes) (n : Nat) :
    valueOf (name, bytesOf (toString n)) = .ok (.scalar .environment (numeral n)) := by
  rw [valueOf, bytesOf, Utf8.lossyFrom_encode, toList_toString]
  exact ofText_toDigits n

end Settings

/-! ## On the command line -/

namespace CommandLine

/-- What is wrong with a number that is no count of 32 bits. -/
def refusalOf (n : Nat) : Refusal :=
  if (n : Int) < Text.signedBound then .countOutOfRange (toString n) n
  else .invalidCount (toString n) .tooLarge

/-- **A number on the command line** is a count if it fits 32 bits. -/
theorem readCount_toString (n : Nat) : readCount (bytesOf (toString n))
    = if n < UInt32.size then .ok (UInt32.ofNat n) else .error (refusalOf n) := by
  unfold readCount
  rw [readText_bytesOf]
  simp only [bind, Except.bind, toList_toString]
  by_cases hfits : (n : Int) < Text.signedBound
  · have hparse : Text.parseInt64 (Nat.toDigits 10 n) = .ok (n : Int) :=
      Text.parseInt_toDigits (by omega)
    simp only [hparse, refusalOf, if_pos hfits]
    by_cases hn : n < UInt32.size
    · rw [if_pos hn, if_pos ⟨Int.natCast_nonneg n, Int.ofNat_lt.mpr hn⟩, Int.toNat_natCast]
    · rw [if_neg hn, if_neg fun h => hn (Int.ofNat_lt.mp h.2)]
  · have hparse : Text.parseInt64 (Nat.toDigits 10 n) = .error .tooLarge :=
      Text.parseInt_toDigits_of_lt (by decide) (by omega)
    have hn : ¬ n < UInt32.size := by
      have hbound : (UInt32.size : Int) ≤ Text.signedBound := by decide
      omega
    simp only [hparse, refusalOf, if_neg hfits, if_neg hn]

/-- Digits do not look like an option. -/
theorem head?_toString (n : Nat) : (bytesOf (toString n)).head? ≠ some dash := by
  obtain ⟨d, ds, hds, hd, _⟩ := Toml.toDigits_cons n
  obtain ⟨a, tail, hchar, hfront⟩ := Utf8.front_encodeChar d (Utf8.encode ds)
  rw [bytesOf, toList_toString, hds, Utf8.encode_cons, hchar]
  intro hdash
  -- a first byte that is a dash would be a dash of the text
  obtain rfl : a = dash := Option.some.inj hdash
  have hother : Utf8.front dash (tail ++ Utf8.encode ds) = .char '-' 1 :=
    Utf8.front_of_width_one (by decide) _
  rw [hfront] at hother
  exact Toml.ne_of_isDigit hd (c := '-') (by decide) (Utf8.Front.char.inj hother).1

theorem eq_empty_of_bytesOf {text : String} (h : bytesOf text = []) : text = "" := by
  have hdecode := Utf8.decode_encode text.toList
  rw [← bytesOf, h, Utf8.decode, Utf8.decodeFrom, List.reverse_nil] at hdecode
  exact String.toList_eq_nil_iff.mp (Except.ok.inj hdecode).symm

/-- The command that runs the script, with a number of cycles. -/
def countArgs (n : Nat) : List Bytes := [bytesOf "run", bytesOf "--repeat", bytesOf (toString n)]

theorem readLevel_repeat (shown : String) (n : Nat) :
    readLevel (.command .run) shown {} [bytesOf "--repeat", bytesOf (toString n)]
      = .ok ({ pending := some (.cycles, some (bytesOf (toString n))) }, none) := by
  obtain ⟨hlong, hequals⟩ := long_proper .cycles
  have harg : bytesOf "--repeat" = dash :: dash :: bytesOf OptionName.cycles.long := by decide
  rw [harg, readLevel_long rfl (shapeOf_long hlong hequals), readLong_long (by decide),
    takeUp_none (v := {}) ⟨rfl, rfl⟩]
  show readLevel (.command .run) shown ⟨{}, some (.cycles, none)⟩ [bytesOf (toString n)] = _
  rw [readLevel_value rfl (head?_toString n), readLevel.eq_1]

/-- **A command line that gives a number of cycles,** perhaps behind a configuration file of its
own, is one if the number fits 32 bits, and otherwise is refused. -/
theorem parse_countArgs {var : Option Bytes} {other : Option String}
    (hvar : fallback var none = .ok other) {config : Option String} {front : List Bytes}
    (hfront : Assignment.SpelledAll (config.map Assignment.config).toList front)
    (hne : config ≠ some "") (n : Nat) :
    parse var (front ++ countArgs n) = if n < UInt32.size then
        .ok { command := some (.run none (some (.ofNat n)))
              options := { config := config.or other } }
      else .error (refusalOf n) := by
  have hvalue : ∀ x ∈ (config.map Assignment.config).toList, x.value ≠ [] := by
    cases config with
    | none => exact fun x hx => absurd hx List.not_mem_nil
    | some text =>
      intro x hx
      rw [List.mem_singleton.mp hx]
      exact fun hnil => hne (congrArg some (eq_empty_of_bytesOf hnil))
  have hglobal : ∀ x ∈ (config.map Assignment.config).toList, x.name ∈ Scope.top.options := by
    intro x hx
    obtain ⟨text, _, rfl⟩ := Option.map_eq_some_iff.mp (Option.mem_toList.mp hx)
    exact List.mem_cons_self
  obtain ⟨outer, houter, hread⟩ := readLevel_fresh hfront hglobal hvalue
    (by cases config <;> simp) (Utf8.lossy (var.getD [])) (countArgs n)
  have htop := hread.trans (readLevel_command houter .run (Utf8.lossy (var.getD []))
    [bytesOf "--repeat", bytesOf (toString n)])
  have hrest := readLevel_repeat (Utf8.lossy (var.getD [])) n
  have hsettle : Reading.settle { pending := some (.cycles, some (bytesOf (toString n))) }
      = if n < UInt32.size then .ok { cycles := some (.ofNat n) } else .error (refusalOf n) := by
    show (readCount _).map _ = _
    rw [readCount_toString]
    split <;> rfl
  have hconfig : (config.map Assignment.config).toList.foldl Values.put {}
      = { options := { config := config } } := by
    cases config <;> rfl
  have hfallback : ∃ given, fallback var config = .ok given
      ∧ config.or given = config.or other := by
    cases config with
    | none => exact ⟨other, hvar, rfl⟩
    | some text => exact ⟨none, by cases var <;> rfl, rfl⟩
  obtain ⟨given, hgiven, hor⟩ := hfallback
  rw [hconfig] at houter
  unfold parse
  simp only [htop, hrest, hsettle, bind, Except.bind]
  by_cases hn : n < UInt32.size
  · simp only [if_pos hn, hvar, houter.settle, hgiven, Option.none_or, hor]
  · simp only [if_neg hn]

end CommandLine

end ScriptHost
