import ScriptHost.Proofs.TomlStrings

/-!
# Documents come back from TOML

A document that is written line by line is read back line by line: each piece of it is
read off the front, and the reader stops right behind the piece, whatever comes then. The
pieces are the values (`Reads`), the lines with a key and a value (`Field`) and the
headers; a whole document of tables with different keys is read as the table of those
tables (`read?_document`).

A number is the piece where this takes an argument, because a date, a time and a number
with a fraction begin in the same way and are looked for first.
-/

namespace ScriptHost.Toml

/-! ## Numbers -/

theorem isDigit_of_mem_toDigits {n : Nat} {c : Char} (h : c ∈ Nat.toDigits 10 n) :
    Text.isDigit c = true :=
  Nat.isDigit_of_mem_toDigits (by decide) (by decide) h

theorem decimalValue_toDigits (n : Nat) : Text.decimalValue (Nat.toDigits 10 n) = n := by
  have h := Nat.ofDigitChars_toDigits (b := 10) (n := n) (by decide) (by decide)
  rw [Nat.ofDigitChars_eq_foldl] at h
  rw [Text.decimalValue, Text.ofDigits, List.foldl_map]
  simpa only [Nat.mul_comm] using h

/-- The digits of a number that is not zero begin with another one. -/
theorem head_toDigits {n : Nat} (hn : 0 < n) : (Nat.toDigits 10 n).head? ≠ some '0' := by
  have hsmall : ∀ d < 10, 0 < d → d.digitChar ≠ '0' := by decide
  induction n using Nat.strongRecOn with
  | ind n ih =>
    by_cases hlt : n < 10
    · rw [Nat.toDigits_of_lt_base hlt, List.head?_cons]
      exact fun h => hsmall n hlt hn (Option.some.inj h)
    · have hle : 10 ≤ n := Nat.not_lt.mp hlt
      have hhead := ih (n / 10) (by omega) (by omega)
      rw [Nat.toDigits_of_base_le (by decide) hle]
      cases hds : Nat.toDigits 10 (n / 10) with
      | nil => exact absurd hds Nat.toDigits_ne_nil
      | cons d ds => rwa [hds] at hhead

/-- What stands behind the last character of a line: a line break, or nothing. -/
def AtLineEnd (rest : List Char) : Prop := rest = [] ∨ ∃ later, rest = '\n' :: later

section Digits

variable {ds rest : List Char} (hds : ∀ c ∈ ds, Text.isDigit c = true) (hrest : AtLineEnd rest)

include hds hrest

theorem digitRun_append : digitRun Text.isDigit (ds ++ rest) = (ds, rest) := by
  induction ds with
  | nil => rcases hrest with rfl | ⟨_, rfl⟩ <;> rfl
  | cons d ds ih =>
    obtain ⟨hd, hds⟩ := List.forall_mem_cons.mp hds
    rw [List.cons_append, digitRun.eq_def]
    simp only [hd, if_true, ih hds]

/-- Behind some of the digits at the end of a line there is a digit or that end. -/
theorem expect_of_fixedDigits {cs : List Char} {k v : Nat}
    (h : fixedDigits k (ds ++ rest) = some (v, cs)) {c : Char}
    (hc : Text.isDigit c = false) (hn : c ≠ '\n') : expect c cs = none := by
  unfold fixedDigits at h
  dsimp only at h
  split at h
  next hall =>
    obtain ⟨hlen, hall⟩ := hall
    cases h
    -- a line break is no digit, so it was not reached
    have hk : k ≤ ds.length := by
      refine Nat.not_lt.mp fun hlt => ?_
      rcases hrest with rfl | ⟨later, rfl⟩
      · rw [List.append_nil, List.length_take] at hlen
        omega
      · obtain ⟨m, rfl⟩ := Nat.exists_eq_add_of_lt hlt
        have hmem : '\n' ∈ (ds ++ '\n' :: later).take (ds.length + m + 1) := by
          rw [Nat.add_assoc, List.take_length_add_append, List.take_succ_cons]
          exact List.mem_append_right _ List.mem_cons_self
        exact absurd (List.all_eq_true.mp hall _ hmem) (by decide)
    rw [List.drop_append_of_le_length hk]
    cases hdrop : ds.drop k with
    | nil =>
      rcases hrest with rfl | ⟨later, rfl⟩
      · rfl
      · rw [List.nil_append, expect, if_neg hn.symm]
    | cons d tail =>
      have hd : Text.isDigit d = true := hds d (List.mem_of_mem_drop (hdrop ▸ List.mem_cons_self))
      rw [List.cons_append, expect, if_neg]
      rintro rfl
      rw [hd] at hc
      cases hc
  next => cases h

/-- Digits at the end of a line are no date and no time. -/
theorem moment_append : moment (ds ++ rest) = none := by
  have hdate : date (ds ++ rest) = none := by
    unfold date
    cases h : fixedDigits 4 (ds ++ rest) with
    | none => rfl
    | some p =>
      have hexpect := expect_of_fixedDigits hds hrest h (c := '-') (by decide) (by decide)
      simp [hexpect]
  have htime : timeOfDay (ds ++ rest) = none := by
    unfold timeOfDay clock
    cases h : fixedDigits 2 (ds ++ rest) with
    | none => rfl
    | some p =>
      have hexpect := expect_of_fixedDigits hds hrest h (c := ':') (by decide) (by decide)
      simp [hexpect]
  unfold moment
  simp [hdate, htime]

end Digits

/-- The digits of a number begin with one, which is zero only for zero. -/
theorem toDigits_cons (n : Nat) :
    ∃ d ds, Nat.toDigits 10 n = d :: ds ∧ Text.isDigit d = true ∧ (d = '0' → ds = []) := by
  have hmem := fun c => isDigit_of_mem_toDigits (n := n) (c := c)
  have hhead := head_toDigits (n := n)
  cases hds : Nat.toDigits 10 n with
  | nil => exact absurd hds Nat.toDigits_ne_nil
  | cons d ds =>
    refine ⟨d, ds, rfl, hmem d (hds ▸ List.mem_cons_self), ?_⟩
    rintro rfl
    rw [hds] at hhead
    rcases Nat.eq_zero_or_pos n with rfl | hn
    · exact (List.cons.inj hds).2.symm
    · exact absurd rfl (hhead hn)

theorem ne_of_isDigit {c d : Char} (hd : Text.isDigit d = true) (hc : Text.isDigit c = false) :
    d ≠ c := by
  rintro rfl
  rw [hd] at hc
  cases hc

theorem cons_ne_of_isDigit {c d : Char} {cs tail : List Char} (hd : Text.isDigit d = true)
    (hc : Text.isDigit c = false := by decide) : d :: cs ≠ c :: tail :=
  fun heq => ne_of_isDigit hd hc (List.cons.inj heq).1

theorem sign_of_isDigit {d : Char} (hd : Text.isDigit d = true) (cs : List Char) :
    sign (d :: cs) = (false, d :: cs) := by
  unfold sign
  split
  next heq => exact absurd heq (cons_ne_of_isDigit hd)
  next heq => exact absurd heq (cons_ne_of_isDigit hd)
  next => rfl

section Number

variable {rest : List Char} (hrest : AtLineEnd rest)

include hrest

/-- The digits of a number are read to their end. -/
theorem wholeDigits_append (n : Nat) :
    wholeDigits (Nat.toDigits 10 n ++ rest) = some (Nat.toDigits 10 n, rest) := by
  have hrun := digitRun_append (fun _ => isDigit_of_mem_toDigits (n := n)) hrest
  obtain ⟨d, ds, hds, hd, hzero⟩ := toDigits_cons n
  rw [hds] at hrun ⊢
  rw [List.cons_append] at hrun ⊢
  unfold wholeDigits
  split
  next heq =>
    obtain ⟨rfl, rfl⟩ := List.cons.inj heq
    rw [hzero rfl]
    rfl
  next => rw [digits1, if_pos hd, hrun]

/-- A number without a fraction and an exponent is not taken for one that has them. -/
theorem float_append (n : Nat) : float (Nat.toDigits 10 n ++ rest) = none := by
  have hwhole := wholeDigits_append hrest n
  obtain ⟨d, ds, hds, hd, _⟩ := toDigits_cons n
  rw [hds, List.cons_append] at hwhole ⊢
  unfold float
  simp only [sign_of_isDigit hd]
  split
  next heq => exact absurd heq (cons_ne_of_isDigit hd)
  next heq => exact absurd heq (cons_ne_of_isDigit hd)
  next =>
    rw [hwhole]
    rcases hrest with rfl | ⟨_, rfl⟩ <;> rfl

/-- A number is read whole, or not at all. -/
theorem integer_append (n : Nat) : integer (Nat.toDigits 10 n ++ rest)
    = if (n : Int) < Text.signedBound then some ((n : Int), rest) else none := by
  have hwhole := wholeDigits_append hrest n
  have hvalue := decimalValue_toDigits n
  obtain ⟨d, ds, hds, hd, hzero⟩ := toDigits_cons n
  rw [hds, List.cons_append] at hwhole ⊢
  rw [hds] at hvalue
  -- a leading zero is the whole number, so it announces no other base
  have hstart : ∀ {x : Char} {cs : List Char}, x ≠ '\n' →
      d :: (ds ++ rest) ≠ '0' :: x :: cs := by
    intro x cs hx heq
    obtain ⟨h0, htail⟩ := List.cons.inj heq
    rw [hzero h0, List.nil_append] at htail
    rcases hrest with rfl | ⟨_, rfl⟩
    · cases htail
    · exact hx (List.cons.inj htail).1.symm
  unfold integer
  split
  next heq => exact absurd heq (hstart (by decide))
  next heq => exact absurd heq (hstart (by decide))
  next heq => exact absurd heq (hstart (by decide))
  next =>
    have hlow : -Text.signedBound ≤ (n : Int) :=
      Int.le_trans (by decide) (Int.natCast_nonneg n)
    simp only [sign_of_isDigit hd]
    rw [hwhole, Option.bind_eq_bind, Option.bind_some]
    simp only [hvalue, Bool.false_eq_true, if_false, hlow, true_and]

end Number

/-! ## Values -/

/-- The characters `cs` in front of a line break are read as the value `v`. -/
def Reads (cs : List Char) (v : Value) : Prop :=
  ∀ rest, value maxDepth (cs ++ '\n' :: rest) = some (v, '\n' :: rest)

/-- What begins with a digit is a scalar. -/
theorem value_of_isDigit {d : Char} (hd : Text.isDigit d = true) (depth : Nat) (cs : List Char) :
    value depth (d :: cs) = scalar (d :: cs) := by
  rw [value.eq_def]
  split
  next heq => exact absurd heq (cons_ne_of_isDigit hd)
  next heq => exact absurd heq (cons_ne_of_isDigit hd)
  next heq => exact absurd heq (cons_ne_of_isDigit hd)
  next heq => exact absurd heq (cons_ne_of_isDigit hd)
  next heq => exact absurd heq (cons_ne_of_isDigit hd)
  next heq => exact absurd heq (cons_ne_of_isDigit hd)
  next => rfl

theorem isBlank_of_isDigit {d : Char} (hd : Text.isDigit d = true) : isBlank d = false := by
  simp [isBlank, ne_of_isDigit hd (c := ' ') (by decide), ne_of_isDigit hd (c := '\t') (by decide)]

/-- The digits of a number at the end of a line are its value, if that fits. -/
theorem value_number (n depth : Nat) {rest : List Char} (hrest : AtLineEnd rest) :
    value depth (Nat.toDigits 10 n ++ rest)
      = if (n : Int) < Text.signedBound then some (.integer n, rest) else none := by
  have hmoment := moment_append (fun _ => isDigit_of_mem_toDigits (n := n)) hrest
  have hfloat := float_append hrest n
  have hinteger := integer_append hrest n
  obtain ⟨d, ds, hds, hd, _⟩ := toDigits_cons n
  rw [hds, List.cons_append] at hmoment hfloat hinteger ⊢
  rw [value_of_isDigit hd]
  unfold scalar
  split
  next heq => exact absurd heq (cons_ne_of_isDigit hd)
  next heq => exact absurd heq (cons_ne_of_isDigit hd)
  next =>
    rw [hmoment, hfloat, hinteger]
    dsimp only
    split <;> rfl

theorem reads_number {n : Nat} (hn : (n : Int) < Text.signedBound) :
    Reads (Nat.toDigits 10 n) (.integer n) := by
  intro rest
  rw [value_number n maxDepth (.inr ⟨rest, rfl⟩), if_pos hn]

/-- A string begins with its delimiter. -/
theorem quoteIn_head (form : Form) (cs : List Char) :
    ∃ tail, quoteIn form cs = '"' :: tail ∨ quoteIn form cs = '\'' :: tail := by
  cases form with
  | basic => exact ⟨_, Or.inl rfl⟩
  | literal => exact ⟨_, Or.inr rfl⟩
  | basicLines => exact ⟨_, Or.inl rfl⟩
  | literalLines => exact ⟨_, Or.inr rfl⟩

/-- What is written as a string is read as one. -/
theorem value_quoteIn (form : Form) (cs rest : List Char) (depth : Nat) :
    value depth (quoteIn form cs ++ rest)
      = (string? (quoteIn form cs ++ rest)).map
        fun (s, rest) => (.text (String.ofList s), rest) := by
  obtain ⟨tail, heq | heq⟩ := quoteIn_head form cs
  · rw [heq, List.cons_append, value.eq_def]
    cases depth <;> rfl
  · rw [heq, List.cons_append, value.eq_def]
    cases depth <;> rfl

theorem reads_quote (cs : List Char) :
    Reads (quoteIn (formOf cs) cs) (.text (String.ofList cs)) := by
  intro rest
  rw [value_quoteIn, string?_quoteIn cs (by simp) (by simp)]
  rfl

/-! ## Lines -/

/-- A key that needs no quotes. -/
structure Bare (key : String) : Prop where
  nonempty : key ≠ ""
  chars : ∀ c ∈ key.toList, isBareKey c = true

instance (key : String) : Decidable (Bare key) :=
  decidable_of_iff (key ≠ "" ∧ key.toList.all isBareKey = true)
    ⟨fun h => ⟨h.1, List.all_eq_true.mp h.2⟩, fun h => ⟨h.1, List.all_eq_true.mpr h.2⟩⟩

theorem Bare.eq_cons {key : String} (h : Bare key) :
    ∃ c cs, key.toList = c :: cs ∧ isBareKey c = true := by
  cases hkey : key.toList with
  | nil => exact absurd (String.toList_eq_nil_iff.mp hkey) h.nonempty
  | cons c cs =>
    refine ⟨c, cs, rfl, h.chars c ?_⟩
    rw [hkey]
    exact List.mem_cons_self

theorem ne_of_isBareKey {c x : Char} (hc : isBareKey c = true)
    (hx : isBareKey x = false := by decide) : c ≠ x := by
  rintro rfl
  rw [hc] at hx
  cases hx

theorem cons_ne_of_isBareKey {c x : Char} {cs tail : List Char} (hc : isBareKey c = true)
    (hx : isBareKey x = false := by decide) : c :: cs ≠ x :: tail :=
  fun heq => ne_of_isBareKey hc hx (List.cons.inj heq).1

/-- A line with a key and a value. -/
structure Field where
  key : String
  written : List Char
  value : Value

/-- The characters of the line. -/
def Field.line (f : Field) : List Char :=
  f.key.toList ++ ' ' :: '=' :: ' ' :: (f.written ++ ['\n'])

/-- A key that needs no quotes and a value that is read back. -/
structure Field.Good (f : Field) : Prop where
  bare : Bare f.key
  reads : Reads f.written f.value
  /-- The value does not begin with a blank. -/
  head : ∃ c cs, f.written = c :: cs ∧ isBlank c = false
  cr : '\r' ∉ f.written

section Lines

/-- A bare key is read up to the character behind it. -/
theorem simpleKey_append {key : String} (hbare : Bare key) {d : Char} (hd : isBareKey d = false)
    (rest : List Char) : simpleKey (key.toList ++ d :: rest) = some (key, d :: rest) := by
  have htake : (key.toList ++ d :: rest).takeWhile isBareKey = key.toList := by
    rw [List.takeWhile_append_of_pos hbare.chars, List.takeWhile_cons_of_neg (by simp [hd]),
      List.append_nil]
  have hdrop : (key.toList ++ d :: rest).dropWhile isBareKey = d :: rest := by
    rw [List.dropWhile_append_of_pos hbare.chars, List.dropWhile_cons_of_neg (by simp [hd])]
  obtain ⟨c, cs, hkey, hc⟩ := hbare.eq_cons
  rw [simpleKey.eq_def]
  split
  next heq =>
    rw [hkey] at heq
    exact absurd heq (cons_ne_of_isBareKey hc)
  next heq =>
    rw [hkey] at heq
    exact absurd heq (cons_ne_of_isBareKey hc)
  next =>
    have hne : key.toList ≠ [] := by
      rw [hkey]
      exact List.cons_ne_nil c cs
    simp only [htake, hdrop, hne, String.ofList_toList, if_false]

theorem skipBlank_of_head {c : Char} (hc : isBlank c = false) (cs : List Char) :
    skipBlank (c :: cs) = c :: cs := by
  rw [skipBlank, List.dropWhile_cons_of_neg (by simp [hc])]

theorem isBlank_of_isBareKey {c : Char} (hc : isBareKey c = true) : isBlank c = false := by
  rw [isBlank, Bool.or_eq_false_iff, decide_eq_false_iff_not, decide_eq_false_iff_not]
  exact ⟨ne_of_isBareKey hc, ne_of_isBareKey hc⟩

/-- A bare key is a dotted key without dots. -/
theorem dottedKey_append {key : String} (hbare : Bare key) {d : Char} (hd : isBareKey d = false)
    {rest rest' : List Char} (hskip : skipBlank (d :: rest) = rest')
    (hdot : expect '.' rest' = none) :
    dottedKey (key.toList ++ d :: rest) = some (([], key), rest') := by
  have hkey := simpleKey_append hbare hd rest
  have hstart : skipBlank (key.toList ++ d :: rest) = key.toList ++ d :: rest := by
    obtain ⟨c, cs, heq, hc⟩ := hbare.eq_cons
    rw [heq]
    exact skipBlank_of_head (isBlank_of_isBareKey hc) _
  unfold dottedKey
  dsimp only
  rw [pieces.eq_def]
  simp [hstart, hkey, hskip, hdot, maxDepth]

/-- What stands behind a bare key and an equals sign is read as its value. -/
theorem assignment_bare {key : String} (hbare : Bare key) {c : Char} (hc : isBlank c = false)
    (cs : List Char) (read : Reader Value) :
    assignment read (key.toList ++ ' ' :: '=' :: ' ' :: c :: cs)
      = (read (c :: cs)).map fun (v, rest) => (([], key, v), rest) := by
  -- the blank behind the equals sign is skipped, and the value does not begin with another
  have hskip : skipBlank (' ' :: c :: cs) = c :: cs := skipBlank_of_head hc _
  have hkey : dottedKey (key.toList ++ ' ' :: '=' :: ' ' :: c :: cs)
      = some (([], key), '=' :: ' ' :: c :: cs) := dottedKey_append hbare (by decide) rfl rfl
  unfold assignment
  rw [hkey]
  simp only [expect, hskip, Option.bind_eq_bind, Option.bind_some, if_true]
  cases read (c :: cs) <;> rfl

theorem assignment_append {f : Field} (hf : f.Good) (rest : List Char) :
    assignment (value maxDepth) (f.line ++ rest)
      = some (([], f.key, f.value), '\n' :: rest) := by
  obtain ⟨c, cs, hwritten, hc⟩ := hf.head
  have hreads := hf.reads rest
  have hline : f.line ++ rest
      = f.key.toList ++ ' ' :: '=' :: ' ' :: (f.written ++ '\n' :: rest) := by
    simp [Field.line]
  rw [hwritten, List.cons_append] at hreads hline
  rw [hline, assignment_bare hf.bare hc, hreads]
  rfl

/-- A line that does not begin like a comment or an empty line is not skipped. -/
theorem skipLines_of_head {c : Char} (hc : isBlank c = false) (hcomment : c ≠ '#')
    (hbreak : c ≠ '\n') (cs : List Char) : skipLines (c :: cs) = c :: cs := by
  have hskip : skipComment (skipBlank (c :: cs)) = c :: cs := by
    rw [skipBlank_of_head hc, skipComment]
    intro tail heq
    exact hcomment (List.cons.inj heq).1
  rw [skipLines.eq_def, hskip]
  split
  next heq => exact absurd (List.cons.inj heq).1 hbreak
  next => rfl

theorem lineEnd_break (rest : List Char) : lineEnd ('\n' :: rest) = some rest := rfl

/-- A field as a line of a document. -/
def Field.toLine (f : Field) : Line := .assignment [] f.key f.value

/-- A line that begins with a bare key is an assignment. -/
theorem lines_bare {key : String} (hbare : Bare key) (cs : List Char) :
    lines (key.toList ++ cs) = match assignment (value maxDepth) (key.toList ++ cs) with
      | none => none
      | some ((path, key', v), rest) =>
        match lineEnd rest with
        | none => none
        | some rest =>
          if rest.length < (key.toList ++ cs).length then
            (lines rest).map (.assignment path key' v :: ·)
          else none := by
  obtain ⟨c, tail, hkey, hc⟩ := hbare.eq_cons
  rw [hkey, List.cons_append, lines.eq_def, skipLines_of_head (isBlank_of_isBareKey hc)
    (ne_of_isBareKey hc) (ne_of_isBareKey hc)]
  split
  next hnil => cases hnil
  next hbracket => exact absurd hbracket (cons_ne_of_isBareKey hc)
  next => rfl

theorem lines_field {f : Field} (hf : f.Good) (rest : List Char) :
    lines (f.line ++ rest) = (lines rest).map (f.toLine :: ·) := by
  have hassignment := assignment_append hf rest
  have hlen : rest.length < (f.line ++ rest).length := by
    rw [List.length_append]
    simp only [Field.line, List.length_append, List.length_cons]
    omega
  rw [Field.line, List.append_assoc] at hassignment hlen ⊢
  rw [lines_bare hf.bare, hassignment]
  simp only [lineEnd_break, hlen, if_true]
  rfl

/-- The header of a table with a bare name. -/
def headerLine (name : String) : List Char := '[' :: (name.toList ++ [']', '\n'])

theorem lines_header {name : String} (hbare : Bare name) {cs rest : List Char}
    (hskip : skipLines cs = headerLine name ++ rest) (hlen : rest.length < cs.length) :
    lines cs = (lines rest).map (.header ⟨false, [], name, []⟩ :: ·) := by
  have hkey : dottedKey (name.toList ++ ']' :: '\n' :: rest)
      = some (([], name), ']' :: '\n' :: rest) :=
    dottedKey_append hbare (by decide) rfl rfl
  have hheader : header ('[' :: (name.toList ++ ']' :: '\n' :: rest))
      = some (⟨false, [], name, []⟩, rest) := by
    obtain ⟨c, cs, hname, hc⟩ := hbare.eq_cons
    rw [hname, List.cons_append] at hkey ⊢
    rw [header]
    · rw [hkey]
      rfl
    · intro tail heq
      exact absurd heq (cons_ne_of_isBareKey hc)
  have hcs : headerLine name ++ rest = '[' :: (name.toList ++ ']' :: '\n' :: rest) := by
    simp [headerLine]
  rw [lines.eq_def, hskip, hcs]
  simp only [hheader, hlen, if_true]

end Lines

theorem lines_fields {fs : List Field} (hfs : ∀ f ∈ fs, f.Good) (rest : List Char) :
    lines (fs.flatMap Field.line ++ rest) = (lines rest).map (fs.map Field.toLine ++ ·) := by
  induction fs with
  | nil =>
    rw [List.flatMap_nil, List.nil_append]
    cases lines rest <;> rfl
  | cons f fs ih =>
    obtain ⟨hf, hfs⟩ := List.forall_mem_cons.mp hfs
    rw [List.flatMap_cons, List.append_assoc, lines_field hf, ih hfs, Option.map_map]
    rfl

/-! ## Tables -/

/-- A table with a header of its own and a line for each of its fields. -/
structure Block where
  name : String
  fields : List Field

namespace Block

def chars (b : Block) : List Char := headerLine b.name ++ b.fields.flatMap Field.line

def toLines (b : Block) : List Line :=
  .header ⟨false, [], b.name, []⟩ :: b.fields.map Field.toLine

def entries (b : Block) : Table := b.fields.map fun f => (f.key, f.value)

def toSection (b : Block) : Section :=
  ⟨false, [], b.name, b.entries.map fun e => ([], e.1, e.2)⟩

/-- The fields can be read, and no key occurs twice. -/
structure Good (b : Block) : Prop where
  bare : Bare b.name
  fields : ∀ f ∈ b.fields, f.Good
  nodup : (b.entries.map Prod.fst).Nodup

end Block

theorem skipLines_header (name : String) (rest : List Char) :
    skipLines (headerLine name ++ rest) = headerLine name ++ rest :=
  skipLines_of_head (by decide) (by decide) (by decide) _

theorem skipLines_break_header (name : String) (rest : List Char) :
    skipLines ('\n' :: (headerLine name ++ rest)) = headerLine name ++ rest := by
  rw [skipLines.eq_def]
  show (if _ then skipLines (headerLine name ++ rest) else _) = _
  rw [if_pos (by simp), skipLines_header]

theorem lines_block {b : Block} (hb : b.Good) {cs rest : List Char}
    (hskip : skipLines cs = b.chars ++ rest) (hlen : (b.chars ++ rest).length ≤ cs.length) :
    lines cs = (lines rest).map (b.toLines ++ ·) := by
  rw [Block.chars, List.append_assoc] at hskip hlen
  have hshorter : (b.fields.flatMap Field.line ++ rest).length < cs.length := by
    refine Nat.lt_of_lt_of_le ?_ hlen
    simp only [headerLine, List.length_append, List.length_cons]
    omega
  rw [lines_header hb.bare hskip hshorter, lines_fields hb.fields, Option.map_map]
  rfl

/-- Tables behind the first, each with an empty line in front. -/
def laterBlocks (bs : List Block) : List Char := bs.flatMap fun b => '\n' :: b.chars

theorem lines_laterBlocks {bs : List Block} (hbs : ∀ b ∈ bs, b.Good) {rest : List Char}
    (hrest : lines rest = some []) :
    lines (laterBlocks bs ++ rest) = some (bs.flatMap Block.toLines) := by
  induction bs with
  | nil => exact hrest
  | cons b bs ih =>
    obtain ⟨hb, hbs⟩ := List.forall_mem_cons.mp hbs
    have hsplit : laterBlocks (b :: bs) ++ rest
        = '\n' :: (b.chars ++ (laterBlocks bs ++ rest)) := by
      simp [laterBlocks]
    have hskip : skipLines ('\n' :: (b.chars ++ (laterBlocks bs ++ rest)))
        = b.chars ++ (laterBlocks bs ++ rest) := by
      rw [Block.chars, List.append_assoc]
      exact skipLines_break_header _ _
    rw [hsplit, lines_block hb hskip (Nat.le_succ _), ih hbs]
    rfl

/-- The lines of a table are its section. -/
theorem sections_toLines (b : Block) {ls : List Line} {ss : List Section}
    (h : sections ls = ([], ss)) : sections (b.toLines ++ ls) = ([], b.toSection :: ss) := by
  -- the lines of fields go to the header in front of them
  have hfields : ∀ fs : List Field, sections (fs.map Field.toLine ++ ls)
      = (fs.map fun f => ([], f.key, f.value), ss) := by
    intro fs
    induction fs with
    | nil => exact h
    | cons f fs ih =>
      rw [List.map_cons, List.cons_append, Field.toLine, sections, ih]
      rfl
  rw [Block.toLines, List.cons_append, sections, hfields]
  simp [Block.toSection, Block.entries]

theorem sections_blocks (bs : List Block) :
    sections (bs.flatMap Block.toLines) = ([], bs.map Block.toSection) := by
  induction bs with
  | nil => rfl
  | cons b bs ih => rw [List.flatMap_cons, sections_toLines b ih, List.map_cons]

/-- A table that lacks a key gets it at its end. -/
theorem lookup_eq_none {t : Table} {key : String} (h : key ∉ t.map Prod.fst) :
    t.lookup key = none := by
  rw [List.lookup_eq_none_iff]
  intro e he
  rw [bne_iff_ne]
  rintro rfl
  exact h (List.mem_map_of_mem he)

theorem set_of_notMem {t : Table} {key : String} (h : key ∉ t.map Prod.fst) (v : Value) :
    t.set key v = t ++ [(key, v)] := by
  induction t with
  | nil => rfl
  | cons e t ih =>
    rw [List.map_cons, List.mem_cons, not_or] at h
    obtain ⟨k, w⟩ := e
    rw [Table.set, if_neg (Ne.symm h.1), ih h.2, List.cons_append]

/-- Fields with different keys are a table as they stand. -/
theorem assignAll_entries (t : Table) {es : Table} (h : ((t ++ es).map Prod.fst).Nodup) :
    Table.assignAll .header t (es.map fun e => ([], e.1, e.2)) = some (t ++ es) := by
  induction es generalizing t with
  | nil => simp [Table.assignAll]
  | cons e es ih =>
    have hnew : e.1 ∉ t.map Prod.fst := by
      rw [List.map_append, List.map_cons] at h
      intro hmem
      exact (List.nodup_append.mp h).2.2 e.1 hmem e.1 List.mem_cons_self rfl
    have happend : t ++ e :: es = (t ++ [e]) ++ es := by simp
    have hassign : Table.assign .header t [] e.1 e.2 = some (t ++ [e]) := by
      rw [Table.assign, Table.update, if_neg (by decide), lookup_eq_none hnew]
      rfl
    rw [happend] at h ⊢
    rw [← ih (t ++ [e]) h]
    unfold Table.assignAll
    rw [List.map_cons, List.foldlM_cons, hassign]
    rfl

theorem addSection_block {t : Table} {b : Block} (hb : b.Good)
    (h : b.name ∉ t.map Prod.fst) :
    t.addSection b.toSection = some (t ++ [(b.name, .table .header b.entries)]) := by
  have hentries : Table.assignAll .header [] (b.entries.map fun e => ([], e.1, e.2))
      = some b.entries := assignAll_entries [] hb.nodup
  rw [Table.addSection, Block.toSection, Table.update, if_neg Bool.false_ne_true, lookup_eq_none h]
  simp only [hentries, set_of_notMem h]
  rfl

/-- The entry of a block in its document. -/
def Block.entry (b : Block) : String × Value :=
  (b.name, .table .header b.entries)

theorem addSections_blocks {bs : List Block} (hbs : ∀ b ∈ bs, b.Good) (t : Table)
    (h : ((t ++ bs.map Block.entry).map Prod.fst).Nodup) :
    (bs.map Block.toSection).foldlM Table.addSection t = some (t ++ bs.map Block.entry) := by
  induction bs generalizing t with
  | nil => simp
  | cons b bs ih =>
    obtain ⟨hb, hbs⟩ := List.forall_mem_cons.mp hbs
    have hnew : b.name ∉ t.map Prod.fst := by
      rw [List.map_append, List.map_cons, List.map_cons] at h
      intro hmem
      exact (List.nodup_append.mp h).2.2 _ hmem _ List.mem_cons_self rfl
    have happend : t ++ (b :: bs).map Block.entry = (t ++ [b.entry]) ++ bs.map Block.entry := by
      simp
    rw [happend] at h ⊢
    rw [← ih hbs (t ++ [b.entry]) h, List.map_cons, List.foldlM_cons, addSection_block hb hnew]
    rfl

/-! ## Documents -/

/-- A text without carriage returns has its line breaks as they should be. -/
theorem unifyBreaks_of_notMem {cs : List Char} (h : '\r' ∉ cs) : unifyBreaks cs = cs := by
  induction cs with
  | nil => rfl
  | cons c cs ih =>
    rw [List.mem_cons, not_or] at h
    rw [unifyBreaks, ih h.2]
    intro tail hc
    exact absurd hc.symm h.1

theorem Bare.cr_notMem {key : String} (h : Bare key) : '\r' ∉ key.toList :=
  fun hmem => absurd (h.chars _ hmem) (by decide)

theorem Field.cr_notMem_line {f : Field} (hf : f.Good) : '\r' ∉ f.line := by
  simp [Field.line, hf.bare.cr_notMem, hf.cr]

theorem Block.cr_notMem_chars {b : Block} (hb : b.Good) : '\r' ∉ b.chars := by
  have hfields : '\r' ∉ b.fields.flatMap Field.line := by
    rw [List.mem_flatMap]
    rintro ⟨f, hf, hmem⟩
    exact Field.cr_notMem_line (hb.fields f hf) hmem
  simp [Block.chars, headerLine, hb.bare.cr_notMem, hfields]

theorem cr_notMem_laterBlocks {bs : List Block} (hbs : ∀ b ∈ bs, b.Good) :
    '\r' ∉ laterBlocks bs := by
  rw [laterBlocks, List.mem_flatMap]
  rintro ⟨b, hb, hmem⟩
  rcases List.mem_cons.mp hmem with h | h
  · exact absurd h (by decide)
  · exact Block.cr_notMem_chars (hbs b hb) h

/-- The lines of tables are read as the tables, if the text has no byte order mark and no carriage
return. -/
theorem read?_of_lines {bs : List Block} (hgood : ∀ b ∈ bs, b.Good)
    (hnodup : ((bs.map Block.entry).map Prod.fst).Nodup) {cs : List Char} (hmark : dropMark cs = cs)
    (hcr : '\r' ∉ cs) (hlines : lines cs = some (bs.flatMap Block.toLines)) :
    read? cs = some (bs.map Block.entry) := by
  have htable := addSections_blocks hgood [] hnodup
  unfold read?
  rw [hmark, unifyBreaks_of_notMem hcr, hlines]
  simp only [Option.bind_eq_bind, Option.bind_some, sections_blocks]
  exact htable

/-- Behind the last line there are no more. -/
theorem lines_end {rest : List Char} (hrest : rest = [] ∨ rest = ['\n']) :
    lines rest = some [] := by
  have hnil : skipLines [] = [] := by
    rw [skipLines.eq_def]
    rfl
  have hbreak : skipLines ['\n'] = [] := by
    rw [skipLines.eq_def]
    exact hnil
  rcases hrest with rfl | rfl
  · rw [lines.eq_def, hnil]
  · rw [lines.eq_def, hbreak]

/-- **A document is read as its tables**, with an empty line at its end or without. -/
theorem read?_document {b : Block} {bs : List Block} (hgood : ∀ x ∈ b :: bs, x.Good)
    (hnodup : (((b :: bs).map Block.entry).map Prod.fst).Nodup) {rest : List Char}
    (hrest : rest = [] ∨ rest = ['\n']) :
    read? (b.chars ++ laterBlocks bs ++ rest) = some ((b :: bs).map Block.entry) := by
  obtain ⟨hb, hbs⟩ := List.forall_mem_cons.mp hgood
  have hlines : lines (b.chars ++ laterBlocks bs ++ rest)
      = some ((b :: bs).flatMap Block.toLines) := by
    have hskip : skipLines (b.chars ++ (laterBlocks bs ++ rest))
        = b.chars ++ (laterBlocks bs ++ rest) := by
      rw [Block.chars, List.append_assoc]
      exact skipLines_header _ _
    rw [List.append_assoc, lines_block hb hskip (Nat.le_refl _),
      lines_laterBlocks hbs (lines_end hrest)]
    rfl
  refine read?_of_lines hgood hnodup rfl ?_ hlines
  rw [List.mem_append, List.mem_append, not_or, not_or]
  refine ⟨⟨Block.cr_notMem_chars hb, cr_notMem_laterBlocks hbs⟩, ?_⟩
  rcases hrest with rfl | rfl <;> decide

end ScriptHost.Toml
