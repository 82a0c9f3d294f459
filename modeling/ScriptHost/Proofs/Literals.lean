import ScriptHost.Proofs.Dictionaries
import ScriptHost.Proofs.Spelling

/-!
# Literals of numbers

What a reader takes for a number is a language. Here are the languages of the readers that
a word of a variable goes through, stated without the readers: an integer in decimal digits
that a word of 64 bits holds (`integerLiteral_iff`), and digits around a point, perhaps
with an exponent (`floatLiteral_iff`).

Both directions are shown. That a reader succeeds on nothing else is what keeps a text a
text; that it does succeed on all of a language is what makes the language decidable.
-/

namespace ScriptHost

namespace Text

/-- Decimal digits, at least one. -/
structure Digits (ds : List Char) : Prop where
  ne_nil : ds ≠ []
  isDigit : ∀ c ∈ ds, Text.isDigit c = true

inductive Sign : List Char → Prop where
  | none : Sign []
  | plus : Sign ['+']
  | minus : Sign ['-']

/-- An integer that an unsigned word of 64 bits holds or, behind a minus, a signed one. -/
inductive IntegerLiteral : List Char → Prop where
  | bare {ds : List Char} : Digits ds → decimalValue ds < 2 ^ 64 → IntegerLiteral ds
  | plus {ds : List Char} : Digits ds → decimalValue ds < 2 ^ 64 → IntegerLiteral ('+' :: ds)
  | minus {ds : List Char} : Digits ds → decimalValue ds ≤ 2 ^ 63 → IntegerLiteral ('-' :: ds)

inductive Exponent : List Char → Prop where
  | absent : Exponent []
  | present {e : Char} {sign ds : List Char} : e = 'e' ∨ e = 'E' → Sign sign → Digits ds →
      Exponent (e :: (sign ++ ds))

/-- Digits with a point in front of them, behind them or among them. -/
inductive FloatLiteral : List Char → Prop where
  | mk {sign whole places exponent : List Char} : Sign sign → Digits (whole ++ places) →
      Exponent exponent → FloatLiteral (sign ++ (whole ++ '.' :: (places ++ exponent)))

theorem Digits.exists_cons {ds : List Char} (h : Digits ds) :
    ∃ d ds', ds = d :: ds' ∧ Text.isDigit d = true := by
  cases ds with
  | nil => exact absurd rfl h.ne_nil
  | cons d ds => exact ⟨d, ds, rfl, h.isDigit d List.mem_cons_self⟩

/-! ## Integers -/

theorem decimalValue_eq (ds : List Char) : decimalValue ds = decimalFrom 0 ds := by
  rw [decimalValue, ofDigits, List.foldl_map, decimalFrom]

section Steps

variable {step : Int → Char → Except IntFault Int} {spelled : Nat → Int} {most : Nat}

/-- Digits are read one after the other while the number that they make is in the range. The
numbers only grow, so the last one decides. -/
theorem foldlM_digits_eq_ok_iff
    (hstep : ∀ m c n, step (spelled m) c = .ok n ↔ isDigit c = true
      ∧ m * 10 + (c.toNat - '0'.toNat) ≤ most ∧ n = spelled (m * 10 + (c.toNat - '0'.toNat)))
    {m : Nat} (hm : m ≤ most) (ds : List Char) (n : Int) :
    ds.foldlM step (spelled m) = .ok n ↔ (∀ c ∈ ds, isDigit c = true) ∧ decimalFrom m ds ≤ most
      ∧ n = spelled (decimalFrom m ds) := by
  induction ds generalizing m with
  | nil =>
    constructor
    · intro h
      cases h
      exact ⟨fun c hc => absurd hc List.not_mem_nil, hm, rfl⟩
    · rintro ⟨_, _, rfl⟩
      rfl
  | cons c ds ih =>
    have hnext : decimalFrom m (c :: ds) = decimalFrom (m * 10 + (c.toNat - '0'.toNat)) ds := rfl
    have hgrows := le_decimalFrom (m * 10 + (c.toNat - '0'.toNat)) ds
    rw [Settings.foldlM_cons_eq_ok_iff, List.forall_mem_cons, hnext]
    constructor
    · rintro ⟨_, hc, hrest⟩
      obtain ⟨hdigit, hfits, rfl⟩ := (hstep m c _).mp hc
      obtain ⟨hds, hlast⟩ := (ih hfits).mp hrest
      exact ⟨⟨hdigit, hds⟩, hlast⟩
    · rintro ⟨⟨hdigit, hds⟩, hlast, hn⟩
      exact ⟨_, (hstep m c _).mpr ⟨hdigit, by omega, rfl⟩, (ih (by omega)).mpr ⟨hds, hlast, hn⟩⟩

/-- A reader that wants at least one digit takes just the numbers in its range. -/
theorem digits_eq_ok_iff
    (hstep : ∀ m c n, step (spelled m) c = .ok n ↔ isDigit c = true
      ∧ m * 10 + (c.toNat - '0'.toNat) ≤ most ∧ n = spelled (m * 10 + (c.toNat - '0'.toNat)))
    (fault : IntFault) (ds : List Char) (n : Int) :
    (if ds.isEmpty then .error fault else ds.foldlM step (spelled 0)) = .ok n
      ↔ Digits ds ∧ decimalValue ds ≤ most ∧ n = spelled (decimalValue ds) := by
  have hread := foldlM_digits_eq_ok_iff hstep (Nat.zero_le most) ds n
  rw [← decimalValue_eq] at hread
  by_cases hds : ds = []
  · rw [if_pos (List.isEmpty_iff.mpr hds)]
    exact iff_of_false (fun h => by cases h) fun h => h.1.ne_nil hds
  · rw [if_neg (mt List.isEmpty_iff.mp hds), hread]
    exact ⟨fun h => ⟨⟨hds, h.1⟩, h.2⟩, fun h => ⟨h.1.isDigit, h.2⟩⟩

end Steps

theorem guarded_eq_ok_iff {ε α : Type} {p q : Prop} [Decidable p] [Decidable q] {a b : α}
    {e e' : ε} :
    (if p then if q then Except.ok a else .error e else .error e') = .ok b ↔ p ∧ q ∧ b = a := by
  by_cases hp : p <;> by_cases hq : q <;> simp [hp, hq, eq_comm]

variable {cs ds : List Char} {n : Int}

/-- What is read behind a plus, or without a sign. -/
theorem positive_eq_ok_iff (most : Nat) : parseInt.positive most ds = .ok n
    ↔ Digits ds ∧ decimalValue ds ≤ most ∧ n = decimalValue ds := by
  have hstep : ∀ (m : Nat) c n, readDigit most m c = .ok n ↔ isDigit c = true
      ∧ m * 10 + (c.toNat - '0'.toNat) ≤ most
      ∧ n = ((m * 10 + (c.toNat - '0'.toNat) : Nat) : Int) := by
    intro m c n
    refine guarded_eq_ok_iff.trans (and_congr_right fun _ => and_congr ?_ ?_) <;> omega
  exact digits_eq_ok_iff hstep .invalidDigit ds n

/-- What one more digit makes of a number behind a minus. -/
def readDigitDown (low n : Int) (c : Char) : Except IntFault Int :=
  if isDigit c then
    let n := n * 10 - (c.toNat - '0'.toNat : Nat)
    if low ≤ n then .ok n else .error .tooSmall
  else .error .invalidDigit

/-- What is read behind a minus. -/
theorem negative_eq_ok_iff (most : Nat) : parseInt.negative (-most) ds = .ok n
    ↔ Digits ds ∧ decimalValue ds ≤ most ∧ n = -decimalValue ds := by
  have hstep : ∀ (m : Nat) c n, readDigitDown (-most) (-m) c = .ok n ↔ isDigit c = true
      ∧ m * 10 + (c.toNat - '0'.toNat) ≤ most
      ∧ n = -((m * 10 + (c.toNat - '0'.toNat) : Nat) : Int) := by
    intro m c n
    refine guarded_eq_ok_iff.trans (and_congr_right fun _ => and_congr ?_ ?_) <;> omega
  exact digits_eq_ok_iff hstep .invalidDigit ds n

theorem parseInt_of_digits (low high : Int) (h : Digits ds) :
    parseInt low high ds = parseInt.positive high ds := by
  obtain ⟨d, ds, rfl, hd⟩ := h.exists_cons
  unfold parseInt
  split
  next heq => cases heq
  next heq => exact absurd heq (Toml.cons_ne_of_isDigit hd)
  next heq => exact absurd heq (Toml.cons_ne_of_isDigit hd)
  next => rfl

/-- **The integers that are read** in a range that has zero. -/
theorem parseInt_eq_ok_iff (low high : Nat) (cs : List Char) (n : Int) :
    parseInt (-low) high cs = .ok n ↔
      ∃ ds, Digits ds ∧
        ((cs = ds ∨ cs = '+' :: ds) ∧ decimalValue ds ≤ high ∧ n = decimalValue ds
          ∨ cs = '-' :: ds ∧ 0 < low ∧ decimalValue ds ≤ low ∧ n = -decimalValue ds) := by
  constructor
  · intro h
    unfold parseInt at h
    split at h
    next => cases h
    next ds =>
      obtain ⟨hds, hvalue⟩ := (positive_eq_ok_iff high).mp h
      exact ⟨ds, hds, .inl ⟨.inr rfl, hvalue⟩⟩
    next ds =>
      split at h
      next hlow =>
        obtain ⟨hds, hvalue⟩ := (negative_eq_ok_iff low).mp h
        exact ⟨ds, hds, .inr ⟨rfl, by omega, hvalue⟩⟩
      next => cases h
    next =>
      obtain ⟨hds, hvalue⟩ := (positive_eq_ok_iff high).mp h
      exact ⟨cs, hds, .inl ⟨.inl rfl, hvalue⟩⟩
  · rintro ⟨ds, hds, ⟨rfl | rfl, hvalue⟩ | ⟨rfl, hlow, hvalue⟩⟩
    · rw [parseInt_of_digits _ _ hds]
      exact (positive_eq_ok_iff high).mpr ⟨hds, hvalue⟩
    · exact (positive_eq_ok_iff high).mpr ⟨hds, hvalue⟩
    · rw [parseInt, if_pos (by omega)]
      exact (negative_eq_ok_iff low).mpr ⟨hds, hvalue⟩

/-- **An integer literal** is what one of the two readers of integers takes. -/
theorem integerLiteral_iff :
    IntegerLiteral cs ↔ (∃ n, parseNat64 cs = .ok n) ∨ ∃ n, parseInt64 cs = .ok n := by
  have hunsigned := parseInt_eq_ok_iff 0 (2 ^ 64 - 1) cs
  have hsigned := parseInt_eq_ok_iff (2 ^ 63) (2 ^ 63 - 1) cs
  constructor
  · intro h
    cases h with
    | @bare _ hds hvalue =>
      exact .inl ⟨_, (hunsigned _).mpr ⟨cs, hds, .inl ⟨.inl rfl, by omega, rfl⟩⟩⟩
    | @plus ds hds hvalue =>
      exact .inl ⟨_, (hunsigned _).mpr ⟨ds, hds, .inl ⟨.inr rfl, by omega, rfl⟩⟩⟩
    | @minus ds hds hvalue =>
      exact .inr ⟨_, (hsigned _).mpr ⟨ds, hds, .inr ⟨rfl, by omega, hvalue, rfl⟩⟩⟩
  · rintro (⟨n, h⟩ | ⟨n, h⟩)
    · obtain ⟨ds, hds, ⟨rfl | rfl, hvalue, _⟩ | ⟨rfl, hlow, _⟩⟩ := (hunsigned n).mp h
      · exact .bare hds (by omega)
      · exact .plus hds (by omega)
      · omega
    · obtain ⟨ds, hds, ⟨rfl | rfl, hvalue, _⟩ | ⟨rfl, _, hvalue, _⟩⟩ := (hsigned n).mp h
      · exact .bare hds (by omega)
      · exact .plus hds (by omega)
      · exact .minus hds hvalue

end Text

/-! ## Numbers with a point -/

namespace Binary64

open Text

variable {cs : List Char}

theorem isSome_digits?_iff : (parse?.digits? cs).isSome ↔ Digits cs := by
  have hdigits : Digits cs ↔ cs ≠ [] ∧ cs.all Text.isDigit := by
    rw [List.all_eq_true]
    exact ⟨fun h => ⟨h.ne_nil, h.isDigit⟩, fun h => ⟨h.1, h.2⟩⟩
  rw [hdigits, parse?.digits?]
  split <;> simp_all

/-- What is read behind the digits. -/
theorem isSome_exponent?_iff : (parse?.exponent? cs).isSome ↔ Exponent cs := by
  have hvalue : ∀ (ds : List Char) (f : Nat → Int),
      ((parse?.digits? ds).bind fun n => some (f n)).isSome ↔ Digits ds := by
    intro ds f
    rw [← isSome_digits?_iff]
    cases parse?.digits? ds <;> rfl
  constructor
  · intro h
    unfold parse?.exponent? at h
    split at h
    next => exact .absent
    next c r =>
      split at h
      next hc =>
        have he : c = 'e' ∨ c = 'E' := by simpa using hc
        split at h
        next ds => exact .present he .minus ((hvalue ds _).mp (by simpa using h))
        next ds => exact .present he .plus ((hvalue ds _).mp (by simpa using h))
        next => exact .present he .none ((hvalue r _).mp (by simpa using h))
      next => cases h
  · intro h
    cases h with
    | absent => rfl
    | @present e sign ds he hsign hds =>
      have hcond : (e = 'e' || e = 'E') = true := by simpa using he
      unfold parse?.exponent?
      dsimp only
      rw [if_pos hcond]
      cases hsign with
      | none =>
        obtain ⟨d, ds', rfl, hd⟩ := hds.exists_cons
        rw [List.nil_append]
        split
        next heq => exact absurd heq (Toml.cons_ne_of_isDigit hd)
        next heq => exact absurd heq (Toml.cons_ne_of_isDigit hd)
        next => simpa using (hvalue _ _).mpr hds
      | plus => simpa using (hvalue _ _).mpr hds
      | minus => simpa using (hvalue _ _).mpr hds

/-- The number of the digits in front of a point and behind it, if there are any, and of what
stands behind them. -/
def number? (negative : Bool) (whole places rest : List Char) : Option Binary64 :=
  if whole = [] ∧ places = [] then none
  else
    match parse?.exponent? rest with
    | some e => some (ofDecimal negative (whole ++ places) (e - places.length))
    | none => none

theorem isSome_number?_iff {negative : Bool} {whole places rest : List Char} :
    (number? negative whole places rest).isSome ↔ whole ++ places ≠ [] ∧ Exponent rest := by
  rw [number?, ← isSome_exponent?_iff, Ne, List.append_eq_nil_iff]
  split
  next h => exact iff_of_false Bool.false_ne_true fun h' => h'.1 h
  next h => cases parse?.exponent? rest <;> simp [h]

/-- The digits behind a point, if there is one, and what stands behind them. -/
def pointed (cs : List Char) : List Char × List Char :=
  match cs with
  | '.' :: r => (r.takeWhile Text.isDigit, r.dropWhile Text.isDigit)
  | r => ([], r)

/-- What is read behind a sign, or without one. -/
def unsigned? (negative : Bool) (cs : List Char) : Option Binary64 :=
  let (places, rest) := pointed (cs.dropWhile Text.isDigit)
  number? negative (cs.takeWhile Text.isDigit) places rest

theorem parse?_minus (cs : List Char) : parse? ('-' :: cs) = unsigned? true cs := rfl

theorem parse?_plus (cs : List Char) : parse? ('+' :: cs) = unsigned? false cs := rfl

theorem parse?_of_unsigned (hminus : ∀ r, cs ≠ '-' :: r) (hplus : ∀ r, cs ≠ '+' :: r) :
    parse? cs = unsigned? false cs := by
  unfold parse?
  split
  next heq =>
    split at heq
    next r => exact absurd rfl (hminus r)
    next r => exact absurd rfl (hplus r)
    next => cases heq; rfl

theorem notMem_of_exponent (h : Exponent cs) : '.' ∉ cs := by
  cases h with
  | absent => exact List.not_mem_nil
  | @present e sign ds he hsign hds =>
    have hdigits : '.' ∉ ds := fun hmem => absurd (hds.isDigit _ hmem) (by decide)
    rcases he with rfl | rfl <;> cases hsign <;> simp [hdigits]

/-- Digits end where an exponent begins. -/
theorem whileDigit_of_exponent (h : Exponent cs) :
    cs.takeWhile Text.isDigit = [] ∧ cs.dropWhile Text.isDigit = cs := by
  cases h with
  | absent => exact ⟨rfl, rfl⟩
  | @present e sign ds he _ _ =>
    have hdigit : ¬ Text.isDigit e = true := by rcases he with rfl | rfl <;> decide
    exact ⟨List.takeWhile_cons_of_neg hdigit, List.dropWhile_cons_of_neg hdigit⟩

/-- A text with a point is read if the point is among the digits. -/
theorem isSome_unsigned?_iff {negative : Bool} (hdot : '.' ∈ cs) :
    (unsigned? negative cs).isSome ↔ ∃ whole places exponent,
      Digits (whole ++ places) ∧ Exponent exponent ∧ cs = whole ++ '.' :: (places ++ exponent) := by
  rw [unsigned?, isSome_number?_iff]
  constructor
  · rintro ⟨hne, hexponent⟩
    have hwhile : ∀ (ds : List Char), ∀ c ∈ ds.takeWhile Text.isDigit, Text.isDigit c = true :=
      fun ds c hc => List.mem_takeWhile_imp hc
    have hsplit := List.takeWhile_append_dropWhile (p := Text.isDigit) (l := cs)
    unfold pointed at hne hexponent
    split at hexponent
    next r hrest =>
      rw [hrest] at hne hsplit
      refine ⟨cs.takeWhile Text.isDigit, r.takeWhile Text.isDigit, r.dropWhile Text.isDigit,
        ⟨hne, ?_⟩, hexponent, ?_⟩
      · exact fun c hc => (List.mem_append.mp hc).elim (hwhile cs c) (hwhile r c)
      · rw [List.takeWhile_append_dropWhile, hsplit]
    next =>
      -- without a point behind the first digits there is none at all
      rw [← hsplit, List.mem_append] at hdot
      rcases hdot with hdot | hdot
      · exact absurd (hwhile _ _ hdot) (by decide)
      · exact absurd hdot (notMem_of_exponent hexponent)
  · rintro ⟨whole, places, exponent, hdigits, hexponent, rfl⟩
    have hwhole : ∀ c ∈ whole, Text.isDigit c = true := fun c hc =>
      hdigits.isDigit c (List.mem_append_left _ hc)
    have hplaces : ∀ c ∈ places, Text.isDigit c = true := fun c hc =>
      hdigits.isDigit c (List.mem_append_right _ hc)
    have hpoint : ¬ Text.isDigit '.' = true := by decide
    obtain ⟨htake, hdrop⟩ := whileDigit_of_exponent hexponent
    rw [List.takeWhile_append_of_pos hwhole, List.dropWhile_append_of_pos hwhole,
      List.takeWhile_cons_of_neg hpoint, List.dropWhile_cons_of_neg hpoint, pointed,
      List.takeWhile_append_of_pos hplaces, List.dropWhile_append_of_pos hplaces, htake, hdrop,
      List.append_nil, List.append_nil]
    exact ⟨hdigits.ne_nil, hexponent⟩

/-- **A float literal** is what the reader of numbers takes of the texts that have a point. -/
theorem floatLiteral_iff : FloatLiteral cs ↔ '.' ∈ cs ∧ (parse? cs).isSome := by
  constructor
  · intro h
    cases h with
    | @mk sign whole places exponent hsign hdigits hexponent =>
      have hdot : '.' ∈ whole ++ '.' :: (places ++ exponent) := by simp
      have hread : ∀ negative,
          (unsigned? negative (whole ++ '.' :: (places ++ exponent))).isSome := fun _ =>
        (isSome_unsigned?_iff hdot).mpr ⟨whole, places, exponent, hdigits, hexponent, rfl⟩
      refine ⟨List.mem_append_right _ hdot, ?_⟩
      cases hsign with
      | none =>
        have hhead : ∀ c, Text.isDigit c = false → c ≠ '.' → ∀ r,
            whole ++ '.' :: (places ++ exponent) ≠ c :: r := by
          intro c hc hpoint r heq
          cases whole with
          | nil => exact hpoint (List.cons.inj heq).1.symm
          | cons d whole =>
            have hd := hdigits.isDigit d List.mem_cons_self
            exact Toml.cons_ne_of_isDigit hd hc heq
        rw [List.nil_append, parse?_of_unsigned (hhead '-' (by decide) (by decide))
          (hhead '+' (by decide) (by decide))]
        exact hread false
      | plus => exact hread false
      | minus => exact hread true
  · rintro ⟨hdot, h⟩
    by_cases hminus : ∃ r, cs = '-' :: r
    · obtain ⟨r, rfl⟩ := hminus
      rw [parse?_minus, isSome_unsigned?_iff (by simpa using hdot)] at h
      obtain ⟨whole, places, exponent, hdigits, hexponent, rfl⟩ := h
      exact .mk .minus hdigits hexponent
    by_cases hplus : ∃ r, cs = '+' :: r
    · obtain ⟨r, rfl⟩ := hplus
      rw [parse?_plus, isSome_unsigned?_iff (by simpa using hdot)] at h
      obtain ⟨whole, places, exponent, hdigits, hexponent, rfl⟩ := h
      exact .mk .plus hdigits hexponent
    rw [not_exists] at hminus hplus
    rw [parse?_of_unsigned hminus hplus, isSome_unsigned?_iff hdot] at h
    obtain ⟨whole, places, exponent, hdigits, hexponent, rfl⟩ := h
    exact .mk .none hdigits hexponent

end Binary64

instance (cs : List Char) : Decidable (Text.IntegerLiteral cs) :=
  match h : Text.parseNat64 cs, h' : Text.parseInt64 cs with
  | .ok n, _ => .isTrue (Text.integerLiteral_iff.mpr (.inl ⟨n, h⟩))
  | .error _, .ok n => .isTrue (Text.integerLiteral_iff.mpr (.inr ⟨n, h'⟩))
  | .error _, .error _ => .isFalse fun hcs => by
    rcases Text.integerLiteral_iff.mp hcs with ⟨n, hn⟩ | ⟨n, hn⟩
    · rw [h] at hn; cases hn
    · rw [h'] at hn; cases hn

instance (cs : List Char) : Decidable (Text.FloatLiteral cs) :=
  decidable_of_iff _ Binary64.floatLiteral_iff.symm

/-- Words of 64 bits, and what goes just beyond them; digits with a point and letters without. -/
example : Text.IntegerLiteral "+18446744073709551615".toList
    ∧ ¬ Text.IntegerLiteral "18446744073709551616".toList
    ∧ Text.IntegerLiteral "-9223372036854775808".toList
    ∧ ¬ Text.IntegerLiteral "-9223372036854775809".toList
    ∧ Text.FloatLiteral "-.5e+10".toList ∧ ¬ Text.FloatLiteral "1.2.3".toList
    ∧ ¬ Text.FloatLiteral "inf".toList := by
  decide +kernel

end ScriptHost
