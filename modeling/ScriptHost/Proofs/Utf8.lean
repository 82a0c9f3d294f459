import ScriptHost.Text.Utf8

/-!
# Reading bytes as text is exact

Which byte strings are text is settled by writing, not by reading: a byte string is
text if it is what some characters are written as. `front` has to find the same
characters again, and has to see one nowhere else — so overlong forms, surrogates
and code points past the last must fall on its refusing branches.

Two lemmas about a single character say so, `front_encodeChar` and
`encodeChar_of_front`. Everything about whole byte strings is an induction over
them: `decode` accepts exactly the text, and where it refuses, what stands in
front of the fault is the longest text that the byte string begins with.
-/

namespace ScriptHost.Utf8

/-! ## Ranges of bytes as numbers -/

theorem width_eq (a : UInt8) : width a =
    if a.toNat < 0x80 then 1 else if a.toNat < 0xC2 then 0 else if a.toNat < 0xE0 then 2
    else if a.toNat < 0xF0 then 3 else if a.toNat < 0xF5 then 4 else 0 := rfl

theorem width_eq_one {a : UInt8} : width a = 1 ↔ a.toNat < 0x80 := by
  rw [width_eq]; repeat' split
  all_goals omega

theorem width_eq_two {a : UInt8} : width a = 2 ↔ 0xC2 ≤ a.toNat ∧ a.toNat < 0xE0 := by
  rw [width_eq]; repeat' split
  all_goals omega

theorem width_eq_three {a : UInt8} : width a = 3 ↔ 0xE0 ≤ a.toNat ∧ a.toNat < 0xF0 := by
  rw [width_eq]; repeat' split
  all_goals omega

theorem width_eq_four {a : UInt8} : width a = 4 ↔ 0xF0 ≤ a.toNat ∧ a.toNat < 0xF5 := by
  rw [width_eq]; repeat' split
  all_goals omega

theorem isTrail_iff (b : UInt8) : isTrail b = true ↔ 0x80 ≤ b.toNat ∧ b.toNat < 0xC0 := by
  simp only [isTrail, Bool.and_eq_true, decide_eq_true_eq, UInt8.le_iff_toNat_le,
    UInt8.lt_iff_toNat_lt, UInt8.reduceToNat]

/-- A second byte is a continuation byte that the first one does not exclude. -/
theorem isSecond_iff (a b : UInt8) : isSecond a b = true ↔
    0x80 ≤ b.toNat ∧ b.toNat < 0xC0 ∧ (a.toNat = 0xE0 → 0xA0 ≤ b.toNat)
      ∧ (a.toNat = 0xED → b.toNat < 0xA0) ∧ (a.toNat = 0xF0 → 0x90 ≤ b.toNat)
      ∧ (a.toNat = 0xF4 → b.toNat < 0x90) := by
  unfold isSecond isTrail
  simp only [← UInt8.toNat_inj, UInt8.le_iff_toNat_le, UInt8.lt_iff_toNat_lt, UInt8.reduceToNat]
  repeat' split
  all_goals simp only [Bool.and_eq_true, decide_eq_true_eq]; omega

/-! ## One character -/

section Front

variable {a b c d : UInt8}

theorem front_of_width_one (hw : width a = 1) (rest : Bytes) :
    front a rest = .char (Char.ofNat a.toNat) 1 := by
  simp only [front, hw]

theorem front_of_width_two (hw : width a = 2) (hb : isSecond a b = true) (rest : Bytes) :
    front a (b :: rest) = .char (Char.ofNat (extend (a.toNat % 32) b)) 2 := by
  simp only [front, hw, hb, if_true]

theorem front_of_width_three (hw : width a = 3) (hb : isSecond a b = true)
    (hc : isTrail c = true) (rest : Bytes) :
    front a (b :: c :: rest) = .char (Char.ofNat (extend (extend (a.toNat % 16) b) c)) 3 := by
  simp only [front, hw, hb, hc, if_true]

theorem front_of_width_four (hw : width a = 4) (hb : isSecond a b = true)
    (hc : isTrail c = true) (hd : isTrail d = true) (rest : Bytes) :
    front a (b :: c :: d :: rest)
      = .char (Char.ofNat (extend (extend (extend (a.toNat % 8) b) c) d)) 4 := by
  simp only [front, hw, hb, hc, hd, if_true]

end Front

/-- **A written character is found again**, whatever follows it. -/
theorem front_encodeChar (x : Char) (rest : Bytes) :
    ∃ a tail, String.utf8EncodeChar x = a :: tail
      ∧ front a (tail ++ rest) = .char x (tail.length + 1) := by
  have hx : Char.ofNat x.val.toNat = x := Char.ofNat_toNat x
  have hvalid : x.val.toNat < 0xD800 ∨ 0xDFFF < x.val.toNat ∧ x.val.toNat < 0x110000 := x.valid
  fun_cases String.utf8EncodeChar x with
  | case1 v h =>
    have ha : (UInt8.ofNat v).toNat = v := by simp; omega
    have hw : width (UInt8.ofNat v) = 1 := by rw [width_eq_one, ha]; omega
    refine ⟨_, _, rfl, ?_⟩
    rw [front_of_width_one hw, ha, hx]
    rfl
  | case2 v h1 h2 =>
    have ha : (UInt8.ofNat (v / 64 % 0x20 + 0xC0)).toNat = v / 64 + 0xC0 := by simp; omega
    have hb : (UInt8.ofNat (v % 0x40 + 0x80)).toNat = v % 64 + 0x80 := by simp; omega
    have hw : width (UInt8.ofNat (v / 64 % 0x20 + 0xC0)) = 2 := by
      rw [width_eq_two, ha]; omega
    have hv : (v / 64 + 0xC0) % 32 * 64 + (v % 64 + 0x80) % 64 = v := by omega
    refine ⟨_, _, rfl, ?_⟩
    rw [List.singleton_append, front_of_width_two hw (by rw [isSecond_iff, ha, hb]; omega),
      extend, ha, hb, hv, hx]
    rfl
  | case3 v h1 h2 h3 =>
    have ha : (UInt8.ofNat (v / 4096 % 0x10 + 0xE0)).toNat = v / 4096 + 0xE0 := by simp; omega
    have hb : (UInt8.ofNat (v / 64 % 0x40 + 0x80)).toNat = v / 64 % 64 + 0x80 := by simp; omega
    have hc : (UInt8.ofNat (v % 0x40 + 0x80)).toNat = v % 64 + 0x80 := by simp; omega
    have hw : width (UInt8.ofNat (v / 4096 % 0x10 + 0xE0)) = 3 := by
      rw [width_eq_three, ha]; omega
    have hv : ((v / 4096 + 0xE0) % 16 * 64 + (v / 64 % 64 + 0x80) % 64) * 64
        + (v % 64 + 0x80) % 64 = v := by omega
    refine ⟨_, _, rfl, ?_⟩
    rw [List.cons_append, List.singleton_append,
      front_of_width_three hw (by rw [isSecond_iff, ha, hb]; omega)
        (by rw [isTrail_iff, hc]; omega),
      extend, extend, ha, hb, hc, hv, hx]
    rfl
  | case4 v h1 h2 h3 =>
    have ha : (UInt8.ofNat (v / 262144 % 0x08 + 0xF0)).toNat = v / 262144 + 0xF0 := by
      simp; omega
    have hb : (UInt8.ofNat (v / 4096 % 0x40 + 0x80)).toNat = v / 4096 % 64 + 0x80 := by
      simp; omega
    have hc : (UInt8.ofNat (v / 64 % 0x40 + 0x80)).toNat = v / 64 % 64 + 0x80 := by simp; omega
    have hd : (UInt8.ofNat (v % 0x40 + 0x80)).toNat = v % 64 + 0x80 := by simp; omega
    have hw : width (UInt8.ofNat (v / 262144 % 0x08 + 0xF0)) = 4 := by
      rw [width_eq_four, ha]; omega
    have hv : (((v / 262144 + 0xF0) % 8 * 64 + (v / 4096 % 64 + 0x80) % 64) * 64
        + (v / 64 % 64 + 0x80) % 64) * 64 + (v % 64 + 0x80) % 64 = v := by omega
    refine ⟨_, _, rfl, ?_⟩
    rw [List.cons_append, List.cons_append, List.singleton_append,
      front_of_width_four hw (by rw [isSecond_iff, ha, hb]; omega)
        (by rw [isTrail_iff, hc]; omega) (by rw [isTrail_iff, hd]; omega),
      extend, extend, extend, ha, hb, hc, hd, hv, hx]
    rfl

/-- How the character of a code point is written. -/
theorem utf8EncodeChar_ofNat {n : Nat} (h : n.isValidChar) :
    String.utf8EncodeChar (Char.ofNat n) =
      if n ≤ 0x7F then [UInt8.ofNat n]
      else if n ≤ 0x7FF then [UInt8.ofNat (n / 64 % 0x20 + 0xC0), UInt8.ofNat (n % 0x40 + 0x80)]
      else if n ≤ 0xFFFF then
        [UInt8.ofNat (n / 4096 % 0x10 + 0xE0), UInt8.ofNat (n / 64 % 0x40 + 0x80),
          UInt8.ofNat (n % 0x40 + 0x80)]
      else
        [UInt8.ofNat (n / 262144 % 0x08 + 0xF0), UInt8.ofNat (n / 4096 % 0x40 + 0x80),
          UInt8.ofNat (n / 64 % 0x40 + 0x80), UInt8.ofNat (n % 0x40 + 0x80)] := by
  have hn : (Char.ofNat n).val.toNat = n := by rw [Char.ofNat, dif_pos h]; rfl
  rw [String.utf8EncodeChar, hn]

theorem ofNat_eq_of_toNat {a : UInt8} {n : Nat} (h : n = a.toNat) : UInt8.ofNat n = a := by
  rw [h, UInt8.ofNat_toNat]

/-! The bytes of a character that was found are those that it is written in. -/

section Width

variable {a b c d : UInt8}

theorem encodeChar_of_width_one (hw : width a = 1) :
    String.utf8EncodeChar (Char.ofNat a.toNat) = [a] := by
  rw [width_eq_one] at hw
  rw [utf8EncodeChar_ofNat (Or.inl (by omega)), if_pos (by omega), UInt8.ofNat_toNat]

theorem encodeChar_of_width_two (hw : width a = 2) (hb : isSecond a b = true) :
    String.utf8EncodeChar (Char.ofNat (extend (a.toNat % 32) b)) = [a, b] := by
  rw [width_eq_two] at hw
  rw [isSecond_iff] at hb
  rw [extend, utf8EncodeChar_ofNat (Or.inl (by omega)), if_neg (by omega), if_pos (by omega),
    ofNat_eq_of_toNat (a := a) (by omega), ofNat_eq_of_toNat (a := b) (by omega)]

theorem encodeChar_of_width_three (hw : width a = 3) (hb : isSecond a b = true)
    (hc : isTrail c = true) :
    String.utf8EncodeChar (Char.ofNat (extend (extend (a.toNat % 16) b) c)) = [a, b, c] := by
  rw [width_eq_three] at hw
  rw [isSecond_iff] at hb
  rw [isTrail_iff] at hc
  -- the second byte keeps out overlong forms (`E0`) and surrogates (`ED`)
  rw [extend, extend, utf8EncodeChar_ofNat (by simp only [Nat.isValidChar]; omega),
    if_neg (by omega), if_neg (by omega), if_pos (by omega),
    ofNat_eq_of_toNat (a := a) (by omega), ofNat_eq_of_toNat (a := b) (by omega),
    ofNat_eq_of_toNat (a := c) (by omega)]

theorem encodeChar_of_width_four (hw : width a = 4) (hb : isSecond a b = true)
    (hc : isTrail c = true) (hd : isTrail d = true) :
    String.utf8EncodeChar (Char.ofNat (extend (extend (extend (a.toNat % 8) b) c) d))
      = [a, b, c, d] := by
  rw [width_eq_four] at hw
  rw [isSecond_iff] at hb
  rw [isTrail_iff] at hc hd
  -- here it keeps out overlong forms (`F0`) and what is past the last (`F4`)
  rw [extend, extend, extend, utf8EncodeChar_ofNat (by simp only [Nat.isValidChar]; omega),
    if_neg (by omega), if_neg (by omega), if_neg (by omega),
    ofNat_eq_of_toNat (a := a) (by omega), ofNat_eq_of_toNat (a := b) (by omega),
    ofNat_eq_of_toNat (a := c) (by omega), ofNat_eq_of_toNat (a := d) (by omega)]

end Width

/-- **A character is found only where one is written.** -/
theorem encodeChar_of_front {a : UInt8} {rest : Bytes} {x : Char} {w : Nat}
    (h : front a rest = .char x w) :
    ∃ tail, String.utf8EncodeChar x = a :: tail ∧ w = tail.length + 1
      ∧ rest = tail ++ rest.drop (w - 1) := by
  unfold front at h
  split at h
  case h_1 hw =>
    obtain ⟨rfl, rfl⟩ := Front.char.inj h
    exact ⟨[], encodeChar_of_width_one hw, rfl, rfl⟩
  case h_3 b rest hw =>
    split at h
    case isFalse => cases h
    case isTrue hb =>
      obtain ⟨rfl, rfl⟩ := Front.char.inj h
      exact ⟨[b], encodeChar_of_width_two hw hb, rfl, rfl⟩
  case h_5 b rest hw =>
    split at h
    case isFalse => cases h
    case isTrue hb =>
      split at h
      case h_1 => cases h
      case h_2 c rest =>
        split at h
        case isFalse => cases h
        case isTrue hc =>
          obtain ⟨rfl, rfl⟩ := Front.char.inj h
          exact ⟨[b, c], encodeChar_of_width_three hw hb hc, rfl, rfl⟩
  case h_7 b rest hw =>
    split at h
    case isFalse => cases h
    case isTrue hb =>
      split at h
      case h_1 => cases h
      case h_2 c rest =>
        split at h
        case isFalse => cases h
        case isTrue hc =>
          split at h
          case h_1 => cases h
          case h_2 d rest =>
            split at h
            case isFalse => cases h
            case isTrue hd =>
              obtain ⟨rfl, rfl⟩ := Front.char.inj h
              exact ⟨[b, c, d], encodeChar_of_width_four hw hb hc hd, rfl, rfl⟩
  all_goals cases h

/-! ## Whole byte strings -/

/-- A byte string that some characters are written as. -/
def WellFormed (bytes : Bytes) : Prop := ∃ cs, encode cs = bytes

theorem encode_cons (c : Char) (cs : List Char) :
    encode (c :: cs) = String.utf8EncodeChar c ++ encode cs := rfl

/-- Decoding goes through written characters and on behind them. -/
theorem decodeFrom_encode (pos : Nat) (read cs : List Char) (rest : Bytes) :
    decodeFrom pos read (encode cs ++ rest)
      = decodeFrom (pos + (encode cs).length) (cs.reverse ++ read) rest := by
  induction cs generalizing pos read with
  | nil => rfl
  | cons c cs ih =>
    obtain ⟨a, tail, hc, hfront⟩ := front_encodeChar c (encode cs ++ rest)
    rw [encode_cons, hc, List.cons_append, List.cons_append, List.append_assoc, decodeFrom, hfront]
    dsimp only
    rw [Nat.add_sub_cancel, List.drop_left, ih, List.reverse_cons, List.append_assoc,
      List.length_cons, List.length_append]
    congr 1
    omega

/-- What is decoded is what was written. -/
theorem decodeFrom_eq_ok {pos : Nat} {read cs : List Char} {bytes : Bytes}
    (h : decodeFrom pos read bytes = .ok cs) :
    ∃ ds, cs = read.reverse ++ ds ∧ encode ds = bytes := by
  fun_induction decodeFrom pos read bytes with
  | case1 pos read => exact ⟨[], by cases h; simp, rfl⟩
  | case2 pos read a rest c w hfront ih =>
    obtain ⟨ds, rfl, hds⟩ := ih h
    obtain ⟨tail, hc, -, hrest⟩ := encodeChar_of_front hfront
    refine ⟨c :: ds, by simp, ?_⟩
    rw [encode_cons, hc, hds, List.cons_append, ← hrest]
  | case3 => cases h
  | case4 => cases h

/-- In front of a fault stands text. -/
theorem decodeFrom_eq_error {pos : Nat} {read : List Char} {bytes : Bytes} {f : Fault}
    (h : decodeFrom pos read bytes = .error f) :
    ∃ ds, encode ds <+: bytes ∧ f.validUpTo = pos + (encode ds).length := by
  fun_induction decodeFrom pos read bytes with
  | case1 => cases h
  | case2 pos read a rest c w hfront ih =>
    obtain ⟨ds, ⟨tail', hds⟩, hpos⟩ := ih h
    obtain ⟨tail, hc, rfl, hrest⟩ := encodeChar_of_front hfront
    refine ⟨c :: ds, ⟨tail', ?_⟩, ?_⟩
    · rw [encode_cons, hc, List.append_assoc, hds, List.cons_append, ← hrest]
    · rw [hpos, encode_cons, hc, List.length_append, List.length_cons]
      omega
  | case3 => cases h; exact ⟨[], List.nil_prefix, rfl⟩
  | case4 => cases h; exact ⟨[], List.nil_prefix, rfl⟩

theorem decode_encode (cs : List Char) : decode (encode cs) = .ok cs := by
  have h := decodeFrom_encode 0 [] cs []
  rw [List.append_nil, List.append_nil] at h
  rw [decode, h, decodeFrom, List.reverse_reverse]

/-- Decoding that puts up with faults gives back what was encoded. -/
theorem lossyFrom_encode (read cs : List Char) :
    lossyFrom read (encode cs) = read.reverse ++ cs := by
  induction cs generalizing read with
  | nil => rw [encode, List.flatMap_nil, lossyFrom, List.append_nil]
  | cons c cs ih =>
    obtain ⟨a, tail, hc, hfront⟩ := front_encodeChar c (encode cs)
    rw [encode_cons, hc, List.cons_append, lossyFrom, hfront]
    dsimp only
    rw [Nat.add_sub_cancel, List.drop_left, ih, List.reverse_cons, List.append_assoc]
    rfl

theorem encode_of_decode {bytes : Bytes} {cs : List Char} (h : decode bytes = .ok cs) :
    encode cs = bytes := by
  obtain ⟨ds, rfl, hds⟩ := decodeFrom_eq_ok h
  exact hds

/-- **Decoding accepts exactly the text.** -/
theorem decode_eq_ok_iff {bytes : Bytes} {cs : List Char} :
    decode bytes = .ok cs ↔ encode cs = bytes :=
  ⟨encode_of_decode, fun h => h ▸ decode_encode cs⟩

theorem wellFormed_iff_decode {bytes : Bytes} :
    WellFormed bytes ↔ ∃ cs, decode bytes = .ok cs := by
  simp only [WellFormed, decode_eq_ok_iff]

/-- `n` bytes are the longest text that a byte string begins with. -/
structure LongestText (bytes : Bytes) (n : Nat) : Prop where
  le : n ≤ bytes.length
  /-- The first `n` bytes are text. -/
  text : WellFormed (bytes.take n)
  /-- No more of them are. -/
  max : ∀ m, n < m → m ≤ bytes.length → ¬ WellFormed (bytes.take m)

/-- **A fault stands behind the longest text.** -/
theorem decode_eq_error {bytes : Bytes} {f : Fault} (h : decode bytes = .error f) :
    LongestText bytes f.validUpTo := by
  obtain ⟨ds, hpre, hpos⟩ := decodeFrom_eq_error h
  rw [Nat.zero_add] at hpos
  refine ⟨hpos ▸ hpre.length_le, ⟨ds, ?_⟩, ?_⟩
  · rw [hpos, ← List.prefix_iff_eq_take]
    exact hpre
  · rintro m hm hle ⟨es, hes⟩
    -- decoding gets through the longer text, so its fault cannot stand before its end
    have hbytes : encode es ++ bytes.drop m = bytes := by rw [hes, List.take_append_drop]
    have hlen : (encode es).length = m := by rw [hes, List.length_take, Nat.min_eq_left hle]
    rw [decode, ← hbytes, decodeFrom_encode] at h
    obtain ⟨ds', -, hpos'⟩ := decodeFrom_eq_error h
    omega

/-! ## Texts -/

theorem text?_eq_some_iff {bytes : Bytes} {s : String} :
    text? bytes = some s ↔ bytesOf s = bytes := by
  unfold text? bytesOf
  split
  next cs h =>
    rw [← encode_of_decode h, Option.some.injEq]
    constructor
    · rintro rfl; rw [String.toList_ofList]
    · intro hs
      have hcs := decode_encode s.toList
      rw [hs, decode_encode, Except.ok.injEq] at hcs
      rw [hcs, String.ofList_toList]
  next f h =>
    refine ⟨fun hs => (Option.some_ne_none s hs.symm).elim, fun hs => ?_⟩
    rw [← hs, decode_encode] at h
    cases h

theorem isSome_text?_iff {bytes : Bytes} : (text? bytes).isSome ↔ WellFormed bytes := by
  rw [Option.isSome_iff_exists]
  simp only [text?_eq_some_iff]
  constructor
  · rintro ⟨s, hs⟩; exact ⟨s.toList, hs⟩
  · rintro ⟨cs, hcs⟩; exact ⟨String.ofList cs, by rw [bytesOf, String.toList_ofList, hcs]⟩

theorem bytesOf_ofList (cs : List Char) : bytesOf (String.ofList cs) = encode cs := by
  rw [bytesOf, String.toList_ofList]

theorem bytesOf_append (s t : String) : bytesOf (s ++ t) = bytesOf s ++ bytesOf t := by
  rw [bytesOf, String.toList_append, encode, List.flatMap_append]
  rfl

end ScriptHost.Utf8
