import ScriptHost.Toml.Quoting
import ScriptHost.Toml.Reader

/-!
# Strings come back from TOML

A string is written between one of four pairs of delimiters, and which one is chosen
depends on what is in it. The reader sees only the delimiter. So there is one statement
for each form, that the reader gets the string back and stops right behind it
(`string?_basic` and its likes), and the choice needs nothing more than that a form is
chosen only for strings that it can hold.

Two of the forms can hold anything, because they have escapes. What makes them hard is
the double quote between triple double quotes, where up to two may stand as they are:
the reader counts quotes in a row, and those of the string must not add up with the
three that close it to more than it can tell apart (`quotes_or_short`).
-/

namespace ScriptHost.Toml

/-! ## Characters -/

theorem needsEscape_iff {c : Char} :
    needsEscape c = true ↔ (c < ' ' ∧ c ≠ '\t' ∧ c ≠ '\n') ∨ c = '\x7f' := by
  simp [needsEscape, and_assoc]

theorem isShown_iff {c : Char} :
    Text.isShown c = true ↔ (' ' ≤ c ∧ c ≠ '\x7f') ∨ c = '\t' := by
  simp [Text.isShown]

/-- What needs no escape may stand in a string as it is, except a line break. -/
theorem isShown_of_needsEscape {c : Char} (h : needsEscape c = false) (hn : c ≠ '\n') :
    Text.isShown c = true := by
  rw [Bool.eq_false_iff, ne_eq, needsEscape_iff, not_or] at h
  rw [isShown_iff]
  by_cases ht : c = '\t'
  · exact Or.inr ht
  · refine Or.inl ⟨?_, h.2⟩
    rw [← Char.not_lt]
    intro hlt
    exact h.1 ⟨hlt, ht, hn⟩

/-- The escape of a control character by its code point. -/
theorem hexUpper_of_lt : ∀ n < 128, (Text.hexUpper 4 n).toList.length = 4
    ∧ Text.codePoint? (Text.hexUpper 4 n).toList = some (Char.ofNat n)
    ∧ '\r' ∉ (Text.hexUpper 4 n).toList := by
  decide +kernel

theorem toNat_lt_of_needsEscape {c : Char} (h : needsEscape c = true) : c.toNat < 128 := by
  rcases needsEscape_iff.mp h with ⟨hlt, _, _⟩ | rfl
  · rw [Char.lt_def, UInt32.lt_iff_toNat_lt] at hlt
    exact Nat.lt_trans hlt (by decide)
  · decide

/-- The characters `e` stand for `c` between double quotes. -/
inductive Written (c : Char) : List Char → Prop where
  /-- The character itself. -/
  | plain : Text.isShown c = true → c ≠ '"' → c ≠ '\\' → Written c [c]
  /-- An escape. It does not begin like the break of a line. -/
  | escaped {e : List Char} : (∀ rest, Text.escape? (e ++ rest) = some (c, e.length)) →
      (∀ rest, foldedLength? (e ++ rest) = none) → '\r' ∉ e → Written c ('\\' :: e)

/-- A short escape. -/
theorem written_short {c d : Char} (hescape : ∀ rest, Text.escape? (d :: rest) = some (c, 1))
    (hd : isBlank d = false ∧ d ≠ '\n' ∧ d ≠ '\r') : Written c ['\\', d] := by
  refine .escaped hescape ?_ ?_
  · intro rest
    simp [foldedLength?, skipBlank, hd]
  · simpa using hd.2.2.symm

/-- An escape by the code point. -/
theorem written_codePoint {c : Char} (h : needsEscape c = true) :
    Written c ('\\' :: 'u' :: (Text.hexUpper 4 c.toNat).toList) := by
  obtain ⟨hlen, hcode, hcr⟩ := hexUpper_of_lt _ (toNat_lt_of_needsEscape h)
  rw [Char.ofNat_toNat] at hcode
  generalize (Text.hexUpper 4 c.toNat).toList = ds at hlen hcode hcr
  refine .escaped ?_ ?_ ?_
  · intro rest
    have htake : (ds ++ rest).take 4 = ds := by rw [← hlen, List.take_left]
    simp [Text.escape?, htake, hcode, hlen]
  · intro rest
    simp [foldedLength?, skipBlank, isBlank]
  · simpa using hcr

theorem written_escapeChar {c : Char} (hq : c ≠ '"') : Written c (escapeChar c) := by
  -- six characters have a short escape, the other control characters their code point
  by_cases ht : c = '\t'
  · subst ht; exact written_short (fun _ => rfl) (by decide)
  by_cases hb : c = '\\'
  · subst hb; exact written_short (fun _ => rfl) (by decide)
  by_cases hbs : c = '\x08'
  · subst hbs; exact written_short (fun _ => rfl) (by decide)
  by_cases hn : c = '\n'
  · subst hn; exact written_short (fun _ => rfl) (by decide)
  by_cases hff : c = '\x0c'
  · subst hff; exact written_short (fun _ => rfl) (by decide)
  by_cases hr : c = '\r'
  · subst hr; exact written_short (fun _ => rfl) (by decide)
  by_cases hesc : needsEscape c
  · simp only [escapeChar, ht, hb, hbs, hn, hff, hr, hesc, if_false, if_true]
    exact written_codePoint hesc
  · simp only [escapeChar, ht, hb, hbs, hn, hff, hr, hesc, if_false]
    exact .plain (isShown_of_needsEscape ((Bool.not_eq_true _).mp hesc) hn) hq hb

/-- A double quote is written as an escape where it would close the string. -/
theorem written_quote : Written '"' ['\\', '"'] := written_short (fun _ => rfl) (by decide)

section Written

variable {c : Char} {e : List Char} (h : Written c e)

include h

theorem cr_notMem_of_written : '\r' ∉ e := by
  cases h with
  | plain hshown _ _ =>
    rw [List.mem_singleton]
    rintro rfl
    exact absurd hshown (by decide)
  | escaped _ _ hcr => exact List.not_mem_cons_of_ne_of_not_mem (by decide) hcr

/-- No escape begins with a double quote or a line break. -/
theorem head_of_written (hn : c ≠ '\n') (rest : List Char) :
    ∃ d tail, e ++ rest = d :: tail ∧ d ≠ '"' ∧ d ≠ '\n' := by
  cases h with
  | plain _ hq _ => exact ⟨c, rest, rfl, hq, hn⟩
  | escaped _ _ _ => exact ⟨'\\', _, rfl, by decide, by decide⟩

/-- Between double quotes, what stands for a character is read as it. -/
theorem stringFrom_written (read rest : List Char) :
    Text.stringFrom read (e ++ rest) = Text.stringFrom (c :: read) rest := by
  cases h with
  | plain hshown hq hb =>
    rw [List.singleton_append, Text.stringFrom]
    simp only [hq, hb, hshown, if_false, if_true]
  | escaped hescape _ _ =>
    rw [List.cons_append, Text.stringFrom]
    simp [hescape]

/-- Between triple double quotes, what stands for a character is read as it. -/
theorem basicLinesFrom_written (read rest : List Char) :
    basicLinesFrom read (e ++ rest) = basicLinesFrom (c :: read) rest := by
  cases h with
  | plain hshown hq hb =>
    rw [List.singleton_append, basicLinesFrom]
    simp only [hq, hb, hshown, if_false, if_true, Bool.true_or]
  | escaped hescape hfold _ =>
    rw [List.cons_append, basicLinesFrom]
    simp [hescape, hfold]

end Written

/-! ## Single lines -/

theorem stringFrom_escapeBasic (read cs rest : List Char) :
    Text.stringFrom read (escapeBasic cs ++ '"' :: rest) = some (read.reverse ++ cs, rest) := by
  induction cs generalizing read with
  | nil =>
    rw [escapeBasic, List.flatMap_nil, List.nil_append, Text.stringFrom, List.append_nil]
    rfl
  | cons c cs ih =>
    have hwritten : Written c (if c = '"' then ['\\', '"'] else escapeChar c) := by
      split
      next h => subst h; exact written_quote
      next h => exact written_escapeChar h
    rw [escapeBasic, List.flatMap_cons, List.append_assoc, stringFrom_written hwritten]
    rw [escapeBasic] at ih
    rw [ih, List.reverse_cons, List.append_assoc]
    rfl

theorem literal_append {cs : List Char} (hcs : ∀ c ∈ cs, Text.isShown c = true ∧ c ≠ '\'')
    (rest : List Char) : literal (cs ++ '\'' :: rest) = some (cs, rest) := by
  have hinside : ∀ c ∈ cs, (Text.isShown c && c ≠ '\'') = true := by
    intro c hc
    simpa using hcs c hc
  unfold literal
  dsimp only
  rw [List.dropWhile_append_of_pos hinside, List.takeWhile_append_of_pos hinside]
  simp [expect]

/-! ## Several lines -/

theorem runLength_cons (q c : Char) (cs : List Char) :
    runLength q (c :: cs) = if c = q then runLength q cs + 1 else 0 := by
  unfold runLength
  rw [List.takeWhile_cons]
  by_cases h : c = q <;> simp [h]

theorem runLength_of_head? {q : Char} {cs : List Char} (h : cs.head? ≠ some q) :
    runLength q cs = 0 := by
  cases cs with
  | nil => rfl
  | cons c cs => rw [runLength_cons, if_neg fun hc => h (by rw [hc]; rfl)]

/-- A run in front of the end of a run. -/
theorem runLength_replicate (q : Char) (k : Nat) {rest : List Char} (h : rest.head? ≠ some q) :
    runLength q (List.replicate k q ++ rest) = k := by
  induction k with
  | zero => exact runLength_of_head? h
  | succ k ih => rw [List.replicate_succ, List.cons_append, runLength_cons, if_pos rfl, ih]

theorem longestRun_mono (q : Char) {m n : Nat} (h : m ≤ n) (cs : List Char) :
    longestRun q m cs ≤ longestRun q n cs := by
  induction cs generalizing m n with
  | nil => exact h
  | cons c cs ih =>
    rw [longestRun, longestRun]
    split
    · exact ih (Nat.succ_le_succ h)
    · omega

/-- A string with at most two quotes in a row is nothing but quotes, or else its first run ends
within it. -/
theorem quotes_or_short {q : Char} {run : Nat} {cs : List Char} (h : longestRun q run cs ≤ 2) :
    (∃ k, run + k ≤ 2 ∧ cs = List.replicate k q)
      ∨ ∀ tail, run + runLength q (cs ++ tail) ≤ 2 := by
  induction cs generalizing run with
  | nil => exact Or.inl ⟨0, h, rfl⟩
  | cons c cs ih =>
    rw [longestRun] at h
    by_cases hc : c = q
    · rw [if_pos hc] at h
      rcases ih h with ⟨k, hk, rfl⟩ | hshort
      · exact Or.inl ⟨k + 1, by omega, by rw [hc, List.replicate_succ]⟩
      · refine Or.inr fun tail => ?_
        have := hshort tail
        rw [List.cons_append, runLength_cons, if_pos hc]
        omega
    · rw [if_neg hc] at h
      refine Or.inr fun tail => ?_
      rw [List.cons_append, runLength_cons, if_neg hc]
      omega

/-- A string between triple double quotes, whose third quotes in a row are escaped, is nothing but
quotes, or else its first run of them ends within it. -/
theorem quotes_or_short_escapeLines {run : Nat} (hrun : run ≤ 2) (cs : List Char) :
    (∃ k, run + k ≤ 2 ∧ cs = List.replicate k '"' ∧ escapeLines run cs = List.replicate k '"')
      ∨ ∀ tail, run + runLength '"' (escapeLines run cs ++ tail) ≤ 2 := by
  induction cs generalizing run with
  | nil => exact Or.inl ⟨0, hrun, rfl, rfl⟩
  | cons c cs ih =>
    rw [escapeLines]
    by_cases hc : c = '"'
    · rw [if_pos hc]
      by_cases htwo : run = 2
      · refine Or.inr fun tail => ?_
        -- the third quote in a row is escaped, so the run ends in front of its backslash
        rw [if_pos htwo, List.cons_append, runLength_cons, if_neg (by decide)]
        exact hrun
      · rw [if_neg htwo]
        rcases ih (show run + 1 ≤ 2 by omega) with ⟨k, hk, hcs, hescape⟩ | hshort
        · refine Or.inl ⟨k + 1, by omega, ?_, ?_⟩
          · rw [hc, hcs, List.replicate_succ]
          · rw [hescape, List.replicate_succ]
        · refine Or.inr fun tail => ?_
          have := hshort tail
          rw [List.cons_append, runLength_cons, if_pos rfl]
          omega
    · rw [if_neg hc]
      refine Or.inr fun tail => ?_
      split
      · rw [List.cons_append, runLength_cons, if_neg (by decide)]
        exact hrun
      next hn =>
        obtain ⟨d, more, heq, hd, _⟩ :=
          head_of_written (written_escapeChar hc) hn (escapeLines 0 cs ++ tail)
        rw [List.append_assoc, heq, runLength_cons, if_neg hd]
        exact hrun

/-- Up to two quotes, and the three that close the string. -/
theorem drop_closing {q : Char} {k : Nat} (hk : k ≤ 2) {rest : List Char}
    (hrest : rest.head? ≠ some q) :
    min 5 (runLength q (List.replicate (k + 3) q ++ rest)) = k + 3
      ∧ (List.replicate (k + 3) q ++ rest).drop (k + 3) = rest := by
  rw [runLength_replicate q (k + 3) hrest]
  refine ⟨by omega, ?_⟩
  exact List.drop_left' List.length_replicate

theorem basicLinesFrom_closing {k : Nat} (hk : k ≤ 2) {rest : List Char}
    (hrest : rest.head? ≠ some '"') (read : List Char) :
    basicLinesFrom read (List.replicate (k + 3) '"' ++ rest)
      = some (read.reverse ++ List.replicate k '"', rest) := by
  obtain ⟨hmin, hdrop⟩ := drop_closing hk hrest
  rw [List.replicate_succ, List.cons_append] at hmin hdrop ⊢
  rw [basicLinesFrom, if_pos rfl]
  simp only [hmin, hdrop]
  rw [if_pos (by omega), Nat.add_sub_cancel]

theorem literalLinesFrom_closing {k : Nat} (hk : k ≤ 2) {rest : List Char}
    (hrest : rest.head? ≠ some '\'') (read : List Char) :
    literalLinesFrom read (List.replicate (k + 3) '\'' ++ rest)
      = some (read.reverse ++ List.replicate k '\'', rest) := by
  obtain ⟨hmin, hdrop⟩ := drop_closing hk hrest
  rw [List.replicate_succ, List.cons_append] at hmin hdrop ⊢
  rw [literalLinesFrom, if_pos rfl]
  simp only [hmin, hdrop]
  rw [if_pos (by omega), Nat.add_sub_cancel]

/-- A string that is nothing but quotes, with those that close it. -/
theorem replicate_closing (q : Char) (k : Nat) (rest : List Char) :
    List.replicate k q ++ q :: q :: q :: rest = List.replicate (k + 3) q ++ rest := by
  rw [List.replicate_append_replicate.symm, List.append_assoc]
  rfl

/-- **Between triple double quotes** anything can be written. -/
theorem basicLinesFrom_escapeLines {run : Nat} (hrun : run ≤ 2) (read cs : List Char)
    {rest : List Char} (hrest : rest.head? ≠ some '"') :
    basicLinesFrom read (escapeLines run cs ++ '"' :: '"' :: '"' :: rest)
      = some (read.reverse ++ cs, rest) := by
  induction cs generalizing read run with
  | nil => exact basicLinesFrom_closing (Nat.zero_le 2) hrest read
  | cons c cs ih =>
    -- quotes up to the end run into those that close, and are read together with them
    rcases quotes_or_short_escapeLines hrun (c :: cs) with ⟨k, hk, hcs, hescape⟩ | hshort
    · rw [hescape, hcs, replicate_closing]
      exact basicLinesFrom_closing (by omega) hrest read
    · have hnext : ∀ {run' : Nat}, run' ≤ 2 →
          basicLinesFrom (c :: read) (escapeLines run' cs ++ '"' :: '"' :: '"' :: rest)
            = some (read.reverse ++ c :: cs, rest) := by
        intro run' hrun'
        rw [ih hrun', List.reverse_cons, List.append_assoc]
        rfl
      rw [escapeLines] at hshort ⊢
      by_cases hc : c = '"'
      · subst hc
        by_cases htwo : run = 2
        · rw [if_pos rfl, if_pos htwo]
          show basicLinesFrom read (['\\', '"'] ++ _) = _
          rw [basicLinesFrom_written written_quote]
          exact hnext (Nat.zero_le 2)
        · rw [if_pos rfl, if_neg htwo] at hshort ⊢
          -- the run ends within the string, so this quote does not close it
          have hlen := hshort ('"' :: '"' :: '"' :: rest)
          rw [List.cons_append] at hlen ⊢
          rw [basicLinesFrom, if_pos rfl]
          dsimp only
          rw [if_neg (by omega)]
          exact hnext (by omega)
      · rw [if_neg hc]
        split
        next hn =>
          subst hn
          rw [List.cons_append, basicLinesFrom]
          simp only [hc, if_false]
          rw [if_neg (by decide), if_pos (by decide)]
          exact hnext (Nat.zero_le 2)
        next hn =>
          rw [List.append_assoc, basicLinesFrom_written (written_escapeChar hc)]
          exact hnext (Nat.zero_le 2)

/-- **Between triple single quotes** stands what needs no escape, without three of them in a
row. -/
theorem literalLinesFrom_append (read : List Char) {cs : List Char}
    (hcs : ∀ c ∈ cs, needsEscape c = false) (hrun : longestRun '\'' 0 cs ≤ 2)
    {rest : List Char} (hrest : rest.head? ≠ some '\'') :
    literalLinesFrom read (cs ++ '\'' :: '\'' :: '\'' :: rest)
      = some (read.reverse ++ cs, rest) := by
  induction cs generalizing read with
  | nil => exact literalLinesFrom_closing (Nat.zero_le 2) hrest read
  | cons c cs ih =>
    obtain ⟨hc, hcs⟩ := List.forall_mem_cons.mp hcs
    rcases quotes_or_short hrun with ⟨k, hk, heq⟩ | hshort
    · rw [heq, replicate_closing]
      exact literalLinesFrom_closing (by omega) hrest read
    · have hnext : longestRun '\'' 0 cs ≤ 2 →
          literalLinesFrom (c :: read) (cs ++ '\'' :: '\'' :: '\'' :: rest)
            = some (read.reverse ++ c :: cs, rest) := by
        intro hrun'
        rw [ih (c :: read) hcs hrun', List.reverse_cons, List.append_assoc]
        rfl
      rw [longestRun] at hrun
      rw [List.cons_append, literalLinesFrom]
      by_cases hq : c = '\''
      · subst hq
        rw [if_pos rfl] at hrun ⊢
        -- as between double quotes, the run ends within the string
        have hlen := hshort ('\'' :: '\'' :: '\'' :: rest)
        rw [List.cons_append] at hlen
        rw [if_neg (by omega)]
        exact hnext (Nat.le_trans (longestRun_mono _ (Nat.zero_le _) cs) hrun)
      · rw [if_neg hq] at hrun ⊢
        have hinside : (Text.isShown c || c = '\n') = true := by
          by_cases hn : c = '\n'
          · simp [hn]
          · simp [isShown_of_needsEscape hc hn]
        rw [if_pos hinside]
        exact hnext (by omega)

/-! ## Forms -/

/-- A string that does not open with three quotes opens with one. -/
theorem string?_of_basic {cs : List Char} (h : cs.take 2 ≠ ['"', '"']) :
    string? ('"' :: cs) = Text.stringFrom [] cs := by
  rw [string?]
  intro tail heq
  rw [heq] at h
  exact h rfl

theorem string?_of_literal {c : Char} {cs : List Char} (h : c ≠ '\'') :
    string? ('\'' :: c :: cs) = literal (c :: cs) := by
  rw [string?]
  intro tail heq
  simp [h] at heq

/-- A line break that belongs to the string is not taken for one behind the opening quotes. -/
theorem dropBreak_of_head? {cs : List Char} (h : cs.head? ≠ some '\n') : dropBreak cs = cs := by
  rw [dropBreak]
  intro tail heq
  exact h (by rw [heq]; rfl)

theorem string?_basic (cs : List Char) {rest : List Char} (hrest : rest.head? ≠ some '"') :
    string? (quoteIn .basic cs ++ rest) = some (cs, rest) := by
  -- the opening quote must not look like the first of three
  have hopen : (escapeBasic cs ++ '"' :: rest).take 2 ≠ ['"', '"'] := by
    cases cs with
    | nil =>
      cases rest with
      | nil => decide
      | cons d rest =>
        intro heq
        simp [escapeBasic] at heq
        exact hrest (by rw [heq]; rfl)
    | cons c cs =>
      by_cases hc : c = '"'
      · subst hc
        intro heq
        simp [escapeBasic] at heq
      · have hwritten := written_escapeChar hc
        have heq : escapeBasic (c :: cs) = escapeChar c ++ escapeBasic cs := by
          simp [escapeBasic, hc]
        intro htake
        cases hwritten' : escapeChar c with
        | nil => rw [hwritten'] at hwritten; cases hwritten
        | cons d tail =>
          rw [heq, hwritten', List.cons_append, List.cons_append, List.take_succ_cons,
            List.cons.injEq] at htake
          rw [hwritten', htake.1] at hwritten
          cases hwritten with
          | plain _ hq _ => exact hq rfl
  have hquote : quoteIn .basic cs ++ rest = '"' :: (escapeBasic cs ++ '"' :: rest) := by
    simp [quoteIn, Form.delimiter]
  rw [hquote, string?_of_basic hopen, stringFrom_escapeBasic]
  rfl

theorem string?_literal {cs : List Char} (hcs : ∀ c ∈ cs, Text.isShown c = true ∧ c ≠ '\'')
    (hne : cs ≠ []) (rest : List Char) :
    string? (quoteIn .literal cs ++ rest) = some (cs, rest) := by
  have hquote : quoteIn .literal cs ++ rest = '\'' :: (cs ++ '\'' :: rest) := by
    simp [quoteIn, Form.delimiter]
  rw [hquote]
  cases cs with
  | nil => exact absurd rfl hne
  | cons c cs =>
    rw [List.cons_append, string?_of_literal (hcs c List.mem_cons_self).2]
    exact literal_append hcs rest

theorem string?_basicLines (cs : List Char) {rest : List Char} (hrest : rest.head? ≠ some '"') :
    string? (quoteIn .basicLines cs ++ rest) = some (cs, rest) := by
  -- a string with a line break gets one more in front, which the reader drops
  have hread := basicLinesFrom_escapeLines (Nat.zero_le 2) [] cs hrest
  by_cases hn : '\n' ∈ cs
  · have hquote : quoteIn .basicLines cs ++ rest
        = '"' :: '"' :: '"' :: '\n' :: (escapeLines 0 cs ++ '"' :: '"' :: '"' :: rest) := by
      simp [quoteIn, Form.delimiter, hn]
    rw [hquote]
    exact hread
  · have hquote : quoteIn .basicLines cs ++ rest
        = '"' :: '"' :: '"' :: (escapeLines 0 cs ++ '"' :: '"' :: '"' :: rest) := by
      simp [quoteIn, Form.delimiter, hn]
    have hhead : (escapeLines 0 cs ++ '"' :: '"' :: '"' :: rest).head? ≠ some '\n' := by
      cases cs with
      | nil => simp [escapeLines]
      | cons c cs =>
        have hcn : c ≠ '\n' := fun h => hn (h ▸ List.mem_cons_self)
        rw [escapeLines]
        by_cases hc : c = '"'
        · simp [hc]
        · obtain ⟨d, tail, heq, _, hd⟩ := head_of_written (written_escapeChar hc) hcn
            (escapeLines 0 cs ++ '"' :: '"' :: '"' :: rest)
          rw [if_neg hc, if_neg hcn, List.append_assoc, heq]
          simpa using hd
    rw [hquote, string?, dropBreak_of_head? hhead]
    exact hread

theorem string?_literalLines {cs : List Char} (hcs : ∀ c ∈ cs, needsEscape c = false)
    (hrun : longestRun '\'' 0 cs ≤ 2) {rest : List Char} (hrest : rest.head? ≠ some '\'') :
    string? (quoteIn .literalLines cs ++ rest) = some (cs, rest) := by
  have hread := literalLinesFrom_append [] hcs hrun hrest
  by_cases hn : '\n' ∈ cs
  · have hquote : quoteIn .literalLines cs ++ rest
        = '\'' :: '\'' :: '\'' :: '\n' :: (cs ++ '\'' :: '\'' :: '\'' :: rest) := by
      simp [quoteIn, Form.delimiter, hn]
    rw [hquote]
    exact hread
  · have hquote : quoteIn .literalLines cs ++ rest
        = '\'' :: '\'' :: '\'' :: (cs ++ '\'' :: '\'' :: '\'' :: rest) := by
      simp [quoteIn, Form.delimiter, hn]
    have hhead : (cs ++ '\'' :: '\'' :: '\'' :: rest).head? ≠ some '\n' := by
      cases cs with
      | nil => simp
      | cons c cs =>
        intro h
        exact hn (Option.some.inj h ▸ List.mem_cons_self)
    rw [hquote, string?, dropBreak_of_head? hhead]
    exact hread

/-- A form can hold a string. -/
inductive Holds : Form → List Char → Prop where
  | basic {cs : List Char} : Holds .basic cs
  | literal {cs : List Char} : (∀ c ∈ cs, Text.isShown c = true ∧ c ≠ '\'') → cs ≠ [] →
      Holds .literal cs
  | basicLines {cs : List Char} : Holds .basicLines cs
  | literalLines {cs : List Char} : (∀ c ∈ cs, needsEscape c = false) →
      longestRun '\'' 0 cs ≤ 2 → Holds .literalLines cs

/-- A form is chosen only for strings that it can hold. -/
theorem holds_formOf (cs : List Char) : Holds (formOf cs) cs := by
  have hplain : cs.any needsEscape = false → ∀ c ∈ cs, needsEscape c = false := by
    intro h c hc
    exact Bool.eq_false_iff.mpr (List.any_eq_false.mp h c hc)
  unfold formOf
  dsimp only
  split
  next => exact .basic
  next hbasic =>
    split
    next hliteral =>
      simp only [Bool.and_eq_true, Bool.not_eq_true', List.contains_eq_mem,
        decide_eq_false_iff_not] at hliteral
      obtain ⟨⟨hescape, hquote⟩, hline⟩ := hliteral
      refine .literal ?_ ?_
      · intro c hc
        refine ⟨isShown_of_needsEscape (hplain hescape c hc) ?_, ?_⟩
        · exact fun h => hline (h ▸ hc)
        · exact fun h => hquote (h ▸ hc)
      · rintro rfl
        exact hbasic rfl
    next =>
      split
      next => exact .basicLines
      next =>
        split
        next hlines =>
          rw [Bool.and_eq_true, Bool.not_eq_true', decide_eq_true_eq] at hlines
          exact .literalLines (hplain hlines.1) hlines.2
        next =>
          split
          next => exact .basicLines
          next => exact .basic

/-- **A string comes back from TOML**, whichever form it is written in. -/
theorem string?_quoteIn (cs : List Char) {rest : List Char} (hdouble : rest.head? ≠ some '"')
    (hsingle : rest.head? ≠ some '\'') :
    string? (quoteIn (formOf cs) cs ++ rest) = some (cs, rest) := by
  have hholds := holds_formOf cs
  generalize formOf cs = form at hholds ⊢
  cases hholds with
  | basic => exact string?_basic cs hdouble
  | literal hcs hne => exact string?_literal hcs hne rest
  | basicLines => exact string?_basicLines cs hdouble
  | literalLines hcs hrun => exact string?_literalLines hcs hrun hsingle

/-! ## Carriage returns -/

theorem cr_notMem_escapeBasic (cs : List Char) : '\r' ∉ escapeBasic cs := by
  rw [escapeBasic, List.mem_flatMap]
  rintro ⟨c, _, hmem⟩
  split at hmem
  next => exact cr_notMem_of_written written_quote hmem
  next h => exact cr_notMem_of_written (written_escapeChar h) hmem

theorem cr_notMem_escapeLines (run : Nat) (cs : List Char) : '\r' ∉ escapeLines run cs := by
  induction cs generalizing run with
  | nil => exact List.not_mem_nil
  | cons c cs ih =>
    rw [escapeLines]
    split
    next =>
      split
      next => simpa using ih 0
      next => simpa using ih (run + 1)
    next hq =>
      split
      next => simpa using ih 0
      next =>
        rw [List.mem_append, not_or]
        exact ⟨cr_notMem_of_written (written_escapeChar hq), ih 0⟩

/-- **No string is written with a carriage return** that the reader could take for half of a line
break. -/
theorem cr_notMem_quoteIn (cs : List Char) : '\r' ∉ quoteIn (formOf cs) cs := by
  have hholds := holds_formOf cs
  generalize formOf cs = form at hholds ⊢
  have hmem : ∀ {body : List Char}, '\r' ∉ body → '\r' ∉ form.delimiter
      ++ (if form ≠ .basic ∧ form ≠ .literal ∧ '\n' ∈ cs then ['\n'] else []) ++ body
      ++ form.delimiter := by
    intro body hbody
    cases form <;> simp [Form.delimiter, hbody]
  refine hmem ?_
  cases hholds with
  | basic => exact cr_notMem_escapeBasic cs
  | literal hcs _ => exact fun h => absurd (hcs _ h).1 (by decide)
  | basicLines => exact cr_notMem_escapeLines 0 cs
  | literalLines hcs _ => exact fun h => absurd (hcs _ h) (by decide)

end ScriptHost.Toml
