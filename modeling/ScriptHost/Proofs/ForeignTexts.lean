import ScriptHost.Proofs.CycleTrace
import ScriptHost.Proofs.Utf8
import Mathlib

/-!
# What crosses to the runtime is what was there

Paths and texts cross to the runtime in the same way: the bytes that they are spelled with
are searched for a NUL byte, and one is written behind them. So nothing is lost and nothing
is confused: the first NUL byte of a buffer ends it, and two buffers are alike only if what
they were made from is (`Faithful`).

A path has one more way to fail, and fails in it first: it may not be text. That is also all
that can be wrong with the base directory of a host, because a path with a NUL byte leads
nowhere and no host is built on it.
-/

namespace ScriptHost

/-- A byte string has its first NUL byte at `k`. -/
structure FirstNul (bytes : Bytes) (k : Nat) : Prop where
  holds : bytes[k]? = some 0
  least : ∀ j < k, bytes[j]? ≠ some 0

section FirstNul

variable {bytes : Bytes} {k l : Nat}

theorem FirstNul.mem (h : FirstNul bytes k) : 0 ∈ bytes := List.mem_of_getElem? h.holds

theorem FirstNul.unique (hk : FirstNul bytes k) (hl : FirstNul bytes l) : k = l := by
  rcases Nat.lt_trichotomy k l with hlt | heq | hlt
  · exact absurd hk.holds (hl.least k hlt)
  · exact heq
  · exact absurd hl.holds (hk.least l hlt)

theorem firstNul_idxOf (hmem : 0 ∈ bytes) : FirstNul bytes (bytes.idxOf 0) where
  holds := by
    have hlt : bytes.idxOf 0 < bytes.length := List.idxOf_lt_length_of_mem hmem
    rw [List.getElem?_eq_getElem hlt, List.getElem_idxOf]
  least j hj h0 := by
    obtain ⟨hlt, h0⟩ := List.getElem?_eq_some_iff.mp h0
    have hpassed : (bytes[j] == 0) = false := List.not_of_lt_findIdx hj
    rw [h0] at hpassed
    cases hpassed

/-- The place that a failure names is the first. -/
theorem firstNul_iff : FirstNul bytes k ↔ 0 ∈ bytes ∧ bytes.idxOf 0 = k :=
  ⟨fun h => ⟨h.mem, (firstNul_idxOf h.mem).unique h⟩, fun ⟨hmem, hk⟩ => hk ▸ firstNul_idxOf hmem⟩

end FirstNul

namespace ForeignText

/-- **What crosses is what was there.** `send` hands over the things `a` that are spelled as text,
each under the name `what` as the bytes `spelled a`. -/
structure Faithful {α : Type} (what : String) (spelled : α → Bytes)
    (send : α → Except HostError ForeignText) : Prop where
  /-- Of text only that fails which has a NUL byte, and the failure names the first one. -/
  error_iff : ∀ a, Utf8.WellFormed (spelled a) → ∀ e,
    send a = .error e ↔ ∃ k, e = .interiorNul what k ∧ FirstNul (spelled a) k
  /-- All other text crosses, and nothing else does. -/
  ok_iff : ∀ a, (∃ t, send a = .ok t) ↔ Utf8.WellFormed (spelled a) ∧ 0 ∉ spelled a
  /-- The buffer is the text with a NUL byte behind it, and is read as the text. -/
  buffer : ∀ a t, send a = .ok t →
    t.buffer = spelled a ++ [0] ∧ readBuffer t.buffer = spelled a
  /-- Two different things never become the same buffer. -/
  injective : ∀ a b t u, send a = .ok t → send b = .ok u → t.buffer = u.buffer → a = b

theorem ofBytes_eq_error_iff {what : String} {bytes : Bytes} {e : HostError} :
    ofBytes what bytes = .error e ↔ ∃ k, e = .interiorNul what k ∧ FirstNul bytes k := by
  by_cases hnul : 0 ∈ bytes
  · rw [ofBytes_of_nul hnul, Except.error.injEq]
    constructor
    · rintro rfl
      exact ⟨_, rfl, firstNul_idxOf hnul⟩
    · rintro ⟨k, rfl, hk⟩
      rw [(firstNul_iff.mp hk).2]
  · rw [ofBytes_of_notMem hnul]
    constructor
    · intro h
      cases h
    · rintro ⟨k, _, hk⟩
      exact absurd hk.mem hnul

theorem ofBytes_eq_ok_iff {what : String} {bytes : Bytes} {t : ForeignText} :
    ofBytes what bytes = .ok t ↔ t.bytes = bytes := by
  constructor
  · intro h
    by_cases hnul : 0 ∈ bytes
    · rw [ofBytes_of_nul hnul] at h
      cases h
    · rw [ofBytes_of_notMem hnul] at h
      cases h
      rfl
  · rintro rfl
    exact ofBytes_of_notMem t.nul_notMem

/-- What sends texts by their bytes and sends nothing else is faithful, if two things are never
spelled alike. -/
theorem faithful_of_ofBytes {α : Type} {what : String} {spelled : α → Bytes}
    {send : α → Except HostError ForeignText}
    (htext : ∀ a, Utf8.WellFormed (spelled a) → send a = ofBytes what (spelled a))
    (hother : ∀ a, ¬ Utf8.WellFormed (spelled a) → ∀ t, send a ≠ .ok t)
    (hspelled : Function.Injective spelled) : Faithful what spelled send := by
  -- what has crossed was text, and its bytes are those it was spelled with
  have hsent : ∀ a t, send a = .ok t → Utf8.WellFormed (spelled a) ∧ t.bytes = spelled a := by
    intro a t h
    by_cases hw : Utf8.WellFormed (spelled a)
    · rw [htext a hw] at h
      exact ⟨hw, ofBytes_eq_ok_iff.mp h⟩
    · exact absurd h (hother a hw t)
  refine ⟨fun a hw e => ?_, fun a => ⟨?_, ?_⟩, fun a t h => ?_, fun a b t u ha hb heq => ?_⟩
  · rw [htext a hw]
    exact ofBytes_eq_error_iff
  · rintro ⟨t, h⟩
    obtain ⟨hw, hbytes⟩ := hsent a t h
    exact ⟨hw, hbytes ▸ t.nul_notMem⟩
  · rintro ⟨hw, hnul⟩
    exact ⟨⟨spelled a, hnul⟩, by rw [htext a hw, ofBytes_of_notMem hnul]⟩
  · obtain ⟨_, hbytes⟩ := hsent a t h
    exact ⟨by rw [buffer, hbytes], by rw [readBuffer_buffer, hbytes]⟩
  · have hread : t.bytes = u.bytes := by
      rw [← readBuffer_buffer t, ← readBuffer_buffer u, heq]
    exact hspelled ((hsent a t ha).2.symm.trans (hread.trans (hsent b u hb).2))

/-- A path that is not text is refused for that, whatever bytes it has. -/
theorem ofPath_eq_nonUtf8Path_iff {what : String} {p q : Path} :
    ofPath what p = .error (.nonUtf8Path q) ↔ q = p ∧ ¬ Utf8.WellFormed p.bytes := by
  rw [← Utf8.isSome_text?_iff]
  cases htext : Utf8.text? p.bytes with
  | none =>
    rw [ofPath, Path.text?, htext, Except.error.injEq, HostError.nonUtf8Path.injEq]
    simp [eq_comm]
  | some s =>
    rw [ofPath_of_text htext, ofBytes_eq_error_iff]
    simp

theorem faithful_ofPath (what : String) : Faithful what Path.bytes (ofPath what) := by
  refine faithful_of_ofBytes (fun p hw => ?_) (fun p hw t h => ?_) fun p q h => ?_
  · obtain ⟨s, hs⟩ := Option.isSome_iff_exists.mp (Utf8.isSome_text?_iff.mpr hw)
    exact ofPath_of_text hs
  · rw [ofPath_eq_nonUtf8Path_iff.mpr ⟨rfl, hw⟩] at h
    cases h
  · cases p
    cases q
    cases h
    rfl

theorem bytesOf_injective : Function.Injective bytesOf := by
  intro s t h
  have hs : Utf8.text? (bytesOf s) = some s := Utf8.text?_eq_some_iff.mpr rfl
  have ht : Utf8.text? (bytesOf t) = some t := Utf8.text?_eq_some_iff.mpr rfl
  rw [h, ht] at hs
  exact (Option.some.inj hs).symm

theorem faithful_ofText (what : String) : Faithful what bytesOf (ofText what) :=
  faithful_of_ofBytes (fun _ _ => rfl) (fun s hw => absurd ⟨s.toList, rfl⟩ hw) bytesOf_injective

end ForeignText

namespace Host

/-- A path with a NUL byte leads to no base directory. -/
theorem new_of_nul {r : Runtime} {base entry : Path} {w : World} (hnul : 0 ∈ base.bytes) :
    Host.new r base entry w
      = .error (.failure (.baseDirectory base FileFault.nulInPath.message)) w := by
  have hfollow : w.system.files.follow w.system.cwd base = .error .nulInPath := by
    rw [FileTree.follow, if_pos hnul]
  rw [new_eq, System.resolveBaseDir, FileTree.canonical, hfollow]

/-- A cycle that complains of a NUL byte complains of its base directory or of its script. -/
theorem runOnce_interiorNul {h : Host} {n k : Nat} {what : String} {w w' : World}
    (hrun : h.runOnce n w = .error (.failure (.interiorNul what k)) w') :
    0 ∈ h.baseDir.bytes ∧ what = baseDirectoryText ∨ what = entryScriptText := by
  have hcases := h.runOnce_cases n w
  rw [hrun] at hcases
  cases hcases with
  | notStarted hstart =>
    cases hstart with
    | nul hnul => exact Or.inl ⟨hnul, rfl⟩
  | refused _ hrefuses _ =>
    cases hrefuses with
    | unreadable hfile =>
      -- a file fails under its own name only
      unfold EntryScript.ofFile at hfile
      repeat' split at hfile
      all_goals cases hfile
    | nul => exact Or.inr rfl

end Host

namespace ForeignText

/-- **Foreign text is faithful.** A path that is not text is refused for that, NUL byte or not;
what is text, path or not, crosses unless it has a NUL byte, and then the failure names the first
one; what has crossed is read back as it was, and nothing else becomes the same. No host is built
on a path with a NUL byte, and no cycle of a host, in whatever world it runs, fails over a NUL byte
in its base directory. -/
theorem foreign_text_faithful (what : String) :
    (∀ p q : Path, ofPath what p = .error (.nonUtf8Path q) ↔ q = p ∧ ¬ Utf8.WellFormed p.bytes)
      ∧ Faithful what Path.bytes (ofPath what)
      ∧ Faithful what bytesOf (ofText what)
      ∧ (∀ s : String, Utf8.WellFormed (bytesOf s))
      ∧ (∀ s t, ofText what s = .ok t → Utf8.text? (readBuffer t.buffer) = some s)
      ∧ (∀ r base entry w, 0 ∈ base.bytes →
          Host.new r base entry w
            = .error (.failure (.baseDirectory base FileFault.nulInPath.message)) w)
      ∧ ∀ r base entry w h w₁, Host.new r base entry w = .ok h w₁ →
          ∀ n k w₂ w₃,
            h.runOnce n w₂ ≠ .error (.failure (.interiorNul baseDirectoryText k)) w₃ := by
  have hpath := faithful_ofPath what
  have htext := faithful_ofText what
  refine ⟨fun p q => ofPath_eq_nonUtf8Path_iff, hpath, htext, fun s => ⟨s.toList, rfl⟩,
    fun s t h => ?_, fun r base entry w hnul => Host.new_of_nul hnul,
    fun r base entry w h w₁ hnew n k w₂ w₃ => ?_⟩
  · rw [(htext.buffer s t h).2]
    exact Utf8.text?_eq_some_iff.mpr rfl
  · intro hrun
    rcases Host.runOnce_interiorNul hrun with ⟨hnul, _⟩ | hwhat
    · exact Host.nul_notMem_baseDir hnew hnul
    · exact absurd hwhat (by decide)

/-- Bytes that are no text and a NUL byte together, two NUL bytes, and a host. -/
theorem awkward_crossings :
    (¬ Utf8.WellFormed [0x00, 0xFF]
        ∧ ofPath entryScriptText ⟨[0x00, 0xFF]⟩ = .error (.nonUtf8Path ⟨[0x00, 0xFF]⟩))
      ∧ (FirstNul (bytesOf "é\x00\x00") 2
        ∧ ofText entryScriptText "é\x00\x00" = .error (.interiorNul entryScriptText 2))
      ∧ (∃ t, ofText entryScriptText "é" = .ok t ∧ t.buffer = [0xC3, 0xA9, 0x00])
      ∧ Host.new (.recorder true) (.ofString "/app") (.ofString "main.js") (smallWorld none [])
        = .ok smallHost (smallWorld none [])
      ∧ ∀ n k w₂ w₃, smallHost.runOnce n w₂
        ≠ .error (.failure (.interiorNul baseDirectoryText k)) w₃ := by
  obtain ⟨hnotText, -, htext, hwell, -, -, hhost⟩ := foreign_text_faithful entryScriptText
  have hbad : ¬ Utf8.WellFormed [0x00, 0xFF] := by
    rw [← Utf8.isSome_text?_iff]
    decide +kernel
  have hfirst : FirstNul (bytesOf "é\x00\x00") 2 := firstNul_iff.mpr (by decide +kernel)
  obtain ⟨t, ht⟩ := (htext.ok_iff "é").mpr ⟨hwell "é", by decide +kernel⟩
  refine ⟨⟨hbad, (hnotText _ _).mpr ⟨rfl, hbad⟩⟩,
    ⟨hfirst, (htext.error_iff _ (hwell _) _).mpr ⟨2, rfl, hfirst⟩⟩,
    ⟨t, ht, (htext.buffer _ t ht).1.trans (by decide +kernel)⟩, new_smallHost none [], ?_⟩
  exact hhost _ _ _ _ _ _ (new_smallHost none [])

end ForeignText

end ScriptHost
