import Mathlib
import ScriptHost.CommandLine.Parser
import ScriptHost.Proofs.TomlDocuments
import ScriptHost.Proofs.Utf8

/-!
# Every spelling of a command line is read back

A command line can be written in many ways: its options stand in any order, joined to
their values or apart from them, under their long names or their short ones, and the
global ones on either side of the command's name. `CommandLine.Spelled` has all of these
ways, and every one of them is read as the command line itself (`parse_spelled`).

A level is read option by option. After each of them the reading holds the values so far
(`Reading.Holds`), although the last one may not have been judged yet. The rest is about
values alone: since no option occurs twice their order does not matter, and two levels
that are read apart come together as if they had been one (`foldl_put`).
-/

namespace ScriptHost

/-! ## Ways of writing a command line -/

/-- An option with its value. -/
inductive Assignment where
  | entry (p : Path)
  | cycles (n : UInt32)
  | config (text : String)
  | baseDir (p : Path)
  | library (p : Path)
  | logLevel (text : String)
  | logFormat (f : LogFormat)
  deriving DecidableEq, Repr

namespace Assignment

def name : Assignment → OptionName
  | .entry _ => .entry
  | .cycles _ => .cycles
  | .config _ => .config
  | .baseDir _ => .baseDir
  | .library _ => .library
  | .logLevel _ => .logLevel
  | .logFormat _ => .logFormat

/-- The value as an argument, byte for byte; a count is written in decimal digits. -/
def value : Assignment → Bytes
  | .entry p | .baseDir p | .library p => p.bytes
  | .config text | .logLevel text => bytesOf text
  | .cycles n => bytesOf (String.ofList (Nat.toDigits 10 n.toNat))
  | .logFormat f => bytesOf f.name

/-- The arguments that an option can be written as. A value that looks like an option has to be
joined to the name. -/
inductive Spelled (x : Assignment) : List Bytes → Prop where
  | joined : Spelled x [bytesOf ("--" ++ x.name.long ++ "=") ++ x.value]
  | apart : x.value.head? ≠ some CommandLine.dash →
      Spelled x [bytesOf ("--" ++ x.name.long), x.value]
  | short {c : Char} : x.name.short? = some c → x.value.head? ≠ some CommandLine.dash →
      Spelled x [bytesOf ("-" ++ String.singleton c), x.value]

/-- The arguments that options can be written as, one after the other. -/
inductive SpelledAll : List Assignment → List Bytes → Prop where
  | nil : SpelledAll [] []
  | cons {x : Assignment} {assignments : List Assignment} {xs args : List Bytes} :
      x.Spelled xs → SpelledAll assignments args → SpelledAll (x :: assignments) (xs ++ args)

end Assignment

def Command.name : Command → CommandName
  | .run _ _ => .run
  | .probe => .probe
  | .config => .config

def Command.assignments : Command → List Assignment
  | .run entry cycles => (entry.map .entry).toList ++ (cycles.map .cycles).toList
  | _ => []

def GlobalOptions.assignments (o : GlobalOptions) : List Assignment :=
  (o.config.map .config).toList ++ (o.baseDir.map .baseDir).toList
    ++ (o.library.map .library).toList ++ (o.logLevel.map .logLevel).toList
    ++ (o.logFormat.map .logFormat).toList

namespace CommandLine

/-- The options that a command line has, each with its value. -/
def assignments (cl : CommandLine) : List Assignment :=
  (cl.command.map Command.assignments).getD [] ++ cl.options.assignments

/-- The arguments that a command line can be written as: its options in any order, of which the
global ones may stand in front of the command's name. -/
inductive Spelled (cl : CommandLine) : List Bytes → Prop where
  | bare {given : List Assignment} {args : List Bytes} :
      cl.command = none → given.Perm cl.assignments → Assignment.SpelledAll given args →
      Spelled cl args
  | command {c : Command} {front behind : List Assignment} {xs ys : List Bytes} :
      cl.command = some c → (front ++ behind).Perm cl.assignments →
      (∀ x ∈ front, x.name ∈ OptionName.globals) →
      Assignment.SpelledAll front xs → Assignment.SpelledAll behind ys →
      Spelled cl (xs ++ bytesOf c.name.text :: ys)

end CommandLine

/-! ## Counts -/

namespace Text

/-- What one more digit makes of a number that has to fit. -/
def readDigit (high n : Int) (c : Char) : Except IntFault Int :=
  if isDigit c then
    let n := n * 10 + (c.toNat - '0'.toNat : Nat)
    if n ≤ high then .ok n else .error .tooLarge
  else .error .invalidDigit

/-- The number that digits make behind those of `m`. -/
def decimalFrom (m : Nat) (ds : List Char) : Nat :=
  ds.foldl (fun n c => n * 10 + (c.toNat - '0'.toNat)) m

theorem le_decimalFrom (m : Nat) (ds : List Char) : m ≤ decimalFrom m ds := by
  induction ds generalizing m with
  | nil => exact Nat.le_refl m
  | cons c ds ih => exact Nat.le_trans (by omega) (ih (m * 10 + (c.toNat - '0'.toNat)))

theorem readDigit_natCast {c : Char} (hc : isDigit c = true) (high : Int) (m : Nat) :
    readDigit high m c = if ((m * 10 + (c.toNat - '0'.toNat) : Nat) : Int) ≤ high then
      .ok ((m * 10 + (c.toNat - '0'.toNat) : Nat) : Int) else .error .tooLarge := by
  rw [readDigit, if_pos hc]
  push_cast
  rfl

/-- Digits of a number that fits are read to their end. None of them leads out of the range, since
the number only grows. -/
theorem foldlM_readDigit {high : Int} {ds : List Char} (hdigits : ∀ c ∈ ds, isDigit c = true)
    {m : Nat} (hfits : (decimalFrom m ds : Int) ≤ high) :
    ds.foldlM (readDigit high) (m : Int) = .ok (decimalFrom m ds : Int) := by
  induction ds generalizing m with
  | nil => rfl
  | cons c ds ih =>
    obtain ⟨hc, hds⟩ := List.forall_mem_cons.mp hdigits
    have hnext : decimalFrom m (c :: ds) = decimalFrom (m * 10 + (c.toNat - '0'.toNat)) ds := rfl
    rw [hnext] at hfits ⊢
    have hgrows := le_decimalFrom (m * 10 + (c.toNat - '0'.toNat)) ds
    rw [List.foldlM_cons, readDigit_natCast hc, if_pos (by omega)]
    exact ih hds hfits

/-- Digits of a number that does not fit are read up to the one that leads out of the range. -/
theorem foldlM_readDigit_of_lt {high : Int} {ds : List Char}
    (hdigits : ∀ c ∈ ds, isDigit c = true) {m : Nat} (hm : (m : Int) ≤ high)
    (hlarge : high < (decimalFrom m ds : Int)) :
    ds.foldlM (readDigit high) (m : Int) = .error .tooLarge := by
  induction ds generalizing m with
  | nil => exact absurd hlarge (Int.not_lt.mpr hm)
  | cons c ds ih =>
    obtain ⟨hc, hds⟩ := List.forall_mem_cons.mp hdigits
    rw [List.foldlM_cons, readDigit_natCast hc]
    by_cases hnext : ((m * 10 + (c.toNat - '0'.toNat) : Nat) : Int) ≤ high
    · rw [if_pos hnext]
      exact ih hds hnext hlarge
    · rw [if_neg hnext]
      rfl

theorem decimalFrom_toDigits (n : Nat) : decimalFrom 0 (Nat.toDigits 10 n) = n := by
  have h := Toml.decimalValue_toDigits n
  rwa [decimalValue, ofDigits, List.foldl_map] at h

/-- The digits of a number are read from the first on, without a sign. -/
theorem parseInt_digits (low high : Int) (n : Nat) : parseInt low high (Nat.toDigits 10 n)
    = (Nat.toDigits 10 n).foldlM (readDigit high) (0 : Nat) := by
  have hpositive : parseInt.positive high (Nat.toDigits 10 n)
      = (Nat.toDigits 10 n).foldlM (readDigit high) (0 : Nat) := by
    rw [parseInt.positive, if_neg (by simp [Nat.toDigits_ne_nil])]
    rfl
  obtain ⟨d, ds, hds, hd, _⟩ := Toml.toDigits_cons n
  rw [hds] at hpositive ⊢
  unfold parseInt
  split
  next heq => cases heq
  next heq => exact absurd heq (Toml.cons_ne_of_isDigit hd)
  next heq => exact absurd heq (Toml.cons_ne_of_isDigit hd)
  next => exact hpositive

theorem parseInt_toDigits {low high : Int} {n : Nat} (hn : (n : Int) ≤ high) :
    parseInt low high (Nat.toDigits 10 n) = .ok (n : Int) := by
  have hfits : (decimalFrom 0 (Nat.toDigits 10 n) : Int) ≤ high := by rwa [decimalFrom_toDigits]
  rw [parseInt_digits, foldlM_readDigit (fun _ => Toml.isDigit_of_mem_toDigits) hfits,
    decimalFrom_toDigits]

/-- A number that does not fit is refused, whatever it would be within the range. -/
theorem parseInt_toDigits_of_lt {low high : Int} {n : Nat} (hhigh : 0 ≤ high)
    (hn : high < (n : Int)) :
    parseInt low high (Nat.toDigits 10 n) = .error .tooLarge := by
  have hlarge : high < (decimalFrom 0 (Nat.toDigits 10 n) : Int) := by rwa [decimalFrom_toDigits]
  rw [parseInt_digits,
    foldlM_readDigit_of_lt (fun _ => Toml.isDigit_of_mem_toDigits) (by simpa using hhigh) hlarge]

end Text

/-! ## Values -/

namespace Values

/-- The values with one more. -/
def put (v : Values) : Assignment → Values
  | .entry p => { v with entry := some p }
  | .cycles n => { v with cycles := some n }
  | .config text => { v with options := { v.options with config := some text } }
  | .baseDir p => { v with options := { v.options with baseDir := some p } }
  | .library p => { v with options := { v.options with library := some p } }
  | .logLevel text => { v with options := { v.options with logLevel := some text } }
  | .logFormat f => { v with options := { v.options with logFormat := some f } }

theorem has_put (v : Values) (x : Assignment) (o : OptionName) :
    (v.put x).has o = (decide (x.name = o) || v.has o) := by
  cases x <;> cases o <;> rfl

/-- Two options can be put in either order. -/
theorem put_comm (v : Values) {x y : Assignment} (h : x.name ≠ y.name) :
    (v.put x).put y = (v.put y).put x := by
  cases x <;> cases y <;> first | rfl | exact absurd rfl h

/-- Options that are not given twice can be put in any order. -/
theorem foldl_put_of_perm {xs ys : List Assignment} (h : xs.Perm ys)
    (hnames : (ys.map Assignment.name).Nodup) (v : Values) : xs.foldl put v = ys.foldl put v := by
  have hxs : (xs.map Assignment.name).Nodup := (h.map _).nodup_iff.mpr hnames
  refine h.foldl_eq' (fun x hx y hy v => ?_) v
  by_cases heq : x.name = y.name
  · rw [List.inj_on_of_nodup_map hxs hx hy heq]
  · exact put_comm v heq

/-- The values of a level over those of another one. -/
def laidOver (inner outer : Values) : Values :=
  { options :=
      { config := inner.options.config.or outer.options.config
        baseDir := inner.options.baseDir.or outer.options.baseDir
        library := inner.options.library.or outer.options.library
        logLevel := inner.options.logLevel.or outer.options.logLevel
        logFormat := inner.options.logFormat.or outer.options.logFormat }
    entry := inner.entry.or outer.entry
    cycles := inner.cycles.or outer.cycles }

theorem put_laidOver (v w : Values) (x : Assignment) :
    (v.laidOver w).put x = (v.put x).laidOver w := by
  cases x <;> rfl

/-- **Two levels come together** as if one had been read behind the other. -/
theorem foldl_put (xs : List Assignment) (v : Values) :
    xs.foldl put v = (xs.foldl put {}).laidOver v := by
  have hall : ∀ (w : Values), xs.foldl put (w.laidOver v) = (xs.foldl put w).laidOver v := by
    induction xs with
    | nil => exact fun w => rfl
    | cons x xs ih =>
      intro w
      rw [List.foldl_cons, List.foldl_cons, put_laidOver, ih]
  exact hall {}

/-- Global options leave those of a command alone. -/
theorem foldl_put_globals {xs : List Assignment} (hxs : ∀ x ∈ xs, x.name ∈ OptionName.globals)
    (v : Values) :
    (xs.foldl put v).entry = v.entry ∧ (xs.foldl put v).cycles = v.cycles := by
  induction xs generalizing v with
  | nil => exact ⟨rfl, rfl⟩
  | cons x xs ih =>
    obtain ⟨hx, hrest⟩ := List.forall_mem_cons.mp hxs
    obtain ⟨hentry, hcycles⟩ := ih hrest (v.put x)
    rw [List.foldl_cons, hentry, hcycles]
    cases x with
    | entry p => exact absurd (show OptionName.entry ∈ OptionName.globals from hx) (by decide)
    | cycles n => exact absurd (show OptionName.cycles ∈ OptionName.globals from hx) (by decide)
    | _ => exact ⟨rfl, rfl⟩

end Values

namespace CommandLine

/-- The level that a command line ends on. -/
def scope (cl : CommandLine) : Scope :=
  match cl.command with
  | some c => .command c.name
  | none => .top

/-- The values that a command line has. -/
def values (cl : CommandLine) : Values :=
  match cl.command with
  | some (.run entry cycles) => ⟨cl.options, entry, cycles⟩
  | _ => { options := cl.options }

theorem names_sublist {α : Type} {o : OptionName} (f : α → Assignment)
    (hf : ∀ a, (f a).name = o) (a : Option α) :
    ((a.map f).toList.map Assignment.name).Sublist [o] := by
  cases a with
  | none => exact List.nil_sublist _
  | some a => simp [hf]

/-- A command line has the options of its level, each of them once at most. -/
theorem assignments_sublist (cl : CommandLine) :
    (cl.assignments.map Assignment.name).Sublist cl.scope.options := by
  obtain ⟨command, options⟩ := cl
  have hglobals : (options.assignments.map Assignment.name).Sublist OptionName.globals := by
    simp only [GlobalOptions.assignments, List.map_append]
    have hconfig := names_sublist Assignment.config (fun _ => rfl) options.config
    have hbaseDir := names_sublist Assignment.baseDir (fun _ => rfl) options.baseDir
    have hlibrary := names_sublist Assignment.library (fun _ => rfl) options.library
    have hlogLevel := names_sublist Assignment.logLevel (fun _ => rfl) options.logLevel
    have hlogFormat := names_sublist Assignment.logFormat (fun _ => rfl) options.logFormat
    exact (((hconfig.append hbaseDir).append hlibrary).append hlogLevel).append hlogFormat
  cases command with
  | none => exact hglobals
  | some c =>
    cases c with
    | run entry cycles =>
      have hentry := names_sublist Assignment.entry (fun _ => rfl) entry
      have hcycles := names_sublist Assignment.cycles (fun _ => rfl) cycles
      simp only [assignments, Option.map_some, Option.getD_some, Command.assignments,
        List.map_append]
      exact (hentry.append hcycles).append hglobals
    | probe => exact hglobals
    | config => exact hglobals

theorem nodup_assignments (cl : CommandLine) : (cl.assignments.map Assignment.name).Nodup := by
  refine cl.assignments_sublist.nodup ?_
  rcases cl.scope with _ | (_ | _ | _) <;> decide

theorem foldl_put_options (o : GlobalOptions) (entry : Option Path) (cycles : Option UInt32) :
    o.assignments.foldl Values.put ⟨{}, entry, cycles⟩ = ⟨o, entry, cycles⟩ := by
  obtain ⟨config, baseDir, library, logLevel, logFormat⟩ := o
  cases config <;> cases baseDir <;> cases library <;> cases logLevel <;> cases logFormat <;> rfl

/-- The options of a command line make up its values. -/
theorem foldl_put_assignments (cl : CommandLine) :
    cl.assignments.foldl Values.put {} = cl.values := by
  obtain ⟨command, options⟩ := cl
  rw [assignments, List.foldl_append]
  cases command with
  | none => exact foldl_put_options options none none
  | some c =>
    cases c with
    | run entry cycles =>
      have hrun : (Command.run entry cycles).assignments.foldl Values.put {}
          = ⟨{}, entry, cycles⟩ := by
        cases entry <;> cases cycles <;> rfl
      rw [Option.map_some, Option.getD_some, hrun]
      exact foldl_put_options options entry cycles
    | probe => exact foldl_put_options options none none
    | config => exact foldl_put_options options none none

/-! ## One option -/

theorem readText_bytesOf (text : String) : readText (bytesOf text) = .ok text := by
  rw [readText, Utf8.text?_eq_some_iff.mpr rfl]

theorem readPath_bytes (o : OptionName) {p : Path} (hne : p.bytes ≠ []) :
    readPath o p.bytes = .ok p := by
  rw [readPath, if_neg hne]

theorem readCount_value (n : UInt32) : readCount (Assignment.cycles n).value = .ok n := by
  have hlt : n.toNat < UInt32.size := n.toNat_lt_size
  have hparse : Text.parseInt64 (Nat.toDigits 10 n.toNat) = .ok (n.toNat : Int) :=
    Text.parseInt_toDigits (by unfold UInt32.size at hlt; unfold Text.signedBound; omega)
  unfold readCount Assignment.value
  rw [readText_bytesOf]
  simp only [bind, Except.bind, String.toList_ofList, hparse]
  rw [if_pos ⟨Int.natCast_nonneg _, Int.ofNat_lt.mpr hlt⟩]
  simp

theorem readFormat_name (f : LogFormat) : readFormat (bytesOf f.name) = .ok f := by
  cases f <;> cbv

/-- A value that was written is judged as what it is. -/
theorem assign_value {v : Values} {x : Assignment} (hnew : v.has x.name = false)
    (hne : x.value ≠ []) : assign v x.name x.value = .ok (v.put x) := by
  rw [assign, hnew, if_neg Bool.false_ne_true]
  cases x with
  | entry p => exact congrArg (Except.map _) (readPath_bytes .entry hne)
  | cycles n => exact congrArg (Except.map _) (readCount_value n)
  | config text => exact congrArg (Except.map _) (readText_bytesOf text)
  | baseDir p => exact congrArg (Except.map _) (readPath_bytes .baseDir hne)
  | library p => exact congrArg (Except.map _) (readPath_bytes .library hne)
  | logLevel text => exact congrArg (Except.map _) (readText_bytesOf text)
  | logFormat f => exact congrArg (Except.map _) (readFormat_name f)

/-! ## One argument -/

theorem long_proper (o : OptionName) : bytesOf o.long ≠ [] ∧ equalsSign ∉ bytesOf o.long := by
  cases o <;> decide

theorem all_ne_equalsSign {name : Bytes} (hname : equalsSign ∉ name) :
    ∀ b ∈ name, decide (b ≠ equalsSign) = true := by
  intro b hb
  rw [decide_eq_true_eq]
  rintro rfl
  exact hname hb

theorem shapeOf_joined {name : Bytes} (hname : equalsSign ∉ name) (value : Bytes) :
    shapeOf (dash :: dash :: (name ++ equalsSign :: value)) = .long name (some value) := by
  have hall := all_ne_equalsSign hname
  have hrest : name ++ equalsSign :: value ≠ [] := by simp
  simp only [shapeOf, if_true, if_neg hrest, List.takeWhile_append_of_pos hall,
    List.dropWhile_append_of_pos hall]
  simp

theorem shapeOf_long {name : Bytes} (hne : name ≠ []) (hname : equalsSign ∉ name) :
    shapeOf (dash :: dash :: name) = .long name none := by
  have hall := all_ne_equalsSign hname
  have htake : name.takeWhile (fun b => decide (b ≠ equalsSign)) = name :=
    List.takeWhile_eq_self_iff.mpr hall
  have hdrop : name.dropWhile (fun b => decide (b ≠ equalsSign)) = [] :=
    List.dropWhile_eq_nil_iff.mpr hall
  simp only [shapeOf, if_true, if_neg hne, htake, hdrop]

theorem shapeOf_plain {value : Bytes} (h : value.head? ≠ some dash) : shapeOf value = .plain := by
  unfold shapeOf
  split
  next a b rest =>
    rw [if_neg]
    rintro rfl
    exact h rfl
  next => rfl

section Level

variable {scope : Scope} {shown : String} {r : Reading} {v : Values} {o : OptionName}
  {x : Assignment} {arg value : Bytes} {args xs : List Bytes}

theorem find?_long (ho : o ∈ scope.options) :
    scope.options.find? (fun x => x.long = o.long) = some o := by
  rcases scope with _ | (_ | _ | _) <;> cases o <;> first | rfl | exact absurd ho (by decide)

/-- An option of the level is found under its long name. -/
theorem readLong_long (ho : o ∈ scope.options) (shown : String) (r : Reading)
    (value : Option Bytes) : readLong scope shown r (bytesOf o.long) value = r.takeUp o value := by
  unfold readLong
  rw [Utf8.text?_eq_some_iff.mpr rfl]
  dsimp only
  rw [find?_long ho]

theorem find?_short {c : Char} (hc : o.short? = some c) (ho : o ∈ scope.options) :
    scope.options.find? (fun x => x.short? = some c) = some o := by
  rcases scope with _ | (_ | _ | _) <;> cases o <;> cases hc <;>
    first | rfl | exact absurd ho (by decide)

/-- A short name is one byte behind the dash. -/
theorem front_short {c : Char} (hc : o.short? = some c) :
    ∃ b, bytesOf ("-" ++ String.singleton c) = [dash, b] ∧ b ≠ dash
      ∧ Utf8.front b [] = .char c 1 := by
  cases o <;> cases hc <;> exact ⟨_, rfl, by decide, by cbv⟩

/-- An option of the level is found under its short name. -/
theorem readShort_short {c : Char} {b : UInt8} (hb : Utf8.front b [] = .char c 1)
    (hc : o.short? = some c) (ho : o ∈ scope.options) (shown : String) (r : Reading) :
    readShort scope shown r b [] = r.takeUp o none := by
  unfold readShort
  rw [hb]
  dsimp only
  rw [find?_short hc ho]
  rfl

/-- What looks like an option is not taken for the name of a command. -/
theorem not_command (h : arg.head? = some dash) :
    arg ≠ bytesOf helpName ∧ CommandName.ofBytes? arg = none := by
  have hother : ∀ name : Bytes, name.head? ≠ some dash → name ≠ arg := by
    rintro name hname rfl
    exact hname h
  refine ⟨(hother _ (by decide)).symm, List.find?_eq_none.mpr fun n _ => ?_⟩
  rw [decide_eq_true_eq]
  exact hother _ (by cases n <;> decide)

theorem readLevel_long {name : Bytes} {given : Option Bytes} (hdash : arg.head? = some dash)
    (hshape : shapeOf arg = .long name given) :
    readLevel scope shown r (arg :: args)
      = readLong scope shown r name given >>= fun r => readLevel scope shown r args := by
  obtain ⟨hhelp, hcommand⟩ := not_command hdash
  rw [readLevel.eq_def]
  dsimp only
  rw [if_neg (by simp [hhelp]), hcommand, ite_self]
  dsimp only
  rw [hshape]

theorem readLevel_short {first : UInt8} {rest : Bytes} (hdash : arg.head? = some dash)
    (hshape : shapeOf arg = .short first rest) :
    readLevel scope shown r (arg :: args)
      = readShort scope shown r first rest >>= fun r => readLevel scope shown r args := by
  obtain ⟨hhelp, hcommand⟩ := not_command hdash
  rw [readLevel.eq_def]
  dsimp only
  rw [if_neg (by simp [hhelp]), hcommand, ite_self]
  dsimp only
  rw [hshape]

/-- The argument behind the name of an option is its value, whatever else it could be. -/
theorem readLevel_value (hpending : r.pending = some (o, none)) (hvalue : value.head? ≠ some dash) :
    readLevel scope shown r (value :: args)
      = readLevel scope shown { r with pending := some (o, some value) } args := by
  have hexpects : r.expectsValue = true := by rw [Reading.expectsValue, hpending]
  rw [readLevel.eq_def]
  dsimp only
  rw [if_neg (by simp [hexpects]), if_neg (by simp [hexpects])]
  dsimp only
  rw [shapeOf_plain hvalue]
  dsimp only
  rw [hpending]

/-! ## One level -/

/-- All options read so far have a value, and `v` are the values. -/
structure Reading.Holds (r : Reading) (v : Values) : Prop where
  expectsValue : r.expectsValue = false
  settle : r.settle = .ok v

theorem takeUp_none (hr : r.Holds v) (o : OptionName) :
    r.takeUp o none = .ok { values := v, pending := some (o, none) } := by
  unfold Reading.takeUp
  rw [hr.settle]
  rfl

theorem takeUp_value (hr : r.Holds v) (hnew : v.has x.name = false) (hne : x.value ≠ []) :
    r.takeUp x.name (some x.value) = .ok { values := v.put x } := by
  unfold Reading.takeUp
  rw [hr.settle]
  show (assign v x.name x.value).map _ = _
  rw [assign_value hnew hne]
  rfl

/-- **An option that is new to a level** is read off the front, however it is written. -/
theorem readLevel_spelled (hx : x.Spelled xs) (ho : x.name ∈ scope.options) (hr : r.Holds v)
    (hnew : v.has x.name = false) (hne : x.value ≠ []) (shown : String) (args : List Bytes) :
    ∃ r' : Reading, r'.Holds (v.put x)
      ∧ readLevel scope shown r (xs ++ args) = readLevel scope shown r' args := by
  obtain ⟨hlong, hequals⟩ := long_proper x.name
  -- apart from its value, an option is judged when the next one turns up
  have hvalue : x.value.head? ≠ some dash → ∀ arg : Bytes,
      readLevel scope shown r (arg :: x.value :: args)
        = readLevel scope shown ⟨v, some (x.name, none)⟩ (x.value :: args) →
      ∃ r' : Reading, r'.Holds (v.put x)
        ∧ readLevel scope shown r (arg :: x.value :: args) = readLevel scope shown r' args := by
    intro hplain arg harg
    rw [harg, readLevel_value rfl hplain]
    exact ⟨⟨v, some (x.name, some x.value)⟩, ⟨rfl, assign_value hnew hne⟩, rfl⟩
  cases hx with
  | joined =>
    have harg : bytesOf ("--" ++ x.name.long ++ "=") ++ x.value
        = dash :: dash :: (bytesOf x.name.long ++ equalsSign :: x.value) := by
      rw [Utf8.bytesOf_append, Utf8.bytesOf_append, List.append_assoc, List.append_assoc]
      rfl
    refine ⟨{ values := v.put x }, ⟨rfl, rfl⟩, ?_⟩
    rw [harg, List.singleton_append, readLevel_long rfl (shapeOf_joined hequals x.value),
      readLong_long ho, takeUp_value hr hnew hne]
    rfl
  | apart hplain =>
    have harg : bytesOf ("--" ++ x.name.long) = dash :: dash :: bytesOf x.name.long := by
      rw [Utf8.bytesOf_append]
      rfl
    refine hvalue hplain _ ?_
    rw [harg, readLevel_long rfl (shapeOf_long hlong hequals), readLong_long ho, takeUp_none hr]
    rfl
  | short hc hplain =>
    obtain ⟨b, harg, hb, hfront⟩ := front_short hc
    refine hvalue hplain _ ?_
    have hshape : shapeOf [dash, b] = .short b [] := by
      simp only [shapeOf, if_true, if_neg hb]
    rw [harg, readLevel_short rfl hshape, readShort_short hfront hc ho, takeUp_none hr]
    rfl

/-- **A row of different options** is read to its end, by induction on the row. -/
theorem readLevel_spelledAll {given : List Assignment} (hall : Assignment.SpelledAll given xs)
    (ho : ∀ x ∈ given, x.name ∈ scope.options) (hne : ∀ x ∈ given, x.value ≠ [])
    (hnames : (given.map Assignment.name).Nodup) (hnew : ∀ x ∈ given, v.has x.name = false)
    (hr : r.Holds v) (shown : String) (args : List Bytes) :
    ∃ r' : Reading, r'.Holds (given.foldl Values.put v)
      ∧ readLevel scope shown r (xs ++ args) = readLevel scope shown r' args := by
  induction hall generalizing r v with
  | nil => exact ⟨r, hr, rfl⟩
  | @cons x given xs ys hx hall ih =>
    obtain ⟨hox, horest⟩ := List.forall_mem_cons.mp ho
    obtain ⟨hnex, hnerest⟩ := List.forall_mem_cons.mp hne
    obtain ⟨hnewx, hnewrest⟩ := List.forall_mem_cons.mp hnew
    rw [List.map_cons, List.nodup_cons] at hnames
    obtain ⟨r₁, hr₁, hfirst⟩ := readLevel_spelled hx hox hr hnewx hnex shown (ys ++ args)
    have hlater : ∀ y ∈ given, (v.put x).has y.name = false := by
      intro y hy
      rw [Values.has_put, hnewrest y hy, Bool.or_false, decide_eq_false_iff_not]
      intro heq
      exact hnames.1 (heq ▸ List.mem_map_of_mem hy)
    obtain ⟨r', hr', hrest⟩ := ih horest hnerest hnames.2 hlater hr₁
    exact ⟨r', hr', by rw [List.append_assoc, hfirst, hrest]⟩

/-- A level begins without any values. -/
theorem readLevel_fresh {given : List Assignment} (hall : Assignment.SpelledAll given xs)
    (ho : ∀ x ∈ given, x.name ∈ scope.options) (hne : ∀ x ∈ given, x.value ≠ [])
    (hnames : (given.map Assignment.name).Nodup) (shown : String) (args : List Bytes) :
    ∃ r : Reading, r.Holds (given.foldl Values.put {})
      ∧ readLevel scope shown {} (xs ++ args) = readLevel scope shown r args :=
  readLevel_spelledAll hall ho hne hnames (fun x _ => by cases x <;> rfl) ⟨rfl, rfl⟩ shown args

theorem readLevel_command (hr : r.Holds v) (n : CommandName) (shown : String) (args : List Bytes) :
    readLevel .top shown r (bytesOf n.text :: args) = .ok (r, some (n, args)) := by
  have hname : CommandName.ofBytes? (bytesOf n.text) = some n := by cases n <;> decide
  have hhelp : bytesOf n.text ≠ bytesOf helpName := by cases n <;> decide
  rw [readLevel.eq_def]
  dsimp only
  rw [if_neg (by simp [hhelp]), if_pos (by simp [hr.expectsValue]), hname]

end Level

/-! ## Both levels -/

/-- The command of a name with the options that were read for it. -/
def commandOf (n : CommandName) (v : Values) : Command :=
  match n with
  | .run => .run v.entry v.cycles
  | .probe => .probe
  | .config => .config

theorem commandOf_name {cl : CommandLine} {c : Command} {v : Values} (hc : cl.command = some c)
    (hentry : v.entry = cl.values.entry) (hcycles : v.cycles = cl.values.cycles) :
    commandOf c.name v = c := by
  rw [values, hc] at hentry hcycles
  cases c with
  | run entry cycles => exact congrArg₂ Command.run hentry hcycles
  | probe => rfl
  | config => rfl

theorem options_values (cl : CommandLine) : cl.values.options = cl.options := by
  unfold values
  split <;> rfl

section Halves

variable {cl : CommandLine} {front behind given : List Assignment}

theorem nodup_of_perm (hperm : given.Perm cl.assignments) : (given.map Assignment.name).Nodup :=
  (hperm.map _).nodup_iff.mpr cl.nodup_assignments

theorem foldl_put_of_perm_assignments (hperm : given.Perm cl.assignments) :
    given.foldl Values.put {} = cl.values := by
  rw [Values.foldl_put_of_perm hperm cl.nodup_assignments, foldl_put_assignments]

/-- Both levels together have the values of the command line. -/
theorem laidOver_of_perm (hperm : (front ++ behind).Perm cl.assignments) :
    (behind.foldl Values.put {}).laidOver (front.foldl Values.put {}) = cl.values := by
  rw [← Values.foldl_put, ← List.foldl_append, foldl_put_of_perm_assignments hperm]

/-- The level behind the command's name has the values of the command. -/
theorem commandOf_of_perm {c : Command} (hc : cl.command = some c)
    (hperm : (front ++ behind).Perm cl.assignments)
    (hfront : ∀ x ∈ front, x.name ∈ OptionName.globals) :
    commandOf c.name (behind.foldl Values.put {}) = c := by
  obtain ⟨hentry, hcycles⟩ := Values.foldl_put_globals hfront {}
  refine commandOf_name hc ?_ ?_
  · rw [← laidOver_of_perm hperm, Values.laidOver, hentry, Option.or_none]
  · rw [← laidOver_of_perm hperm, Values.laidOver, hcycles, Option.or_none]

end Halves

section Parse

variable {args rest : List Bytes} {outer inner : Reading} {v w : Values} {n : CommandName}

theorem parse_bare (hread : readLevel .top (Utf8.lossy []) {} args = .ok (outer, none))
    (hv : outer.Holds v) : parse none args = .ok { options := v.options } := by
  have hfallback : fallback none v.options.config = .ok none := by
    cases v.options.config <;> rfl
  unfold parse
  simp only [Option.getD_none, hread, hv.settle, hfallback, bind, Except.bind, Option.or_none]

theorem parse_command (hread : readLevel .top (Utf8.lossy []) {} args = .ok (outer, some (n, rest)))
    (hrest : readLevel (.command n) (Utf8.lossy []) {} rest = .ok (inner, none))
    (hv : outer.Holds v) (hw : inner.Holds w) :
    parse none args = .ok { command := commandOf n w, options := (w.laidOver v).options } := by
  have hfallback : ∀ given : Option String, fallback none given = .ok none := by
    intro given
    cases given <;> rfl
  unfold parse
  simp only [Option.getD_none, hread, hrest, hv.settle, hw.settle, hfallback, bind, Except.bind,
    Option.or_none]
  rfl

end Parse

/-- **Every spelling of a command line is read as the command line,** if none of its values is
empty. -/
theorem parse_spelled {cl : CommandLine} {args : List Bytes} (h : cl.Spelled args)
    (hne : ∀ x ∈ cl.assignments, x.value ≠ []) : parse none args = .ok cl := by
  have hscope : ∀ x ∈ cl.assignments, x.name ∈ cl.scope.options := fun x hx =>
    cl.assignments_sublist.subset (List.mem_map_of_mem hx)
  cases h with
  | @bare given args hcommand hperm hgiven =>
    have htop : cl.scope = .top := by rw [scope, hcommand]
    rw [htop] at hscope
    obtain ⟨r, hr, hread⟩ := readLevel_fresh hgiven (fun x hx => hscope x (hperm.subset hx))
      (fun x hx => hne x (hperm.subset hx)) (nodup_of_perm hperm) (Utf8.lossy []) []
    rw [List.append_nil] at hread
    rw [parse_bare hread hr, foldl_put_of_perm_assignments hperm, options_values, ← hcommand]
  | @command c front behind xs ys hcommand hperm hfront hxs hys =>
    have hlevel : cl.scope = .command c.name := by rw [scope, hcommand]
    rw [hlevel] at hscope
    have hnames := nodup_of_perm hperm
    rw [List.map_append, List.nodup_append] at hnames
    have hmem : ∀ x, x ∈ front ∨ x ∈ behind → x ∈ cl.assignments := fun x hx =>
      hperm.subset (List.mem_append.mpr hx)
    have htop : ∀ x ∈ front, x.name ∈ Scope.top.options := hfront
    obtain ⟨outer, houter, hreadOuter⟩ := readLevel_fresh hxs htop
      (fun x hx => hne x (hmem x (.inl hx))) hnames.1 (Utf8.lossy []) (bytesOf c.name.text :: ys)
    obtain ⟨inner, hinner, hreadInner⟩ := readLevel_fresh hys
      (fun x hx => hscope x (hmem x (.inr hx))) (fun x hx => hne x (hmem x (.inr hx)))
      hnames.2.1 (Utf8.lossy []) []
    rw [readLevel_command houter] at hreadOuter
    rw [List.append_nil] at hreadInner
    rw [parse_command hreadOuter hreadInner houter hinner, commandOf_of_perm hcommand hperm hfront,
      laidOver_of_perm hperm, options_values, ← hcommand]

end CommandLine

/-- Values that look like commands, options and assignments, or that are no text. -/
def disguisedLine : CommandLine :=
  { command := some (.run (some ⟨[0xFF, 0x3D]⟩) (some 4294967295))
    options :=
      { config := some "run"
        baseDir := some ⟨[0x2D, 0xFF]⟩
        library := some (.ofString "help")
        logLevel := some "a=b"
        logFormat := some .json } }

def disguisedArgs : List Bytes :=
  [bytesOf "--config", bytesOf "run", bytesOf "-L", bytesOf "help", bytesOf "run", bytesOf "-r",
    bytesOf "4294967295", bytesOf "--base-dir=" ++ [0x2D, 0xFF], bytesOf "-e", [0xFF, 0x3D],
    bytesOf "--log-level=a=b", bytesOf "--log-format", bytesOf "json"]

theorem disguisedLine_spelled : disguisedLine.Spelled disguisedArgs := by
  have hconfig : Assignment.Spelled (.config "run") [bytesOf "--config", bytesOf "run"] :=
    .apart (by decide)
  have hlibrary : Assignment.Spelled (.library (.ofString "help")) [bytesOf "-L", bytesOf "help"] :=
    .short (c := 'L') rfl (by decide)
  have hdigits : (Assignment.cycles 4294967295).value = bytesOf "4294967295" := by cbv
  have hcycles : Assignment.Spelled (.cycles 4294967295) [bytesOf "-r", bytesOf "4294967295"] := by
    rw [← hdigits]
    exact .short (c := 'r') rfl (by rw [hdigits]; decide)
  have hbaseDir : Assignment.Spelled (.baseDir ⟨[0x2D, 0xFF]⟩)
      [bytesOf "--base-dir=" ++ [0x2D, 0xFF]] := .joined
  have hentry : Assignment.Spelled (.entry ⟨[0xFF, 0x3D]⟩) [bytesOf "-e", [0xFF, 0x3D]] :=
    .short (c := 'e') rfl (by decide)
  have hlogLevel : Assignment.Spelled (.logLevel "a=b") [bytesOf "--log-level=a=b"] := .joined
  have hlogFormat : Assignment.Spelled (.logFormat .json)
      [bytesOf "--log-format", bytesOf "json"] := .apart (by decide)
  have hfront := Assignment.SpelledAll.cons hconfig (.cons hlibrary .nil)
  have hbehind := Assignment.SpelledAll.cons hcycles
    (.cons hbaseDir (.cons hentry (.cons hlogLevel (.cons hlogFormat .nil))))
  have hcommand : disguisedLine.command = some (.run (some ⟨[0xFF, 0x3D]⟩) (some 4294967295)) := rfl
  exact .command hcommand (by decide) (by decide) hfront hbehind

theorem disguisedLine_parsed :
    disguisedLine.Spelled disguisedArgs
      ∧ (∀ x ∈ disguisedLine.assignments, x.value ≠ [])
      ∧ CommandLine.parse none disguisedArgs = .ok disguisedLine := by
  have hne : ∀ x ∈ disguisedLine.assignments, x.value ≠ [] := by decide
  exact ⟨disguisedLine_spelled, hne, CommandLine.parse_spelled disguisedLine_spelled hne⟩

end ScriptHost
