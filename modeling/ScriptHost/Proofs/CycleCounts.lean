import Mathlib
import ScriptHost.Proofs.CountTexts

/-!
# The number of cycles, by any route

A number of cycles can be given in the file, in a variable or on the command line. The
readers of the three differ in what they take for a number (`CountTexts`), and so the
numbers that are refused are refused at different places: by the grammar of the file, when
a value is extracted for its field, when the command line is parsed, or by the rules for a
configuration. Yet it comes to the same: a number from 1 to 4294967295 is the number of
cycles, and with any other there is no configuration (`loaded_of_gives`).

For the layers the argument is that nothing else is set, so that what is found for the
other fields is what is built in (`counted`), and the value for the number of cycles
decides alone.
-/

namespace ScriptHost

open Settings

/-! ## Settings without other fields -/

namespace Settings

variable {env pre post : List (Bytes × Bytes)} {d d' d'' : Dict} {v : Value} {n : Nat}

theorem Alike.refl (d : Dict) : Alike d d := ⟨fun _ => rfl, fun _ => id⟩

theorem Alike.trans (h : Alike d d') (h' : Alike d' d'') : Alike d d'' :=
  ⟨fun f => (h'.at_eq f).trans (h.at_eq f), fun f hf => h'.fits f (h.fits f hf)⟩

/-- Variables that set no field, and that can be read. -/
def Quiet (env : List (Bytes × Bytes)) : Prop :=
  ∀ var ∈ env, ∀ keys, keysOf? var = some keys → Foreign keys ∧ ∃ v, valueOf var = .ok v

theorem quiet_of_unset (h : Unset env) : Quiet env := by
  intro var hvar keys hkeys
  rw [keysOf?, h var hvar] at hkeys
  cases hkeys

theorem Quiet.readable (h : Quiet env) : ∀ var ∈ env, Readable var :=
  fun var hvar keys hkeys => (h var hvar keys hkeys).2

/-- A variable that sets no field leaves the fields as they are. -/
theorem alike_withVariable {var : Bytes × Bytes} (h : Quiet [var]) (d : Dict) :
    Alike d (withVariable d var) := by
  cases hkeys : keysOf? var with
  | none =>
    rw [withVariable_of_none hkeys]
    exact .refl d
  | some keys =>
    obtain ⟨hforeign, v, hv⟩ := h var List.mem_cons_self keys hkeys
    cases keys with
    | nil => exact absurd hkeys (keysOf?_ne_nil var)
    | cons k ks =>
      rw [withVariable, hkeys, hv]
      exact alike_of_foreign (tidy_ofText hv) hforeign d

/-- Any number of such variables leave the fields as they are. -/
theorem alike_foldl (h : Quiet env) (d : Dict) : Alike d (env.foldl withVariable d) := by
  induction env generalizing d with
  | nil => exact .refl d
  | cons var env ih =>
    obtain ⟨hvar, henv⟩ := List.forall_mem_cons.mp h
    exact (alike_withVariable (fun y hy => List.mem_singleton.mp hy ▸ hvar) d).trans
      (ih henv (withVariable d var))

/-- Settings that have no field. -/
structure Silent (d : Dict) : Prop where
  sectioned : Sectioned d
  at_eq : ∀ f, Dict.at? d f = none

theorem silent_nil : Silent [] :=
  ⟨fun _ _ h => (Option.some_ne_none _ h.symm).elim, fun _ => rfl⟩

theorem silent_foldl (h : Quiet env) : Silent (env.foldl withVariable []) := by
  have halike := alike_foldl h []
  exact ⟨fun f => halike.fits f (silent_nil.sectioned f), halike.at_eq⟩

/-- A section with a single key has a single field. -/
theorem at?_section (source : Source) (f : Field) (v : Value) (g : Field) :
    Dict.at? [(f.sectionName, .dict source [(f.key, v)])] g = if g = f then some v else none := by
  cases f <;> cases g <;> rfl

theorem sectioned_section (source : Source) (f : Field) (entries : Dict) :
    Sectioned [(f.sectionName, .dict source entries)] := by
  intro g w hw
  rw [lookup_cons_eq_ite] at hw
  split at hw
  · cases hw
    exact ⟨_, _, rfl⟩
  · cases hw

/-- **Among variables that set no field,** one for a field sets just that. -/
theorem field_foldl {f : Field} {var : Bytes × Bytes}
    (hkeys : keysOf? var = some [f.sectionName, f.key])
    (hvalue : valueOf var = .ok v) (hpre : Quiet pre) (hpost : Quiet post) :
    Sectioned ((pre ++ var :: post).foldl withVariable [])
      ∧ ∀ g, Dict.at? ((pre ++ var :: post).foldl withVariable []) g
        = if g = f then some v else none := by
  have hsection := sectioned_section .environment f [(f.key, v)]
  have htidy : Dict.Tidy [(f.sectionName, .dict .environment [(f.key, v)])] :=
    tidy_put tidy_nil (tidy_nest (tidy_ofText hvalue) [f.key]) f.sectionName
  have hvar : withVariable (pre.foldl withVariable []) var
      = mergeDict (pre.foldl withVariable [])
        [(f.sectionName, .dict .environment [(f.key, v)])] := by
    rw [withVariable, hkeys, hvalue]
    rfl
  have hsilent := silent_foldl hpre
  rw [List.foldl_append, List.foldl_cons, hvar]
  have halike := alike_foldl hpost (mergeDict (pre.foldl withVariable [])
    [(f.sectionName, .dict .environment [(f.key, v)])])
  refine ⟨fun g => halike.fits g (sectioned_mergeDict htidy hsilent.sectioned hsection g),
    fun g => ?_⟩
  rw [halike.at_eq, at?_mergeDict htidy hsection, hsilent.at_eq, none_laidOver, at?_section]

/-- Settings that have a single field, the number of cycles. -/
structure OnlyCycles (v : Value) (d : Dict) : Prop where
  sectioned : Sectioned d
  cycles : Dict.at? d .cycles = some v
  others : ∀ f, f ≠ .cycles → Dict.at? d f = none

theorem onlyCycles_section (source : Source) (v : Value) :
    OnlyCycles v [("runtime", .dict source [("repeat", v)])] where
  sectioned := sectioned_section source .cycles [("repeat", v)]
  cycles := at?_section source .cycles v .cycles
  others f hf := (at?_section source .cycles v f).trans (if_neg hf)

/-- The variable for the number of cycles. -/
def cyclesVariable (n : Nat) : Bytes × Bytes :=
  (bytesOf "NSHOST_RUNTIME__REPEAT", bytesOf (toString n))

theorem keysOf?_cyclesVariable (n : Nat) :
    keysOf? (cyclesVariable n) = some ["runtime", "repeat"] :=
  show keyPath? (Utf8.lossyFrom [] (bytesOf "NSHOST_RUNTIME__REPEAT")) = _ by decide +kernel

theorem onlyCycles_foldl (hpre : Quiet pre) (hpost : Quiet post) (n : Nat) :
    OnlyCycles (.scalar .environment (numeral n))
      ((pre ++ cyclesVariable n :: post).foldl withVariable []) := by
  obtain ⟨hsectioned, hat⟩ :=
    field_foldl (f := .cycles) (keysOf?_cyclesVariable n) (valueOf_toString _ n) hpre hpost
  exact ⟨hsectioned, (hat .cycles).trans (if_pos rfl), fun f hf => (hat f).trans (if_neg hf)⟩

/-! ## A number for the number of cycles -/

/-- What is found for each field when only the number of cycles is set. -/
def counted (v : Value) (f : Field) : Option Value :=
  if f = .cycles then some v else Dict.at? builtinLayer f

/-- A scalar takes the place of whatever it is laid over. -/
theorem laidOver_scalar (w : Option Value) (source : Source) (x : Scalar) :
    laidOver w (some (.scalar source x)) = some (.scalar source x) := by
  cases w with
  | none => rfl
  | some w => rw [laidOver, merge]

section Layers

variable {file overlay : Dict} {source : Source} {x : Scalar}

theorem layersAt_file (hfile : OnlyCycles (.scalar source x) file) (hoverlay : Silent overlay) :
    layersAt file overlay = counted (.scalar source x) := by
  funext f
  rw [layersAt, hoverlay.at_eq, laidOver_none, counted]
  split
  next hf => rw [hf, hfile.cycles, laidOver_scalar]
  next hf => rw [hfile.others f hf, laidOver_none]

theorem layersAt_overlay (hfile : Silent file) (hoverlay : OnlyCycles (.scalar source x) overlay) :
    layersAt file overlay = counted (.scalar source x) := by
  funext f
  rw [layersAt, hfile.at_eq, laidOver_none, counted]
  split
  next hf => rw [hf, hoverlay.cycles, laidOver_scalar]
  next hf => rw [hoverlay.others f hf, laidOver_none]

theorem layersAt_silent (hfile : Silent file) (hoverlay : Silent overlay) :
    layersAt file overlay = Dict.at? builtinLayer := by
  funext f
  rw [layersAt, hfile.at_eq, hoverlay.at_eq, laidOver_none, laidOver_none]

end Layers

/-- **The value for the number of cycles decides alone** whether there is a configuration, and it is
that with this number: the fields in front of it have what is built in. -/
theorem toOption_extractFields_counted (v : Value) :
    (extractFields (counted v)).toOption
      = v.count?.map fun n => { runtime := { cycles := n } } := by
  have hbuiltin : [Field.format, .level, .baseDir, .entryScript, .library].foldlM
      (visitField (Dict.at? builtinLayer)) {} = .ok {} := by decide +kernel
  have hothers : [Field.format, .level, .baseDir, .entryScript, .library].foldlM
      (visitField (counted v)) {} = .ok {} := by
    rw [← hbuiltin]
    simp only [List.foldlM_cons, List.foldlM_nil, visitField, counted, reduceCtorEq, if_false]
  have hfields : extractFields (counted v) = setField {} .cycles v := by
    rw [extractFields, show Field.all = [.format, .level, .baseDir, .entryScript, .library]
      ++ [.cycles] from rfl, List.foldlM_append, hothers]
    exact bind_pure (setField {} .cycles v)
  rw [hfields, toOption_setField, read, Option.map_map]
  rfl

/-- A number is a count if it fits 32 bits. -/
theorem count?_of_integer? (source : Source) {x : Scalar} {n : Nat}
    (h : x.integer? = some (n : Int)) :
    (Value.scalar source x).count? = if n < UInt32.size then some (.ofNat n) else none := by
  rw [Value.count?, h, Option.bind_some]
  by_cases hn : n < UInt32.size
  · rw [if_pos hn, if_pos ⟨Int.natCast_nonneg n, Int.ofNat_lt.mpr hn⟩, Int.toNat_natCast]
  · rw [if_neg hn, if_neg fun h => hn (Int.ofNat_lt.mp h.2)]

/-- What is taken for text would not fit them anyway. -/
theorem count?_numeral (source : Source) (n : Nat) :
    (Value.scalar source (numeral n)).count?
      = if n < UInt32.size then some (.ofNat n) else none := by
  by_cases hn : n < UInt64.size
  · refine count?_of_integer? source ?_
    rw [numeral, if_pos hn]
    rfl
  · have hlarge : ¬ n < UInt32.size := fun h => hn (Nat.lt_trans h (by decide))
    rw [numeral, if_neg hn, if_neg hlarge]
    rfl

/-! ## The verdict on a number -/

/-- A number from 1 to 4294967295 is the number of cycles of a configuration that is built in for
the rest. With any other there is no configuration. -/
def Judged (n : Nat) (r : Except Stop HostConfig) : Prop :=
  if 1 ≤ n ∧ n ≤ 4294967295 then r = .ok { runtime := { cycles := .ofNat n } }
  else ∃ reason, r = .error (.failure (.config reason))

/-- Nothing but the number of cycles can be wrong where the rest is built in. -/
theorem validate_cycles (cycles : UInt32) :
    ({ runtime := { cycles } } : HostConfig).validate
      = if cycles = 0 then .error (.failure (HostConfig.faultReport [.noCycle])) else .ok () := by
  have hentry : ({} : RuntimeSection).entryScript.entryFault? = none := by decide +kernel
  have hlevel : ({} : LoggingSection).level ≠ "" := by decide
  have hfaults : ({ runtime := { cycles } } : HostConfig).faults
      = if cycles = 0 then [.noCycle] else [] := by
    rw [HostConfig.faults, if_neg hlevel, hentry]
    rfl
  rw [HostConfig.validate, hentry, hfaults, if_neg (by simp)]
  by_cases h : cycles = 0
  · simp only [if_pos h]
  · simp only [if_neg h]

theorem judged_validate {n : Nat} (hn : n < UInt32.size) :
    Judged n (({ runtime := { cycles := .ofNat n } } : HostConfig).validate.map
      fun _ => { runtime := { cycles := .ofNat n } }) := by
  have hzero : UInt32.ofNat n = 0 ↔ n = 0 := by
    rw [← UInt32.toNat_inj, UInt32.toNat_ofNat_of_lt' hn]
    rfl
  rw [validate_cycles]
  unfold Judged
  unfold UInt32.size at hn
  by_cases h : n = 0
  · rw [if_pos (hzero.mpr h), if_neg (by omega)]
    exact ⟨_, rfl⟩
  · rw [if_neg fun h' => h (hzero.mp h'), if_pos (by omega)]
    rfl

end Settings

section Configured

variable {s : System} {cl : CommandLine} {file overlay : Dict} {n : Nat}

/-- What the layers say is said of the number that is found in them. -/
theorem judged_loadConfig (h : Layers s cl file overlay) {v : Value}
    (hat : layersAt file overlay = counted v)
    (hv : v.count? = if n < UInt32.size then some (.ofNat n) else none) :
    Judged n (loadConfig s (some (s.configPath cl))) := by
  have hfields := toOption_extractFields_counted v
  rw [hv] at hfields
  rw [h.loadConfig_eq, hat]
  by_cases hn : n < UInt32.size
  · rw [if_pos hn, Option.map_some, toOption_eq_some_iff] at hfields
    rw [hfields]
    exact judged_validate hn
  · rw [if_neg hn, Option.map_none] at hfields
    cases hextract : extractFields (counted v) with
    | ok c => rw [hextract] at hfields; cases hfields
    | error p =>
      rw [Judged, if_neg (by unfold UInt32.size at hn; omega)]
      exact ⟨_, rfl⟩

theorem CommandLine.override_of_no_flag (h : ∀ f, cl.flag? f = none) (c : HostConfig) :
    cl.override c = c :=
  Field.ext fun f => by rw [cl.get_override, h f, Option.getD_none]

/-- A command line without flags adds nothing to what the layers say. -/
theorem judged_configured (hflags : ∀ f, cl.flag? f = none)
    (h : Judged n (loadConfig s (some (s.configPath cl)))) : Judged n (s.configured cl) := by
  rw [System.configured]
  by_cases hn : 1 ≤ n ∧ n ≤ 4294967295
  · rw [Judged, if_pos hn] at h
    rw [h]
    simp only [cl.override_of_no_flag hflags]
    exact judged_validate (by unfold UInt32.size; omega)
  · rw [Judged, if_neg hn] at h
    obtain ⟨reason, hreason⟩ := h
    rw [hreason, Judged, if_neg hn]
    exact ⟨reason, rfl⟩

end Configured

/-! ## The routes -/

/-- Why arguments lead to no configuration. -/
inductive Rejection where
  | refused (r : Refusal)
  | stopped (stop : Stop)

/-- The configuration that the program begins with: arguments are parsed, and what they say is laid
over what is found around. -/
def System.loaded (s : System) (args : List Bytes) : Except Rejection HostConfig :=
  match CommandLine.parse (s.var? configVariable) args with
  | .error r => .error (.refused r)
  | .ok cl =>
    match configure cl (.start s [] []) with
    | .error stop _ => .error (.stopped stop)
    | .ok c _ => .ok c

theorem System.loaded_eq {s : System} {args : List Bytes} {cl : CommandLine}
    (h : CommandLine.parse (s.var? configVariable) args = .ok cl) :
    s.loaded args = (s.configured cl).mapError .stopped := by
  have hended := congrArg Prod.fst (ended_configure cl (.start s [] []))
  rw [loaded, h]
  dsimp only at hended ⊢
  rw [show (World.start s [] []).system = s from rfl] at hended
  rw [← hended]
  cases configure cl (.start s [] []) <;> rfl

inductive Route where
  | file
  | environment
  | flag
  deriving DecidableEq, Repr

/-- The number `n`, in decimal digits, is all that is set: in the file, by a variable, or by the
arguments. What else is found around sets no field, though it may say which file is read. -/
inductive Gives (n : Nat) (s : System) (args : List Bytes) : Route → Prop where
  | file {cl : CommandLine} {rest : String} :
      CommandLine.parse (s.var? configVariable) args = .ok cl → (∀ f, cl.flag? f = none) →
      Quiet s.env → rest = "" ∨ rest = "\n" →
      Found s (s.configPath cl) (bytesOf ("[runtime]\nrepeat = " ++ toString n ++ rest)) →
      Gives n s args .file
  | environment {cl : CommandLine} {pre post : List (Bytes × Bytes)} {file : Dict} :
      CommandLine.parse (s.var? configVariable) args = .ok cl → (∀ f, cl.flag? f = none) →
      s.env = pre ++ (bytesOf "NSHOST_RUNTIME__REPEAT", bytesOf (toString n)) :: post →
      Quiet pre → Quiet post → fileLayer s (s.configPath cl) = .ok file → Silent file →
      Gives n s args .environment
  | flag {config other : Option String} {front : List Bytes} {file : Dict} :
      args = front ++ [bytesOf "run", bytesOf "--repeat", bytesOf (toString n)] →
      Assignment.SpelledAll (config.map Assignment.config).toList front → config ≠ some "" →
      CommandLine.fallback (s.var? configVariable) none = .ok other → Quiet s.env →
      fileLayer s (s.configPath { options := { config := config.or other } }) = .ok file →
      Silent file → Gives n s args .flag

section Routes

variable {n : Nat} {s : System} {args : List Bytes} {cl : CommandLine}

/-- What is read of a file that has only the number. -/
theorem readLayer_number (shown : Path) {rest : String} (hrest : rest = "" ∨ rest = "\n")
    (n : Nat) :
    readLayer shown (bytesOf ("[runtime]\nrepeat = " ++ toString n ++ rest))
      = if (n : Int) < Text.signedBound then
          .ok [("runtime", .dict (.file shown) [("repeat", .scalar (.file shown) (.signed n))])]
        else .error (.config (fileReport syntaxFault shown)) := by
  have hchars : ("[runtime]\nrepeat = " ++ toString n ++ rest).toList
      = Toml.numberChars "runtime" "repeat" n rest.toList := by
    have hfront : "[runtime]\nrepeat = ".toList
        = Toml.headerLine "runtime" ++ ("repeat".toList ++ [' ', '=', ' ']) := by decide
    rw [String.toList_append, String.toList_append, hfront, toList_toString]
    simp [Toml.numberChars]
  have hend : rest.toList = [] ∨ rest.toList = ['\n'] := by rcases hrest with rfl | rfl <;> decide
  have hname : Toml.Bare "runtime" := by decide +kernel
  have hkey : Toml.Bare "repeat" := by decide +kernel
  have hread := Toml.read?_number hname hkey n hend
  rw [readLayer, bytesOf, Utf8.decode_encode, hchars]
  dsimp only
  rw [hread]
  by_cases hn : (n : Int) < Text.signedBound
  · rw [if_pos hn, if_pos hn]
    rfl
  · rw [if_neg hn, if_neg hn]

theorem judged_file {rest : String} (henv : Quiet s.env) (hrest : rest = "" ∨ rest = "\n")
    (hfound : Found s (s.configPath cl) (bytesOf ("[runtime]\nrepeat = " ++ toString n ++ rest))) :
    Judged n (loadConfig s (some (s.configPath cl))) := by
  obtain ⟨shown, hlayer⟩ := fileLayer_of_found hfound
  rw [readLayer_number shown hrest] at hlayer
  have hvars := ofVariables_of_readable henv.readable
  have hsilent := silent_foldl henv
  by_cases hn : (n : Int) < Text.signedBound
  · rw [if_pos hn] at hlayer
    have honly := onlyCycles_section (.file shown) (.scalar (.file shown) (.signed n))
    exact judged_loadConfig ⟨hlayer, hvars, honly.sectioned, hsilent.sectioned⟩
      (layersAt_file honly hsilent) (count?_of_integer? _ rfl)
  · rw [if_neg hn] at hlayer
    rw [Judged, if_neg (by unfold Text.signedBound at hn; omega), loadConfig, layered, hvars]
    simp only [hlayer]
    exact ⟨_, rfl⟩

theorem judged_variable {pre post : List (Bytes × Bytes)} {file : Dict}
    (henv : s.env = pre ++ cyclesVariable n :: post) (hpre : Quiet pre) (hpost : Quiet post)
    (hfile : fileLayer s (s.configPath cl) = .ok file) (hsilent : Silent file) :
    Judged n (loadConfig s (some (s.configPath cl))) := by
  have hoverlay := onlyCycles_foldl hpre hpost n
  have hread : ∀ var ∈ s.env, Readable var := by
    intro var hvar
    rw [henv, List.mem_append, List.mem_cons] at hvar
    rcases hvar with hvar | rfl | hvar
    · exact hpre.readable var hvar
    · exact fun _ _ => ⟨_, valueOf_toString _ n⟩
    · exact hpost.readable var hvar
  have hvars := ofVariables_of_readable hread
  rw [henv] at hvars
  exact judged_loadConfig ⟨hfile, henv ▸ hvars, hsilent.sectioned, hoverlay.sectioned⟩
    (layersAt_overlay hsilent hoverlay) (count?_numeral .environment n)

/-- What is built in is a configuration, and a number on top of it is judged by the rules. -/
theorem judged_flag (hn : n < UInt32.size) {config : Option String} {file : Dict}
    (henv : Quiet s.env)
    (hfile : fileLayer s (s.configPath { options := { config } }) = .ok file)
    (hsilent : Silent file) :
    Judged n (s.configured
      { command := some (.run none (some (.ofNat n))), options := { config } }) := by
  have hoverlay := silent_foldl henv
  have hbuiltin : extractFields (Dict.at? builtinLayer) = .ok {} := by decide +kernel
  have hlayers : Layers s { options := { config } } file (s.env.foldl withVariable []) :=
    ⟨hfile, ofVariables_of_readable henv.readable, hsilent.sectioned, hoverlay.sectioned⟩
  have hload := hlayers.loadConfig_eq
  rw [layersAt_silent hsilent hoverlay, hbuiltin] at hload
  dsimp only at hload
  rw [show ({} : HostConfig) = { runtime := { cycles := 1 } } from rfl, validate_cycles] at hload
  have hpath : s.configPath { command := some (.run none (some (.ofNat n))), options := { config } }
      = s.configPath { options := { config } } := rfl
  rw [System.configured, hpath, hload]
  exact judged_validate hn

/-- **A number of cycles is taken for what it is, or not at all**, by whatever route it comes: from
1 to 4294967295 it is the number of cycles, and nothing else is changed; any other leads to no
configuration. What is wrong with it is in the configuration, except that a number that is too large
for the command line is wrong there. -/
theorem loaded_of_gives {route : Route} (h : Gives n s args route) :
    ((∃ c, s.loaded args = .ok c ∧ c.runtime.cycles.toNat = n) ↔ 1 ≤ n ∧ n ≤ 4294967295)
      ∧ (1 ≤ n ∧ n ≤ 4294967295 → s.loaded args = .ok { runtime := { cycles := .ofNat n } })
      ∧ (¬ (1 ≤ n ∧ n ≤ 4294967295) →
        if route = .flag ∧ 4294967295 < n then
          s.loaded args = .error (.refused (CommandLine.refusalOf n))
        else ∃ reason, s.loaded args = .error (.stopped (.failure (.config reason)))) := by
  -- the command line is the configuration's affair, or it is refused
  have hcases : (∃ cl, CommandLine.parse (s.var? configVariable) args = .ok cl
        ∧ Judged n (s.configured cl) ∧ ¬ (route = .flag ∧ 4294967295 < n))
      ∨ (CommandLine.parse (s.var? configVariable) args = .error (CommandLine.refusalOf n)
        ∧ route = .flag ∧ 4294967295 < n) := by
    cases h with
    | @file cl rest hparse hflags henv hrest hfound =>
      exact .inl ⟨cl, hparse, judged_configured hflags (judged_file henv hrest hfound), by simp⟩
    | @environment cl pre post file hparse hflags henv hpre hpost hfile hsilent =>
      exact .inl ⟨cl, hparse,
        judged_configured hflags (judged_variable henv hpre hpost hfile hsilent), by simp⟩
    | @flag config other front file hargs hfront hne hvar henv hfile hsilent =>
      have hparse := CommandLine.parse_countArgs hvar hfront hne n
      rw [CommandLine.countArgs, ← hargs] at hparse
      by_cases hn : n < UInt32.size
      · rw [if_pos hn] at hparse
        exact .inl ⟨_, hparse, judged_flag hn henv hfile hsilent, by
          unfold UInt32.size at hn; omega⟩
      · rw [if_neg hn] at hparse
        exact .inr ⟨hparse, rfl, by unfold UInt32.size at hn; omega⟩
  have hok : 1 ≤ n ∧ n ≤ 4294967295 →
      s.loaded args = .ok { runtime := { cycles := .ofNat n } } := by
    intro hn
    obtain ⟨cl, hparse, hjudged, _⟩ | ⟨_, _, hlarge⟩ := hcases
    · rw [Judged, if_pos hn] at hjudged
      rw [System.loaded_eq hparse, hjudged]
      rfl
    · omega
  have herror : ¬ (1 ≤ n ∧ n ≤ 4294967295) → if route = .flag ∧ 4294967295 < n then
        s.loaded args = .error (.refused (CommandLine.refusalOf n))
      else ∃ reason, s.loaded args = .error (.stopped (.failure (.config reason))) := by
    intro hn
    obtain ⟨cl, hparse, hjudged, hlayers⟩ | ⟨hparse, hlarge⟩ := hcases
    · rw [Judged, if_neg hn] at hjudged
      obtain ⟨reason, hreason⟩ := hjudged
      rw [if_neg hlayers, System.loaded_eq hparse, hreason]
      exact ⟨reason, rfl⟩
    · rw [if_pos hlarge, System.loaded, hparse]
  refine ⟨⟨fun ⟨c, hc, _⟩ => ?_, fun hn => ⟨_, hok hn, ?_⟩⟩, hok, herror⟩
  · by_contra hn
    have hfails := herror hn
    rw [hc] at hfails
    split at hfails
    · cases hfails
    · obtain ⟨_, heq⟩ := hfails
      cases heq
  · exact UInt32.toNat_ofNat_of_lt' (by unfold UInt32.size; omega)

end Routes

/-! ### A number by each of them -/

/-- Arguments that name a file above the working directory. -/
def fileArgs : List Bytes := [bytesOf "--config", bytesOf "host.toml"]

/-- A system where that file has the number. -/
def fileSystem (n : Nat) : System :=
  systemAround (bytesOf ("[runtime]\nrepeat = " ++ toString n ++ "\n"))

theorem gives_file (n : Nat) : Gives n (fileSystem n) fileArgs .file := by
  have hparse : CommandLine.parse none fileArgs
      = .ok { options := { config := some "host.toml" } } := by decide +kernel
  exact .file hparse (fun f => by cases f <;> rfl) (quiet_of_unset (unset_systemAround _))
    (.inr rfl) (found_systemAround _)

/-- Where no file is found, there is none. -/
theorem fileLayer_none (env : List (Bytes × Bytes)) :
    fileLayer { systemAround [] with env } (.ofString "none.toml") = .ok [] := by
  have hfind : findFile? (systemAround []) (.ofString "none.toml") = none := by cbv
  have hsame : findFile? { systemAround [] with env } (.ofString "none.toml")
      = findFile? (systemAround []) (.ofString "none.toml") := rfl
  rw [fileLayer, hsame, hfind]

/-- A variable gives the number. Of those around it one names a file that is not there. -/
def variableSystem (n : Nat) : System :=
  { systemAround [] with
    env := [(bytesOf "HOME", bytesOf "/root"),
      (bytesOf "NSHOST_RUNTIME__REPEAT", bytesOf (toString n)),
      (bytesOf "NSHOST_CONFIG", bytesOf "none.toml")] }

theorem gives_environment (n : Nat) : Gives n (variableSystem n) [] .environment := by
  have hparse : CommandLine.parse (some (bytesOf "none.toml")) []
      = .ok { options := { config := some "none.toml" } } := by decide +kernel
  have hhome : Quiet [(bytesOf "HOME", bytesOf "/root")] := by
    refine quiet_of_unset fun var hvar => ?_
    rw [List.mem_singleton.mp hvar]
    decide +kernel
  have hconfig : Quiet [(bytesOf "NSHOST_CONFIG", bytesOf "none.toml")] := by
    intro var hvar keys hkeys
    have hpath : keysOf? (bytesOf "NSHOST_CONFIG", bytesOf "none.toml") = some ["config"] := by
      decide +kernel
    rw [List.mem_singleton.mp hvar] at hkeys ⊢
    rw [hpath] at hkeys
    cases hkeys
    exact ⟨fun f => by cases f <;> decide +kernel,
      ⟨_, eq_ok_of_isOk (by decide +kernel) (.scalar .environment (.boolean true))⟩⟩
  have hsplit : (variableSystem n).env = [(bytesOf "HOME", bytesOf "/root")]
      ++ (bytesOf "NSHOST_RUNTIME__REPEAT", bytesOf (toString n))
        :: [(bytesOf "NSHOST_CONFIG", bytesOf "none.toml")] := rfl
  exact .environment hparse (fun f => by cases f <;> rfl) hsplit hhome hconfig
    (fileLayer_none _) silent_nil

/-- The arguments give the number, behind the name of such a file. -/
def flagArgs (n : Nat) : List Bytes :=
  [bytesOf "--config", bytesOf "none.toml", bytesOf "run", bytesOf "--repeat", bytesOf (toString n)]

theorem gives_flag (n : Nat) : Gives n (systemAround []) (flagArgs n) .flag := by
  have hfront : Assignment.SpelledAll ((some "none.toml").map Assignment.config).toList
      [bytesOf "--config", bytesOf "none.toml"] := .cons (.apart (by decide)) .nil
  exact .flag rfl hfront (by decide) rfl
    (quiet_of_unset (unset_systemAround _)) (fileLayer_none (systemAround []).env) silent_nil

/-- The largest number of cycles is one by every route. A number of which a word of 64 bits would
keep a one is none by any. -/
theorem extreme_counts :
    ((fileSystem 4294967295).loaded fileArgs = .ok { runtime := { cycles := 4294967295 } }
      ∧ (variableSystem 4294967295).loaded [] = .ok { runtime := { cycles := 4294967295 } }
      ∧ (systemAround []).loaded (flagArgs 4294967295)
        = .ok { runtime := { cycles := 4294967295 } })
      ∧ (∃ reason, (fileSystem 18446744073709551617).loaded fileArgs
        = .error (.stopped (.failure (.config reason))))
      ∧ (∃ reason, (variableSystem 18446744073709551617).loaded []
        = .error (.stopped (.failure (.config reason))))
      ∧ (systemAround []).loaded (flagArgs 18446744073709551617)
        = .error (.refused (.invalidCount "18446744073709551617" .tooLarge)) := by
  have hmost : (1 : Nat) ≤ 4294967295 ∧ 4294967295 ≤ 4294967295 := by decide
  have hwrap : ¬ ((1 : Nat) ≤ 18446744073709551617 ∧ 18446744073709551617 ≤ 4294967295) := by decide
  refine ⟨⟨(loaded_of_gives (gives_file _)).2.1 hmost,
    (loaded_of_gives (gives_environment _)).2.1 hmost,
    (loaded_of_gives (gives_flag _)).2.1 hmost⟩,
    (loaded_of_gives (gives_file _)).2.2 hwrap,
    (loaded_of_gives (gives_environment _)).2.2 hwrap, ?_⟩
  have hrefusal : CommandLine.refusalOf 18446744073709551617
      = .invalidCount "18446744073709551617" .tooLarge := by decide +kernel
  have hrefused := (loaded_of_gives (gives_flag 18446744073709551617)).2.2 hwrap
  rwa [if_pos (by decide), hrefusal] at hrefused

end ScriptHost
