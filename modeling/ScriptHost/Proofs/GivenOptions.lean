import ScriptHost.Proofs.Dictionaries
import ScriptHost.Proofs.Spelling

/-!
# An option that is mentioned is given

The reading of a command line is told here once more as a relation, argument by argument
(`Takes`) and level by level (`Reads`), for the readings that succeed. What it does not
mention is the text that help pages show, because no reading that succeeds shows one.

An argument that begins with the name of an option cannot be the value of another one, nor
the name of a command, so whoever mentions an option has given it (`Reads.gives`). For the
configuration file there is a variable that stands in for the option, and it is not looked
at where the option is given: the same arguments are the same command line under every
value of the variable that is text (`parse_of_mentioned`).
-/

namespace ScriptHost

/-- An argument that begins with the name of an option: the long one, alone or with a value behind
an equals sign, or the short one, whatever follows it. -/
inductive OptionName.Mentioned (o : OptionName) : Bytes → Prop where
  | long : o.Mentioned (bytesOf ("--" ++ o.long))
  | joined (value : Bytes) : o.Mentioned (bytesOf ("--" ++ o.long ++ "=") ++ value)
  | short {c : Char} (rest : Bytes) : o.short? = some c →
      o.Mentioned (bytesOf ("-" ++ String.singleton c) ++ rest)

namespace CommandLine

/-! ## One argument -/

/-- The value that stands in an argument behind the short name of an option. -/
def attached? : Bytes → Option Bytes
  | [] => none
  | b :: value => some (if b = equalsSign then value else b :: value)

/-- An argument is taken as part of the options of a level. -/
inductive Takes (scope : Scope) (r : Reading) (arg : Bytes) : Reading → Prop where
  | long {name : Bytes} {given : Option Bytes} {o : OptionName} {r' : Reading} :
      shapeOf arg = .long name given → o ∈ scope.options → Utf8.text? name = some o.long →
      r.takeUp o given = .ok r' → Takes scope r arg r'
  | short {first : UInt8} {rest : Bytes} {c : Char} {width : Nat} {o : OptionName} {r' : Reading} :
      shapeOf arg = .short first rest → o ∈ scope.options →
      Utf8.front first rest = .char c width → o.short? = some c →
      r.takeUp o (attached? (rest.drop (width - 1))) = .ok r' → Takes scope r arg r'
  | value {o : OptionName} : shapeOf arg = .plain → r.pending = some (o, none) →
      Takes scope r arg { r with pending := some (o, some arg) }

theorem bind_eq_ok_iff {ε α β : Type} {y : Except ε α} {f : α → Except ε β} {b : β} :
    (y >>= f) = .ok b ↔ ∃ a, y = .ok a ∧ f a = .ok b := by
  cases y <;> simp [bind, Except.bind]

section Argument

variable {scope : Scope} {shown : String} {r r' : Reading} {v v' : Values} {o : OptionName}
  {arg name : Bytes} {given : Option Bytes} {first : UInt8} {rest : Bytes}

/-- An argument with a long name is read if an option of the level has the name. -/
theorem readLong_eq_ok_iff : readLong scope shown r name given = .ok r' ↔
    ∃ o ∈ scope.options, Utf8.text? name = some o.long ∧ r.takeUp o given = .ok r' := by
  constructor
  · intro h
    unfold readLong at h
    dsimp only at h
    split at h
    next => cases h
    next s hs =>
      split at h
      next o hfind =>
        have hname : o.long = s := by simpa using List.find?_some hfind
        exact ⟨o, List.mem_of_find?_eq_some hfind, hname ▸ hs, h⟩
      next =>
        -- nothing else is an option, and a flag ends the reading
        split at h
        next => cases h
        next => cases hsettle : r.settle <;> rw [hsettle] at h <;> cases h
        next => cases h
  · rintro ⟨o, ho, hname, htake⟩
    rw [← Utf8.text?_eq_some_iff.mp hname, readLong_long ho, htake]

/-- An argument with a short name is read if an option of the level has the name. -/
theorem readShort_eq_ok_iff : readShort scope shown r first rest = .ok r' ↔
    ∃ o ∈ scope.options, ∃ c width, Utf8.front first rest = .char c width
      ∧ o.short? = some c ∧ r.takeUp o (attached? (rest.drop (width - 1))) = .ok r' := by
  constructor
  · intro h
    unfold readShort at h
    split at h
    next c width hfront =>
      split at h
      next o hfind =>
        have hname : o.short? = some c := by simpa using List.find?_some hfind
        exact ⟨o, List.mem_of_find?_eq_some hfind, c, width, hfront, hname, h⟩
      next =>
        split at h
        next => cases hsettle : r.settle <;> rw [hsettle] at h <;> cases h
        next => cases h
    next => cases h
  · rintro ⟨o, ho, c, width, hfront, hname, htake⟩
    unfold readShort
    rw [hfront]
    dsimp only
    rw [find?_short hname ho]
    exact htake

/-! Which arguments are taken is told by what they look like. -/

theorem takes_iff_readLong (shown : String) (hshape : shapeOf arg = .long name given) :
    Takes scope r arg r' ↔ readLong scope shown r name given = .ok r' := by
  rw [readLong_eq_ok_iff]
  constructor
  · intro h
    cases h with
    | long hshape' ho hname htake =>
      cases hshape.symm.trans hshape'
      exact ⟨_, ho, hname, htake⟩
    | short hshape' | value hshape' => cases hshape.symm.trans hshape'
  · rintro ⟨o, ho, hname, htake⟩
    exact .long hshape ho hname htake

theorem takes_iff_readShort (shown : String) (hshape : shapeOf arg = .short first rest) :
    Takes scope r arg r' ↔ readShort scope shown r first rest = .ok r' := by
  rw [readShort_eq_ok_iff]
  constructor
  · intro h
    cases h with
    | short hshape' ho hfront hname htake =>
      cases hshape.symm.trans hshape'
      exact ⟨_, ho, _, _, hfront, hname, htake⟩
    | long hshape' | value hshape' => cases hshape.symm.trans hshape'
  · rintro ⟨o, ho, c, width, hfront, hname, htake⟩
    exact .short hshape ho hfront hname htake

theorem takes_iff_pending (hshape : shapeOf arg = .plain) : Takes scope r arg r' ↔
    ∃ o, r.pending = some (o, none) ∧ r' = { r with pending := some (o, some arg) } := by
  constructor
  · intro h
    cases h with
    | value _ hpending => exact ⟨_, hpending, rfl⟩
    | long hshape' | short hshape' => cases hshape.symm.trans hshape'
  · rintro ⟨o, hpending, rfl⟩
    exact .value hshape hpending

theorem not_takes_separator (hshape : shapeOf arg = .separator) : ¬ Takes scope r arg r' := by
  intro h
  cases h with
  | long hshape' | short hshape' | value hshape' => cases hshape.symm.trans hshape'

end Argument

/-! ## One level -/

/-- The argument ends the level in front of a command's name, or asks for help like a command. -/
def NamesCommand (scope : Scope) (r : Reading) (arg : Bytes) : Prop :=
  scope = .top ∧ r.expectsValue = false
    ∧ (arg = bytesOf helpName ∨ (CommandName.ofBytes? arg).isSome)

/-- The arguments of a level are read, to its end or to the name of a command. -/
inductive Reads (scope : Scope) :
    Reading → List Bytes → Reading × Option (CommandName × List Bytes) → Prop where
  | nil {r : Reading} : Reads scope r [] (r, none)
  | separator {r : Reading} {arg : Bytes} : ¬ NamesCommand scope r arg →
      shapeOf arg = .separator → Reads scope r [arg] (r, none)
  | command {r : Reading} {arg : Bytes} {args : List Bytes} {name : CommandName} :
      scope = .top → r.expectsValue = false → arg ≠ bytesOf helpName →
      CommandName.ofBytes? arg = some name → Reads scope r (arg :: args) (r, some (name, args))
  | cons {r r' : Reading} {arg : Bytes} {args : List Bytes}
      {x : Reading × Option (CommandName × List Bytes)} : ¬ NamesCommand scope r arg →
      Takes scope r arg r' → Reads scope r' args x → Reads scope r (arg :: args) x

section Level

variable {scope : Scope} {shown : String} {r r' : Reading} {v : Values} {o : OptionName}
  {arg : Bytes} {args : List Bytes} {x : Reading × Option (CommandName × List Bytes)}

/-- What is read of an argument that names no command. -/
theorem readLevel_cons (hcommand : ¬ NamesCommand scope r arg) :
    readLevel scope shown r (arg :: args) = .ok x ↔
      (shapeOf arg = .separator ∧ args = [] ∧ x = (r, none))
        ∨ ∃ r', Takes scope r arg r' ∧ readLevel scope shown r' args = .ok x := by
  have hhelp : ¬ (scope = .top ∧ (!r.expectsValue) = true ∧ arg = bytesOf helpName) :=
    fun ⟨htop, hexpects, heq⟩ => hcommand ⟨htop, by simpa using hexpects, .inl heq⟩
  have hname : (if scope = .top ∧ (!r.expectsValue) = true then CommandName.ofBytes? arg else none)
      = none := by
    split
    next hplace =>
      rw [← Option.not_isSome_iff_eq_none]
      exact fun hsome => hcommand ⟨hplace.1, by simpa using hplace.2, .inr hsome⟩
    next => rfl
  rw [readLevel.eq_def]
  dsimp only
  rw [if_neg hhelp, hname]
  dsimp only
  cases hshape : shapeOf arg with
  | separator =>
    simp only [not_takes_separator hshape, false_and, exists_false, or_false, true_and]
    cases args with
    | nil => simp [eq_comm]
    | cons next args => simp
  | long name given =>
    simp only [takes_iff_readLong shown hshape, reduceCtorEq, false_and, false_or]
    exact bind_eq_ok_iff
  | short first rest =>
    simp only [takes_iff_readShort shown hshape, reduceCtorEq, false_and, false_or]
    exact bind_eq_ok_iff
  | plain =>
    simp only [takes_iff_pending hshape, reduceCtorEq, false_and, false_or]
    cases hpending : r.pending with
    | none => simp
    | some p =>
      obtain ⟨o, given⟩ := p
      cases given with
      | none => simp
      | some value => simp

/-- What is read of one that does. -/
theorem readLevel_cons_of_namesCommand (hcommand : NamesCommand scope r arg) :
    readLevel scope shown r (arg :: args) = .ok x ↔
      ∃ name, arg ≠ bytesOf helpName ∧ CommandName.ofBytes? arg = some name
        ∧ x = (r, some (name, args)) := by
  obtain ⟨rfl, hexpects, hname⟩ := hcommand
  rw [readLevel.eq_def]
  dsimp only
  by_cases hhelp : arg = bytesOf helpName
  · rw [if_pos (by simp [hexpects, hhelp])]
    simp [hhelp]
  · obtain ⟨name, hname⟩ := Option.isSome_iff_exists.mp (hname.resolve_left hhelp)
    rw [if_neg (by simp [hhelp]), if_pos (by simp [hexpects]), hname]
    simp [hhelp, eq_comm]

/-- **A level is read as the relation says,** whatever help pages would show. -/
theorem readLevel_eq_ok_iff : readLevel scope shown r args = .ok x ↔ Reads scope r args x := by
  induction args generalizing r with
  | nil =>
    rw [readLevel]
    constructor
    · intro h
      cases h
      exact .nil
    · rintro ⟨⟩
      rfl
  | cons arg args ih =>
    by_cases hcommand : NamesCommand scope r arg
    · rw [readLevel_cons_of_namesCommand hcommand]
      constructor
      · rintro ⟨name, hhelp, hname, rfl⟩
        exact .command hcommand.1 hcommand.2.1 hhelp hname
      · intro h
        cases h with
        | command _ _ hhelp hname => exact ⟨_, hhelp, hname, rfl⟩
        | separator hnot | cons hnot => exact absurd hcommand hnot
    · rw [readLevel_cons hcommand]
      constructor
      · rintro (⟨hshape, rfl, rfl⟩ | ⟨r', htakes, hrest⟩)
        · exact .separator hcommand hshape
        · exact .cons hcommand htakes (ih.mp hrest)
      · intro h
        cases h with
        | separator _ hshape => exact .inl ⟨hshape, rfl, rfl⟩
        | command htop hexpects _ hname =>
          exact absurd ⟨htop, hexpects, .inr (Option.isSome_of_eq_some hname)⟩ hcommand
        | cons _ htakes hrest => exact .inr ⟨_, htakes, ih.mpr hrest⟩

/-! ## What is given -/

/-- The option has a value, or waits for one. -/
def Gives (r : Reading) (o : OptionName) : Prop :=
  r.values.has o = true ∨ ∃ given, r.pending = some (o, given)

/-- A value that is accepted is there, and the others are too. -/
theorem has_of_assign {value : Bytes} {v' : Values} (h : assign v o value = .ok v') :
    v'.has o = true ∧ ∀ o', v.has o' = true → v'.has o' = true := by
  unfold assign at h
  split at h
  next => cases h
  next =>
    cases o <;>
    · obtain ⟨_, _, rfl⟩ := Settings.map_eq_ok_iff.mp h
      refine ⟨rfl, fun o' ho' => ?_⟩
      cases o' <;> first | exact ho' | rfl

theorem has_of_settle (h : r.settle = .ok v) (hgives : Gives r o) : v.has o = true := by
  unfold Reading.settle at h
  rcases hgives with hvalues | ⟨given, hpending⟩
  · split at h
    next => cases h; exact hvalues
    next => cases h
    next => exact (has_of_assign h).2 o hvalues
  · rw [hpending] at h
    cases given with
    | none => cases h
    | some value => exact (has_of_assign h).1

/-- An option that is taken up is given, and the others stay so. -/
theorem gives_of_takeUp {given : Option Bytes} (h : r.takeUp o given = .ok r') :
    Gives r' o ∧ ∀ o', Gives r o' → Gives r' o' := by
  obtain ⟨v, hsettle, hrest⟩ := bind_eq_ok_iff.mp h
  have hkept : ∀ o', Gives r o' → v.has o' = true := fun o' => has_of_settle hsettle
  cases given with
  | none =>
    cases hrest
    exact ⟨.inr ⟨none, rfl⟩, fun o' ho' => .inl (hkept o' ho')⟩
  | some value =>
    obtain ⟨v', hassign, rfl⟩ := Settings.map_eq_ok_iff.mp hrest
    obtain ⟨hnew, hold⟩ := has_of_assign hassign
    exact ⟨.inl hnew, fun o' ho' => .inl (hold o' (hkept o' ho'))⟩

/-- No two options have the same name. -/
theorem long_injective {o o' : OptionName} (h : o.long = o'.long) : o = o' := by
  cases o <;> cases o' <;> first | rfl | exact absurd h (by decide)

theorem short_injective {o o' : OptionName} {c : Char} (h : o.short? = some c)
    (h' : o'.short? = some c) : o = o' := by
  cases o <;> cases h <;> cases o' <;> first | rfl | exact absurd h' (by decide)

/-- A character of one byte is found whatever follows it. -/
theorem front_of_nil {b : UInt8} {c : Char} {width : Nat} (h : Utf8.front b [] = .char c width)
    (rest : Bytes) : Utf8.front b rest = .char c width := by
  unfold Utf8.front at h
  split at h
  case h_1 hw => rw [Utf8.front_of_width_one hw, h]
  all_goals first | cases h | (rename_i heq; cases heq)

/-- What an argument that mentions an option looks like. -/
theorem shapeOf_mentioned (h : o.Mentioned arg) :
    (∃ given, shapeOf arg = .long (bytesOf o.long) given)
      ∨ ∃ first rest c, shapeOf arg = .short first rest ∧ o.short? = some c
        ∧ Utf8.front first rest = .char c 1 := by
  obtain ⟨hlong, hequals⟩ := long_proper o
  cases h with
  | long =>
    rw [Utf8.bytesOf_append]
    exact .inl ⟨none, shapeOf_long hlong hequals⟩
  | joined value =>
    rw [Utf8.bytesOf_append, Utf8.bytesOf_append, List.append_assoc, List.append_assoc]
    exact .inl ⟨some value, shapeOf_joined hequals value⟩
  | @short c rest hc =>
    obtain ⟨b, harg, hb, hfront⟩ := front_short hc
    refine .inr ⟨b, rest, c, ?_, hc, front_of_nil hfront rest⟩
    rw [harg, List.cons_append, List.singleton_append]
    simp only [shapeOf, if_true, if_neg hb]

theorem head?_mentioned (h : o.Mentioned arg) : arg.head? = some dash := by
  cases h with
  | long => rw [Utf8.bytesOf_append]; rfl
  | joined value => rw [Utf8.bytesOf_append, Utf8.bytesOf_append, List.append_assoc]; rfl
  | short rest hc =>
    obtain ⟨b, harg, _, _⟩ := front_short hc
    rw [harg]
    rfl

/-- What is given stays so. -/
theorem Takes.keeps (h : Takes scope r arg r') (hgives : Gives r o) : Gives r' o := by
  cases h with
  | long _ _ _ htake => exact (gives_of_takeUp htake).2 o hgives
  | short _ _ _ _ htake => exact (gives_of_takeUp htake).2 o hgives
  | value _ hpending =>
    refine hgives.imp id fun ⟨given, hgiven⟩ => ?_
    cases hpending.symm.trans hgiven
    exact ⟨some arg, rfl⟩

/-- An option that is mentioned is given when the argument has been read. -/
theorem Takes.gives (h : Takes scope r arg r') (hmentioned : o.Mentioned arg) : Gives r' o := by
  have hshape := shapeOf_mentioned hmentioned
  cases h with
  | @long name given o' r' hshape' _ hname htake =>
    obtain ⟨_, hlong⟩ | ⟨_, _, _, hshort, _⟩ := hshape
    · cases hlong.symm.trans hshape'
      rw [Utf8.text?_eq_some_iff.mpr rfl, Option.some.injEq] at hname
      exact long_injective hname ▸ (gives_of_takeUp htake).1
    · cases hshort.symm.trans hshape'
  | @short first rest c width o' r' hshape' _ hfront hname htake =>
    obtain ⟨_, hlong⟩ | ⟨_, _, _, hshort, hname', hfront'⟩ := hshape
    · cases hlong.symm.trans hshape'
    · cases hshort.symm.trans hshape'
      obtain ⟨rfl, rfl⟩ := Utf8.Front.char.inj (hfront'.symm.trans hfront)
      exact short_injective hname hname' ▸ (gives_of_takeUp htake).1
  | value hshape' _ =>
    obtain ⟨_, hlong⟩ | ⟨_, _, _, hshort, _⟩ := hshape
    · cases hlong.symm.trans hshape'
    · cases hshort.symm.trans hshape'

theorem Reads.keeps (h : Reads scope r args x) (hgives : Gives r o) : Gives x.1 o := by
  induction h with
  | nil | separator | command => exact hgives
  | cons _ htakes _ ih => exact ih (htakes.keeps hgives)

/-- **Whoever mentions an option gives it,** on this level or behind the name of a command. -/
theorem Reads.gives (h : Reads scope r args x) (harg : arg ∈ args) (hmentioned : o.Mentioned arg) :
    Gives x.1 o ∨ ∃ name rest, x.2 = some (name, rest) ∧ arg ∈ rest := by
  have hdash := head?_mentioned hmentioned
  induction h with
  | nil => cases harg
  | separator _ hshape =>
    -- two dashes alone mention nothing
    cases List.mem_singleton.mp harg
    obtain ⟨_, hlong⟩ | ⟨_, _, _, hshort, _⟩ := shapeOf_mentioned hmentioned
    · cases hlong.symm.trans hshape
    · cases hshort.symm.trans hshape
  | command _ _ _ hname =>
    rcases List.mem_cons.mp harg with rfl | hrest
    · rw [(not_command hdash).2] at hname
      cases hname
    · exact .inr ⟨_, _, rfl, hrest⟩
  | cons _ htakes hreads ih =>
    rcases List.mem_cons.mp harg with rfl | hrest
    · exact .inl (hreads.keeps (htakes.gives hmentioned))
    · exact ih hrest

/-- Behind the name of a command there is no other. -/
theorem Reads.eq_none_of_command {n : CommandName} (h : Reads (.command n) r args x) :
    x.2 = none := by
  induction h with
  | nil | separator => rfl
  | command htop => cases htop
  | cons _ _ _ ih => exact ih

end Level

/-! ## Both levels -/

/-- The variable is asked for a value only where the option is not given, and can be asked if it is
text. -/
theorem exists_fallback {var : Option Bytes} (htext : ∀ value, var = some value →
    Utf8.WellFormed value) (given : Option String) : ∃ config, fallback var given = .ok config := by
  cases given with
  | some text => exact ⟨none, by cases var <;> rfl⟩
  | none =>
    cases var with
    | none => exact ⟨none, rfl⟩
    | some value =>
      obtain ⟨s, hs⟩ := Option.isSome_iff_exists.mp
        (Utf8.isSome_text?_iff.mpr (htext value rfl))
      exact ⟨some s, by rw [fallback, readText, hs]; rfl⟩

/-- **The variable has no say where the option is given.** Arguments that mention the configuration
file and are a command line under one value of the variable are the same command line under every
other that is text. -/
theorem parse_of_mentioned {var var' : Option Bytes} {args : List Bytes} {cl : CommandLine}
    (h : parse var args = .ok cl) (hmentioned : ∃ arg ∈ args, OptionName.config.Mentioned arg)
    (htext : ∀ value, var' = some value → Utf8.WellFormed value) : parse var' args = .ok cl := by
  obtain ⟨arg, harg, hmentioned⟩ := hmentioned
  have hsettled : ∀ {r : Reading} {v : Values}, r.settle = .ok v → Gives r .config →
      ∃ text, v.options.config = some text := fun hsettle hgives =>
    Option.isSome_iff_exists.mp (has_of_settle hsettle hgives)
  unfold parse at h ⊢
  obtain ⟨⟨top, command⟩, htop, h⟩ := bind_eq_ok_iff.mp h
  rw [readLevel_eq_ok_iff] at htop
  have hgives := htop.gives harg hmentioned
  dsimp only at h ⊢
  rw [readLevel_eq_ok_iff.mpr htop]
  cases command with
  | none =>
    obtain ⟨v, hsettle, h⟩ := bind_eq_ok_iff.mp h
    obtain ⟨text, hconfig⟩ := hsettled hsettle (hgives.resolve_right (by simp))
    have hskip : ∀ var : Option Bytes, fallback var (some text) = .ok none := by
      intro var
      cases var <;> rfl
    rw [hconfig, hskip] at h
    simp only [bind, Except.bind, hsettle, hconfig, hskip] at h ⊢
    exact h
  | some command =>
    obtain ⟨name, rest⟩ := command
    obtain ⟨⟨inner, stop⟩, hinner, h⟩ := bind_eq_ok_iff.mp h
    obtain ⟨v, hsettle, h⟩ := bind_eq_ok_iff.mp h
    obtain ⟨_, _, h⟩ := bind_eq_ok_iff.mp h
    obtain ⟨outer, hsettleOuter, h⟩ := bind_eq_ok_iff.mp h
    obtain ⟨config, _, h⟩ := bind_eq_ok_iff.mp h
    rw [readLevel_eq_ok_iff] at hinner
    obtain ⟨config₁, hfallback₁⟩ := exists_fallback htext v.options.config
    obtain ⟨config₂, hfallback₂⟩ := exists_fallback htext outer.options.config
    -- one of the levels gives the option, so what the variable says comes too late
    have hgiven : ∃ text, v.options.config.or outer.options.config = some text := by
      rcases hgives with hgives | ⟨_, _, heq, hrest⟩
      · obtain ⟨text, hconfig⟩ := hsettled hsettleOuter hgives
        rw [hconfig]
        cases v.options.config <;> exact ⟨_, rfl⟩
      · cases heq
        have hend : stop = none := hinner.eq_none_of_command
        have hgives := (hinner.gives hrest hmentioned).resolve_right (by simp [hend])
        obtain ⟨text, hconfig⟩ := hsettled hsettle hgives
        rw [hconfig]
        exact ⟨text, rfl⟩
    obtain ⟨text, hor⟩ := hgiven
    simp only [bind, Except.bind, readLevel_eq_ok_iff.mpr hinner, hsettle, hsettleOuter, hfallback₁,
      hfallback₂, hor, Option.some_or] at h ⊢
    exact h

end CommandLine

end ScriptHost
