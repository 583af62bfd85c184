import Mathlib.Data.List.TakeWhile
import TurtleAssist.CommandLine

/-!
# The ways to write a command line

What a command line says can be written in many ways. Its settings may come in any order, the
value of an option may be attached with an equals sign or be the next argument, and two hyphens
may end it. `AreWritten` lists these ways. The parser accepts them all and nothing else, and it
finds the options that the settings describe, whichever way they have been written
(`parse_eq_ok_iff`).

The hard part is that an option whose value is the next argument is entered late, when the next
option has been recognised. Both directions are therefore stated for a parser that stands in the
middle of a command line, with an option pending. If the option has its value already, entering
it is the same as if it had been entered before (`addAll_of_areWritten`). If it still waits for
its value, its name is put back in front of the arguments (`enteredTo_of_addAll`).
-/

namespace TurtleAssist.CommandLine

/-! ## Settings and how they are written -/

/-- One thing that a command line says. -/
inductive Setting where
  | stdio
  | debug
  | valued (option : Valued) (value : String)
deriving DecidableEq, Repr

/-- The value of a setting for an option, if it is one for this option. -/
def Setting.valueFor? (option : Valued) : Setting → Option String
  | .valued other value => if other = option then some value else none
  | _ => none

/-- The word for an option. -/
def Valued.key : Valued → String
  | .catalog => "catalog"
  | .languageId => "language-id"

/-- How an option is named. -/
def Valued.name (option : Valued) : String :=
  "--" ++ option.key

/-- A value that may be an argument of its own: it does not start with a hyphen, or it is a hyphen
and nothing else. -/
def StandsAlone (value : String) : Prop :=
  value.toList.head? ≠ some '-' ∨ value = "-"

instance (value : String) : Decidable (StandsAlone value) :=
  inferInstanceAs (Decidable (_ ∨ _))

/-- **The ways to write a setting**, with the arguments that it takes. -/
inductive IsWritten : Setting → List String → Prop
  | stdio : IsWritten .stdio ["--stdio"]
  | debug : IsWritten .debug ["--debug"]
  | attached (option : Valued) (value : String) :
    IsWritten (.valued option value) [option.name ++ "=" ++ value]
  | next (option : Valued) {value : String} (h : StandsAlone value) :
    IsWritten (.valued option value) [option.name, value]

/-- **The ways to write settings one after another**, perhaps with two hyphens at the end. -/
inductive AreWritten : List Setting → List String → Prop
  | nil : AreWritten [] []
  | ending : AreWritten [] ["--"]
  | cons {setting : Setting} {settings : List Setting} {first rest : List String}
    (hfirst : IsWritten setting first) (hrest : AreWritten settings rest) :
    AreWritten (setting :: settings) (first ++ rest)

/-- **Settings describe options**: a flag is given once if it is set, and not at all otherwise.
The path of the catalog is not empty, and it is given once if there is one. The languages are
the given ones in their order, and the usual one if none is given. -/
structure Describe (settings : List Setting) (options : Options) : Prop where
  stdio : settings.count .stdio = options.stdio.toNat
  debug : settings.count .debug = options.debug.toNat
  catalog : settings.filterMap (Setting.valueFor? .catalog) = options.catalog.toList
  catalog_ne : options.catalog ≠ some ""
  languageIds : options.languageIds
    = if settings.filterMap (Setting.valueFor? .languageId) = [] then ["scheme"]
      else settings.filterMap (Setting.valueFor? .languageId)

/-! ## One argument -/

theorem looksLikeOption_eq_false_iff {value : String} :
    looksLikeOption value = false ↔ StandsAlone value := by
  unfold looksLikeOption StandsAlone
  rw [← String.toList_inj]
  split
  · rename_i c rest heq
    refine iff_of_false Bool.noConfusion ?_
    rw [heq]
    simp
  · rename_i hnone
    refine iff_of_true rfl ?_
    cases hvalue : value.toList with
    | nil => exact Or.inl nofun
    | cons c rest =>
      by_cases hc : c = '-'
      · subst hc
        cases rest with
        | nil => exact Or.inr rfl
        | cons d rest => exact absurd hvalue (hnone d rest)
      · exact Or.inl fun h => hc (Option.some.inj h)

theorem StandsAlone.ne_ending {value : String} (h : StandsAlone value) : value ≠ "--" := by
  rintro rfl
  revert h
  decide

/-- Without an equals sign there is no value. -/
theorem splitValue_of_not_mem {argument : List Char} (h : '=' ∉ argument) :
    splitValue argument = (argument, none) := by
  have hrest : argument.dropWhile (· != '=') = [] :=
    List.dropWhile_eq_nil_iff.mpr fun c hc => bne_iff_ne.mpr fun heq => h (heq ▸ hc)
  unfold splitValue
  rw [hrest]

/-- The value stands after the first equals sign. -/
theorem splitValue_append {key : List Char} (h : '=' ∉ key) (value : List Char) :
    splitValue (key ++ '=' :: value) = (key, some value) := by
  have hbefore : ∀ c ∈ key, (c != '=') = true :=
    fun c hc => bne_iff_ne.mpr fun heq => h (heq ▸ hc)
  unfold splitValue
  rw [List.dropWhile_append_of_pos hbefore, List.takeWhile_append_of_pos hbefore]
  show (key ++ [], some value) = _
  rw [List.append_nil]

/-- The key of a long argument, after its two hyphens, decides what it is. -/
theorem ofLong_of_splitValue {long key : List Char} {attached : Option (List Char)}
    (h : splitValue long = (key, attached)) :
    Argument.ofLong long
      = if String.ofList key = "catalog" then .valued .catalog (attached.map String.ofList)
        else if String.ofList key = "language-id" then
          .valued .languageId (attached.map String.ofList)
        else if String.ofList key = "stdio" then flag attached .stdio
        else if String.ofList key = "debug" then flag attached .debug
        else if String.ofList key = "help" then flag attached .help
        else .problem .unknownArgument := by
  unfold Argument.ofLong
  rw [h]
  dsimp only
  split <;> simp_all

/-- How an argument is written that is neither a problem nor a call for help. -/
def Argument.written? : Argument → Option String
  | .stdio => some "--stdio"
  | .debug => some "--debug"
  | .valued option none => some option.name
  | .valued option (some value) => some (option.name ++ "=" ++ value)
  | _ => none

theorem toList_attached (option : Valued) (value : String) :
    (option.name ++ "=" ++ value).toList
      = '-' :: '-' :: (option.key.toList ++ '=' :: value.toList) := by
  simp [Valued.name, String.toList_append]

theorem name_ne_ending (option : Valued) : option.name ≠ "--" := by
  cases option <;> decide

theorem attached_ne_ending (option : Valued) (value : String) :
    option.name ++ "=" ++ value ≠ "--" := by
  intro h
  have hlist := congrArg String.toList h
  rw [toList_attached] at hlist
  cases option <;> cases hlist

theorem not_mem_key (option : Valued) : '=' ∉ option.key.toList := by
  cases option <;> decide

/-- An argument is what it is written as. -/
theorem ofText_written {argument : Argument} {written : String}
    (h : argument.written? = some written) : Argument.ofText written = argument := by
  cases argument with
  | stdio =>
    cases h
    rfl
  | debug =>
    cases h
    rfl
  | help => cases h
  | problem problem => cases h
  | valued option attached =>
    cases attached with
    | none =>
      cases h
      cases option <;> rfl
    | some value =>
      cases h
      unfold Argument.ofText
      rw [toList_attached]
      show Argument.ofLong (option.key.toList ++ '=' :: value.toList) = _
      rw [ofLong_of_splitValue (splitValue_append (not_mem_key option) value.toList)]
      cases option <;> simp [Valued.key]

/-- What a long argument is written as is the argument again. -/
theorem toList_of_written?_ofLong {long key : List Char} {attached : Option (List Char)}
    (hsplit : splitValue long = (key, attached)) {written : String}
    (h : (Argument.ofLong long).written? = some written) :
    written.toList = '-' :: '-' :: (key ++ (attached.map ('=' :: ·)).getD []) := by
  have hkey : ∀ word : String, String.ofList key = word → key = word.toList := by
    rintro _ rfl
    exact String.toList_ofList.symm
  rw [ofLong_of_splitValue hsplit] at h
  split_ifs at h with hcatalog hlanguage hstdio hdebug hhelp
  · obtain rfl := hkey _ hcatalog
    cases attached <;> cases h <;> simp [Valued.name, Valued.key]
  · obtain rfl := hkey _ hlanguage
    cases attached <;> cases h <;> simp [Valued.name, Valued.key]
  · obtain rfl := hkey _ hstdio
    cases attached <;> cases h
    rfl
  · obtain rfl := hkey _ hdebug
    cases attached <;> cases h
    rfl
  · cases attached <;> cases h
  · cases h

/-- **Reading an argument and writing it** are inverse to each other. -/
theorem ofText_eq_iff {argument : Argument} {written text : String}
    (h : argument.written? = some written) : Argument.ofText text = argument ↔ text = written := by
  refine ⟨?_, fun htext => htext ▸ ofText_written h⟩
  rintro rfl
  rw [← String.toList_inj]
  unfold Argument.ofText at h
  split at h
  · rename_i long hlong
    rw [hlong]
    by_cases hequals : '=' ∈ long
    · obtain ⟨key, value, rfl, hkey⟩ := List.eq_append_cons_of_mem hequals
      exact (toList_of_written?_ofLong (splitValue_append hkey value) h).symm
    · have hwritten := toList_of_written?_ofLong (splitValue_of_not_mem hequals) h
      rw [hwritten]
      exact congrArg ('-' :: '-' :: ·) (List.append_nil long).symm
  · cases h
  · cases h

/-! ## Entering settings -/

/-- With a setting entered. -/
def Given.enter (given : Given) : Setting → Except Problem Given
  | .stdio => given.addStdio
  | .debug => given.addDebug
  | .valued option value => option.add given value

section Arguments

variable {given final : Given} {pending : Option Pending} {argument : String}
  {arguments : List String} {settings : List Setting}

theorem bind_eq_ok_iff {α β : Type} {x : Except Problem α} {f : α → Except Problem β} {b : β} :
    x >>= f = .ok b ↔ ∃ a, x = .ok a ∧ f a = .ok b := by
  cases x with
  | error problem => exact iff_of_false nofun nofun
  | ok a => simp [bind, Except.bind]

/-- An option that has its value does not take the next argument. -/
theorem awaiting?_eq_none (h : ∀ option, pending ≠ some ⟨option, none⟩) :
    awaiting? pending argument = none := by
  unfold awaiting?
  split
  · rename_i option
    exact absurd rfl (h option)
  · rfl

/-- A setting in one argument is entered at once, after what is pending. -/
theorem addAll_cons_of_isWritten {setting : Setting} (h : IsWritten setting [argument])
    (hpending : ∀ option, pending ≠ some ⟨option, none⟩) :
    addAll given pending (argument :: arguments)
      = settle pending given >>= fun given => given.enter setting >>= fun given =>
          addAll given none arguments := by
  cases h with
  | stdio =>
    have hread : Argument.ofText "--stdio" = .stdio := ofText_written rfl
    rw [addAll, if_neg (by decide), awaiting?_eq_none hpending, hread]
    rfl
  | debug =>
    have hread : Argument.ofText "--debug" = .debug := ofText_written rfl
    rw [addAll, if_neg (by decide), awaiting?_eq_none hpending, hread]
    rfl
  | attached option value =>
    have hread : Argument.ofText (option.name ++ "=" ++ value) = .valued option (some value) :=
      ofText_written rfl
    rw [addAll, if_neg (attached_ne_ending option value), awaiting?_eq_none hpending, hread]
    rfl

/-- **Written settings are entered one after another**, and a pending option with its value is
entered before them. -/
theorem addAll_of_areWritten (h : AreWritten settings arguments)
    (hpending : ∀ option, pending ≠ some ⟨option, none⟩) :
    addAll given pending arguments
      = settle pending given >>= fun given => settings.foldlM Given.enter given := by
  induction h generalizing given pending with
  | nil => exact (bind_pure (settle pending given)).symm
  | ending => exact (bind_pure (settle pending given)).symm
  | @cons setting settings first rest hfirst hrest ih =>
    have hnext : ∀ given, addAll given none rest = settings.foldlM Given.enter given :=
      fun given => ih nofun
    have hentered : ∀ {argument}, IsWritten setting [argument] →
        addAll given pending (argument :: rest)
          = settle pending given >>= fun given =>
              (setting :: settings).foldlM Given.enter given := by
      intro argument hargument
      rw [addAll_cons_of_isWritten hargument hpending]
      simp only [hnext]
      rfl
    cases hfirst with
    | stdio => exact hentered .stdio
    | debug => exact hentered .debug
    | attached option value => exact hentered (.attached option value)
    | @next option value hvalue =>
      have hread : Argument.ofText option.name = .valued option none := ofText_written rfl
      have hwaits : ∀ given, addAll given (some ⟨option, none⟩) (value :: rest)
          = addAll given (some ⟨option, some value⟩) rest := by
        intro given
        rw [addAll, if_neg hvalue.ne_ending, awaiting?,
          if_neg (Bool.eq_false_iff.mp (looksLikeOption_eq_false_iff.mpr hvalue))]
      have hlate : ∀ given, addAll given (some ⟨option, some value⟩) rest
          = option.add given value >>= fun given => settings.foldlM Given.enter given :=
        fun given => ih nofun
      show addAll given pending (option.name :: value :: rest) = _
      rw [addAll, if_neg (name_ne_ending option), awaiting?_eq_none hpending, hread]
      show (settle pending given >>= fun given =>
        addAll given (some ⟨option, none⟩) (value :: rest)) = _
      simp only [hwaits, hlate]
      rfl

/-- The arguments are those of settings whose entering, after what is pending, leads to the
end. -/
def EnteredTo (final given : Given) (pending : Option Pending) (arguments : List String) : Prop :=
  ∃ settings, AreWritten settings arguments
    ∧ (settle pending given >>= fun given => settings.foldlM Given.enter given) = .ok final

/-- A setting in one argument is entered together with those of the arguments after it. -/
theorem EnteredTo.cons {setting : Setting} (hwritten : IsWritten setting [argument])
    (hpending : ∀ option, pending ≠ some ⟨option, none⟩)
    (hrest : ∀ given, addAll given none arguments = .ok final →
      EnteredTo final given none arguments)
    (h : addAll given pending (argument :: arguments) = .ok final) :
    EnteredTo final given pending (argument :: arguments) := by
  rw [addAll_cons_of_isWritten hwritten hpending] at h
  obtain ⟨settled, hsettled, h⟩ := bind_eq_ok_iff.mp h
  obtain ⟨next, hnext, h⟩ := bind_eq_ok_iff.mp h
  obtain ⟨settings, hsettings, hfinal⟩ := hrest next h
  exact ⟨setting :: settings, .cons hwritten hsettings,
    bind_eq_ok_iff.mpr ⟨settled, hsettled, bind_eq_ok_iff.mpr ⟨next, hnext, hfinal⟩⟩⟩

/-- One argument where no option waits for its value. -/
theorem enteredTo_of_addAll_cons (hpending : ∀ option, pending ≠ some ⟨option, none⟩)
    (hrest : ∀ given, addAll given none arguments = .ok final →
      EnteredTo final given none arguments)
    (hwaiting : ∀ given option, addAll given (some ⟨option, none⟩) arguments = .ok final →
      EnteredTo final given none (option.name :: arguments))
    (h : addAll given pending (argument :: arguments) = .ok final) :
    EnteredTo final given pending (argument :: arguments) := by
  by_cases hending : argument = "--"
  · subst hending
    rw [addAll, if_pos rfl] at h
    cases arguments with
    | nil => exact ⟨[], .ending, (bind_pure (settle pending given)).trans h⟩
    | cons next arguments => cases h
  · have hadd := h
    rw [addAll, if_neg hending, awaiting?_eq_none hpending] at h
    cases hread : Argument.ofText argument with
    | problem problem =>
      rw [hread] at h
      cases h
    | help =>
      rw [hread] at h
      obtain ⟨_, -, h⟩ := bind_eq_ok_iff.mp h
      cases h
    | stdio =>
      obtain rfl := (ofText_eq_iff rfl).mp hread
      exact .cons .stdio hpending hrest hadd
    | debug =>
      obtain rfl := (ofText_eq_iff rfl).mp hread
      exact .cons .debug hpending hrest hadd
    | valued option attached =>
      cases attached with
      | some value =>
        obtain rfl := (ofText_eq_iff rfl).mp hread
        exact .cons (.attached option value) hpending hrest hadd
      | none =>
        rw [hread] at h
        obtain rfl := (ofText_eq_iff rfl).mp hread
        obtain ⟨settled, hsettled, h⟩ := bind_eq_ok_iff.mp h
        obtain ⟨settings, hwritten, hfinal⟩ := hwaiting settled option h
        exact ⟨settings, hwritten, bind_eq_ok_iff.mpr ⟨settled, hsettled, hfinal⟩⟩

/-- One argument after an option that waits for its value. -/
theorem enteredTo_of_addAll_value {option : Valued}
    (hrest : ∀ given pending, (∀ option, pending ≠ some ⟨option, none⟩) →
      addAll given pending arguments = .ok final → EnteredTo final given pending arguments)
    (h : addAll given (some ⟨option, none⟩) (argument :: arguments) = .ok final) :
    EnteredTo final given none (option.name :: argument :: arguments) := by
  by_cases hending : argument = "--"
  · subst hending
    rw [addAll, if_pos rfl] at h
    cases arguments with
    | nil => cases h
    | cons next arguments => cases h
  · rw [addAll, if_neg hending, awaiting?] at h
    cases hlooks : looksLikeOption argument with
    | true =>
      -- it is refused without its value, whatever the argument is
      rw [hlooks] at h
      cases hread : Argument.ofText argument with
      | valued other attached =>
        rw [hread] at h
        cases attached <;> cases h
      | _ =>
        rw [hread] at h
        cases h
    | false =>
      rw [hlooks] at h
      obtain ⟨settings, hwritten, hfinal⟩ :=
        hrest given (some ⟨option, some argument⟩) nofun h
      exact ⟨.valued option argument :: settings,
        .cons (.next option (looksLikeOption_eq_false_iff.mp hlooks)) hwritten, hfinal⟩

/-- **What is accepted has been written.** If an option waits for its value, its name belongs in
front of the arguments. -/
theorem enteredTo_of_addAll (arguments : List String) :
    (∀ given pending, (∀ option, pending ≠ some ⟨option, none⟩) →
        addAll given pending arguments = .ok final → EnteredTo final given pending arguments)
      ∧ ∀ given option, addAll given (some ⟨option, none⟩) arguments = .ok final →
          EnteredTo final given none (option.name :: arguments) := by
  induction arguments with
  | nil =>
    refine ⟨fun given pending hpending h => ⟨[], .nil, ?_⟩, fun given option h => ?_⟩
    · exact (bind_pure (settle pending given)).trans h
    · cases h
  | cons argument arguments ih =>
    obtain ⟨hrest, hwaiting⟩ := ih
    exact ⟨fun given pending hpending h => enteredTo_of_addAll_cons hpending
        (fun given => hrest given none nofun) hwaiting h,
      fun given option h => enteredTo_of_addAll_value hrest h⟩

end Arguments

/-! ## What the settings come to -/

/-- What settings add up to, after what has been given before them. -/
structure AddUp (given : Given) (settings : List Setting) (final : Given) : Prop where
  stdio : final.stdio.toNat = given.stdio.toNat + settings.count .stdio
  debug : final.debug.toNat = given.debug.toNat + settings.count .debug
  catalog : final.catalog.toList
    = given.catalog.toList ++ settings.filterMap (Setting.valueFor? .catalog)
  path_ne : "" ∉ settings.filterMap (Setting.valueFor? .catalog)
  languageIds : final.languageIds
    = given.languageIds ++ settings.filterMap (Setting.valueFor? .languageId)

theorem addStdio_eq_ok_iff {given next : Given} :
    given.addStdio = .ok next ↔ given.stdio = false ∧ next = { given with stdio := true } := by
  unfold Given.addStdio
  cases given.stdio with
  | true => simp
  | false => simp [eq_comm]

theorem addDebug_eq_ok_iff {given next : Given} :
    given.addDebug = .ok next ↔ given.debug = false ∧ next = { given with debug := true } := by
  unfold Given.addDebug
  cases given.debug with
  | true => simp
  | false => simp [eq_comm]

theorem addCatalog_eq_ok_iff {given next : Given} {path : String} :
    given.addCatalog path = .ok next
      ↔ (given.catalog = none ∧ path ≠ "") ∧ next = { given with catalog := some path } := by
  unfold Given.addCatalog
  cases given.catalog with
  | some other => simp
  | none =>
    by_cases h : path = ""
    · simp [h]
    · simp [h, eq_comm]

section Sums

variable {given final : Given} {settings : List Setting}

theorem addUp_nil_iff : AddUp given [] final ↔ given = final := by
  constructor
  · rintro ⟨hstdio, hdebug, hcatalog, -, hids⟩
    obtain ⟨stdio, debug, catalog, ids⟩ := given
    obtain ⟨stdio', debug', catalog', ids'⟩ := final
    have hflag : ∀ b b' : Bool, b'.toNat = b.toNat + 0 → b = b' := by decide
    obtain rfl := hflag stdio stdio' hstdio
    obtain rfl := hflag debug debug' hdebug
    obtain rfl : catalog = catalog' := by
      have hlist : catalog'.toList = catalog.toList := hcatalog.trans (List.append_nil _)
      cases catalog <;> cases catalog' <;> simp_all
    obtain rfl : ids' = ids := hids.trans (List.append_nil _)
    rfl
  · rintro rfl
    exact ⟨rfl, rfl, (List.append_nil _).symm, List.not_mem_nil, (List.append_nil _).symm⟩

/-- A flag that is given once more was not set before. -/
theorem toNat_eq_add_succ_iff {flag before : Bool} {n : Nat} :
    flag.toNat = before.toNat + (n + 1) ↔ before = false ∧ flag.toNat = true.toNat + n := by
  have hle := Bool.toNat_le flag
  cases before with
  | true =>
    refine iff_of_false (fun h => ?_) (fun h => Bool.noConfusion h.1)
    rw [Bool.toNat_true] at h
    omega
  | false =>
    rw [Bool.toNat_false, Bool.toNat_true, and_iff_right rfl]
    omega

/-- A path that is given once more was not given before. -/
theorem toList_eq_append_cons_iff {path? before? : Option String} {path : String}
    {paths : List String} :
    path?.toList = before?.toList ++ path :: paths
      ↔ before? = none ∧ path?.toList = (some path).toList ++ paths := by
  cases before? with
  | none => exact (and_iff_right rfl).symm
  | some before =>
    refine iff_of_false (fun h => ?_) (fun h => nomatch h.1)
    have hlength := congrArg List.length h
    cases path? <;> simp at hlength

theorem addUp_stdio_iff :
    AddUp given (.stdio :: settings) final
      ↔ given.stdio = false ∧ AddUp { given with stdio := true } settings final := by
  have hcount : (Setting.stdio :: settings).count .stdio = settings.count .stdio + 1 :=
    List.count_cons_self
  have hother : (Setting.stdio :: settings).count .debug = settings.count .debug :=
    List.count_cons_of_ne (by decide)
  constructor
  · rintro ⟨hstdio, hdebug, hcatalog, hpath, hids⟩
    obtain ⟨hunset, hset⟩ := toNat_eq_add_succ_iff.mp (hcount ▸ hstdio)
    exact ⟨hunset, hset, hother ▸ hdebug, hcatalog, hpath, hids⟩
  · rintro ⟨hunset, hset, hdebug, hcatalog, hpath, hids⟩
    exact ⟨hcount.symm ▸ toNat_eq_add_succ_iff.mpr ⟨hunset, hset⟩, hother.symm ▸ hdebug, hcatalog,
      hpath, hids⟩

theorem addUp_debug_iff :
    AddUp given (.debug :: settings) final
      ↔ given.debug = false ∧ AddUp { given with debug := true } settings final := by
  have hcount : (Setting.debug :: settings).count .debug = settings.count .debug + 1 :=
    List.count_cons_self
  have hother : (Setting.debug :: settings).count .stdio = settings.count .stdio :=
    List.count_cons_of_ne (by decide)
  constructor
  · rintro ⟨hstdio, hdebug, hcatalog, hpath, hids⟩
    obtain ⟨hunset, hset⟩ := toNat_eq_add_succ_iff.mp (hcount ▸ hdebug)
    exact ⟨hunset, hother ▸ hstdio, hset, hcatalog, hpath, hids⟩
  · rintro ⟨hunset, hstdio, hset, hcatalog, hpath, hids⟩
    exact ⟨hother.symm ▸ hstdio, hcount.symm ▸ toNat_eq_add_succ_iff.mpr ⟨hunset, hset⟩, hcatalog,
      hpath, hids⟩

/-- A value is no flag. -/
theorem count_valued (option : Valued) (value : String) (settings : List Setting) :
    (Setting.valued option value :: settings).count .stdio = settings.count .stdio
      ∧ (Setting.valued option value :: settings).count .debug = settings.count .debug :=
  ⟨List.count_cons_of_ne (by simp), List.count_cons_of_ne (by simp)⟩

theorem addUp_catalog_iff {path : String} :
    AddUp given (.valued .catalog path :: settings) final
      ↔ (given.catalog = none ∧ path ≠ "")
        ∧ AddUp { given with catalog := some path } settings final := by
  obtain ⟨hstdio', hdebug'⟩ := count_valued .catalog path settings
  constructor
  · rintro ⟨hstdio, hdebug, hcatalog, hpath, hids⟩
    obtain ⟨hunset, hset⟩ := toList_eq_append_cons_iff.mp hcatalog
    obtain ⟨hne, hpath⟩ := not_or.mp fun h => hpath (List.mem_cons.mpr h)
    exact ⟨⟨hunset, Ne.symm hne⟩, hstdio' ▸ hstdio, hdebug' ▸ hdebug, hset, hpath, hids⟩
  · rintro ⟨⟨hunset, hne⟩, hstdio, hdebug, hset, hpath, hids⟩
    exact ⟨hstdio'.symm ▸ hstdio, hdebug'.symm ▸ hdebug,
      toList_eq_append_cons_iff.mpr ⟨hunset, hset⟩,
      fun h => (List.mem_cons.mp h).elim (Ne.symm hne) hpath, hids⟩

theorem addUp_languageId_iff {id : String} :
    AddUp given (.valued .languageId id :: settings) final
      ↔ AddUp { given with languageIds := given.languageIds ++ [id] } settings final := by
  obtain ⟨hstdio', hdebug'⟩ := count_valued .languageId id settings
  constructor
  · rintro ⟨hstdio, hdebug, hcatalog, hpath, hids⟩
    exact ⟨hstdio' ▸ hstdio, hdebug' ▸ hdebug, hcatalog, hpath,
      hids.trans (List.append_cons _ _ _)⟩
  · rintro ⟨hstdio, hdebug, hcatalog, hpath, hids⟩
    exact ⟨hstdio'.symm ▸ hstdio, hdebug'.symm ▸ hdebug, hcatalog, hpath,
      hids.trans (List.append_cons _ _ _).symm⟩

end Sums

/-- **Settings are entered exactly if they add up** to what a command line can say. -/
theorem foldlM_enter_eq_ok_iff {settings : List Setting} {given final : Given} :
    settings.foldlM Given.enter given = .ok final ↔ AddUp given settings final := by
  induction settings generalizing given with
  | nil =>
    rw [addUp_nil_iff]
    exact Except.ok.injEq given final ▸ Iff.rfl
  | cons setting settings ih =>
    rw [List.foldlM_cons, bind_eq_ok_iff]
    simp only [ih]
    cases setting with
    | stdio =>
      show (∃ next, given.addStdio = .ok next ∧ AddUp next settings final) ↔ _
      simp only [addStdio_eq_ok_iff, and_assoc, exists_and_left, exists_eq_left, addUp_stdio_iff]
    | debug =>
      show (∃ next, given.addDebug = .ok next ∧ AddUp next settings final) ↔ _
      simp only [addDebug_eq_ok_iff, and_assoc, exists_and_left, exists_eq_left, addUp_debug_iff]
    | valued option value =>
      cases option with
      | catalog =>
        show (∃ next, given.addCatalog value = .ok next ∧ AddUp next settings final) ↔ _
        simp only [addCatalog_eq_ok_iff, and_assoc, exists_and_left, exists_eq_left,
          addUp_catalog_iff]
      | languageId =>
        show (∃ next, given.addLanguage value = .ok next ∧ AddUp next settings final) ↔ _
        simp only [Given.addLanguage, Except.ok.injEq, exists_eq_left', addUp_languageId_iff]

/-- The options of what has been given from nothing are those that the settings describe. -/
theorem AddUp.describe {settings : List Setting} {final : Given} (h : AddUp {} settings final) :
    Describe settings final.toOptions where
  stdio := (h.stdio.trans (Nat.zero_add _)).symm
  debug := (h.debug.trans (Nat.zero_add _)).symm
  catalog := h.catalog.symm
  catalog_ne := by
    intro hempty
    refine h.path_ne ?_
    have hlist : final.catalog.toList = settings.filterMap (Setting.valueFor? .catalog) := h.catalog
    rw [← hlist, show final.catalog = some "" from hempty]
    exact List.mem_cons_self
  languageIds := by
    have hids : final.languageIds = settings.filterMap (Setting.valueFor? .languageId) :=
      h.languageIds
    rw [← hids]
    show (if final.languageIds.isEmpty then _ else _) = _
    simp only [List.isEmpty_iff]

/-- Settings that describe options add up to what has to be given for them. -/
theorem Describe.exists_addUp {settings : List Setting} {options : Options}
    (h : Describe settings options) :
    ∃ final, AddUp {} settings final ∧ final.toOptions = options := by
  refine ⟨⟨options.stdio, options.debug, options.catalog,
    settings.filterMap (Setting.valueFor? .languageId)⟩, ⟨?_, ?_, h.catalog.symm, ?_, rfl⟩, ?_⟩
  · exact (h.stdio.trans rfl).symm.trans (Nat.zero_add _).symm
  · exact (h.debug.trans rfl).symm.trans (Nat.zero_add _).symm
  · rw [h.catalog, Option.mem_toList]
    exact h.catalog_ne
  · obtain ⟨stdio, debug, catalog, ids⟩ := options
    have hids := h.languageIds
    simp only [← List.isEmpty_iff] at hids
    exact congrArg (Options.mk stdio debug catalog) hids.symm

/-- **A command line is accepted exactly if it has been written**, in whatever way: what stands
after the name of the program are settings that describe the options. -/
theorem parse_eq_ok_iff (program : String) (arguments : List String) (options : Options) :
    parse (program :: arguments) = .ok options
      ↔ ∃ settings, AreWritten settings arguments ∧ Describe settings options := by
  have hparse : parse (program :: arguments) = .ok options
      ↔ ∃ final, addAll {} none arguments = .ok final ∧ final.toOptions = options := by
    show (addAll {} none arguments).map Given.toOptions = .ok options ↔ _
    cases addAll {} none arguments with
    | error problem => exact iff_of_false nofun nofun
    | ok final => simp [Except.map]
  rw [hparse]
  constructor
  · rintro ⟨final, hfinal, rfl⟩
    obtain ⟨settings, hwritten, hentered⟩ := (enteredTo_of_addAll arguments).1 {} none nofun hfinal
    exact ⟨settings, hwritten, (foldlM_enter_eq_ok_iff.mp hentered).describe⟩
  · rintro ⟨settings, hwritten, hdescribe⟩
    obtain ⟨final, haddUp, rfl⟩ := hdescribe.exists_addUp
    have hentered : addAll {} none arguments = settings.foldlM Given.enter {} :=
      addAll_of_areWritten hwritten nofun
    exact ⟨final, hentered.trans (foldlM_enter_eq_ok_iff.mpr haddUp), rfl⟩

example :
    parse ["turtle-lsp", "--language-id", "-", "--catalog=-x=y", "--stdio", "--language-id=", "--"]
      = .ok ⟨true, false, some "-x=y", ["-", ""]⟩ := by
  decide +kernel

end TurtleAssist.CommandLine
