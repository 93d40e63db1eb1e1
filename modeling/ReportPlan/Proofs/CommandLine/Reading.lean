import ReportPlan.CommandLine.Arguments
import ReportPlan.Proofs.Lists

/-! # What command lines are read as

What the options of a command line give does not depend on what was set before. So an option that
the line does not have may be added in front, and the line is read as before in all other respects.

* `Settings.Adds`: what it takes to add an option, and what is set then.
* `Gives`: the options that arguments give to any settings, and where their reading stops.
* `takeOptions_frame`: options that leave the configuration unset go by nothing that it says.
* `Invocation.config_ne_empty`: the configuration of a line that is accepted has a path.
* `Request.read_configArgs_append`: a line that names no configuration may name one in front.
-/

set_option autoImplicit false

namespace ReportPlan.CommandLine

/-! ## Options of an argument list -/

/-- Adds options with their values, one after the other. -/
def Settings.addAll (s : Settings) (given : List (OptionName × String)) : Except Halt Settings :=
  given.foldlM (fun s e => addOption s e.1 e.2) s

/-- Arguments that give options with values, to whatever was set before, and where the reading of
options then stops. -/
def Gives (known : Known) (args : List String) (given : List (OptionName × String))
    (stop : Except Halt Stop) : Prop :=
  ∀ s, takeOptions known s args = do
    let s ← s.addAll given
    return (s, ← stop)

variable {known : Known}

theorem Gives.cons {args rest : List String} {o : OptionName} {value : String}
    {given : List (OptionName × String)} {stop : Except Halt Stop}
    (h : ∀ s, takeOptions known s args = do takeOptions known (← addOption s o value) rest)
    (hrest : Gives known rest given stop) : Gives known args ((o, value) :: given) stop := by
  intro s
  rw [h, Settings.addAll, List.foldlM_cons, bind_assoc]
  exact bind_congr hrest

theorem exists_gives (known : Known) (args : List String) :
    ∃ given stop, Gives known args given stop := by
  -- where the recursion goes does not depend on the settings, so it is enough to follow it for `{}`
  fun_induction takeOptions known {} args with
  | case1 => exact ⟨[], .ok .finished, fun _ => rfl⟩
  | case2 _ next rest text hnext =>
    refine ⟨[], .ok (.plain text rest), fun s => ?_⟩
    rw [takeOptions, hnext]
    rfl
  | case3 _ next rest hnext =>
    refine ⟨[], .ok (.escaped rest), fun s => ?_⟩
    rw [takeOptions, hnext]
    rfl
  | case4 _ next rest others hnext =>
    refine ⟨[], .error .help, fun s => ?_⟩
    rw [takeOptions, hnext]
    rfl
  | case5 _ next rest letter others hnext hhelp hversion =>
    refine ⟨[], .error .version, fun s => ?_⟩
    rw [takeOptions, hnext]
    simp only [if_neg hhelp, if_pos hversion]
    rfl
  | case6 _ next rest letter others hnext hhelp hversion =>
    refine ⟨[], .error (.misuse (.unknownOption next)), fun s => ?_⟩
    rw [takeOptions, hnext]
    simp only [if_neg hhelp, if_neg hversion]
    rfl
  | case7 _ next rest value hnext =>
    refine ⟨[], haltAt "help" .help value, fun s => ?_⟩
    rw [takeOptions, hnext]
    cases value <;> rfl
  | case8 _ next rest name value hnext hhelp hversion =>
    refine ⟨[], haltAt name .version value, fun s => ?_⟩
    rw [takeOptions, hnext]
    simp only [if_neg hhelp, if_pos hversion]
    cases value <;> rfl
  | case9 _ next rest name value hnext hhelp hversion hfind =>
    refine ⟨[], .error (.misuse (.unknownOption next)), fun s => ?_⟩
    rw [takeOptions, hnext]
    simp only [if_neg hhelp, if_neg hversion, hfind]
    rfl
  | case10 _ next rest name hhelp hversion o value hfind htakes hnext ih =>
    obtain ⟨given, stop, hrest⟩ := ih {}
    refine ⟨(o, value) :: given, stop, .cons (fun s => ?_) hrest⟩
    rw [takeOptions, hnext]
    simp only [if_neg hhelp, if_neg hversion, hfind, if_pos htakes]
  | case11 _ next rest name hhelp hversion o value hfind htakes hnext =>
    refine ⟨[], .error (.misuse (.unexpectedValue name)), fun s => ?_⟩
    rw [takeOptions, hnext]
    simp only [if_neg hhelp, if_neg hversion, hfind, if_neg htakes]
    rfl
  | case12 _ next name hhelp hversion o hfind htakes hnext =>
    refine ⟨[], .error (.misuse (.missingValue o)), fun s => ?_⟩
    rw [takeOptions, hnext]
    simp only [if_neg hhelp, if_neg hversion, hfind, if_pos htakes]
    rfl
  | case13 _ next name hhelp hversion o hfind htakes second rest value hsecond hnext ih =>
    obtain ⟨given, stop, hrest⟩ := ih {}
    refine ⟨(o, value) :: given, stop, .cons (fun s => ?_) hrest⟩
    rw [takeOptions, hnext]
    simp only [if_neg hhelp, if_neg hversion, hfind, if_pos htakes, hsecond]
  | case14 _ next name hhelp hversion o hfind htakes second rest hplain hnext =>
    refine ⟨[], .error (.misuse (.missingValue o)), fun s => ?_⟩
    rw [takeOptions, hnext]
    simp only [if_neg hhelp, if_neg hversion, hfind, if_pos htakes]
    rfl
  | case15 _ next rest name hhelp hversion o hfind htakes hnext ih =>
    obtain ⟨given, stop, hrest⟩ := ih {}
    refine ⟨(o, "") :: given, stop, .cons (fun s => ?_) hrest⟩
    rw [takeOptions, hnext]
    simp only [if_neg hhelp, if_neg hversion, hfind, if_neg htakes]

/-! ## One option -/

/-- What it takes to add an option, and what the settings are then. -/
inductive Settings.Adds (s : Settings) : OptionName → String → Settings → Prop where
  | config (value : String) (hfirst : s.config = none) (hvalue : value ≠ "") :
      Adds s .config value { s with config := some value }
  | logDir (value : String) (hfirst : s.logDir = none) (hvalue : value ≠ "") :
      Adds s .logDir value { s with logDir := some value }
  | now (value : String) (i : Instant) (hfirst : s.now = none)
      (hvalue : Timestamp.readStrict? value.toList = some i) :
      Adds s .now value { s with now := some i }
  | compact (value : String) (hfirst : s.compact = false) :
      Adds s .compact value { s with compact := true }
  | saveAs (value : String) (hfirst : s.saveAs = none) :
      Adds s .saveAs value { s with saveAs := some value }
  | tag (value : String) : Adds s .tag value { s with tags := value :: s.tags }

theorem Settings.set_eq_ok_iff {s s' : Settings} {o : OptionName} {value : String} :
    s.set o value = .ok s' ↔ s.Adds o value s' := by
  constructor
  · intro h
    cases o with
    | config =>
      obtain ⟨hfirst, h⟩ := ite_error_eq_ok_iff.1 h
      obtain ⟨hvalue, h⟩ := ite_error_eq_ok_iff.1 h
      cases h
      exact .config value (Option.not_isSome_iff_eq_none.1 hfirst) hvalue
    | logDir =>
      obtain ⟨hfirst, h⟩ := ite_error_eq_ok_iff.1 h
      obtain ⟨hvalue, h⟩ := ite_error_eq_ok_iff.1 h
      cases h
      exact .logDir value (Option.not_isSome_iff_eq_none.1 hfirst) hvalue
    | now =>
      obtain ⟨hfirst, h⟩ := ite_error_eq_ok_iff.1 h
      split at h
      · rename_i i hvalue
        cases h
        exact .now value i (Option.not_isSome_iff_eq_none.1 hfirst) hvalue
      · cases h
    | compact =>
      obtain ⟨hfirst, h⟩ := ite_error_eq_ok_iff.1 h
      cases h
      exact .compact value (eq_false_of_ne_true hfirst)
    | saveAs =>
      obtain ⟨hfirst, h⟩ := ite_error_eq_ok_iff.1 h
      cases h
      exact .saveAs value (Option.not_isSome_iff_eq_none.1 hfirst)
    | tag =>
      cases h
      exact .tag value
  · rintro (⟨_, hfirst, hvalue⟩ | ⟨_, hfirst, hvalue⟩ | ⟨_, i, hfirst, hvalue⟩ | ⟨_, hfirst⟩ |
      ⟨_, hfirst⟩ | _) <;> simp [set, *]

theorem addOption_eq_ok_iff {s s' : Settings} {o : OptionName} {value : String} :
    addOption s o value = .ok s' ↔ s.Adds o value s' := by
  rw [addOption, mapError_eq_ok_iff, Settings.set_eq_ok_iff]

/-! ## What is kept -/

/-- Paths that are set are not empty. -/
def Settings.PathsNonempty (s : Settings) : Prop :=
  s.config ≠ some "" ∧ s.logDir ≠ some ""

theorem Settings.Adds.pathsNonempty {s s' : Settings} {o : OptionName} {value : String}
    (h : s.Adds o value s') (hs : s.PathsNonempty) : s'.PathsNonempty := by
  cases h with
  | config _ _ hvalue => exact ⟨by simpa using hvalue, hs.2⟩
  | logDir _ _ hvalue => exact ⟨hs.1, by simpa using hvalue⟩
  | now => exact hs
  | compact => exact hs
  | saveAs => exact hs
  | tag => exact hs

/-- An option that leaves the configuration unset is added in the same way when it is set. -/
theorem Settings.Adds.frame {s s' : Settings} {o : OptionName} {value : String}
    (h : s.Adds o value s') (hs' : s'.config = none) (path : Option String) :
    s.config = none ∧ Adds { s with config := path } o value { s' with config := path } := by
  cases h with
  | config => cases hs'
  | logDir _ hfirst hvalue => exact ⟨hs', .logDir value hfirst hvalue⟩
  | now _ i hfirst hvalue => exact ⟨hs', .now value i hfirst hvalue⟩
  | compact _ hfirst => exact ⟨hs', .compact value hfirst⟩
  | saveAs _ hfirst => exact ⟨hs', .saveAs value hfirst⟩
  | tag => exact ⟨hs', .tag value⟩

variable {s s' : Settings} {args : List String} {stop : Stop}

theorem Settings.addAll_cons_eq_ok_iff {o : OptionName} {value : String}
    {given : List (OptionName × String)} :
    s.addAll ((o, value) :: given) = .ok s' ↔
      ∃ s₁, s.Adds o value s₁ ∧ s₁.addAll given = .ok s' := by
  rw [addAll, List.foldlM_cons, bind_eq_ok_iff]
  simp only [addOption_eq_ok_iff]
  rfl

theorem Settings.addAll_frame {given : List (OptionName × String)} (h : s.addAll given = .ok s')
    (hs' : s'.config = none) (path : Option String) :
    s.config = none ∧
      addAll { s with config := path } given = .ok { s' with config := path } := by
  induction given generalizing s with
  | nil =>
    cases h
    exact ⟨hs', rfl⟩
  | cons e given ih =>
    obtain ⟨o, value⟩ := e
    obtain ⟨s₁, hfirst, hrest⟩ := addAll_cons_eq_ok_iff.1 h
    obtain ⟨hs₁, hrest⟩ := ih hrest
    obtain ⟨hs, hfirst⟩ := hfirst.frame hs₁ path
    exact ⟨hs, addAll_cons_eq_ok_iff.2 ⟨_, hfirst, hrest⟩⟩

theorem Gives.eq_ok_iff {given : List (OptionName × String)} {stop' : Except Halt Stop}
    (h : Gives known args given stop') :
    takeOptions known s args = .ok (s', stop) ↔ s.addAll given = .ok s' ∧ stop' = .ok stop := by
  rw [h, bind_eq_ok_iff]
  constructor
  · rintro ⟨s₁, hs₁, hstop⟩
    obtain ⟨stop₁, hstop, heq⟩ := bind_eq_ok_iff.1 hstop
    cases heq
    exact ⟨hs₁, hstop⟩
  · rintro ⟨hs', rfl⟩
    exact ⟨s', hs', rfl⟩

theorem takeOptions_pathsNonempty (hs : s.PathsNonempty)
    (h : takeOptions known s args = .ok (s', stop)) : s'.PathsNonempty := by
  obtain ⟨given, _, hgives⟩ := exists_gives known args
  refine foldlM_invariant (fun s e s' hs h => ?_) hs (hgives.eq_ok_iff.1 h).1
  exact (addOption_eq_ok_iff.1 h).pathsNonempty hs

theorem takeOptions_frame (h : takeOptions known s args = .ok (s', stop)) (hs' : s'.config = none)
    (path : Option String) :
    takeOptions known { s with config := path } args = .ok ({ s' with config := path }, stop) := by
  obtain ⟨given, _, hgives⟩ := exists_gives known args
  obtain ⟨hgiven, hstop⟩ := hgives.eq_ok_iff.1 h
  exact hgives.eq_ok_iff.2 ⟨(Settings.addAll_frame hgiven hs' path).2, hstop⟩

/-! ## Commands -/

theorem Settings.pathsNonempty_default : ({} : Settings).PathsNonempty :=
  ⟨nofun, nofun⟩

theorem readOptions_pathsNonempty (hs : s.PathsNonempty) (h : readOptions known s args = .ok s') :
    s'.PathsNonempty := by
  obtain ⟨⟨s₁, stop⟩, htake, h⟩ := bind_eq_ok_iff.1 h
  have hs₁ := takeOptions_pathsNonempty hs htake
  cases stop with
  | finished =>
    cases h
    exact hs₁
  | plain text rest => cases h
  | escaped rest =>
    obtain ⟨_, -, h⟩ := bind_eq_ok_iff.1 h
    cases h
    exact hs₁

theorem readQuery_pathsNonempty {query : String} (h : readQuery known args = .ok (s, query)) :
    s.PathsNonempty := by
  obtain ⟨⟨s₁, stop⟩, htake, h⟩ := bind_eq_ok_iff.1 h
  have hs₁ := takeOptions_pathsNonempty Settings.pathsNonempty_default htake
  cases stop with
  | finished => cases h
  | plain text rest =>
    obtain ⟨s₂, hrest, h⟩ := bind_eq_ok_iff.1 h
    cases h
    exact readOptions_pathsNonempty hs₁ hrest
  | escaped rest =>
    cases rest with
    | nil => cases h
    | cons text rest =>
      obtain ⟨_, -, h⟩ := bind_eq_ok_iff.1 h
      cases h
      exact hs₁

theorem readCommand_pathsNonempty {c : CommandName} {command : Command}
    (h : readCommand c args = .ok (s, command)) : s.PathsNonempty := by
  cases c with
  | parse =>
    obtain ⟨⟨s₁, query⟩, hread, h⟩ := bind_eq_ok_iff.1 h
    obtain ⟨save, -, h⟩ := bind_eq_ok_iff.1 h
    cases h
    exact readQuery_pathsNonempty hread
  | summary =>
    obtain ⟨⟨s₁, query⟩, hread, h⟩ := bind_eq_ok_iff.1 h
    cases h
    exact readQuery_pathsNonempty hread
  | lexicon =>
    obtain ⟨s₁, hread, h⟩ := bind_eq_ok_iff.1 h
    cases h
    exact readOptions_pathsNonempty Settings.pathsNonempty_default hread
  | checkConfig =>
    obtain ⟨s₁, hread, h⟩ := bind_eq_ok_iff.1 h
    cases h
    exact readOptions_pathsNonempty Settings.pathsNonempty_default hread

/-! ## Command lines -/

theorem readHelp_ne_ok {α : Type} (args : List String) (a : α) : readHelp args ≠ .ok a := by
  intro h
  cases args with
  | nil => cases h
  | cons first rest =>
    simp only [readHelp] at h
    split at h
    · cases rest <;> cases h
    · cases h

theorem readInvocation_eq_ok_iff {i : Invocation} :
    readInvocation args = .ok i ↔ ∃ outer name rest c inner command,
      takeOptions .top {} args = .ok (outer, .plain name rest) ∧ name ≠ "help" ∧
      CommandName.all.find? (·.text == name) = some c ∧
      readCommand c rest = .ok (inner, command) ∧
      i = ⟨inner.config <|> outer.config, inner.logDir <|> outer.logDir, command⟩ := by
  rw [readInvocation, bind_eq_ok_iff]
  constructor
  · rintro ⟨⟨outer, stop⟩, htake, h⟩
    cases stop with
    | finished => cases h
    | plain name rest =>
      simp only at h
      split at h
      · exact absurd h (readHelp_ne_ok rest i)
      · rename_i hname
        split at h
        · cases h
        · rename_i c hfind
          obtain ⟨⟨inner, command⟩, hread, h⟩ := bind_eq_ok_iff.1 h
          cases h
          exact ⟨outer, name, rest, c, inner, command, htake, hname, hfind, hread, rfl⟩
    | escaped rest => cases rest <;> cases h
  · rintro ⟨outer, name, rest, c, inner, command, htake, hname, hfind, hread, rfl⟩
    refine ⟨_, htake, ?_⟩
    simp only [if_neg hname, hfind, hread]
    rfl

theorem Request.read_eq_invoke_iff {i : Invocation} :
    Request.read args = .ok (.invoke i) ↔ readInvocation args = .ok i := by
  rw [Request.read]
  cases readInvocation args with
  | ok i' => simp
  | error e => cases e <;> simp

theorem Invocation.config_ne_empty {i : Invocation} (h : Request.read args = .ok (.invoke i)) :
    i.config ≠ some "" := by
  obtain ⟨outer, name, rest, c, inner, command, htake, -, -, hread, rfl⟩ :=
    readInvocation_eq_ok_iff.1 (Request.read_eq_invoke_iff.1 h)
  have houter := (takeOptions_pathsNonempty Settings.pathsNonempty_default htake).1
  have hinner := (readCommand_pathsNonempty hread).1
  cases hconfig : inner.config with
  | none => simpa [hconfig] using houter
  | some path => simpa [hconfig] using hinner

/-! ## Naming a configuration -/

/-- The option that names a configuration. -/
def configArgs (path : Option String) : List String :=
  path.toList.map ("--config=" ++ ·)

theorem argument_of_configArg (path : String) :
    Argument.of ("--config=" ++ path) = .long "config" (some path) := by
  have htext : ("--config=" ++ path).toList = "--config=".toList ++ path.toList :=
    String.toList_append
  rw [Argument.of, htext]
  simp [Argument.ofLong]

theorem takeOptions_configArgs {path : Option String} (hpath : path ≠ some "")
    (args : List String) :
    takeOptions .top {} (configArgs path ++ args) = takeOptions .top { config := path } args := by
  cases path with
  | none => rfl
  | some path =>
    have hadd : addOption {} .config path = .ok { config := some path } :=
      addOption_eq_ok_iff.2 (.config path rfl (by simpa using hpath))
    rw [configArgs, Option.toList_some, List.map_singleton, List.singleton_append, takeOptions,
      argument_of_configArg]
    show (do takeOptions .top (← addOption {} .config path) args) = _
    rw [hadd]
    rfl

theorem Request.read_configArgs_append {i : Invocation} {path : Option String}
    (h : Request.read args = .ok (.invoke i)) (hi : i.config = none) (hpath : path ≠ some "") :
    Request.read (configArgs path ++ args) = .ok (.invoke { i with config := path }) := by
  obtain ⟨outer, name, rest, c, inner, command, htake, hname, hfind, hread, rfl⟩ :=
    readInvocation_eq_ok_iff.1 (Request.read_eq_invoke_iff.1 h)
  obtain ⟨hinner, houter⟩ : inner.config = none ∧ outer.config = none := by
    simpa using hi
  rw [Request.read_eq_invoke_iff, readInvocation_eq_ok_iff]
  refine ⟨{ outer with config := path }, name, rest, c, inner, command, ?_, hname, hfind, hread, ?_⟩
  · rw [takeOptions_configArgs hpath]
    exact takeOptions_frame htake houter path
  · rw [hinner]
    rfl

end ReportPlan.CommandLine
