import ReportPlan.Proofs.CommandLine.Acceptance

/-! # What counts more

A value of the environment counts more than the text of a configuration, and the text counts more
than the defaults. This is so wherever the text stands: in a file that is named, or in the one under
the home directory.

* `Config.modeValue?`: what a text sets the match mode to, if it does.
* `Config.ofToml?_mode`: the mode of a text that sets none is the default one.
* `Config.overrideAll_eq`: of several values, the last one that names a mode counts.
* `Surroundings.AgreeApartFromFiles`: two runs that may find their files in different places.
* `config_precedence`: what counts more, and that a text has the same effect in either place.
-/

set_option autoImplicit false

namespace ReportPlan
namespace Config

/-! ## The mode of a text -/

/-- The value that a table has for the match mode. -/
def modeValue? (entries : List (String × Toml)) : Option Toml := do
  let fields ← (← Toml.lookup? "matching" entries).fields? ["mode"]
  fields.head?.join

theorem ofToml?_mode {entries : List (String × Toml)} {c : Config} (h : ofToml? entries = some c) :
    (modeValue? entries = none ∧ c.mode = .substring) ∨
      ∃ t, modeValue? entries = some t ∧ MatchMode.ofToml? t = some c.mode := by
  simp only [ofToml?, Option.bind_eq_bind, Option.bind_eq_some_iff, Option.some.injEq] at h
  obtain ⟨mode, hmode, pretty, -, level, -, lexicon, -, rfl⟩ := h
  cases hsection : Toml.lookup? "matching" entries with
  | none =>
    rw [hsection] at hmode
    cases hmode
    exact .inl ⟨by simp [modeValue?, hsection], rfl⟩
  | some t =>
    rw [hsection] at hmode
    simp only [Toml.orDefault?, modeOfToml?] at hmode
    split at hmode
    · rename_i field hfields
      have hentry : modeValue? entries = field := by simp [modeValue?, hsection, hfields]
      cases field with
      | none =>
        cases hmode
        exact .inl ⟨hentry, rfl⟩
      | some t => exact .inr ⟨t, hentry, hmode⟩
    · cases hmode

/-! ## Values of the environment -/

/-- The mode that the last of several values names, apart from those that name none. -/
def lastNamed? (values : List (Option String)) : Option MatchMode :=
  (values.filterMap fun value => value.bind MatchMode.ofName?).getLast?

theorem lastNamed?_cons (value : Option String) (values : List (Option String)) :
    lastNamed? (value :: values) = (lastNamed? values).or (value.bind MatchMode.ofName?) := by
  rw [lastNamed?, List.filterMap_cons]
  cases value.bind MatchMode.ofName? with
  | none => exact Option.or_none.symm
  | some mode =>
    simp only [List.getLast?_cons, lastNamed?]
    cases (values.filterMap fun value => value.bind MatchMode.ofName?).getLast? <;> rfl

theorem override_eq (c : Config) (value : Option String) :
    c.override value = { c with mode := (value.bind MatchMode.ofName?).getD c.mode } := by
  rw [override]
  split
  · rename_i mode h
    rw [h]
    rfl
  · rename_i h
    rw [h]
    rfl

theorem overrideAll_eq (c : Config) (values : List (Option String)) :
    c.overrideAll values = { c with mode := (lastNamed? values).getD c.mode } := by
  induction values generalizing c with
  | nil => rfl
  | cons value values ih =>
    rw [overrideAll_cons, ih, override_eq, lastNamed?_cons]
    cases lastNamed? values <;> rfl

end Config

/-! ## Where the text stands -/

namespace CommandLine

/-- Surroundings that differ at most in their files and in the home directory. -/
structure Surroundings.AgreeApartFromFiles (w w' : Surroundings) : Prop where
  modeOverride : w.modeOverride = w'.modeOverride
  canHoldLogs : w.canHoldLogs = w'.canHoldLogs
  now : w.now = w'.now
  id : w.id = w'.id

/-- A text that stands in the file under the home directory. -/
def Surroundings.KeepsAtHome (w : Surroundings) (s : String) : Prop :=
  ∃ home, w.home = some home ∧ w.file (configFile home) = .text s

variable {w w' : Surroundings} {i : Invocation} {path s : String}

theorem Surroundings.loadConfig_named (hfile : w.file path = .text s) :
    w.loadConfig (some path) =
      ((Config.read .malformedFile s).map (·.override w.modeOverride)).mapError (.config path) := by
  rw [loadConfig, hfile, Config.load]

theorem Surroundings.loadConfig_home (h : w.KeepsAtHome s) :
    ∃ file, w.loadConfig none =
      ((Config.read .malformedFile s).map (·.override w.modeOverride)).mapError (.config file) := by
  obtain ⟨home, hhome, hfile⟩ := h
  refine ⟨configFile home, ?_⟩
  rw [loadConfig_of_home hhome, hfile, Config.loadOrDefault_text]

theorem Command.perform_congr (h : w.AgreeApartFromFiles w') (pretty : Bool) (c : Compiler)
    (command : Command) : command.perform w pretty c = command.perform w' pretty c := by
  cases command with
  | parse query now compact save => simp only [perform, h.now, h.id]
  | summary query now => simp only [perform, h.now]
  | lexicon => rfl
  | checkConfig => rfl

/-- Behind the configuration, a run does not look at files. -/
theorem Invocation.run_congr (h : w.AgreeApartFromFiles w') {config : Config}
    {path' : Option String}
    (hload : w.loadConfig path' = .ok config) (hload' : w'.loadConfig i.config = .ok config) :
    run w { i with config := path' } = run w' i := by
  have hperform : perform w config { i with config := path' } = perform w' config i := by
    simp only [perform, Command.perform_congr h]
  simp only [run, hload, hload', hperform, h.canHoldLogs]

theorem Invocation.run_named_eq_run_home (h : w.AgreeApartFromFiles w')
    (hfile : w.file path = .text s) (hhome : w'.KeepsAtHome s) (hi : i.config = none) :
    (run w { i with config := some path }).exitCode = (run w' i).exitCode ∧
      (run w { i with config := some path }).output = (run w' i).output := by
  have hload := Surroundings.loadConfig_named hfile
  obtain ⟨file, hload'⟩ := Surroundings.loadConfig_home hhome
  rw [← hi] at hload'
  rw [h.modeOverride] at hload
  cases hread : Config.read .malformedFile s with
  | ok c =>
    rw [hread] at hload hload'
    rw [run_congr h hload hload']
    exact ⟨rfl, rfl⟩
  | error e =>
    rw [hread] at hload hload'
    simp only [run, hload, hload']
    exact ⟨rfl, rfl⟩

/-- The mode is that of the last value of the environment that names one, else that of the text,
else the default one; nothing else of the text is touched. And a text has the same effect in a file
that is named as in the file under the home directory. -/
theorem config_precedence (s : String) :
    (∀ c, Config.ofText? s = some c →
      (∃ entries, Toml.ofDocument? s.toList = some entries ∧
        ((Config.modeValue? entries = none ∧ c.mode = .substring) ∨
          ∃ t, Config.modeValue? entries = some t ∧ MatchMode.ofToml? t = some c.mode)) ∧
      ∀ values, c.overrideAll values =
        { c with mode := (Config.lastNamed? values).getD c.mode }) ∧
    ∀ (w w' : Surroundings) (path : String), w.AgreeApartFromFiles w' →
      w.file path = .text s → w'.KeepsAtHome s →
      ∀ (i : Invocation) (args' : List String), Request.read args' = .ok (.invoke i) →
        i.config = none →
        (∀ args, Request.read args = .ok (.invoke { i with config := some path }) →
          (run w args).exitCode = (run w' args').exitCode ∧
            (run w args).output = (run w' args').output) ∧
        (path ≠ "" → Request.read (("--config=" ++ path) :: args') =
          .ok (.invoke { i with config := some path })) := by
  refine ⟨fun c hc => ⟨?_, c.overrideAll_eq⟩, ?_⟩
  · obtain ⟨entries, hentries, htoml⟩ := Option.bind_eq_some_iff.1 hc
    exact ⟨entries, hentries, Config.ofToml?_mode htoml⟩
  · intro w w' path hagree hfile hhome i args' hread' hi
    refine ⟨fun args hread => ?_, fun hpath => ?_⟩
    · rw [run_of_read hread, run_of_read hread']
      exact Invocation.run_named_eq_run_home hagree hfile hhome hi
    · have hnonempty : some path ≠ some "" := by simpa using hpath
      exact Request.read_configArgs_append hread' hi hnonempty

/-- A text that asks for whole words, in a named file and under the home directory. -/
theorem config_precedence_wholeWords :
    let s := "[matching]\nmode = \"word_boundary\"\n"
    let w : Surroundings :=
      { file := fun path => if path = "/q.toml" then .text s else .missing
        home := none
        modeOverride := some "phrase"
        canHoldLogs := fun _ => false
        now := .startOf ⟨2026, 10, 19, by decide, by decide, by decide⟩
        id := ⟨0, by decide⟩ }
    let w' : Surroundings :=
      { w with
        file := fun path => if path = "/home/u/.reportql/config.toml" then .text s else .missing
        home := some "/home/u" }
    (∃ c, Config.ofText? s = some c ∧ c.mode = .wordBoundary ∧
      (c.overrideAll [some " Substring", none, some "phrase"]).mode = .substring) ∧
    (run w ["--config=/q.toml", "summary", "unsettled swaps"]).output =
      (run w' ["summary", "unsettled swaps"]).output := by
  intro s w w'
  obtain ⟨hmode, hrun⟩ := config_precedence s
  have hconfig : (Config.ofText? s).map (·.mode) = some .wordBoundary := by decide +kernel
  obtain ⟨c, hc, hcmode⟩ := Option.map_eq_some_iff.1 hconfig
  have hread : Request.read ["summary", "unsettled swaps"] =
      .ok (.invoke ⟨none, none, .summary "unsettled swaps" none⟩) :=
    toOption_eq_some_iff.1 (by decide +kernel)
  obtain ⟨hsame, hnamed⟩ := hrun w w' "/q.toml" ⟨rfl, rfl, rfl, rfl⟩ rfl ⟨"/home/u", rfl, rfl⟩ _ _
    hread rfl
  have hlast : Config.lastNamed? [some " Substring", none, some "phrase"] = some .substring := by
    decide +kernel
  refine ⟨⟨c, hc, hcmode, ?_⟩, (hsame _ (hnamed (by decide))).2⟩
  rw [(hmode c hc).2, hlast]
  rfl

end CommandLine
end ReportPlan
