import ReportPlan.CommandLine.Run
import ReportPlan.Proofs.CommandLine.Reading
import ReportPlan.Proofs.Lexicon.Faults

/-! # Which runs are accepted

A run that logs nowhere fails exactly if there is no configuration or its lexicon is refused, and
then it prints nothing. This does not depend on the command, so checking a configuration tells of
every run with it whether it fails.

* `Surroundings.Finds`: the configuration that a run finds, before the environment has its say.
* `Surroundings.refusal?`: why a run fails, if it does.
* `failure?_result_run`: a run that logs nowhere fails for that reason and no other.
* `run_accepted_iff`: checking a configuration predicts every run.
-/

set_option autoImplicit false

namespace ReportPlan

/-! ## Finding a configuration -/

namespace Config

variable {file : FileState} {c : Config}

theorem load_eq_ok_iff : load file = .ok c ↔ ∃ s, file = .text s ∧ ofText? s = some c := by
  cases file with
  | missing => simp [load]
  | unreadable => simp [load]
  | text s => cases hs : ofText? s <;> simp [load, read, hs]

theorem loadOrDefault_text (s : String) : loadOrDefault (.text s) = read .malformedFile s := rfl

theorem loadOrDefault_eq_ok_iff :
    loadOrDefault file = .ok c ↔
      (file = .missing ∧ c = {}) ∨ ∃ s, file = .text s ∧ ofText? s = some c := by
  rw [← load_eq_ok_iff]
  cases file with
  | missing => simp [loadOrDefault, load, eq_comm]
  | unreadable => simp [loadOrDefault]
  | text s => simp [loadOrDefault]

end Config

namespace CommandLine

/-- The configuration that a run finds: that of a named file, that of the file under the home
directory, or the default one where no file is named and there is none under the home directory. -/
inductive Surroundings.Finds (w : Surroundings) : Option String → Config → Prop where
  | named (path s : String) (c : Config) (hfile : w.file path = .text s)
      (htext : Config.ofText? s = some c) : Finds w (some path) c
  | home (home s : String) (c : Config) (hhome : w.home = some home)
      (hfile : w.file (configFile home) = .text s) (htext : Config.ofText? s = some c) :
      Finds w none c
  | missing (home : String) (hhome : w.home = some home)
      (hfile : w.file (configFile home) = .missing) : Finds w none {}
  | homeless (hhome : w.home = none) : Finds w none {}

variable {w w' : Surroundings} {path : Option String}

theorem Surroundings.loadConfig_of_home {home : String} (hhome : w.home = some home) :
    w.loadConfig none = ((Config.loadOrDefault (w.file (configFile home))).map
      (·.override w.modeOverride)).mapError (.config (configFile home)) := by
  simp only [loadConfig, hhome]

theorem Surroundings.loadConfig_eq_ok_iff {c' : Config} :
    w.loadConfig path = .ok c' ↔ ∃ c, w.Finds path c ∧ c' = c.override w.modeOverride := by
  constructor
  · intro h
    cases path with
    | some path =>
      obtain ⟨c, hload, rfl⟩ := map_eq_ok_iff.1 (mapError_eq_ok_iff.1 h)
      obtain ⟨s, hfile, htext⟩ := Config.load_eq_ok_iff.1 hload
      exact ⟨c, .named path s c hfile htext, rfl⟩
    | none =>
      cases hhome : w.home with
      | some home =>
        rw [loadConfig_of_home hhome] at h
        obtain ⟨c, hload, rfl⟩ := map_eq_ok_iff.1 (mapError_eq_ok_iff.1 h)
        rcases Config.loadOrDefault_eq_ok_iff.1 hload with ⟨hfile, rfl⟩ | ⟨s, hfile, htext⟩
        · exact ⟨{}, .missing home hhome hfile, rfl⟩
        · exact ⟨c, .home home s c hhome hfile htext, rfl⟩
      | none =>
        simp only [loadConfig, hhome] at h
        cases h
        exact ⟨{}, .homeless hhome, rfl⟩
  · rintro ⟨c, hfinds, rfl⟩
    cases hfinds with
    | named path s _ hfile htext =>
      have hload := Config.load_eq_ok_iff.2 ⟨s, hfile, htext⟩
      exact mapError_eq_ok_iff.2 (map_eq_ok_iff.2 ⟨c, hload, rfl⟩)
    | home home s _ hhome hfile htext =>
      have hload := Config.loadOrDefault_eq_ok_iff.2 (.inr ⟨s, hfile, htext⟩)
      rw [loadConfig_of_home hhome]
      exact mapError_eq_ok_iff.2 (map_eq_ok_iff.2 ⟨c, hload, rfl⟩)
    | missing home hhome hfile =>
      have hload := Config.loadOrDefault_eq_ok_iff.2 (.inl ⟨hfile, rfl⟩)
      rw [loadConfig_of_home hhome]
      exact mapError_eq_ok_iff.2 (map_eq_ok_iff.2 ⟨{}, hload, rfl⟩)
    | homeless hhome =>
      simp only [loadConfig, hhome]

theorem exists_compilerOf_iff {c : Config} :
    (∃ compiler, compilerOf c = .ok compiler) ↔ ¬c.lexicon.IsFaulty := by
  rw [← exists_extend_iff]
  constructor
  · rintro ⟨compiler, h⟩
    obtain ⟨l, hl, -⟩ := bind_eq_ok_iff.1 (mapError_eq_ok_iff.1 h)
    exact ⟨l, hl⟩
  · rintro ⟨l, hl⟩
    exact ⟨⟨l, c.mode⟩, mapError_eq_ok_iff.2 (bind_eq_ok_iff.2 ⟨l, hl, rfl⟩)⟩

/-! ## Why a run fails -/

/-- Why a run with a configuration fails, whatever its command is. -/
def Surroundings.refusal? (w : Surroundings) (path : Option String) : Option Failure :=
  failure? (do compilerOf (← w.loadConfig path))

theorem Surroundings.refusal?_eq_none_iff :
    w.refusal? path = none ↔ ∃ c, w.Finds path c ∧ ¬c.lexicon.IsFaulty := by
  rw [refusal?, failure?_eq_none_iff]
  -- the environment has its say on the mode only, so the lexicon is that of the text
  simp only [bind_eq_ok_iff]
  constructor
  · rintro ⟨compiler, c', hload, hcompiler⟩
    obtain ⟨c, hfinds, rfl⟩ := loadConfig_eq_ok_iff.1 hload
    refine ⟨c, hfinds, ?_⟩
    rw [← c.override_lexicon w.modeOverride]
    exact exists_compilerOf_iff.1 ⟨compiler, hcompiler⟩
  · rintro ⟨c, hfinds, hlexicon⟩
    rw [← c.override_lexicon w.modeOverride] at hlexicon
    obtain ⟨compiler, hcompiler⟩ := exists_compilerOf_iff.2 hlexicon
    exact ⟨compiler, _, loadConfig_eq_ok_iff.2 ⟨c, hfinds, rfl⟩, hcompiler⟩

theorem Surroundings.exitCode_of_loadConfig {e : Failure} (h : w.loadConfig path = .error e) :
    e.exitCode = 1 := by
  rw [← failure?_eq_some_iff, loadConfig.eq_def] at h
  split at h
  · rw [failure?_mapError, Option.map_eq_some_iff] at h
    obtain ⟨_, -, rfl⟩ := h
    rfl
  · rw [failure?_mapError, Option.map_eq_some_iff] at h
    obtain ⟨_, -, rfl⟩ := h
    rfl
  · cases h

theorem exitCode_of_compilerOf {c : Config} {e : Failure} (h : compilerOf c = .error e) :
    e.exitCode = 1 := by
  rw [← failure?_eq_some_iff, compilerOf, failure?_mapError, Option.map_eq_some_iff] at h
  obtain ⟨_, -, rfl⟩ := h
  rfl

theorem Surroundings.exitCode_of_refusal? {e : Failure} (h : w.refusal? path = some e) :
    e.exitCode = 1 := by
  rw [refusal?] at h
  cases hload : w.loadConfig path with
  | error e' =>
    rw [hload] at h
    cases h
    exact exitCode_of_loadConfig hload
  | ok c =>
    rw [hload] at h
    exact exitCode_of_compilerOf (failure?_eq_some_iff.1 h)

theorem Surroundings.refusal?_congr (hfile : w'.file = w.file) (hhome : w'.home = w.home)
    (hmode : w'.modeOverride = w.modeOverride) (path : Option String) :
    w'.refusal? path = w.refusal? path := by
  rw [refusal?, refusal?, loadConfig.eq_def, loadConfig.eq_def, hfile, hhome, hmode]

/-! ## Runs -/

variable {args : List String} {i : Invocation}

theorem run_of_read (h : Request.read args = .ok (.invoke i)) :
    run w args = i.run w := by
  rw [run, h]

theorem failure?_result_run (hread : Request.read args = .ok (.invoke i)) (hlog : i.logDir = none) :
    failure? (run w args).result = w.refusal? i.config := by
  rw [run_of_read hread]
  simp only [Invocation.run, Surroundings.refusal?]
  cases w.loadConfig i.config with
  | error e => rfl
  | ok c =>
    simp only [hlog]
    rw [failure?_map, Invocation.perform, failure?_bind_pure]
    rfl

theorem Outcome.exitCode_eq_zero_iff_failure? (o : Outcome) :
    o.exitCode = 0 ↔ failure? o.result = none := by
  rw [o.exitCode_eq_zero_iff, failure?_eq_none_iff]

theorem read_checkConfig (hi : i.config ≠ some "") :
    Request.read (configArgs i.config ++ ["check-config"]) =
      .ok (.invoke ⟨i.config, none, .checkConfig⟩) := by
  have hplain : Request.read ["check-config"] = .ok (.invoke ⟨none, none, .checkConfig⟩) := by
    rfl
  exact Request.read_configArgs_append hplain rfl hi

/-- Checking a configuration predicts every run with it that logs nowhere. The run goes well exactly
if a configuration is found whose lexicon has no fault; otherwise it ends with code 1 and prints
nothing. -/
theorem run_accepted_iff (hread : Request.read args = .ok (.invoke i)) (hlog : i.logDir = none)
    (hfile : w'.file = w.file) (hhome : w'.home = w.home)
    (hmode : w'.modeOverride = w.modeOverride) :
    ((run w args).exitCode = 0 ↔
        (run w' (configArgs i.config ++ ["check-config"])).exitCode = 0) ∧
      (∀ checkArgs,
        Request.read checkArgs = .ok (.invoke ⟨i.config, none, .checkConfig⟩) →
          ((run w args).exitCode = 0 ↔ (run w' checkArgs).exitCode = 0)) ∧
      ((run w args).exitCode = 0 ↔ ∃ c, w.Finds i.config c ∧ ¬c.lexicon.IsFaulty) ∧
      ((run w args).exitCode ≠ 0 → (run w args).exitCode = 1 ∧ (run w args).output = "") := by
  have hrun : failure? (run w args).result = w.refusal? i.config := failure?_result_run hread hlog
  have hcheck : ∀ checkArgs,
      Request.read checkArgs = .ok (.invoke ⟨i.config, none, .checkConfig⟩) →
        ((run w args).exitCode = 0 ↔ (run w' checkArgs).exitCode = 0) := by
    intro checkArgs hcheckArgs
    rw [Outcome.exitCode_eq_zero_iff_failure?, Outcome.exitCode_eq_zero_iff_failure?, hrun,
      failure?_result_run hcheckArgs rfl, Surroundings.refusal?_congr hfile hhome hmode]
  -- a check is a run as well, and why a run fails does not depend on its command
  refine ⟨hcheck _ (read_checkConfig (Invocation.config_ne_empty hread)), hcheck, ?_, ?_⟩
  · rw [Outcome.exitCode_eq_zero_iff_failure?, hrun, Surroundings.refusal?_eq_none_iff]
  · intro hfails
    have hrefused : w.refusal? i.config ≠ none := by
      rwa [ne_eq, Outcome.exitCode_eq_zero_iff_failure?, hrun] at hfails
    obtain ⟨e, he⟩ := Option.ne_none_iff_exists'.1 hrefused
    have hresult : (run w args).result = .error e := by
      rw [← failure?_eq_some_iff, hrun, he]
    refine ⟨?_, Outcome.output_of_error hresult⟩
    rw [Outcome.exitCode, hresult]
    exact Surroundings.exitCode_of_refusal? he

/-- A metric without fields, in the file under the home directory, makes a summary fail as it makes
the check fail. -/
theorem run_accepted_fieldlessMetric :
    let text := "[lexicon.metrics]\nmtm = []\n"
    let w : Surroundings :=
      { file := fun path => if path = "/home/u/.reportql/config.toml" then .text text else .missing
        home := some "/home/u"
        modeOverride := some "word"
        canHoldLogs := fun _ => false
        now := .startOf ⟨2026, 10, 19, by decide, by decide, by decide⟩
        id := ⟨0, by decide⟩ }
    (run w ["summary", "mtm above 2m"]).exitCode = 1 ∧
      (run w ["summary", "mtm above 2m"]).output = "" ∧ (run w ["check-config"]).exitCode ≠ 0 := by
  intro text w
  have hread : Request.read ["summary", "mtm above 2m"] =
      .ok (.invoke ⟨none, none, .summary "mtm above 2m" none⟩) :=
    toOption_eq_some_iff.1 (by decide +kernel)
  have htext : (Config.ofText? text).map (·.lexicon.metrics.entries) = some [("mtm", [])] := by
    decide +kernel
  obtain ⟨hcheck, -, hzero, hone⟩ :=
    @run_accepted_iff w w _ _ hread rfl rfl rfl rfl
  have hfails : (run w ["summary", "mtm above 2m"]).exitCode ≠ 0 := by
    rw [ne_eq, hzero]
    rintro ⟨c, hfinds, hsound⟩
    cases hfinds with
    | home home s _ hhome hfile hs =>
      cases hhome
      cases hfile
      rw [hs] at htext
      have hentries : c.lexicon.metrics.entries = [("mtm", [])] := by simpa using htext
      exact hsound (.metric ("mtm", []) (by simp [hentries]) (.inr (.inl rfl)))
    | missing home hhome hfile =>
      cases hhome
      cases hfile
    | homeless hhome => cases hhome
  exact ⟨(hone hfails).1, (hone hfails).2, fun h => hfails (hcheck.2 h)⟩

end CommandLine
end ReportPlan
