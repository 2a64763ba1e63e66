import CSO.EvaluationRunner.Baseline
import Mathlib.Data.List.ProdSigma

/-! What a comparison accounts for. -/
namespace CSO.EvaluationRunner
open Python (dictGet dictKeys SameKeys sorted)

/-- A value the model of a run admits. -/
abbrev AcceptedRun := {run : EvaluationRun // run.Admitted}

section

variable {run : EvaluationRun}

/-- There are as many trials as keys expected of them, so none has the key of another. -/
theorem trialKeys_nodup (h : run.Admitted) : (run.trials.map TrialResult.key).Nodup := by
  have hmembers : ∀ key, key ∈ (run.trials.map TrialResult.key).dedup ↔
      key ∈ (expectedRepetitions run.datasetCaseIds run.repetitions).dedup := by
    intro key
    rw [List.mem_dedup, List.mem_dedup]
    exact ⟨h.trialsValid.expected key, h.trialsValid.actual key⟩
  have hperm := (List.perm_ext_iff_of_nodup (List.nodup_dedup _) (List.nodup_dedup _)).mpr hmembers
  have hlength : (run.trials.map TrialResult.key).dedup.length =
      (run.trials.map TrialResult.key).length := by
    rw [hperm.length_eq, List.length_map, h.trialsValid.count]
  rw [← (List.dedup_sublist _).eq_of_length hlength]
  exact List.nodup_dedup _

theorem indexTrials_keys (run : EvaluationRun) :
    (indexTrials run).map Prod.fst = run.trials.map TrialResult.lexKey := List.map_map

theorem lexKeys_nodup (h : run.Admitted) : (run.trials.map TrialResult.lexKey).Nodup := by
  have hkeys := (trialKeys_nodup h).map toLex.injective
  rw [List.map_map] at hkeys
  exact hkeys

theorem dictGet_indexTrials (h : run.Admitted) {trial : TrialResult} (htrial : trial ∈ run.trials) :
    dictGet (indexTrials run) trial.lexKey = some trial := by
  refine Python.dictGet_of_mem ?_ (List.mem_map_of_mem htrial)
  rw [indexTrials_keys]
  exact lexKeys_nodup h

theorem mem_indexGrades {trialKeys : List TrialKey} {key : GradeKey} {result : GraderResult} :
    (key, result) ∈ indexGrades run trialKeys ↔ ∃ trial ∈ run.trials, trial.lexKey ∈ trialKeys ∧
      result ∈ trial.graderResults ∧ key = gradeKey trial result := by
  rw [indexGrades, List.mem_flatMap]
  constructor
  · rintro ⟨trial, htrial, hmem⟩
    obtain ⟨other, hother, heq⟩ := List.mem_map.mp hmem
    cases heq
    have hfilter := List.mem_filter.mp htrial
    exact ⟨trial, hfilter.1, of_decide_eq_true hfilter.2, hother, rfl⟩
  · rintro ⟨trial, htrial, hkey, hresult, rfl⟩
    exact ⟨trial, List.mem_filter.mpr ⟨htrial, decide_eq_true hkey⟩, List.mem_map_of_mem hresult⟩

theorem gradeKey_inj {trial trial' : TrialResult} {result result' : GraderResult}
    (h : gradeKey trial result = gradeKey trial' result') :
    trial.lexKey = trial'.lexKey ∧ result.identity = result'.identity := by
  have hpair := Prod.mk.inj (toLex.injective h)
  exact ⟨hpair.1, toLex.injective hpair.2⟩

/-- A grader grades a trial once. -/
theorem gradeKeys_nodup (h : run.Admitted) (trialKeys : List TrialKey) :
    ((indexGrades run trialKeys).map Prod.fst).Nodup := by
  have hkeys : (indexGrades run trialKeys).map Prod.fst =
      (run.trials.filter (·.lexKey ∈ trialKeys)).flatMap fun trial =>
        trial.graderResults.map (gradeKey trial) := by
    rw [indexGrades, List.map_flatMap]
    refine List.flatMap_congr fun trial _ => ?_
    rw [List.map_map]
    rfl
  rw [hkeys, List.nodup_flatMap]
  constructor
  · intro trial htrial
    have hidentities := (h.trials trial (List.mem_of_mem_filter htrial)).graderIdentities
    refine List.Nodup.of_map (fun key : GradeKey => ofLex (ofLex key).2) ?_
    rw [List.map_map]
    exact hidentities
  · have hlex := List.pairwise_map.mp (lexKeys_nodup h)
    refine (hlex.sublist List.filter_sublist).imp fun {trial trial'} hne key hkey hkey' => hne ?_
    obtain ⟨result, -, rfl⟩ := List.mem_map.mp hkey
    obtain ⟨result', -, heq⟩ := List.mem_map.mp hkey'
    exact (gradeKey_inj heq).1.symm

end

/-! What an alignment holds. -/

section

variable {baseline candidate : EvaluationRun} {alignment : Alignment}

def comparableKeys (alignment : Alignment) : List TrialKey :=
  alignment.changes.filterMap TrialChange.comparable?

theorem alignRuns_ok (h : alignRuns baseline candidate = .ok alignment) :
    SameKeys (dictKeys (indexTrials baseline)) (dictKeys (indexTrials candidate)) ∧
      List.Forall₂ (fun key change => compareTrial baseline candidate key = .ok change)
        (sorted (dictKeys (indexTrials baseline))) alignment.changes ∧
      SameKeys (dictKeys (indexGrades baseline (comparableKeys alignment)))
        (dictKeys (indexGrades candidate (comparableKeys alignment))) ∧
      alignment.grades = (sorted (dictKeys (indexGrades baseline (comparableKeys alignment)))).filterMap
        (gradePair (indexGrades baseline (comparableKeys alignment))
          (indexGrades candidate (comparableKeys alignment))) ∧
      ∀ grade ∈ alignment.grades, grade.2.1.blocking = grade.2.2.blocking := by
  rw [alignRuns] at h
  split_ifs at h with hdataset hcases hversion htrials
  obtain ⟨changes, hchanges, h⟩ := Results.bind_eq_ok.mp h
  dsimp only at h
  split_ifs at h with hgrades hblocking
  cases h
  refine ⟨htrials, Results.mapM_eq_ok.mp hchanges, hgrades, rfl,
    fun grade hgrade => ?_⟩
  by_contra hdiffer
  exact hblocking (List.any_eq_true.mpr ⟨grade, hgrade, bne_iff_ne.mpr hdiffer⟩)

/-- A trial the candidate does not pass, or for which its system failed. -/
theorem accounted (hbaseline : baseline.Admitted) (hcandidate : candidate.Admitted)
    (h : alignRuns baseline candidate = .ok alignment) {trial trial' : TrialResult}
    (htrial : trial ∈ baseline.trials) (htrial' : trial' ∈ candidate.trials)
    (hkey : trial'.lexKey = trial.lexKey) (hpassed : trial.passed = true)
    (hfailed : trial'.passed = false) :
    (∃ change ∈ alignment.report.systemErrorRegressions, change.key = trial.lexKey) ∨
      ∃ regression ∈ alignment.report.blockingRegressions, ∃ result ∈ trial'.graderResults,
        regression.key = gradeKey trial' result := by
  obtain ⟨-, hchanges, hsame, hgrades, hblocking⟩ := alignRuns_ok h
  have hadmitted := hbaseline.trials trial htrial
  have hadmitted' := hcandidate.trials trial' htrial'
  have hmem : trial.lexKey ∈ sorted (dictKeys (indexTrials baseline)) :=
    Python.mem_sorted.mpr (Python.mem_dictKeys.mpr ⟨trial, List.mem_map_of_mem htrial⟩)
  obtain ⟨change, hchange, hcompared⟩ := Results.exists_of_forall₂ hchanges hmem
  have hget' : dictGet (indexTrials candidate) trial.lexKey = some trial' := by
    rw [← hkey]
    exact dictGet_indexTrials hcandidate htrial'
  rw [compareTrial, dictGet_indexTrials hbaseline htrial, hget'] at hcompared
  dsimp only at hcompared
  have hpayload := hadmitted.statusPayload
  have hpayload' := hadmitted'.statusPayload
  rw [TrialResult.StatusPayload] at hpayload hpayload'
  cases hstatus : trial.status with
  | systemError =>
    rw [hstatus] at hpayload
    rw [hpayload.2.2.1] at hpassed
    exact absurd hpassed Bool.false_ne_true
  | completed =>
    rw [hstatus] at hpayload hcompared
    cases hstatus' : trial'.status with
    | systemError =>
      rw [hstatus'] at hcompared
      cases hcompared
      exact .inl ⟨_, List.mem_filterMap.mpr ⟨_, hchange, rfl⟩, rfl⟩
    | completed =>
      rw [hstatus'] at hpayload' hcompared
      obtain ⟨sample, hsample⟩ := Option.isSome_iff_exists.mp hpayload.1
      obtain ⟨sample', hsample'⟩ := Option.isSome_iff_exists.mp hpayload'.1
      rw [hsample, hsample'] at hcompared
      dsimp only at hcompared
      split_ifs at hcompared
      cases hcompared
      have hcomparable : trial.lexKey ∈ comparableKeys alignment :=
        List.mem_filterMap.mpr ⟨_, hchange, rfl⟩
      -- The blocking grade that failed, and the one it had in the baseline.
      rw [hpayload'.2.2.2] at hfailed
      obtain ⟨result', hresult', hbad⟩ := List.all_eq_false.mp hfailed
      obtain ⟨hresult', hblocks'⟩ := List.mem_filter.mp hresult'
      have hentry' : (gradeKey trial' result', result') ∈
          indexGrades candidate (comparableKeys alignment) :=
        mem_indexGrades.mpr ⟨trial', htrial', by rw [hkey]; exact hcomparable, hresult', rfl⟩
      obtain ⟨result, hentry⟩ := Python.mem_dictKeys.mp
        (hsame.2 _ (Python.mem_dictKeys.mpr ⟨result', hentry'⟩))
      obtain ⟨other, hother, -, hresult, hsameKey⟩ := mem_indexGrades.mp hentry
      have hown : other = trial := by
        refine List.inj_on_of_nodup_map (lexKeys_nodup hbaseline) hother htrial ?_
        rw [← (gradeKey_inj hsameKey).1, hkey]
      have hpair : (gradeKey trial' result', result, result') ∈ alignment.grades := by
        rw [hgrades]
        refine List.mem_filterMap.mpr ⟨gradeKey trial' result', ?_, ?_⟩
        · exact Python.mem_sorted.mpr (Python.mem_dictKeys.mpr ⟨result, hentry⟩)
        · rw [gradePair, Python.dictGet_of_mem (gradeKeys_nodup hbaseline _) hentry,
            Python.dictGet_of_mem (gradeKeys_nodup hcandidate _) hentry']
      have hblocks : result.blocking = true := (hblocking _ hpair).trans hblocks'
      have hgood : result.passed = true := by
        rw [hpayload.2.2.2, blockingGradesPassed] at hpassed
        rw [hown] at hresult
        exact List.all_eq_true.mp hpassed result (List.mem_filter.mpr ⟨hresult, hblocks⟩)
      refine .inr ⟨⟨gradeKey trial' result'⟩, List.mem_filterMap.mpr ⟨_, hpair, ?_⟩, result',
        hresult', rfl⟩
      have hfails : result'.passed = false := Bool.eq_false_iff.mpr hbad
      rw [blockingRegression?]
      simp only [hblocks, hgood, hblocks', hfails, Bool.and_self, Bool.not_false, if_true]

/-- The candidate has a trial for each key of the baseline. -/
theorem trial_exists (h : alignRuns baseline candidate = .ok alignment) {trial : TrialResult}
    (htrial : trial ∈ baseline.trials) :
    ∃ trial' ∈ candidate.trials, trial'.lexKey = trial.lexKey := by
  have hmem := (alignRuns_ok h).1.1 trial.lexKey
    (Python.mem_dictKeys.mpr ⟨trial, List.mem_map_of_mem htrial⟩)
  obtain ⟨trial', hentry⟩ := Python.mem_dictKeys.mp hmem
  obtain ⟨other, hother, heq⟩ := List.mem_map.mp hentry
  have hkeys := Prod.mk.inj heq
  exact ⟨other, hother, hkeys.1⟩

theorem compareRuns_ok {comparison : RunComparison}
    (h : compareRuns baseline candidate = .ok comparison) :
    ∃ alignment, alignRuns baseline candidate = .ok alignment ∧ comparison = alignment.report := by
  rw [compareRuns] at h
  cases halign : alignRuns baseline candidate with
  | error message =>
    rw [halign] at h
    cases h
  | ok alignment =>
    rw [halign] at h
    cases h
    exact ⟨alignment, rfl, rfl⟩

end

/-- A comparison accounts for every trial that got worse, and the comparison in the opposite order
is accepted with it and says the opposite. -/
theorem compareRuns_accounts (baseline candidate : AcceptedRun) :
    ((∃ comparison, compareRuns baseline.1 candidate.1 = .ok comparison) ↔
        ∃ comparison, compareRuns candidate.1 baseline.1 = .ok comparison) ∧
      ∀ comparison, compareRuns baseline.1 candidate.1 = .ok comparison →
        (∀ trial ∈ baseline.1.trials, trial.passed = true → ∀ trial' ∈ candidate.1.trials,
          trial'.key = trial.key → trial'.passed = false →
            (∃ change ∈ comparison.systemErrorRegressions, change.key = trial.lexKey) ∨
              ∃ regression ∈ comparison.blockingRegressions, ∃ result ∈ trial'.graderResults,
                regression.key = gradeKey trial' result) ∧
        (comparison.systemErrorRegressions = [] → comparison.blockingRegressions = [] →
          ∀ trial ∈ baseline.1.trials, trial.passed = true →
            ∃ trial' ∈ candidate.1.trials, trial'.key = trial.key ∧ trial'.passed = true) ∧
        ∀ opposite, compareRuns candidate.1 baseline.1 = .ok opposite →
          opposite.systemErrorRecoveries = comparison.systemErrorRegressions ∧
            opposite.systemErrorRegressions = comparison.systemErrorRecoveries ∧
            opposite.semanticScoreDeltas =
              comparison.semanticScoreDeltas.map SemanticScoreDelta.negate := by
  have hswap := alignRuns_swap baseline.1 candidate.1
  constructor
  · rw [compareRuns, compareRuns, hswap]
    cases alignRuns baseline.1 candidate.1 with
    | error message => exact iff_of_false nofun nofun
    | ok alignment => exact iff_of_true ⟨_, rfl⟩ ⟨_, rfl⟩
  · intro comparison hcomparison
    obtain ⟨alignment, halign, rfl⟩ := compareRuns_ok hcomparison
    have haccounted : ∀ trial ∈ baseline.1.trials, trial.passed = true →
        ∀ trial' ∈ candidate.1.trials, trial'.key = trial.key → trial'.passed = false → _ :=
      fun trial htrial hpassed trial' htrial' hkey hfailed =>
        accounted baseline.2 candidate.2 halign htrial htrial' (congrArg toLex hkey) hpassed hfailed
    refine ⟨haccounted, fun hnoErrors hnoBlocks trial htrial hpassed => ?_,
      fun opposite hopposite => ?_⟩
    · obtain ⟨trial', htrial', hkey⟩ := trial_exists halign htrial
      refine ⟨trial', htrial', toLex.injective hkey, ?_⟩
      by_contra hfailed
      rcases haccounted trial htrial hpassed trial' htrial' (toLex.injective hkey)
        (Bool.eq_false_iff.mpr hfailed) with ⟨change, hchange, -⟩ | ⟨regression, hregression, -⟩
      · rw [hnoErrors] at hchange
        cases hchange
      · rw [hnoBlocks] at hregression
        cases hregression
    · obtain ⟨alignment', halign', rfl⟩ := compareRuns_ok hopposite
      rw [hswap, halign] at halign'
      cases halign'
      exact report_swap alignment

/-- The run of one case with one grade that blocks. -/
def gradedRun (passed : Bool) : EvaluationRun :=
  let trial : TrialResult :=
    { trialId := "trial-1"
      caseId := "c1"
      repetition := 1
      status := .completed
      passed := passed
      sample := some ⟨[("judge_model", "m")]⟩
      errorMessage := none
      graderResults := [⟨"policy", "v1", 1, passed, true, by decide, sample_version, by decide,
        by decide⟩] }
  { runId := "run"
    datasetId := "refunds"
    datasetVersion := "v1"
    datasetCaseIds := ["c1"]
    evaluationVersion := "v1"
    repetitions := 1
    trials := [trial]
    caseSummaries := [summarizeCase [trial] "c1"]
    summary := summarize [trial] [summarizeCase [trial] "c1"] 1 }

def passedRun : AcceptedRun := ⟨gradedRun true, by decide +kernel⟩

def failedRun : AcceptedRun := ⟨gradedRun false, by decide +kernel⟩

theorem passedRun_accounts : ∃ comparison, compareRuns passedRun.1 failedRun.1 = .ok comparison ∧
    ((∃ change ∈ comparison.systemErrorRegressions, change.key = toLex ("c1", 1)) ∨
      ∃ regression ∈ comparison.blockingRegressions, regression.key =
        toLex (toLex ("c1", 1), toLex ("policy", "v1"))) := by
  have hok : compareRuns passedRun.1 failedRun.1 = .ok
      ⟨[⟨toLex (toLex ("c1", 1), toLex ("policy", "v1"))⟩], [], [], []⟩ := by decide +kernel
  refine ⟨_, hok, ?_⟩
  have haccounts := ((compareRuns_accounts passedRun failedRun).2 _ hok).1
  rcases haccounts _ List.mem_cons_self rfl _ List.mem_cons_self rfl rfl with
    ⟨change, hchange, hkey⟩ | ⟨regression, hregression, result, hresult, hkey⟩
  · exact .inl ⟨change, hchange, hkey⟩
  · refine .inr ⟨regression, hregression, ?_⟩
    rw [hkey, List.mem_singleton.mp hresult]
    rfl

end CSO.EvaluationRunner
