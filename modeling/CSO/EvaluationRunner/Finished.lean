import CSO.EvaluationRunner.Runner
import Mathlib.Data.List.ProdSigma

/-! Which evaluations are finished: all but those with a case id of white space. -/
namespace CSO.EvaluationRunner

section

variable {dataset : EvaluationDataset} {system : EvaluatedSystem} {graders : List Grader}
  {repetitions : ℤ} {runId evaluationVersion : String} {trials : List TrialResult}

def caseIdsOf (dataset : EvaluationDataset) : List String :=
  dataset.cases.map EvaluationCase.caseId

theorem mem_tasksOf {n : ℕ} {task : EvaluationCase × ℕ} :
    task ∈ tasksOf dataset n ↔ task.1 ∈ dataset.cases ∧ 1 ≤ task.2 ∧ task.2 ≤ n := by
  rw [tasksOf, List.mem_flatMap]
  constructor
  · rintro ⟨case, hcase, hmem⟩
    obtain ⟨repetition, hrepetition, rfl⟩ := List.mem_map.mp hmem
    have hrange := List.mem_range'_1.mp hrepetition
    exact ⟨hcase, hrange.1, by omega⟩
  · rintro ⟨hcase, hlow, hhigh⟩
    exact ⟨task.1, hcase, List.mem_map.mpr
      ⟨task.2, List.mem_range'_1.mpr ⟨hlow, by omega⟩, rfl⟩⟩

theorem map_tasksOf (n : ℕ) : (tasksOf dataset n).map (fun task => (task.1.caseId, task.2)) =
    expectedRepetitions (caseIdsOf dataset) n := by
  rw [tasksOf, List.map_flatMap, expectedRepetitions, caseIdsOf, List.flatMap_map]
  refine List.flatMap_congr fun case _ => ?_
  rw [List.map_map]
  rfl

theorem expectedRepetitions_nodup {caseIds : List String} (h : caseIds.Nodup) (n : ℕ) :
    (expectedRepetitions caseIds n).Nodup := List.Nodup.product h List.nodup_range'

theorem mem_expectedRepetitions {caseIds : List String} {n : ℕ} {key : String × ℕ} :
    key ∈ expectedRepetitions caseIds n ↔ key.1 ∈ caseIds ∧ 1 ≤ key.2 ∧ key.2 ≤ n := by
  have hproduct : key ∈ expectedRepetitions caseIds n ↔
      key.1 ∈ caseIds ∧ key.2 ∈ List.range' 1 n := List.mem_product
  rw [hproduct, List.mem_range'_1]
  constructor
  · rintro ⟨hcase, hlow, hhigh⟩
    exact ⟨hcase, hlow, by omega⟩
  · rintro ⟨hcase, hlow, hhigh⟩
    exact ⟨hcase, hlow, by omega⟩

/-! Rates. -/

theorem rate_nonneg (passed count : ℕ) : (0 : ℚ) ≤ passed / count := by positivity

theorem rate_le {passed count : ℕ} (h : passed ≤ count) : (passed : ℚ) / count ≤ 1 := by
  rcases Nat.eq_zero_or_pos count with rfl | hpos
  · rw [Nat.cast_zero, div_zero]
    exact zero_le_one
  · rw [div_le_one (by exact_mod_cast hpos)]
    exact_mod_cast h

theorem passedTrialCount_le (trials : List TrialResult) :
    passedTrialCount trials ≤ trials.length := List.countP_le_length

/-! The summaries and the run. -/

theorem summarizeCase_admitted {caseId : String} (hne : caseId ≠ "")
    (htrial : ∃ trial ∈ trials, trial.caseId = caseId) : (summarizeCase trials caseId).Admitted where
  caseId_ne := hne
  trialCount_pos := by
    obtain ⟨trial, htrial, hcase⟩ := htrial
    exact List.length_pos_of_mem (List.mem_filter.mpr ⟨htrial, decide_eq_true hcase⟩)
  passRate_nonneg := rate_nonneg _ _
  passRate_le := rate_le (passedTrialCount_le _)

theorem summarize_admitted {caseSummaries : List CaseSummary} {caseCount : ℕ}
    (hcases : 0 < caseCount) (htrials : trials ≠ []) (hle : caseSummaries.length ≤ caseCount) :
    (summarize trials caseSummaries caseCount).Admitted where
  caseCount_pos := hcases
  trialCount_pos := List.length_pos_of_ne_nil htrials
  passRate_nonneg := rate_nonneg _ _
  passRate_le := rate_le (passedTrialCount_le _)
  consistentCaseRate_nonneg := rate_nonneg _ _
  consistentCaseRate_le := rate_le (le_trans List.countP_le_length hle)

/-- The run that is put together at the end. -/
def runOf (dataset : EvaluationDataset) (repetitions : ℤ) (runId evaluationVersion : String)
    (trials : List TrialResult) : EvaluationRun :=
  let caseSummaries := (caseIdsOf dataset).map (summarizeCase trials)
  { runId := runId
    datasetId := dataset.datasetId
    datasetVersion := dataset.datasetVersion
    datasetCaseIds := caseIdsOf dataset
    evaluationVersion := evaluationVersion
    repetitions := repetitions.toNat
    trials := trials
    caseSummaries := caseSummaries
    summary := summarize trials caseSummaries caseSummaries.length }

/-- A run is returned exactly where every trial is and all its models admit it. -/
theorem runEvaluation_eq_ok {run : EvaluationRun} :
    runEvaluation dataset system graders repetitions runId evaluationVersion = .ok run ↔
      validateRunConfiguration graders repetitions runId evaluationVersion = .ok () ∧
        ∃ trials, List.Forall₂ (fun task trial => runTrial system graders runId task = .ok trial)
            (tasksOf dataset repetitions.toNat) trials ∧
          run = runOf dataset repetitions runId evaluationVersion trials ∧ run.Admitted ∧
          (∀ summary ∈ run.caseSummaries, summary.Admitted) ∧ run.summary.Admitted := by
  have hsummaries : ∀ (trials : List TrialResult) (caseSummaries : List CaseSummary),
      (dataset.cases.mapM fun case => build "CaseSummary" CaseSummary.Admitted
        (summarizeCase trials case.caseId)) = .ok caseSummaries ↔
      caseSummaries = (caseIdsOf dataset).map (summarizeCase trials) ∧
        ∀ summary ∈ caseSummaries, summary.Admitted := by
    intro trials caseSummaries
    rw [Results.mapM_eq_ok]
    constructor
    · intro hall
      constructor
      · rw [caseIdsOf, List.map_map]
        have hmap : caseSummaries.map id =
            dataset.cases.map fun case => summarizeCase trials case.caseId := by
          refine Results.map_of_forall₂ hall fun case summary hbuild => ?_
          exact (build_eq_ok.mp hbuild).2.symm
        rw [List.map_id] at hmap
        exact hmap
      · intro summary hsummary
        obtain ⟨case, -, hbuild⟩ := Results.mem_of_forall₂ hall hsummary
        obtain ⟨hadmitted, rfl⟩ := build_eq_ok.mp hbuild
        exact hadmitted
    · rintro ⟨rfl, hadmitted⟩
      rw [caseIdsOf, List.map_map, List.forall₂_map_right_iff, List.forall₂_same]
      intro case hcase
      refine build_eq_ok.mpr ⟨hadmitted _ ?_, rfl⟩
      rw [caseIdsOf, List.map_map]
      exact List.mem_map_of_mem hcase
  rw [runEvaluation, Results.bind_eq_ok]
  constructor
  · rintro ⟨⟨⟩, hconfig, h⟩
    obtain ⟨trials, htrials, h⟩ := Results.bind_eq_ok.mp h
    obtain ⟨caseSummaries, hcases, h⟩ := Results.bind_eq_ok.mp h
    obtain ⟨summary, hsummary, h⟩ := Results.bind_eq_ok.mp h
    obtain ⟨hadmitted, rfl⟩ := build_eq_ok.mp h
    obtain ⟨hsummaryAdmitted, rfl⟩ := build_eq_ok.mp hsummary
    obtain ⟨rfl, hcasesAdmitted⟩ := (hsummaries trials caseSummaries).mp hcases
    exact ⟨hconfig, trials, Results.mapM_eq_ok.mp htrials, rfl, hadmitted, hcasesAdmitted,
      hsummaryAdmitted⟩
  · rintro ⟨hconfig, trials, htrials, rfl, hadmitted, hcasesAdmitted, hsummaryAdmitted⟩
    refine ⟨(), hconfig, Results.bind_eq_ok.mpr ⟨trials, Results.mapM_eq_ok.mpr htrials, ?_⟩⟩
    refine Results.bind_eq_ok.mpr ⟨_, (hsummaries trials _).mpr ⟨rfl, hcasesAdmitted⟩, ?_⟩
    exact Results.bind_eq_ok.mpr ⟨_, build_eq_ok.mpr ⟨hsummaryAdmitted, rfl⟩,
      build_eq_ok.mpr ⟨hadmitted, rfl⟩⟩

/-- The trials of all tasks have their keys, and ids of their own. -/
theorem trials_keys {n : ℕ} (htrials : List.Forall₂ (fun task trial =>
      runTrial system graders runId task = .ok trial) (tasksOf dataset n) trials) :
    trials.map TrialResult.key = expectedRepetitions (caseIdsOf dataset) n ∧
      (trials.map TrialResult.key).Nodup ∧ (trials.map TrialResult.trialId).Nodup := by
  have hkeys : trials.map TrialResult.key = expectedRepetitions (caseIdsOf dataset) n := by
    rw [← map_tasksOf]
    exact Results.map_of_forall₂ htrials fun task trial htrial => (runTrial_key htrial).1
  have hnodup : (trials.map TrialResult.key).Nodup := by
    rw [hkeys]
    exact expectedRepetitions_nodup dataset.caseIds_nodup n
  refine ⟨hkeys, hnodup, ?_⟩
  have hids : trials.map TrialResult.trialId = (trials.map TrialResult.key).map (trialIdOf runId) := by
    rw [List.map_map]
    refine List.map_congr_left fun trial htrial => ?_
    obtain ⟨task, -, htask⟩ := Results.mem_of_forall₂ htrials htrial
    exact (runTrial_key htask).2.1
  rw [hids]
  exact hnodup.map (trialIdOf_injective runId)

/-- The models of a run admit what is put together, unless a case id is blank. -/
theorem runOf_admitted
    (hconfig : validateRunConfiguration graders repetitions runId evaluationVersion = .ok ())
    (hblank : ∀ case ∈ dataset.cases, isBlank case.caseId = false)
    (htrials : List.Forall₂ (fun task trial => runTrial system graders runId task = .ok trial)
      (tasksOf dataset repetitions.toNat) trials) :
    (runOf dataset repetitions runId evaluationVersion trials).Admitted := by
  obtain ⟨hrepetitions, hrunId, hversion, -, -⟩ := validateRunConfiguration_ok hconfig
  obtain ⟨hkeys, hnodup, hids⟩ := trials_keys htrials
  have hpositive : 0 < repetitions.toNat := by omega
  have hcaseIds : caseIdsOf dataset ≠ [] := fun hempty =>
    dataset.cases_ne (List.map_eq_nil_iff.mp hempty)
  have hcase : ∀ caseId ∈ caseIdsOf dataset, ∃ trial ∈ trials, trial.caseId = caseId := by
    intro caseId hcaseId
    have hmem : (caseId, 1) ∈ trials.map TrialResult.key := by
      rw [hkeys]
      exact mem_expectedRepetitions.mpr ⟨hcaseId, Nat.le_refl 1, hpositive⟩
    obtain ⟨trial, htrial, hkey⟩ := List.mem_map.mp hmem
    exact ⟨trial, htrial, congrArg Prod.fst hkey⟩
  have hne : ∀ caseId ∈ caseIdsOf dataset, caseId ≠ "" := by
    intro caseId hcaseId
    obtain ⟨case, -, rfl⟩ := List.mem_map.mp hcaseId
    exact case.caseId_ne
  have htrialsNe : trials ≠ [] := by
    obtain ⟨caseId, hcaseId⟩ := List.exists_mem_of_ne_nil _ hcaseIds
    obtain ⟨trial, htrial, -⟩ := hcase caseId hcaseId
    exact List.ne_nil_of_mem htrial
  have hsummaryIds : ((caseIdsOf dataset).map (summarizeCase trials)).map CaseSummary.caseId =
      caseIdsOf dataset := by
    rw [List.map_map]
    exact List.map_id _
  constructor
  · exact ne_empty_of_not_blank hrunId
  · exact dataset.datasetId_ne
  · exact dataset.datasetVersion_ne
  · exact hcaseIds
  · exact ne_empty_of_not_blank hversion
  · exact hpositive
  · exact htrialsNe
  · intro trial htrial
    obtain ⟨task, -, htask⟩ := Results.mem_of_forall₂ htrials htrial
    exact (runTrial_key htask).2.2
  · exact fun hempty => hcaseIds (List.map_eq_nil_iff.mp hempty)
  · intro summary hsummary
    obtain ⟨caseId, hcaseId, rfl⟩ := List.mem_map.mp hsummary
    exact summarizeCase_admitted (hne caseId hcaseId) (hcase caseId hcaseId)
  · refine summarize_admitted ?_ htrialsNe (Nat.le_refl _)
    rw [List.length_map]
    exact List.length_pos_of_ne_nil hcaseIds
  · constructor
    · intro caseId hcaseId
      obtain ⟨case, hmem, rfl⟩ := List.mem_map.mp hcaseId
      exact hblank case hmem
    · exact dataset.caseIds_nodup
  · constructor
    · exact hids
    · intro trial htrial
      have hmem : trial.key ∈ expectedRepetitions (caseIdsOf dataset) repetitions.toNat := by
        rw [← hkeys]
        exact List.mem_map_of_mem htrial
      exact (mem_expectedRepetitions.mp hmem).1
    · show trials.length = (expectedRepetitions (caseIdsOf dataset) repetitions.toNat).dedup.length
      have hexpected : (expectedRepetitions (caseIdsOf dataset) repetitions.toNat).Nodup :=
        expectedRepetitions_nodup dataset.caseIds_nodup _
      rw [hexpected.dedup, ← hkeys, List.length_map]
    · intro key hkey
      show key ∈ expectedRepetitions (caseIdsOf dataset) repetitions.toNat
      rwa [← hkeys]
    · intro key hkey
      show key ∈ trials.map TrialResult.key
      rwa [hkeys]
  · constructor
    · show (((caseIdsOf dataset).map (summarizeCase trials)).map CaseSummary.caseId).Nodup
      rw [hsummaryIds]
      exact dataset.caseIds_nodup
    · intro caseId hcaseId
      rwa [runOf, hsummaryIds] at hcaseId
    · intro caseId hcaseId
      rwa [runOf, hsummaryIds]
    · intro summary hsummary
      obtain ⟨caseId, -, rfl⟩ := List.mem_map.mp hsummary
      rfl
  · show summarize trials _ ((caseIdsOf dataset).map (summarizeCase trials)).length = _
    rw [List.length_map]
    rfl

/-- An evaluation is finished exactly where no case id is blank. -/
theorem finishes_iff (dataset : EvaluationDataset) (system : EvaluatedSystem)
    (graders : List Grader) (repetitions : ℤ) (runId evaluationVersion : String)
    (hconfig : validateRunConfiguration graders repetitions runId evaluationVersion = .ok ())
    (hgraders : ∀ grader ∈ graders, grader.Honest) :
    Finishes dataset system graders repetitions runId evaluationVersion ↔
      ∀ case ∈ dataset.cases, isBlank case.caseId = false := by
  constructor
  · rintro ⟨run, hrun, -⟩ case hcase
    obtain ⟨-, trials, -, rfl, hadmitted, -⟩ := runEvaluation_eq_ok.mp hrun
    exact hadmitted.caseIdsValid.notBlank _ (List.mem_map_of_mem hcase)
  · intro hblank
    obtain ⟨-, -, -, hsome, hidentities⟩ := validateRunConfiguration_ok hconfig
    have htasks : ∀ task ∈ tasksOf dataset repetitions.toNat, ∃ trial,
        runTrial system graders runId task = .ok trial := fun task htask =>
      runTrial_ok system runId (mem_tasksOf.mp htask).2.1 hsome hidentities hgraders
    obtain ⟨trials, hok⟩ := Results.mapM_ok_of_forall htasks
    have htrials := Results.mapM_eq_ok.mp hok
    have hadmitted := runOf_admitted hconfig hblank htrials
    obtain ⟨hkeys, hnodup, hids⟩ := trials_keys htrials
    refine ⟨_, runEvaluation_eq_ok.mpr ⟨hconfig, trials, htrials, rfl, hadmitted,
      hadmitted.caseSummaries, hadmitted.summary⟩, hkeys, hnodup, hids, rfl, ?_, ?_⟩
    · show summarize trials _ ((caseIdsOf dataset).map (summarizeCase trials)).length = _
      rw [List.length_map, caseIdsOf, List.length_map]
      rfl
    · intro system' run' hrun' trial htrial hsame
      obtain ⟨-, trials', htrials', rfl, -⟩ := runEvaluation_eq_ok.mp hrun'
      obtain ⟨task, htask, hown⟩ := Results.mem_of_forall₂ htrials htrial
      have hkey := (runTrial_key hown).1
      have hdoes : system task.1 task.2 = system' task.1 task.2 := by
        have hat := hsame task.1 (mem_tasksOf.mp htask).1 (congrArg Prod.fst hkey).symm
        rwa [congrArg Prod.snd hkey] at hat
      obtain ⟨other, hother, hothers⟩ := Results.exists_of_forall₂ htrials' htask
      rw [runTrial, hdoes, ← runTrial, hothers] at hown
      cases hown
      exact hother

end

/-- A grader that lets everything pass. -/
def lenient : Grader where
  name := "lenient"
  version := "v1"
  grade _ _ _ := .ok ⟨"lenient", "v1", 1, true, true, by decide, sample_version, by norm_num, le_refl 1⟩

def oneCase (caseId : String) (hne : caseId ≠ "") : EvaluationDataset where
  datasetId := "refunds"
  datasetVersion := "v1"
  cases := [⟨caseId, "Refund", .agent, [], hne, by decide, List.nodup_nil⟩]
  datasetId_ne := by decide
  datasetVersion_ne := sample_version
  cases_ne := List.cons_ne_nil _ _
  caseIds_nodup := List.nodup_singleton _

/-- A system that fails in the second repetition. -/
def failsOnce : EvaluatedSystem := fun _ repetition =>
  if repetition = 2 then .error ⟨"ValueError", ""⟩ else .ok ⟨[("model", "m")]⟩

theorem lenient_honest : ∀ grader ∈ [lenient], grader.Honest := by
  intro grader hgrader case repetition sample
  rw [List.mem_singleton.mp hgrader]
  exact ⟨_, rfl, rfl⟩

theorem oneCase_finishes :
    Finishes (oneCase "c1" (by decide)) failsOnce [lenient] 3 "run" "v1" :=
  (finishes_iff _ _ _ _ _ _ (by decide) lenient_honest).mpr fun case hcase => by
    rw [List.mem_singleton.mp hcase]
    decide

/-- A case id of one space is taken by the dataset and refused by the run. -/
theorem blankCase_lost : validateRunConfiguration [lenient] 1 "run" "v1" = .ok () ∧
    (∀ grader ∈ [lenient], grader.Honest) ∧
    ¬Finishes (oneCase " " (by decide)) failsOnce [lenient] 1 "run" "v1" := by
  refine ⟨by decide, lenient_honest, ?_⟩
  rintro ⟨run, hrun, -⟩
  obtain ⟨-, trials, -, rfl, hadmitted, -⟩ := runEvaluation_eq_ok.mp hrun
  exact absurd (hadmitted.caseIdsValid.notBlank " " List.mem_cons_self) (by decide)

end CSO.EvaluationRunner
