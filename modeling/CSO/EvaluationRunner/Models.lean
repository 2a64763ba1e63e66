import CSO.Python.Regex
import Mathlib.Algebra.Order.Field.Rat
import Mathlib.Data.List.Dedup
import Mathlib.Tactic.MkIffOfInductiveProp

/-! Evaluation runs: the cases that are put in, the trials that come out and what has to hold of
them. -/
namespace CSO.EvaluationRunner

inductive EvaluationCapability
  | retrieval | answer | agent | policy | safety
  deriving DecidableEq, Repr

/-- A reviewed task. -/
structure EvaluationCase where
  caseId : String
  name : String
  capability : EvaluationCapability
  tags : List String
  caseId_ne : caseId ≠ ""
  name_ne : name ≠ ""
  tags_nodup : tags.Nodup
  deriving DecidableEq, Repr

structure EvaluationDataset where
  datasetId : String
  datasetVersion : String
  cases : List EvaluationCase
  datasetId_ne : datasetId ≠ ""
  datasetVersion_ne : datasetVersion ≠ ""
  cases_ne : cases ≠ []
  caseIds_nodup : (cases.map EvaluationCase.caseId).Nodup
  deriving DecidableEq, Repr

/-- An attempt as it was observed, by what a comparison reads of it. -/
structure EvaluationSample where
  versions : List (String × String)
  deriving DecidableEq, Repr

/-- A judgment, and whether its failure blocks release. -/
structure GraderResult where
  graderName : String
  graderVersion : String
  score : ℚ
  passed : Bool
  blocking : Bool
  graderName_ne : graderName ≠ ""
  graderVersion_ne : graderVersion ≠ ""
  score_nonneg : 0 ≤ score
  score_le : score ≤ 1
  deriving DecidableEq, Repr

def GraderResult.identity (result : GraderResult) : String × String :=
  (result.graderName, result.graderVersion)

inductive TrialStatus
  | completed | systemError
  deriving DecidableEq, Repr

structure TrialResult where
  trialId : String
  caseId : String
  repetition : ℕ
  status : TrialStatus
  passed : Bool
  sample : Option EvaluationSample
  errorMessage : Option String
  graderResults : List GraderResult
  deriving DecidableEq, Repr

/-- The conjunction of the blocking grades. -/
def blockingGradesPassed (graderResults : List GraderResult) : Bool :=
  (graderResults.filter GraderResult.blocking).all GraderResult.passed

namespace TrialResult

/-- `(case_id, repetition)` -/
def key (trial : TrialResult) : String × ℕ := (trial.caseId, trial.repetition)

/-- `validate_status_payload` -/
def StatusPayload (trial : TrialResult) : Prop :=
  match trial.status with
  | .completed =>
    trial.sample.isSome ∧ trial.errorMessage = none ∧ trial.graderResults ≠ [] ∧
      trial.passed = blockingGradesPassed trial.graderResults
  | .systemError =>
    trial.sample = none ∧ (trial.errorMessage.getD "" ≠ "") ∧ trial.passed = false ∧
      trial.graderResults = []

instance (trial : TrialResult) : Decidable trial.StatusPayload :=
  match h : trial.status with
  | .completed => decidable_of_iff
      (trial.sample.isSome ∧ trial.errorMessage = none ∧ trial.graderResults ≠ [] ∧
        trial.passed = blockingGradesPassed trial.graderResults) (by rw [StatusPayload, h])
  | .systemError => decidable_of_iff
      (trial.sample = none ∧ (trial.errorMessage.getD "" ≠ "") ∧ trial.passed = false ∧
        trial.graderResults = []) (by rw [StatusPayload, h])

/-- What the model of a trial admits. -/
@[mk_iff]
structure Admitted (trial : TrialResult) : Prop where
  trialId_ne : trial.trialId ≠ ""
  caseId_ne : trial.caseId ≠ ""
  repetition_pos : 0 < trial.repetition
  statusPayload : trial.StatusPayload
  graderIdentities : (trial.graderResults.map GraderResult.identity).Nodup

instance (trial : TrialResult) : Decidable trial.Admitted :=
  decidable_of_iff _ (admitted_iff trial).symm

end TrialResult

/-- How often something holds in a list. -/
def passedTrialCount (trials : List TrialResult) : ℕ := trials.countP TrialResult.passed

structure CaseSummary where
  caseId : String
  trialCount : ℕ
  passedTrialCount : ℕ
  passRate : ℚ
  allTrialsPassed : Bool
  deriving DecidableEq, Repr

@[mk_iff]
structure CaseSummary.Admitted (summary : CaseSummary) : Prop where
  caseId_ne : summary.caseId ≠ ""
  trialCount_pos : 0 < summary.trialCount
  passRate_nonneg : 0 ≤ summary.passRate
  passRate_le : summary.passRate ≤ 1

instance (summary : CaseSummary) : Decidable summary.Admitted :=
  decidable_of_iff _ (CaseSummary.admitted_iff summary).symm

structure RunSummary where
  caseCount : ℕ
  trialCount : ℕ
  passedTrialCount : ℕ
  passRate : ℚ
  consistentCaseCount : ℕ
  consistentCaseRate : ℚ
  deriving DecidableEq, Repr

@[mk_iff]
structure RunSummary.Admitted (summary : RunSummary) : Prop where
  caseCount_pos : 0 < summary.caseCount
  trialCount_pos : 0 < summary.trialCount
  passRate_nonneg : 0 ≤ summary.passRate
  passRate_le : summary.passRate ≤ 1
  consistentCaseRate_nonneg : 0 ≤ summary.consistentCaseRate
  consistentCaseRate_le : summary.consistentCaseRate ≤ 1

instance (summary : RunSummary) : Decidable summary.Admitted :=
  decidable_of_iff _ (RunSummary.admitted_iff summary).symm

structure EvaluationRun where
  runId : String
  datasetId : String
  datasetVersion : String
  datasetCaseIds : List String
  evaluationVersion : String
  repetitions : ℕ
  trials : List TrialResult
  caseSummaries : List CaseSummary
  summary : RunSummary
  deriving DecidableEq, Repr

def isBlank (text : String) : Bool := (Python.strip text.toList).isEmpty

/-- Every case with every repetition. -/
def expectedRepetitions (caseIds : List String) (repetitions : ℕ) : List (String × ℕ) :=
  caseIds.flatMap fun caseId => (List.range' 1 repetitions).map fun repetition =>
    (caseId, repetition)

def trialsOf (trials : List TrialResult) (caseId : String) : List TrialResult :=
  trials.filter (·.caseId = caseId)

/-- The summary of a case, from its trials. -/
def summarizeCase (trials : List TrialResult) (caseId : String) : CaseSummary :=
  let caseTrials := trialsOf trials caseId
  { caseId := caseId
    trialCount := caseTrials.length
    passedTrialCount := passedTrialCount caseTrials
    passRate := passedTrialCount caseTrials / caseTrials.length
    allTrialsPassed := passedTrialCount caseTrials = caseTrials.length }

def consistentCaseCount (caseSummaries : List CaseSummary) : ℕ :=
  caseSummaries.countP CaseSummary.allTrialsPassed

/-- The summary of a run over so many cases. -/
def summarize (trials : List TrialResult) (caseSummaries : List CaseSummary) (caseCount : ℕ) :
    RunSummary where
  caseCount := caseCount
  trialCount := trials.length
  passedTrialCount := passedTrialCount trials
  passRate := passedTrialCount trials / trials.length
  consistentCaseCount := consistentCaseCount caseSummaries
  consistentCaseRate := consistentCaseCount caseSummaries / caseCount

namespace EvaluationRun

/-- `_validate_dataset_case_ids` -/
@[mk_iff]
structure CaseIdsValid (run : EvaluationRun) : Prop where
  notBlank : ∀ caseId ∈ run.datasetCaseIds, isBlank caseId = false
  nodup : run.datasetCaseIds.Nodup

/-- `_validate_trials` -/
@[mk_iff]
structure TrialsValid (run : EvaluationRun) : Prop where
  trialIds : (run.trials.map TrialResult.trialId).Nodup
  caseIds : ∀ trial ∈ run.trials, trial.caseId ∈ run.datasetCaseIds
  count : run.trials.length =
    (expectedRepetitions run.datasetCaseIds run.repetitions).dedup.length
  expected : ∀ key ∈ run.trials.map TrialResult.key,
    key ∈ expectedRepetitions run.datasetCaseIds run.repetitions
  actual : ∀ key ∈ expectedRepetitions run.datasetCaseIds run.repetitions,
    key ∈ run.trials.map TrialResult.key

/-- `_validate_case_summaries` -/
@[mk_iff]
structure CaseSummariesValid (run : EvaluationRun) : Prop where
  nodup : (run.caseSummaries.map CaseSummary.caseId).Nodup
  inDataset : ∀ caseId ∈ run.caseSummaries.map CaseSummary.caseId, caseId ∈ run.datasetCaseIds
  cover : ∀ caseId ∈ run.datasetCaseIds, caseId ∈ run.caseSummaries.map CaseSummary.caseId
  evidence : ∀ summary ∈ run.caseSummaries, summary = summarizeCase run.trials summary.caseId

/-- What the model of a run admits. -/
@[mk_iff]
structure Admitted (run : EvaluationRun) : Prop where
  runId_ne : run.runId ≠ ""
  datasetId_ne : run.datasetId ≠ ""
  datasetVersion_ne : run.datasetVersion ≠ ""
  datasetCaseIds_ne : run.datasetCaseIds ≠ []
  evaluationVersion_ne : run.evaluationVersion ≠ ""
  repetitions_pos : 0 < run.repetitions
  trials_ne : run.trials ≠ []
  trials : ∀ trial ∈ run.trials, trial.Admitted
  caseSummaries_ne : run.caseSummaries ≠ []
  caseSummaries : ∀ summary ∈ run.caseSummaries, summary.Admitted
  summary : run.summary.Admitted
  caseIdsValid : run.CaseIdsValid
  trialsValid : run.TrialsValid
  caseSummariesValid : run.CaseSummariesValid
  /-- `_validate_summary` -/
  summaryValid : run.summary =
    summarize run.trials run.caseSummaries run.datasetCaseIds.length

instance (run : EvaluationRun) : Decidable run.CaseIdsValid :=
  decidable_of_iff _ (caseIdsValid_iff run).symm

instance (run : EvaluationRun) : Decidable run.TrialsValid :=
  decidable_of_iff _ (trialsValid_iff run).symm

instance (run : EvaluationRun) : Decidable run.CaseSummariesValid :=
  decidable_of_iff _ (caseSummariesValid_iff run).symm

instance (run : EvaluationRun) : Decidable run.Admitted :=
  decidable_of_iff _ (admitted_iff run).symm

end EvaluationRun

theorem sample_version : "v1" ≠ "" := by decide

end CSO.EvaluationRunner
