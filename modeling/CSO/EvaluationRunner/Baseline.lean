import CSO.EvaluationRunner.Models
import CSO.Python.Dicts
import CSO.Transition.Results
import Mathlib.Data.Prod.Lex
import Mathlib.Data.String.Basic

/-! The comparison of a candidate run with a baseline. -/
namespace CSO.EvaluationRunner
open Python (dictGet dictKeys SameKeys sorted)

/-- `(case_id, repetition)`, in the order of tuples. -/
abbrev TrialKey := String ×ₗ ℕ

/-- `(case_id, repetition, grader_name, grader_version)` -/
abbrev GradeKey := TrialKey ×ₗ (String ×ₗ String)

structure BlockingGradeRegression where
  key : GradeKey
  deriving DecidableEq

structure SemanticScoreDelta where
  key : GradeKey
  baselineScore : ℚ
  candidateScore : ℚ
  delta : ℚ
  deriving DecidableEq

structure SystemErrorChange where
  key : TrialKey
  errorMessage : String
  deriving DecidableEq

structure RunComparison where
  blockingRegressions : List BlockingGradeRegression
  semanticScoreDeltas : List SemanticScoreDelta
  systemErrorRegressions : List SystemErrorChange
  systemErrorRecoveries : List SystemErrorChange
  deriving DecidableEq

/-- What the trials of a key are to one another. -/
inductive TrialChange
  | regression (change : SystemErrorChange)
  | recovery (change : SystemErrorChange)
  | comparable (key : TrialKey)
  | bothFailed
  deriving DecidableEq

namespace TrialChange

def regression? : TrialChange → Option SystemErrorChange
  | regression change => some change
  | _ => none

def recovery? : TrialChange → Option SystemErrorChange
  | recovery change => some change
  | _ => none

def comparable? : TrialChange → Option TrialKey
  | comparable key => some key
  | _ => none

/-- The same with baseline and candidate exchanged. -/
def swap : TrialChange → TrialChange
  | regression change => recovery change
  | recovery change => regression change
  | comparable key => comparable key
  | bothFailed => bothFailed

end TrialChange

def TrialResult.lexKey (trial : TrialResult) : TrialKey := toLex trial.key

/-- `_index_trials` -/
def indexTrials (run : EvaluationRun) : List (TrialKey × TrialResult) :=
  run.trials.map fun trial => (trial.lexKey, trial)

def gradeKey (trial : TrialResult) (result : GraderResult) : GradeKey :=
  toLex (trial.lexKey, toLex result.identity)

/-- `_index_grades` -/
def indexGrades (run : EvaluationRun) (trialKeys : List TrialKey) :
    List (GradeKey × GraderResult) :=
  (run.trials.filter (·.lexKey ∈ trialKeys)).flatMap fun trial =>
    trial.graderResults.map fun result => (gradeKey trial result, result)

def judgeKeys : List String := ["judge_model", "judge_embedding_model", "judge_max_tokens"]

/-- `_validate_judge_configuration` -/
def SameJudge (baseline candidate : EvaluationSample) : Prop :=
  ∀ key ∈ judgeKeys, dictGet baseline.versions key = dictGet candidate.versions key

instance (baseline candidate : EvaluationSample) : Decidable (SameJudge baseline candidate) :=
  inferInstanceAs (Decidable (∀ key ∈ judgeKeys, _))

def errorMessageOf (trial : TrialResult) : String :=
  let message := trial.errorMessage.getD ""
  if message = "" then "Unknown system error" else message

/-- One turn of the first loop. -/
def compareTrial (baseline candidate : EvaluationRun) (key : TrialKey) :
    Except String TrialChange :=
  match dictGet (indexTrials baseline) key, dictGet (indexTrials candidate) key with
  | some baselineTrial, some candidateTrial =>
    match baselineTrial.status, candidateTrial.status with
    | .completed, .systemError => .ok (.regression ⟨key, errorMessageOf candidateTrial⟩)
    | .systemError, .completed => .ok (.recovery ⟨key, errorMessageOf baselineTrial⟩)
    | .completed, .completed =>
      match baselineTrial.sample, candidateTrial.sample with
      | some baselineSample, some candidateSample =>
        if SameJudge baselineSample candidateSample then .ok (.comparable key)
        else .error "Baseline and candidate completed trials must have matching judge configuration."
      | _, _ => .error "AssertionError"
    | .systemError, .systemError => .ok .bothFailed
  | _, _ => .error "KeyError"

/-- What is found comparable: the trials by key, and the grades with those of the other run. -/
structure Alignment where
  changes : List TrialChange
  grades : List (GradeKey × GraderResult × GraderResult)

def gradePair (baselineGrades candidateGrades : List (GradeKey × GraderResult)) (key : GradeKey) :
    Option (GradeKey × GraderResult × GraderResult) :=
  match dictGet baselineGrades key, dictGet candidateGrades key with
  | some baselineGrade, some candidateGrade => some (key, baselineGrade, candidateGrade)
  | _, _ => none

/-- The checks of `compare_runs` and what its loops run over. -/
def alignRuns (baseline candidate : EvaluationRun) : Except String Alignment :=
  if baseline.datasetId ≠ candidate.datasetId ∨ baseline.datasetVersion ≠ candidate.datasetVersion then
    .error "Baseline and candidate must have matching dataset ID and version."
  else if ¬SameKeys baseline.datasetCaseIds candidate.datasetCaseIds then
    .error "Baseline and candidate must have matching case coverage."
  else if baseline.evaluationVersion ≠ candidate.evaluationVersion then
    .error "Baseline and candidate must have matching evaluation version."
  else if ¬SameKeys (dictKeys (indexTrials baseline)) (dictKeys (indexTrials candidate)) then
    .error "Baseline and candidate must have matching trial coverage."
  else do
    let changes ← (sorted (dictKeys (indexTrials baseline))).mapM (compareTrial baseline candidate)
    let comparableKeys := changes.filterMap TrialChange.comparable?
    let baselineGrades := indexGrades baseline comparableKeys
    let candidateGrades := indexGrades candidate comparableKeys
    if ¬SameKeys (dictKeys baselineGrades) (dictKeys candidateGrades) then
      .error "Baseline and candidate must have matching grade-key coverage."
    else
      let grades := (sorted (dictKeys baselineGrades)).filterMap
        (gradePair baselineGrades candidateGrades)
      if grades.any fun (_, baselineGrade, candidateGrade) =>
          baselineGrade.blocking != candidateGrade.blocking then
        .error "Baseline and candidate graders must have matching blocking classification."
      else .ok ⟨changes, grades⟩

def blockingRegression? (grade : GradeKey × GraderResult × GraderResult) :
    Option BlockingGradeRegression :=
  let (key, baselineGrade, candidateGrade) := grade
  if baselineGrade.blocking && baselineGrade.passed && candidateGrade.blocking &&
      !candidateGrade.passed then some ⟨key⟩ else none

/-- A change of score of grades that do not block and are no regression. -/
def semanticScoreDelta? (grade : GradeKey × GraderResult × GraderResult) :
    Option SemanticScoreDelta :=
  let (key, baselineGrade, candidateGrade) := grade
  if !baselineGrade.blocking && !candidateGrade.blocking &&
      decide (baselineGrade.score ≠ candidateGrade.score) then
    some ⟨key, baselineGrade.score, candidateGrade.score,
      candidateGrade.score - baselineGrade.score⟩
  else none

def Alignment.report (alignment : Alignment) : RunComparison where
  blockingRegressions := alignment.grades.filterMap blockingRegression?
  semanticScoreDeltas := alignment.grades.filterMap semanticScoreDelta?
  systemErrorRegressions := alignment.changes.filterMap TrialChange.regression?
  systemErrorRecoveries := alignment.changes.filterMap TrialChange.recovery?

def compareRuns (baseline candidate : EvaluationRun) : Except String RunComparison :=
  (alignRuns baseline candidate).map Alignment.report

/-! The opposite order. -/

def swapGrade (grade : GradeKey × GraderResult × GraderResult) :
    GradeKey × GraderResult × GraderResult := (grade.1, grade.2.2, grade.2.1)

def Alignment.swap (alignment : Alignment) : Alignment where
  changes := alignment.changes.map TrialChange.swap
  grades := alignment.grades.map swapGrade

def SemanticScoreDelta.negate (change : SemanticScoreDelta) : SemanticScoreDelta where
  key := change.key
  baselineScore := change.candidateScore
  candidateScore := change.baselineScore
  delta := -change.delta

section

variable {baseline candidate : EvaluationRun}

theorem sameJudge_comm {sample sample' : EvaluationSample} :
    SameJudge sample sample' ↔ SameJudge sample' sample :=
  ⟨fun h key hkey => (h key hkey).symm, fun h key hkey => (h key hkey).symm⟩

theorem compareTrial_swap (key : TrialKey) : compareTrial candidate baseline key =
    (compareTrial baseline candidate key).map TrialChange.swap := by
  rw [compareTrial, compareTrial]
  cases dictGet (indexTrials baseline) key with
  | none => cases dictGet (indexTrials candidate) key <;> rfl
  | some trial =>
    cases dictGet (indexTrials candidate) key with
    | none => rfl
    | some trial' =>
      dsimp only
      cases trial.status with
      | systemError => cases trial'.status <;> rfl
      | completed =>
        cases trial'.status with
        | systemError => rfl
        | completed =>
          dsimp only
          cases trial.sample with
          | none => cases trial'.sample <;> rfl
          | some sample =>
            cases trial'.sample with
            | none => rfl
            | some sample' =>
              dsimp only
              by_cases hjudge : SameJudge sample sample'
              · rw [if_pos hjudge, if_pos (sameJudge_comm.mp hjudge)]
                rfl
              · rw [if_neg hjudge, if_neg fun h => hjudge (sameJudge_comm.mp h)]
                rfl

theorem gradePair_swap (grades grades' : List (GradeKey × GraderResult)) (key : GradeKey) :
    gradePair grades' grades key = (gradePair grades grades' key).map swapGrade := by
  rw [gradePair, gradePair]
  cases dictGet grades key with
  | none => cases dictGet grades' key <;> rfl
  | some grade => cases dictGet grades' key <;> rfl

theorem comparable?_swap (changes : List TrialChange) :
    (changes.map TrialChange.swap).filterMap TrialChange.comparable? =
      changes.filterMap TrialChange.comparable? := by
  rw [List.filterMap_map]
  congr 1
  funext change
  cases change <;> rfl

/-- The checks do not depend on the order, and what they find is exchanged. -/
theorem alignRuns_swap (baseline candidate : EvaluationRun) :
    alignRuns candidate baseline = (alignRuns baseline candidate).map Alignment.swap := by
  rw [alignRuns, alignRuns]
  have hids : candidate.datasetId ≠ baseline.datasetId ∨
      candidate.datasetVersion ≠ baseline.datasetVersion ↔ baseline.datasetId ≠ candidate.datasetId ∨
        baseline.datasetVersion ≠ candidate.datasetVersion := or_congr ne_comm ne_comm
  by_cases hdataset : baseline.datasetId ≠ candidate.datasetId ∨
      baseline.datasetVersion ≠ candidate.datasetVersion
  · rw [if_pos hdataset, if_pos (hids.mpr hdataset)]
    rfl
  rw [if_neg hdataset, if_neg fun h => hdataset (hids.mp h)]
  by_cases hcases : SameKeys baseline.datasetCaseIds candidate.datasetCaseIds
  swap
  · rw [if_pos hcases, if_pos fun h => hcases h.symm]
    rfl
  rw [if_neg (not_not_intro hcases), if_neg (not_not_intro hcases.symm)]
  by_cases hversion : baseline.evaluationVersion ≠ candidate.evaluationVersion
  · rw [if_pos hversion, if_pos hversion.symm]
    rfl
  rw [if_neg hversion, if_neg fun h => hversion h.symm]
  by_cases htrials : SameKeys (dictKeys (indexTrials baseline)) (dictKeys (indexTrials candidate))
  swap
  · rw [if_pos htrials, if_pos fun h => htrials h.symm]
    rfl
  rw [if_neg (not_not_intro htrials), if_neg (not_not_intro htrials.symm)]
  rw [Python.sorted_eq_of_sameKeys htrials.symm (List.nodup_dedup _) (List.nodup_dedup _),
    Results.mapM_map_result compareTrial_swap]
  cases (sorted (dictKeys (indexTrials baseline))).mapM (compareTrial baseline candidate) with
  | error message => rfl
  | ok changes =>
    show (if _ then _ else _) = Except.map _ (if _ then _ else _)
    dsimp only
    rw [comparable?_swap]
    generalize indexGrades baseline (changes.filterMap TrialChange.comparable?) = grades
    generalize indexGrades candidate (changes.filterMap TrialChange.comparable?) = grades'
    by_cases hgrades : SameKeys (dictKeys grades) (dictKeys grades')
    swap
    · rw [if_pos hgrades, if_pos fun h => hgrades h.symm]
      rfl
    rw [if_neg (not_not_intro hgrades), if_neg (not_not_intro hgrades.symm)]
    have hpairs : (sorted (dictKeys grades')).filterMap (gradePair grades' grades) =
        ((sorted (dictKeys grades)).filterMap (gradePair grades grades')).map swapGrade := by
      rw [Python.sorted_eq_of_sameKeys hgrades.symm (List.nodup_dedup _) (List.nodup_dedup _),
        List.map_filterMap]
      congr 1
      funext key
      exact gradePair_swap grades grades' key
    rw [hpairs, List.any_map]
    generalize (sorted (dictKeys grades)).filterMap (gradePair grades grades') = pairs
    have hany : (pairs.any ((fun grade => grade.2.1.blocking != grade.2.2.blocking) ∘ swapGrade)) =
        pairs.any fun grade => grade.2.1.blocking != grade.2.2.blocking := by
      congr 1
      funext grade
      exact bne_comm
    rw [hany]
    split_ifs <;> rfl

theorem report_swap (alignment : Alignment) :
    alignment.swap.report.systemErrorRecoveries = alignment.report.systemErrorRegressions ∧
      alignment.swap.report.systemErrorRegressions = alignment.report.systemErrorRecoveries ∧
      alignment.swap.report.semanticScoreDeltas =
        alignment.report.semanticScoreDeltas.map SemanticScoreDelta.negate := by
  refine ⟨?_, ?_, ?_⟩
  · show (alignment.changes.map TrialChange.swap).filterMap _ = _
    rw [List.filterMap_map]
    show _ = alignment.changes.filterMap _
    congr 1
    funext change
    cases change <;> rfl
  · show (alignment.changes.map TrialChange.swap).filterMap _ = _
    rw [List.filterMap_map]
    show _ = alignment.changes.filterMap _
    congr 1
    funext change
    cases change <;> rfl
  · show (alignment.grades.map swapGrade).filterMap _ = (alignment.grades.filterMap _).map _
    rw [List.filterMap_map, List.map_filterMap]
    congr 1
    funext ⟨key, grade, grade'⟩
    rw [Function.comp_apply, swapGrade, semanticScoreDelta?, semanticScoreDelta?]
    dsimp only
    have hcond : (!grade'.blocking && !grade.blocking && decide (grade'.score ≠ grade.score)) =
        (!grade.blocking && !grade'.blocking && decide (grade.score ≠ grade'.score)) := by
      rw [Bool.and_comm (!grade'.blocking), decide_eq_decide.mpr ne_comm]
    rw [hcond]
    split_ifs
    · rw [Option.map_some, SemanticScoreDelta.negate, neg_sub]
    · rfl

end

end CSO.EvaluationRunner
