import CSO.EvaluationRunner.Models
import CSO.Python.Strings
import CSO.Transition.Results
import Mathlib.Tactic.Positivity
import Mathlib.Tactic.FieldSimp
import Mathlib.Algebra.Order.Field.Basic

/-! The evaluation run, and which runs are finished. -/
namespace CSO.EvaluationRunner

/-- An exception, by the name of its type and its message. -/
structure Raised where
  typeName : String
  message : String
  deriving DecidableEq, Repr

/-- What an evaluated system does for a case and a repetition. -/
abbrev EvaluatedSystem := EvaluationCase → ℕ → Except Raised EvaluationSample

/-- A grader, with its answer in each trial. -/
structure Grader where
  name : String
  version : String
  grade : EvaluationCase → ℕ → EvaluationSample → Except Raised GraderResult

/-- Why a run is not returned. -/
inductive RunFailure
  | configuration (message : String)
  | graderFailed (graderName caseId : String) (repetition : ℕ) (raised : Raised)
  | mismatchedIdentity (graderName : String) (returned : String × String)
  | validation (model : String)
  deriving DecidableEq, Repr

def validateRunConfiguration (graders : List Grader) (repetitions : ℤ)
    (runId evaluationVersion : String) : Except RunFailure Unit :=
  if repetitions < 1 then .error (.configuration "repetitions must be at least 1")
  else if isBlank runId then .error (.configuration "run_id must not be blank")
  else if isBlank evaluationVersion then
    .error (.configuration "evaluation_version must not be blank")
  else if graders.isEmpty then .error (.configuration "at least one grader is required")
  else if (graders.map fun grader => (grader.name, grader.version)).Nodup then .ok ()
  else .error (.configuration "grader name and version pairs must be unique")

/-- One turn of `_grade_sample`. -/
def gradeWith (case : EvaluationCase) (sample : EvaluationSample) (repetition : ℕ)
    (grader : Grader) : Except RunFailure GraderResult :=
  match grader.grade case repetition sample with
  | .error raised => .error (.graderFailed grader.name case.caseId repetition raised)
  | .ok result =>
    if result.identity = (grader.name, grader.version) then .ok result
    else .error (.mismatchedIdentity grader.name result.identity)

def gradeSample (graders : List Grader) (case : EvaluationCase) (sample : EvaluationSample)
    (repetition : ℕ) : Except RunFailure (List GraderResult) :=
  graders.mapM (gradeWith case sample repetition)

/-- A value its model admits is built. -/
def build {α : Type} (model : String) (Admitted : α → Prop) [DecidablePred Admitted] (value : α) :
    Except RunFailure α :=
  if Admitted value then .ok value else .error (.validation model)

def trialIdOf (runId : String) (key : String × ℕ) : String :=
  runId ++ ":" ++ key.1 ++ ":" ++ toString key.2

def errorTrial (runId : String) (case : EvaluationCase) (repetition : ℕ) (raised : Raised) :
    TrialResult where
  trialId := trialIdOf runId (case.caseId, repetition)
  caseId := case.caseId
  repetition := repetition
  status := .systemError
  passed := false
  sample := none
  errorMessage := some (raised.typeName ++ ": " ++ raised.message)
  graderResults := []

def completedTrial (runId : String) (case : EvaluationCase) (repetition : ℕ)
    (sample : EvaluationSample) (graderResults : List GraderResult) : TrialResult where
  trialId := trialIdOf runId (case.caseId, repetition)
  caseId := case.caseId
  repetition := repetition
  status := .completed
  passed := blockingGradesPassed graderResults
  sample := some sample
  errorMessage := none
  graderResults := graderResults

/-- One turn of the loop: a case with a repetition. -/
def runTrial (system : EvaluatedSystem) (graders : List Grader) (runId : String)
    (task : EvaluationCase × ℕ) : Except RunFailure TrialResult :=
  match system task.1 task.2 with
  | .error raised =>
    build "TrialResult" TrialResult.Admitted (errorTrial runId task.1 task.2 raised)
  | .ok sample => do
    let graderResults ← gradeSample graders task.1 sample task.2
    build "TrialResult" TrialResult.Admitted
      (completedTrial runId task.1 task.2 sample graderResults)

def tasksOf (dataset : EvaluationDataset) (repetitions : ℕ) : List (EvaluationCase × ℕ) :=
  dataset.cases.flatMap fun case => (List.range' 1 repetitions).map fun repetition =>
    (case, repetition)

def runEvaluation (dataset : EvaluationDataset) (system : EvaluatedSystem) (graders : List Grader)
    (repetitions : ℤ) (runId evaluationVersion : String) : Except RunFailure EvaluationRun := do
  validateRunConfiguration graders repetitions runId evaluationVersion
  let trials ← (tasksOf dataset repetitions.toNat).mapM (runTrial system graders runId)
  let caseSummaries ← dataset.cases.mapM fun case =>
    build "CaseSummary" CaseSummary.Admitted (summarizeCase trials case.caseId)
  let summary ← build "RunSummary" RunSummary.Admitted
    (summarize trials caseSummaries caseSummaries.length)
  build "EvaluationRun" EvaluationRun.Admitted {
    runId := runId
    datasetId := dataset.datasetId
    datasetVersion := dataset.datasetVersion
    datasetCaseIds := dataset.cases.map EvaluationCase.caseId
    evaluationVersion := evaluationVersion
    repetitions := repetitions.toNat
    trials := trials
    caseSummaries := caseSummaries
    summary := summary }

/-! What is required. -/

/-- A grader that answers, and under its own identity. -/
def Grader.Honest (grader : Grader) : Prop :=
  ∀ case repetition sample, ∃ result, grader.grade case repetition sample = .ok result ∧
    result.identity = (grader.name, grader.version)

/-- Two systems do the same for the cases of an id in a repetition. -/
def SameFor (dataset : EvaluationDataset) (system system' : EvaluatedSystem)
    (key : String × ℕ) : Prop :=
  ∀ case ∈ dataset.cases, case.caseId = key.1 → system case key.2 = system' case key.2

/-- A run is returned with one trial for every case and repetition, each of an id of its own, that
depends on nothing but what the system does there, and with the counts of these trials. -/
def Finishes (dataset : EvaluationDataset) (system : EvaluatedSystem) (graders : List Grader)
    (repetitions : ℤ) (runId evaluationVersion : String) : Prop :=
  ∃ run, runEvaluation dataset system graders repetitions runId evaluationVersion = .ok run ∧
    run.trials.map TrialResult.key =
      expectedRepetitions (dataset.cases.map EvaluationCase.caseId) repetitions.toNat ∧
    (run.trials.map TrialResult.key).Nodup ∧ (run.trials.map TrialResult.trialId).Nodup ∧
    run.caseSummaries = (dataset.cases.map EvaluationCase.caseId).map (summarizeCase run.trials) ∧
    run.summary = summarize run.trials run.caseSummaries dataset.cases.length ∧
    ∀ system' run', runEvaluation dataset system' graders repetitions runId evaluationVersion =
      .ok run' → ∀ trial ∈ run.trials, SameFor dataset system system' trial.key →
        trial ∈ run'.trials

theorem build_eq_ok {α : Type} {model : String} {Admitted : α → Prop} [DecidablePred Admitted]
    {value built : α} : build model Admitted value = .ok built ↔ Admitted value ∧ value = built := by
  rw [build]
  by_cases h : Admitted value
  · rw [if_pos h]
    exact ⟨fun heq => ⟨h, Except.ok.inj heq⟩, fun heq => congrArg _ heq.2⟩
  · rw [if_neg h]
    exact iff_of_false nofun fun heq => h heq.1

/-! The configuration and the graders. -/

section

variable {graders : List Grader} {repetitions : ℤ} {runId evaluationVersion : String}

theorem validateRunConfiguration_ok
    (h : validateRunConfiguration graders repetitions runId evaluationVersion = .ok ()) :
    1 ≤ repetitions ∧ isBlank runId = false ∧ isBlank evaluationVersion = false ∧ graders ≠ [] ∧
      (graders.map fun grader => (grader.name, grader.version)).Nodup := by
  rw [validateRunConfiguration] at h
  split_ifs at h with hrepetitions hrunId hversion hgraders hnodup
  exact ⟨by omega, Bool.eq_false_iff.mpr hrunId, Bool.eq_false_iff.mpr hversion,
    fun hempty => hgraders (List.isEmpty_iff.mpr hempty), hnodup⟩

theorem ne_empty_of_not_blank {text : String} (h : isBlank text = false) : text ≠ "" := by
  rintro rfl
  exact absurd h (by decide)

theorem gradeWith_honest {grader : Grader} (h : grader.Honest) (case : EvaluationCase)
    (sample : EvaluationSample) (repetition : ℕ) :
    ∃ result, gradeWith case sample repetition grader = .ok result := by
  obtain ⟨result, hgrade, hidentity⟩ := h case repetition sample
  refine ⟨result, ?_⟩
  rw [gradeWith, hgrade]
  exact if_pos hidentity

theorem gradeWith_identity {grader : Grader} {case : EvaluationCase} {sample : EvaluationSample}
    {repetition : ℕ} {result : GraderResult}
    (h : gradeWith case sample repetition grader = .ok result) :
    result.identity = (grader.name, grader.version) := by
  rw [gradeWith] at h
  cases hgrade : grader.grade case repetition sample with
  | error raised =>
    rw [hgrade] at h
    cases h
  | ok answer =>
    rw [hgrade] at h
    dsimp only at h
    split_ifs at h with hidentity
    cases h
    exact hidentity

/-- Honest graders give a grade each, under their identities. -/
theorem gradeSample_honest (h : ∀ grader ∈ graders, grader.Honest) (case : EvaluationCase)
    (sample : EvaluationSample) (repetition : ℕ) :
    ∃ results, gradeSample graders case sample repetition = .ok results ∧
      results.map GraderResult.identity = graders.map fun grader => (grader.name, grader.version) := by
  obtain ⟨results, hresults⟩ := Results.mapM_ok_of_forall fun grader hgrader =>
    gradeWith_honest (h grader hgrader) case sample repetition
  exact ⟨results, hresults, Results.map_of_forall₂ (Results.mapM_eq_ok.mp hresults)
    fun grader result hresult => gradeWith_identity hresult⟩

end

/-! The trials. -/

theorem toList_trialIdOf (runId : String) (key : String × ℕ) : (trialIdOf runId key).toList =
    (runId.toList ++ ":".toList ++ key.1.toList) ++ ':' :: (toString key.2).toList := by
  have hcolon : ":".toList = [':'] := by decide
  rw [trialIdOf, String.toList_append, String.toList_append, String.toList_append,
    String.toList_append, hcolon, List.append_assoc _ [':'] _, List.singleton_append]

theorem trialIdOf_ne (runId : String) (key : String × ℕ) : trialIdOf runId key ≠ "" := by
  intro hempty
  have hlist := toList_trialIdOf runId key
  rw [hempty] at hlist
  exact absurd hlist.symm (List.append_ne_nil_of_right_ne_nil _ (List.cons_ne_nil _ _))

/-- The last colon of a trial id stands before the repetition. -/
theorem trialIdOf_injective (runId : String) : Function.Injective (trialIdOf runId) := by
  intro key key' h
  have hlists := congrArg String.toList h
  rw [toList_trialIdOf, toList_trialIdOf] at hlists
  have hparts := Python.append_last_inj (Python.not_mem_toString (by decide) key.2)
    (Python.not_mem_toString (by decide) key'.2) hlists
  have hcase := String.toList_injective (List.append_cancel_left hparts.1)
  have hrepetition := Python.toString_injective (String.toList_injective hparts.2)
  exact Prod.ext hcase hrepetition

section

variable {system : EvaluatedSystem} {graders : List Grader} {runId : String}
  {task : EvaluationCase × ℕ} {trial : TrialResult}

/-- A trial has the key of its task, and the id of its key. -/
theorem runTrial_key (h : runTrial system graders runId task = .ok trial) :
    trial.key = (task.1.caseId, task.2) ∧ trial.trialId = trialIdOf runId trial.key ∧
      trial.Admitted := by
  rw [runTrial] at h
  cases hsystem : system task.1 task.2 with
  | error raised =>
    rw [hsystem] at h
    obtain ⟨hadmitted, rfl⟩ := build_eq_ok.mp h
    exact ⟨rfl, rfl, hadmitted⟩
  | ok sample =>
    rw [hsystem] at h
    obtain ⟨results, -, h⟩ := Results.bind_eq_ok.mp h
    obtain ⟨hadmitted, rfl⟩ := build_eq_ok.mp h
    exact ⟨rfl, rfl, hadmitted⟩

theorem errorTrial_admitted (raised : Raised) (hrepetition : 0 < task.2) :
    (errorTrial runId task.1 task.2 raised).Admitted where
  trialId_ne := trialIdOf_ne runId _
  caseId_ne := task.1.caseId_ne
  repetition_pos := hrepetition
  statusPayload := by
    refine ⟨rfl, fun hempty => ?_, rfl, rfl⟩
    have hlist := congrArg String.toList hempty
    rw [errorTrial, Option.getD_some, String.toList_append, String.toList_append] at hlist
    exact absurd (List.append_eq_nil_iff.mp (List.append_eq_nil_iff.mp hlist).1).2 (by decide)
  graderIdentities := List.nodup_nil

theorem completedTrial_admitted {results : List GraderResult} (sample : EvaluationSample)
    (hrepetition : 0 < task.2) (hgraders : graders ≠ [])
    (hidentities : (graders.map fun grader => (grader.name, grader.version)).Nodup)
    (hresults : results.map GraderResult.identity =
      graders.map fun grader => (grader.name, grader.version)) :
    (completedTrial runId task.1 task.2 sample results).Admitted where
  trialId_ne := trialIdOf_ne runId _
  caseId_ne := task.1.caseId_ne
  repetition_pos := hrepetition
  statusPayload := by
    refine ⟨rfl, rfl, fun hempty => hgraders ?_, rfl⟩
    have hnone : results = [] := hempty
    rw [hnone] at hresults
    exact List.map_eq_nil_iff.mp hresults.symm
  graderIdentities := by
    show (results.map GraderResult.identity).Nodup
    rw [hresults]
    exact hidentities

/-- Whatever the system does, a trial comes out. -/
theorem runTrial_ok (system : EvaluatedSystem) (runId : String) (hrepetition : 0 < task.2)
    (hgraders : graders ≠ [])
    (hidentities : (graders.map fun grader => (grader.name, grader.version)).Nodup)
    (hhonest : ∀ grader ∈ graders, grader.Honest) :
    ∃ trial, runTrial system graders runId task = .ok trial := by
  rw [runTrial]
  cases system task.1 task.2 with
  | error raised => exact ⟨_, build_eq_ok.mpr ⟨errorTrial_admitted raised hrepetition, rfl⟩⟩
  | ok sample =>
    obtain ⟨results, hresults, hsame⟩ := gradeSample_honest hhonest task.1 sample task.2
    exact ⟨_, Results.bind_eq_ok.mpr ⟨results, hresults, build_eq_ok.mpr
      ⟨completedTrial_admitted sample hrepetition hgraders hidentities hsame, rfl⟩⟩⟩

end

end CSO.EvaluationRunner
