import CSO.HumanOperations.MemorySteps

/-! When the repository in memory answers as the Postgres repository does. -/
namespace CSO.HumanOperations
open Transition (Machine IsPostgresText)

/-- The texts of a packet. -/
def RefundReviewPacket.texts (packet : RefundReviewPacket) : List String :=
  packet.orderReference.toList ++ packet.selectedItemIds.getD [] ++
    (packet.requestedAmount.map Money.currency).toList ++ packet.refundReason.toList ++
    packet.policyReasonCodes ++ packet.evidenceIds ++ packet.knowledgeReleaseId.toList ++
    [packet.policyVersion]

namespace CaseCall

/-- What a call asks of both repositories so that they do the same. -/
def Kept (s : Memory × Database) : CaseCall → Prop
  | openCase _ uuid => s.1.cases.get? ("case-" ++ uuid.text) = none
  | closeCase _ => True
  | claimCase input => KeyKept s input.scope input.key (Memory.claimFingerprint input)
  | reassignCase input => KeyKept s input.scope input.key (Memory.reassignFingerprint input)
  | decideCase input uuid =>
    KeyKept s input.scope input.key (Memory.decisionFingerprint input) ∧
      s.1.outbox.get? ("outbox-" ++ uuid.text) = none ∧
      (s.2 input.scope).outbox.find? ("outbox-" ++ uuid.text) = none
  | listPendingOutbox _ _ => True
  | markOutboxDelivered _ _ => True

/-- The texts of a call. -/
def texts : CaseCall → List String
  | openCase input _ => input.scope.tenantId :: input.scope.environmentId :: input.workflowId ::
      input.policyVersion :: input.reviewPacket.texts
  | closeCase input => [input.scope.tenantId, input.scope.environmentId, input.caseId,
      input.workflowId]
  | claimCase input => [input.scope.tenantId, input.scope.environmentId, input.caseId,
      input.staffId, input.idempotencyKey]
  | reassignCase input => [input.scope.tenantId, input.scope.environmentId, input.caseId,
      input.assignedStaffId, input.idempotencyKey]
  | decideCase input _ => [input.scope.tenantId, input.scope.environmentId, input.caseId,
      input.staffId, input.idempotencyKey] ++ input.reasonCode.toList ++ input.note.toList
  | listPendingOutbox scope _ => [scope.tenantId, scope.environmentId]
  | markOutboxDelivered scope eventId => [scope.tenantId, scope.environmentId, eventId]

end CaseCall

section Calls
variable {memory : Memory} {db : Database}

/-- What agrees is answered alike, and the memory keeps up. -/
theorem Agrees.alike {α β : Type} {view : β → α} {work : Work β}
    {result : Except Failure (α × Memory)} {e : TimedCall} (h : memory.Holds db)
    (hagrees : Agrees db e.call.scope view (db e.call.scope) work result) (answer : α → CaseAnswer)
    (hatomic : ∀ failure t, work.run (db e.call.scope) = .error failure t → t = db e.call.scope)
    (hmemory : e.call.memory e.now memory = result.map fun (a, after) => (answer a, after))
    (hpostgres : e.call.postgres e.now = work >>= fun b => pure (answer (view b))) :
    repositories.Alike (memory, db) e ∧
      (repositories.memory e memory).2.Holds (repositories.database e db).2 := by
  rw [Transition.Double.Alike, repositories]
  dsimp only
  rw [hmemory, hpostgres]
  cases result with
  | ok value =>
    obtain ⟨b, t, hrun, hview, hafter⟩ := hagrees
    rw [Transition.bind_of_ok hrun]
    exact ⟨congrArg (fun a => Except.ok (answer a)) hview.symm, hafter⟩
  | error failure =>
    obtain ⟨t, hrun⟩ := hagrees
    rw [Transition.bind_of_error hrun, hatomic failure t hrun]
    exact ⟨rfl, h.unchanged⟩

/-- A call that both repositories can do is answered alike, and the memory keeps up. -/
theorem CaseCall.Kept.step {e : TimedCall} (h : memory.Holds db) (hkept : e.call.Kept (memory, db))
    (htenant : IsPostgresText e.call.scope.tenantId)
    (henvironment : IsPostgresText e.call.scope.environmentId) :
    repositories.Alike (memory, db) e ∧
      (repositories.memory e memory).2.Holds (repositories.database e db).2 := by
  obtain ⟨call, now⟩ := e
  cases call with
  | openCase input uuid =>
    exact (h.openCase input uuid now hkept htenant henvironment).alike h .case
      (fun _ _ => Transition.transaction_error) rfl rfl
  | closeCase input =>
    exact (h.closeCase input now).alike h .case (fun _ _ => Transition.transaction_error) rfl rfl
  | claimCase input =>
    exact (h.claimCase input now hkept).alike h .case (fun _ _ => Transition.transaction_error)
      rfl rfl
  | reassignCase input =>
    exact (h.reassignCase input now hkept).alike h .case (fun _ _ => Transition.transaction_error)
      rfl rfl
  | decideCase input uuid =>
    exact (h.decideCase input uuid now hkept.1 hkept.2.1 hkept.2.2).alike h
      (fun decided => .decision decided.1 decided.2) (fun _ _ => Transition.transaction_error)
      rfl rfl
  | listPendingOutbox scope limit =>
    obtain ⟨hrun, hshown⟩ := h.listPendingOutbox scope limit
    have hagrees : Agrees db scope (List.map toOutboxEvent) (db scope)
        (HumanOperations.listPendingOutbox limit) (.ok (memory.listPendingOutbox scope limit, memory)) :=
      ⟨_, _, hrun, hshown, h.unchanged⟩
    exact hagrees.alike h .events (fun _ _ => Transition.transaction_error) rfl rfl
  | markOutboxDelivered scope eventId =>
    have hagrees : Agrees db scope id (db scope) (HumanOperations.markOutboxDelivered eventId)
        (.ok ((), memory.markOutboxDelivered scope eventId)) := ⟨(), _, rfl, rfl, h.deliver eventId⟩
    exact hagrees.alike h (fun _ => .done) (fun _ _ => Transition.transaction_error) rfl rfl

end Calls

/-- The texts of a call are texts that Postgres keeps, and row security shows its scope. -/
def CaseCall.Admitted (call : CaseCall) : Prop :=
  call.scope.tenantId ≠ "" ∧ call.scope.environmentId ≠ "" ∧ ∀ text ∈ call.texts, IsPostgresText text

theorem CaseCall.Admitted.scopeTexts {call : CaseCall} (h : call.Admitted) :
    IsPostgresText call.scope.tenantId ∧ IsPostgresText call.scope.environmentId := by
  cases call with
  | _ => exact ⟨h.2.2 _ List.mem_cons_self, h.2.2 _ (List.mem_cons_of_mem _ List.mem_cons_self)⟩

/-- In every run of calls that both repositories can do, they answer alike and the memory holds
what the database holds. -/
theorem case_double_answers {calls : List TimedCall} {s : Memory × Database}
    (hrun : repositories.machine.run (.empty, fun _ => .empty) calls = some s)
    (hkept : repositories.machine.Along (fun s e _ => e.call.Kept s ∧ e.call.Admitted)
      (.empty, fun _ => .empty) calls) :
    repositories.machine.Along (fun s e _ => repositories.Alike s e)
        (.empty, fun _ => .empty) calls ∧
      s.1.Holds s.2 := by
  refine Transition.Double.alike_run (R := fun memory db => memory.Holds db) (fun s e h hmeets => ?_)
    Memory.Holds.empty hrun hkept
  exact hmeets.1.step h hmeets.2.scopeTexts.1 hmeets.2.scopeTexts.2

namespace Journey

/-- Staff claims a takeover case. -/
def claimedTakeover : List TimedCall := [
  ⟨.openCase takeover caseUuid, 1786190700000⟩,
  ⟨.claimCase (claim 1 "key-1"), 1786190701000⟩]

/-- The case is reassigned under the key of the claim. -/
def reassignment : ReassignHumanCaseInput where
  scope
  caseId
  assignedStaffId := "staff-2"
  expectedCaseVersion := 2
  idempotencyKey := "key-1"

end Journey

theorem case_double_answers_claim :
    repositories.machine.Along (fun s e _ => repositories.Alike s e) (.empty, fun _ => .empty)
      Journey.claimedTakeover := by
  have hrun : ∃ s, repositories.machine.run (.empty, fun _ => .empty) Journey.claimedTakeover =
      some s := ⟨_, rfl⟩
  obtain ⟨s, hs⟩ := hrun
  refine (case_double_answers hs ?_).1
  refine (Machine.along_cons_of_step rfl).mpr ⟨⟨rfl, by decide, by decide, by decide⟩, ?_⟩
  refine (Machine.along_cons_of_step rfl).mpr ⟨⟨⟨?_, ?_⟩, by decide, by decide, by decide⟩, trivial⟩
  · have hempty : Database.Unshared (fun _ => .empty) Journey.scope (Journey.claim 1 "key-1").key :=
      fun place other _ hfound => absurd rfl hfound
    exact hempty.of_idempotency rfl
  · intro stored hstored
    cases hstored

/-- A key of a claim is used again for a reassignment. -/
theorem shared_key_differs :
    ¬repositories.machine.Along (fun s e _ => repositories.Alike s e) (.empty, fun _ => .empty)
      (Journey.claimedTakeover ++ [⟨.reassignCase Journey.reassignment, 1786190702000⟩]) := by
  intro halike
  have hopened := (halike _ rfl).2
  have hclaimed := (hopened _ rfl).2
  have hreassigned := (hclaimed _ rfl).1
  revert hreassigned
  unfold Transition.Double.Alike
  decide +kernel

end CSO.HumanOperations
