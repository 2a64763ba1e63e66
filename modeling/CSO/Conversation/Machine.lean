import CSO.Conversation.Steps
import CSO.Transition.Machine

/-! The Conversation Runtime as a machine: the requests of its service in any order. The state keeps
what has been answered, beside the tables. -/
namespace CSO.Conversation
open Transition (Machine Table transaction)

/-- The two operations that append a message. -/
inductive Kind
  | customer
  | assistant
  deriving DecidableEq, Repr

def MessageInput.options (input : MessageInput) : Kind → AppendMessageOptions
  | .customer => input.customer
  | .assistant => input.assistant

/-- A request with the identifiers it draws. -/
inductive Request
  | create (input : CreateConversationInput) (conversationId : Id)
  | append (kind : Kind) (input : MessageInput) (ids : Drawn)
  | link (input : LinkRefundWorkflowInput)
  | read (context : AccessContext) (conversationId : String)
  deriving DecidableEq, Repr

inductive Reply
  | conversation (conversationId : String)
  | message (result : MessageResult)
  | linked (status : LinkStatus) (workflowId : String)
  | transcript (transcript : Transcript)
  deriving DecidableEq, Repr

namespace Request

def exec (now : ℤ) : Request → Work Reply
  | create input conversationId => return .conversation (← createConversation input conversationId now)
  | append .customer input ids => return .message (← acceptMessage input ids now)
  | append .assistant input ids => return .message (← appendAssistantMessage input ids now)
  | link input => do
    let answer ← linkRefundWorkflow input now
    return .linked answer.1 answer.2
  | read context conversationId => return .transcript (← readConversation context conversationId)

end Request

/-- A message request that has been answered. -/
structure Answer where
  kind : Kind
  input : MessageInput
  result : MessageResult
  deriving DecidableEq, Repr

def Request.answers : Request → Reply → List Answer
  | append kind input _, .message result => [⟨kind, input, result⟩]
  | _, _ => []

structure State where
  tables : Tables
  answers : List Answer

structure Event where
  request : Request
  now : ℤ
  deriving DecidableEq, Repr

def State.step (s : State) (e : Event) : State :=
  match (e.request.exec e.now).run s.tables with
  | .ok reply t => ⟨t, e.request.answers reply ++ s.answers⟩
  | .error _ t => { s with tables := t }

def runtime : Machine State Event := ⟨fun s e => some (s.step e)⟩

def State.initial : State := ⟨.empty, []⟩

def IsInitial (s : State) : Prop := s = .initial

variable {t u : Tables} {s : State} {now : ℤ} {kind : Kind} {input : MessageInput} {ids : Drawn}
  {result : MessageResult} {reply : Reply} {failure : Failure}

theorem appendText_ok {options : AppendMessageOptions}
    (h : (appendText input options ids now).run t = .ok result u) :
    byteLength input.text ≤ 32 * 1024 ∧
      (appendMessage input options ids now).run t = .ok result u := by
  unfold appendText at h
  split_ifs at h with hsize
  · simp at h
  · exact ⟨not_lt.mp hsize, h⟩

/-- What an answered request leaves. -/
inductive Handles (t : Tables) (now : ℤ) : Request → Reply → Tables → Prop
  | kept (request : Request) (reply : Reply) (h : request.answers reply = []) :
      Handles t now request reply t
  | created {input : CreateConversationInput} {id : Id} {reply : Reply} {row : IdempotencyRow}
      (hrow : row.key.operation = .create) (hreply : (Request.create input id).answers reply = [])
      {hrecord : t.idempotency.find? row.key = none}
      {hfree : (t.record row hrecord).conversations.find? (input.row id now).conversationId = none} :
      Handles t now (.create input id) reply
        ((t.record row hrecord).addConversation (input.row id now) hfree)
  | appended {kind : Kind} {input : MessageInput} {ids : Drawn} {result : MessageResult} {u : Tables}
      (hsize : byteLength input.text ≤ 32 * 1024)
      (hopen : ∃ conversation, t.Open input conversation)
      (h : Appends t input (input.options kind) ids now result u) :
      Handles t now (.append kind input ids) (.message result) u
  | linked {input : LinkRefundWorkflowInput} {status : LinkStatus} {workflowId : String} {u : Tables}
      (h : Links t input (status, workflowId) u) :
      Handles t now (.link input) (.linked status workflowId) u

theorem exec_ok {request : Request} (h : (request.exec now).run t = .ok reply u) :
    Handles t now request reply u := by
  cases request with
  | create input id =>
    simp only [Request.exec, Transition.bind_ok, Transition.pure_ok] at h
    obtain ⟨answer, v, hrun, rfl, rfl⟩ := h
    rcases createConversation_ok hrun with rfl | ⟨row, hrecord, hfree, hrow, rfl⟩
    · exact .kept _ _ rfl
    · exact .created hrow rfl
  | append kind input ids =>
    cases kind with
    | customer =>
      simp only [Request.exec, acceptMessage, Transition.bind_ok, Transition.pure_ok] at h
      obtain ⟨answer, v, hrun, rfl, rfl⟩ := h
      obtain ⟨hsize, hrun⟩ := appendText_ok hrun
      obtain ⟨hopen, happend⟩ := appendMessage_ok hrun
      exact .appended hsize hopen happend
    | assistant =>
      simp only [Request.exec, appendAssistantMessage, Transition.bind_ok, Transition.pure_ok] at h
      obtain ⟨answer, v, hrun, rfl, rfl⟩ := h
      obtain ⟨hsize, hrun⟩ := appendText_ok hrun
      obtain ⟨hopen, happend⟩ := appendMessage_ok hrun
      exact .appended hsize hopen happend
  | link input =>
    simp only [Request.exec, Transition.bind_ok, Transition.pure_ok] at h
    obtain ⟨answer, v, hrun, rfl, rfl⟩ := h
    exact .linked (linkRefundWorkflow_ok hrun)
  | read context conversationId =>
    simp only [Request.exec, readConversation, Transition.bind_ok, Transition.transaction_ok,
      Transition.pure_ok, Work.selectMessages, Transition.get_ok, selectConversation_ok,
      Transition.required_ok] at h
    obtain ⟨_, _, ⟨_, _, ⟨-, rfl⟩, _, _, ⟨-, rfl⟩, _, _, ⟨_, _, ⟨-, rfl⟩, -, rfl⟩, -, rfl⟩, rfl, rfl⟩ := h
    exact .kept _ _ rfl

/-- A request that fails leaves the tables as they were. -/
theorem exec_error {request : Request} (h : (request.exec now).run t = .error failure u) :
    u = t := by
  cases request with
  | create input id => exact Transition.transaction_error (Transition.bind_pure_error.mp h)
  | append kind input ids =>
    have htext : ∀ options, (appendText input options ids now).run t = .error failure u → u = t := by
      intro options herror
      unfold appendText at herror
      split_ifs at herror
      · cases herror
        rfl
      · exact Transition.transaction_error herror
    cases kind with
    | customer => exact htext _ (Transition.bind_pure_error.mp h)
    | assistant => exact htext _ (Transition.bind_pure_error.mp h)
  | link input => exact Transition.transaction_error (Transition.bind_pure_error.mp h)
  | read context conversationId =>
    exact Transition.transaction_error (Transition.bind_pure_error.mp h)

/-- A step answers its request or changes nothing. -/
theorem step_cases (s : State) (e : Event) :
    s.step e = s ∨ ∃ reply t, (e.request.exec e.now).run s.tables = .ok reply t ∧
      Handles s.tables e.now e.request reply t ∧
      s.step e = ⟨t, e.request.answers reply ++ s.answers⟩ := by
  unfold State.step
  cases hrun : (e.request.exec e.now).run s.tables with
  | ok reply t => exact Or.inr ⟨reply, t, rfl, exec_ok hrun, rfl⟩
  | error failure t => exact Or.inl (by rw [exec_error hrun])

theorem reachable_answer {request : Request} (h : runtime.Reachable IsInitial s)
    (hrun : (request.exec now).run s.tables = .ok reply t) :
    runtime.Reachable IsInitial ⟨t, request.answers reply ++ s.answers⟩ := by
  refine h.step (e := ⟨request, now⟩) (congrArg some ?_)
  unfold State.step
  rw [hrun]

/-- What the tables keep over every answered request holds of the tables of every reachable
state. -/
theorem tables_invariant {I : Tables → Prop} (hempty : I .empty)
    (hkeeps : ∀ t now request reply u, I t → Handles t now request reply u → I u)
    (h : runtime.Reachable IsInitial s) : I s.tables := by
  apply h.invariant (I := fun s => I s.tables)
  · intro s hs
    rw [hs]
    exact hempty
  · intro s e s' hs hstep
    cases hstep
    rcases step_cases s e with hsame | ⟨reply, t, -, hhandles, hstep⟩
    · rw [hsame]
      exact hs
    · rw [hstep]
      exact hkeeps _ _ _ _ _ hs hhandles

/-! A message of a customer, the reply of the assistant and the workflow that it starts. -/
namespace Turn

def context : AccessContext := ⟨"customer-1", 1, "trace-1"⟩

def conversationId : Id := ⟨"0198c0de-0000-7000-8000-000000000001", by decide +kernel⟩

def firstIds : Drawn :=
  ⟨⟨"0198c0de-0000-7000-8000-000000000002", by decide +kernel⟩,
    ⟨"0198c0de-0000-7000-8000-000000000003", by decide +kernel⟩,
    ⟨"0198c0de-0000-7000-8000-000000000004", by decide +kernel⟩⟩

def secondIds : Drawn :=
  ⟨⟨"0198c0de-0000-7000-8000-000000000005", by decide +kernel⟩,
    ⟨"0198c0de-0000-7000-8000-000000000006", by decide +kernel⟩,
    ⟨"0198c0de-0000-7000-8000-000000000007", by decide +kernel⟩⟩

def message : MessageInput where
  context
  conversationId := conversationId.text
  idempotencyKey := "message-key-1"
  clientMessageId := "message-1"
  text := "My order T_1001 arrived damaged."

def answer : MessageInput where
  context
  conversationId := conversationId.text
  idempotencyKey := "answer-key-1"
  clientMessageId := "answer-1"
  text := "I have started a refund request."

def link : LinkRefundWorkflowInput where
  context
  conversationId := conversationId.text
  messageId := secondIds.messageId.text
  workflowId := "refund-1"
  idempotencyKey := "link-key-1"

def opened : List Event := [⟨.create ⟨context, "create-key-1"⟩ conversationId, 0⟩]

def accepted : List Event := opened ++ [⟨.append .customer message firstIds, 1⟩]

def linked : List Event :=
  accepted ++ [⟨.append .assistant answer secondIds, 2⟩, ⟨.link link, 3⟩]

end Turn

end CSO.Conversation
