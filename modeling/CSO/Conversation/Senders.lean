import CSO.Conversation.Deduplication
import CSO.Edge.Keys

/-! Messages of customers and of the assistant: what keeps them apart. -/
namespace CSO.Conversation
open Transition (Machine Table transaction throwIf)
open Work

variable {t u : Tables} {s : State} {now : ℤ} {request : Request} {reply : Reply}
  {input : MessageInput} {kind : Kind} {ids : Drawn} {result : MessageResult} {m : MessageRow}
  {failure : Failure}

/-- No customer's client message id is what an id of the assistant is stored under. -/
def Separate (requests : List (Kind × MessageInput)) : Prop :=
  ∀ a ∈ requests, ∀ b ∈ requests, a.1 = .customer → b.1 = .assistant →
    uuid a.2.conversationId = uuid b.2.conversationId →
      a.2.clientMessageId ≠ "assistant:" ++ b.2.clientMessageId

theorem Separate.mono {requests others : List (Kind × MessageInput)} (h : Separate requests)
    (hsub : ∀ a ∈ others, a ∈ requests) : Separate others :=
  fun a ha b hb => h a (hsub a ha) b (hsub b hb)

def State.requests (s : State) : List (Kind × MessageInput) :=
  s.answers.map fun a => (a.kind, a.input)

/-- Separate requests with one stored id are of one kind. -/
theorem Separate.kind_eq {requests : List (Kind × MessageInput)} (h : Separate requests)
    {a b : Answer} (ha : (a.kind, a.input) ∈ requests) (hb : (b.kind, b.input) ∈ requests)
    (hclient : a.client = b.client) : a.kind = b.kind := by
  obtain ⟨kind, input, result⟩ := a
  obtain ⟨other, input', result'⟩ := b
  obtain ⟨hconversation, hstored⟩ := Prod.mk.inj hclient
  cases kind with
  | customer =>
    cases other with
    | customer => rfl
    | assistant => exact absurd hstored (h _ ha _ hb rfl rfl hconversation)
  | assistant =>
    cases other with
    | customer => exact absurd hstored.symm (h _ hb _ ha rfl rfl hconversation.symm)
    | assistant => rfl

/-- An answer gives the message of a sender of its kind. -/
def Answer.Sent (a : Answer) (t : Tables) : Prop :=
  ∃ m ∈ t.messages.rows, m.messageId = a.result.messageId ∧ m.senderKind = a.kind.sender

theorem Answer.Sent.stays {a : Answer} (h : a.Sent t) (hextends : t.Extends u) : a.Sent u := by
  obtain ⟨m, hm, hid, hsender⟩ := h
  obtain ⟨m', hm', -, hid', -, -, hsender'⟩ := extends_client hextends hm
  exact ⟨m', hm', hid'.trans hid, hsender'.trans hsender⟩

theorem Kept.sent (hk : Kept s) (hh : Handles s.tables now request reply u)
    (hsep : Separate (State.requests ⟨u, request.answers reply ++ s.answers⟩))
    (h : ∀ a ∈ s.answers, a.Sent s.tables) :
    ∀ a ∈ request.answers reply ++ s.answers, a.Sent u := by
  intro a ha
  rcases List.mem_append.mp ha with hnew | hold
  · obtain ⟨-, -, ids, happend⟩ := hh.answer hnew
    obtain ⟨kind, input, result⟩ := a
    cases happend with
    | replayed hfound hhash hresult =>
      obtain ⟨b, hb, hkind, -, -, -, hresult'⟩ := hk.found hfound
      obtain ⟨m, hm, hid, hsender⟩ := h b hb
      have hsame : b.result = result := Result.message.inj (hresult'.symm.trans hresult)
      exact ⟨m, hm, hid.trans (congrArg MessageResult.messageId hsame),
        hsender.trans (congrArg Kind.sender hkind)⟩
    | known hnone hclient hhash =>
      obtain ⟨hm, hc⟩ := Tables.clientMessage_eq_some.mp hclient
      obtain ⟨b, hb, hcb, hsender, -⟩ := hk.owned _ hm
      refine ⟨_, hm, rfl, hsender.trans (congrArg Kind.sender ?_)⟩
      exact (hsep.kind_eq (List.mem_map_of_mem ha)
        (List.mem_map_of_mem (List.mem_append_right _ hb)) (hc.symm.trans hcb)).symm
    | stored hopen hnone hclient hstores =>
      rename_i conversation
      refine ⟨input.row (input.options kind) ids conversation.nextSequenceNumber now, ?_, rfl,
        sender_of_options input kind⟩
      rw [hstores.messages]
      exact List.mem_append_right _ (List.mem_singleton_self _)
  · exact (h a hold).stays hh.extends

theorem reachable_sent (h : runtime.Reachable IsInitial s) (hsep : Separate s.requests) :
    ∀ a ∈ s.answers, a.Sent s.tables := by
  have hall : Kept s ∧ (Separate s.requests → ∀ a ∈ s.answers, a.Sent s.tables) := by
    apply answers_invariant (I := fun s => Kept s ∧
      (Separate s.requests → ∀ a ∈ s.answers, a.Sent s.tables)) _ _ h
    · exact ⟨reachable_kept (Machine.reachable_init rfl), fun _ a ha => absurd ha List.not_mem_nil⟩
    · rintro s now request reply u ⟨hk, hs⟩ hh
      refine ⟨hk.handles hh, ?_⟩
      intro hsep
      apply hk.sent hh hsep
      apply hs
      exact hsep.mono fun a ha => by
        obtain ⟨b, hb, rfl⟩ := List.mem_map.mp ha
        exact List.mem_map_of_mem (List.mem_append_right _ hb)
  exact hall.2 hsep

/-- What is inserted fails by a constraint only. -/
theorem insertPayload_error {row : PayloadRow}
    (h : (insertPayload row).run t = .error failure u) : failure = .constraint := by
  simp only [insertPayload, EStateM.run] at h
  split_ifs at h
  cases h
  rfl

theorem insertMessage_error {row : MessageRow}
    (h : (insertMessage row).run t = .error failure u) : failure = .constraint := by
  simp only [insertMessage, EStateM.run] at h
  split_ifs at h
  cases h
  rfl

theorem insertOutbox_error {row : OutboxRow}
    (h : (insertOutbox row).run t = .error failure u) : failure = .constraint := by
  simp only [insertOutbox, EStateM.run] at h
  split_ifs at h
  cases h
  rfl

theorem insertIdempotency_error {row : IdempotencyRow}
    (h : (insertIdempotency row).run t = .error failure u) : failure = .constraint := by
  simp only [insertIdempotency, EStateM.run] at h
  split_ifs at h
  cases h
  rfl

/-- A message conflicts with a record under its key or a message under its client message id. -/
theorem conflict_found {options : AppendMessageOptions}
    (h : (appendMessage input options ids now).run t = .error .idempotencyConflict u) :
    (∃ row, t.idempotency.find? (input.key options) = some row) ∨
      ∃ m, t.clientMessage input.conversationId options.storedClientMessageId = some m := by
  obtain ⟨v, h⟩ := Transition.of_transaction_error h
  rcases Transition.bind_error.mp h with h | ⟨_, _, hselect, h⟩
  · exact absurd h Transition.read_error
  obtain ⟨rfl, rfl⟩ := selectConversation_ok.mp hselect
  rcases Transition.bind_error.mp h with h | ⟨conversation, _, hrequired, h⟩
  · cases Transition.required_error h
  obtain ⟨-, rfl⟩ := Transition.required_ok.mp hrequired
  rcases Transition.bind_error.mp h with h | ⟨_, _, hthrow, h⟩
  · cases (Transition.throwIf_error.mp h).2.1
  obtain ⟨-, rfl⟩ := Transition.throwIf_ok.mp hthrow
  rcases Transition.bind_error.mp h with h | ⟨found, _, hselect, h⟩
  · exact absurd h Transition.read_error
  obtain ⟨hfound, rfl⟩ := selectIdempotency_ok.mp hselect
  cases found with
  | some row => exact Or.inl ⟨row, hfound⟩
  | none =>
    rcases Transition.bind_error.mp h with h | ⟨client, _, hselect, h⟩
    · exact absurd h Transition.read_error
    obtain ⟨hclient, rfl⟩ := selectClientMessage_ok.mp hselect
    cases client with
    | some m => exact Or.inr ⟨m, hclient⟩
    | none =>
      rcases Transition.bind_error.mp h with h | ⟨_, a, -, h⟩
      · cases h
      rcases Transition.bind_error.mp h with h | ⟨_, b, -, h⟩
      · cases insertPayload_error h
      rcases Transition.bind_error.mp h with h | ⟨_, c, -, h⟩
      · cases insertMessage_error h
      rcases Transition.bind_error.mp h with h | ⟨_, d, -, h⟩
      · cases insertOutbox_error h
      rcases Transition.bind_error.mp h with h | ⟨_, e, -, h⟩
      · cases insertIdempotency_error h
      · exact absurd h Transition.pure_error

/-- A request conflicts with a request of its own kind. -/
theorem conflict_of_kind (h : runtime.Reachable IsInitial s)
    (hsep : Separate ((kind, input) :: s.requests))
    (hrun : ((Request.append kind input ids).exec now).run s.tables =
      .error .idempotencyConflict u) :
    ∃ b ∈ s.answers, b.kind = kind ∧
      uuid b.input.conversationId = uuid input.conversationId ∧
      (b.input.idempotencyKey = input.idempotencyKey ∨
        b.input.clientMessageId = input.clientMessageId) := by
  have hk := reachable_kept h
  rw [exec_appendText] at hrun
  have htext := Transition.bind_pure_error.mp hrun
  unfold appendText at htext
  split_ifs at htext with hsize
  · cases htext
  rcases conflict_found htext with ⟨row, hrow⟩ | ⟨m, hm⟩
  · obtain ⟨b, hb, hkind, hconversation, hkey, -⟩ := hk.found hrow
    exact ⟨b, hb, hkind, congrArg uuid hconversation, Or.inl hkey⟩
  · obtain ⟨hmem, hclient⟩ := Tables.clientMessage_eq_some.mp hm
    obtain ⟨b, hb, hcb, -⟩ := hk.owned m hmem
    have hsame : b.client = Answer.client ⟨kind, input, b.result⟩ := hcb.symm.trans hclient
    have hkind : b.kind = kind := hsep.kind_eq (b := ⟨kind, input, b.result⟩)
      (List.mem_cons_of_mem _ (List.mem_map_of_mem hb)) List.mem_cons_self hsame
    obtain ⟨hconversation, hstored⟩ := Prod.mk.inj hsame
    subst hkind
    exact ⟨b, hb, rfl, hconversation, Or.inr (stored_inj hstored)⟩

/-- While no customer uses an id that the assistant's messages are stored under, every answer gives
the message of a sender of its own kind, and no request conflicts with one of the other kind. -/
theorem messages_apart (h : runtime.Reachable IsInitial s) (hsep : Separate s.requests) :
    (∀ a ∈ s.answers, (∃ m ∈ s.tables.messages.rows, m.messageId = a.result.messageId) ∧
      ∀ m ∈ s.tables.messages.rows, m.messageId = a.result.messageId →
        m.senderKind = a.kind.sender) ∧
    (∀ kind input ids now u, Separate ((kind, input) :: s.requests) →
      ((Request.append kind input ids).exec now).run s.tables = .error .idempotencyConflict u →
      ∃ b ∈ s.answers, b.kind = kind ∧
        uuid b.input.conversationId = uuid input.conversationId ∧
        (b.input.idempotencyKey = input.idempotencyKey ∨
          b.input.clientMessageId = input.clientMessageId)) := by
  constructor
  · intro a ha
    obtain ⟨m, hm, hid, hsender⟩ := reachable_sent h hsep a ha
    refine ⟨⟨m, hm, hid⟩, ?_⟩
    intro m' hm' hid'
    rw [Table.eq_of_unique s.tables.oneId hm' hm (hid'.trans hid.symm)]
    exact hsender
  · intro kind input ids now u hsep' hrun
    exact conflict_of_kind h hsep' hrun

theorem messages_apart_turn : ∃ s, runtime.Reachable IsInitial s ∧
    s.answers.map Answer.kind = [.assistant, .customer] ∧
    ∀ a ∈ s.answers, ∀ m ∈ s.tables.messages.rows, m.messageId = a.result.messageId →
      m.senderKind = a.kind.sender := by
  obtain ⟨s, hrun, hkinds, hrequests⟩ : ∃ s, runtime.run .initial Turn.linked = some s ∧
      (s.answers.map Answer.kind = [.assistant, .customer] ∧
        s.requests = [(.assistant, Turn.answer), (.customer, Turn.message)]) :=
    Machine.exists_run (by decide +kernel)
  have hreach : runtime.Reachable IsInitial s := ⟨_, _, rfl, hrun⟩
  have hsep : Separate s.requests := by
    rw [hrequests]
    intro a ha b hb hcustomer hassistant _
    simp only [List.mem_cons, List.not_mem_nil, or_false] at ha hb
    rcases ha with rfl | rfl
    · cases hcustomer
    · rcases hb with rfl | rfl
      · decide +kernel
      · cases hassistant
  exact ⟨s, hreach, hkinds, fun a ha => ((messages_apart hreach hsep).1 a ha).2⟩

/-- A customer who uses an id of the assistant gets the place of its message. -/
theorem customer_takes_place {a : Answer} (h : runtime.Reachable IsInitial s)
    (hfree : CollisionFree s.inputs) (ha : a ∈ s.answers) (hkind : a.kind = .customer)
    (hconversation : uuid input.conversationId = uuid a.input.conversationId)
    (hsubject : input.context.subjectCustomerId = a.input.context.subjectCustomerId)
    (hid : a.input.clientMessageId = "assistant:" ++ input.clientMessageId)
    (htext : input.text = a.input.text)
    (hkey : ∀ b ∈ s.answers, b.kind = .assistant →
      b.input.idempotencyKey ≠ input.idempotencyKey) :
    ∃ u, ((Request.append .assistant input ids).exec now).run s.tables =
      .ok (.message a.result) u := by
  have hk := reachable_kept h
  obtain ⟨conversation, hopen⟩ := hk.answer_open ha hconversation hsubject
  obtain ⟨m, hm, hc, hsha, hresult⟩ := reachable_has h hfree a ha
  have hnone : s.tables.idempotency.find? (input.key (input.options .assistant)) = none := by
    cases hfound : s.tables.idempotency.find? (input.key (input.options .assistant)) with
    | none => rfl
    | some row =>
      obtain ⟨b, hb, hassistant, -, hsame, -⟩ := hk.found hfound
      exact absurd hsame (hkey b hb hassistant)
  have hclient : s.tables.clientMessage input.conversationId
      (input.options .assistant).storedClientMessageId = some m := by
    rw [Tables.clientMessage_eq_some, hc, Answer.client, hconversation, hkind]
    exact ⟨hm, congrArg (Prod.mk _) hid⟩
  obtain ⟨u, hrun, -⟩ : ∃ u, (appendMessage input (input.options .assistant) ids now).run
      s.tables = .ok ⟨m.messageId, m.key.sequenceNumber⟩ u ∧ u.messages = s.tables.messages :=
    appendMessage_again hopen hnone hclient (by rw [hsha, htext])
  refine ⟨u, ?_⟩
  rw [exec_append .assistant (htext ▸ hk.fits a ha)]
  simp only [Transition.bind_ok, Transition.pure_ok]
  exact ⟨_, _, hrun, congrArg Reply.message hresult.symm, rfl⟩

/-- The reply that the edge appends for the message, and a message of the customer under its id. -/
def Turn.derived : MessageInput :=
  { Turn.answer with
    clientMessageId := Edge.assistantClientMessageId Turn.conversationId.text "message-1" }

def Turn.taken : MessageInput :=
  { Turn.message with
    clientMessageId := "assistant:" ++ Turn.derived.clientMessageId
    text := Turn.derived.text }

/-- The assistant's append is answered with the message of a customer. -/
theorem assistant_answered_customer :
    Edge.isClientMessageId Turn.taken.clientMessageId = true ∧
    (∃ s u m result, runtime.Reachable IsInitial s ∧
      ((Request.append .assistant Turn.derived Turn.secondIds).exec 2).run s.tables =
        .ok (.message result) u ∧
      m ∈ s.tables.messages.rows ∧ m.messageId = result.messageId ∧
      m.senderKind = .endCustomer) ∧
    ¬ ∀ s, runtime.Reachable IsInitial s → ∀ a ∈ s.answers, ∀ m ∈ s.tables.messages.rows,
      m.messageId = a.result.messageId → m.senderKind = a.kind.sender := by
  obtain ⟨s, hrun, hanswers, hconversations, hmessages, hpayloads, houtbox⟩ :
      ∃ s, runtime.run .initial Turn.opened = some s ∧ (s.answers = [] ∧
        s.tables.conversations.rows =
          [CreateConversationInput.row ⟨Turn.context, "create-key-1"⟩ Turn.conversationId 0] ∧
        s.tables.messages.rows = [] ∧ s.tables.payloads.rows = [] ∧ s.tables.outbox.rows = []) :=
    Machine.exists_run (by decide +kernel)
  have hreach : runtime.Reachable IsInitial s := ⟨_, _, rfl, hrun⟩
  have hopen : s.tables.Open Turn.taken
      (CreateConversationInput.row ⟨Turn.context, "create-key-1"⟩ Turn.conversationId 0) := by
    refine ⟨(Table.find?_eq_some _ _).mpr ⟨?_, Turn.conversationId.canonical.symm⟩, rfl, rfl⟩
    rw [hconversations]
    exact List.mem_singleton_self _
  have hfresh : Fresh s.tables Turn.firstIds := by
    refine ⟨?_, (Table.find?_eq_none _ _).mpr ?_, (Table.find?_eq_none _ _).mpr ?_⟩
    · simp [hmessages]
    · simp [hpayloads]
    · simp [houtbox]
  have hnone : s.tables.idempotency.find? (Turn.taken.key (Turn.taken.options .customer)) = none := by
    cases hfound : s.tables.idempotency.find? (Turn.taken.key (Turn.taken.options .customer)) with
    | none => rfl
    | some row =>
      obtain ⟨b, hb, -⟩ := (reachable_kept hreach).found hfound
      rw [hanswers] at hb
      cases hb
  have hclient : s.tables.clientMessage Turn.taken.conversationId
      (Turn.taken.options .customer).storedClientMessageId = none := by
    unfold Tables.clientMessage
    rw [hmessages]
    rfl
  have hsize : byteLength Turn.taken.text ≤ 32 * 1024 := by decide +kernel
  obtain ⟨t, ht⟩ : ∃ t, (appendMessage Turn.taken (Turn.taken.options .customer) Turn.firstIds
      1).run s.tables = .ok ⟨Turn.firstIds.messageId.text, 1⟩ t :=
    appendMessage_stored (reachable_sound hreach) hopen hfresh hsize hnone hclient
  -- The customer's message is stored.
  let a : Answer := ⟨.customer, Turn.taken, ⟨Turn.firstIds.messageId.text, 1⟩⟩
  have hexec : ((Request.append .customer Turn.taken Turn.firstIds).exec 1).run s.tables =
      .ok (.message a.result) t := by
    rw [exec_append .customer hsize]
    simp only [Transition.bind_ok, Transition.pure_ok]
    exact ⟨_, _, ht, rfl, rfl⟩
  have hstored : runtime.Reachable IsInitial ⟨t, [a]⟩ := by
    have hanswered := reachable_answer hreach hexec
    rw [hanswers] at hanswered
    exact hanswered
  have hsingle : ∀ b ∈ State.inputs ⟨t, [a]⟩, b = Turn.taken := by
    intro b hb
    exact List.mem_singleton.mp hb
  have hfree : CollisionFree (State.inputs ⟨t, [a]⟩) := by
    intro b hb c hc
    rw [hsingle b hb, hsingle c hc]
    exact ⟨fun _ => rfl, fun _ => rfl⟩
  have hsep : Separate (State.requests ⟨t, [a]⟩) := by
    intro b hb c hc _ hassistant
    cases List.mem_singleton.mp hc
    cases hassistant
  obtain ⟨m, hm, hid, hsender⟩ := reachable_sent hstored hsep a (List.mem_singleton_self a)
  -- The assistant's append is answered with it.
  obtain ⟨u, hu⟩ : ∃ u, ((Request.append .assistant Turn.derived Turn.secondIds).exec 2).run t =
      .ok (.message a.result) u := by
    refine customer_takes_place hstored hfree (List.mem_singleton_self a) rfl rfl rfl rfl rfl ?_
    intro b hb hassistant
    cases List.mem_singleton.mp hb
    cases hassistant
  refine ⟨Edge.isClientMessageId_assistant _ _,
    ⟨⟨t, [a]⟩, u, m, a.result, hstored, hu, hm, hid, hsender⟩, ?_⟩
  intro hall
  have hanswered := reachable_answer hstored hu
  obtain ⟨m', hm', -, hid', -, -, hsender'⟩ := extends_client (exec_ok hu).extends hm
  have hassistant := hall _ hanswered ⟨.assistant, Turn.derived, a.result⟩ List.mem_cons_self m' hm'
    (hid'.trans hid)
  rw [hsender', hsender] at hassistant
  cases hassistant

end CSO.Conversation
