import CSO.Conversation.Deduplication

/-! Which workflow a message shows. -/
namespace CSO.Conversation
open Transition (Machine Table throwIf)
open Work

variable {t u : Tables} {now : ℤ} {request : Request} {reply : Reply} {m : MessageRow}
  {input : LinkRefundWorkflowInput} {answer : LinkStatus × String}
  {links : List LinkRefundWorkflowInput}

def LinkRefundWorkflowInput.key (input : LinkRefundWorkflowInput) : IdempotencyKey :=
  ⟨.linkRefundWorkflow, input.conversationId, input.idempotencyKey⟩

/-- The text whose hash identifies a link under its key. -/
def LinkRefundWorkflowInput.canonical (input : LinkRefundWorkflowInput) : String :=
  (JS.Json.obj [("messageId", .str input.messageId),
    ("workflowId", .str input.workflowId)]).stringify

/-- SHA-256 tells these links apart. -/
def LinksApart (links : List LinkRefundWorkflowInput) : Prop :=
  ∀ a ∈ links, ∀ b ∈ links,
    JS.Sha256.hex a.canonical = JS.Sha256.hex b.canonical → a.canonical = b.canonical

theorem LinksApart.mono {others : List LinkRefundWorkflowInput} (h : LinksApart links)
    (hsub : ∀ a ∈ others, a ∈ links) : LinksApart others :=
  fun a ha b hb => h a (hsub a ha) b (hsub b hb)

theorem LinksApart.eq_of_hash (h : LinksApart links) {a b : LinkRefundWorkflowInput}
    (ha : a ∈ links) (hb : b ∈ links) (hhash : a.hash = b.hash) :
    a.messageId = b.messageId ∧ a.workflowId = b.workflowId :=
  JS.stringify_pair_inj (h a ha b hb hhash)

/-- The message of a link shows its workflow. -/
def LinkRefundWorkflowInput.Shown (input : LinkRefundWorkflowInput) (t : Tables) : Prop :=
  ∃ m ∈ t.messages.rows, m.messageId = uuid input.messageId ∧ m.senderKind = .assistant ∧
    m.refundWorkflowId = some input.workflowId

theorem LinkRefundWorkflowInput.Shown.stays (h : input.Shown t) (hextends : t.Extends u) :
    input.Shown u := by
  obtain ⟨m, hm, hid, hsender, hlinked⟩ := h
  obtain ⟨m', hm', hsame, hlink⟩ := hextends m hm
  have hid' : m'.unlinked.messageId = m.unlinked.messageId := by rw [hsame]
  have hsender' : m'.unlinked.senderKind = m.unlinked.senderKind := by rw [hsame]
  refine ⟨m', hm', hid'.trans hid, hsender'.trans hsender, ?_⟩
  rcases hlink with hnone | hkept
  · rw [hlinked] at hnone
    cases hnone
  · exact hkept.trans hlinked

/-- A link that is answered repeats the answer under its key, or shows its workflow and is recorded. -/
theorem linkRefundWorkflow_shown (h : (linkRefundWorkflow input now).run t = .ok answer u) :
    (u = t ∧ ∃ row, t.idempotency.find? input.key = some row ∧
      row.canonicalRequestHash = input.hash) ∨
    (input.Shown u ∧
      (∃ row, u.idempotency.rows = t.idempotency.rows ++ [row] ∧ row.key = input.key ∧
        row.canonicalRequestHash = input.hash) ∧
      ∀ m ∈ u.messages.rows, m ∈ t.messages.rows ∨
        (m.messageId = uuid input.messageId ∧ m.refundWorkflowId = some input.workflowId)) := by
  simp only [linkRefundWorkflow, Transition.transaction_ok, Transition.bind_ok,
    selectIdempotency_ok] at h
  obtain ⟨found, _, ⟨hfound, rfl⟩, h⟩ := h
  cases found with
  | some existing =>
    simp only [Transition.bind_ok, ensureMatchingRequest_ok, parseRefundWorkflowLinkResult_ok,
      Transition.pure_ok] at h
    obtain ⟨_, _, ⟨hhash, rfl⟩, workflowId, _, ⟨-, rfl⟩, -, rfl⟩ := h
    exact .inl ⟨rfl, existing, hfound, hhash⟩
  | none =>
    right
    simp only [Transition.bind_ok, selectAssistantMessage_ok, Transition.required_ok,
      selectConversation_ok, Transition.throwIf_ok] at h
    obtain ⟨_, _, ⟨rfl, rfl⟩, message, _, ⟨hm, rfl⟩, _, _, ⟨-, rfl⟩, conversation, _, ⟨-, rfl⟩, _, _,
      ⟨-, rfl⟩, _, _, ⟨hmatch, rfl⟩, h⟩ := h
    have hmem := List.mem_of_find?_eq_some hm
    have hselected := List.find?_some hm
    simp only [decide_eq_true_eq] at hselected
    obtain ⟨-, hid, hsender, -⟩ := hselected
    cases hlinked : message.refundWorkflowId with
    | none =>
      simp only [hlinked, if_true, Transition.bind_ok, updateRefundWorkflow_ok,
        insertIdempotency_ok, Transition.pure_ok] at h
      obtain ⟨_, _, rfl, _, _, ⟨hfree, rfl⟩, -, rfl⟩ := h
      refine ⟨⟨{ message with refundWorkflowId := some input.workflowId },
        List.mem_map.mpr ⟨message, hmem, if_pos rfl⟩, hid, hsender, rfl⟩, ⟨_, rfl, rfl, rfl⟩, ?_⟩
      intro m hmemu
      obtain ⟨m₀, hm₀, rfl⟩ := List.mem_map.mp hmemu
      by_cases hkey : m₀.key = message.key
      · have hsame := Table.eq_of_unique t.messages.unique hm₀ hmem hkey
        subst hsame
        rw [if_pos rfl]
        exact .inr ⟨hid, rfl⟩
      · rw [if_neg hkey]
        exact .inl hm₀
    | some workflowId =>
      simp only [hlinked, reduceCtorEq, if_false, Transition.bind_ok, insertIdempotency_ok,
        Transition.pure_ok] at h
      have hsame : workflowId = input.workflowId := by
        by_contra hne
        exact hmatch ⟨by simp [hlinked], by simp [hlinked, hne]⟩
      subst hsame
      obtain ⟨_, _, ⟨hrecord, rfl⟩, -, rfl⟩ := h
      exact ⟨⟨message, hmem, hid, hsender, hlinked⟩, ⟨_, rfl, rfl, rfl⟩, fun m hmemu => .inl hmemu⟩

/-- What the tables keep of the links that were answered. -/
structure LinksKept (links : List LinkRefundWorkflowInput) (t : Tables) : Prop where
  recorded : ∀ row ∈ t.idempotency.rows, row.key.operation = .linkRefundWorkflow →
    ∃ l ∈ links, row.canonicalRequestHash = l.hash
  shown : ∀ l ∈ links, l.Shown t
  linked : ∀ m ∈ t.messages.rows, ∀ workflowId, m.refundWorkflowId = some workflowId →
    ∃ l ∈ links, m.messageId = uuid l.messageId ∧ workflowId = l.workflowId

theorem linksKept_empty : LinksKept [] .empty where
  recorded _ hrow := absurd hrow List.not_mem_nil
  shown _ hl := absurd hl List.not_mem_nil
  linked _ hm := absurd hm List.not_mem_nil

/-- A request that links nothing leaves links as they are. -/
theorem LinksKept.handles (h : LinksKept links t) (hh : Handles t now request reply u)
    (hother : ∀ input, request ≠ .link input) : LinksKept links u where
  recorded := by
    intro row hrow hop
    rcases hh.idempotency with hsame | ⟨new, hrows, -, hnew⟩
    · exact h.recorded row (hsame ▸ hrow) hop
    · rw [hrows, List.mem_append, List.mem_singleton] at hrow
      rcases hrow with hold | rfl
      · exact h.recorded row hold hop
      · cases hh with
        | kept => simp at hrows
        | created hcreate =>
          obtain rfl := List.singleton_inj.mp (List.append_cancel_left hrows)
          rw [hcreate] at hop
          cases hop
        | @appended kind input ids result u hsize hopen happend =>
          rcases hnew with hcreate | hlink | ⟨kind', input', ids', result', hrequest, -, hrecord⟩
          · rw [hcreate] at hop
            cases hop
          · obtain ⟨a, ha, hkind, hkey, -⟩ : ∃ a ∈ (Request.append kind input ids).answers
                (.message result), a.kind = kind ∧ row.key = a.key ∧ True := by
              cases happend with
              | replayed => simp at hrows
              | known hfree =>
                obtain rfl := List.singleton_inj.mp (List.append_cancel_left hrows)
                exact ⟨_, List.mem_singleton_self _, rfl, rfl, trivial⟩
              | stored hopen hnone hclient hstores =>
                rw [hstores.idempotency] at hrows
                obtain rfl := List.singleton_inj.mp (List.append_cancel_left hrows)
                exact ⟨_, List.mem_singleton_self _, rfl, rfl, trivial⟩
            rw [hkey, Answer.key, MessageInput.key, operation_of_options] at hlink
            cases hkind' : a.kind <;> rw [hkind'] at hlink <;> cases hlink
          · rw [hrecord, MessageInput.record, MessageInput.key, operation_of_options] at hop
            cases kind' <;> cases hop
        | linked => exact absurd rfl (hother _)
  shown l hl := (h.shown l hl).stays hh.extends
  linked := by
    intro m hm workflowId hlinked
    cases hh with
    | kept => exact h.linked m hm workflowId hlinked
    | created => exact h.linked m hm workflowId hlinked
    | appended hsize hopen happend =>
      cases happend with
      | replayed => exact h.linked m hm workflowId hlinked
      | known => exact h.linked m hm workflowId hlinked
      | stored hopen hnone hclient hstores =>
        rw [hstores.messages, List.mem_append, List.mem_singleton] at hm
        rcases hm with hold | rfl
        · exact h.linked m hold workflowId hlinked
        · cases hlinked
    | linked => exact absurd rfl (hother _)

/-- A link that is answered is kept. -/
theorem LinksKept.link (h : LinksKept links t)
    (hrun : (linkRefundWorkflow input now).run t = .ok answer u)
    (hapart : LinksApart (input :: links)) : LinksKept (input :: links) u := by
  have hextends : t.Extends u := (linkRefundWorkflow_ok hrun).extends
  rcases linkRefundWorkflow_shown hrun with ⟨rfl, row, hrow, hhash⟩ | ⟨hshown, ⟨row, hrows, -, hhash⟩,
    hmessages⟩
  · obtain ⟨hmem, hkey⟩ := (Table.find?_eq_some _ _).mp hrow
    obtain ⟨l, hl, hsame⟩ := h.recorded row hmem (by rw [hkey]; rfl)
    obtain ⟨hid, hworkflow⟩ := hapart.eq_of_hash (List.mem_cons_of_mem input hl) List.mem_cons_self
      (hsame.symm.trans hhash)
    constructor
    · intro row hrow hop
      obtain ⟨l, hl, hsame⟩ := h.recorded row hrow hop
      exact ⟨l, List.mem_cons_of_mem input hl, hsame⟩
    · intro l' hl'
      rcases List.mem_cons.mp hl' with rfl | hold
      · obtain ⟨m, hm, hmid, hsender, hlinked⟩ := h.shown l hl
        exact ⟨m, hm, hid ▸ hmid, hsender, hworkflow ▸ hlinked⟩
      · exact h.shown l' hold
    · intro m hm workflowId hlinked
      obtain ⟨l, hl, hsame⟩ := h.linked m hm workflowId hlinked
      exact ⟨l, List.mem_cons_of_mem input hl, hsame⟩
  · constructor
    · intro row' hrow' hop
      rw [hrows, List.mem_append, List.mem_singleton] at hrow'
      rcases hrow' with hold | rfl
      · obtain ⟨l, hl, hsame⟩ := h.recorded row' hold hop
        exact ⟨l, List.mem_cons_of_mem input hl, hsame⟩
      · exact ⟨input, List.mem_cons_self, hhash⟩
    · intro l hl
      rcases List.mem_cons.mp hl with rfl | hold
      · exact hshown
      · exact (h.shown l hold).stays hextends
    · intro m hm workflowId hlinked
      rcases hmessages m hm with hold | ⟨hid, hnew⟩
      · obtain ⟨l, hl, hsame⟩ := h.linked m hold workflowId hlinked
        exact ⟨l, List.mem_cons_of_mem input hl, hsame⟩
      · exact ⟨input, List.mem_cons_self, hid, Option.some.inj (hlinked.symm.trans hnew)⟩

end CSO.Conversation
