import CSO.Edge.OrderReference
import Mathlib.Data.List.Sort

/-! The customer's messages that the edge hands on as context, newest first within a budget. -/
namespace CSO.Edge

def maxCustomerConversationMessages : ℕ := 8

def maxCustomerConversationMessageCharacters : ℕ := 2000

def maxCustomerConversationContextCharacters : ℕ := 8000

structure CustomerConversationMessage where
  sequenceNumber : ℕ
  text : String
  deriving DecidableEq, Repr

structure ConversationTranscriptMessage where
  messageId : String
  sequenceNumber : ℕ
  senderKind : String
  text : String
  deriving DecidableEq, Repr

structure AcceptedCustomerMessage where
  messageId : String
  text : String
  deriving DecidableEq, Repr

/-- The messages of the customer in their order. -/
def customerMessages (messages : List ConversationTranscriptMessage) :
    List ConversationTranscriptMessage :=
  (messages.filter fun message => message.senderKind = "END_CUSTOMER").insertionSort
    fun left right => left.sequenceNumber ≤ right.sequenceNumber

/-- What the loop has selected, newest first. -/
structure Selection where
  selected : List CustomerConversationMessage
  totalCharacters : ℕ
  deriving DecidableEq, Repr

namespace Selection

def empty : Selection := ⟨[], 0⟩

/-- The limits admit the message. -/
def Room (s : Selection) (message : ConversationTranscriptMessage) : Prop :=
  JS.length message.text ≤ maxCustomerConversationMessageCharacters ∧
    s.selected.length ≠ maxCustomerConversationMessages ∧
    s.totalCharacters + JS.length message.text ≤ maxCustomerConversationContextCharacters

instance (s : Selection) (message : ConversationTranscriptMessage) :
    Decidable (s.Room message) := inferInstanceAs (Decidable (_ ∧ _ ∧ _))

/-- A message that the limits do not admit is left out, and the loop goes on. -/
def visit (s : Selection) (message : ConversationTranscriptMessage) : Selection :=
  if s.Room message then
    ⟨s.selected ++ [⟨message.sequenceNumber, message.text⟩],
      s.totalCharacters + JS.length message.text⟩
  else s

/-- The selection after the messages, newest first. -/
def visitAll (newest : List ConversationTranscriptMessage) : Selection := newest.foldl visit empty

end Selection

def buildCustomerConversationContext (messages : List ConversationTranscriptMessage)
    (acceptedCustomerMessage : AcceptedCustomerMessage) :
    Except String (List CustomerConversationMessage) :=
  match (customerMessages messages).find? fun message =>
      message.messageId = acceptedCustomerMessage.messageId ∧
        message.text = acceptedCustomerMessage.text with
  | none => .error "The persisted conversation is missing the accepted customer message"
  | some acceptedMessage =>
    let context := (Selection.visitAll (customerMessages messages).reverse).selected.reverse
    if context.any fun message => message.sequenceNumber = acceptedMessage.sequenceNumber then
      .ok context
    else .error "The accepted customer message exceeds the conversation context limits"

variable {message : ConversationTranscriptMessage} {s : Selection}
  {newest newer older mid rest : List ConversationTranscriptMessage}
  {messages : List ConversationTranscriptMessage} {accepted : AcceptedCustomerMessage}
  {context : List CustomerConversationMessage}

/-- What a customer's text says about an order. -/
def ConversationTranscriptMessage.resolution (message : ConversationTranscriptMessage) :
    OrderReferenceResolution := resolveOrderReferenceFromText message.text

/-- The reference of a context. -/
def contextReference (context : List CustomerConversationMessage) : Option String :=
  resolveOrderReferenceFromCustomerMessages (context.map CustomerConversationMessage.text) none

/-- The reference of all that the customer has written. -/
def transcriptReference (messages : List ConversationTranscriptMessage) : Option String :=
  resolveOrderReferenceFromCustomerMessages
    ((customerMessages messages).map ConversationTranscriptMessage.text) none

theorem build_ok (h : buildCustomerConversationContext messages accepted = .ok context) :
    context = (Selection.visitAll (customerMessages messages).reverse).selected.reverse := by
  unfold buildCustomerConversationContext at h
  split at h
  · cases h
  · simp only at h
    split_ifs at h
    exact (Except.ok.inj h).symm

namespace Selection

/-- The resolutions of the selected texts, newest first. -/
def resolutions (s : Selection) : List OrderReferenceResolution :=
  s.selected.map fun message => resolveOrderReferenceFromText message.text

theorem visit_room (h : s.Room message) :
    (s.visit message).resolutions = s.resolutions ++ [message.resolution] := by
  unfold visit resolutions
  rw [if_pos h, List.map_append]
  rfl

theorem visit_no_room (h : ¬s.Room message) : s.visit message = s := if_neg h

theorem visitAll_append (newer older : List ConversationTranscriptMessage) :
    visitAll (newer ++ older) = older.foldl visit (visitAll newer) := List.foldl_append

theorem visitAll_concat (newer : List ConversationTranscriptMessage)
    (message : ConversationTranscriptMessage) :
    visitAll (newer ++ [message]) = (visitAll newer).visit message := by
  rw [visitAll_append]
  rfl

/-- What has been selected stays selected, before whatever is selected later. -/
theorem foldl_resolutions (older : List ConversationTranscriptMessage) (s : Selection) :
    ∃ later, (older.foldl visit s).resolutions = s.resolutions ++ later := by
  induction older generalizing s with
  | nil => exact ⟨[], (List.append_nil _).symm⟩
  | cons message older ih =>
    obtain ⟨later, hlater⟩ := ih (s.visit message)
    rw [List.foldl_cons, hlater]
    by_cases hroom : s.Room message
    · rw [visit_room hroom, List.append_assoc]
      exact ⟨_, rfl⟩
    · rw [visit_no_room hroom]
      exact ⟨later, rfl⟩

/-- Messages that name nothing add nothing that decides. -/
theorem foldl_none (h : ∀ m ∈ older, m.resolution = .none) (hs : ∀ r ∈ s.resolutions, r = .none) :
    ∀ r ∈ (older.foldl visit s).resolutions, r = .none := by
  induction older generalizing s with
  | nil => exact hs
  | cons message older ih =>
    rw [List.foldl_cons]
    refine ih (fun m hm => h m (List.mem_cons_of_mem _ hm)) ?_
    by_cases hroom : s.Room message
    · rw [visit_room hroom]
      intro r hr
      rcases List.mem_append.mp hr with hold | hnew
      · exact hs r hold
      · rw [List.mem_singleton.mp hnew]
        exact h message List.mem_cons_self
    · rw [visit_no_room hroom]
      exact hs

/-- Either nothing that is selected later decides, or the first one that does is where the loop
comes to it. -/
theorem foldl_split (older : List ConversationTranscriptMessage)
    (hs : ∀ r ∈ s.resolutions, r = .none) :
    (∀ r ∈ (older.foldl visit s).resolutions, r = .none) ∨
    ∃ mid k rest, older = mid ++ k :: rest ∧ (mid.foldl visit s).Room k ∧
      (∀ r ∈ (mid.foldl visit s).resolutions, r = .none) ∧ k.resolution ≠ .none := by
  induction older generalizing s with
  | nil => exact Or.inl hs
  | cons message older ih =>
    rw [List.foldl_cons]
    by_cases hdecides : s.Room message ∧ message.resolution ≠ .none
    · exact Or.inr ⟨[], message, older, rfl, hdecides.1, hs, hdecides.2⟩
    · have hvisit : ∀ r ∈ (s.visit message).resolutions, r = .none := by
        by_cases hroom : s.Room message
        · rw [visit_room hroom]
          intro r hr
          rcases List.mem_append.mp hr with hold | hnew
          · exact hs r hold
          · rw [List.mem_singleton.mp hnew]
            by_contra hne
            exact hdecides ⟨hroom, hne⟩
        · rw [visit_no_room hroom]
          exact hs
      rcases ih hvisit with hall | ⟨mid, k, rest, rfl, hroom, hmid, hk⟩
      · exact Or.inl hall
      · exact Or.inr ⟨message :: mid, k, rest, rfl, hroom, hmid, hk⟩

/-- The first selected message that decides, decides. -/
theorem firstReference_foldl {k : ConversationTranscriptMessage} (hroom : (mid.foldl visit s).Room k)
    (hmid : ∀ r ∈ (mid.foldl visit s).resolutions, r = .none) (hk : k.resolution ≠ .none) :
    firstReference ((mid ++ k :: rest).foldl visit s).resolutions = k.resolution.value? := by
  obtain ⟨later, hlater⟩ := foldl_resolutions rest ((mid.foldl visit s).visit k)
  rw [List.foldl_append, List.foldl_cons, hlater, visit_room hroom, List.append_assoc,
    List.singleton_append]
  exact firstReference_decided hmid hk

end Selection

/-- Where the limits leave out the newest message with a reference, the older ones that they admit
before any other reference name none, several or the same one. -/
def NothingResurrected (newest : List ConversationTranscriptMessage) : Prop :=
  ∀ newer message mid k rest, newest = newer ++ message :: (mid ++ k :: rest) →
    (∀ m ∈ newer, m.resolution = .none) → message.resolution ≠ .none →
    ¬(Selection.visitAll newer).Room message →
    (mid.foldl Selection.visit (Selection.visitAll newer)).Room k →
    (∀ r ∈ (mid.foldl Selection.visit (Selection.visitAll newer)).resolutions, r = .none) →
    k.resolution = .none ∨ k.resolution = .ambiguous ∨ k.resolution = message.resolution

theorem contextReference_eq (newest : List ConversationTranscriptMessage)
    (h : context = (Selection.visitAll newest).selected.reverse) :
    contextReference context = firstReference (Selection.visitAll newest).resolutions := by
  unfold contextReference resolveOrderReferenceFromCustomerMessages Selection.resolutions
  rw [h, ← List.map_reverse, List.reverse_reverse, List.map_map]
  rfl

theorem transcriptReference_eq (messages : List ConversationTranscriptMessage) :
    transcriptReference messages = firstReference
      ((customerMessages messages).reverse.map ConversationTranscriptMessage.resolution) := by
  unfold transcriptReference resolveOrderReferenceFromCustomerMessages
  rw [← List.map_reverse, List.map_map]
  rfl

/-- The newest message with a reference decides for the transcript. -/
theorem firstReference_newest (hnewer : ∀ m ∈ newer, m.resolution = .none)
    (hmessage : message.resolution ≠ .none) :
    firstReference ((newer ++ message :: older).map ConversationTranscriptMessage.resolution) =
      message.resolution.value? := by
  rw [List.map_append, List.map_cons]
  refine firstReference_decided (fun r hr => ?_) hmessage
  obtain ⟨m, hm, rfl⟩ := List.mem_map.mp hr
  exact hnewer m hm

/-- The messages up to the newest one with a reference. -/
theorem newest_split (newest : List ConversationTranscriptMessage) :
    (∀ m ∈ newest, m.resolution = .none) ∨
      ∃ newer message older, newest = newer ++ message :: older ∧
        (∀ m ∈ newer, m.resolution = .none) ∧ message.resolution ≠ .none := by
  induction newest with
  | nil => exact Or.inl fun m hm => absurd hm List.not_mem_nil
  | cons m newest ih =>
    by_cases hm : m.resolution = .none
    · rcases ih with hall | ⟨newer, message, older, rfl, hnewer, hmessage⟩
      · exact Or.inl (List.forall_mem_cons.mpr ⟨hm, hall⟩)
      · exact Or.inr ⟨m :: newer, message, older, rfl,
          List.forall_mem_cons.mpr ⟨hm, hnewer⟩, hmessage⟩
    · exact Or.inr ⟨[], m, newest, rfl, fun m hm => absurd hm List.not_mem_nil, hm⟩

/-- Where nothing is resurrected, the context says nothing or what the transcript says. -/
theorem reference_of_nothingResurrected (h : NothingResurrected newest) :
    firstReference (Selection.visitAll newest).resolutions = none ∨
      firstReference (Selection.visitAll newest).resolutions =
        firstReference (newest.map ConversationTranscriptMessage.resolution) := by
  have hempty : ∀ r ∈ Selection.empty.resolutions, r = .none := fun r hr =>
    absurd hr List.not_mem_nil
  rcases newest_split newest with hall | ⟨newer, message, older, rfl, hnewer, hmessage⟩
  · exact Or.inl (firstReference_none (Selection.foldl_none hall hempty))
  have hover : ∀ r ∈ (Selection.visitAll newer).resolutions, r = .none :=
    Selection.foldl_none hnewer hempty
  rw [firstReference_newest hnewer hmessage]
  by_cases hroom : (Selection.visitAll newer).Room message
  · exact Or.inr (Selection.firstReference_foldl hroom hover hmessage)
  -- The limits leave the newest reference out, and the loop goes on with the older messages.
  rw [Selection.visitAll_append, List.foldl_cons, Selection.visit_no_room hroom]
  rcases Selection.foldl_split older hover with hnone | ⟨mid, k, rest, rfl, hk, hmid, hdecides⟩
  · exact Or.inl (firstReference_none hnone)
  rw [Selection.firstReference_foldl hk hmid hdecides]
  rcases h newer message mid k rest rfl hnewer hmessage hroom hk hmid with hno | hmany | hsame
  · exact absurd hno hdecides
  · rw [hmany]
    exact Or.inl rfl
  · rw [hsame]
    exact Or.inr rfl

/-- And a reference that the context takes from an older message is none, or the same one. -/
theorem nothingResurrected_of_reference
    (h : firstReference (Selection.visitAll newest).resolutions = none ∨
      firstReference (Selection.visitAll newest).resolutions =
        firstReference (newest.map ConversationTranscriptMessage.resolution)) :
    NothingResurrected newest := by
  rintro newer message mid k rest rfl hnewer hmessage hroom hk hmid
  by_cases hdecides : k.resolution = .none
  · exact Or.inl hdecides
  right
  rw [firstReference_newest hnewer hmessage, Selection.visitAll_append, List.foldl_cons,
    Selection.visit_no_room hroom, Selection.firstReference_foldl hk hmid hdecides] at h
  cases hkr : k.resolution with
  | none => exact absurd hkr hdecides
  | ambiguous => exact Or.inl rfl
  | unique value =>
    rw [hkr] at h
    rcases h with hnone | hsame
    · cases hnone
    · cases hmr : message.resolution with
      | none => exact absurd hmr hmessage
      | ambiguous => rw [hmr] at hsame; cases hsame
      | unique value' =>
        rw [hmr] at hsame
        exact Or.inr (congrArg OrderReferenceResolution.unique (Option.some.inj hsame))

/-- A context never brings back an older order, exactly where nothing is resurrected. -/
theorem context_never_resurrects
    (h : buildCustomerConversationContext messages accepted = .ok context) :
    (contextReference context = none ∨
        contextReference context = transcriptReference messages) ↔
      NothingResurrected (customerMessages messages).reverse := by
  rw [contextReference_eq _ (build_ok h), transcriptReference_eq]
  exact ⟨nothingResurrected_of_reference, reference_of_nothingResurrected⟩

/-! A customer with two orders. -/
namespace Sample

/-- A message of the customer. -/
def customer (messageId : String) (sequenceNumber : ℕ) (text : String) :
    ConversationTranscriptMessage := ⟨messageId, sequenceNumber, "END_CUSTOMER", text⟩

def first : String := "My order AVV8JSZH8G6ZZDMX is late."

/-- So many exclamation marks before the text. -/
def exclamation (characters : ℕ) (text : String) : String :=
  String.ofList (List.replicate characters '!' ++ text.toList)

def second : String := exclamation 200 "QXB4NEW2EPG6YJ7Q"

def long : String := exclamation 1960 ""

/-- The first order, then the second one in a longer message, then long messages without any. -/
def transcript (second long : String) : List ConversationTranscriptMessage :=
  [customer "message_1" 1 first, customer "message_2" 2 second, customer "message_3" 3 long,
    customer "message_4" 4 long, customer "message_5" 5 long, customer "message_6" 6 long]

theorem length_exclamation (characters : ℕ) (text : String) :
    JS.length (exclamation characters text) = characters + JS.length text := by
  unfold JS.length exclamation
  rw [String.toList_ofList, List.map_append, List.sum_append, List.map_replicate,
    List.sum_replicate_nat]
  exact congrArg (· + _) (Nat.mul_one characters)

/-- Exclamation marks name no order. -/
theorem matchAll_exclamation (characters : ℕ) (text : List Char) :
    matchAll (some '!') 0 (List.replicate characters '!' ++ text) = matchAll (some '!') 0 text := by
  induction characters with
  | zero => rfl
  | succ characters ih =>
    rw [List.replicate_succ, List.cons_append, ← ih]
    rfl

theorem resolve_exclamation (characters : ℕ) (text : String) :
    resolveOrderReferenceFromText (exclamation (characters + 1) text) =
      resolveOrderReferenceFromText (exclamation 1 text) := by
  unfold resolveOrderReferenceFromText orderReferences exclamation
  rw [String.toList_ofList, String.toList_ofList, List.replicate_succ, List.cons_append]
  have h : matchAll .none 0 ('!' :: (List.replicate characters '!' ++ text.toList)) =
      matchAll .none 0 (List.replicate 1 '!' ++ text.toList) :=
    matchAll_exclamation characters text.toList
  rw [h]

theorem customerMessages_transcript (second long : String) :
    customerMessages (transcript second long) = transcript second long := by
  simp [customerMessages, transcript, customer]

theorem build_transcript {second long : String} (hsecond : JS.length second = 216)
    (hlong : JS.length long = 1960) :
    buildCustomerConversationContext (transcript second long) ⟨"message_6", long⟩ =
      .ok [⟨1, first⟩, ⟨3, long⟩, ⟨4, long⟩, ⟨5, long⟩, ⟨6, long⟩] := by
  have hfirst : JS.length first = 34 := by decide +kernel
  have hover : (Selection.visitAll (transcript second long).reverse).selected.reverse =
      [⟨1, first⟩, ⟨3, long⟩, ⟨4, long⟩, ⟨5, long⟩, ⟨6, long⟩] := by
    simp [Selection.visitAll, Selection.visit, Selection.Room, Selection.empty, transcript, customer,
      hfirst, hsecond, hlong, maxCustomerConversationMessageCharacters,
      maxCustomerConversationMessages, maxCustomerConversationContextCharacters]
  unfold buildCustomerConversationContext
  rw [customerMessages_transcript, hover]
  simp [transcript, customer]

end Sample

theorem context_never_resurrects_sample :
    NothingResurrected (customerMessages [Sample.customer "message_1" 1 Sample.first,
      Sample.customer "message_2" 2 "It arrived damaged."]).reverse := by
  have h : buildCustomerConversationContext [Sample.customer "message_1" 1 Sample.first,
      Sample.customer "message_2" 2 "It arrived damaged."] ⟨"message_2", "It arrived damaged."⟩ =
      .ok [⟨1, Sample.first⟩, ⟨2, "It arrived damaged."⟩] := by decide +kernel
  exact (context_never_resurrects h).mp (by decide +kernel)

/-- Where the message about the second order does not fit, the context names the first one. -/
theorem older_order_resurrected : ∃ context,
    buildCustomerConversationContext (Sample.transcript Sample.second Sample.long)
      ⟨"message_6", Sample.long⟩ = .ok context ∧
    contextReference context = some "AVV8JSZH8G6ZZDMX" ∧
    transcriptReference (Sample.transcript Sample.second Sample.long) =
      some "QXB4NEW2EPG6YJ7Q" := by
  have hfirst : resolveOrderReferenceFromText Sample.first = .unique "AVV8JSZH8G6ZZDMX" := by
    decide +kernel
  have hsecond : resolveOrderReferenceFromText Sample.second = .unique "QXB4NEW2EPG6YJ7Q" := by
    rw [Sample.second, Sample.resolve_exclamation]
    decide +kernel
  have hlong : resolveOrderReferenceFromText Sample.long = .none := by
    rw [Sample.long, Sample.resolve_exclamation]
    decide +kernel
  refine ⟨_, Sample.build_transcript ?_ ?_, ?_, ?_⟩
  · rw [Sample.second, Sample.length_exclamation]
    decide +kernel
  · rw [Sample.long, Sample.length_exclamation]
    decide +kernel
  · simp [contextReference, resolveOrderReferenceFromCustomerMessages, firstReference, hfirst,
      hlong]
  · rw [transcriptReference, Sample.customerMessages_transcript]
    simp [Sample.transcript, Sample.customer, resolveOrderReferenceFromCustomerMessages,
      firstReference, hsecond, hlong]

end CSO.Edge
