import CSO.Conversation.MessageProtection
import Mathlib.Data.List.Nodup
import Mathlib.Data.List.Sort

/-! Messages from their acceptance to the transcript the edge reads them in. -/
namespace CSO.System
open JS (JsString)
open Conversation (AesGcm Bytes MessageProtectorOptions ProtectedMessage)

/-- A message that was accepted, and the initialization vector drawn for it. -/
structure SentMessage where
  messageId : String
  sequenceNumber : ℕ
  senderKind : String
  text : JsString
  initializationVector : Bytes
  admitted : Conversation.Admits text
  drawn : initializationVector.length = 12

/-- Its row. -/
structure StoredMessage where
  messageId : String
  sequenceNumber : ℕ
  senderKind : String
  message : ProtectedMessage
  deriving DecidableEq, Repr

structure TranscriptMessage where
  messageId : String
  sequenceNumber : ℕ
  senderKind : String
  text : JsString
  deriving DecidableEq, Repr

def SentMessage.store (protect : Bytes → JsString → Except String ProtectedMessage)
    (sent : SentMessage) : Except String StoredMessage := do
  let message ← protect sent.initializationVector sent.text
  return ⟨sent.messageId, sent.sequenceNumber, sent.senderKind, message⟩

def StoredMessage.read (unprotect : ProtectedMessage → Except String JsString)
    (stored : StoredMessage) : Except String TranscriptMessage := do
  let text ← unprotect stored.message
  return ⟨stored.messageId, stored.sequenceNumber, stored.senderKind, text⟩

/-- The message that the edge has just accepted, in the transcript. -/
def acceptedCustomerMessage (messages : List TranscriptMessage) (messageId : String)
    (text : JsString) : Except String TranscriptMessage :=
  let customerMessages := (messages.filter fun message => message.senderKind = "END_CUSTOMER")
    |>.insertionSort fun left right => left.sequenceNumber ≤ right.sequenceNumber
  match customerMessages.find? fun message =>
      message.messageId = messageId ∧ message.text = text with
  | some message => .ok message
  | none => .error "The persisted conversation is missing the accepted customer message"

/-- The message as a transcript should show it. -/
def SentMessage.shown (sent : SentMessage) : TranscriptMessage :=
  ⟨sent.messageId, sent.sequenceNumber, sent.senderKind, sent.text⟩

/-- The message as the transcript shows it: its UTF-8 text. -/
def SentMessage.decoded (sent : SentMessage) : TranscriptMessage :=
  { sent.shown with text := .ofText sent.text.text }

/-- Nothing is lost of the messages that were stored: the transcript shows them as they were sent,
digests tell them apart, and every one of the customer is found in its transcript. -/
structure Lossless (unprotect : ProtectedMessage → Except String JsString)
    (messages : List SentMessage) (stored : List StoredMessage) : Prop where
  shown : stored.mapM (StoredMessage.read unprotect) = .ok (messages.map SentMessage.shown)
  apart : ∀ a ∈ messages.zip stored, ∀ b ∈ messages.zip stored,
    a.2.message.plaintextSha256 = b.2.message.plaintextSha256 → a.1.text = b.1.text
  found : ∃ transcript, stored.mapM (StoredMessage.read unprotect) = .ok transcript ∧
    ∀ sent ∈ messages, sent.senderKind = "END_CUSTOMER" →
      ∃ message, acceptedCustomerMessage transcript sent.messageId sent.text = .ok message

variable {cipher : AesGcm} {options : MessageProtectorOptions}
  {protect : Bytes → JsString → Except String ProtectedMessage}
  {unprotect : ProtectedMessage → Except String JsString} {messages : List SentMessage}

theorem acceptedCustomerMessage_ok {transcript : List TranscriptMessage} {messageId : String}
    {text : JsString} :
    (∃ message, acceptedCustomerMessage transcript messageId text = .ok message) ↔
      ∃ message ∈ transcript, message.senderKind = "END_CUSTOMER" ∧
        message.messageId = messageId ∧ message.text = text := by
  unfold acceptedCustomerMessage
  simp only
  split
  · rename_i message hfind
    have hmem := (List.perm_insertionSort _ _).mem_iff.mp (List.mem_of_find?_eq_some hfind)
    obtain ⟨htranscript, hcustomer⟩ := List.mem_filter.mp hmem
    have hsame := List.find?_some hfind
    exact ⟨fun _ => ⟨message, htranscript, of_decide_eq_true hcustomer, of_decide_eq_true hsame⟩,
      fun _ => ⟨message, rfl⟩⟩
  · rename_i hnone
    constructor
    · rintro ⟨message, ⟨⟩⟩
    · rintro ⟨message, hmem, hcustomer, hsame⟩
      have hsorted := (List.perm_insertionSort
        (fun left right : TranscriptMessage => left.sequenceNumber ≤ right.sequenceNumber)
        (transcript.filter fun message => message.senderKind = "END_CUSTOMER")).mem_iff.mpr
        (List.mem_filter.mpr ⟨hmem, decide_eq_true hcustomer⟩)
      have hdiffers := List.find?_eq_none.mp hnone message hsorted
      exact absurd (decide_eq_true hsame) hdiffers

/-- One message, stored and read. -/
theorem store_read (hinverts : cipher.Inverts)
    (hprotect : Conversation.createAesGcmMessageProtector cipher options = .ok protect)
    (hunprotect : Conversation.createAesGcmMessageUnprotector cipher options = .ok unprotect)
    (sent : SentMessage) : ∃ stored, sent.store protect = .ok stored ∧
      stored.message.plaintextSha256 = JS.Sha256.hex sent.text.text ∧
      stored.read unprotect = .ok sent.decoded := by
  obtain ⟨message, hmessage, hsha, hread⟩ :=
    Conversation.protect_unprotect hinverts hprotect hunprotect sent.drawn sent.text
  refine ⟨⟨sent.messageId, sent.sequenceNumber, sent.senderKind, message⟩, ?_, hsha, ?_⟩
  · rw [SentMessage.store, hmessage]
    rfl
  · rw [StoredMessage.read, hread]
    rfl

/-- A list of messages, stored and read. -/
theorem store_read_all (hinverts : cipher.Inverts)
    (hprotect : Conversation.createAesGcmMessageProtector cipher options = .ok protect)
    (hunprotect : Conversation.createAesGcmMessageUnprotector cipher options = .ok unprotect)
    (messages : List SentMessage) : ∃ stored,
      messages.mapM (SentMessage.store protect) = .ok stored ∧
      (∀ pair ∈ messages.zip stored,
        pair.2.message.plaintextSha256 = JS.Sha256.hex pair.1.text.text) ∧
      stored.mapM (StoredMessage.read unprotect) = .ok (messages.map SentMessage.decoded) := by
  induction messages with
  | nil => exact ⟨[], rfl, nofun, rfl⟩
  | cons sent messages ih =>
    obtain ⟨row, hrow, hsha, hread⟩ := store_read hinverts hprotect hunprotect sent
    obtain ⟨stored, hstored, hall, hreads⟩ := ih
    refine ⟨row :: stored, ?_, ?_, ?_⟩
    · rw [List.mapM_cons, hrow, hstored]
      rfl
    · intro pair hpair
      rw [List.zip_cons_cons] at hpair
      rcases List.mem_cons.mp hpair with rfl | hpair
      · exact hsha
      · exact hall pair hpair
    · rw [List.mapM_cons, hread, hreads]
      rfl

theorem decoded_eq_shown {sent : SentMessage} :
    sent.decoded = sent.shown ↔ sent.text.WellFormed := by
  rw [← JsString.ofText_text]
  constructor
  · intro h
    exact congrArg TranscriptMessage.text h
  · intro h
    rw [SentMessage.decoded, h]
    rfl

theorem found_of_wellFormed {sent : SentMessage} (hsent : sent ∈ messages)
    (hcustomer : sent.senderKind = "END_CUSTOMER") (hwell : sent.text.WellFormed) :
    ∃ message, acceptedCustomerMessage (messages.map SentMessage.decoded) sent.messageId
      sent.text = .ok message := by
  rw [acceptedCustomerMessage_ok]
  exact ⟨sent.decoded, List.mem_map_of_mem hsent, hcustomer, rfl, JsString.ofText_text.mpr hwell⟩

/-- A message of the customer is found in its transcript exactly where it is well-formed. -/
theorem found_iff (hids : (messages.map SentMessage.messageId).Nodup) {sent : SentMessage}
    (hsent : sent ∈ messages) (hcustomer : sent.senderKind = "END_CUSTOMER") :
    (∃ message, acceptedCustomerMessage (messages.map SentMessage.decoded) sent.messageId
      sent.text = .ok message) ↔ sent.text.WellFormed := by
  refine ⟨?_, found_of_wellFormed hsent hcustomer⟩
  rw [acceptedCustomerMessage_ok]
  rintro ⟨message, hmem, -, hid, htext⟩
  obtain ⟨other, hother, rfl⟩ := List.mem_map.mp hmem
  obtain rfl : other = sent := List.inj_on_of_nodup_map hids hother hsent hid
  exact JsString.ofText_text.mp htext

/-- Messages that were accepted are stored, whatever their texts, and nothing is lost of them
exactly where no text has a lone surrogate. -/
theorem message_protection_lossless (hinverts : cipher.Inverts)
    (hprotect : Conversation.createAesGcmMessageProtector cipher options = .ok protect)
    (hunprotect : Conversation.createAesGcmMessageUnprotector cipher options = .ok unprotect)
    (messages : List SentMessage)
    (hsha : ∀ a ∈ messages, ∀ b ∈ messages,
      JS.Sha256.hex a.text.text = JS.Sha256.hex b.text.text → a.text.text = b.text.text) :
    ∃ stored, messages.mapM (SentMessage.store protect) = .ok stored ∧
      (Lossless unprotect messages stored ↔ ∀ sent ∈ messages, sent.text.WellFormed) := by
  obtain ⟨stored, hstored, hdigests, hread⟩ :=
    store_read_all hinverts hprotect hunprotect messages
  refine ⟨stored, hstored, ?_, ?_⟩
  · intro hlossless sent hsent
    have hsame := Except.ok.inj (hread.symm.trans hlossless.shown)
    exact decoded_eq_shown.mp (List.map_inj_left.mp hsame sent hsent)
  · intro hwell
    refine ⟨?_, ?_, ?_⟩
    · rw [hread]
      exact congrArg Except.ok
        (List.map_inj_left.mpr fun sent hsent => decoded_eq_shown.mpr (hwell sent hsent))
    · intro a ha b hb hdigest
      rw [hdigests a ha, hdigests b hb] at hdigest
      have hamem := (List.of_mem_zip ha).1
      have hbmem := (List.of_mem_zip hb).1
      have htext := hsha a.1 hamem b.1 hbmem hdigest
      rw [← JsString.ofText_text.mpr (hwell a.1 hamem), htext]
      exact JsString.ofText_text.mpr (hwell b.1 hbmem)
    · refine ⟨_, hread, fun sent hsent hcustomer => ?_⟩
      exact found_of_wellFormed hsent hcustomer (hwell sent hsent)

namespace Sample

/-- The first block of the key stream of a zero key and a zero initialization vector. -/
def keyStream : Bytes :=
  [0xCE, 0xA7, 0x40, 0x3D, 0x4D, 0x60, 0x6B, 0x6E, 0x07, 0x4E, 0xC5, 0xD3, 0xBA, 0xF3, 0x9D, 0x18]

def xor : Bytes → Bytes → Bytes
  | [], _ => []
  | bytes, [] => bytes
  | byte :: bytes, key :: keys => (byte ^^^ key) :: xor bytes keys

/-- The tags of the two texts that are sent here. -/
def tag (plaintext : Bytes) : Bytes :=
  if plaintext = [0xEF, 0xBF, 0xBD] then
    [0xC3, 0x45, 0x35, 0x43, 0xF6, 0xD9, 0xC8, 0x42, 0x6F, 0xFE, 0xE0, 0xF7, 0x77, 0xF7, 0x52, 0x39]
  else
    [0x98, 0xC6, 0x28, 0x5B, 0x7D, 0x20, 0x80, 0xCE, 0xB9, 0x5B, 0x91, 0x26, 0xD9, 0x4A, 0xD8, 0x60]

def zeroCipher : AesGcm where
  encrypt _ _ plaintext := (xor plaintext keyStream, tag plaintext)
  decrypt _ _ ciphertext authenticationTag :=
    if authenticationTag = tag (xor ciphertext keyStream) then some (xor ciphertext keyStream)
    else none

theorem xor_xor (bytes keys : Bytes) : xor (xor bytes keys) keys = bytes := by
  fun_induction xor bytes keys with
  | case1 => rfl
  | case2 bytes => cases bytes <;> rfl
  | case3 byte bytes key keys ih => rw [xor, ih, UInt8.xor_assoc, UInt8.xor_self, UInt8.xor_zero]

theorem zeroCipher_inverts : zeroCipher.Inverts := by
  intro key initializationVector plaintext hkey hiv
  simp only [zeroCipher, xor_xor, if_true]

def zeroKey : MessageProtectorOptions := ⟨List.replicate 32 0, "2026-01"⟩

theorem protector_made : Conversation.createAesGcmMessageProtector zeroCipher zeroKey =
    .ok (Conversation.protectMessage zeroCipher zeroKey) := rfl

theorem unprotector_made : Conversation.createAesGcmMessageUnprotector zeroCipher zeroKey =
    .ok (Conversation.unprotectMessage zeroCipher zeroKey) := rfl

def message (text : JsString) (admitted : Conversation.Admits text) : SentMessage where
  messageId := "0198c0de-0000-7000-8000-000000000001"
  sequenceNumber := 1
  senderKind := "END_CUSTOMER"
  text
  initializationVector := List.replicate 12 0
  admitted
  drawn := rfl

def request : SentMessage :=
  message (.ofText "refund") ⟨.ofText " refund ", by decide, by decide⟩

/-- A lone surrogate, `"\ud800"` in JSON. -/
def surrogate : SentMessage :=
  message ⟨[0xD800], by decide⟩ ⟨⟨[0xD800], by decide⟩, by decide, by decide⟩

end Sample

theorem message_protection_request : ∃ stored,
    [Sample.request].mapM (SentMessage.store
        (Conversation.protectMessage Sample.zeroCipher Sample.zeroKey)) = .ok stored ∧
      Lossless (Conversation.unprotectMessage Sample.zeroCipher Sample.zeroKey) [Sample.request]
        stored := by
  obtain ⟨stored, hstored, hlossless⟩ := message_protection_lossless Sample.zeroCipher_inverts
    Sample.protector_made Sample.unprotector_made [Sample.request] (by
      intro a ha b hb _
      rw [List.mem_singleton.mp ha, List.mem_singleton.mp hb])
  refine ⟨stored, hstored, hlossless.mpr ?_⟩
  intro sent hsent
  obtain rfl := List.mem_singleton.mp hsent
  decide

/-- A lone surrogate is read back as U+FFFD, and the edge does not find its message. -/
theorem surrogate_lost : ∃ stored,
    [Sample.surrogate].mapM (SentMessage.store
        (Conversation.protectMessage Sample.zeroCipher Sample.zeroKey)) = .ok stored ∧
      stored.mapM (StoredMessage.read
          (Conversation.unprotectMessage Sample.zeroCipher Sample.zeroKey)) =
        .ok [{ Sample.surrogate.shown with text := .ofText "\uFFFD" }] ∧
      ¬Lossless (Conversation.unprotectMessage Sample.zeroCipher Sample.zeroKey) [Sample.surrogate]
        stored := by
  obtain ⟨stored, hstored, -, hread⟩ := store_read_all Sample.zeroCipher_inverts
    Sample.protector_made Sample.unprotector_made [Sample.surrogate]
  have hdecoded : Sample.surrogate.decoded =
      { Sample.surrogate.shown with text := .ofText "\uFFFD" } := by decide
  refine ⟨stored, hstored, by rw [hread, List.map_singleton, hdecoded], ?_⟩
  intro hlossless
  obtain ⟨transcript, htranscript, hfound⟩ := hlossless.found
  obtain rfl := Except.ok.inj (hread.symm.trans htranscript)
  have hids : ([Sample.surrogate].map SentMessage.messageId).Nodup := List.nodup_singleton _
  have hmem := List.mem_singleton_self Sample.surrogate
  have hwell := (found_iff hids hmem rfl).mp (hfound _ hmem rfl)
  exact absurd hwell (by decide)

end CSO.System
