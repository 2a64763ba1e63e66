import CSO.JS.Utf8

/-! The protection of message texts, and what the API admits as one. -/
namespace CSO.Conversation
open JS (JsString)

abbrev Bytes := List UInt8

/-- AES-256-GCM without associated data: ciphertext and tag of a plaintext, and the plaintext of
both where they are authentic. -/
structure AesGcm where
  encrypt : Bytes → Bytes → Bytes → Bytes × Bytes
  decrypt : Bytes → Bytes → Bytes → Bytes → Option Bytes

/-- Decryption inverts encryption under the same key and initialization vector. -/
def AesGcm.Inverts (cipher : AesGcm) : Prop :=
  ∀ key initializationVector plaintext, key.length = 32 → initializationVector.length = 12 →
    cipher.decrypt key initializationVector (cipher.encrypt key initializationVector plaintext).1
      (cipher.encrypt key initializationVector plaintext).2 = some plaintext

structure ProtectedMessage where
  ciphertext : Bytes
  initializationVector : Bytes
  authenticationTag : Bytes
  plaintextSha256 : String
  plaintextByteLength : ℕ
  encryptionKeyVersion : String
  deriving DecidableEq, Repr

structure MessageProtectorOptions where
  key : Bytes
  keyVersion : String
  deriving DecidableEq, Repr

/-- The checks of both constructors. -/
def MessageProtectorOptions.check (options : MessageProtectorOptions) : Except String Unit :=
  if options.key.length ≠ 32 then .error "AES-256-GCM requires a 32-byte encryption key"
  else if JS.trim options.keyVersion = "" then
    .error "Message encryption key version is required"
  else .ok ()

/-- What the protector returns for a text under the initialization vector that was drawn. -/
def protectMessage (cipher : AesGcm) (options : MessageProtectorOptions)
    (initializationVector : Bytes) (plaintext : JsString) : Except String ProtectedMessage :=
  if initializationVector.length ≠ 12 then
    .error "AES-GCM initialization vector must contain 12 bytes"
  else
    let (ciphertext, authenticationTag) :=
      cipher.encrypt options.key initializationVector plaintext.utf8
    .ok {
      ciphertext
      initializationVector
      authenticationTag
      plaintextSha256 := JS.Sha256.hex plaintext.text
      plaintextByteLength := plaintext.utf8.length
      encryptionKeyVersion := options.keyVersion }

def createAesGcmMessageProtector (cipher : AesGcm) (options : MessageProtectorOptions) :
    Except String (Bytes → JsString → Except String ProtectedMessage) := do
  options.check
  return protectMessage cipher options

def unprotectMessage (cipher : AesGcm) (options : MessageProtectorOptions)
    (message : ProtectedMessage) : Except String JsString :=
  if message.encryptionKeyVersion ≠ options.keyVersion then
    .error "Message encryption key version is unavailable"
  else
    match cipher.decrypt options.key message.initializationVector message.ciphertext
        message.authenticationTag with
    | some bytes => .ok (JsString.ofUtf8 bytes)
    | none => .error "Unsupported state or unable to authenticate data"

def createAesGcmMessageUnprotector (cipher : AesGcm) (options : MessageProtectorOptions) :
    Except String (ProtectedMessage → Except String JsString) := do
  options.check
  return unprotectMessage cipher options

/-- `z.string().trim().min(1).max(32_768)` -/
def parseMessageText (text : JsString) : Option JsString :=
  if 1 ≤ text.trim.length ∧ text.trim.length ≤ 32768 then some text.trim else none

/-- The service refuses more than 32 KiB of what the schema lets through. -/
def Admits (text : JsString) : Prop :=
  ∃ sent, parseMessageText sent = some text ∧ text.utf8.length ≤ 32 * 1024

variable {cipher : AesGcm} {options : MessageProtectorOptions}
  {protect : Bytes → JsString → Except String ProtectedMessage}
  {unprotect : ProtectedMessage → Except String JsString}

/-- What passes the checks has a key of 32 bytes. -/
theorem checked_ok {α : Type} {made result : α}
    (h : (do options.check; return made) = Except.ok result) :
    options.key.length = 32 ∧ made = result := by
  unfold MessageProtectorOptions.check at h
  split_ifs at h with hkey hversion
  · cases h
  · cases h
  · exact ⟨not_not.mp hkey, Except.ok.inj h⟩

/-- A protector and an unprotector of the same options: what is protected comes back as its
UTF-8 bytes are read. -/
theorem protect_unprotect (hinverts : cipher.Inverts)
    (hprotect : createAesGcmMessageProtector cipher options = .ok protect)
    (hunprotect : createAesGcmMessageUnprotector cipher options = .ok unprotect)
    {initializationVector : Bytes} (hiv : initializationVector.length = 12) (text : JsString) :
    ∃ message, protect initializationVector text = .ok message ∧
      message.plaintextSha256 = JS.Sha256.hex text.text ∧
      unprotect message = .ok (.ofText text.text) := by
  obtain ⟨hkey, rfl⟩ := checked_ok hprotect
  obtain ⟨-, rfl⟩ := checked_ok hunprotect
  have hdecrypt := hinverts options.key initializationVector text.utf8 hkey hiv
  refine ⟨_, if_neg (not_not.mpr hiv), rfl, ?_⟩
  show unprotectMessage cipher options _ = _
  rw [unprotectMessage, if_neg (not_not.mpr rfl)]
  simp only [hdecrypt, JsString.ofUtf8_utf8]

end CSO.Conversation
