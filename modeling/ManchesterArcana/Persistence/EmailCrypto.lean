import ManchesterArcana.Campaign.Addresses
import ManchesterArcana.Core.Netstring
import Mathlib.Logic.Relation

/-!
# `Persistence.EmailCrypto` — e-mail addresses at rest

The address of an account is stored encrypted, under the key that its ring writes with. The associated data binds it to
the account, the schema version and the key: it is three netstrings, so no other three have it (`aad_injective`). With
a cipher that opens only what was sealed under the same key, nonce and associated data, an address is read back for its
account and version, after any rotation, and for no other (`emails_at_rest`).
-/

namespace ManchesterArcana.Persistence

open Effect ManchesterArcana.Membership

/-- `[u8; n]`. -/
abbrev Bytes (n : Nat) := { bytes : List UInt8 // bytes.length = n }

/-- `try_into`. -/
def tryInto (n : Nat) (bytes : List UInt8) : Option (Bytes n) :=
  if h : bytes.length = n then some ⟨bytes, h⟩ else none

/-- What is called of other crates: base64 with padding (`STANDARD`) and without, XChaCha20-Poly1305 with key, nonce,
    associated data and message, and the hexadecimal digits of HMAC-SHA-256. -/
structure Ciphers where
  decodeStandard : String → Option (List UInt8)
  encode : List UInt8 → String
  decode : String → Option (List UInt8)
  encrypt : Bytes 32 → Bytes 24 → List UInt8 → List UInt8 → Option (List UInt8)
  decrypt : Bytes 32 → Bytes 24 → List UInt8 → List UInt8 → Option (List UInt8)
  hmac : List UInt8 → List UInt8 → String

/-- Base64 is decoded to what was encoded, and the cipher is ideal. -/
structure Ciphers.Ideal (c : Ciphers) : Prop where
  decodes : ∀ bytes, c.decode (c.encode bytes) = some bytes
  opens : ∀ {key nonce aad message ciphertext}, c.encrypt key nonce aad message = some ciphertext →
    c.decrypt key nonce aad ciphertext = some message
  authentic : ∀ {key nonce aad message ciphertext key' nonce' aad' message'},
    c.encrypt key nonce aad message = some ciphertext → c.decrypt key' nonce' aad' ciphertext = some message' →
      key' = key ∧ nonce' = nonce ∧ aad' = aad

structure EmailCiphertext where
  algorithm : String
  keyId : String
  nonceB64 : String
  ciphertextB64 : String

structure EmailCrypto where
  currentKeyId : String
  encryptionKeys : String → Option (Bytes 32)
  lookupKey : List UInt8

def emailAlgorithm : String := "xchacha20poly1305"

def validateKeyId (value : String) : Except EmailCryptoError Unit :=
  rejectIf (¬ ((1 ≤ value.utf8ByteSize ∧ value.utf8ByteSize ≤ 128) ∧ value.toList.all isOpaqueIdChar = true))
    .invalidKeyId

def aad (accountId : String) (schemaVersion : Nat) (keyId : String) : List UInt8 :=
  utf8 (toString accountId.utf8ByteSize ++ ":" ++ accountId ++ toString (toString schemaVersion).utf8ByteSize ++ ":" ++
    toString schemaVersion ++ toString keyId.utf8ByteSize ++ ":" ++ keyId)

section Operations

variable (c : Ciphers) (t : CaseTables) (ring : EmailCrypto)

def decodeDataKey (value : String) : Except EmailCryptoError (Bytes 32) := do
  let decoded ← okOr (c.decodeStandard value) .invalidEncryptionKey
  okOr (tryInto 32 decoded) .invalidEncryptionKey

def EmailCrypto.withDecryptionKey (keyId keyB64 : String) : Except EmailCryptoError EmailCrypto := do
  validateKeyId keyId
  let key ← decodeDataKey c keyB64
  return { ring with encryptionKeys := fun id => if id = keyId then some key else ring.encryptionKeys id }

/-- An address is taken in its normal form only. -/
def requireNormalized (email : String) (e : EmailCryptoError) : Except EmailCryptoError Unit := do
  let normalized ← normalizeEmail t email
  rejectIf (normalized ≠ email) e

def EmailCrypto.lookupHmac (normalizedEmail : String) : Except EmailCryptoError String := do
  requireNormalized t normalizedEmail .invalidEmail
  return "hmac-sha256:" ++ c.hmac ring.lookupKey (utf8 normalizedEmail)

/-- The nonce is what the source of randomness gave, if it did. -/
def EmailCrypto.encrypt (nonce : Option (Bytes 24)) (accountId : String) (schemaVersion : Nat)
    (normalizedEmail : String) : Except EmailCryptoError EmailCiphertext := do
  requireNormalized t normalizedEmail .invalidEmail
  let key ← okOr (ring.encryptionKeys ring.currentKeyId) .invalidEncryptionKey
  let nonce ← okOr nonce .randomness
  let encrypted ← okOr (c.encrypt key nonce (aad accountId schemaVersion ring.currentKeyId) (utf8 normalizedEmail))
    .encryption
  return {
    algorithm := emailAlgorithm
    keyId := ring.currentKeyId
    nonceB64 := c.encode nonce.1
    ciphertextB64 := c.encode encrypted }

def EmailCrypto.decrypt (accountId : String) (schemaVersion : Nat) (encrypted : EmailCiphertext) :
    Except EmailCryptoError String := do
  rejectIf (encrypted.algorithm ≠ emailAlgorithm) .invalidCiphertext
  let key ← okOr (ring.encryptionKeys encrypted.keyId) .decryption
  let nonce ← okOr (c.decode encrypted.nonceB64) .invalidCiphertext
  let nonce ← okOr (tryInto 24 nonce) .invalidCiphertext
  let ciphertext ← okOr (c.decode encrypted.ciphertextB64) .invalidCiphertext
  let plaintext ← okOr (c.decrypt key nonce (aad accountId schemaVersion encrypted.keyId) ciphertext) .decryption
  let result ← okOr (fromUtf8 plaintext) .decryption
  requireNormalized t result .decryption
  return result

/-- The ring takes a further key, under an id that it does not have. -/
def EmailCrypto.Rotates (ring ring' : EmailCrypto) : Prop :=
  ∃ keyId keyB64, ring.encryptionKeys keyId = none ∧ ring.withDecryptionKey c keyId keyB64 = .ok ring'

end Operations

/-! ## The associated data -/

/-- **No other account, version or key** has the associated data. -/
theorem aad_injective : Function.Injective fun x : String × Nat × String => aad x.1 x.2.1 x.2.2 := by
  rintro ⟨account, version, key⟩ ⟨account', version', key'⟩ h
  have hparts (account : String) (version : Nat) (key : String) : aad account version key =
      netstring (fun n => utf8 (toString n)) 58 (utf8 account) ++
        (netstring (fun n => utf8 (toString n)) 58 (utf8 (toString version)) ++
          (netstring (fun n => utf8 (toString n)) 58 (utf8 key) ++ [])) := by
    have hcolon : utf8 ":" = [58] := rfl
    simp only [aad, netstring, utf8_append, hcolon, List.append_assoc, List.append_nil, List.cons_append,
      List.nil_append]
    rfl
  have hdigits : Function.Injective fun n : Nat => utf8 (toString n) :=
    utf8_injective.comp fun _ _ => toString_nat_injective
  simp only [hparts] at h
  obtain ⟨haccount, h⟩ := netstring_append_inj hdigits colon_not_mem_utf8 h
  obtain ⟨hversion, h⟩ := netstring_append_inj hdigits colon_not_mem_utf8 h
  obtain ⟨hkey, -⟩ := netstring_append_inj hdigits colon_not_mem_utf8 h
  rw [utf8_injective haccount, toString_nat_injective (utf8_injective hversion), utf8_injective hkey]

/-! ## Sealing and opening -/

variable {c : Ciphers} {t : CaseTables} {ring ring' : EmailCrypto} {email : String}

theorem requireNormalized_eq_ok {e : EmailCryptoError} :
    requireNormalized t email e = .ok () ↔ normalizeEmail t email = .ok email := by
  simp only [requireNormalized, bind_eq_ok, rejectIf_eq_ok, not_not]
  constructor
  · rintro ⟨_, h, rfl⟩
    exact h
  · exact fun h => ⟨email, h, rfl⟩

/-- **A normal form is its own**: it is trimmed and in lower case. -/
theorem normalizeEmail_normalized {raw : String} (h : normalizeEmail t raw = .ok email) :
    normalizeEmail t email = .ok email := by
  obtain ⟨htrim, hlower, -⟩ := AccountAddress.normal ⟨raw, h⟩
  refine normalizeEmail_eq_ok.mpr ⟨?_, (normalizeEmail_eq_ok.mp h).2⟩
  rw [htrim, hlower]

variable {accountId : String} {schemaVersion : Nat} {encrypted : EmailCiphertext}

theorem encrypt_eq_ok {nonce : Option (Bytes 24)} :
    ring.encrypt c t nonce accountId schemaVersion email = .ok encrypted ↔ normalizeEmail t email = .ok email ∧
      ∃ key, ring.encryptionKeys ring.currentKeyId = some key ∧ ∃ drawn, nonce = some drawn ∧
        ∃ ciphertext, c.encrypt key drawn (aad accountId schemaVersion ring.currentKeyId) (utf8 email) =
          some ciphertext ∧
        encrypted = ⟨emailAlgorithm, ring.currentKeyId, c.encode drawn.1, c.encode ciphertext⟩ := by
  simp only [EmailCrypto.encrypt, bind_eq_ok, exists_unit, requireNormalized_eq_ok, okOr_eq_ok, pure_eq,
    Except.ok.injEq, eq_comm (b := encrypted)]

theorem decrypt_eq_ok :
    ring.decrypt c t accountId schemaVersion encrypted = .ok email ↔ encrypted.algorithm = emailAlgorithm ∧
      ∃ key, ring.encryptionKeys encrypted.keyId = some key ∧ ∃ bytes, c.decode encrypted.nonceB64 = some bytes ∧
        ∃ nonce, tryInto 24 bytes = some nonce ∧ ∃ ciphertext, c.decode encrypted.ciphertextB64 = some ciphertext ∧
        ∃ plaintext, c.decrypt key nonce (aad accountId schemaVersion encrypted.keyId) ciphertext = some plaintext ∧
        fromUtf8 plaintext = some email ∧ normalizeEmail t email = .ok email := by
  simp only [EmailCrypto.decrypt, bind_eq_ok, exists_unit, rejectIf_eq_ok, not_not, okOr_eq_ok,
    requireNormalized_eq_ok, pure_eq, Except.ok.injEq, exists_eq_right_right]

/-- A key that is there stays, whatever keys are added. -/
theorem rotated_keeps (h : Relation.ReflTransGen (EmailCrypto.Rotates c) ring ring') {keyId : String} {key : Bytes 32}
    (hkey : ring.encryptionKeys keyId = some key) : ring'.encryptionKeys keyId = some key := by
  induction h with
  | refl => exact hkey
  | tail _ hstep ih =>
    obtain ⟨newId, keyB64, hnew, hok⟩ := hstep
    simp only [EmailCrypto.withDecryptionKey, bind_eq_ok, exists_unit, pure_eq, Except.ok.injEq] at hok
    obtain ⟨-, added, -, rfl⟩ := hok
    refine (if_neg ?_).trans ih
    rintro rfl
    rw [hnew] at ih
    cases ih

/-- **E-mail addresses at rest.** The associated data tells all accounts, versions and keys apart. What a ring encrypts
    is decrypted to the same address for the same account and version, by that ring and every one it is rotated to, and
    by no ring for another account or version. What `normalize` returns, it returns again; so the lookup code of it is
    made, and it is encrypted if the key is there and the cipher does its part. -/
theorem emails_at_rest (t : CaseTables) (c : Ciphers) (hideal : c.Ideal) :
    (Function.Injective fun x : String × Nat × String => aad x.1 x.2.1 x.2.2) ∧
    (∀ (ring : EmailCrypto) nonce accountId schemaVersion email encrypted,
      ring.encrypt c t nonce accountId schemaVersion email = .ok encrypted →
        (∀ ring', Relation.ReflTransGen (EmailCrypto.Rotates c) ring ring' →
          ring'.decrypt c t accountId schemaVersion encrypted = .ok email) ∧
        ∀ (ring' : EmailCrypto) accountId' schemaVersion',
          (accountId', schemaVersion') ≠ (accountId, schemaVersion) →
          ∀ address, ring'.decrypt c t accountId' schemaVersion' encrypted ≠ .ok address) ∧
    ∀ raw address, normalizeEmail t raw = .ok address →
      normalizeEmail t address = .ok address ∧ ∀ ring : EmailCrypto,
        (∃ lookup, ring.lookupHmac c t address = .ok lookup) ∧
        ∀ nonce accountId schemaVersion key ciphertext, ring.encryptionKeys ring.currentKeyId = some key →
          c.encrypt key nonce (aad accountId schemaVersion ring.currentKeyId) (utf8 address) = some ciphertext →
          ∃ encrypted, ring.encrypt c t (some nonce) accountId schemaVersion address = .ok encrypted := by
  refine ⟨aad_injective, fun ring nonce accountId schemaVersion email encrypted h => ?_, fun raw address h => ?_⟩
  · obtain ⟨hnormal, key, hkey, drawn, rfl, ciphertext, hsealed, rfl⟩ := encrypt_eq_ok.mp h
    refine ⟨fun ring' hrotated => decrypt_eq_ok.mpr ?_, fun ring' accountId' schemaVersion' hne address hok => hne ?_⟩
    · exact ⟨rfl, key, rotated_keeps hrotated hkey, drawn.1, hideal.decodes _, drawn, dif_pos drawn.2, ciphertext,
        hideal.decodes _, utf8 email, hideal.opens hsealed, fromUtf8_utf8 email, hnormal⟩
    · obtain ⟨-, _, -, _, -, _, -, opened, hopened, _, hplain, -⟩ := decrypt_eq_ok.mp hok
      obtain rfl : ciphertext = opened := Option.some.inj ((hideal.decodes _).symm.trans hopened)
      obtain ⟨-, -, haad⟩ := hideal.authentic hsealed hplain
      have hsame := @aad_injective (accountId', schemaVersion', _) (accountId, schemaVersion, _) haad
      rw [Prod.mk.injEq, Prod.mk.injEq] at hsame
      rw [hsame.1, hsame.2.1]
  · have hnormal := normalizeEmail_normalized h
    refine ⟨hnormal, fun ring => ⟨?_, fun nonce accountId schemaVersion key ciphertext hkey hsealed => ?_⟩⟩
    · unfold EmailCrypto.lookupHmac
      rw [requireNormalized_eq_ok.mpr hnormal]
      exact ⟨_, rfl⟩
    · exact ⟨_, encrypt_eq_ok.mpr ⟨hnormal, key, hkey, nonce, rfl, ciphertext, hsealed, rfl⟩⟩

/-- A cipher that seals by writing key, nonce and associated data in front, and an encoding of each byte by itself. -/
def openCiphers : Ciphers where
  decodeStandard value := some (value.toList.map fun ch => UInt8.ofNat ch.toNat)
  encode bytes := String.ofList (bytes.map fun b => Char.ofNat b.toNat)
  decode value := some (value.toList.map fun ch => UInt8.ofNat ch.toNat)
  encrypt key nonce aad message := some (sealing key nonce aad ++ message)
  decrypt key nonce aad ciphertext := (sealing key nonce aad).isPrefixOf? ciphertext
  hmac _ message := String.ofList (message.map fun b => Char.ofNat b.toNat)
where
  sealing (key : Bytes 32) (nonce : Bytes 24) (aad : List UInt8) : List UInt8 :=
    key.1 ++ (nonce.1 ++ netstring (fun n => utf8 (toString n)) 58 aad)

theorem openCiphers_ideal : openCiphers.Ideal where
  decodes bytes := by
    have hbyte : (fun ch : Char => UInt8.ofNat ch.toNat) ∘ (fun b : UInt8 => Char.ofNat b.toNat) = id := by
      funext b
      have hvalid : b.toNat.isValidChar := .inl (b.toNat_lt.trans (by decide))
      rw [Function.comp_apply, Char.ofNat, dif_pos hvalid]
      exact UInt8.ofNat_toNat
    simp [openCiphers, hbyte]
  opens h := by
    obtain rfl := Option.some.inj h
    exact List.isPrefixOf?_eq_some_iff_append_eq.mpr rfl
  authentic {key nonce aad message ciphertext key' nonce' aad' message'} h h' := by
    obtain rfl := Option.some.inj h
    have heq := List.isPrefixOf?_eq_some_iff_append_eq.mp h'
    simp only [openCiphers.sealing, List.append_assoc] at heq
    obtain ⟨hkey, heq⟩ := List.append_inj heq (key'.2.trans key.2.symm)
    obtain ⟨hnonce, heq⟩ := List.append_inj heq (nonce'.2.trans nonce.2.symm)
    exact ⟨Subtype.ext hkey, Subtype.ext hnonce,
      (netstring_append_inj (utf8_injective.comp fun _ _ => toString_nat_injective) colon_not_mem_utf8 heq).1⟩

def playerRing : EmailCrypto :=
  ⟨"key-1", fun id => if id = "key-1" then some ⟨List.replicate 32 1, rfl⟩ else none, List.replicate 32 2⟩

/-- A player's address under a ring that gets a second key, which the game master's account does not open. -/
theorem emails_at_rest_player : ∃ ring' encrypted, playerRing.Rotates openCiphers ring' ∧
    playerRing.encrypt openCiphers latinTables (some ⟨List.replicate 24 3, rfl⟩) "account-1" 1 "p@x.fr" =
      .ok encrypted ∧
    ring'.decrypt openCiphers latinTables "account-1" 1 encrypted = .ok "p@x.fr" ∧
    ∀ address, ring'.decrypt openCiphers latinTables "account-2" 1 encrypted ≠ .ok address := by
  obtain ⟨-, hrest, hnormal⟩ := emails_at_rest latinTables openCiphers openCiphers_ideal
  obtain ⟨-, haccepted⟩ := (hnormal "P@X.FR" "p@x.fr" (by decide +kernel)).2 playerRing
  obtain ⟨encrypted, hencrypted⟩ := haccepted ⟨List.replicate 24 3, rfl⟩ "account-1" 1 _ _ rfl rfl
  obtain ⟨hopens, hother⟩ := hrest _ _ _ _ _ _ hencrypted
  have hrotates : ∃ ring', playerRing.Rotates openCiphers ring' :=
    ⟨_, "key-2", String.ofList (List.replicate 32 'k'), rfl, rfl⟩
  obtain ⟨ring', hrotates⟩ := hrotates
  exact ⟨ring', encrypted, hrotates, hencrypted, hopens ring' (.single hrotates),
    hother ring' "account-2" 1 (by decide)⟩

end ManchesterArcana.Persistence
