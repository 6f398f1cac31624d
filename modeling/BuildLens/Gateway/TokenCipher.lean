import BuildLens.Gateway.Crypto
import BuildLens.Gateway.Response

/-! The cipher of stored GitHub credentials: `TokenCipher` of `crypto.rs` over an AES-GCM implementation. -/

namespace BuildLens.Gateway

def CIPHERTEXT_VERSION : UInt8 := 1

def NONCE_LEN : Nat := 12

abbrev Nonce := Vector UInt8 NONCE_LEN

inductive CryptoError where
  | random
  | encryption
  | malformedCiphertext
  | decryption
  deriving DecidableEq, Repr

def CryptoError.message : CryptoError → String
  | random => "secure random generation failed"
  | encryption => "credential encryption failed"
  | malformedCiphertext => "credential ciphertext is malformed"
  | decryption => "credential decryption failed"

/-- `Aes256Gcm` under a key, with the payload's associated data. -/
structure TokenCipher where
  encipher : (nonce : Nonce) → (associated message : Bytes) → Option Bytes
  decipher : (nonce : Nonce) → (associated ciphertext : Bytes) → Option Bytes

/-- What the implementation is relied on for: it opens what it has sealed and nothing else, and a sealed
message carries a tag. -/
structure TokenCipher.Authentic (cipher : TokenCipher) : Prop where
  decipher_iff : ∀ nonce associated ciphertext message,
    cipher.decipher nonce associated ciphertext = some message ↔ cipher.encipher nonce associated message = some ciphertext
  tagged : ∀ nonce associated message, cipher.encipher nonce associated message ≠ some []

def associatedData : Bytes := asBytes "buildlens.github-token.v1"

/-- `nonce` is what the system's randomness gives. -/
def TokenCipher.encrypt (cipher : TokenCipher) (nonce : Except CryptoError Nonce) (plaintext : String) :
    Except CryptoError Bytes := do
  let nonce ← nonce
  match cipher.encipher nonce associatedData (asBytes plaintext) with
  | none => .error .encryption
  | some encrypted => .ok (CIPHERTEXT_VERSION :: nonce.toList ++ encrypted)

/-- The first twelve bytes as a nonce, and the rest. -/
def splitNonce (bytes : Bytes) : Option (Nonce × Bytes) :=
  if long : NONCE_LEN ≤ bytes.length then
    some (⟨(bytes.take NONCE_LEN).toArray, by simp [long]⟩, bytes.drop NONCE_LEN)
  else none

def TokenCipher.decrypt (cipher : TokenCipher) : (ciphertext : Bytes) → Except CryptoError String
  | [] => .error .malformedCiphertext
  | version :: rest =>
    if (version :: rest).length ≤ 1 + NONCE_LEN ∨ version ≠ CIPHERTEXT_VERSION then .error .malformedCiphertext
    else match splitNonce rest with
      | none => .error .malformedCiphertext
      | some (nonce, encrypted) =>
        match cipher.decipher nonce associatedData encrypted with
        | none => .error .decryption
        | some plaintext => match String.fromUTF8? plaintext.toByteArray with
          | none => .error .decryption
          | some text => .ok text

section Framing

variable {cipher : TokenCipher} {ciphertext : Bytes} {text : String}

theorem splitNonce_append (nonce : Nonce) (encrypted : Bytes) :
    splitNonce (nonce.toList ++ encrypted) = some (nonce, encrypted) := by
  have length : nonce.toList.length = NONCE_LEN := nonce.length_toList
  have long : NONCE_LEN ≤ (nonce.toList ++ encrypted).length := by
    rw [List.length_append, length]
    omega
  rw [splitNonce, dif_pos long]
  refine congrArg some (Prod.ext ?_ ?_)
  · apply Vector.toList_inj.mp
    simp [Vector.toList]
  · exact (congrArg (List.drop · _) length.symm).trans List.drop_left

theorem splitNonce_some {bytes encrypted : Bytes} {nonce : Nonce} (split : splitNonce bytes = some (nonce, encrypted)) :
    bytes = nonce.toList ++ encrypted := by
  unfold splitNonce at split
  split at split
  · obtain ⟨rfl, rfl⟩ := Prod.mk.inj (Option.some.inj split)
    exact (List.take_append_drop NONCE_LEN bytes).symm
  · cases split

/-- Bytes are read as a text exactly when they are its bytes. -/
theorem fromUTF8_iff {bytes : Bytes} : String.fromUTF8? bytes.toByteArray = some text ↔ bytes = asBytes text := by
  have encoded : (asBytes text).toByteArray = text.toByteArray := String.utf8Encode_toList
  unfold String.fromUTF8?
  split
  · rw [Option.some.injEq, ← String.toByteArray_inj, ← encoded]
    exact List.toByteArray_inj
  · rename_i invalid
    refine ⟨fun absent => absurd absent (by simp), ?_⟩
    rintro rfl
    exact absurd (encoded ▸ text.isValidUTF8) invalid

theorem TokenCipher.encrypt_ok {nonce : Nonce} : cipher.encrypt (.ok nonce) text = .ok ciphertext ↔
    ∃ encrypted, cipher.encipher nonce associatedData (asBytes text) = some encrypted ∧
      ciphertext = CIPHERTEXT_VERSION :: nonce.toList ++ encrypted := by
  have unfolded : cipher.encrypt (.ok nonce) text =
      match cipher.encipher nonce associatedData (asBytes text) with
      | none => .error .encryption
      | some encrypted => .ok (CIPHERTEXT_VERSION :: nonce.toList ++ encrypted) := rfl
  rw [unfolded]
  cases cipher.encipher nonce associatedData (asBytes text) with
  | none => simp
  | some encrypted => simp [eq_comm]

theorem TokenCipher.decrypt_encrypted (authentic : cipher.Authentic) {nonce : Nonce}
    (sealing : cipher.encrypt (.ok nonce) text = .ok ciphertext) : cipher.decrypt ciphertext = .ok text := by
  obtain ⟨encrypted, sealed, rfl⟩ := encrypt_ok.mp sealing
  have long : ¬ (CIPHERTEXT_VERSION :: (nonce.toList ++ encrypted)).length ≤ 1 + NONCE_LEN := by
    have tag : encrypted ≠ [] := fun empty => authentic.tagged _ _ _ (empty ▸ sealed)
    have positive := List.length_pos_iff.mpr tag
    rw [List.length_cons, List.length_append, nonce.length_toList]
    omega
  have opened := (authentic.decipher_iff _ _ _ _).mpr sealed
  have read : String.fromUTF8? (asBytes text).toByteArray = some text := fromUTF8_iff.mpr rfl
  simp only [decrypt, List.cons_append, long, splitNonce_append, opened, read, ne_eq, not_true_eq_false,
    or_self, if_false]

/-- A stored credential is read exactly when it is what some encryption of that text has written. -/
theorem TokenCipher.decrypt_iff_encrypted (authentic : cipher.Authentic) (ciphertext : Bytes) (text : String) :
    cipher.decrypt ciphertext = .ok text ↔ ∃ nonce, cipher.encrypt (.ok nonce) text = .ok ciphertext := by
  simp only [encrypt_ok]
  constructor
  · intro decrypted
    cases ciphertext with
    | nil => cases decrypted
    | cons version rest =>
      simp only [decrypt] at decrypted
      split at decrypted
      · cases decrypted
      · rename_i wellFormed
        split at decrypted
        · cases decrypted
        · rename_i nonce encrypted split
          split at decrypted
          · cases decrypted
          · rename_i plaintext opened
            split at decrypted
            · cases decrypted
            · rename_i read
              obtain rfl := Except.ok.inj decrypted
              obtain rfl := fromUTF8_iff.mp read
              have current : version = CIPHERTEXT_VERSION := Decidable.not_not.mp (not_or.mp wellFormed).2
              refine ⟨nonce, encrypted, (authentic.decipher_iff _ _ _ _).mp opened, ?_⟩
              rw [current, splitNonce_some split]
              rfl
  · rintro ⟨nonce, sealed⟩
    exact decrypt_encrypted authentic (encrypt_ok.mpr sealed)

end Framing

section Samples

/-- A cipher that seals one message. -/
def TokenCipher.single (nonce : Nonce) (message ciphertext : Bytes) : TokenCipher where
  encipher other associated plaintext :=
    if other = nonce ∧ associated = associatedData ∧ plaintext = message then some ciphertext else none
  decipher other associated sealed :=
    if other = nonce ∧ associated = associatedData ∧ sealed = ciphertext then some message else none

theorem TokenCipher.single_authentic {nonce : Nonce} {message ciphertext : Bytes} (tagged : ciphertext ≠ []) :
    (single nonce message ciphertext).Authentic where
  decipher_iff other associated sealed plaintext := by
    simp only [single, Option.ite_none_right_eq_some, Option.some.injEq]
    constructor
    · rintro ⟨⟨rfl, rfl, rfl⟩, rfl⟩
      exact ⟨⟨rfl, rfl, rfl⟩, rfl⟩
    · rintro ⟨⟨rfl, rfl, rfl⟩, rfl⟩
      exact ⟨⟨rfl, rfl, rfl⟩, rfl⟩
  tagged other associated plaintext sealed := by
    simp only [single, Option.ite_none_right_eq_some, Option.some.injEq] at sealed
    exact tagged sealed.2

def sampleNonce : Nonce := ⟨#[1, 2, 3, 4, 5, 6, 7, 8, 9, 10, 11, 12], rfl⟩

/-- What AES-256-GCM gives for `github-token` under a key of sevens. -/
def sampleSealed : Bytes :=
  [220, 21, 156, 246, 31, 136, 207, 88, 138, 85, 103, 112, 210, 156, 175, 76, 25, 103, 29, 192, 23, 187,
    155, 82, 106, 235, 214, 133]

def sampleCipher : TokenCipher := .single sampleNonce (asBytes "github-token") sampleSealed

/-- The stored form of the sample, and it read back. -/
theorem sample_decrypted : sampleCipher.decrypt (1 :: sampleNonce.toList ++ sampleSealed) = .ok "github-token" := by
  refine (TokenCipher.decrypt_iff_encrypted (TokenCipher.single_authentic (by decide)) _ _).mpr
    ⟨sampleNonce, TokenCipher.encrypt_ok.mpr ⟨sampleSealed, ?_, rfl⟩⟩
  simp [TokenCipher.single]

end Samples

end BuildLens.Gateway
