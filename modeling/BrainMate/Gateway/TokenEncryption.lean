import BrainMate.Text.Hex

/-! The token encryption of `gmail.rs`: AES-256-GCM under a key given in hexadecimal, with
the nonce in front of the ciphertext. -/

namespace BrainMate.Gateway

open Text

abbrev Bytes := List UInt8

/-- An AEAD cipher: it decrypts what it has encrypted, and a ciphertext carries a tag. -/
structure Aead where
  encrypt : (key nonce plaintext : Bytes) → Option Bytes
  decrypt : (key nonce ciphertext : Bytes) → Option Bytes
  opens : ∀ key nonce plaintext ciphertext, encrypt key nonce plaintext = some ciphertext →
    decrypt key nonce ciphertext = some plaintext
  tagged : ∀ key nonce plaintext ciphertext, encrypt key nonce plaintext = some ciphertext →
    ciphertext ≠ []

namespace Aead

def gcmNonceLen : Nat := 12

/-- Twelve bytes of `OsRng`. -/
abbrev NonceBytes := { bytes : Bytes // bytes.length = gcmNonceLen }

def asBytes (text : String) : Bytes := text.toByteArray.data.toList

def fromUtf8 (bytes : Bytes) : Option String := String.fromUTF8? ⟨bytes.toArray⟩

def parseEncKey (hexKey : String) : Except String Bytes :=
  match Hex.decode hexKey.toList with
  | none => .error "GMAIL_TOKEN_ENCRYPTION_KEY must be valid hex"
  | some bytes =>
    if bytes.length ≠ 32 then
      .error "GMAIL_TOKEN_ENCRYPTION_KEY must decode to 32 bytes (64 hex chars)"
    else .ok bytes

def encryptToken (cipher : Aead) (nonce : NonceBytes) (plaintext hexKey : String) :
    Except String String :=
  match parseEncKey hexKey with
  | .error error => .error error
  | .ok key =>
    match cipher.encrypt key nonce.val (asBytes plaintext) with
    | none => .error "AES-GCM encryption failed"
    | some ciphertext => .ok (String.ofList (Hex.encode (nonce.val ++ ciphertext)))

def decryptToken (cipher : Aead) (hexEnc hexKey : String) : Except String String :=
  match Hex.decode hexEnc.toList with
  | none => .error "Stored token is not valid hex"
  | some raw =>
    if raw.length ≤ gcmNonceLen then
      .error "Stored token is too short to be a valid GCM ciphertext"
    else
      match parseEncKey hexKey with
      | .error error => .error error
      | .ok key =>
        match cipher.decrypt key (raw.take gcmNonceLen) (raw.drop gcmNonceLen) with
        | none => .error "AES-GCM decryption failed (corrupt data or wrong key)"
        | some plaintext =>
          match fromUtf8 plaintext with
          | none => .error "Decrypted token is not valid UTF-8"
          | some token => .ok token

theorem fromUtf8_asBytes (text : String) : fromUtf8 (asBytes text) = some text := by
  have same : (⟨(asBytes text).toArray⟩ : ByteArray) = text.toByteArray := by
    rw [asBytes, Array.toArray_toList]
  rw [fromUtf8, same, String.fromUTF8?, dif_pos text.isValidUTF8]
  rfl

/-- An encrypted token decrypts under the same key. -/
theorem decryptToken_encryptToken {cipher : Aead} {nonce : NonceBytes}
    {plaintext hexKey encrypted : String}
    (written : cipher.encryptToken nonce plaintext hexKey = .ok encrypted) :
    cipher.decryptToken encrypted hexKey = .ok plaintext := by
  unfold encryptToken at written
  split at written
  · cases written
  · rename_i key parsed
    split at written
    · cases written
    · rename_i ciphertext closed
      cases written
      have some_ : 0 < ciphertext.length := List.length_pos_iff.mpr (cipher.tagged _ _ _ _ closed)
      have long : ¬ (nonce.val ++ ciphertext).length ≤ gcmNonceLen := by
        rw [List.length_append, nonce.property]
        omega
      have front : (nonce.val ++ ciphertext).take gcmNonceLen = nonce.val :=
        List.take_left' nonce.property
      have back : (nonce.val ++ ciphertext).drop gcmNonceLen = ciphertext :=
        List.drop_left' nonce.property
      simp only [decryptToken, String.toList_ofList, Hex.decode_encode, if_neg long, parsed, front,
        back, cipher.opens _ _ _ _ closed, fromUtf8_asBytes]

end Aead

end BrainMate.Gateway
