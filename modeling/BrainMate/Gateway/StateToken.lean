import Mathlib.Data.List.TakeWhile
import BrainMate.Gateway.TokenEncryption
import BrainMate.Gateway.Records
import BrainMate.Text.Base64Url
import BrainMate.Text.Hmac
import BrainMate.Text.Stringify
import BrainMate.WriteRight.JobText

/-! The signed state tokens of `gmail.rs`: a payload in base64url, a full stop, and the HMAC of
the payload in hexadecimal. -/

namespace BrainMate.Gateway.StateToken

open Text
open Aead (asBytes fromUtf8)
open WriteRight (pyText)

def hmacBlockLen : Nat := 64

/-- What SHA-256 gives. -/
abbrev Digest := { bytes : Bytes // bytes.length = 32 }

/-- `Utc::now().timestamp()`: not before the epoch, and in the range of a `DateTime`. -/
abbrev Timestamp := { seconds : Nat // seconds ≤ 8210266876799 }

/-- 24 bytes of `OsRng`. -/
abbrev StateNonce := { bytes : Bytes // bytes.length = 24 }

/-- A well-formed string, or a positive `i64`. -/
def isFlat : Json → Bool
  | .str points => points.all isScalar
  | .int value => 0 < value && value < 2 ^ 63
  | _ => false

/-- A `Map` of such values has its keys in order, each once. -/
def FlatMap (members : List (List Nat × Json)) : Prop :=
  (members.map Prod.fst).Pairwise (· < ·) ∧ ∀ member ∈ members, isFlat member.2 = true

/-- The reader, which takes every JSON text of a flat object, however it is escaped and spaced. -/
structure SerdeJson where
  fromSlice : Bytes → Option Json
  reads : ∀ (text : String) (members : List (List Nat × Json)),
    loads (pyText text) = some (.obj members) → FlatMap members →
    fromSlice (asBytes text) = some (.obj members)

/-- `Value::to_string` escapes as `JSON.stringify` does, and sets no blanks. -/
def valueToString (value : Json) : String :=
  String.ofList ((stringify.text value).map Char.ofNat)

/-- `value[name]`: null where there is no such member. -/
def index (value : Json) (name : String) : Json :=
  match value with
  | .obj members => (members.lookup (pyText name)).getD .null
  | _ => .null

def asI64 : Json → Option Int
  | .int value => if -2 ^ 63 ≤ value ∧ value < 2 ^ 63 then some value else none
  | _ => none

def asStr : Json → Option String
  | .str points => some (String.ofList (points.map Char.ofNat))
  | _ => none

/-- `Vec::resize`. -/
def resize (bytes : Bytes) (newLen : Nat) (value : UInt8) : Bytes :=
  bytes.take newLen ++ List.replicate (newLen - bytes.length) value

section Tokens

variable (sha256 : Bytes → Digest)

def hmacSha256Hex (keyHex : String) (data : Bytes) : Except String String :=
  match Hex.decode keyHex.toList with
  | none => .error "GMAIL_STATE_HMAC_KEY must be valid hex"
  | some keyRaw =>
    let padded :=
      if hmacBlockLen < keyRaw.length then resize (sha256 keyRaw).val hmacBlockLen 0
      else resize keyRaw hmacBlockLen 0
    let ipad := padded.map (· ^^^ 0x36)
    let opad := padded.map (· ^^^ 0x5c)
    let innerHash := (sha256 (ipad ++ data)).val
    .ok (String.ofList (Hex.encode (sha256 (opad ++ innerHash)).val))

/-- `security_utils::constant_time_eq` compares the hashes of the strings. -/
def constantTimeEq (left right : String) : Bool :=
  (sha256 (asBytes left)).val == (sha256 (asBytes right)).val

/-- The `Map` of `json!`. -/
def statePayload (now : Timestamp) (nonce : StateNonce) (clerkUserId : String) :
    List (List Nat × Json) :=
  [(pyText "exp", .int (now.val + 600 : Nat)),
    (pyText "n", .str (pyText (String.ofList (Hex.encode nonce.val)))),
    (pyText "uid", .str (pyText clerkUserId))]

def base64urlEncode (bytes : Bytes) : String := String.ofList (Base64Url.encode bytes)

def generateStateToken (now : Timestamp) (nonce : StateNonce) (clerkUserId hmacKeyHex : String) :
    Except String String :=
  let payload := valueToString (.obj (statePayload now nonce clerkUserId))
  let payloadB64 := base64urlEncode (asBytes payload)
  match hmacSha256Hex sha256 hmacKeyHex (asBytes payloadB64) with
  | .error error => .error error
  | .ok sig => .ok (payloadB64 ++ "." ++ sig)

/-- What stands before the first full stop, and what behind it. -/
def splitDot (state : String) : Option (String × String) :=
  match state.toList.span (· ≠ '.') with
  | (_, []) => none
  | (payload, _ :: sig) => some (String.ofList payload, String.ofList sig)

def verifyStateToken (serde : SerdeJson) (now : Timestamp) (state hmacKeyHex : String) :
    Except String String :=
  match splitDot state with
  | none => .error "Invalid state token format"
  | some (payloadB64, providedSig) =>
    match hmacSha256Hex sha256 hmacKeyHex (asBytes payloadB64) with
    | .error error => .error error
    | .ok expectedSig =>
      if !constantTimeEq sha256 expectedSig providedSig then
        .error "State token HMAC verification failed"
      else
        match Base64Url.decode payloadB64.toList with
        | none => .error "State payload is not valid base64url"
        | some payloadBytes =>
          match serde.fromSlice payloadBytes with
          | none => .error "State payload is not valid JSON"
          | some v =>
            if (asI64 (index v "exp")).getD 0 < now.val then .error "State token has expired"
            else
              match asStr (index v "uid") with
              | none => .error "State token missing uid"
              | some uid => .ok uid

/-- The state check of `gmail_callback`. -/
def checkState (serde : SerdeJson) (now : Timestamp) (state clerkUserId hmacKey : String) :
    Except ApiError Unit :=
  match verifyStateToken sha256 serde now state hmacKey with
  | .error _ => .error (.badRequest "Invalid or expired state token")
  | .ok stateUid =>
    if !constantTimeEq sha256 stateUid clerkUserId then
      .error (.unauthorized "State user mismatch")
    else .ok ()

end Tokens

section Signature

variable (sha256 : Bytes → Digest)

/-- The HMAC of RFC 2104 with SHA-256. -/
def hmacSha256 (key data : Bytes) : Bytes := hmac (fun bytes => (sha256 bytes).val) hmacBlockLen key data

/-- The signature of a payload. -/
def signature (key : Bytes) (payload : String) : String :=
  String.ofList (Hex.encode (hmacSha256 sha256 key (asBytes payload)))

private theorem resize_eq {bytes : Bytes} {newLen : Nat} (fits : bytes.length ≤ newLen)
    (value : UInt8) :
    resize bytes newLen value = bytes ++ List.replicate (newLen - bytes.length) value := by
  rw [resize, List.take_of_length_le fits]

private theorem padded_eq (keyRaw : Bytes) :
    (if hmacBlockLen < keyRaw.length then resize (sha256 keyRaw).val hmacBlockLen 0
      else resize keyRaw hmacBlockLen 0) =
      blockKey (fun bytes => (sha256 bytes).val) hmacBlockLen keyRaw := by
  rw [blockKey]
  split
  · have short : (sha256 keyRaw).val.length ≤ hmacBlockLen := by
      rw [(sha256 keyRaw).property]
      decide
    exact resize_eq short 0
  · rename_i short
    exact resize_eq (Nat.le_of_not_lt short) 0

theorem hmacSha256Hex_eq {keyHex : String} {keyRaw : Bytes}
    (decoded : Hex.decode keyHex.toList = some keyRaw) (payload : String) :
    hmacSha256Hex sha256 keyHex (asBytes payload) = .ok (signature sha256 keyRaw payload) := by
  have length : (blockKey (fun bytes => (sha256 bytes).val) hmacBlockLen keyRaw).length =
      hmacBlockLen :=
    length_blockKey (fun bytes => by rw [(sha256 bytes).property]; decide) keyRaw
  have pad (byte : UInt8) := zipWith_replicate
    (blockKey (fun bytes => (sha256 bytes).val) hmacBlockLen keyRaw) byte
  rw [length] at pad
  simp only [hmacSha256Hex, decoded, padded_eq, signature, hmacSha256, hmac, pad]

private theorem hmacSha256Hex_ok {keyHex : String} {data : Bytes} {sig : String}
    (signed : hmacSha256Hex sha256 keyHex data = .ok sig) :
    ∃ keyRaw, Hex.decode keyHex.toList = some keyRaw := by
  unfold hmacSha256Hex at signed
  split at signed
  · cases signed
  · rename_i keyRaw decoded
    exact ⟨keyRaw, decoded⟩

end Signature

theorem splitDot_append {payload : String} (undotted : '.' ∉ payload.toList) (sig : String) :
    splitDot (payload ++ "." ++ sig) = some (payload, sig) := by
  have text : (payload ++ "." ++ sig).toList = payload.toList ++ '.' :: sig.toList := by
    simp [String.toList_append]
  have before : ∀ c ∈ payload.toList, decide (c ≠ '.') = true := by
    intro c member
    rw [decide_eq_true_iff]
    rintro rfl
    exact undotted member
  have split : (payload.toList ++ '.' :: sig.toList).span (· ≠ '.') =
      (payload.toList, '.' :: sig.toList) := by
    rw [List.span_eq_takeWhile_dropWhile, List.takeWhile_append_of_pos before,
      List.dropWhile_append_of_pos before]
    simp
  rw [splitDot, text, split]
  simp

private theorem splitDot_some {state payload sig : String}
    (parts : splitDot state = some (payload, sig)) :
    state = payload ++ "." ++ sig ∧ '.' ∉ payload.toList := by
  rw [splitDot, List.span_eq_takeWhile_dropWhile] at parts
  split at parts
  · cases parts
  · rename_i before dot after shape
    cases parts
    obtain ⟨front, back⟩ := Prod.mk.inj shape
    have isDot : dot = '.' := by
      have first := List.head?_dropWhile_not (fun c : Char => decide (c ≠ '.')) state.toList
      rw [back] at first
      simpa using first
    constructor
    · apply String.toList_injective
      have whole := List.takeWhile_append_dropWhile (p := fun c : Char => decide (c ≠ '.'))
        (l := state.toList)
      rw [front, back, isDot] at whole
      simpa [String.toList_append] using whole.symm
    · rw [String.toList_ofList, ← front]
      intro member
      have kept := List.mem_takeWhile_imp member
      simp at kept

private theorem dot_not_mem_base64url (bytes : Bytes) : '.' ∉ (base64urlEncode bytes).toList := by
  rw [base64urlEncode, String.toList_ofList]
  exact Base64Url.dot_not_mem_encode bytes

private theorem decode_base64urlEncode (bytes : Bytes) :
    Base64Url.decode (base64urlEncode bytes).toList = some bytes := by
  rw [base64urlEncode, String.toList_ofList, Base64Url.decode_encode]

private theorem toNat_ofNat_of_scalar {point : Nat} (scalar : isScalar point = true) :
    (Char.ofNat point).toNat = point := by
  have valid : point.isValidChar := by
    simp only [isScalar, isSurrogate, Bool.and_eq_true, Bool.not_eq_true', Bool.and_eq_false_iff,
      decide_eq_true_eq, decide_eq_false_iff_not] at scalar
    simp only [Nat.isValidChar]
    omega
  rw [Char.ofNat, dif_pos valid]
  rfl

private theorem pyText_valueToString {value : Json}
    (scalar : (stringify.text value).all isScalar = true) :
    pyText (valueToString value) = stringify.text value := by
  rw [pyText, valueToString, String.toList_ofList, List.map_map]
  conv_rhs => rw [← List.map_id (stringify.text value)]
  refine List.map_congr_left fun point member => ?_
  exact toNat_ofNat_of_scalar (List.all_eq_true.mp scalar point member)

private theorem payload_plain (now : Timestamp) (nonce : StateNonce) (clerkUserId : String) :
    (Json.obj (statePayload now nonce clerkUserId)).plain = true := by
  simp only [statePayload, Json.plain, Json.plainMembers, WriteRight.isScalar_pyText, Bool.and_self]

private theorem payload_flat (now : Timestamp) (nonce : StateNonce) (clerkUserId : String) :
    FlatMap (statePayload now nonce clerkUserId) := by
  refine ⟨by simp only [statePayload, List.map_cons, List.map_nil]; decide, ?_⟩
  intro member inside
  have range := now.property
  simp only [statePayload, List.mem_cons, List.not_mem_nil, or_false] at inside
  rcases inside with rfl | rfl | rfl
  · simp only [isFlat, Bool.and_eq_true, decide_eq_true_eq]
    omega
  · exact WriteRight.isScalar_pyText _
  · exact WriteRight.isScalar_pyText _

private theorem fromSlice_payload (serde : SerdeJson) (now : Timestamp) (nonce : StateNonce)
    (clerkUserId : String) :
    serde.fromSlice (asBytes (valueToString (.obj (statePayload now nonce clerkUserId)))) =
      some (.obj (statePayload now nonce clerkUserId)) := by
  refine serde.reads _ _ ?_ (payload_flat now nonce clerkUserId)
  have plain := payload_plain now nonce clerkUserId
  rw [pyText_valueToString (text_scalar_of_plain plain)]
  exact loads_text stringify plain

private theorem index_exp (now : Timestamp) (nonce : StateNonce) (clerkUserId : String) :
    index (.obj (statePayload now nonce clerkUserId)) "exp" = .int (now.val + 600 : Nat) := rfl

private theorem index_uid (now : Timestamp) (nonce : StateNonce) (clerkUserId : String) :
    index (.obj (statePayload now nonce clerkUserId)) "uid" = .str (pyText clerkUserId) := rfl

private theorem asStr_pyText (text : String) : asStr (.str (pyText text)) = some text := by
  rw [asStr, WriteRight.ofNat_pyText, String.ofList_toList]

section Accepted

variable {sha256 : Bytes → Digest} {serde : SerdeJson}

/-- The checks of a string that is accepted, in their order. -/
theorem verifyStateToken_ok_iff {now : Timestamp} {state hmacKeyHex uid : String} :
    verifyStateToken sha256 serde now state hmacKeyHex = .ok uid ↔
      ∃ payload sig keyRaw bytes v, splitDot state = some (payload, sig) ∧
        Hex.decode hmacKeyHex.toList = some keyRaw ∧
        constantTimeEq sha256 (signature sha256 keyRaw payload) sig = true ∧
        Base64Url.decode payload.toList = some bytes ∧ serde.fromSlice bytes = some v ∧
        now.val ≤ (asI64 (index v "exp")).getD 0 ∧ asStr (index v "uid") = some uid := by
  constructor
  · intro accepted
    unfold verifyStateToken at accepted
    split at accepted
    · cases accepted
    rename_i payload sig parts
    split at accepted
    · cases accepted
    rename_i expected signed
    obtain ⟨keyRaw, decoded⟩ := hmacSha256Hex_ok sha256 signed
    rw [hmacSha256Hex_eq sha256 decoded] at signed
    cases signed
    split at accepted
    · cases accepted
    rename_i equal
    split at accepted
    · cases accepted
    rename_i bytes read
    split at accepted
    · cases accepted
    rename_i v parsed
    split at accepted
    · cases accepted
    rename_i alive
    split at accepted
    · cases accepted
    rename_i found
    cases accepted
    exact ⟨payload, sig, keyRaw, bytes, v, parts, decoded, by simpa using equal, read, parsed,
      Int.not_lt.mp alive, found⟩
  · rintro ⟨payload, sig, keyRaw, bytes, v, parts, decoded, equal, read, parsed, alive, found⟩
    simp only [verifyStateToken, parts, hmacSha256Hex_eq sha256 decoded, equal, read, parsed,
      if_neg (Int.not_lt.mpr alive), found, Bool.not_true, Bool.false_eq_true, if_false]

/-- A token that was made with a key is told by its time only. -/
theorem verifyStateToken_generated {clerkUserId hmacKeyHex : String} {keyRaw : Bytes}
    (decoded : Hex.decode hmacKeyHex.toList = some keyRaw) (generated : Timestamp)
    (nonce : StateNonce) :
    ∃ token, generateStateToken sha256 generated nonce clerkUserId hmacKeyHex = .ok token ∧
      ∀ now : Timestamp, verifyStateToken sha256 serde now token hmacKeyHex =
        if now.val ≤ generated.val + 600 then .ok clerkUserId
        else .error "State token has expired" := by
  refine ⟨_, by rw [generateStateToken, hmacSha256Hex_eq sha256 decoded], fun now => ?_⟩
  have undotted := dot_not_mem_base64url
    (asBytes (valueToString (.obj (statePayload generated nonce clerkUserId))))
  have equal (text : String) : constantTimeEq sha256 text text = true := by simp [constantTimeEq]
  have range := generated.property
  have exp : asI64 (.int (generated.val + 600 : Nat)) = some ((generated.val + 600 : Nat) : Int) := by
    rw [asI64, if_pos (by omega)]
  simp only [verifyStateToken, splitDot_append undotted, hmacSha256Hex_eq sha256 decoded, equal,
    decode_base64urlEncode, fromSlice_payload, index_exp, index_uid, exp, asStr_pyText, Option.getD_some, Bool.not_true, Bool.false_eq_true, if_false]
  by_cases alive : now.val ≤ generated.val + 600
  · rw [if_pos alive, if_neg (by omega)]
  · rw [if_neg alive, if_pos (by omega)]

/-- The user who asked for the token passes the callback's check for ten minutes. -/
theorem checkState_generated {clerkUserId hmacKeyHex : String} {keyRaw : Bytes}
    (decoded : Hex.decode hmacKeyHex.toList = some keyRaw) (generated : Timestamp)
    (nonce : StateNonce) :
    ∃ token, generateStateToken sha256 generated nonce clerkUserId hmacKeyHex = .ok token ∧
      ∀ now : Timestamp, now.val ≤ generated.val + 600 →
        checkState sha256 serde now token clerkUserId hmacKeyHex = .ok () := by
  obtain ⟨token, made, told⟩ := @verifyStateToken_generated sha256 serde _ _ _ decoded generated nonce
  refine ⟨token, made, fun now alive => ?_⟩
  simp [checkState, told now, if_pos alive, constantTimeEq]

/-- The round trip of a token, and what an accepted string consists of. -/
theorem state_token (sha256 : Bytes → Digest) (serde : SerdeJson) :
    (∀ (clerkUserId hmacKeyHex : String) (keyRaw : Bytes) (generated : Timestamp)
      (nonce : StateNonce), Hex.decode hmacKeyHex.toList = some keyRaw →
      ∃ token, generateStateToken sha256 generated nonce clerkUserId hmacKeyHex = .ok token ∧
        ∀ now : Timestamp, verifyStateToken sha256 serde now token hmacKeyHex =
          if now.val ≤ generated.val + 600 then .ok clerkUserId
          else .error "State token has expired") ∧
    ∀ (now : Timestamp) (state hmacKeyHex uid : String),
      verifyStateToken sha256 serde now state hmacKeyHex = .ok uid →
      ∃ payload sig keyRaw bytes v, state = payload ++ "." ++ sig ∧ '.' ∉ payload.toList ∧
        Hex.decode hmacKeyHex.toList = some keyRaw ∧
        sha256 (asBytes sig) = sha256 (asBytes (signature sha256 keyRaw payload)) ∧
        Base64Url.decode payload.toList = some bytes ∧ serde.fromSlice bytes = some v ∧
        ((∃ exp : Int, index v "exp" = .int exp ∧ now.val ≤ exp) ∨
          (asI64 (index v "exp") = none ∧ now.val = 0)) ∧
        asStr (index v "uid") = some uid := by
  constructor
  · intro clerkUserId hmacKeyHex keyRaw generated nonce decoded
    exact verifyStateToken_generated decoded generated nonce
  · intro now state hmacKeyHex uid accepted
    obtain ⟨payload, sig, keyRaw, bytes, v, parts, decoded, equal, read, parsed, alive, found⟩ :=
      verifyStateToken_ok_iff.mp accepted
    obtain ⟨shape, undotted⟩ := splitDot_some parts
    refine ⟨payload, sig, keyRaw, bytes, v, shape, undotted, decoded, ?_, read, parsed, ?_, found⟩
    · exact Subtype.ext (beq_iff_eq.mp equal).symm
    · cases exp : index v "exp" with
      | int value =>
        rw [exp, asI64] at alive
        split at alive
        · exact .inl ⟨value, rfl, alive⟩
        · rename_i range
          refine .inr ⟨if_neg range, ?_⟩
          simpa using alive
      | null | bool | float | str | arr | obj =>
        rw [exp] at alive
        exact .inr ⟨rfl, by simpa [asI64] using alive⟩

end Accepted

def sampleSerde : SerdeJson where
  fromSlice bytes := (fromUtf8 bytes).bind fun text => loads (pyText text)
  reads text members read _ := by rw [Aead.fromUtf8_asBytes, Option.bind_some, read]

private theorem sampleSerde_fromSlice (text : String) :
    sampleSerde.fromSlice (asBytes text) = loads (pyText text) := by
  change (fromUtf8 (asBytes text)).bind _ = _
  rw [Aead.fromUtf8_asBytes, Option.bind_some]

def sampleSha256 (_ : Bytes) : Digest := ⟨List.replicate 32 0, rfl⟩

def timedPayload : String := "\x7b\"exp\":9,\"uid\":\"u\"\x7d"

def timelessPayload : String := "\x7b\"uid\":\"u\"\x7d"

/-- A token with this text as its payload, and a signature of one letter. -/
def sampleToken (text : String) : String := base64urlEncode (asBytes text) ++ "." ++ "x"

private theorem sampleToken_accepted {text uid : String} {members : List (List Nat × Json)}
    {now : Timestamp} (read : loads (pyText text) = some (.obj members))
    (alive : now.val ≤ (asI64 (index (.obj members) "exp")).getD 0)
    (found : asStr (index (.obj members) "uid") = some uid) :
    verifyStateToken sampleSha256 sampleSerde now (sampleToken text) "00" = .ok uid := by
  refine verifyStateToken_ok_iff.mpr ⟨_, "x", [0], _, .obj members,
    splitDot_append (dot_not_mem_base64url _) "x", by decide, rfl, decode_base64urlEncode _, ?_,
    alive, found⟩
  rw [sampleSerde_fromSlice, read]

/-- A payload under a signature that is not its HMAC, and in the first second of the epoch one
without a time. -/
theorem unsigned_state_token :
    (verifyStateToken sampleSha256 sampleSerde ⟨9, by decide⟩
        (sampleToken timedPayload) "00" = .ok "u" ∧
      ∀ payload sig : String, '.' ∉ payload.toList →
        sampleToken timedPayload = payload ++ "." ++ sig →
        sig ≠ signature sampleSha256 [0] payload) ∧
    verifyStateToken sampleSha256 sampleSerde ⟨0, by decide⟩ (sampleToken timelessPayload) "00" =
      .ok "u" ∧
    ∀ v, sampleSerde.fromSlice (asBytes timelessPayload) = some v → index v "exp" = .null := by
  have timed : loads (pyText timedPayload) =
      some (.obj [(pyText "exp", .int 9), (pyText "uid", .str (pyText "u"))]) := by
    have text : pyText timedPayload = stringify.text
        (.obj [(pyText "exp", .int 9), (pyText "uid", .str (pyText "u"))]) := by decide +kernel
    rw [text, loads_text stringify (by decide +kernel)]
  have timeless : loads (pyText timelessPayload) =
      some (.obj [(pyText "uid", .str (pyText "u"))]) := by
    have text : pyText timelessPayload =
        stringify.text (.obj [(pyText "uid", .str (pyText "u"))]) := by decide +kernel
    rw [text, loads_text stringify (by decide +kernel)]
  refine ⟨⟨sampleToken_accepted timed (by decide +kernel) (asStr_pyText "u"), ?_⟩,
    sampleToken_accepted timeless (by decide +kernel) (asStr_pyText "u"), ?_⟩
  · intro payload sig undotted shape same
    have given := splitDot_append (dot_not_mem_base64url
      (asBytes timedPayload)) "x"
    have parts := splitDot_append undotted sig
    rw [← shape, sampleToken, given] at parts
    have letter : "x" = sig := congrArg Prod.snd (Option.some.inj parts)
    have zeros : signature sampleSha256 [0] payload =
        String.ofList (Hex.encode (List.replicate 32 0)) := rfl
    rw [← letter, zeros] at same
    exact absurd same (by decide +kernel)
  · intro v read
    rw [sampleSerde_fromSlice, timeless] at read
    cases read
    rfl

end BrainMate.Gateway.StateToken
