import BrainMate.Text.Base64
import BrainMate.Text.Stringify
import BrainMate.Text.Utf8Stream

/-! The tokens of share links: `createShareToken` signs them, and the public route checks them. -/

namespace BrainMate.WriteRight.ShareToken

open Text

def codePoints (text : String) : List Nat := text.toList.map Char.toNat

/-- `Buffer.from` a string. UTF-8 has no bytes for half of a pair. -/
def bufferFrom (text : List Nat) : List UInt8 :=
  text.flatMap fun point => utf8 (if isSurrogate point then 0xfffd else point)

/-- `toString("utf-8")` of a buffer: what is incomplete at its end becomes U+FFFD. -/
def bufferText (bytes : List UInt8) : List Nat :=
  let (last, points) := ({ begun := true } : Utf8Decoder).decode bytes
  if last.needed = 0 then points else points ++ [0xfffd]

def bytesOf (text : List Char) : List UInt8 := bufferFrom (text.map Char.toNat)

/-- `replace(/sign/g, other)` -/
def replaceAll (sign other : Char) (text : List Char) : List Char :=
  text.map fun c => if c = sign then other else c

def base64Url (input : List UInt8) : List Char :=
  (replaceAll '/' '_' (replaceAll '+' '-' (Base64.encode input))).rdropWhile (· = '=')

/-- `JSON.parse`, which has neither `NaN` nor `Infinity`. -/
def jsonParse (text : List Nat) : Option Json :=
  (loads text).filter fun value => value.all (fun _ => true) isFloat

/-- The variables that a secret may stand in. -/
structure ShareEnv where
  writerightShareSecret : Option String
  writerightShareJwtSecret : Option String
  nextauthSecret : Option String

/-- An empty variable is passed over. -/
def ShareEnv.secret (env : ShareEnv) : Option String :=
  [env.writerightShareSecret, env.writerightShareJwtSecret, env.nextauthSecret].findSome?
    fun value => value.filter fun text => text ≠ ""

inductive Refusal where
  | api (code message : String) (status : Nat)
  | syntaxError
  | typeError
  deriving DecidableEq

def header : Json :=
  .obj [(codePoints "alg", .str (codePoints "HS256")), (codePoints "typ", .str (codePoints "JWT"))]

section Routes

variable (createHmac : List UInt8 → List UInt8 → List UInt8)

def createShareToken (payload : Json) (secret : String) : List Char :=
  let encodedHeader := base64Url (bufferFrom (stringify.text header))
  let encodedPayload := base64Url (bufferFrom (stringify.text payload))
  let data := encodedHeader ++ '.' :: encodedPayload
  let signature := createHmac (bytesOf secret.toList) (bytesOf data)
  data ++ '.' :: base64Url signature

/-- `createHmac("sha256", secret).update(data).digest("base64url")` -/
def expectedSignature (secret : String) (data : List Char) : List Char :=
  Base64Url.encode (createHmac (bytesOf secret.toList) (bytesOf data))

/-- `payload.exp`: of two members with a key the last counts, and null has no members. -/
def payloadExp : Json → Except Refusal (Option Json)
  | .obj members =>
    .ok ((members.reverse.find? fun member => member.1 = codePoints "exp").map Prod.snd)
  | .null => .error .typeError
  | _ => .ok none

variable (otherExpired : Json → Int → Bool)

/-- `payload.exp && payload.exp < now`; what comes of a value that is no integer is left open. -/
def expired (exp : Option Json) (now : Int) : Bool :=
  match exp with
  | none => false
  | some (.int value) => value ≠ 0 && value < now
  | some value => otherExpired value now

/-- The checks of the public route, up to the payload of the token. -/
def checkShareToken (env : ShareEnv) (now : Int) (token : List Char) : Except Refusal Json :=
  match token.splitOn '.' with
  -- an empty token is one segment
  | [headerB64, payloadB64, signatureB64] =>
    match env.secret with
    | none => .error (.api "MISSING_SECRET" "Share feature unavailable" 503)
    | some secret =>
      let expectedSignatureB64 :=
        expectedSignature createHmac secret (headerB64 ++ '.' :: payloadB64)
      if bytesOf signatureB64 ≠ bytesOf expectedSignatureB64 then
        .error (.api "INVALID_TOKEN" "Invalid or expired share link" 400)
      else
        match jsonParse (bufferText (Base64.decode payloadB64)) with
        | none => .error .syntaxError
        | some payload =>
          match payloadExp payload with
          | .error refusal => .error refusal
          | .ok exp =>
            if expired otherExpired exp now then
              .error (.api "EXPIRED_TOKEN" "This share link has expired." 410)
            else .ok payload
  | _ => .error (.api "INVALID_TOKEN" "Invalid token format" 400)

end Routes

/-- An object with a positive `exp`: each key once, and what JSON can write. -/
structure Payload where
  members : List (List Nat × Json)
  exp : Nat
  nodup : (members.map Prod.fst).Nodup
  sound : (Json.obj members).all unpaired isFloat = true
  positive : 0 < exp
  expires : (codePoints "exp", .int exp) ∈ members

private theorem base64Url_eq (input : List UInt8) : base64Url input = Base64Url.encode input := by
  have both : replaceAll '/' '_' (replaceAll '+' '-' (Base64.encode input)) =
      (Base64.encode input).map Base64.urlSafe := by
    rw [replaceAll, replaceAll, List.map_map]
    apply List.map_congr_left
    intro c _
    by_cases plus : c = '+'
    · rw [plus]
      decide
    · by_cases slash : c = '/'
      · rw [slash]
        decide
      · simp [Base64.urlSafe, plus, slash]
  rw [base64Url, both, Base64.rdropWhile_map_urlSafe]

example : base64Url (bufferFrom (stringify.text header)) =
    "eyJhbGciOiJIUzI1NiIsInR5cCI6IkpXVCJ9".toList := by decide +kernel

private theorem dot_not_mem_base64Url (input : List UInt8) : '.' ∉ base64Url input := by
  rw [base64Url_eq]
  exact Base64Url.dot_not_mem_encode input

/-- A text with no half of a pair comes out of a buffer as it went in. -/
theorem bufferText_bufferFrom {text : List Nat} (scalar : text.all isScalar = true) :
    bufferText (bufferFrom text) = text := by
  have whole : ∀ point ∈ text, point < 0x110000 ∧ isSurrogate point = false := by
    intro point member
    simpa [isScalar] using List.all_eq_true.mp scalar point member
  have bytes : bufferFrom text = text.flatMap utf8 := by
    rw [bufferFrom, List.flatMap_def, List.flatMap_def]
    congr 1
    apply List.map_congr_left
    intro point member
    rw [(whole point member).2]
    rfl
  rw [bufferText, bytes, Utf8Decoder.decode_text whole]
  rfl

theorem codePoints_scalar (text : List Char) : (text.map Char.toNat).all isScalar = true := by
  rw [List.all_map, List.all_eq_true]
  intro c _
  have range := char_scalar c
  have whole := not_surrogate c
  simp only [Function.comp_apply, isScalar, whole, Bool.not_false, Bool.and_true, decide_eq_true_eq]
  omega

private theorem unpaired_codePoints (text : String) : unpaired (codePoints text) = true :=
  unpaired_of_scalar (codePoints_scalar text.toList)

/-- 7 days. -/
def shareTtlSecs : Nat := 7 * 24 * 60 * 60

/-- What the route signs at a second. -/
def sharePayload (userId chatId jobId jti : String) (now : Nat) : Payload where
  members := [
    (codePoints "sub", .str (codePoints userId)),
    (codePoints "chat_id", .str (codePoints chatId)),
    (codePoints "job_id", .str (codePoints jobId)),
    (codePoints "iat", .int now),
    (codePoints "exp", .int (now + shareTtlSecs : Nat)),
    (codePoints "jti", .str (codePoints jti))]
  exp := now + shareTtlSecs
  nodup := by
    change [codePoints "sub", codePoints "chat_id", codePoints "job_id", codePoints "iat",
      codePoints "exp", codePoints "jti"].Nodup
    decide +kernel
  sound := by simp [Json.all, Json.allMembers, unpaired_codePoints]
  positive := by
    unfold shareTtlSecs
    omega
  expires := by simp

private theorem bytesOf_inj {text other : List Char} (same : bytesOf text = bytesOf other) :
    text = other := by
  have back := congrArg bufferText same
  rw [bytesOf, bytesOf, bufferText_bufferFrom (codePoints_scalar text),
    bufferText_bufferFrom (codePoints_scalar other)] at back
  exact List.map_injective_iff.mpr (fun _ _ equal => Char.toNat_inj.mp equal) back

theorem jsonParse_stringify {value : Json} (sound : value.all unpaired isFloat = true) :
    jsonParse (stringify.text value) = some value := by
  rw [jsonParse, loads_stringify sound, Option.filter_some,
    if_pos (Json.all_mono (fun _ _ => rfl) sound)]

namespace Payload

def json (payload : Payload) : Json := .obj payload.members

theorem parsed (payload : Payload) :
    jsonParse (bufferText (Base64.decode (base64Url (bufferFrom (stringify.text payload.json))))) =
      some payload.json := by
  rw [base64Url_eq, Base64.decode_encode, bufferText_bufferFrom (@text_scalar payload.json payload.sound),
    @jsonParse_stringify payload.json payload.sound]

private theorem payloadExp_json (payload : Payload) :
    payloadExp payload.json = .ok (some (.int payload.exp)) := by
  have found : payload.members.reverse.find? (fun member => member.1 = codePoints "exp") =
      some (codePoints "exp", .int payload.exp) := by
    have some_ : (payload.members.reverse.find? fun member =>
        member.1 = codePoints "exp").isSome = true :=
      List.find?_isSome.mpr ⟨_, List.mem_reverse.mpr payload.expires, decide_eq_true rfl⟩
    obtain ⟨member, found⟩ := Option.isSome_iff_exists.mp some_
    have key : member.1 = codePoints "exp" := by simpa using List.find?_some found
    have inside := List.mem_reverse.mp (List.mem_of_find?_eq_some found)
    rw [found, List.inj_on_of_nodup_map payload.nodup inside payload.expires key]
  rw [json, payloadExp, found]
  rfl

private theorem expired_exp (payload : Payload) (otherExpired : Json → Int → Bool) (now : Int) :
    expired otherExpired (some (.int payload.exp)) now = decide ((payload.exp : Int) < now) := by
  have nonzero : (payload.exp : Int) ≠ 0 := by
    have positive := payload.positive
    omega
  rw [expired, decide_eq_true nonzero, Bool.true_and]

end Payload

section Checks

variable {createHmac : List UInt8 → List UInt8 → List UInt8} {otherExpired : Json → Int → Bool}
  {env : ShareEnv} {secret : String} {now : Int}

/-- A token that was made with the secret is told by its time only. -/
theorem checkShareToken_created (configured : env.secret = some secret) (payload : Payload) :
    checkShareToken createHmac otherExpired env now
        (createShareToken createHmac payload.json secret) =
      if now ≤ payload.exp then .ok payload.json
      else .error (.api "EXPIRED_TOKEN" "This share link has expired." 410) := by
  have parts : (createShareToken createHmac payload.json secret).splitOn '.' =
      [base64Url (bufferFrom (stringify.text header)),
        base64Url (bufferFrom (stringify.text payload.json)),
        expectedSignature createHmac secret (base64Url (bufferFrom (stringify.text header)) ++ '.' ::
          base64Url (bufferFrom (stringify.text payload.json)))] := by
    rw [createShareToken, List.append_assoc, List.cons_append,
      List.splitOn_append_cons_self_of_not_mem (dot_not_mem_base64Url _),
      List.splitOn_append_cons_self_of_not_mem (dot_not_mem_base64Url _),
      List.splitOn_eq_singleton (dot_not_mem_base64Url _), base64Url_eq (createHmac _ _),
      expectedSignature]
  rw [checkShareToken, parts]
  simp only [configured, ne_eq, not_true_eq_false, if_false, payload.parsed, payload.payloadExp_json,
    payload.expired_exp, decide_eq_true_eq]
  by_cases alive : now ≤ payload.exp
  · rw [if_pos alive, if_neg (Int.not_lt.mpr alive)]
  · rw [if_neg alive, if_pos (Int.not_le.mp alive)]

/-- The links that the route makes last seven days. -/
theorem checkShareToken_shared (configured : env.secret = some secret)
    (userId chatId jobId jti : String) (issued : Nat) :
    checkShareToken createHmac otherExpired env now
        (createShareToken createHmac (sharePayload userId chatId jobId jti issued).json secret) =
      if now ≤ (issued + shareTtlSecs : Nat) then
        .ok (sharePayload userId chatId jobId jti issued).json
      else .error (.api "EXPIRED_TOKEN" "This share link has expired." 410) :=
  checkShareToken_created configured (sharePayload userId chatId jobId jti issued)

/-- What is accepted was signed. -/
theorem signed_of_checkShareToken {token : List Char} {payload : Json}
    (accepted : checkShareToken createHmac otherExpired env now token = .ok payload) :
    ∃ secret headerB64 payloadB64, env.secret = some secret ∧
      token.splitOn '.' = [headerB64, payloadB64,
        expectedSignature createHmac secret (headerB64 ++ '.' :: payloadB64)] := by
  unfold checkShareToken at accepted
  split at accepted
  · rename_i headerB64 payloadB64 signatureB64 parts
    split at accepted
    · cases accepted
    · rename_i secret configured
      dsimp only at accepted
      split at accepted
      · cases accepted
      · rename_i equal
        rw [bytesOf_inj (Decidable.not_not.mp equal)] at parts
        exact ⟨secret, headerB64, payloadB64, configured, parts⟩
  · cases accepted

end Checks

/-- The routes agree on the tokens. -/
structure LinksVerify (createHmac : List UInt8 → List UInt8 → List UInt8)
    (otherExpired : Json → Int → Bool) : Prop where
  created : ∀ (payload : Payload) (secret : String) (env : ShareEnv) (now : Int),
    env.secret = some secret →
      checkShareToken createHmac otherExpired env now
          (createShareToken createHmac payload.json secret) =
        if now ≤ payload.exp then .ok payload.json
        else .error (.api "EXPIRED_TOKEN" "This share link has expired." 410)
  accepted : ∀ (env : ShareEnv) (now : Int) (token : List Char) (payload : Json),
    checkShareToken createHmac otherExpired env now token = .ok payload →
      ∃ secret headerB64 payloadB64, env.secret = some secret ∧
        token.splitOn '.' = [headerB64, payloadB64,
          Base64Url.encode (createHmac (bytesOf secret.toList)
            (bytesOf (headerB64 ++ '.' :: payloadB64)))]

theorem shareLinks_verify (createHmac : List UInt8 → List UInt8 → List UInt8)
    (otherExpired : Json → Int → Bool) : LinksVerify createHmac otherExpired := by
  constructor
  · intro payload secret env now configured
    exact checkShareToken_created configured payload
  · intro env now token payload accepted
    exact signed_of_checkShareToken accepted

end BrainMate.WriteRight.ShareToken
