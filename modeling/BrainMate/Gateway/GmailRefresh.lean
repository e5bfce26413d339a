import BrainMate.Gateway.Gmail
import BrainMate.Gateway.TokenEncryption
import BrainMate.Interleaving.Watched

/-! `get_valid_access_token` among the other handlers of Gmail connections, in any
interleaving. The statement that stores a refreshed token is about every active row of the
user; the rows keep the tokens of their accounts as long as these are the rows of one. -/

namespace BrainMate.Gateway

open Interleaving System Storage

/-- The accounts of the tokens that Google has issued and will issue. -/
structure Google where
  accessAccount : String → Option String
  refreshAccount : String → Option String

structure GoogleTokenResponse where
  accessToken : String
  refreshToken : Option String
  expiresIn : Option Int
  deriving DecidableEq, Repr

structure GoogleUserInfo where
  email : String
  name : Option String
  picture : Option String
  deriving DecidableEq, Repr

/-- What the handlers are started with, and the services they call. -/
structure GmailDeployment where
  service : GmailService
  /-- `require_gmail_credentials`. -/
  credentials : Except String Unit
  gmailTokenEncryptionKey : Option String
  cipher : Aead
  google : Google

inductive GmailCommand where
  /-- `Utc::now()`, in microseconds. -/
  | now
  /-- `OsRng.fill_bytes` for a nonce. -/
  | nonce
  /-- POST to the token endpoint with `grant_type=authorization_code`. -/
  | authorizationGrant (code : String)
  /-- POST to the token endpoint with `grant_type=refresh_token`. -/
  | refreshGrant (refreshToken : String)
  | userinfo (accessToken : String)
  | getActiveConnection (clerkUserId : String)
  | upsertConnection (new : NewConnection)
  | updateAccessToken (clerkUserId newAccessTokenEnc : String) (newExpiry : Int)
  | deactivateConnection (clerkUserId : String)
  deriving DecidableEq, Repr

/-- How the world deals with a command: the end of a statement, the row a SELECT takes among
the newest ones, the id of an inserted row, the bytes of a nonce, and what Google answers. -/
structure GmailDealing where
  fate : Fate := .done
  choice : Nat := 0
  id : String := ""
  nonce : Aead.NonceBytes := ⟨List.replicate 12 0, rfl⟩
  response : Option GoogleTokenResponse := none
  name : Option String := none
  picture : Option String := none
  deriving DecidableEq, Repr

namespace GmailCommand

@[reducible] def Reply : GmailCommand → Type
  | .now => Nat
  | .nonce => Aead.NonceBytes
  | .authorizationGrant _ | .refreshGrant _ => Except String GoogleTokenResponse
  | .userinfo _ => Except String GoogleUserInfo
  | .getActiveConnection _ => Except String (Option DbGmailConnection)
  | .upsertConnection _ | .updateAccessToken _ _ _ | .deactivateConnection _ => Except String Unit

def effect (id : String) : GmailCommand → GmailState → GmailState
  | .upsertConnection new, state =>
    { state with connections := upsertGmailConnection state.connections new id state.now }
  | .updateAccessToken clerkUserId enc expiry, state =>
    { state with connections := updateGmailAccessToken state.connections clerkUserId enc expiry }
  | .deactivateConnection clerkUserId, state =>
    { state with connections := deactivateGmailConnection state.connections clerkUserId }
  | .now, state | .nonce, state | .authorizationGrant _, state | .refreshGrant _, state
  | .userinfo _, state | .getActiveConnection _, state => state

/-- The user whose refreshed token the command stores. -/
def refreshes? : GmailCommand → Option String
  | .updateAccessToken clerkUserId _ _ => some clerkUserId
  | .now | .nonce | .authorizationGrant _ | .refreshGrant _ | .userinfo _ | .getActiveConnection _
  | .upsertConnection _ | .deactivateConnection _ => none

/-- Google issues the tokens of a response for one account. -/
def honest (google : Google) (response : GoogleTokenResponse) : Bool :=
  match google.accessAccount response.accessToken with
  | some email => response.refreshToken.all fun token =>
      decide (google.refreshAccount token = some email)
  | none => false

/-- Google answers a refresh token with an access token for its account. -/
def honestRefresh (google : Google) (refreshToken : String) (response : GoogleTokenResponse) : Bool :=
  match google.refreshAccount refreshToken with
  | some email => decide (google.accessAccount response.accessToken = some email)
  | none => false

def told (dealing : GmailDealing) : Except String Unit :=
  match dealing.fate with
  | .done => .ok ()
  | .lost | .refused => .error "connection lost"

/-- `ORDER BY connected_at DESC LIMIT 1`. -/
def chosen (choice : Nat) (rows : List DbGmailConnection) : Option DbGmailConnection :=
  rows[choice]?.or rows.head?

def answer (google : Google) (dealing : GmailDealing) :
    (command : GmailCommand) → GmailState → command.Reply
  | .now, state => state.now
  | .nonce, _ => dealing.nonce
  | .authorizationGrant _, _ =>
    match dealing.response.filter (honest google) with
    | some response => .ok response
    | none => .error "Google token endpoint returned an error"
  | .refreshGrant refreshToken, _ =>
    match dealing.response.filter (honestRefresh google refreshToken) with
    | some response => .ok response
    | none => .error "Token refresh returned an error"
  | .userinfo accessToken, _ =>
    match google.accessAccount accessToken, dealing.fate with
    | some email, .done => .ok ⟨email, dealing.name, dealing.picture⟩
    | _, _ => .error "userinfo request failed"
  | .getActiveConnection clerkUserId, state =>
    (told dealing).map fun _ =>
      chosen dealing.choice (newest (activeConnections state.connections clerkUserId))
  | .upsertConnection _, _ | .updateAccessToken _ _ _, _ | .deactivateConnection _, _ => told dealing

def exec (google : Google) (dealing : GmailDealing) (command : GmailCommand) (state : GmailState) :
    command.Reply × GmailState :=
  (command.answer google dealing state,
    if dealing.fate = .refused then state else command.effect dealing.id state)

end GmailCommand

abbrev GmailProcedure := Program GmailCommand GmailCommand.Reply

def issue (command : GmailCommand) : GmailProcedure command.Reply := Program.request command

namespace GmailDeployment

variable (deployment : GmailDeployment)

def refreshBufferSecs : Int := 300

/-- `Utc::now() + Duration::seconds(expires_in.unwrap_or(3600))`. -/
def expiryAfter (now : Nat) (expiresIn : Option Int) : Int := now + expiresIn.getD 3600 * 1000000

/-- `encrypt_token`. -/
def encryptToken (plaintext encKey : String) : GmailProcedure (Except String String) := do
  return deployment.cipher.encryptToken (← issue .nonce) plaintext encKey

/-- The end of `exchange_auth_code`: the tokens are encrypted. -/
def encryptExchange (encKey accessToken refreshToken : String) (user : GoogleUserInfo) (expiry : Int) :
    GmailProcedure (Except String TokenExchangeResult) := do
  match ← deployment.encryptToken accessToken encKey with
  | .error error => return .error error
  | .ok accessTokenEnc =>
    match ← deployment.encryptToken refreshToken encKey with
    | .error error => return .error error
    | .ok refreshTokenEnc => return .ok {
        gmailEmail := user.email
        displayName := user.name.getD user.email
        avatarUrl := user.picture
        accessTokenEnc, refreshTokenEnc, expiry }

def exchangeAuthCode (code : String) : GmailProcedure (Except String TokenExchangeResult) :=
  match deployment.credentials with
  | .error error => return .error error
  | .ok () =>
    match deployment.gmailTokenEncryptionKey with
    | none => return .error "GMAIL_TOKEN_ENCRYPTION_KEY required"
    | some encKey => do
      match ← issue (.authorizationGrant code) with
      | .error error => return .error error
      | .ok response =>
        match response.refreshToken with
        | none => return .error ("Google did not return refresh_token. " ++
            "Ensure prompt=consent and access_type=offline.")
        | some refresh =>
          match ← issue (.userinfo response.accessToken) with
          | .error error => return .error error
          | .ok user =>
            let now ← issue .now
            deployment.encryptExchange encKey response.accessToken refresh user
              (expiryAfter now response.expiresIn)

/-- The part of `get_valid_access_token` that refreshes the token of the row. -/
def refreshToken (clerkUserId encKey : String) (conn : DbGmailConnection) :
    GmailProcedure (Except String String) :=
  match deployment.credentials with
  | .error error => return .error error
  | .ok () =>
    match deployment.cipher.decryptToken conn.refreshTokenEnc encKey with
    | .error error => return .error error
    | .ok refresh => do
      match ← issue (.refreshGrant refresh) with
      | .error error => return .error error
      | .ok response =>
        let now ← issue .now
        match ← deployment.encryptToken response.accessToken encKey with
        | .error error => return .error error
        | .ok newEnc =>
          match ← issue
            (.updateAccessToken clerkUserId newEnc (expiryAfter now response.expiresIn)) with
          | .error _ => return .error "Failed to persist refreshed token"
          | .ok () => return .ok response.accessToken

/-- Whether the token expires within the buffer window; both times in whole seconds. -/
def expiring (now : Nat) (conn : DbGmailConnection) : Bool :=
  decide (conn.tokenExpiry / 1000000 - refreshBufferSecs ≤ (now : Int) / 1000000)

def getValidAccessToken (clerkUserId : String) : GmailProcedure (Except String String) := do
  match ← issue (.getActiveConnection clerkUserId) with
  | .error _ => return .error "DB error"
  | .ok none => return .error "No active Gmail connection for user"
  | .ok (some conn) =>
    match deployment.gmailTokenEncryptionKey with
    | none => return .error "GMAIL_TOKEN_ENCRYPTION_KEY required"
    | some encKey =>
      let now ← issue .now
      if expiring now conn then deployment.refreshToken clerkUserId encKey conn
      else return deployment.cipher.decryptToken conn.accessTokenEnc encKey

/-- The checks of `gmail_callback` before the exchange. -/
def callbackChecks (now : Nat) (body : GmailCallbackRequest) : Except ApiError Unit :=
  (deployment.service.checkCallback now body (some ⟨"", "", none, "", "", 0⟩)).map fun _ => ()

def gmailCallback (body : GmailCallbackRequest) : GmailProcedure (Except ApiError String) := do
  let now ← issue .now
  match deployment.callbackChecks now body with
  | .error error => return .error error
  | .ok () =>
    let exchange ← deployment.exchangeAuthCode body.code
    match deployment.service.checkCallback now body exchange.toOption with
    | .error error => return .error error
    | .ok new =>
      match ← issue (.upsertConnection new) with
      | .error _ => return .error (.serviceUnavailable "Failed to store connection")
      | .ok () => return .ok new.gmailEmail

def gmailDisconnect (clerkUserId : String) : GmailProcedure (Except ApiError Unit) :=
  if deployment.service.hasDb then do
    match ← issue (.deactivateConnection clerkUserId) with
    | .error _ => return .error (.serviceUnavailable "Disconnect failed")
    | .ok () => return .ok ()
  else return .error (.serviceUnavailable "DB unavailable")

end GmailDeployment

inductive GmailCall where
  | callback (body : GmailCallbackRequest)
  | getValidAccessToken (clerkUserId : String)
  | disconnect (clerkUserId : String)
  deriving DecidableEq, Repr

@[reducible] def GmailCall.Result : GmailCall → Type
  | .callback _ => Except ApiError String
  | .getValidAccessToken _ => Except String String
  | .disconnect _ => Except ApiError Unit

@[reducible] def GmailDeployment.system (deployment : GmailDeployment) :
    System GmailCommand GmailCommand.Reply where
  World := GmailState
  Outcome := GmailDealing
  Event := Nat
  Call := GmailCall
  Result := GmailCall.Result
  exec := GmailCommand.exec deployment.google
  environment micros state := { state with now := state.now + micros }
  program
    | .callback body => deployment.gmailCallback body
    | .getValidAccessToken clerkUserId => deployment.getValidAccessToken clerkUserId
    | .disconnect clerkUserId => deployment.gmailDisconnect clerkUserId

inductive GmailPhase where
  | rest
  | read (clerkUserId : String) (row : DbGmailConnection)
  | refreshed (clerkUserId : String) (row : DbGmailConnection) (accessToken : String)
  | granted (accessToken refreshToken : String)
  | identified (accessToken refreshToken email : String)
  deriving DecidableEq, Repr

namespace GmailPhase

def advance : GmailPhase → (command : GmailCommand) → command.Reply → GmailPhase
  | phase, .getActiveConnection clerkUserId, reply =>
    match reply with
    | .ok (some row) => .read clerkUserId row
    | _ => phase
  | .read clerkUserId row, .refreshGrant _, reply =>
    match reply with
    | .ok response => .refreshed clerkUserId row response.accessToken
    | .error _ => .read clerkUserId row
  | phase, .authorizationGrant _, reply =>
    match reply with
    | .ok ⟨accessToken, some refreshToken, _⟩ => .granted accessToken refreshToken
    | _ => phase
  | .granted accessToken refreshToken, .userinfo _, reply =>
    match reply with
    | .ok user => .identified accessToken refreshToken user.email
    | .error _ => .granted accessToken refreshToken
  | phase, _, _ => phase

/-- The row whose token the call refreshes. -/
def row? : GmailPhase → Option DbGmailConnection
  | .read _ row | .refreshed _ row _ => some row
  | .rest | .granted _ _ | .identified _ _ _ => none

end GmailPhase

namespace GmailDeployment

variable (deployment : GmailDeployment)

/-- The stored text decrypts to the token. -/
def Decrypts (enc token : String) : Prop :=
  ∃ encKey ∈ deployment.gmailTokenEncryptionKey, deployment.cipher.decryptToken enc encKey = .ok token

/-- What a call issues of what it has. -/
def Allowed : GmailPhase → GmailCommand → Prop
  | phase, .refreshGrant token =>
    ∃ clerkUserId row, phase = .read clerkUserId row ∧ deployment.Decrypts row.refreshTokenEnc token
  | phase, .userinfo token => ∃ refreshToken, phase = .granted token refreshToken
  | phase, .updateAccessToken clerkUserId enc _ =>
    ∃ row token, phase = .refreshed clerkUserId row token ∧ deployment.Decrypts enc token
  | phase, .upsertConnection new =>
    ∃ accessToken refreshToken, phase = .identified accessToken refreshToken new.gmailEmail ∧
      deployment.Decrypts new.accessTokenEnc accessToken ∧
      deployment.Decrypts new.refreshTokenEnc refreshToken
  | _, _ => True

@[reducible] def observer : Observer GmailCommand GmailCommand.Reply where
  Phase := GmailPhase
  rest := .rest
  advance := GmailPhase.advance
  allowed := deployment.Allowed

/-- The phases of the clients. -/
@[reducible] def phaseGhost : deployment.system.Ghost := deployment.system.ghostOf deployment.observer

variable {deployment} {phase : GmailPhase} {encKey : String}

/-- Encrypting a token issues nothing but the request of a nonce. -/
theorem encryptToken_follows {α : Type} {ends : α → GmailPhase → Prop} (plaintext : String)
    (keyed : deployment.gmailTokenEncryptionKey = some encKey)
    {next : Except String String → GmailProcedure α}
    (failed : ∀ error, deployment.observer.Follows ends phase (next (.error error)))
    (done : ∀ enc, deployment.Decrypts enc plaintext →
      deployment.observer.Follows ends phase (next (.ok enc))) :
    deployment.observer.Follows ends phase (deployment.encryptToken plaintext encKey >>= next) := by
  refine ⟨by cases phase <;> trivial, fun nonce => ?_⟩
  have stays : phase.advance .nonce nonce = phase := by cases phase <;> rfl
  change deployment.observer.Follows ends (phase.advance .nonce nonce)
    (next (deployment.cipher.encryptToken nonce plaintext encKey))
  rw [stays]
  cases written : deployment.cipher.encryptToken nonce plaintext encKey with
  | error error => exact failed error
  | ok enc => exact done enc ⟨encKey, keyed, Aead.decryptToken_encryptToken written⟩

private theorem refreshToken_follows (clerkUserId : String) (row : DbGmailConnection)
    (keyed : deployment.gmailTokenEncryptionKey = some encKey) :
    deployment.observer.Follows (fun _ _ => True) (.read clerkUserId row)
      (deployment.refreshToken clerkUserId encKey row) := by
  unfold refreshToken
  cases deployment.credentials with
  | error error => trivial
  | ok =>
    dsimp only
    cases opened : deployment.cipher.decryptToken row.refreshTokenEnc encKey with
    | error error => trivial
    | ok refresh =>
      refine ⟨⟨clerkUserId, row, rfl, encKey, keyed, opened⟩, ?_⟩
      rintro (error | response)
      · trivial
      · refine ⟨trivial, fun now => ?_⟩
        apply encryptToken_follows response.accessToken keyed
        · intro error
          trivial
        · intro enc decrypts
          refine ⟨⟨row, response.accessToken, rfl, decrypts⟩, ?_⟩
          rintro (error | done)
          · trivial
          · trivial

private theorem getValidAccessToken_follows (clerkUserId : String) :
    deployment.observer.Follows (fun _ _ => True) .rest
      (deployment.getValidAccessToken clerkUserId) := by
  refine ⟨trivial, ?_⟩
  rintro (error | _ | row)
  · trivial
  · trivial
  · dsimp only [Program.bind]
    cases keyed : deployment.gmailTokenEncryptionKey with
    | none => trivial
    | some encKey =>
      refine ⟨trivial, fun now => ?_⟩
      change deployment.observer.Follows _ (.read clerkUserId row) (if _ then _ else _)
      split
      · exact refreshToken_follows clerkUserId row keyed
      · trivial

/-- What a callback holds after the exchange. -/
def Exchanged (outcome : Except String TokenExchangeResult) (phase : GmailPhase) : Prop :=
  ∀ result, outcome = .ok result → ∃ accessToken refreshToken,
    phase = .identified accessToken refreshToken result.gmailEmail ∧
      deployment.Decrypts result.accessTokenEnc accessToken ∧
      deployment.Decrypts result.refreshTokenEnc refreshToken

theorem exchanged_error (error : String) (phase : GmailPhase) :
    deployment.Exchanged (.error error) phase := by
  intro result ended
  cases ended

private theorem encryptExchange_follows (keyed : deployment.gmailTokenEncryptionKey = some encKey)
    (accessToken refreshToken : String) (user : GoogleUserInfo) (expiry : Int) :
    deployment.observer.Follows deployment.Exchanged (.identified accessToken refreshToken user.email)
      (deployment.encryptExchange encKey accessToken refreshToken user expiry) := by
  apply encryptToken_follows accessToken keyed
  · intro error
    exact exchanged_error error _
  · intro accessTokenEnc accessDecrypts
    apply encryptToken_follows refreshToken keyed
    · intro error
      exact exchanged_error error _
    · rintro refreshTokenEnc refreshDecrypts result ended
      cases ended
      exact ⟨accessToken, refreshToken, rfl, accessDecrypts, refreshDecrypts⟩

private theorem exchangeAuthCode_follows (code : String) :
    deployment.observer.Follows deployment.Exchanged .rest (deployment.exchangeAuthCode code) := by
  unfold exchangeAuthCode
  cases deployment.credentials with
  | error error => exact exchanged_error error _
  | ok =>
    dsimp only
    cases keyed : deployment.gmailTokenEncryptionKey with
    | none => exact exchanged_error _ _
    | some encKey =>
      refine ⟨trivial, ?_⟩
      rintro (error | ⟨accessToken, _ | refreshToken, expiresIn⟩)
      · exact exchanged_error error _
      · exact exchanged_error _ _
      · refine ⟨⟨refreshToken, rfl⟩, ?_⟩
        rintro (error | user)
        · exact exchanged_error error _
        · refine ⟨trivial, fun now => ?_⟩
          exact encryptExchange_follows keyed accessToken refreshToken user _

/-- Without an exchange nothing is stored. -/
theorem checkCallback_none {service : GmailService} {now : Nat} {body : GmailCallbackRequest}
    {new : NewConnection} : service.checkCallback now body none ≠ .ok new := by
  intro checked
  simp only [GmailService.checkCallback] at checked
  repeat' split at checked
  all_goals cases checked

private theorem gmailCallback_follows (body : GmailCallbackRequest) :
    deployment.observer.Follows (fun _ _ => True) .rest (deployment.gmailCallback body) := by
  refine ⟨trivial, fun now => ?_⟩
  dsimp only [Program.bind]
  cases deployment.callbackChecks now body with
  | error error => trivial
  | ok =>
    apply (exchangeAuthCode_follows body.code).bind
    intro exchange phase exchanged
    cases checked : deployment.service.checkCallback now body exchange.toOption with
    | error error => trivial
    | ok new =>
      cases exchange with
      | error error => exact absurd checked checkCallback_none
      | ok result =>
        obtain ⟨accessToken, refreshToken, rfl, accessDecrypts, refreshDecrypts⟩ :=
          exchanged result rfl
        obtain rfl := checkCallback_ok checked
        refine ⟨⟨accessToken, refreshToken, rfl, accessDecrypts, refreshDecrypts⟩, ?_⟩
        rintro (error | done)
        · trivial
        · trivial

theorem program_follows (call : GmailCall) :
    deployment.observer.Follows (fun _ _ => True) .rest (deployment.system.program call) := by
  cases call with
  | callback body => exact gmailCallback_follows body
  | getValidAccessToken clerkUserId => exact getValidAccessToken_follows clerkUserId
  | disconnect clerkUserId =>
    change deployment.observer.Follows _ _ (deployment.gmailDisconnect clerkUserId)
    unfold gmailDisconnect
    split
    · refine ⟨trivial, ?_⟩
      rintro (error | done)
      · trivial
      · trivial
    · trivial

variable (deployment) in
/-- Both tokens of the row are of its account. -/
structure RowIssued (row : DbGmailConnection) : Prop where
  access : ∃ token, deployment.Decrypts row.accessTokenEnc token ∧
    deployment.google.accessAccount token = some row.gmailEmail
  refresh : ∃ token, deployment.Decrypts row.refreshTokenEnc token ∧
    deployment.google.refreshAccount token = some row.gmailEmail

variable (deployment) in
/-- What a client has been told of tokens and accounts. -/
def Informed : GmailPhase → Prop
  | .rest => True
  | .read clerkUserId row => row.clerkUserId = clerkUserId ∧ deployment.RowIssued row
  | .refreshed clerkUserId row accessToken =>
    row.clerkUserId = clerkUserId ∧ deployment.google.accessAccount accessToken = some row.gmailEmail
  | .granted accessToken refreshToken => ∃ email,
    deployment.google.accessAccount accessToken = some email ∧
      deployment.google.refreshAccount refreshToken = some email
  | .identified accessToken refreshToken email =>
    deployment.google.accessAccount accessToken = some email ∧
      deployment.google.refreshAccount refreshToken = some email

variable (deployment) in
def Issued (connections : GmailConnections) : Prop :=
  ∀ key row, connections.find? key = some row → deployment.RowIssued row

/-- A text has one decryption. -/
theorem Decrypts.unique {enc first second : String} (one : deployment.Decrypts enc first)
    (other : deployment.Decrypts enc second) : first = second := by
  obtain ⟨key, keyed, opened⟩ := one
  obtain ⟨key', keyed', opened'⟩ := other
  cases keyed.symm.trans keyed'
  exact Except.ok.inj (opened.symm.trans opened')

private theorem chosen_mem {choice : Nat} {rows : List DbGmailConnection} {row : DbGmailConnection}
    (taken : GmailCommand.chosen choice rows = some row) : row ∈ rows := by
  rcases Option.or_eq_some_iff.mp taken with at_ | ⟨_, first⟩
  · exact List.mem_of_getElem? at_
  · exact List.mem_of_mem_head? first

/-- A SELECT answers with a stored row of its user. -/
theorem answered_row {clerkUserId : String} {dealing : GmailDealing} {state : GmailState}
    {row : DbGmailConnection}
    (answered : GmailCommand.answer deployment.google dealing (.getActiveConnection clerkUserId) state =
      .ok (some row)) :
    state.connections.find? (clerkUserId, row.gmailEmail) = some row := by
  rw [GmailCommand.answer] at answered
  cases told : GmailCommand.told dealing with
  | error error =>
    rw [told] at answered
    cases answered
  | ok =>
    rw [told] at answered
    have taken := chosen_mem (Except.ok.inj answered)
    exact (mem_activeConnections.mp (mem_newest.mp taken).1).1

/-- A refreshed token is of the account of the row. -/
theorem refreshed_account {row : DbGmailConnection} {token : String} {dealing : GmailDealing}
    {state : GmailState} {response : GoogleTokenResponse} (issued : deployment.RowIssued row)
    (opened : deployment.Decrypts row.refreshTokenEnc token)
    (answered : GmailCommand.answer deployment.google dealing (.refreshGrant token) state =
      .ok response) :
    deployment.google.accessAccount response.accessToken = some row.gmailEmail := by
  obtain ⟨own, decrypts, account⟩ := issued.refresh
  obtain rfl := opened.unique decrypts
  simp only [GmailCommand.answer] at answered
  split at answered
  · rename_i given filtered
    cases answered
    have honest := (Option.filter_eq_some_iff.mp filtered).2
    rw [GmailCommand.honestRefresh, account] at honest
    exact of_decide_eq_true honest
  · cases answered

private theorem identified_account {token : String} {dealing : GmailDealing} {state : GmailState}
    {user : GoogleUserInfo}
    (answered : GmailCommand.answer deployment.google dealing (.userinfo token) state = .ok user) :
    deployment.google.accessAccount token = some user.email := by
  simp only [GmailCommand.answer] at answered
  split at answered
  · rename_i email own _
    cases answered
    exact own
  · cases answered

/-- Google grants both tokens for one account. -/
theorem granted_account {code accessToken refreshToken : String} {expiresIn : Option Int}
    {dealing : GmailDealing} {state : GmailState}
    (answered : GmailCommand.answer deployment.google dealing (.authorizationGrant code) state =
      .ok ⟨accessToken, some refreshToken, expiresIn⟩) :
    ∃ email, deployment.google.accessAccount accessToken = some email ∧
      deployment.google.refreshAccount refreshToken = some email := by
  simp only [GmailCommand.answer] at answered
  split at answered
  · rename_i given filtered
    cases answered
    have honest := (Option.filter_eq_some_iff.mp filtered).2
    rw [GmailCommand.honest] at honest
    split at honest
    · rename_i email own
      exact ⟨email, own, of_decide_eq_true honest⟩
    · cases honest
  · cases answered

/-- What a client is told of tokens and accounts is so. -/
theorem Informed.advance {command : GmailCommand} {dealing : GmailDealing} {state : GmailState}
    (informed : deployment.Informed phase) (issued : deployment.Issued state.connections)
    (allowed : deployment.Allowed phase command) :
    deployment.Informed (phase.advance command (command.answer deployment.google dealing state)) := by
  cases command with
  | getActiveConnection clerkUserId =>
    cases answered : GmailCommand.answer deployment.google dealing
      (.getActiveConnection clerkUserId) state with
    | error error => cases phase <;> exact informed
    | ok row? =>
      cases row? with
      | none => cases phase <;> exact informed
      | some row =>
        have stored := answered_row answered
        have told : deployment.Informed (.read clerkUserId row) :=
          ⟨congrArg Prod.fst (state.connections.find?_key stored), issued _ _ stored⟩
        cases phase <;> exact told
  | refreshGrant token =>
    obtain ⟨clerkUserId, row, rfl, opened⟩ := allowed
    obtain ⟨owner, rowIssued⟩ := informed
    cases answered : GmailCommand.answer deployment.google dealing (.refreshGrant token) state with
    | error error => exact ⟨owner, rowIssued⟩
    | ok response => exact ⟨owner, refreshed_account rowIssued opened answered⟩
  | userinfo token =>
    obtain ⟨refreshToken, rfl⟩ := allowed
    obtain ⟨email, access, refresh⟩ := informed
    cases answered : GmailCommand.answer deployment.google dealing (.userinfo token) state with
    | error error => exact ⟨email, access, refresh⟩
    | ok user =>
      have own := identified_account answered
      obtain rfl : email = user.email := Option.some.inj (access.symm.trans own)
      exact ⟨access, refresh⟩
  | authorizationGrant code =>
    cases answered : GmailCommand.answer deployment.google dealing (.authorizationGrant code) state with
    | error error => cases phase <;> exact informed
    | ok response =>
      rcases response with ⟨accessToken, _ | refreshToken, expiresIn⟩
      · cases phase <;> exact informed
      · have told : deployment.Informed (.granted accessToken refreshToken) :=
          granted_account answered
        cases phase <;> exact told
  | now => cases phase <;> exact informed
  | nonce => cases phase <;> exact informed
  | upsertConnection new => cases phase <;> exact informed
  | updateAccessToken clerkUserId enc expiry => cases phase <;> exact informed
  | deactivateConnection clerkUserId => cases phase <;> exact informed

/-- The tables differ in the access token of one account at most. -/
structure OnlyToken (key : String × String) (before after : GmailConnections) : Prop where
  others : ∀ other, other ≠ key → after.find? other = before.find? other
  own : ∃ accessTokenEnc tokenExpiry, after.find? key = (before.find? key).map fun row =>
    { row with accessTokenEnc, tokenExpiry }

theorem OnlyToken.refl {key : String × String} {connections : GmailConnections} :
    OnlyToken key connections connections where
  others _ _ := rfl
  own := by
    cases connections.find? key with
    | none => exact ⟨"", 0, rfl⟩
    | some row => exact ⟨row.accessTokenEnc, row.tokenExpiry, rfl⟩

/-- Every active row of the user is of the account. -/
def Reaches (connections : GmailConnections) (clerkUserId : String)
    (account : Option (String × String)) : Prop :=
  ∀ row ∈ activeConnections connections clerkUserId, account = some row.key

instance (connections : GmailConnections) (clerkUserId : String)
    (account : Option (String × String)) : Decidable (Reaches connections clerkUserId account) :=
  inferInstanceAs
    (Decidable (∀ row ∈ activeConnections connections clerkUserId, account = some row.key))

variable {connections : GmailConnections} {clerkUserId enc : String} {read key : String × String}
variable {row : DbGmailConnection} {expiry : Int}

theorem Reaches.only (reaches : Reaches connections clerkUserId (some read))
    (stored : connections.find? key = some row) (own : key.1 = clerkUserId)
    (active : row.isActive = true) : key = read := by
  obtain rfl : row.key = key := connections.find?_key stored
  obtain rfl : row.clerkUserId = clerkUserId := own
  have member : row ∈ activeConnections connections row.clerkUserId :=
    mem_activeConnections.mpr ⟨stored, active⟩
  exact (Option.some.inj (reaches row member)).symm

/-- Where the account read is the only active one, the statement is about its row. -/
theorem Reaches.onlyToken (reaches : Reaches connections clerkUserId (some read)) :
    OnlyToken read connections (updateGmailAccessToken connections clerkUserId enc expiry) where
  others other different := by
    rw [find?_updateAccessToken]
    cases stored : connections.find? other with
    | none => rfl
    | some row =>
      have spared : ¬ (other.1 = clerkUserId ∧ row.isActive = true) := fun ⟨own, active⟩ =>
        different (reaches.only stored own active)
      rw [Option.map_some, if_neg spared]
  own := by
    rw [find?_updateAccessToken]
    cases connections.find? read with
    | none => exact ⟨enc, expiry, rfl⟩
    | some row =>
      by_cases met : read.1 = clerkUserId ∧ row.isActive = true
      · refine ⟨enc, expiry, ?_⟩
        rw [Option.map_some, Option.map_some, if_pos met]
      · refine ⟨row.accessTokenEnc, row.tokenExpiry, ?_⟩
        rw [Option.map_some, Option.map_some, if_neg met]

/-- What the writing statements make of rows whose tokens are of their accounts. -/
theorem Issued.upsert {new : NewConnection} {access refresh : String}
    (issued : deployment.Issued connections) (accessDecrypts : deployment.Decrypts new.accessTokenEnc access)
    (refreshDecrypts : deployment.Decrypts new.refreshTokenEnc refresh)
    (accessAccount : deployment.google.accessAccount access = some new.gmailEmail)
    (refreshAccount : deployment.google.refreshAccount refresh = some new.gmailEmail)
    (id : String) (now : Nat) :
    deployment.Issued (upsertGmailConnection connections new id now) := by
  intro key row found
  rw [find?_upsert] at found
  split at found
  · rename_i same
    cases stored : connections.find? key with
    | none =>
      rw [stored] at found
      cases found
      exact ⟨⟨access, accessDecrypts, accessAccount⟩, ⟨refresh, refreshDecrypts, refreshAccount⟩⟩
    | some before =>
      rw [stored] at found
      cases found
      have email : before.gmailEmail = new.gmailEmail :=
        congrArg Prod.snd ((connections.find?_key stored).trans same.symm)
      rw [← email] at accessAccount refreshAccount
      exact ⟨⟨access, accessDecrypts, accessAccount⟩, ⟨refresh, refreshDecrypts, refreshAccount⟩⟩
  · exact issued key row found

theorem Issued.deactivate (issued : deployment.Issued connections) (clerkUserId : String) :
    deployment.Issued (deactivateGmailConnection connections clerkUserId) := by
  intro key row found
  rw [find?_deactivate] at found
  obtain ⟨before, stored, rfl⟩ := Option.map_eq_some_iff.mp found
  have own := issued key before stored
  split
  · exact ⟨own.access, own.refresh⟩
  · exact own

theorem Issued.updateAccessToken {token : String} (issued : deployment.Issued connections)
    (reaches : Reaches connections clerkUserId (some read)) (decrypts : deployment.Decrypts enc token)
    (account : deployment.google.accessAccount token = some read.2) :
    deployment.Issued (updateGmailAccessToken connections clerkUserId enc expiry) := by
  intro key row found
  rw [find?_updateAccessToken] at found
  obtain ⟨before, stored, rfl⟩ := Option.map_eq_some_iff.mp found
  have own := issued key before stored
  split
  · rename_i met
    have email : before.gmailEmail = read.2 := by
      rw [← reaches.only stored met.1 met.2]
      exact congrArg Prod.snd (connections.find?_key stored)
    rw [← email] at account
    exact ⟨⟨token, decrypts, account⟩, own.refresh⟩
  · exact own

variable (deployment) in
/-- Where a client is about to store a refreshed token, every active row of the user is of the
account whose row the client has read. -/
def Alone (phases : Nat → GmailPhase) (config : deployment.system.Config) :
    deployment.system.Move → Prop
  | .act (.step client dealing) =>
    ∀ clerkUserId ∈ (config.threads client).next?.bind GmailCommand.refreshes?,
      dealing.fate = .refused ∨
        Reaches config.world.connections clerkUserId ((phases client).row?.map DbGmailConnection.key)
  | .act (.start _ _) | .act (.environment _) | .crash _ => True

instance (phases : Nat → GmailPhase) (config : deployment.system.Config) :
    (move : deployment.system.Move) → Decidable (deployment.Alone phases config move)
  | .act (.step client dealing) => inferInstanceAs (Decidable
    (∀ clerkUserId ∈ (config.threads client).next?.bind GmailCommand.refreshes?,
      dealing.fate = .refused ∨ Reaches config.world.connections clerkUserId
        ((phases client).row?.map DbGmailConnection.key)))
  | .act (.start _ _) | .act (.environment _) | .crash _ => isTrue trivial

variable (deployment) in
/-- A client that stores a refreshed token changes the access token and the expiry of the row
it has read, and no other row. -/
def LeavesOthers (phases : Nat → GmailPhase) (config : deployment.system.Config) :
    deployment.system.Move → Prop
  | .act (.step client dealing) => ∀ clerkUserId enc expiry,
    (config.threads client).next? = some (.updateAccessToken clerkUserId enc expiry) →
    ∃ row, (phases client).row? = some row ∧ OnlyToken row.key config.world.connections
      (GmailCommand.exec deployment.google dealing (.updateAccessToken clerkUserId enc expiry)
        config.world).2.connections
  | .act (.start _ _) | .act (.environment _) | .crash _ => True

variable (deployment) in
/-- What is known of the clients and the rows. -/
def Known (start : GmailState) (phases : Nat → GmailPhase) (state : GmailState) : Prop :=
  deployment.Issued start.connections →
    (∀ client, deployment.Informed (phases client)) ∧ deployment.Issued state.connections

/-- A command that is allowed leaves the rows' tokens those of their accounts. -/
theorem Issued.effect {command : GmailCommand} {state : GmailState}
    (informed : deployment.Informed phase) (issued : deployment.Issued state.connections)
    (allowed : deployment.Allowed phase command)
    (alone : ∀ clerkUserId ∈ command.refreshes?,
      Reaches state.connections clerkUserId (phase.row?.map DbGmailConnection.key)) (id : String) :
    deployment.Issued (command.effect id state).connections := by
  cases command with
  | now => exact issued
  | nonce => exact issued
  | authorizationGrant code => exact issued
  | refreshGrant token => exact issued
  | userinfo token => exact issued
  | getActiveConnection clerkUserId => exact issued
  | upsertConnection new =>
    obtain ⟨access, refresh, rfl, accessDecrypts, refreshDecrypts⟩ := allowed
    exact issued.upsert accessDecrypts refreshDecrypts informed.1 informed.2 id state.now
  | updateAccessToken clerkUserId enc expiry =>
    obtain ⟨row, token, rfl, decrypts⟩ := allowed
    exact issued.updateAccessToken (alone clerkUserId rfl) decrypts informed.2
  | deactivateConnection clerkUserId => exact issued.deactivate clerkUserId

private theorem keeps_known (start : GmailState) :
    (deployment.system.phasesOf deployment.observer).Keeps deployment.Alone
      (deployment.Known start) where
  follows _ _ _ call _ := program_follows call
  command := by
    intro phases config client dealing call command rest alone running allowed known initially
    obtain ⟨informed, issued⟩ := known initially
    constructor
    · exact update_phases informed ((informed client).advance issued allowed)
    · change deployment.Issued (if _ then _ else _ : GmailState).connections
      split
      · exact issued
      · rename_i carried
        apply issued.effect (informed client) allowed
        intro clerkUserId stores
        have next : (config.threads client).next? = some command := by rw [running]; rfl
        exact (alone clerkUserId (by rw [next]; exact stores)).resolve_left carried
  event _ _ _ _ known := known
  crash := by
    intro phases config client _ known initially
    obtain ⟨informed, issued⟩ := known initially
    exact ⟨update_phases informed trivial, issued⟩

/-- An UPDATE is issued for a row that was read. -/
theorem allowed_leavesOthers {phases : Nat → GmailPhase} {config : deployment.system.Config}
    {move : deployment.system.Move}
    (following : ∀ client, ThreadFollows deployment.observer (phases client) (config.threads client))
    (alone : deployment.Alone phases config move) : deployment.LeavesOthers phases config move := by
  cases move with
  | crash client => trivial
  | act action =>
    cases action with
    | start client call => trivial
    | environment event => trivial
    | step client dealing =>
      intro clerkUserId enc expiry next
      obtain ⟨row, token, read, _⟩ := (following client).allowed next
      have found : (phases client).row? = some row := by rw [read]; rfl
      refine ⟨row, found, ?_⟩
      rw [GmailCommand.exec]
      split
      · exact .refl
      · rename_i carried
        have reaches := (alone clerkUserId (by rw [next]; rfl)).resolve_left carried
        rw [found] at reaches
        exact reaches.onlyToken

/-- The command leaves the rows as they are, or stores an access token of the user. -/
def Refreshing (clerkUserId : String) (command : GmailCommand) : Prop :=
  (∃ enc expiry, command = .updateAccessToken clerkUserId enc expiry) ∨
    ∀ id state, command.effect id state = state

private theorem refreshToken_refreshing (encKey : String) (row : DbGmailConnection) :
    (deployment.refreshToken clerkUserId encKey row).Every (Refreshing clerkUserId) := by
  unfold refreshToken
  cases deployment.credentials with
  | error error => trivial
  | ok =>
    dsimp only
    cases deployment.cipher.decryptToken row.refreshTokenEnc encKey with
    | error error => trivial
    | ok refresh =>
      refine ⟨.inr fun _ _ => rfl, ?_⟩
      rintro (error | response)
      · trivial
      · refine ⟨.inr fun _ _ => rfl, fun now => ⟨.inr fun _ _ => rfl, fun nonce => ?_⟩⟩
        dsimp only [Program.bind]
        cases deployment.cipher.encryptToken nonce response.accessToken encKey with
        | error error => trivial
        | ok enc =>
          refine ⟨.inl ⟨enc, _, rfl⟩, ?_⟩
          rintro (error | done)
          · trivial
          · trivial

/-- The only writing statement of `get_valid_access_token` is the one that stores a token. -/
theorem getValidAccessToken_refreshing (deployment : GmailDeployment) (clerkUserId : String) :
    (deployment.getValidAccessToken clerkUserId).Every (Refreshing clerkUserId) := by
  refine ⟨.inr fun _ _ => rfl, ?_⟩
  rintro (error | _ | row)
  · trivial
  · trivial
  · dsimp only [Program.bind]
    cases deployment.gmailTokenEncryptionKey with
    | none => trivial
    | some encKey =>
      refine ⟨.inr fun _ _ => rfl, fun now => ?_⟩
      change (if _ then _ else _ : GmailProcedure _).Every _
      split
      · exact refreshToken_refreshing encKey row
      · trivial

/-- In every run whose refreshed tokens are stored only where the account read is the user's
one active account, each refresh changes the token of its row and nothing else, and the rows
keep the tokens that Google has issued for their accounts. -/
theorem refresh_leaves_others {start : GmailState} {moves : List deployment.system.Move}
    {final : Nat → GmailPhase} {last : deployment.system.Config}
    (run : Watched deployment.phaseGhost deployment.Alone (fun _ => .rest) (.initial start) moves
      final last) :
    (∀ clerkUserId, (deployment.getValidAccessToken clerkUserId).Every (Refreshing clerkUserId)) ∧
      Watched deployment.phaseGhost deployment.LeavesOthers (fun _ => .rest) (.initial start) moves
        final last ∧
      (deployment.Issued start.connections → deployment.Issued last.world.connections) := by
  refine ⟨getValidAccessToken_refreshing deployment, ?_, ?_⟩
  · refine run.imp_of_invariant (fun phases config => (∀ client,
      ThreadFollows deployment.observer (phases client) (config.threads client)) ∧
        deployment.Known start phases config.world) ?_ ?_ ?_
    · rintro phases config move next alone moved ⟨following, known⟩
      exact (keeps_known start).move alone moved following known
    · rintro phases config move alone ⟨following, _⟩
      exact allowed_leavesOthers following alone
    · exact ⟨fun _ => rfl, fun issued => ⟨fun _ => trivial, issued⟩⟩
  · intro issued
    have known : deployment.Known start final last.world :=
      (keeps_known start).run run (fun _ => rfl) fun issued => ⟨fun _ => trivial, issued⟩
    exact (known issued).2

end GmailDeployment

def xorStream : Bytes → Bytes → Bytes
  | key :: keys, byte :: bytes => (key ^^^ byte) :: xorStream keys bytes
  | [], bytes => bytes
  | _ :: _, [] => []

private theorem xorStream_twice (stream bytes : Bytes) :
    xorStream stream (xorStream stream bytes) = bytes := by
  induction stream generalizing bytes with
  | nil => rfl
  | cons key keys ih =>
    cases bytes with
    | nil => rfl
    | cons byte bytes => rw [xorStream, xorStream, ih, ← UInt8.xor_assoc, UInt8.xor_self, UInt8.zero_xor]

def sampleKey : String := "000102030405060708090a0b0c0d0e0f101112131415161718191a1b1c1d1e1f"

/-- The tags of the sample's tokens. -/
def sampleTag (plaintext : Bytes) : Bytes :=
  if plaintext = Aead.asBytes "ya29.a" then
    [99, 211, 77, 142, 56, 56, 37, 119, 54, 62, 129, 132, 90, 33, 198, 247]
  else if plaintext = Aead.asBytes "1//a" then
    [208, 211, 236, 57, 30, 203, 93, 54, 127, 223, 183, 106, 150, 122, 92, 243]
  else if plaintext = Aead.asBytes "ya29.b" then
    [63, 29, 27, 162, 221, 93, 185, 105, 216, 233, 180, 253, 177, 81, 73, 129]
  else if plaintext = Aead.asBytes "1//b" then
    [190, 255, 9, 92, 130, 213, 179, 225, 74, 166, 92, 26, 25, 12, 33, 111]
  else [179, 176, 103, 86, 176, 232, 200, 152, 239, 228, 101, 233, 65, 178, 182, 84]

private theorem length_sampleTag (plaintext : Bytes) : (sampleTag plaintext).length = 16 := by
  unfold sampleTag
  repeat' split
  all_goals rfl

/-- AES-256-GCM on the sample's tokens: the keystream of the sample's key and nonce, and the
tag after the text. -/
def sampleCipher : Aead where
  encrypt _ _ plaintext :=
    some (xorStream [71, 2, 214, 27, 197, 229, 194] plaintext ++ sampleTag plaintext)
  decrypt _ _ ciphertext :=
    let plaintext := xorStream [71, 2, 214, 27, 197, 229, 194]
      (ciphertext.take (ciphertext.length - 16))
    if ciphertext.drop (ciphertext.length - 16) = sampleTag plaintext then some plaintext else none
  opens key nonce plaintext ciphertext closed := by
    cases closed
    have text : (xorStream [71, 2, 214, 27, 197, 229, 194] plaintext ++ sampleTag plaintext).length - 16 =
        (xorStream [71, 2, 214, 27, 197, 229, 194] plaintext).length := by
      rw [List.length_append, length_sampleTag, Nat.add_sub_cancel]
    simp only [text, List.take_left, List.drop_left, xorStream_twice, if_true]
  tagged key nonce plaintext ciphertext closed := by
    cases closed
    intro none_
    have tagged := length_sampleTag plaintext
    rw [(List.append_eq_nil_iff.mp none_).2] at tagged
    cases tagged

/-- Two accounts, each with its tokens. -/
def sampleGoogle : Google where
  accessAccount token :=
    if token = "ya29.a" then some "a@gmail.com"
    else if token = "ya29.b" ∨ token = "ya29.b2" then some "b@gmail.com" else none
  refreshAccount token :=
    if token = "1//a" then some "a@gmail.com" else if token = "1//b" then some "b@gmail.com" else none

def sampleDeployment : GmailDeployment where
  service := sampleService
  credentials := .ok ()
  gmailTokenEncryptionKey := some sampleKey
  cipher := sampleCipher
  google := sampleGoogle

def sampleNonce : Aead.NonceBytes := ⟨[0, 1, 2, 3, 4, 5, 6, 7, 8, 9, 10, 11], rfl⟩

/-- The steps of a callback of a client for an account. -/
def connectingMoves (client : Nat) (access refresh : String) : List sampleDeployment.system.Move :=
  [.act (.start client (.callback sampleCallback)), .act (.step client {}),
    .act (.step client { response := some ⟨access, some refresh, some 3599⟩ }),
    .act (.step client {}), .act (.step client {}), .act (.step client { nonce := sampleNonce }),
    .act (.step client { nonce := sampleNonce }), .act (.step client { id := access })]

/-- The steps of a refresh up to the statement that stores the token. -/
def refreshingMoves (client : Nat) (access : String) : List sampleDeployment.system.Move :=
  [.act (.environment 3600000000), .act (.start client (.getValidAccessToken "user")),
    .act (.step client {}), .act (.step client {}),
    .act (.step client { response := some ⟨access, none, some 3599⟩ }), .act (.step client {}),
    .act (.step client { nonce := sampleNonce })]

/-- An account is connected, and its token refreshed an hour later. -/
theorem sample_refresh_leaves_others :
    ∃ final last, Watched sampleDeployment.phaseGhost sampleDeployment.Alone (fun _ => .rest)
        (.initial ⟨0, .empty⟩)
        (connectingMoves 0 "ya29.b" "1//b" ++ refreshingMoves 1 "ya29.b2" ++ [.act (.step 1 {})])
        final last ∧
      ((∀ clerkUserId, (sampleDeployment.getValidAccessToken clerkUserId).Every
          (GmailDeployment.Refreshing clerkUserId)) ∧
        Watched sampleDeployment.phaseGhost sampleDeployment.LeavesOthers (fun _ => .rest)
          (.initial ⟨0, .empty⟩)
          (connectingMoves 0 "ya29.b" "1//b" ++ refreshingMoves 1 "ya29.b2" ++ [.act (.step 1 {})])
          final last ∧
        (sampleDeployment.Issued .empty → sampleDeployment.Issued last.world.connections)) ∧
      (last.world.connections.find? ("user", "b@gmail.com")).map (fun row =>
        (sampleCipher.decryptToken row.accessTokenEnc sampleKey).toOption) = some (some "ya29.b2") := by
  obtain ⟨final, last, run, checked⟩ := Watched.of_check sampleDeployment.phaseGhost
    sampleDeployment.Alone (fun _ => .rest) (.initial ⟨0, .empty⟩)
    (connectingMoves 0 "ya29.b" "1//b" ++ refreshingMoves 1 "ya29.b2" ++ [.act (.step 1 {})])
    (fun _ last => decide ((last.world.connections.find? ("user", "b@gmail.com")).map (fun row =>
      (sampleCipher.decryptToken row.accessTokenEnc sampleKey).toOption) = some (some "ya29.b2")))
    (by decide +kernel)
  exact ⟨final, last, run, GmailDeployment.refresh_leaves_others run, of_decide_eq_true checked⟩

/-- A second account is connected a second after the first, and its token is refreshed. -/
def twoAccounts : List sampleDeployment.system.Move :=
  connectingMoves 0 "ya29.a" "1//a" ++ [.act (.environment 1000000)] ++
    connectingMoves 1 "ya29.b" "1//b" ++ refreshingMoves 2 "ya29.b2"

/-- The row of the first account is given the access token of the second. -/
theorem refresh_reaches_other_account :
    (∃ final last, Watched sampleDeployment.phaseGhost (fun _ _ _ => True) (fun _ => .rest)
        (.initial ⟨0, .empty⟩) twoAccounts final last ∧
      ¬ sampleDeployment.LeavesOthers final last (.act (.step 2 {}))) ∧
    ∃ final last, Watched sampleDeployment.phaseGhost (fun _ _ _ => True) (fun _ => .rest)
        (.initial ⟨0, .empty⟩) (twoAccounts ++ [.act (.step 2 {})]) final last ∧
      ∃ row, last.world.connections.find? ("user", "a@gmail.com") = some row ∧
        sampleDeployment.Decrypts row.accessTokenEnc "ya29.b2" ∧
        sampleGoogle.accessAccount "ya29.b2" = some "b@gmail.com" ∧
        ¬ sampleDeployment.RowIssued row := by
  constructor
  · obtain ⟨final, last, run, checked⟩ := Watched.of_check sampleDeployment.phaseGhost
      (fun _ _ _ => True) (fun _ => .rest) (.initial ⟨0, .empty⟩) twoAccounts
      (fun final last => decide ((final 2).row?.map DbGmailConnection.key = some ("user", "b@gmail.com")) &&
        ((last.threads 2).next?.any fun
          | .updateAccessToken clerkUserId enc expiry => decide (
              (updateGmailAccessToken last.world.connections clerkUserId enc expiry).find?
                  ("user", "a@gmail.com") ≠ last.world.connections.find? ("user", "a@gmail.com"))
          | _ => false)) (by decide +kernel)
    refine ⟨final, last, run, fun leaves => ?_⟩
    obtain ⟨read, stores⟩ := Bool.and_eq_true_iff.mp checked
    obtain ⟨command, next, changes⟩ := (Option.any_eq_true _ _).mp stores
    cases command with
    | updateAccessToken clerkUserId enc expiry =>
      obtain ⟨row, own, only⟩ := leaves clerkUserId enc expiry next
      have account := of_decide_eq_true read
      rw [own] at account
      refine of_decide_eq_true changes (only.others ("user", "a@gmail.com") ?_)
      rw [Option.some.inj account]
      decide
    | now | nonce | authorizationGrant | refreshGrant | userinfo | getActiveConnection
    | upsertConnection | deactivateConnection => cases changes
  · obtain ⟨final, last, run, checked⟩ := Watched.of_check sampleDeployment.phaseGhost
      (fun _ _ _ => True) (fun _ => .rest) (.initial ⟨0, .empty⟩) (twoAccounts ++ [.act (.step 2 {})])
      (fun _ last => (last.world.connections.find? ("user", "a@gmail.com")).any fun row =>
        decide ((sampleCipher.decryptToken row.accessTokenEnc sampleKey).toOption = some "ya29.b2"))
      (by decide +kernel)
    obtain ⟨row, stored, opened⟩ := (Option.any_eq_true _ _).mp checked
    have decrypts : sampleDeployment.Decrypts row.accessTokenEnc "ya29.b2" := by
      refine ⟨sampleKey, rfl, ?_⟩
      change sampleCipher.decryptToken row.accessTokenEnc sampleKey = .ok "ya29.b2"
      cases read : sampleCipher.decryptToken row.accessTokenEnc sampleKey with
      | error error => simp [read, Except.toOption] at opened
      | ok token =>
        simp only [read, Except.toOption, decide_eq_true_eq, Option.some.injEq] at opened
        rw [opened]
    have account : sampleGoogle.accessAccount "ya29.b2" = some "b@gmail.com" := by decide
    refine ⟨final, last, run, row, stored, decrypts, account, fun issued => ?_⟩
    obtain ⟨token, own, email⟩ := issued.access
    obtain rfl := decrypts.unique own
    have first : row.gmailEmail = "a@gmail.com" :=
      congrArg Prod.snd (last.world.connections.find?_key stored)
    rw [show sampleDeployment.google.accessAccount "ya29.b2" = some "b@gmail.com" from account,
      first] at email
    exact absurd email (by decide)

end BrainMate.Gateway
