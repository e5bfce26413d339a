import BrainMate.Gateway.Records
import BrainMate.Storage.Table

/-! The Gmail connections of the gateway: the rows of `gmail_connections`, the statements of
`db.rs` on them, and the handlers of `router.rs` that issue them. Tokens are the encrypted
texts that are stored; times are microseconds. -/

namespace BrainMate.Gateway

open Storage

structure DbGmailConnection where
  id : String
  clerkUserId : String
  gmailEmail : String
  accessTokenEnc : String
  refreshTokenEnc : String
  tokenExpiry : Int
  scope : String
  isActive : Bool
  connectedAt : Nat
  lastSyncedAt : Option Nat
  deriving DecidableEq, Repr

/-- UNIQUE (clerk_user_id, gmail_email). -/
def DbGmailConnection.key (row : DbGmailConnection) : String × String :=
  (row.clerkUserId, row.gmailEmail)

abbrev GmailConnections : Type := Table DbGmailConnection (String × String) DbGmailConnection.key

structure GmailConnectionStatus where
  gmailEmail : String
  connectedAt : Nat
  lastSyncedAt : Option Nat
  deriving DecidableEq, Repr

/-- The rows that `ORDER BY connected_at DESC LIMIT 1` chooses from: among rows of one time
the database takes any. -/
def newest (rows : List DbGmailConnection) : List DbGmailConnection :=
  rows.filter fun row => rows.all fun other => decide (other.connectedAt ≤ row.connectedAt)

/-- `WHERE clerk_user_id = $1 AND is_active = true`. -/
def activeConnections (connections : GmailConnections) (clerkUserId : String) :
    List DbGmailConnection :=
  connections.rows.filter fun row => decide (row.clerkUserId = clerkUserId) && row.isActive

/-- A reply the database may give. -/
def getActiveGmailConnection (connections : GmailConnections) (clerkUserId : String) :
    Option DbGmailConnection → Prop
  | some row => row ∈ newest (activeConnections connections clerkUserId)
  | none => newest (activeConnections connections clerkUserId) = []

/-- The same rows in the same order, of which three columns are selected. -/
def getGmailConnectionStatus (connections : GmailConnections) (clerkUserId : String)
    (reply : Option GmailConnectionStatus) : Prop :=
  ∃ row?, getActiveGmailConnection connections clerkUserId row? ∧
    reply = row?.map fun row => ⟨row.gmailEmail, row.connectedAt, row.lastSyncedAt⟩

/-- The values of the INSERT. -/
structure NewConnection where
  clerkUserId : String
  gmailEmail : String
  accessTokenEnc : String
  refreshTokenEnc : String
  tokenExpiry : Int
  scope : String
  deriving DecidableEq, Repr

def NewConnection.key (new : NewConnection) : String × String := (new.clerkUserId, new.gmailEmail)

/-- DO UPDATE SET: `connected_at` is not among the columns. -/
def DbGmailConnection.overwrite (row : DbGmailConnection) (new : NewConnection) :
    DbGmailConnection :=
  { row with
    accessTokenEnc := new.accessTokenEnc
    refreshTokenEnc := new.refreshTokenEnc
    tokenExpiry := new.tokenExpiry
    scope := new.scope
    isActive := true }

/-- The row of the INSERT, with the id the database gives it. -/
def NewConnection.row (new : NewConnection) (id : String) (now : Nat) : DbGmailConnection where
  id := id
  clerkUserId := new.clerkUserId
  gmailEmail := new.gmailEmail
  accessTokenEnc := new.accessTokenEnc
  refreshTokenEnc := new.refreshTokenEnc
  tokenExpiry := new.tokenExpiry
  scope := new.scope
  isActive := true
  connectedAt := now
  lastSyncedAt := none

/-- INSERT ... ON CONFLICT (clerk_user_id, gmail_email) DO UPDATE. -/
def upsertGmailConnection (connections : GmailConnections) (new : NewConnection) (id : String)
    (now : Nat) : GmailConnections :=
  (connections.updateWhere (fun row => decide (row.key = new.key)) (fun row => row.overwrite new)
    fun _ => rfl).insertNew (new.row id now)

def updateGmailAccessToken (connections : GmailConnections) (clerkUserId newAccessTokenEnc : String)
    (newExpiry : Int) : GmailConnections :=
  connections.updateWhere (fun row => decide (row.clerkUserId = clerkUserId) && row.isActive)
    (fun row => { row with accessTokenEnc := newAccessTokenEnc, tokenExpiry := newExpiry })
    fun _ => rfl

def deactivateGmailConnection (connections : GmailConnections) (clerkUserId : String) :
    GmailConnections :=
  connections.updateWhere (fun row => decide (row.clerkUserId = clerkUserId) && row.isActive)
    (fun row => { row with isActive := false }) fun _ => rfl

/-- What the gateway is started with, and the check of a signed state token. -/
structure GmailService where
  gmailEnabled : Bool
  gmailStateHmacKey : Option String
  hasDb : Bool
  buildsHttpClient : Bool
  /-- `verify_state_token` at a time: the user the token was made for. -/
  verifyStateToken : Nat → String → String → Option String

structure GmailCallbackRequest where
  code : String
  state : String
  clerkUserId : String
  deriving DecidableEq, Repr

structure TokenExchangeResult where
  gmailEmail : String
  displayName : String
  avatarUrl : Option String
  accessTokenEnc : String
  refreshTokenEnc : String
  expiry : Int
  deriving DecidableEq, Repr

/-- How a statement ends: its caller is told, or hears nothing of what was done, or it was
not carried out. -/
inductive Fate where
  | done
  | lost
  | refused
  deriving DecidableEq, Repr

/-- `gmail_callback` up to the statement that stores the connection. -/
def GmailService.checkCallback (service : GmailService) (now : Nat) (body : GmailCallbackRequest)
    (exchange : Option TokenExchangeResult) : Except ApiError NewConnection :=
  if service.gmailEnabled then
    match service.gmailStateHmacKey with
    | none => .error (.serviceUnavailable "GMAIL_STATE_HMAC_KEY not set")
    | some hmacKey =>
      match service.verifyStateToken now body.state hmacKey with
      | none => .error (.badRequest "Invalid or expired state token")
      | some stateUid =>
        if stateUid ≠ body.clerkUserId then .error (.unauthorized "State user mismatch")
        else if !service.hasDb then .error (.serviceUnavailable "DB unavailable")
        else if !service.buildsHttpClient then
          .error (.serviceUnavailable "HTTP client init failed")
        else
          match exchange with
          | none => .error (.serviceUnavailable "Token exchange failed")
          | some result => .ok {
              clerkUserId := body.clerkUserId
              gmailEmail := result.gmailEmail
              accessTokenEnc := result.accessTokenEnc
              refreshTokenEnc := result.refreshTokenEnc
              tokenExpiry := result.expiry
              scope := "https://www.googleapis.com/auth/gmail.readonly" }
  else .error (.serviceUnavailable "Gmail not configured")

/-- `gmail_callback`; the answer is the address that is now connected. -/
def GmailService.gmailCallback (service : GmailService) (now : Nat) (body : GmailCallbackRequest)
    (exchange : Option TokenExchangeResult) (id : String) (fate : Fate)
    (connections : GmailConnections) : Except ApiError String × GmailConnections :=
  match service.checkCallback now body exchange with
  | .error error => (.error error, connections)
  | .ok new =>
    match fate with
    | .done => (.ok new.gmailEmail, upsertGmailConnection connections new id now)
    | .lost => (.error (.serviceUnavailable "Failed to store connection"),
        upsertGmailConnection connections new id now)
    | .refused => (.error (.serviceUnavailable "Failed to store connection"), connections)

inductive GmailEvent where
  | advance (micros : Nat)
  /-- A callback, with what Google answers and the id of a row it inserts. -/
  | callback (body : GmailCallbackRequest) (exchange : Option TokenExchangeResult) (id : String)
      (fate : Fate)
  | disconnect (clerkUserId : String)
  /-- The UPDATE of `get_valid_access_token`, whatever happened since it read the row. -/
  | refresh (clerkUserId newAccessTokenEnc : String) (newExpiry : Int)
  deriving DecidableEq, Repr

structure GmailState where
  now : Nat
  connections : GmailConnections

def GmailService.apply (service : GmailService) : GmailEvent → GmailState → GmailState
  | .advance micros, state => { state with now := state.now + micros }
  | .callback body exchange id fate, state =>
    { state with
      connections := (service.gmailCallback state.now body exchange id fate state.connections).2 }
  | .disconnect clerkUserId, state =>
    { state with connections := deactivateGmailConnection state.connections clerkUserId }
  | .refresh clerkUserId newAccessTokenEnc newExpiry, state =>
    { state with
      connections :=
        updateGmailAccessToken state.connections clerkUserId newAccessTokenEnc newExpiry }

/-- The state after a history, the latest event first. -/
def GmailService.after (service : GmailService) : List GmailEvent → GmailState
  | [] => ⟨0, .empty⟩
  | event :: earlier => service.apply event (service.after earlier)

/-- The connection an event writes. -/
def GmailService.stores (service : GmailService) (now : Nat) : GmailEvent → Option NewConnection
  | .callback body exchange _ fate =>
    if fate = .refused then none else (service.checkCallback now body exchange).toOption
  | .advance _ | .disconnect _ | .refresh _ _ _ => none

/-- The connection an event writes of the user and the address. -/
def GmailService.connects (service : GmailService) (now : Nat) (key : String × String)
    (event : GmailEvent) : Option NewConnection :=
  (service.stores now event).filter fun new => decide (new.key = key)

/-- When the user's account was connected for the first time. -/
def GmailService.firstConnected (service : GmailService) (key : String × String) :
    List GmailEvent → Option Nat
  | [] => none
  | event :: earlier =>
    service.firstConnected key earlier <|>
      (service.connects (service.after earlier).now key event).map fun _ => (service.after earlier).now

/-- The user's account has been connected since the user disconnected. -/
def GmailService.isConnected (service : GmailService) (key : String × String) :
    List GmailEvent → Bool
  | [] => false
  | event :: earlier =>
    (service.connects (service.after earlier).now key event).isSome ||
      service.isConnected key earlier && decide (event ≠ .disconnect key.1)

variable {service : GmailService} {connections : GmailConnections}

@[simp] theorem find?_upsert (connections : GmailConnections) (new : NewConnection) (id : String)
    (now : Nat) (key : String × String) :
    (upsertGmailConnection connections new id now).find? key =
      if new.key = key then
        some (((connections.find? key).map fun row => row.overwrite new).getD (new.row id now))
      else connections.find? key := by
  have sameKey : (new.row id now).key = new.key := rfl
  have updated : (connections.updateWhere (fun row => decide (row.key = new.key))
      (fun row => row.overwrite new) fun _ => rfl).find? key =
      (connections.find? key).map fun row => if new.key = key then row.overwrite new else row := by
    refine (Table.find?_updateWhere connections (fun row => decide (row.key = new.key))
      (fun row => row.overwrite new) (fun _ => rfl) key).trans ?_
    cases found : connections.find? key with
    | none => rfl
    | some row =>
      have own : row.key = key := connections.find?_key found
      simp [own, eq_comm]
  rw [upsertGmailConnection, Table.find?_insertNew, updated, sameKey]
  split
  · rfl
  · cases connections.find? key <;> rfl

/-- An update of the active rows of a user that keeps their keys. -/
theorem find?_updateActive (assign : DbGmailConnection → DbGmailConnection)
    (keeps : ∀ row, (assign row).key = row.key) (connections : GmailConnections)
    (clerkUserId : String) (key : String × String) :
    (connections.updateWhere (fun row => decide (row.clerkUserId = clerkUserId) && row.isActive)
        assign keeps).find? key =
      (connections.find? key).map fun row =>
        if key.1 = clerkUserId ∧ row.isActive = true then assign row else row := by
  refine (Table.find?_updateWhere connections _ assign keeps key).trans ?_
  cases found : connections.find? key with
  | none => rfl
  | some row =>
    have own : row.clerkUserId = key.1 := congrArg Prod.fst (connections.find?_key found)
    simp [own]

@[simp] theorem find?_deactivate (connections : GmailConnections) (clerkUserId : String)
    (key : String × String) :
    (deactivateGmailConnection connections clerkUserId).find? key =
      (connections.find? key).map fun row =>
        if key.1 = clerkUserId ∧ row.isActive = true then { row with isActive := false } else row :=
  find?_updateActive (fun row => { row with isActive := false }) (fun _ => rfl) connections
    clerkUserId key

@[simp] theorem find?_updateAccessToken (connections : GmailConnections)
    (clerkUserId newAccessTokenEnc : String) (newExpiry : Int) (key : String × String) :
    (updateGmailAccessToken connections clerkUserId newAccessTokenEnc newExpiry).find? key =
      (connections.find? key).map fun row =>
        if key.1 = clerkUserId ∧ row.isActive = true then
          { row with accessTokenEnc := newAccessTokenEnc, tokenExpiry := newExpiry }
        else row :=
  find?_updateActive
    (fun row => { row with accessTokenEnc := newAccessTokenEnc, tokenExpiry := newExpiry })
    (fun _ => rfl) connections clerkUserId key

/-- What a callback writes is what it has checked. -/
theorem find?_callback (service : GmailService) (body : GmailCallbackRequest)
    (exchange : Option TokenExchangeResult) (id : String) (fate : Fate) (state : GmailState)
    (key : String × String) :
    (service.apply (.callback body exchange id fate) state).connections.find? key =
      (service.connects state.now key (.callback body exchange id fate)).elim
        (state.connections.find? key) fun new => some (((state.connections.find? key).map fun row => row.overwrite new).getD
          (new.row id state.now)) := by
  simp only [GmailService.apply, GmailService.gmailCallback, GmailService.connects,
    GmailService.stores]
  rcases service.checkCallback state.now body exchange with error | new
  · cases fate <;> rfl
  · cases fate with
    | refused => rfl
    | done | lost =>
      refine (find?_upsert state.connections new id state.now key).trans ?_
      by_cases own : new.key = key <;> simp [own, Except.toOption, Option.filter]

/-- The row of an account against its history: it tells when the account was connected for
the first time, and whether it still is. -/
def Tallies (row? : Option DbGmailConnection) (first : Option Nat) (connected : Bool) : Prop :=
  (row? = none ∧ first = none ∧ connected = false) ∨
    ∃ row, row? = some row ∧ first = some row.connectedAt ∧ connected = row.isActive

private theorem tallies_after (service : GmailService) (key : String × String)
    (history : List GmailEvent) :
    Tallies ((service.after history).connections.find? key) (service.firstConnected key history)
      (service.isConnected key history) := by
  induction history with
  | nil => exact .inl ⟨rfl, rfl, rfl⟩
  | cons event earlier ih =>
    cases event with
    | advance micros =>
      simpa [GmailService.after, GmailService.apply, GmailService.firstConnected,
        GmailService.isConnected, GmailService.connects, GmailService.stores] using ih
    | callback body exchange id fate =>
      have stays : GmailEvent.callback body exchange id fate ≠ .disconnect key.1 := by rintro ⟨⟩
      simp only [GmailService.after, find?_callback, GmailService.firstConnected,
        GmailService.isConnected, stays, ne_eq, not_false_eq_true, decide_true, Bool.and_true]
      rcases service.connects (service.after earlier).now key (.callback body exchange id fate) with
        _ | new
      · simpa using ih
      · obtain ⟨absent, never, _⟩ | ⟨row, found, first, _⟩ := ih
        · exact .inr ⟨new.row id (service.after earlier).now, by simp [absent], by
            simp [never, NewConnection.row], by simp [NewConnection.row]⟩
        · exact .inr ⟨row.overwrite new, by simp [found], by
            simp [first, DbGmailConnection.overwrite], by simp [DbGmailConnection.overwrite]⟩
    | disconnect clerkUserId =>
      simp only [GmailService.after, GmailService.apply, find?_deactivate,
        GmailService.firstConnected, GmailService.isConnected, GmailService.connects,
        GmailService.stores]
      obtain ⟨absent, never, free⟩ | ⟨row, found, first, active⟩ := ih
      · exact .inl ⟨by simp [absent], by simp [never], by simp [free]⟩
      · refine .inr ⟨_, by rw [found, Option.map_some], ?_, ?_⟩
        · split <;> simp [first]
        · by_cases own : clerkUserId = key.1
          · cases state : row.isActive <;> simp [own, active, state]
          · simp [Ne.symm own, own, active]
    | refresh clerkUserId newAccessTokenEnc newExpiry =>
      simp only [GmailService.after, GmailService.apply, find?_updateAccessToken,
        GmailService.firstConnected, GmailService.isConnected, GmailService.connects,
        GmailService.stores]
      obtain ⟨absent, never, free⟩ | ⟨row, found, first, active⟩ := ih
      · exact .inl ⟨by simp [absent], by simp [never], by simp [free]⟩
      · refine .inr ⟨_, by rw [found, Option.map_some], ?_, ?_⟩
        · split <;> simp [first]
        · split <;> simp [active]

theorem mem_newest {rows : List DbGmailConnection} {row : DbGmailConnection} :
    row ∈ newest rows ↔ row ∈ rows ∧ ∀ other ∈ rows, other.connectedAt ≤ row.connectedAt := by
  simp [newest, List.mem_filter, List.all_eq_true]

private theorem exists_newest {rows : List DbGmailConnection} (some_ : rows ≠ []) :
    ∃ row, row ∈ newest rows := by
  induction rows with
  | nil => exact absurd rfl some_
  | cons first rest ih =>
    by_cases single : rest = []
    · exact ⟨first, mem_newest.mpr ⟨.head _, by simp [single]⟩⟩
    · obtain ⟨row, found⟩ := ih single
      obtain ⟨member, latest⟩ := mem_newest.mp found
      rcases Nat.le_total first.connectedAt row.connectedAt with before | before
      · exact ⟨row, mem_newest.mpr ⟨.tail _ member, by simpa [before] using latest⟩⟩
      · refine ⟨first, mem_newest.mpr ⟨.head _, fun other among => ?_⟩⟩
        rcases List.mem_cons.mp among with rfl | among
        · exact Nat.le_refl _
        · exact Nat.le_trans (latest other among) before

/-- Every reply is the row exactly when the other active rows of the user are older. -/
theorem only_reply_iff {clerkUserId : String} {row : DbGmailConnection}
    (active : row ∈ activeConnections connections clerkUserId) :
    (∀ reply, getActiveGmailConnection connections clerkUserId reply → reply = some row) ↔
      ∀ other ∈ activeConnections connections clerkUserId, other ≠ row →
        other.connectedAt < row.connectedAt := by
  constructor
  · intro only other among different
    obtain ⟨latest, found⟩ := exists_newest (List.ne_nil_of_mem active)
    obtain rfl : latest = row := Option.some.inj (only (some latest) found)
    obtain ⟨_, above⟩ := mem_newest.mp found
    by_contra notOlder
    have same : other ∈ newest (activeConnections connections clerkUserId) :=
      mem_newest.mpr ⟨among, fun third member => by have := above third member; omega⟩
    exact different (Option.some.inj (only (some other) same))
  · intro older reply found
    cases reply with
    | none =>
      obtain ⟨latest, some_⟩ := exists_newest (List.ne_nil_of_mem active)
      rw [show newest _ = [] from found] at some_
      cases some_
    | some latest =>
      obtain ⟨among, above⟩ := mem_newest.mp found
      by_contra different
      have before := older latest among fun same => different (congrArg some same)
      have after := above row active
      omega

theorem mem_activeConnections {clerkUserId : String} {row : DbGmailConnection} :
    row ∈ activeConnections connections clerkUserId ↔
      connections.find? (clerkUserId, row.gmailEmail) = some row ∧ row.isActive = true := by
  rw [Table.find?_eq_some_iff]
  simp only [activeConnections, List.mem_filter, Bool.and_eq_true, decide_eq_true_eq,
    DbGmailConnection.key, Prod.mk.injEq, and_true, and_assoc]

/-- What the two reads must report of the account. -/
def ReadsBack (connections : GmailConnections) (clerkUserId : String)
    (exchange : TokenExchangeResult) : Prop :=
  (∀ reply, getActiveGmailConnection connections clerkUserId reply → ∃ row, reply = some row ∧
    row.gmailEmail = exchange.gmailEmail ∧ row.accessTokenEnc = exchange.accessTokenEnc ∧
    row.refreshTokenEnc = exchange.refreshTokenEnc ∧ row.tokenExpiry = exchange.expiry) ∧
  ∀ reply, getGmailConnectionStatus connections clerkUserId reply →
    ∃ status, reply = some status ∧ status.gmailEmail = exchange.gmailEmail

/-- What a callback stores, it was sent by Google for the user of the request. -/
theorem checkCallback_ok {now : Nat} {body : GmailCallbackRequest} {exchange : TokenExchangeResult}
    {new : NewConnection} (checked : service.checkCallback now body (some exchange) = .ok new) :
    new = {
      clerkUserId := body.clerkUserId
      gmailEmail := exchange.gmailEmail
      accessTokenEnc := exchange.accessTokenEnc
      refreshTokenEnc := exchange.refreshTokenEnc
      tokenExpiry := exchange.expiry
      scope := "https://www.googleapis.com/auth/gmail.readonly" } := by
  unfold GmailService.checkCallback at checked
  split at checked
  · split at checked
    · cases checked
    · split at checked
      · cases checked
      · split at checked
        · cases checked
        · split at checked
          · cases checked
          · split at checked
            · cases checked
            · exact (Except.ok.inj checked).symm
  · cases checked

/-- A callback that is answered has stored the connection. -/
theorem stores_of_answered {now : Nat} {body : GmailCallbackRequest} {exchange : TokenExchangeResult}
    {id email : String} {fate : Fate}
    (answered : (service.gmailCallback now body (some exchange) id fate connections).1 = .ok email) :
    ∃ new, service.stores now (.callback body (some exchange) id fate) = some new ∧
      new.key = (body.clerkUserId, exchange.gmailEmail) ∧
      new.accessTokenEnc = exchange.accessTokenEnc ∧
      new.refreshTokenEnc = exchange.refreshTokenEnc ∧ new.tokenExpiry = exchange.expiry := by
  simp only [GmailService.gmailCallback] at answered
  rcases checked : service.checkCallback now body (some exchange) with error | new
  · rw [checked] at answered
    cases answered
  · rw [checked] at answered
    have same := checkCallback_ok checked
    cases fate with
    | done => exact ⟨new, by simp [GmailService.stores, checked, Except.toOption], by simp [same,
        NewConnection.key], by simp [same], by simp [same], by simp [same]⟩
    | lost => cases answered
    | refused => cases answered

/-- The row of the account after the callback. -/
theorem stored_row (service : GmailService) (history : List GmailEvent) {body : GmailCallbackRequest}
    {exchange : Option TokenExchangeResult} {id : String} {fate : Fate} {new : NewConnection}
    (stored : service.stores (service.after history).now (.callback body exchange id fate) = some new) :
    ∃ row, (service.after (.callback body exchange id fate :: history)).connections.find? new.key =
        some row ∧
      row.gmailEmail = new.gmailEmail ∧ row.accessTokenEnc = new.accessTokenEnc ∧
      row.refreshTokenEnc = new.refreshTokenEnc ∧ row.tokenExpiry = new.tokenExpiry ∧
      row.isActive = true ∧
      row.connectedAt = (service.firstConnected new.key history).getD (service.after history).now := by
  have written : service.connects (service.after history).now new.key
      (.callback body exchange id fate) = some new := by simp [GmailService.connects, stored]
  simp only [GmailService.after, find?_callback, written, Option.elim_some]
  obtain ⟨absent, never, _⟩ | ⟨row, found, first, _⟩ := tallies_after service new.key history
  · exact ⟨new.row id (service.after history).now, by simp [absent], rfl, rfl, rfl, rfl, rfl,
      by simp [never, NewConnection.row]⟩
  · have email : row.gmailEmail = new.gmailEmail :=
      congrArg Prod.snd ((service.after history).connections.find?_key found)
    exact ⟨row.overwrite new, by simp [found], email, rfl, rfl, rfl, rfl,
      by simp [first, DbGmailConnection.overwrite]⟩

/-- The rows of the other accounts stay as they are. -/
theorem other_row (service : GmailService) (history : List GmailEvent) {body : GmailCallbackRequest}
    {exchange : Option TokenExchangeResult} {id : String} {fate : Fate} {new : NewConnection}
    (stored : service.stores (service.after history).now (.callback body exchange id fate) = some new)
    (key : String × String) (other : key ≠ new.key) :
    (service.after (.callback body exchange id fate :: history)).connections.find? key =
      (service.after history).connections.find? key := by
  have unwritten : service.connects (service.after history).now key
      (.callback body exchange id fate) = none := by
    simp [GmailService.connects, stored, Ne.symm other]
  simp only [GmailService.after, find?_callback, unwritten, Option.elim_none]

/-- After a callback for an account, both reads report that account with its new tokens
exactly when every other account of the user that is still connected was connected for the
first time before this one was. -/
theorem callback_reads_back_iff (service : GmailService) (history : List GmailEvent)
    (body : GmailCallbackRequest) (exchange : TokenExchangeResult) (id email : String) (fate : Fate)
    (answered : (service.gmailCallback (service.after history).now body (some exchange) id fate
      (service.after history).connections).1 = .ok email) :
    ReadsBack (service.after (.callback body (some exchange) id fate :: history)).connections
        body.clerkUserId exchange ↔
      ∀ other, other ≠ exchange.gmailEmail →
        service.isConnected (body.clerkUserId, other) history = true →
        ∀ time ∈ service.firstConnected (body.clerkUserId, other) history,
          time < (service.firstConnected (body.clerkUserId, exchange.gmailEmail) history).getD
            (service.after history).now := by
  obtain ⟨new, stored, key, access, refresh, expiry⟩ := stores_of_answered answered
  obtain ⟨row, found, rowEmail, rowAccess, rowRefresh, rowExpiry, active, connectedAt⟩ :=
    stored_row service history stored
  have others (other : String) (different : other ≠ exchange.gmailEmail) :=
    other_row service history stored (body.clerkUserId, other) (by simpa [key] using different)
  generalize (service.after (.callback body (some exchange) id fate :: history)).connections =
    connections at found others ⊢
  have sameEmail : new.gmailEmail = exchange.gmailEmail := congrArg Prod.snd key
  rw [key] at found connectedAt
  have own : row ∈ activeConnections connections body.clerkUserId :=
    mem_activeConnections.mpr ⟨by rw [rowEmail, sameEmail]; exact found, active⟩
  have reads : ReadsBack connections body.clerkUserId exchange ↔
      ∀ reply, getActiveGmailConnection connections body.clerkUserId reply → reply = some row := by
    constructor
    · rintro ⟨reads, _⟩ reply replied
      obtain ⟨other, rfl, sameAccount, _⟩ := reads reply replied
      obtain ⟨stored', _⟩ := mem_activeConnections.mp (mem_newest.mp replied).1
      rw [sameAccount, found] at stored'
      exact stored'.symm
    · intro only
      constructor
      · intro reply replied
        exact ⟨row, only reply replied, rowEmail.trans sameEmail, rowAccess.trans access,
          rowRefresh.trans refresh, rowExpiry.trans expiry⟩
      · rintro reply ⟨row?, replied, rfl⟩
        rw [only row? replied]
        exact ⟨_, rfl, rowEmail.trans sameEmail⟩
  rw [reads, only_reply_iff own, ← connectedAt]
  constructor
  · intro older other different connected time first
    obtain ⟨_, _, free⟩ | ⟨otherRow, otherFound, otherFirst, otherActive⟩ :=
      tallies_after service (body.clerkUserId, other) history
    · rw [free] at connected
      cases connected
    · have account : otherRow.gmailEmail = other :=
        congrArg Prod.snd ((service.after history).connections.find?_key otherFound)
      have among : otherRow ∈ activeConnections connections body.clerkUserId :=
        mem_activeConnections.mpr ⟨by rw [account, others other different]; exact otherFound,
          otherActive.symm.trans connected⟩
      rw [otherFirst] at first
      cases first
      refine older otherRow among fun same => different ?_
      rw [← account, same, rowEmail, sameEmail]
  · intro older other among distinct
    obtain ⟨otherFound, otherActive⟩ := mem_activeConnections.mp among
    have different : other.gmailEmail ≠ exchange.gmailEmail := by
      intro same
      rw [same, found] at otherFound
      exact distinct (Option.some.inj otherFound).symm
    rw [others _ different] at otherFound
    obtain ⟨absent, _⟩ | ⟨otherRow, stored', otherFirst, connected⟩ :=
      tallies_after service (body.clerkUserId, other.gmailEmail) history
    · rw [absent] at otherFound
      cases otherFound
    · obtain rfl : otherRow = other := Option.some.inj (stored'.symm.trans otherFound)
      exact older _ different (connected.trans otherActive) _ otherFirst

def sampleService : GmailService where
  gmailEnabled := true
  gmailStateHmacKey := some "key"
  hasDb := true
  buildsHttpClient := true
  verifyStateToken _ state _ := some state

def sampleCallback : GmailCallbackRequest := ⟨"code", "user", "user"⟩

def sampleExchange (gmailEmail token : String) : TokenExchangeResult where
  gmailEmail := gmailEmail
  displayName := gmailEmail
  avatarUrl := none
  accessTokenEnc := token
  refreshTokenEnc := "refresh-" ++ token
  expiry := 3600

def connecting (gmailEmail token : String) : GmailEvent :=
  .callback sampleCallback (some (sampleExchange gmailEmail token)) gmailEmail .done

/-- The second account is connected a second after the first. -/
theorem second_account_reads_back :
    (sampleService.gmailCallback (sampleService.after
        [.advance 1000000, connecting "a@gmail.com" "a1"]).now sampleCallback
      (some (sampleExchange "b@gmail.com" "b1")) "b@gmail.com" .done (sampleService.after
        [.advance 1000000, connecting "a@gmail.com" "a1"]).connections).1 = .ok "b@gmail.com" ∧
    ReadsBack (sampleService.after [connecting "b@gmail.com" "b1", .advance 1000000,
      connecting "a@gmail.com" "a1"]).connections "user" (sampleExchange "b@gmail.com" "b1") := by
  have answered : (sampleService.gmailCallback (sampleService.after
        [.advance 1000000, connecting "a@gmail.com" "a1"]).now sampleCallback
      (some (sampleExchange "b@gmail.com" "b1")) "b@gmail.com" .done (sampleService.after
        [.advance 1000000, connecting "a@gmail.com" "a1"]).connections).1 = .ok "b@gmail.com" := rfl
  refine ⟨answered, (callback_reads_back_iff sampleService
    [.advance 1000000, connecting "a@gmail.com" "a1"] sampleCallback
    (sampleExchange "b@gmail.com" "b1") "b@gmail.com" "b@gmail.com" .done answered).mpr ?_⟩
  intro other _ connected time first
  by_cases same : other = "a@gmail.com"
  · subst same
    cases (show some 0 = some time from first)
    decide
  · have free : sampleService.isConnected ("user", other)
        [.advance 1000000, connecting "a@gmail.com" "a1"] = false := by
      simp [GmailService.isConnected, GmailService.connects, GmailService.stores, connecting,
        GmailService.checkCallback, sampleService, sampleCallback, sampleExchange,
        Except.toOption, NewConnection.key, Option.filter, Ne.symm same]
    exact Bool.noConfusion (free.symm.trans connected)

/-- The first account is connected again, with new tokens; the reads report the second. -/
theorem reconnected_account_not_read :
    (sampleService.gmailCallback (sampleService.after
        [.advance 1000000, connecting "b@gmail.com" "b1", .advance 1000000,
          connecting "a@gmail.com" "a1"]).now sampleCallback
      (some (sampleExchange "a@gmail.com" "a2")) "a@gmail.com" .done (sampleService.after
        [.advance 1000000, connecting "b@gmail.com" "b1", .advance 1000000,
          connecting "a@gmail.com" "a1"]).connections).1 = .ok "a@gmail.com" ∧
    ¬ ReadsBack (sampleService.after [connecting "a@gmail.com" "a2", .advance 1000000,
      connecting "b@gmail.com" "b1", .advance 1000000,
      connecting "a@gmail.com" "a1"]).connections "user" (sampleExchange "a@gmail.com" "a2") := by
  refine ⟨rfl, ?_⟩
  rintro ⟨reads, _⟩
  have second : (⟨"b@gmail.com", "user", "b@gmail.com", "b1", "refresh-b1", 3600,
      "https://www.googleapis.com/auth/gmail.readonly", true, 1000000, none⟩ : DbGmailConnection) ∈
      newest (activeConnections (sampleService.after [connecting "a@gmail.com" "a2",
        .advance 1000000, connecting "b@gmail.com" "b1", .advance 1000000,
        connecting "a@gmail.com" "a1"]).connections "user") := by decide +kernel
  obtain ⟨row, same, account, _⟩ := reads (some _) second
  cases same
  exact absurd account (by decide)

end BrainMate.Gateway
