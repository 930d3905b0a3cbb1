import WechatBot.DirtyWrite
import WechatBot.Records
import WechatBot.Results
import WechatBot.Tables

/-!
# The account service

The operations of `AccountService` that write the status of a bot account, each cut
at its provider call: what it reads and checks before, and what it makes of the
answer.
-/
namespace WechatBot.Accounts

open PyData Records DirtyWrite
open Tables (Table)

inductive LoginStatus where
  | NOT_SCANNED | SCANNED | LOGGED_IN
  deriving DecidableEq, Repr

structure LoginInfo where
  wxid : Str
  nickname : Str
  «alias» : Option Str
  deriving DecidableEq, Repr

structure LoginStatusData where
  headImageUrl : Option Str
  nickname : Option Str
  expiredTime : Option Int
  status : Option LoginStatus
  loginInfo : Option LoginInfo
  verificationUrl : Option Str
  deriving DecidableEq, Repr

structure LoginQrCodeData where
  appId : Str
  uuid : Str
  deriving DecidableEq, Repr

inductive AccountError where
  | AccountNotFoundError (detail : String)
  | AccountStateError (detail : String)
  | AccountCredentialError (detail : String)
  deriving DecidableEq, Repr

abbrev AccountTable := Table BotAccount.id

/-- The committed rows the service reads. -/
structure Directory where
  accounts : AccountTable
  geweConnection : UUID → Option GeweConnection
  decrypt : Str → Option Str

def qrLifetimeSeconds : Int := 150

def accountConnection (d : Directory) (accountId : UUID) :
    Except AccountError (BotAccount × GeweConnection) :=
  match d.accounts.find accountId with
  | none => .error (.AccountNotFoundError "bot account not found")
  | some account =>
    match d.geweConnection account.geweConnectionId with
    | none => .error (.AccountNotFoundError "bot account not found")
    | some connection => .ok (account, connection)

/-- The token of the client. -/
def geweClient (d : Directory) (connection : GeweConnection) : Except AccountError Str :=
  match d.decrypt connection.tokenCiphertext with
  | none => .error (.AccountCredentialError "connection credential unavailable")
  | some token => .ok token

def beginCheckLogin (d : Directory) (accountId : UUID) : Except AccountError (Session BotAccount) := do
  let (account, connection) ← accountConnection d accountId
  if account.status = .DISABLED then throw (.AccountStateError "disabled account cannot login")
  if account.pendingLoginUuid = none ∨ account.pendingLoginUuid = some [] then
    throw (.AccountStateError "account has no pending login QR code")
  let _ ← geweClient d connection
  return Session.load account

def beginCheckOnline (d : Directory) (accountId : UUID) :
    Except AccountError (Session BotAccount) := do
  let (account, connection) ← accountConnection d accountId
  if account.status = .DISABLED then throw (.AccountStateError "disabled account cannot be checked")
  let _ ← geweClient d connection
  return Session.load account

def beginReconnect (d : Directory) (accountId : UUID) : Except AccountError (Session BotAccount) := do
  let (account, connection) ← accountConnection d accountId
  if account.status = .DISABLED then throw (.AccountStateError "disabled account cannot reconnect")
  let _ ← geweClient d connection
  return ⟨account, { account with status := .RECONNECTING }⟩

def applyLoginStatus (account : BotAccount) (result : LoginStatusData) (now : Time) :
    Except AccountError BotAccount :=
  let account := { account with
    lastStatusCheckedAt := some now
    lastStatusError := none
    qrExpiresAt := match result.expiredTime with
      | none => account.qrExpiresAt
      | some seconds => some (now + max seconds 0 * second)
    avatarUrl := result.headImageUrl.or account.avatarUrl
    nickname := result.nickname.or account.nickname }
  if result.status = some .NOT_SCANNED then .ok { account with status := .QR_PENDING }
  else if result.status = some .SCANNED ∨ result.verificationUrl.isSome then
    .ok { account with status := .SCANNED }
  else if result.status = some .LOGGED_IN then
    match result.loginInfo with
    | none => .error (.AccountStateError "login succeeded without account information")
    | some info =>
      .ok { account with
        status := .ONLINE
        wxid := some info.wxid
        nickname := some info.nickname
        «alias» := info.alias
        loggedInAt := some now
        lastOnlineAt := some now
        pendingLoginUuid := none
        qrExpiresAt := none }
  else .ok account

def finishCheckOnline (account : BotAccount) (online : Bool) (now : Time) : BotAccount :=
  { account with
    lastStatusCheckedAt := some now
    status := if online then .ONLINE else .OFFLINE
    lastOnlineAt := if online then some now else account.lastOnlineAt
    lastStatusError := none }

def finishReconnect (account : BotAccount) (result : Option LoginStatusData) (now : Time) :
    Except AccountError BotAccount :=
  match result with
  | none => .ok { account with status := .RECONNECTING }
  | some result => applyLoginStatus account result now

inductive StatusOperation where
  | checkLogin | checkOnline | reconnect
  deriving DecidableEq, Repr

/-- What the provider answers to the call of each operation. -/
inductive ProviderAnswer where
  | login (result : LoginStatusData)
  | online (online : Bool)
  | reconnected (result : Option LoginStatusData)
  deriving DecidableEq, Repr

def StatusOperation.start (d : Directory) (accountId : UUID) :
    StatusOperation → Except AccountError (Session BotAccount)
  | .checkLogin => beginCheckLogin d accountId
  | .checkOnline => beginCheckOnline d accountId
  | .reconnect => beginReconnect d accountId

/-- `none` for an answer to another call. -/
def StatusOperation.finish (account : BotAccount) (now : Time) :
    StatusOperation → ProviderAnswer → Option (Except AccountError BotAccount)
  | .checkLogin, .login result => some (applyLoginStatus account result now)
  | .checkOnline, .online online => some (.ok (finishCheckOnline account online now))
  | .reconnect, .reconnected result => some (finishReconnect account result now)
  | _, _ => none

/-- The part of `get_login_qr_code` before its provider call; it reads no account. -/
def beginQrCode (d : Directory) (connectionId : UUID) : Except AccountError Str :=
  match d.geweConnection connectionId with
  | none => .error (.AccountNotFoundError "GeWe connection not found")
  | some connection => geweClient d connection

/-- The account `get_login_qr_code` creates; the other columns keep their defaults. -/
def newQrAccount (id connectionId : UUID) (appId : Str) : BotAccount where
  id := id
  geweConnectionId := connectionId
  appId := appId
  wxid := none
  «alias» := none
  nickname := none
  avatarUrl := none
  pendingLoginUuid := none
  qrExpiresAt := none
  lastStatusCheckedAt := none
  lastStatusError := none
  status := .QR_PENDING
  loggedInAt := none
  lastOnlineAt := none

def applyQrCode (account : BotAccount) (qr : LoginQrCodeData) (now : Time) : BotAccount :=
  { account with
    pendingLoginUuid := some qr.uuid
    qrExpiresAt := some (now + qrLifetimeSeconds * second)
    status := .QR_PENDING
    lastStatusError := none }

def findByAppId (accounts : AccountTable) (connectionId : UUID) (appId : Str) : Option BotAccount :=
  accounts.rows.find? fun account =>
    decide (account.geweConnectionId = connectionId ∧ account.appId = appId)

/-- The part of `get_login_qr_code` after its provider call: a row to insert, or the
session of the row it found. -/
def finishQrCode (accounts : AccountTable) (connectionId : UUID) (qr : LoginQrCodeData) (now : Time)
    (newId : UUID) : Except AccountError (BotAccount ⊕ Session BotAccount) :=
  match findByAppId accounts connectionId qr.appId with
  | none => .ok (.inl (applyQrCode (newQrAccount newId connectionId qr.appId) qr now))
  | some account =>
    if account.status = .DISABLED then
      .error (.AccountStateError "disabled account cannot start login")
    else .ok (.inr ⟨account, applyQrCode account qr now⟩)

/-- What `set_disabled` makes of the row it has locked and refreshed. -/
def setDisabled (account : BotAccount) (disabled : Bool) : BotAccount :=
  if disabled then
    { account with status := .DISABLED, pendingLoginUuid := none, qrExpiresAt := none }
  else { account with status := .OFFLINE }

/-- The row after the UPDATE of a session. -/
def writeChanged (session : Session BotAccount) (stored : BotAccount) : BotAccount where
  id := stored.id
  geweConnectionId :=
    column session.loaded.geweConnectionId session.current.geweConnectionId stored.geweConnectionId
  appId := column session.loaded.appId session.current.appId stored.appId
  wxid := column session.loaded.wxid session.current.wxid stored.wxid
  «alias» := column session.loaded.alias session.current.alias stored.alias
  nickname := column session.loaded.nickname session.current.nickname stored.nickname
  avatarUrl := column session.loaded.avatarUrl session.current.avatarUrl stored.avatarUrl
  pendingLoginUuid :=
    column session.loaded.pendingLoginUuid session.current.pendingLoginUuid stored.pendingLoginUuid
  qrExpiresAt := column session.loaded.qrExpiresAt session.current.qrExpiresAt stored.qrExpiresAt
  lastStatusCheckedAt := column session.loaded.lastStatusCheckedAt
    session.current.lastStatusCheckedAt stored.lastStatusCheckedAt
  lastStatusError :=
    column session.loaded.lastStatusError session.current.lastStatusError stored.lastStatusError
  status := column session.loaded.status session.current.status stored.status
  loggedInAt := column session.loaded.loggedInAt session.current.loggedInAt stored.loggedInAt
  lastOnlineAt := column session.loaded.lastOnlineAt session.current.lastOnlineAt stored.lastOnlineAt

theorem accountConnection_ok {d : Directory} {accountId : UUID} {pair : BotAccount × GeweConnection}
    (h : accountConnection d accountId = .ok pair) : d.accounts.find accountId = some pair.1 := by
  unfold accountConnection at h
  split at h
  · cases h
  · rename_i account haccount
    split at h
    · cases h
    · cases h
      exact haccount

/-- An operation that calls the provider has loaded the stored row, and found it not
disabled. -/
theorem start_ok {d : Directory} {accountId : UUID} {operation : StatusOperation}
    {session : Session BotAccount} (h : operation.start d accountId = .ok session) :
    d.accounts.find accountId = some session.loaded ∧ session.loaded.status ≠ .DISABLED ∧
      session.current.id = session.loaded.id := by
  cases operation with
  | checkLogin =>
    obtain ⟨⟨account, connection⟩, hpair, h⟩ := Results.bind_ok.mp h
    simp only at h
    split at h
    · exact absurd h Results.throw_bind_ne
    · rename_i henabled
      split at h
      · exact absurd h Results.throw_bind_ne
      · obtain ⟨token, -, h⟩ := Results.bind_ok.mp h
        cases h
        exact ⟨accountConnection_ok hpair, henabled, rfl⟩
  | checkOnline =>
    obtain ⟨⟨account, connection⟩, hpair, h⟩ := Results.bind_ok.mp h
    simp only at h
    split at h
    · exact absurd h Results.throw_bind_ne
    · rename_i henabled
      obtain ⟨token, -, h⟩ := Results.bind_ok.mp h
      cases h
      exact ⟨accountConnection_ok hpair, henabled, rfl⟩
  | reconnect =>
    obtain ⟨⟨account, connection⟩, hpair, h⟩ := Results.bind_ok.mp h
    simp only at h
    split at h
    · exact absurd h Results.throw_bind_ne
    · rename_i henabled
      obtain ⟨token, -, h⟩ := Results.bind_ok.mp h
      cases h
      exact ⟨accountConnection_ok hpair, henabled, rfl⟩

theorem findByAppId_some {accounts : AccountTable} {connectionId : UUID} {appId : Str}
    {account : BotAccount} (h : findByAppId accounts connectionId appId = some account) :
    accounts.find account.id = some account :=
  Table.mem_iff_find.mp (List.mem_of_find?_eq_some h)

theorem finishQrCode_session {accounts : AccountTable} {connectionId newId : UUID}
    {qr : LoginQrCodeData} {now : Time} {session : Session BotAccount}
    (h : finishQrCode accounts connectionId qr now newId = .ok (.inr session)) :
    accounts.find session.loaded.id = some session.loaded ∧ session.loaded.status ≠ .DISABLED := by
  unfold finishQrCode at h
  split at h
  · cases h
  · rename_i account hfound
    split at h
    · cases h
    · rename_i henabled
      cases h
      exact ⟨findByAppId_some hfound, henabled⟩

end WechatBot.Accounts
