import BelLedger.RepositoryCalls

/-!
# AuthServiceImpl

Challenges, login and sessions. Every function is a program over the repositories.
-/
namespace BelLedger
open EffectPrograms Prog

namespace AuthService
open UsersService Repository

/-- The checks of keys and signatures, the two hashes, and the settings of the process. The lifetime is
`BEL_SESSION_TTL_SECONDS` in whole seconds: a setting that is no number, with which a session would
never expire, is left out. -/
structure AuthContext extends Context where
  canonicalKey : String → Bool
  verifyProof : String → String → String → Bool
  hashCredential : String → String
  sessionHash : String → String
  ttl : ℤ
  production : Bool

/-- Two random strings: the id and the text of a new challenge. -/
structure FreshChallenge where
  challengeId : String
  challenge : String

structure LoginProofInput where
  deviceId : String
  challengeId : String
  publicKey : String
  signature : String

structure FreshAuthProofInput where
  challengeId : String
  publicKey : String
  signature : String

/-- `s?.trim() || null`. -/
def trimmedOrNull (s : Option String) : Option String :=
  match s with
  | none => none
  | some s => if jsTrim s = "" then none else some (jsTrim s)

/-- The fields that activation fills in are there. -/
def Complete (identity : Identity) : Prop :=
  identity.employeeId.getD "" ≠ "" ∧ identity.role ≠ none ∧ identity.department.getD "" ≠ ""

instance (identity : Identity) : Decidable (Complete identity) :=
  inferInstanceAs (Decidable (_ ∧ _ ∧ _))

/-- The rows behind a device that wants to authenticate. -/
structure Parties where
  device : Device
  identity : Identity
  wallet : Wallet

/-- The rows, if they are all there. -/
def parties (device : Option Device) (identity : Option Identity) (wallet : Option Wallet) :
    Option Parties :=
  match device,identity,wallet with
  | some device,some identity,some wallet => some ⟨device,identity,wallet⟩
  | _,_,_ => none

@[simp] theorem parties_eq_some {device : Option Device} {identity : Option Identity}
    {wallet : Option Wallet} {found : Parties} :
    parties device identity wallet = some found ↔
      device = some found.device ∧ identity = some found.identity ∧ wallet = some found.wallet := by
  obtain ⟨d,i,w⟩ := found
  cases device <;> cases identity <;> cases wallet <;> simp [parties]

variable (ctx : AuthContext)

/-- In EVM mode the address of the wallet must belong to the key of the device. -/
def walletMatchesKey (wallet : Wallet) (publicKey : String) : Prop :=
  ctx.evm = true → ctx.walletMatches wallet.address publicKey = true

instance (wallet : Wallet) (publicKey : String) : Decidable (walletMatchesKey ctx wallet publicKey) :=
  inferInstanceAs (Decidable (_ → _))

def requestAuthenticationChallenge (deviceId : String) (fresh : FreshChallenge) :
    Program Challenge := do
  let device ← findDevice deviceId
  let identity ← andThen device (fun device => findIdentity device.identityId)
  let wallet ← andThen identity (fun identity => do
    let wallets ← listWallets identity.identityId
    pure (wallets.find? (fun item => item.status = .ACTIVE ∧ item.deviceId = deviceId)))
  let found ← orThrow (parties device identity wallet)
    (.UnauthorizedError "Device, identity, or wallet is not active")
  throwIf (found.device.status ≠ .ACTIVE ∨ found.identity.status ≠ .ACTIVE)
    (.UnauthorizedError "Device, identity, or wallet is not active")
  let now ← dateNow
  let row : Challenge :=
    { challengeId := fresh.challengeId, deviceId, challenge := fresh.challenge,
      purpose := .AUTHENTICATION, expiresAt := now + 5 * 60 * 1000, usedAt := none, metadata := none }
  saveChallenge row
  pure row

/-- What `activeSession` asks of the rows of a session. -/
def rowsActive (identity : Option Identity) (device : Option Device) (wallet : Option Wallet) : Bool :=
  match identity,device,wallet with
  | some identity,some device,some wallet =>
    decide (identity.status = .ACTIVE ∧ device.status = .ACTIVE ∧ wallet.status = .ACTIVE ∧
      wallet.deviceId = device.deviceId ∧ wallet.identityId = identity.identityId)
  | _,_,_ => false

def activeSession (session : Session) : Program Bool := do
  let identity ← findIdentity session.identityId
  let device ← findDevice session.deviceId
  let wallet ← findWallet session.walletAddress
  pure (rowsActive identity device wallet)

/-- The session that a request for fresh authentication needs. -/
def requireSession (token : String) : Program Session := do
  let session ← findSession token
  let session ← orThrow session (.UnauthorizedError "No valid session")
  let now ← dateNow
  throwIf (session.expiresAt ≤ now) (.UnauthorizedError "No valid session")
  let active ← activeSession session
  throwIf (active = false) (.UnauthorizedError "No valid session")
  pure session

def requestFreshAuthenticationChallenge (token operation : String) (resourceId : Option String)
    (fresh : FreshChallenge) : Program Challenge := do
  let session ← requireSession token
  throwIf (jsTrim operation = "") (.UnauthorizedError "Fresh-auth operation is required")
  let now ← dateNow
  let row : Challenge :=
    { challengeId := fresh.challengeId, deviceId := session.deviceId, challenge := fresh.challenge,
      purpose := .FRESH_AUTHENTICATION, expiresAt := now + 2 * 60 * 1000, usedAt := none,
      metadata := some ⟨jsTrim operation,trimmedOrNull resourceId,ctx.sessionHash token⟩ }
  saveChallenge row
  pure row

/-- The challenge is one for this device, session, operation and resource, and is unused. -/
def FreshAuthMatches (row : Challenge) (session : Session) (token operation : String)
    (resourceId : Option String) : Prop :=
  row.purpose = .FRESH_AUTHENTICATION ∧ row.usedAt = none ∧ row.deviceId = session.deviceId ∧
    row.metadata = some ⟨operation,resourceId,ctx.sessionHash token⟩

instance (row : Challenge) (session : Session) (token operation : String)
    (resourceId : Option String) :
    Decidable (FreshAuthMatches ctx row session token operation resourceId) :=
  inferInstanceAs (Decidable (_ ∧ _ ∧ _ ∧ _))

def verifyFreshAuthentication (token : String) (input : FreshAuthProofInput) (operation : String)
    (resourceId : Option String) : Program Unit := do
  let session ← requireSession token
  let row ← findChallenge input.challengeId
  let row ← orThrow row (.UnauthorizedError "Invalid fresh-authentication challenge")
  throwIf (¬FreshAuthMatches ctx row session token operation resourceId)
    (.UnauthorizedError "Invalid fresh-authentication challenge")
  let now ← dateNow
  throwIf (row.expiresAt ≤ now) (.UnauthorizedError "Fresh-authentication challenge has expired")
  let device ← findDevice session.deviceId
  let identity ← andThen device (fun device => findIdentity device.identityId)
  let wallet ← andThen identity (fun identity => do
    let wallets ← listWallets identity.identityId
    pure (wallets.find? (fun item => item.address = session.walletAddress ∧ item.status = .ACTIVE ∧
      item.deviceId = session.deviceId)))
  let found ← orThrow (parties device identity wallet)
    (.UnauthorizedError "Device, identity, or wallet is not active")
  let publicKey := found.device.publicKey.getD ""
  throwIf (found.device.status ≠ .ACTIVE ∨ found.identity.status ≠ .ACTIVE ∨ publicKey = "" ∨
      input.publicKey ≠ publicKey)
    (.UnauthorizedError "Device, identity, or wallet is not active")
  throwIf (¬walletMatchesKey ctx found.wallet publicKey)
    (.UnauthorizedError "Wallet address does not match device public key")
  throwIf (ctx.verifyProof row.challenge publicKey input.signature = false)
    (.UnauthorizedError "Invalid fresh-authentication proof")
  let usedAt ← dateNow
  let consumed ← consumeIfUnused row.challengeId usedAt
  throwIf (consumed = false)
    (.UnauthorizedError "Fresh-authentication challenge has already been used")
  pure ()

/-- The user as a signed-in client sees it. -/
def signedIn (user : User) (identity : Identity) (wallet : Wallet) : User :=
  { user with
    walletAddress := wallet.address
    role := identity.role.getD user.role
    status := identity.status }

/-- Saves the session of a login and hands out its token. -/
def openSession (found : Parties) (user : User) (uuid : String) : Program (User × String) := do
  let now ← dateNow
  saveSession
    { token := "bel_"++uuid, identityId := found.identity.identityId,
      deviceId := found.device.deviceId, walletAddress := found.wallet.address,
      expiresAt := now + max 60 ctx.ttl * 1000 }
  pure (signedIn user found.identity found.wallet,"bel_"++uuid)

def loginWithProof (input : LoginProofInput) (uuid : String) : Program (User × String) := do
  let row ← findChallenge input.challengeId
  let row ← orThrow row (.UnauthorizedError "Invalid authentication challenge")
  throwIf (row.purpose ≠ .AUTHENTICATION ∨ row.usedAt ≠ none ∨ row.deviceId ≠ input.deviceId)
    (.UnauthorizedError "Invalid authentication challenge")
  let now ← dateNow
  throwIf (row.expiresAt ≤ now) (.UnauthorizedError "Authentication challenge has expired")
  let device ← findDevice input.deviceId
  let identity ← andThen device (fun device => findIdentity device.identityId)
  let user ← andThen identity (fun identity =>
    findUserByIdentityId identity.identityId)
  let wallet ← andThen identity (fun identity => do
    let wallets ← listWallets identity.identityId
    pure (wallets.find? (fun item => item.status = .ACTIVE ∧ item.deviceId = input.deviceId)))
  let found ← orThrow (parties device identity wallet)
    (.UnauthorizedError "Device, identity, or wallet is not active")
  let user ← orThrow user (.UnauthorizedError "Device, identity, or wallet is not active")
  let publicKey := found.device.publicKey.getD ""
  throwIf (found.device.status ≠ .ACTIVE ∨ ¬Complete found.identity ∨
      found.identity.status ≠ .ACTIVE ∨ publicKey = "" ∨ publicKey ≠ input.publicKey)
    (.UnauthorizedError "Device, identity, or wallet is not active")
  throwIf (¬walletMatchesKey ctx found.wallet publicKey)
    (.UnauthorizedError "Wallet address does not match device public key")
  throwIf (ctx.verifyProof row.challenge publicKey input.signature = false)
    (.UnauthorizedError "Invalid authentication proof")
  let usedAt ← dateNow
  let consumed ← consumeIfUnused row.challengeId usedAt
  throwIf (consumed = false)
    (.UnauthorizedError "Authentication challenge has already been used")
  openSession ctx found user uuid

/-- The name of a status in a message. -/
def statusName : IdentityStatus → String
  | .PENDING => "PENDING"
  | .ACTIVE => "ACTIVE"
  | .SUSPENDED => "SUSPENDED"
  | .REVOKED => "REVOKED"

/-- Login with a device credential, which is switched off in production. -/
def login (deviceCredential : String) (uuid : String) : Program (User × String) := do
  throwIf (ctx.production = true)
    (.ForbiddenError "Legacy device-credential login is disabled in production")
  throwIf (jsTrim deviceCredential = "") (.UnauthorizedError "Invalid device credential")
  let deviceId ← findDeviceId (ctx.hashCredential deviceCredential)
  let deviceId ← orThrow deviceId (.UnauthorizedError "Invalid device credential")
  throwIf (deviceId = "") (.UnauthorizedError "Invalid device credential")
  let device ← findDevice deviceId
  let identity ← andThen device (fun device => findIdentity device.identityId)
  let user ← andThen identity (fun identity =>
    findUserByIdentityId identity.identityId)
  let wallet ← andThen identity (fun identity => do
    let wallets ← listWallets identity.identityId
    pure (wallets.find? (fun item => item.status = .ACTIVE)))
  let found ← orThrow (parties device identity wallet)
    (.UnauthorizedError "Device, identity, or wallet is not active")
  let user ← orThrow user (.UnauthorizedError "Device, identity, or wallet is not active")
  throwIf (found.device.status ≠ .ACTIVE ∨ ¬Complete found.identity ∨
      found.wallet.deviceId ≠ found.device.deviceId)
    (.UnauthorizedError "Device, identity, or wallet is not active")
  throwIf (found.identity.status ≠ .ACTIVE)
    (.ForbiddenError ("Identity is "++statusName found.identity.status))
  openSession ctx found user uuid

/-- What `validateSession` asks of the rows of a session. -/
def SessionRows (found : Parties) : Prop :=
  Complete found.identity ∧ found.device.status = .ACTIVE ∧ found.identity.status = .ACTIVE ∧
    found.wallet.status = .ACTIVE ∧ found.wallet.deviceId = found.device.deviceId ∧
    (ctx.evm = true → found.device.publicKey.getD "" ≠ "") ∧
    walletMatchesKey ctx found.wallet (found.device.publicKey.getD "")

instance (found : Parties) : Decidable (SessionRows ctx found) :=
  inferInstanceAs (Decidable (_ ∧ _ ∧ _ ∧ _ ∧ _ ∧ _ ∧ _))

/-- The user of a session whose rows are in order. -/
def sessionUser (identity : Option Identity) (device : Option Device) (wallet : Option Wallet)
    (user : Option User) : Option User :=
  match parties device identity wallet,user with
  | some found,some user =>
    if SessionRows ctx found then some (signedIn user found.identity found.wallet) else none
  | _,_ => none

def validateSession (token : String) : Program (Option User) := do
  let session ← findSession token
  match session with
  | none => pure none
  | some session =>
    let now ← dateNow
    if session.expiresAt ≤ now then
      deleteSession token
      pure none
    else
      let identity ← findIdentity session.identityId
      let device ← findDevice session.deviceId
      let wallet ← findWallet session.walletAddress
      let user ← andThen identity (fun identity => findUserByIdentityId identity.identityId)
      match sessionUser ctx identity device wallet user with
      | some user => pure (some user)
      | none =>
        deleteSession token
        pure none

def logout (token : String) : Program Unit := do
  deleteSession token
  pure ()

end AuthService
end BelLedger
