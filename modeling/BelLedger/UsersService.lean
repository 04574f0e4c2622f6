import BelLedger.EvmAdapter
import BelLedger.KeyedTables

/-!
# UsersServiceImpl: roles and activation

`assignRole` and `activateRegistration`. An activation makes up to three submissions and looks at the
chain before each of them; a failure leaves the effects of the earlier ones behind.
-/
namespace BelLedger
open CheckedCalls TransitionRuns KeyedTables

namespace UsersService

inductive IdentityStatus
  | PENDING | ACTIVE | SUSPENDED | REVOKED
  deriving DecidableEq, Repr

/-- Of a device row or a wallet row. -/
inductive BindingStatus
  | PENDING | ACTIVE | REVOKED
  deriving DecidableEq, Repr

/-- The fields are empty until an administrator has verified the registration. -/
structure Identity where
  identityId : String
  employeeId : Option String
  role : Option Role
  department : Option String
  status : IdentityStatus
  deriving DecidableEq

structure User where
  employeeId : String
  identityId : String
  walletAddress : String
  role : Role
  department : String
  status : IdentityStatus
  deriving DecidableEq

structure Device where
  deviceId : String
  identityId : String
  status : BindingStatus
  registeredAt : String
  activatedAt : Option String
  revokedAt : Option String
  publicKey : Option String
  deriving DecidableEq

structure Wallet where
  address : String
  identityId : String
  deviceId : String
  status : BindingStatus
  activatedAt : Option String
  revokedAt : Option String
  revokedReason : Option String
  publicKey : Option String
  deriving DecidableEq

/-- The verifier is the hash of a device credential. An inactive credential counts as absent. -/
structure Credential where
  verifier : String
  deviceId : String
  deriving DecidableEq

/-- Times are milliseconds. A session that was deleted or revoked counts as absent. -/
structure Session where
  token : String
  identityId : String
  deviceId : String
  walletAddress : String
  expiresAt : ℤ
  deriving DecidableEq

inductive ChallengePurpose
  | WALLET_INITIALIZATION | AUTHENTICATION | FRESH_AUTHENTICATION
  deriving DecidableEq, Repr

/-- What a fresh-authentication challenge is bound to besides its device. -/
structure FreshMetadata where
  operation : String
  resourceId : Option String
  sessionHash : String
  deriving DecidableEq

/-- The evidence that a provisioning challenge keeps of the attestation is never read again. -/
structure Challenge where
  challengeId : String
  deviceId : String
  challenge : String
  purpose : ChallengePurpose
  expiresAt : ℤ
  usedAt : Option ℤ
  metadata : Option FreshMetadata
  deriving DecidableEq

structure Repositories where
  identities : Table Identity.identityId
  users : Table User.employeeId
  devices : Table Device.deviceId
  wallets : Table Wallet.address
  credentials : Table Credential.verifier := .empty
  sessions : Table Session.token := .empty
  challenges : Table Challenge.challengeId := .empty

/-- The mode, `assertWalletMatchesPublicKey`, the orders in which the repository lists the rows of an
identity, and the clock. -/
structure Context where
  evm : Bool
  walletMatches : String → String → Bool
  deviceOrder : List Device → List Device
  walletOrder : List Wallet → List Wallet
  now : String

namespace Repositories

def findByEmployeeId (r : Repositories) (employeeId : String) : Option Identity :=
  r.identities.rows.find? (fun row => row.employeeId = some employeeId)

def findByIdentityId (r : Repositories) (identityId : String) : Option User :=
  r.users.rows.find? (fun row => row.identityId = identityId)

def resolveIdentity (r : Repositories) (id : String) : Option Identity :=
  (r.identities.find id).orElse (fun _ => r.findByEmployeeId id)

def listDevices (ctx : Context) (r : Repositories) (identityId : String) : List Device :=
  ctx.deviceOrder (r.devices.rows.filter (fun row => row.identityId = identityId))

def listWallets (ctx : Context) (r : Repositories) (identityId : String) : List Wallet :=
  ctx.walletOrder (r.wallets.rows.filter (fun row => row.identityId = identityId))

/-- The wallet in whose name an actor submits: the ACTIVE wallet of the actor's user row. -/
def actorWallet (r : Repositories) (actor : Identity) : Option String :=
  match r.findByIdentityId actor.identityId with
  | none => none
  | some user =>
    if user.walletAddress = "" then none
    else
      match r.wallets.find user.walletAddress with
      | none => none
      | some wallet => if wallet.status = .ACTIVE then some wallet.address else none

end Repositories

def requireIdentity (identity : Option Identity) : Except ServiceError Identity :=
  match identity with
  | none => .error (.NotFoundError "No identity")
  | some identity => .ok identity

def toUser (identity : Identity) (walletAddress : String) : User :=
  { employeeId := identity.employeeId.getD ""
    identityId := identity.identityId
    walletAddress
    role := identity.role.getD .ENGINEER
    department := identity.department.getD "UNSPECIFIED"
    status := identity.status }

variable {H : Type} [Keccak H] [DecidableEq H]

/-- A wallet as the chain knows it; `none` when it was never registered. -/
def getWallet (P : Platform) (w : World H) (address : String) : Option (Bytes × WalletStatus) :=
  match P.parseAddress address with
  | none => none
  | some a =>
    if (w.identity.wallets a).status = .NONE then none
    else some (IdentityRegistry.identityOf w.identity a,(w.identity.wallets a).status)

/-- The role of `getIdentity`: the first of `ROLES` that the identity holds on chain. -/
def onChainRole (w : World H) (identityId : String) : Option Role :=
  if IdentityRegistry.walletsOf w.identity (utf8 identityId) = [] then none
  else ROLES.find? (fun r => (RoleRegistry.rolesOfIdentity w (utf8 identityId)).has r)

/-- The text of a DID, for messages. -/
def didText (did : Bytes) : String := (String.fromUTF8? ⟨did.toArray⟩).getD ""

section Submissions
variable (P : Platform) (ctx : Context) (r : Repositories)

/-- The envelope of the private `submit`. -/
def envelope (type : TransactionType) (actor : Identity) (payload : Payload) : Envelope :=
  ⟨type,(r.actorWallet actor).getD "SYSTEM",payload⟩

def submit (w : World H) (type : TransactionType) (actor : Identity) (payload : Payload)
    (d : Delivery) : World H × Except ServiceError Unit :=
  -- the mock chain accepts every transaction and keeps no identities, wallets or roles
  if ctx.evm = false then (w,.ok ())
  else if r.actorWallet actor = none then
    (w,.error (.Blockchain ⟨.SIGNER,"No active actor wallet for "++actor.identityId⟩))
  else
    match EvmAdapter.submitTransaction P w (envelope r type actor payload) d with
    | (w',.ok .SUCCESS) => (w',.ok ())
    | (w',.ok (.REJECTED _)) =>
      (w',.error (.Blockchain ⟨.REVERTED,"Blockchain rejected "++type.name⟩))
    | (w',.error e) => (w',.error (.Blockchain e))

/-- What happens on chain before a stage of an activation and to its submission. -/
structure Stage where
  before : List Tx
  delivery : Delivery

def ensureIdentityCreated (w : World H) (actor identity : Identity) (walletAddress : String)
    (stage : Stage) : World H × Except ServiceError Unit :=
  let w := attemptAll exec w stage.before
  match (if ctx.evm then getWallet P w walletAddress else none) with
  | some (did,_) =>
    if did ≠ utf8 identity.identityId then
      (w,.error (.ConflictError
        ("Wallet "++walletAddress++" is already bound to "++didText did++" on-chain")))
    else (w,.ok ())
  | none =>
    submit P ctx r w .IDENTITY_CREATE actor
      [("walletAddress",.string walletAddress),("identityId",.string identity.identityId)]
      stage.delivery

/-- The `role` field of a payload. -/
def roleValue : Option Role → Value
  | none => .null
  | some role => .string role.name

def ensureRoleAssigned (w : World H) (actor identity : Identity) (walletAddress : String)
    (stage : Stage) : World H × Except ServiceError Unit :=
  let w := attemptAll exec w stage.before
  let onChain := if ctx.evm then onChainRole w identity.identityId else none
  if onChain ≠ none ∧ onChain = identity.role then (w,.ok ())
  else
    submit P ctx r w .ROLE_ASSIGN actor
      [("walletAddress",.string walletAddress),("identityId",.string identity.identityId),
        ("role",roleValue identity.role)] stage.delivery

def ensureWalletActive (w : World H) (actor : Identity) (walletAddress deviceId identityId : String)
    (stage : Stage) : World H × Except ServiceError Unit :=
  let w := attemptAll exec w stage.before
  match (if ctx.evm then getWallet P w walletAddress else none) with
  | some (_,.ACTIVE) => (w,.ok ())
  | some (_,.REVOKED) =>
    (w,.error (.ConflictError ("Wallet "++walletAddress++" is already revoked on-chain")))
  | _ =>
    submit P ctx r w .WALLET_ACTIVATE actor
      [("address",.string walletAddress),("deviceId",.string deviceId),
        ("identityId",.string identityId)] stage.delivery

end Submissions

end UsersService

structure UsersSystem (H : Type) where
  repositories : UsersService.Repositories
  chain : World H

namespace UsersService

variable {H : Type} [Keccak H] [DecidableEq H]

def requireAdmin (actor : Identity) (message : String) : Except ServiceError Unit :=
  revertIf (actor.role ≠ some .ADMIN ∨ actor.status ≠ .ACTIVE) (.ForbiddenError message)

/-- `assignRole` up to the point where it finds the user row. -/
def assignRoleCheck (r : Repositories) (actorId userId role : String) :
    Except ServiceError (Identity × Identity × Role) := do
  match ROLES.find? (fun known => known.name = role) with
  | none => .error (.ValidationError ["role is invalid"])
  | some role =>
    let actor ← requireIdentity (r.resolveIdentity actorId)
    requireAdmin actor "Only an active admin may assign roles"
    let target ← requireIdentity (r.resolveIdentity userId)
    revertIf (target.status = .REVOKED) (.ForbiddenError "Revoked identities cannot receive roles")
    pure (actor,target,role)

def assignRolePayload (target : Identity) (role : Role) : Payload :=
  [("identityId",.string target.identityId),("role",.string role.name)]

def assignRole (P : Platform) (ctx : Context) (s : UsersSystem H) (actorId userId role : String)
    (d : Delivery) : UsersSystem H × Except ServiceError User :=
  match assignRoleCheck s.repositories actorId userId role with
  | .error e => (s,.error e)
  | .ok (actor,target,role) =>
    let assigned := { target with role := some role }
    match s.repositories.findByIdentityId target.identityId with
    | none =>
      if target.status ≠ .PENDING then
        (s,.error (.NotFoundError ("No user for "++target.employeeId.getD "null")))
      else
        ({ s with repositories := { s.repositories with
            identities := s.repositories.identities.save assigned } },.ok (toUser assigned ""))
    | some user =>
      match submit P ctx s.repositories s.chain .ROLE_ASSIGN actor (assignRolePayload target role) d with
      | (chain,.error e) => ({ s with chain },.error e)
      | (chain,.ok ()) =>
        (⟨{ s.repositories with
            identities := s.repositories.identities.save assigned
            users := s.repositories.users.save { user with role } },chain⟩,.ok { user with role })

/-- A registration that is ready to be activated. -/
structure Registration where
  identity : Identity
  device : Device
  wallet : Wallet
  deriving DecidableEq

/-- `activateRegistration` up to its first submission. -/
def activateCheck (ctx : Context) (r : Repositories) (actorId userId : String) :
    Except ServiceError (Identity × Registration) := do
  let actor ← requireIdentity (r.resolveIdentity actorId)
  requireAdmin actor "Only an active admin may activate registrations"
  let identity ← requireIdentity (r.resolveIdentity userId)
  revertIf (identity.status ≠ .PENDING ∨ identity.employeeId.getD "" = "" ∨
      identity.department.getD "" = "" ∨ identity.role = none)
    (.ConflictError "Registration must be verified and assigned a role before activation")
  match (r.listDevices ctx identity.identityId).find? (fun row => row.status = .PENDING),
      (r.listWallets ctx identity.identityId).find? (fun row => row.status = .PENDING) with
  | some device,some wallet =>
    revertIf (wallet.publicKey.getD "" = "" ∨ device.publicKey.getD "" = "" ∨
        wallet.publicKey ≠ device.publicKey)
      (.ForbiddenError "Wallet public key is not bound to the registered device")
    revertIf (ctx.evm = true ∧ ctx.walletMatches wallet.address (wallet.publicKey.getD "") = false)
      (.ValidationError ["walletAddress must be the EVM address derived from the canonical 64-byte "++
        "public key"])
    pure (actor,⟨identity,device,wallet⟩)
  | _,_ => .error (.ConflictError "Pending device and wallet are required")

/-- The three stages on chain. -/
def activateOnChain (P : Platform) (ctx : Context) (r : Repositories) (w : World H)
    (actor : Identity) (g : Registration) (created roleAssigned walletActivated : Stage) :
    World H × Except ServiceError Unit :=
  match ensureIdentityCreated P ctx r w actor g.identity g.wallet.address created with
  | (w,.error e) => (w,.error e)
  | (w,.ok ()) =>
    match ensureRoleAssigned P ctx r w actor g.identity g.wallet.address roleAssigned with
    | (w,.error e) => (w,.error e)
    | (w,.ok ()) =>
      ensureWalletActive P ctx r w actor g.wallet.address g.device.deviceId g.identity.identityId
        walletActivated

/-- The rows after an activation. -/
def activated (now : String) (g : Registration) : Registration :=
  { identity := { g.identity with status := .ACTIVE }
    device := { g.device with status := .ACTIVE, activatedAt := some now }
    wallet := { g.wallet with status := .ACTIVE, activatedAt := some now } }

def saveActivated (r : Repositories) (g : Registration) : Repositories :=
  { r with
    identities := r.identities.save g.identity
    users := r.users.save (toUser g.identity g.wallet.address)
    devices := r.devices.save g.device
    wallets := r.wallets.save g.wallet }

def activateRegistration (P : Platform) (ctx : Context) (s : UsersSystem H)
    (actorId userId : String) (created roleAssigned walletActivated : Stage) :
    UsersSystem H × Except ServiceError Registration :=
  match activateCheck ctx s.repositories actorId userId with
  | .error e => (s,.error e)
  | .ok (actor,g) =>
    match activateOnChain P ctx s.repositories s.chain actor g created roleAssigned
        walletActivated with
    | (chain,.error e) => ({ s with chain },.error e)
    | (chain,.ok ()) =>
      (⟨saveActivated s.repositories (activated ctx.now g),chain⟩,.ok (activated ctx.now g))

end UsersService

/-- What happens to the users and the chain: a request, or a transaction of somebody else. -/
inductive UsersEvent
  | assignRole (ctx : UsersService.Context) (actorId userId role : String) (d : Delivery)
  | activateRegistration (ctx : UsersService.Context) (actorId userId : String)
      (created roleAssigned walletActivated : UsersService.Stage)
  | external (tx : Tx)

section Runs
variable {H : Type} [Keccak H] [DecidableEq H]

def UsersSystem.step (P : Platform) (s : UsersSystem H) : UsersEvent → UsersSystem H
  | .assignRole ctx actorId userId role d =>
    (UsersService.assignRole P ctx s actorId userId role d).1
  | .activateRegistration ctx actorId userId created roleAssigned walletActivated =>
    (UsersService.activateRegistration P ctx s actorId userId created roleAssigned walletActivated).1
  | .external tx => { s with chain := attempt exec s.chain tx }

def UsersSystem.run (P : Platform) (s : UsersSystem H) (events : List UsersEvent) : UsersSystem H :=
  events.foldl (UsersSystem.step P) s

end Runs
end BelLedger
