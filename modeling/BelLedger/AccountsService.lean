import BelLedger.AuthService

/-!
# UsersServiceImpl: registration, devices and wallets

Provisioning is a pair of programs over the repositories. The other functions also talk to the chain
and are functions of the whole state; like an activation they keep what they had done when a
submission fails.
-/
namespace BelLedger
open CheckedCalls TransitionRuns KeyedTables EffectPrograms Prog

namespace UsersService
open AuthService

/-- An object of the request body; only its keys matter. -/
inductive Metadata
  | leaf
  | node (entries : List (String × Metadata))

/-- `/first.?second/` at the start of a string. A dot stands for one code unit that ends no line. -/
def startsWithGapped (first second text : List Char) : Bool :=
  first.isPrefixOf text && (second.isPrefixOf (text.drop first.length) ||
    match text.drop first.length with
    | [] => false
    | c::rest => decide (c.toNat < 0x10000) && !(['\n', '\r', '\u2028', '\u2029'].contains c) &&
        second.isPrefixOf rest)

/-- `/private.?key|secret.?key|mnemonic|seed(?:.?phrase)?|backup/i`. -/
def sensitiveKey (key : String) : Bool :=
  (key.toList.map Char.toLower).tails.any (fun text =>
    startsWithGapped "private".toList "key".toList text ||
      startsWithGapped "secret".toList "key".toList text ||
      "mnemonic".toList.isPrefixOf text || "seed".toList.isPrefixOf text ||
      "backup".toList.isPrefixOf text)

mutual

def containsSensitiveKey : Metadata → Bool
  | .leaf => false
  | .node entries => someSensitive entries

def someSensitive : List (String × Metadata) → Bool
  | [] => false
  | (key,child)::entries => sensitiveKey key || containsSensitiveKey child || someSensitive entries

end

/-- A `deviceMetadata` that is missing or is no object is `none`. -/
structure ProvisioningChallengeRequest where
  deviceId : String
  deviceMetadata : Option Metadata

structure InitializeAccountRequest where
  hasPrivateKey : Bool
  fullName : String
  deviceId : String
  publicKey : String
  walletAddress : String
  challengeId : String
  signature : String
  deviceMetadata : Option Metadata
  employeeId : Option String
  department : Option String

section Provisioning
open Repository
variable (ctx : AuthContext)

def attestDevice (deviceId : String) (metadata : Option Metadata) : Program Unit := do
  throwIf ((metadata.map containsSensitiveKey).getD false = true)
    (.ValidationError ["private-key material is not accepted"])
  let result ← attest deviceId
  throwIf (result.verified = false ∨ result.managedDevice = false ∨ result.networkApproved = false)
    (.ForbiddenError "Device attestation was not approved")

def requestProvisioningChallenge (input : ProvisioningChallengeRequest) (fresh : FreshChallenge) :
    Program Challenge := do
  throwIf (jsTrim input.deviceId = "") (.ValidationError ["deviceId is required"])
  throwIf (input.deviceMetadata.isNone = true) (.ValidationError ["deviceMetadata is required"])
  attestDevice input.deviceId input.deviceMetadata
  let now ← dateNow
  let row : Challenge :=
    { challengeId := fresh.challengeId, deviceId := input.deviceId, challenge := fresh.challenge,
      purpose := .WALLET_INITIALIZATION, expiresAt := now + 5 * 60 * 1000, usedAt := none,
      metadata := none }
  saveChallenge row
  pure row

/-- The messages for the fields that are missing. -/
def initializationErrors (input : InitializeAccountRequest) : List String :=
  (if jsTrim input.fullName = "" then ["fullName is required"] else [])++
  (if jsTrim input.deviceId = "" then ["deviceId is required"] else [])++
  (if jsTrim input.publicKey = "" then ["publicKey is required"] else [])++
  (if jsTrim input.walletAddress = "" then ["walletAddress is required"] else [])++
  (if jsTrim input.challengeId = "" then ["challengeId is required"] else [])++
  (if jsTrim input.signature = "" then ["signature is required"] else [])++
  (if input.deviceMetadata.isNone then ["deviceMetadata is required"] else [])

def requireUnknownEmployee (employeeId : Option String) : Program Unit :=
  match employeeId with
  | none => pure ()
  | some employeeId =>
    if employeeId = "" then pure ()
    else do
      let existing ← findIdentityByEmployeeId employeeId
      throwIf (existing.isSome = true) (.ConflictError "Employee is already registered")

/-- The rows of a new registration; device and wallet are stored under trimmed keys. -/
def newRegistration (now : String) (input : InitializeAccountRequest) (uuid : String) :
    Registration :=
  { identity :=
      { identityId := "DID:BEL:"++uuid, employeeId := trimmedOrNull input.employeeId, role := none,
        department := trimmedOrNull input.department, status := .PENDING }
    device :=
      { deviceId := jsTrim input.deviceId, identityId := "DID:BEL:"++uuid, status := .PENDING,
        registeredAt := now, activatedAt := none, revokedAt := none,
        publicKey := some input.publicKey }
    wallet :=
      { address := jsTrim input.walletAddress, identityId := "DID:BEL:"++uuid,
        deviceId := jsTrim input.deviceId, status := .PENDING, activatedAt := none,
        revokedAt := none, revokedReason := none, publicKey := some input.publicKey } }

def initializeAccount (input : InitializeAccountRequest) (uuid : String) : Program Registration := do
  throwIf (input.hasPrivateKey = true) (.ValidationError ["privateKey must never be submitted"])
  throwIf (initializationErrors input ≠ []) (.ValidationError (initializationErrors input))
  let row ← findChallenge input.challengeId
  let row ← orThrow row (.ValidationError ["challenge is invalid"])
  throwIf (row.purpose ≠ .WALLET_INITIALIZATION) (.ValidationError ["challenge is invalid"])
  throwIf (row.usedAt ≠ none) (.ConflictError "challenge has already been used")
  let now ← dateNow
  throwIf (row.expiresAt ≤ now) (.ValidationError ["challenge has expired"])
  throwIf (row.deviceId ≠ input.deviceId) (.ValidationError ["challenge is bound to another device"])
  throwIf (ctx.evm = true ∧ ctx.walletMatches input.walletAddress input.publicKey = false)
    (.ValidationError ["walletAddress must be the EVM address derived from the canonical 64-byte "++
      "public key"])
  throwIf (ctx.verifyProof row.challenge input.publicKey input.signature = false)
    (.ForbiddenError "Invalid provisioning proof")
  attestDevice input.deviceId input.deviceMetadata
  let wallet ← findWallet input.walletAddress
  throwIf (wallet.isSome = true) (.ConflictError "Wallet address is already registered")
  let device ← findDevice input.deviceId
  throwIf (device.isSome = true) (.ConflictError "Device is already registered")
  requireUnknownEmployee input.employeeId
  let usedAt ← dateNow
  let consumed ← consumeIfUnused input.challengeId usedAt
  throwIf (consumed = false) (.ConflictError "challenge has already been used")
  let rows := newRegistration ctx.now input uuid
  saveIdentity rows.identity
  saveDevice rows.device
  saveWallet rows.wallet
  pure rows

end Provisioning

section Accounts
variable {H : Type} [Keccak H] [DecidableEq H]

/-- What a caller of `createUser` may give. -/
structure CreateIdentityInput where
  identityId : Option String
  employeeId : String
  role : String
  department : Option String
  status : Option IdentityStatus

/-- `createUser` up to its first submission: the new identity. -/
def createUserCheck (ctx : Context) (s : UsersSystem H) (input : CreateIdentityInput)
    (uuid : String) : Except ServiceError (Identity × Role) := do
  match ROLES.find? (fun known => known.name = input.role) with
  | none => .error (.ValidationError ["employeeId and a valid role are required"])
  | some role =>
    revertIf (input.employeeId = "")
      (.ValidationError ["employeeId and a valid role are required"])
    revertIf ((s.repositories.findByEmployeeId input.employeeId).isSome = true)
      (.ConflictError ("Employee "++input.employeeId++" already exists"))
    revertIf (input.identityId.getD "" ≠ "" ∧
        (s.repositories.identities.find (input.identityId.getD "")).isSome = true)
      (.ConflictError ("Identity "++input.identityId.getD ""++" already exists"))
    let identity : Identity :=
      { identityId := input.identityId.getD ("DID:BEL:"++uuid), employeeId := some input.employeeId,
        role := some role, department := some (input.department.getD "UNSPECIFIED"),
        status := input.status.getD .ACTIVE }
    revertIf (ctx.evm = true ∧ onChainRole s.chain identity.identityId = none)
      (.ConflictError ("Legacy user creation cannot create an EVM identity without a registered "++
        "wallet; use account initialization and administrator activation"))
    pure (identity,role)

def createUserPayload (identity : Identity) (role : Role) : Payload :=
  [("identityId",.string identity.identityId),("status",.string (statusName identity.status)),
    ("role",.string role.name)]

/-- Gives the identity its role on chain when it has another one there. -/
def alignRole (P : Platform) (ctx : Context) (s : UsersSystem H) (identity : Identity) (role : Role)
    (actorId : Option String) (d : Delivery) : UsersSystem H × Except ServiceError Unit :=
  if ctx.evm = true ∧ onChainRole s.chain identity.identityId ≠ some role then
    match requireIdentity (s.repositories.resolveIdentity (actorId.getD identity.identityId)) with
    | .error e => (s,.error e)
    | .ok actor =>
      let (chain,result) := submit P ctx s.repositories s.chain .ROLE_ASSIGN actor
        (assignRolePayload identity role) d
      ({ s with chain },result)
  else (s,.ok ())

/-- The rows are saved before the identity is announced to a chain that does not know it. -/
def createUser (P : Platform) (ctx : Context) (s : UsersSystem H) (input : CreateIdentityInput)
    (actorId : Option String) (uuid : String) (aligned created assigned : Delivery) :
    UsersSystem H × Except ServiceError (Identity × User) :=
  match createUserCheck ctx s input uuid with
  | .error e => (s,.error e)
  | .ok (identity,role) =>
    match alignRole P ctx s identity role actorId aligned with
    | (s,.error e) => (s,.error e)
    | (s,.ok ()) =>
      let user := toUser identity ""
      let r := { s.repositories with
        identities := s.repositories.identities.save identity
        users := s.repositories.users.save user }
      if ctx.evm then (⟨r,s.chain⟩,.ok (identity,user))
      else
        match submit P ctx r s.chain .IDENTITY_CREATE identity (createUserPayload identity role)
            created with
        | (chain,.error e) => (⟨r,chain⟩,.error e)
        | (chain,.ok ()) =>
          match submit P ctx r chain .ROLE_ASSIGN identity (assignRolePayload identity role)
              assigned with
          | (chain,.error e) => (⟨r,chain⟩,.error e)
          | (chain,.ok ()) => (⟨r,chain⟩,.ok (identity,user))

/-- `verifyRegistration` up to the save: the completed identity. -/
def verifyCheck (r : Repositories) (actorId userId employeeId department : String) :
    Except ServiceError Identity := do
  let actor ← requireIdentity (r.resolveIdentity actorId)
  requireAdmin actor "Only an active admin may verify registrations"
  revertIf (jsTrim employeeId = "" ∨ jsTrim department = "")
    (.ValidationError ["employeeId and department are required"])
  let target ← requireIdentity (r.resolveIdentity userId)
  revertIf (target.status ≠ .PENDING) (.ConflictError "Only pending registrations can be verified")
  revertIf (((r.findByEmployeeId employeeId).map Identity.identityId).getD target.identityId ≠
      target.identityId) (.ConflictError "Employee is already registered")
  pure { target with
    employeeId := some (jsTrim employeeId), department := some (jsTrim department) }

def verifyRegistration (s : UsersSystem H) (actorId userId employeeId department : String) :
    UsersSystem H × Except ServiceError Identity :=
  match verifyCheck s.repositories actorId userId employeeId department with
  | .error e => (s,.error e)
  | .ok row =>
    ({ s with repositories := { s.repositories with
        identities := s.repositories.identities.save row } },.ok row)

/-- `registerDevice` up to the save. A revoked device of the same identity is no obstacle. -/
def registerDeviceCheck (ctx : AuthContext) (r : Repositories) (userId deviceId credential : String)
    (publicKey : Option String) : Except ServiceError Device := do
  revertIf (jsTrim deviceId = "" ∨ jsTrim credential = "")
    (.ValidationError ["deviceId and credential are required"])
  revertIf (ctx.evm = true ∧ publicKey.getD "" = "")
    (.ValidationError ["publicKey is required for EVM wallet registration"])
  revertIf (ctx.evm = true ∧ ctx.canonicalKey (publicKey.getD "") = false)
    (.ValidationError ["publicKey must be exactly the canonical 64-byte secp256k1 X || Y "++
      "representation"])
  let identity ← requireIdentity (r.resolveIdentity userId)
  let existing := r.devices.find deviceId
  revertIf ((existing.map Device.identityId).getD identity.identityId ≠ identity.identityId)
    (.ConflictError ("Device "++deviceId++" is already registered"))
  revertIf (existing.map Device.status = some .ACTIVE)
    (.ConflictError ("Device "++deviceId++" is already active"))
  pure
    { deviceId, identityId := identity.identityId, status := .ACTIVE,
      registeredAt := (existing.map Device.registeredAt).getD ctx.now, activatedAt := some ctx.now,
      revokedAt := none, publicKey := publicKey.or (existing.bind Device.publicKey) }

def registerDevice (ctx : AuthContext) (s : UsersSystem H) (userId deviceId : String)
    (credential publicKey : Option String) : UsersSystem H × Except ServiceError Device :=
  let credential := credential.getD deviceId
  match registerDeviceCheck ctx s.repositories userId deviceId credential publicKey with
  | .error e => (s,.error e)
  | .ok device =>
    ({ s with repositories := { s.repositories with
        devices := s.repositories.devices.save device
        credentials := s.repositories.credentials.save
          ⟨ctx.hashCredential credential,deviceId⟩ } },.ok device)

def revokePayload (address reason : String) : Payload :=
  [("address",.string address),("reason",.string reason)]

def ensureWalletRevoked (P : Platform) (ctx : Context) (r : Repositories) (w : World H)
    (actor : Identity) (walletAddress reason : String) (stage : Stage) :
    World H × Except ServiceError Unit :=
  let w := attemptAll exec w stage.before
  match (if ctx.evm then getWallet P w walletAddress else none) with
  | some (_,.REVOKED) => (w,.ok ())
  | _ => submit P ctx r w .WALLET_REVOKE actor (revokePayload walletAddress reason) stage.delivery

/-- The chain loop of `revokeDevice`. -/
def ensureWalletsRevoked (P : Platform) (ctx : Context) (r : Repositories) (actor : Identity) :
    World H → List Wallet → (ℕ → Stage) → World H × Except ServiceError Unit
  | w,[],_ => (w,.ok ())
  | w,wallet::wallets,stages =>
    match ensureWalletRevoked P ctx r w actor wallet.address "Device revoked" (stages 0) with
    | (w,.error e) => (w,.error e)
    | (w,.ok ()) => ensureWalletsRevoked P ctx r actor w wallets (fun k => stages (k + 1))

/-- The row that `revokeWalletObject` saves. -/
def revokedWallet (now reason : String) (wallet : Wallet) : Wallet :=
  { wallet with status := .REVOKED, revokedAt := some now, revokedReason := some reason }

/-- The device, the actor and the wallets that `revokeDevice` is about. -/
def revokeDeviceCheck (ctx : Context) (r : Repositories) (deviceId : String)
    (actorId : Option String) : Except ServiceError (Device × Identity × List Wallet) :=
  match r.devices.find deviceId with
  | none => .error (.NotFoundError ("No device "++deviceId))
  | some device => do
    let actor ← requireIdentity (r.resolveIdentity (actorId.getD device.identityId))
    pure (device,actor,(r.listWallets ctx device.identityId).filter
      (fun wallet => wallet.deviceId = deviceId ∧ wallet.status = .ACTIVE))

/-- The device row after a revocation; the row of a revoked device is left as it is. -/
def revokedDevice (now : String) (device : Device) : Device :=
  if device.status = .REVOKED then device
  else { device with status := .REVOKED, revokedAt := some now }

def saveRevokedDevice (now : String) (r : Repositories) (device : Device) (wallets : List Wallet) :
    Repositories :=
  { r with
    devices := r.devices.save (revokedDevice now device)
    credentials := r.credentials.discard (fun row => row.deviceId = device.deviceId)
    wallets := (wallets.map (revokedWallet now "Device revoked")).foldl Table.save r.wallets }

def revokeDevice (P : Platform) (ctx : Context) (s : UsersSystem H) (deviceId : String)
    (actorId : Option String) (stages : ℕ → Stage) : UsersSystem H × Except ServiceError Device :=
  match revokeDeviceCheck ctx s.repositories deviceId actorId with
  | .error e => (s,.error e)
  | .ok (device,actor,wallets) =>
    match ensureWalletsRevoked P ctx s.repositories actor s.chain wallets stages with
    | (chain,.error e) => ({ s with chain },.error e)
    | (chain,.ok ()) =>
      (⟨saveRevokedDevice ctx.now s.repositories device wallets,chain⟩,
        .ok (revokedDevice ctx.now device))

/-- The ACTIVE device of an ACTIVE identity on which a wallet is registered or activated. -/
def requireActiveDevice (r : Repositories) (userId deviceId : String) :
    Except ServiceError (Identity × Device) := do
  let identity ← requireIdentity (r.resolveIdentity userId)
  revertIf (identity.status ≠ .ACTIVE)
    (.ForbiddenError ("Identity is "++statusName identity.status))
  match r.devices.find deviceId with
  | none => .error (.ForbiddenError "Device is not active for this identity")
  | some device =>
    revertIf (device.identityId ≠ identity.identityId ∨ device.status ≠ .ACTIVE)
      (.ForbiddenError "Device is not active for this identity")
    pure (identity,device)

/-- `validateEvmWalletBinding`. -/
def validateEvmWalletBinding (ctx : Context) (address publicKey : String) : Except ServiceError Unit :=
  revertIf (ctx.evm = true ∧ ctx.walletMatches address publicKey = false)
    (.ValidationError ["walletAddress must be the EVM address derived from the canonical 64-byte "++
      "public key"])

/-- The lookup is by the address as given, the row is stored under the trimmed one. -/
def registerWalletCheck (ctx : Context) (r : Repositories) (userId deviceId address : String) :
    Except ServiceError Wallet := do
  revertIf (jsTrim address = "")
    (.ValidationError ["device-generated walletAddress is required"])
  let (identity,device) ← requireActiveDevice r userId deviceId
  revertIf (device.publicKey.getD "" = "")
    (.ForbiddenError "A device-generated public key is required to register a wallet")
  validateEvmWalletBinding ctx address (device.publicKey.getD "")
  revertIf ((r.wallets.find address).isSome = true)
    (.ConflictError ("Wallet "++address++" already exists"))
  pure
    { address := jsTrim address, identityId := identity.identityId, deviceId, status := .PENDING,
      activatedAt := none, revokedAt := none, revokedReason := none, publicKey := device.publicKey }

def registerWallet (ctx : Context) (s : UsersSystem H) (userId deviceId address : String) :
    UsersSystem H × Except ServiceError Wallet :=
  match registerWalletCheck ctx s.repositories userId deviceId address with
  | .error e => (s,.error e)
  | .ok wallet =>
    ({ s with repositories := { s.repositories with
        wallets := s.repositories.wallets.save wallet } },.ok wallet)

def revokeWalletCheck (ctx : Context) (r : Repositories) (userId reason actorId : String) :
    Except ServiceError (Identity × Wallet) := do
  revertIf (jsTrim reason = "") (.ValidationError ["reason is required to revoke a wallet"])
  let identity ← requireIdentity (r.resolveIdentity userId)
  match (r.listWallets ctx identity.identityId).find? (fun item => item.status = .ACTIVE) with
  | none => .error (.NotFoundError ("No active wallet for "++identity.employeeId.getD "null"))
  | some wallet =>
    let actor ← requireIdentity (r.resolveIdentity actorId)
    pure (actor,wallet)

/-- Submits the revocation of an ACTIVE wallet row and then saves the row as REVOKED. -/
def revokeRow (P : Platform) (ctx : Context) (s : UsersSystem H) (actor : Identity)
    (wallet : Wallet) (reason : String) (d : Delivery) : UsersSystem H × Except ServiceError Unit :=
  match submit P ctx s.repositories s.chain .WALLET_REVOKE actor
      (revokePayload wallet.address reason) d with
  | (chain,.error e) => ({ s with chain },.error e)
  | (chain,.ok ()) =>
    (⟨{ s.repositories with
        wallets := s.repositories.wallets.save (revokedWallet ctx.now reason wallet) },chain⟩,.ok ())

def revokeWallet (P : Platform) (ctx : Context) (s : UsersSystem H) (userId reason : String)
    (actorId : Option String) (d : Delivery) : UsersSystem H × Except ServiceError Wallet :=
  match revokeWalletCheck ctx s.repositories userId reason (actorId.getD userId) with
  | .error e => (s,.error e)
  | .ok (actor,wallet) =>
    match revokeRow P ctx s actor wallet reason d with
    | (s,.error e) => (s,.error e)
    | (s,.ok ()) => (s,.ok (revokedWallet ctx.now reason wallet))

/-- `activateWallet` up to its first submission: the actor, the identity and the PENDING wallet. -/
def activateWalletCheck (ctx : Context) (r : Repositories)
    (userId deviceId address actorId : String) :
    Except ServiceError (Identity × Identity × Wallet) := do
  revertIf (jsTrim address = "")
    (.ValidationError ["device-generated walletAddress is required"])
  let (identity,_) ← requireActiveDevice r userId deviceId
  match r.wallets.find (jsTrim address) with
  | none =>
    .error (.NotFoundError "No pending wallet registered for this device and public address")
  | some wallet =>
    revertIf (wallet.identityId ≠ identity.identityId)
      (.ForbiddenError "Wallet belongs to another identity")
    revertIf (wallet.deviceId ≠ deviceId ∨ wallet.status ≠ .PENDING)
      (.NotFoundError "No pending wallet registered for this device and public address")
    revertIf (wallet.publicKey.getD "" = "")
      (.ForbiddenError "A device-generated public key is required to activate a wallet")
    validateEvmWalletBinding ctx address (wallet.publicKey.getD "")
    let actor ← requireIdentity (r.resolveIdentity actorId)
    pure (actor,identity,wallet)

/-- The replacement loop of `activateWallet`, over the rows listed before it. -/
def revokeReplaced (P : Platform) (ctx : Context) (actor : Identity) (wallet : Wallet) :
    UsersSystem H → List Wallet → (ℕ → Delivery) → UsersSystem H × Except ServiceError Unit
  | s,[],_ => (s,.ok ())
  | s,current::rest,deliveries =>
    if current.status = .ACTIVE ∧ current.address ≠ wallet.address then
      match revokeRow P ctx s actor current "Replaced by wallet activation" (deliveries 0) with
      | (s,.error e) => (s,.error e)
      | (s,.ok ()) => revokeReplaced P ctx actor wallet s rest (fun k => deliveries (k + 1))
    else revokeReplaced P ctx actor wallet s rest (fun k => deliveries (k + 1))

/-- The wallet row after its activation. -/
def activatedWallet (now : String) (wallet : Wallet) : Wallet :=
  { wallet with
    status := .ACTIVE, activatedAt := some now, revokedAt := none, revokedReason := none }

def saveActivatedWallet (r : Repositories) (identityId : String) (wallet : Wallet) : Repositories :=
  { r with
    wallets := r.wallets.save wallet
    users :=
      match r.findByIdentityId identityId with
      | none => r.users
      | some user => r.users.save { user with walletAddress := wallet.address } }

/-- A replacement is a new on-chain registration for the same DID. -/
def registerReplacement (P : Platform) (ctx : Context) (r : Repositories) (w : World H)
    (actor identity : Identity) (wallet : Wallet) (created activated : Stage) :
    World H × Except ServiceError Unit :=
  match ensureIdentityCreated P ctx r w actor identity wallet.address created with
  | (w,.error e) => (w,.error e)
  | (w,.ok ()) =>
    ensureWalletActive P ctx r w actor wallet.address wallet.deviceId identity.identityId activated

def activateWallet (P : Platform) (ctx : Context) (s : UsersSystem H)
    (userId deviceId address : String) (actorId : Option String) (revocations : ℕ → Delivery)
    (created activated : Stage) : UsersSystem H × Except ServiceError Wallet :=
  match activateWalletCheck ctx s.repositories userId deviceId address (actorId.getD userId) with
  | .error e => (s,.error e)
  | .ok (actor,identity,wallet) =>
    match revokeReplaced P ctx actor wallet s (s.repositories.listWallets ctx identity.identityId)
        revocations with
    | (s,.error e) => (s,.error e)
    | (s,.ok ()) =>
      match registerReplacement P ctx s.repositories s.chain actor identity wallet created
          activated with
      | (chain,.error e) => ({ s with chain },.error e)
      | (chain,.ok ()) =>
        (⟨saveActivatedWallet s.repositories identity.identityId (activatedWallet ctx.now wallet),
          chain⟩,.ok (activatedWallet ctx.now wallet))

end Accounts
end UsersService
end BelLedger
