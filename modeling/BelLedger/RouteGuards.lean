import BelLedger.AccountRequests
import BelLedger.PermissionMatrix

/-!
# What stands before the handlers of the routes

`attachSession` resolves the user of a request. The guards of its route then run in the order of the
route files, and the handler runs when none of them has refused the request.
-/
namespace BelLedger
open EffectPrograms Prog UsersService AuthService

/-- `JSON.parse` of the header `x-bel-fresh-auth`. -/
inductive FreshAuthHeader
  | missing
  | malformed
  | null
  | incomplete
  | proof (input : FreshAuthProofInput)

structure RequestHeaders where
  authorization : Option String
  freshAuth : FreshAuthHeader

/-- `BEL_FRESH_AUTH_REQUIRED_ACTIONS`, and whether `BEL_ENV` is production. -/
structure GuardSettings where
  requiredActions : Option String
  production : Bool

inductive Guard
  | requireSession
  | requireActiveIdentity
  | requireRole (allowed : List Role)
  | requirePermission (action : Action) (ctx : PermissionContext)
  | requireFreshAuthentication (operation : String) (resource : Option String)
  deriving DecidableEq

namespace RouteGuards

def productionActions : List String :=
  ["WALLET_ACTIVATE","WALLET_REVOKE","ROLE_ASSIGN","GRANT_CREATE","GRANT_REVOKE","ASSET_TRANSFER",
    "JOB_VERIFY","VALIDATOR_ADD","VALIDATOR_REMOVE","VALIDATOR_RESTORE","VALIDATOR_REMOVE_CANCEL"]

def freshAuthRequired (settings : GuardSettings) (operation : String) : Bool :=
  match settings.requiredActions with
  | some configured =>
    (((configured.splitOn ",").map jsTrim).filter (fun value => value ≠ "")).contains operation
  | none => settings.production && productionActions.contains operation

/-- `header.slice(7).trim()`. -/
def tokenOf (header : String) : String := jsTrim (String.ofList (header.toList.drop 7))

variable (ctx : AuthContext) (settings : GuardSettings)

def resolveUser (authorization : Option String) : Program (Option User) :=
  match authorization with
  | none => pure none
  | some header =>
    if "Bearer ".toList.isPrefixOf header.toList then validateSession ctx (tokenOf header)
    else pure none

def requireSession (user : Option User) : Program Unit :=
  throwIf (user.isNone = true) (.UnauthorizedError "No valid session")

def requireActiveIdentity (user : Option User) : Program Unit := do
  let user ← orThrow user (.UnauthorizedError "No valid session")
  throwIf (user.status ≠ .ACTIVE) (.ForbiddenError ("Identity is "++statusName user.status))

def requireRole (user : Option User) (allowed : List Role) : Program Unit := do
  let user ← orThrow user (.UnauthorizedError "No valid session")
  throwIf (user.role ∉ allowed) (.ForbiddenError ("Role "++user.role.name++" is not permitted here"))

/-- The gate, with the context that the resolver of the route has supplied. -/
def requirePermission (user : Option User) (action : Action) (context : PermissionContext) :
    Program Unit := do
  let user ← orThrow user (.UnauthorizedError "No valid session")
  Prog.done (BelLedger.requirePermission user action context)

def requireFreshAuthentication (headers : RequestHeaders) (operation : String)
    (resource : Option String) : Program Unit :=
  if freshAuthRequired settings operation = true then
    match headers.freshAuth with
    | .missing => .done (.error (.UnauthorizedError "Fresh authentication is required"))
    | .malformed =>
      .done (.error (.UnauthorizedError "Fresh authentication proof is malformed"))
    | .null => .done (.error (.Error "Cannot read properties of null (reading 'challengeId')"))
    | .incomplete =>
      .done (.error (.UnauthorizedError "Fresh authentication proof is malformed"))
    | .proof input => do
      let token := (headers.authorization.map tokenOf).getD ""
      throwIf (token = "") (.UnauthorizedError "No valid session")
      verifyFreshAuthentication ctx token input operation resource
  else pure ()

def check (headers : RequestHeaders) (user : Option User) : Guard → Program Unit
  | .requireSession => requireSession user
  | .requireActiveIdentity => requireActiveIdentity user
  | .requireRole allowed => requireRole user allowed
  | .requirePermission action context => requirePermission user action context
  | .requireFreshAuthentication operation resource =>
    requireFreshAuthentication ctx settings headers operation resource

def checkAll (headers : RequestHeaders) (user : Option User) : List Guard → Program Unit
  | [] => pure ()
  | guard::guards => do
    check ctx settings headers user guard
    checkAll headers user guards

/-- All that happens before the handler, with the user that it finds in the request. -/
def reachHandler (headers : RequestHeaders) (guards : List Guard) : Program (Option User) := do
  let user ← resolveUser ctx headers.authorization
  checkAll ctx settings headers user guards
  pure user

end RouteGuards

/-- The routes that ask for a session, with what their guards read of the request. -/
inductive Route
  -- users.routes
  | freshChallenge
  | pendingRegistrations
  | activeEmployees
  | verifyRegistration
  | activateRegistration
  | createUser
  | revokeWallet (id : String)
  | activateWallet (id : String)
  | logout
  | registerDevice
  | listDevices
  | revokeDevice (deviceId : String)
  | registerWallet
  | listWallets
  | assignRole (id : String)
  | createGrant (resourceId : Option String)
  | listGrants
  | revokeGrant (grantId : String)
  | me
  | myGrants
  | user
  -- assets.routes
  | listAssets
  | asset
  | createAsset
  | prepareAsset
  | transfer (id : String) (ctx : PermissionContext)
  | prepareTransfer (ctx : PermissionContext)
  | changeState (id : String)
  | prepareState
  | attachComponent (id : String)
  | prepareAttach
  | removeComponent (componentId : String)
  | prepareRemove
  -- jobs.routes
  | listJobs
  | job
  | createJob
  | prepareJob
  | assign
  | prepareAssign
  | start
  | prepareStart
  | complete
  | prepareComplete
  | approve (id : String)
  | prepareApprove
  | reject (id : String)
  | prepareReject
  -- evidence.routes
  | uploadEvidence
  | listEvidence (ctx : PermissionContext)
  | downloadEvidence (ctx : PermissionContext)
  -- chain.routes
  | auditTrail (ctx : PermissionContext)
  | validatorStatus
  | committee
  | listValidators
  | validatorHistory
  | addValidator (validatorId : Option String)
  | removeValidator (id : String)
  | restoreValidator (id : String)
  | cancelRemoval (id : String)

namespace Route

def allows (action : Action) : Guard := .requirePermission action ⟨none,none,none,none⟩

def freshly (operation resource : String) : Guard :=
  .requireFreshAuthentication operation (some resource)

def guards : Route → List Guard
  | freshChallenge | logout | me | myGrants | user | listAssets | asset | listJobs | job =>
    [.requireSession]
  | pendingRegistrations | verifyRegistration | activateRegistration =>
    [.requireSession,.requireRole [.ADMIN]]
  | activeEmployees | createUser | registerDevice | listDevices | listWallets | listGrants =>
    [.requireSession,allows .CREATE_EMPLOYEE]
  | revokeWallet id =>
    [.requireSession,.requireActiveIdentity,freshly "WALLET_REVOKE" id,allows .REVOKE_WALLET]
  | activateWallet id =>
    [.requireSession,.requireActiveIdentity,freshly "WALLET_ACTIVATE" id,allows .ACTIVATE_WALLET]
  | revokeDevice deviceId => [.requireSession,freshly "WALLET_REVOKE" deviceId,allows .REVOKE_WALLET]
  | registerWallet => [.requireSession,allows .ACTIVATE_WALLET]
  | assignRole id => [.requireSession,freshly "ROLE_ASSIGN" id,allows .CREATE_EMPLOYEE]
  | createGrant resourceId =>
    [.requireSession,.requireFreshAuthentication "GRANT_CREATE" resourceId,.requireRole [.ADMIN]]
  | revokeGrant grantId => [.requireSession,freshly "GRANT_REVOKE" grantId,allows .CREATE_EMPLOYEE]
  | createAsset | prepareAsset | prepareState | prepareAttach | prepareRemove =>
    [.requireSession,allows .REGISTER_ASSET]
  | transfer id ctx =>
    [.requireSession,freshly "ASSET_TRANSFER" id,.requirePermission .TRANSFER_ASSET ctx]
  | prepareTransfer ctx => [.requireSession,.requirePermission .TRANSFER_ASSET ctx]
  | changeState id => [.requireSession,freshly "ASSET_STATE_CHANGE" id,allows .REGISTER_ASSET]
  | attachComponent id => [.requireSession,freshly "COMPONENT_ATTACH" id,allows .REGISTER_ASSET]
  | removeComponent componentId =>
    [.requireSession,freshly "COMPONENT_REMOVE" componentId,allows .REGISTER_ASSET]
  | createJob | prepareJob => [.requireSession,allows .CREATE_JOB]
  | assign | prepareAssign => [.requireSession,allows .ASSIGN_TECHNICIAN]
  | start | prepareStart | complete | prepareComplete | uploadEvidence =>
    [.requireSession,allows .PERFORM_MAINTENANCE]
  | approve id | reject id => [.requireSession,freshly "JOB_VERIFY" id,allows .VERIFY_MAINTENANCE]
  | prepareApprove | prepareReject => [.requireSession,allows .VERIFY_MAINTENANCE]
  | listEvidence ctx | downloadEvidence ctx | auditTrail ctx =>
    [.requireSession,.requirePermission .VIEW_AUDIT_HISTORY ctx]
  | validatorStatus | committee => [.requireSession,allows .VIEW_VALIDATOR_STATUS]
  | listValidators | validatorHistory => [.requireSession,allows .MANAGE_VALIDATORS]
  | addValidator validatorId =>
    [.requireSession,allows .MANAGE_VALIDATORS,.requireFreshAuthentication "VALIDATOR_ADD" validatorId]
  | removeValidator id => [.requireSession,allows .MANAGE_VALIDATORS,freshly "VALIDATOR_REMOVE" id]
  | restoreValidator id => [.requireSession,allows .MANAGE_VALIDATORS,freshly "VALIDATOR_RESTORE" id]
  | cancelRemoval id =>
    [.requireSession,allows .MANAGE_VALIDATORS,freshly "VALIDATOR_REMOVE_CANCEL" id]

end Route

def Guard.isFresh : Guard → Bool
  | .requireFreshAuthentication _ _ => true
  | _ => false

namespace Route

theorem session_first (route : Route) : route.guards.head? = some .requireSession := by
  cases route <;> rfl

/-- A request gives one proof at most. -/
theorem freshOnce (route : Route) : route.guards.countP Guard.isFresh ≤ 1 := by
  cases route <;> exact Nat.le_of_ble_eq_true rfl

end Route
end BelLedger
