import BelLedger.RoleAgreement

/-!
# UsersServiceImpl: authorization grants

A grant is a row of its own. On chain a token and a wallet share one slot.
-/
namespace BelLedger
open CheckedCalls TransitionRuns KeyedTables UsersService

inductive ResourceType
  | ASSET | JOB
  deriving DecidableEq, Repr

def ResourceType.name : ResourceType → String
  | .ASSET => "ASSET"
  | .JOB => "JOB"

/-- `ACTIONS`. -/
inductive Action
  | CREATE_EMPLOYEE | REVOKE_WALLET | ACTIVATE_WALLET | REGISTER_ASSET | CREATE_JOB
  | ASSIGN_TECHNICIAN | PERFORM_MAINTENANCE | VERIFY_MAINTENANCE | TRANSFER_ASSET
  | VIEW_AUDIT_HISTORY | VIEW_VALIDATOR_STATUS | MANAGE_VALIDATORS
  deriving DecidableEq, Repr

def Action.name : Action → String
  | .CREATE_EMPLOYEE => "CREATE_EMPLOYEE"
  | .REVOKE_WALLET => "REVOKE_WALLET"
  | .ACTIVATE_WALLET => "ACTIVATE_WALLET"
  | .REGISTER_ASSET => "REGISTER_ASSET"
  | .CREATE_JOB => "CREATE_JOB"
  | .ASSIGN_TECHNICIAN => "ASSIGN_TECHNICIAN"
  | .PERFORM_MAINTENANCE => "PERFORM_MAINTENANCE"
  | .VERIFY_MAINTENANCE => "VERIFY_MAINTENANCE"
  | .TRANSFER_ASSET => "TRANSFER_ASSET"
  | .VIEW_AUDIT_HISTORY => "VIEW_AUDIT_HISTORY"
  | .VIEW_VALIDATOR_STATUS => "VIEW_VALIDATOR_STATUS"
  | .MANAGE_VALIDATORS => "MANAGE_VALIDATORS"

inductive GrantStatus
  | ACTIVE | REVOKED | EXPIRED
  deriving DecidableEq, Repr

/-- A number comes with the text that `String` makes of it. -/
inductive Expiry
  | string (s : String)
  | number (q : Rat) (text : String)
  deriving DecidableEq

namespace Expiry

/-- `Boolean(expiresAt)`. -/
def truthy : Expiry → Bool
  | string s => s != ""
  | number q _ => q != 0

/-- `String(expiresAt)`, which is what `Date.parse` reads. -/
def toText : Expiry → String
  | string s => s
  | number _ text => text

def value : Expiry → Value
  | string s => .string s
  | number q _ => .number q

end Expiry

structure AuthorizationGrant where
  authorizationGrantId : String
  actorIdentityId : String
  resourceType : ResourceType
  resourceId : String
  action : Action
  grantedByIdentityId : String
  issuedAt : String
  expiresAt : Option Expiry
  status : GrantStatus
  deriving DecidableEq

structure GrantInput where
  resourceType : ResourceType
  resourceId : String
  action : Action
  expiresAt : Option Expiry
  deriving DecidableEq

structure GrantSystem (H : Type) where
  grants : Table AuthorizationGrant.authorizationGrantId
  chain : World H

/-- What a request finds around it: the mode and the clock, and the rows of the identities. -/
structure GrantContext where
  users : Context
  repositories : Repositories

namespace GrantsService

section Queries
variable {H : Type} (P : Platform) (s : GrantSystem H)

def listByIdentityId (identityId : String) : List AuthorizationGrant :=
  s.grants.rows.filter (fun grant => grant.actorIdentityId = identityId)

def grantMatches (grant : AuthorizationGrant) (actorId resourceId : String) (action : Action) : Bool :=
  grant.actorIdentityId = actorId && grant.resourceId = resourceId && grant.action = action

/-- An expiry that is no date never passes. -/
def grantIsExpired (grant : AuthorizationGrant) (now : ℤ) : Bool :=
  match grant.expiresAt with
  | none => false
  | some expiresAt =>
    expiresAt.truthy &&
      match P.dateParse expiresAt.toText with
      | some ms => decide (ms ≤ now)
      | none => false

def grantIsActive (grant : AuthorizationGrant) (actorId resourceId : String) (action : Action)
    (now : ℤ) : Bool :=
  grant.status = .ACTIVE && grantMatches grant actorId resourceId action &&
    !grantIsExpired P grant now

def findActiveGrant (actorId : String) (resourceType : ResourceType) (resourceId : String)
    (action : Action) (now : ℤ) : Option AuthorizationGrant :=
  (listByIdentityId s actorId).find? (fun grant =>
    grant.resourceType = resourceType && grant.resourceId = resourceId &&
      grantIsActive P grant actorId resourceId action now)

/-- A grant that is found to have expired is marked so. -/
def validateGrant (grantId actorId resourceId : String) (action : Action) (now : ℤ) :
    GrantSystem H × Bool :=
  match s.grants.find grantId with
  | none => (s,false)
  | some grant =>
    if grantMatches grant actorId resourceId action = false ∨ grant.status ≠ .ACTIVE then (s,false)
    else if grantIsExpired P grant now then
      ({ s with grants := s.grants.save { grant with status := .EXPIRED } },false)
    else (s,true)

end Queries

section Requests
variable {H : Type} [Keccak H] [DecidableEq H] (P : Platform) (ctx : GrantContext)
  (s : GrantSystem H)

/-- The payload of both transactions about a grant. -/
def grantPayload (grant : AuthorizationGrant) : Payload :=
  [("authorizationGrantId",.string grant.authorizationGrantId),
    ("resourceType",.string (grant.resourceType.name)),
    ("resourceId",.string grant.resourceId),
    ("actorIdentityId",.string grant.actorIdentityId),
    ("action",.string (grant.action.name)),
    ("expiresAt",match grant.expiresAt with | some expiresAt => expiresAt.value | none => .null)]

def createGrantCheck (actorId targetId : String) (input : GrantInput) (uuid : String) :
    Except ServiceError (UsersService.Identity × AuthorizationGrant) := do
  let actor ← requireIdentity (ctx.repositories.resolveIdentity actorId)
  let target ← requireIdentity (ctx.repositories.resolveIdentity targetId)
  revertIf (actor.status ≠ .ACTIVE ∨ target.status ≠ .ACTIVE)
    (.ForbiddenError "Inactive identity cannot grant authorization")
  revertIf (actor.role ≠ some .ADMIN)
    (.ForbiddenError "Only an admin may create an authorization grant")
  revertIf (input.resourceType ≠ .ASSET ∨ input.action ≠ .TRANSFER_ASSET)
    (.ForbiddenError "Only asset transfer grants may be created")
  pure (actor,
    { authorizationGrantId := "GRANT-"++uuid
      actorIdentityId := target.identityId
      resourceType := input.resourceType
      resourceId := input.resourceId
      action := input.action
      grantedByIdentityId := actor.identityId
      issuedAt := ctx.users.now
      expiresAt := input.expiresAt
      status := .ACTIVE })

def revokeGrantCheck (actorId grantId : String) :
    Except ServiceError (UsersService.Identity × AuthorizationGrant) := do
  let actor ← requireIdentity (ctx.repositories.resolveIdentity actorId)
  match s.grants.find grantId with
  | none => .error (.NotFoundError ("No grant "++grantId))
  | some grant =>
    revertIf (grant.grantedByIdentityId ≠ actor.identityId ∧ actor.role ≠ some .ADMIN)
      (.ForbiddenError "Only the grantor or admin may revoke a grant")
    pure (actor,grant)

/-- The common end of both requests: submit, then save. -/
def conclude (type : TransactionType)
    (checked : Except ServiceError (UsersService.Identity × AuthorizationGrant))
    (change : AuthorizationGrant → AuthorizationGrant) (d : Delivery) :
    GrantSystem H × Except ServiceError AuthorizationGrant :=
  match checked with
  | .error e => (s,.error e)
  | .ok (actor,grant) =>
    match submit P ctx.users ctx.repositories s.chain type actor (grantPayload grant) d with
    | (chain,.error e) => ({ s with chain },.error e)
    | (chain,.ok ()) => (⟨s.grants.save (change grant),chain⟩,.ok (change grant))

def createGrant (actorId targetId : String) (input : GrantInput) (uuid : String) (d : Delivery) :
    GrantSystem H × Except ServiceError AuthorizationGrant :=
  conclude P ctx s .GRANT_CREATE (createGrantCheck ctx actorId targetId input uuid) id d

def revoked (grant : AuthorizationGrant) : AuthorizationGrant := { grant with status := .REVOKED }

def revokeGrant (actorId grantId : String) (d : Delivery) :
    GrantSystem H × Except ServiceError AuthorizationGrant :=
  conclude P ctx s .GRANT_REVOKE (revokeGrantCheck ctx s actorId grantId) revoked d

end Requests

end GrantsService

inductive GrantEvent
  | createGrant (ctx : GrantContext) (actorId targetId : String) (input : GrantInput) (uuid : String)
      (d : Delivery)
  | revokeGrant (ctx : GrantContext) (actorId grantId : String) (d : Delivery)
  | validateGrant (grantId actorId resourceId : String) (action : Action) (now : ℤ)
  | external (tx : Tx)

section Runs
variable {H : Type} [Keccak H] [DecidableEq H]

def GrantSystem.step (P : Platform) (s : GrantSystem H) : GrantEvent → GrantSystem H
  | .createGrant ctx actorId targetId input uuid d =>
    (GrantsService.createGrant P ctx s actorId targetId input uuid d).1
  | .revokeGrant ctx actorId grantId d => (GrantsService.revokeGrant P ctx s actorId grantId d).1
  | .validateGrant grantId actorId resourceId action now =>
    (GrantsService.validateGrant P s grantId actorId resourceId action now).1
  | .external tx => { s with chain := attempt exec s.chain tx }

def GrantSystem.run (P : Platform) (s : GrantSystem H) (events : List GrantEvent) : GrantSystem H :=
  events.foldl (GrantSystem.step P) s

end Runs
end BelLedger
