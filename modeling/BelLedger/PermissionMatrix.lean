import BelLedger.GrantsService

/-!
# shared/rbac and rbac.middleware

The matrix that both sides of the application import, and the gate of a route.
-/
namespace BelLedger
open UsersService

/-- A cell: permitted, refused, with an explicit authorization, on one's own records. -/
inductive Permission
  | ALLOW | DENY | AUTH | OWN
  deriving DecidableEq, Repr

def RBAC_MATRIX : Action → Role → Permission
  | .CREATE_EMPLOYEE => fun
    | .ADMIN => .ALLOW | .MANAGER => .DENY | .ENGINEER => .DENY | .TECHNICIAN => .DENY
    | .AUDITOR => .DENY | .ISSUER => .DENY | .VERIFIER => .DENY
  | .REVOKE_WALLET => fun
    | .ADMIN => .ALLOW | .MANAGER => .DENY | .ENGINEER => .DENY | .TECHNICIAN => .DENY
    | .AUDITOR => .DENY | .ISSUER => .DENY | .VERIFIER => .DENY
  | .ACTIVATE_WALLET => fun
    | .ADMIN => .ALLOW | .MANAGER => .DENY | .ENGINEER => .DENY | .TECHNICIAN => .DENY
    | .AUDITOR => .DENY | .ISSUER => .ALLOW | .VERIFIER => .DENY
  | .REGISTER_ASSET => fun
    | .ADMIN => .ALLOW | .MANAGER => .ALLOW | .ENGINEER => .ALLOW | .TECHNICIAN => .DENY
    | .AUDITOR => .DENY | .ISSUER => .ALLOW | .VERIFIER => .DENY
  | .CREATE_JOB => fun
    | .ADMIN => .DENY | .MANAGER => .ALLOW | .ENGINEER => .ALLOW | .TECHNICIAN => .DENY
    | .AUDITOR => .DENY | .ISSUER => .DENY | .VERIFIER => .DENY
  | .ASSIGN_TECHNICIAN => fun
    | .ADMIN => .DENY | .MANAGER => .ALLOW | .ENGINEER => .ALLOW | .TECHNICIAN => .DENY
    | .AUDITOR => .DENY | .ISSUER => .DENY | .VERIFIER => .DENY
  | .PERFORM_MAINTENANCE => fun
    | .ADMIN => .DENY | .MANAGER => .DENY | .ENGINEER => .ALLOW | .TECHNICIAN => .ALLOW
    | .AUDITOR => .DENY | .ISSUER => .DENY | .VERIFIER => .DENY
  | .VERIFY_MAINTENANCE => fun
    | .ADMIN => .DENY | .MANAGER => .ALLOW | .ENGINEER => .ALLOW | .TECHNICIAN => .DENY
    | .AUDITOR => .ALLOW | .ISSUER => .DENY | .VERIFIER => .ALLOW
  | .TRANSFER_ASSET => fun
    | .ADMIN => .ALLOW | .MANAGER => .ALLOW | .ENGINEER => .AUTH | .TECHNICIAN => .DENY
    | .AUDITOR => .DENY | .ISSUER => .DENY | .VERIFIER => .DENY
  | .VIEW_AUDIT_HISTORY => fun
    | .ADMIN => .ALLOW | .MANAGER => .ALLOW | .ENGINEER => .ALLOW | .TECHNICIAN => .OWN
    | .AUDITOR => .ALLOW | .ISSUER => .DENY | .VERIFIER => .ALLOW
  | .VIEW_VALIDATOR_STATUS => fun
    | .ADMIN => .ALLOW | .MANAGER => .ALLOW | .ENGINEER => .ALLOW | .TECHNICIAN => .ALLOW
    | .AUDITOR => .ALLOW | .ISSUER => .ALLOW | .VERIFIER => .ALLOW
  | .MANAGE_VALIDATORS => fun
    | .ADMIN => .ALLOW | .MANAGER => .DENY | .ENGINEER => .DENY | .TECHNICIAN => .DENY
    | .AUDITOR => .DENY | .ISSUER => .DENY | .VERIFIER => .DENY

structure PermissionContext where
  actorId : Option String
  resourceOwnerId : Option String
  authorizationGrantId : Option String
  explicitlyAuthorized : Option Bool
  deriving DecidableEq

def permissionFor (role : Role) (action : Action) : Permission := RBAC_MATRIX action role

def can (role : Role) (action : Action) (ctx : PermissionContext) : Bool :=
  match permissionFor role action with
  | .ALLOW => true
  | .DENY => false
  | .AUTH => ctx.explicitlyAuthorized == some true && ctx.authorizationGrantId.getD "" != ""
  | .OWN => ctx.actorId.isSome && ctx.resourceOwnerId.isSome && ctx.actorId == ctx.resourceOwnerId

/-- The gate of a route, with the context that its resolver has supplied. -/
def requirePermission (user : User) (action : Action) (ctx : PermissionContext) :
    Except ServiceError Unit :=
  if can user.role action { ctx with actorId := ctx.actorId.or (some user.identityId) } then .ok ()
  else .error (.ForbiddenError ("Role "++user.role.name++" may not perform "++action.name))

/-- Where no authorization and no ownership is asked for, the context does not count. -/
theorem can_congr {role : Role} {action : Action} (hauth : permissionFor role action ≠ .AUTH)
    (hown : permissionFor role action ≠ .OWN) (ctx ctx' : PermissionContext) :
    can role action ctx = can role action ctx' := by
  unfold can
  cases hcell : permissionFor role action with
  | ALLOW => rfl
  | DENY => rfl
  | AUTH => exact absurd hcell hauth
  | OWN => exact absurd hcell hown

theorem can_authorized {role : Role} {action : Action} (hauth : permissionFor role action = .AUTH)
    {ctx : PermissionContext} : can role action ctx = true ↔
      ctx.explicitlyAuthorized = some true ∧ ctx.authorizationGrantId.getD "" ≠ "" := by
  simp [can,hauth]

theorem can_own {role : Role} {action : Action} (hown : permissionFor role action = .OWN)
    {ctx : PermissionContext} : can role action ctx = true ↔
      ∃ actorId,ctx.actorId = some actorId ∧ ctx.resourceOwnerId = some actorId := by
  cases hactor : ctx.actorId with
  | none => simp [can,hown,hactor]
  | some actorId =>
    cases howner : ctx.resourceOwnerId with
    | none => simp [can,hown,howner]
    | some ownerId =>
      simp only [can,hown,hactor,howner,Option.isSome_some,Bool.and_self,Bool.true_and,beq_iff_eq,
        Option.some_inj,exists_eq_left']
      exact eq_comm

theorem requirePermission_eq_ok {user : User} {action : Action} {ctx : PermissionContext} :
    requirePermission user action ctx = .ok () ↔
      can user.role action { ctx with actorId := ctx.actorId.or (some user.identityId) } = true := by
  unfold requirePermission
  split
  · exact iff_of_true rfl ‹_›
  · exact iff_of_false (fun h => nomatch h) ‹_›

end BelLedger
