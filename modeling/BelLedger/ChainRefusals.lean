import BelLedger.GrantsService
import BelLedger.ActivationRetries

/-!
# Requests of UsersServiceImpl that save nothing before the chain has agreed

Each of them passes its checks, takes its steps on the chain one after another, and then saves its
rows. A step that fails ends the request.
-/
namespace BelLedger
open CheckedCalls TransitionRuns KeyedTables UsersService

/-- The rows of all repositories of UsersServiceImpl, and the chain. -/
structure AccountStore (H : Type) where
  repositories : Repositories
  grants : Table AuthorizationGrant.authorizationGrantId
  chain : World H

inductive SubmittingRequest
  | revokeDevice (deviceId : String) (actorId : Option String) (stages : ℕ → Stage)
  | revokeWallet (userId reason : String) (actorId : Option String) (d : Delivery)
  | assignRole (actorId userId role : String) (d : Delivery)
  | createGrant (actorId targetId : String) (input : GrantInput) (uuid : String) (d : Delivery)
  | revokeGrant (actorId grantId : String) (d : Delivery)
  | activateRegistration (actorId userId : String) (created roleAssigned walletActivated : Stage)

section Requests
variable {H : Type} [Keccak H] [DecidableEq H] {α : Type}

def AccountStore.afterUsers (s : AccountStore H) (outcome : UsersSystem H × Except ServiceError α) :
    AccountStore H × Except ServiceError Unit :=
  (⟨outcome.1.repositories,s.grants,outcome.1.chain⟩,outcome.2.map (fun _ => ()))

def AccountStore.afterGrants (s : AccountStore H) (outcome : GrantSystem H × Except ServiceError α) :
    AccountStore H × Except ServiceError Unit :=
  (⟨s.repositories,outcome.1.grants,outcome.1.chain⟩,outcome.2.map (fun _ => ()))

namespace SubmittingRequest
variable (P : Platform) (ctx : Context) (s : AccountStore H)

def serve : SubmittingRequest → AccountStore H × Except ServiceError Unit
  | revokeDevice deviceId actorId stages =>
    s.afterUsers (UsersService.revokeDevice P ctx ⟨s.repositories,s.chain⟩ deviceId actorId stages)
  | revokeWallet userId reason actorId d =>
    s.afterUsers (UsersService.revokeWallet P ctx ⟨s.repositories,s.chain⟩ userId reason actorId d)
  | assignRole actorId userId role d =>
    s.afterUsers (UsersService.assignRole P ctx ⟨s.repositories,s.chain⟩ actorId userId role d)
  | createGrant actorId targetId input uuid d =>
    s.afterGrants (GrantsService.createGrant P ⟨ctx,s.repositories⟩ ⟨s.grants,s.chain⟩ actorId
      targetId input uuid d)
  | revokeGrant actorId grantId d =>
    s.afterGrants (GrantsService.revokeGrant P ⟨ctx,s.repositories⟩ ⟨s.grants,s.chain⟩ actorId
      grantId d)
  | activateRegistration actorId userId created roleAssigned walletActivated =>
    s.afterUsers (UsersService.activateRegistration P ctx ⟨s.repositories,s.chain⟩ actorId userId
      created roleAssigned walletActivated)

/-- The steps of a request on the chain, each with what happens to its submission. -/
def steps : SubmittingRequest → List (World H → World H × Except ServiceError Unit)
  | revokeDevice deviceId actorId stages =>
    match revokeDeviceCheck ctx s.repositories deviceId actorId with
    | .error _ => []
    | .ok (_,actor,wallets) =>
      wallets.mapIdx (fun k wallet w => ensureWalletRevoked P ctx s.repositories w actor
        wallet.address "Device revoked" (stages k))
  | revokeWallet userId reason actorId d =>
    match revokeWalletCheck ctx s.repositories userId reason (actorId.getD userId) with
    | .error _ => []
    | .ok (actor,wallet) =>
      [fun w => submit P ctx s.repositories w .WALLET_REVOKE actor
        (revokePayload wallet.address reason) d]
  | assignRole actorId userId role d =>
    match assignRoleCheck s.repositories actorId userId role with
    | .error _ => []
    | .ok (actor,target,role) =>
      match s.repositories.findByIdentityId target.identityId with
      | none => []
      | some _ =>
        [fun w => submit P ctx s.repositories w .ROLE_ASSIGN actor (assignRolePayload target role) d]
  | createGrant actorId targetId input uuid d =>
    match GrantsService.createGrantCheck ⟨ctx,s.repositories⟩ actorId targetId input uuid with
    | .error _ => []
    | .ok (actor,grant) =>
      [fun w => submit P ctx s.repositories w .GRANT_CREATE actor
        (GrantsService.grantPayload grant) d]
  | revokeGrant actorId grantId d =>
    match GrantsService.revokeGrantCheck ⟨ctx,s.repositories⟩ ⟨s.grants,s.chain⟩ actorId grantId with
    | .error _ => []
    | .ok (actor,grant) =>
      [fun w => submit P ctx s.repositories w .GRANT_REVOKE actor
        (GrantsService.grantPayload grant) d]
  | activateRegistration actorId userId created roleAssigned walletActivated =>
    match activateCheck ctx s.repositories actorId userId with
    | .error _ => []
    | .ok (actor,g) =>
      [fun w => ensureIdentityCreated P ctx s.repositories w actor g.identity g.wallet.address
        created,
       fun w => ensureRoleAssigned P ctx s.repositories w actor g.identity g.wallet.address
        roleAssigned,
       fun w => ensureWalletActive P ctx s.repositories w actor g.wallet.address g.device.deviceId
        g.identity.identityId walletActivated]

/-- What a request leaves behind whose steps on the chain are these. -/
structure SavesAfter (s : AccountStore H) (steps : List (World H → World H × Except ServiceError Unit))
    (outcome : AccountStore H × Except ServiceError Unit) : Prop where
  chain : outcome.1.chain = (performAll steps s.chain).1
  failed : ∀ e,(performAll steps s.chain).2 = .error e →
    outcome.2 = .error e ∧ outcome.1.repositories = s.repositories ∧ outcome.1.grants = s.grants

variable {P ctx s}

omit [Keccak H] [DecidableEq H] in
private theorem savesAfter_nil {outcome : AccountStore H × Except ServiceError Unit}
    (h : outcome.1.chain = s.chain) : SavesAfter s [] outcome :=
  ⟨h,fun _ hfailed => by cases hfailed⟩

omit [Keccak H] [DecidableEq H] in
private theorem savesAfter_of_performed {steps : List (World H → World H × Except ServiceError Unit)}
    {outcome : AccountStore H × Except ServiceError Unit} {run : World H × Except ServiceError Unit}
    (hrun : run = performAll steps s.chain)
    (hfailed : ∀ w e,run = (w,.error e) → outcome = (⟨s.repositories,s.grants,w⟩,.error e))
    (hdone : ∀ w,run = (w,.ok ()) → outcome.1.chain = w) : SavesAfter s steps outcome := by
  subst hrun
  cases hrun : performAll steps s.chain with
  | mk w result =>
    cases result with
    | error e =>
      rw [hfailed w e hrun]
      constructor
      · rw [hrun]
      · intro e' he
        rw [hrun] at he
        exact ⟨he,rfl,rfl⟩
    | ok _ =>
      constructor
      · rw [hrun]
        exact hdone w hrun
      · intro e he
        rw [hrun] at he
        cases he

private theorem ensureWalletsRevoked_eq (r : Repositories) (actor : Identity) (w : World H)
    (wallets : List Wallet) (stages : ℕ → Stage) :
    ensureWalletsRevoked P ctx r actor w wallets stages =
      performAll (wallets.mapIdx (fun k wallet w => ensureWalletRevoked P ctx r w actor
        wallet.address "Device revoked" (stages k))) w := by
  induction wallets generalizing w stages with
  | nil => rfl
  | cons wallet wallets ih =>
    rw [List.mapIdx_cons,ensureWalletsRevoked,performAll]
    cases ensureWalletRevoked P ctx r w actor wallet.address "Device revoked" (stages 0) with
    | mk w' result =>
      cases result with
      | error e => rfl
      | ok _ => exact ih w' (fun k => stages (k + 1))

private theorem activateOnChain_eq (r : Repositories) (actor : Identity) (g : Registration)
    (w : World H) (created roleAssigned walletActivated : Stage) :
    activateOnChain P ctx r w actor g created roleAssigned walletActivated =
      performAll
        [fun w => ensureIdentityCreated P ctx r w actor g.identity g.wallet.address created,
         fun w => ensureRoleAssigned P ctx r w actor g.identity g.wallet.address roleAssigned,
         fun w => ensureWalletActive P ctx r w actor g.wallet.address g.device.deviceId
          g.identity.identityId walletActivated] w := by
  rw [activateOnChain,performAll]
  cases ensureIdentityCreated P ctx r w actor g.identity g.wallet.address created with
  | mk w₁ result =>
    cases result with
    | error e => rfl
    | ok _ =>
      dsimp only
      rw [performAll]
      cases ensureRoleAssigned P ctx r w₁ actor g.identity g.wallet.address roleAssigned with
      | mk w₂ result =>
        cases result with
        | error e => rfl
        | ok _ =>
          exact (performAll_singleton (fun w => ensureWalletActive P ctx r w actor g.wallet.address
            g.device.deviceId g.identity.identityId walletActivated) w₂).symm

private theorem revokeDevice_savesAfter (deviceId : String) (actorId : Option String)
    (stages : ℕ → Stage) :
    SavesAfter s ((revokeDevice deviceId actorId stages).steps P ctx s)
      ((revokeDevice deviceId actorId stages).serve P ctx s) := by
  rw [steps,serve,UsersService.revokeDevice]
  cases revokeDeviceCheck ctx s.repositories deviceId actorId with
  | error e => exact savesAfter_nil rfl
  | ok checked =>
    obtain ⟨device,actor,wallets⟩ := checked
    dsimp only
    apply savesAfter_of_performed (ensureWalletsRevoked_eq s.repositories actor s.chain wallets stages)
    · intro w e h
      rw [h]
      rfl
    · intro w h
      rw [h]
      rfl

private theorem revokeWallet_savesAfter (userId reason : String) (actorId : Option String)
    (d : Delivery) :
    SavesAfter s ((revokeWallet userId reason actorId d).steps P ctx s)
      ((revokeWallet userId reason actorId d).serve P ctx s) := by
  rw [steps,serve,UsersService.revokeWallet]
  cases revokeWalletCheck ctx s.repositories userId reason (actorId.getD userId) with
  | error e => exact savesAfter_nil rfl
  | ok checked =>
    obtain ⟨actor,wallet⟩ := checked
    dsimp only [revokeRow]
    apply savesAfter_of_performed (performAll_singleton _ s.chain).symm
    · intro w e h
      rw [h]
      rfl
    · intro w h
      rw [h]
      rfl

private theorem assignRole_savesAfter (actorId userId role : String) (d : Delivery) :
    SavesAfter s ((assignRole actorId userId role d).steps P ctx s)
      ((assignRole actorId userId role d).serve P ctx s) := by
  rw [steps,serve,UsersService.assignRole]
  cases assignRoleCheck s.repositories actorId userId role with
  | error e => exact savesAfter_nil rfl
  | ok checked =>
    obtain ⟨actor,target,role⟩ := checked
    dsimp only
    cases s.repositories.findByIdentityId target.identityId with
    | none =>
      -- a PENDING identity gets its role without the chain
      apply savesAfter_nil
      dsimp only
      split
      · rfl
      · rfl
    | some user =>
      apply savesAfter_of_performed (performAll_singleton _ s.chain).symm
      · intro w e h
        rw [h]
        rfl
      · intro w h
        rw [h]
        rfl

private theorem activateRegistration_savesAfter (actorId userId : String)
    (created roleAssigned walletActivated : Stage) :
    SavesAfter s
      ((activateRegistration actorId userId created roleAssigned walletActivated).steps P ctx s)
      ((activateRegistration actorId userId created roleAssigned walletActivated).serve P ctx s) := by
  rw [steps,serve,UsersService.activateRegistration]
  cases activateCheck ctx s.repositories actorId userId with
  | error e => exact savesAfter_nil rfl
  | ok checked =>
    obtain ⟨actor,g⟩ := checked
    dsimp only
    apply savesAfter_of_performed (activateOnChain_eq s.repositories actor g s.chain created
      roleAssigned walletActivated)
    · intro w e h
      rw [h]
      rfl
    · intro w h
      rw [h]
      rfl

private theorem conclude_savesAfter (type : TransactionType)
    (checked : Except ServiceError (Identity × AuthorizationGrant))
    (change : AuthorizationGrant → AuthorizationGrant) (d : Delivery) :
    SavesAfter s
      (match checked with
        | .error _ => []
        | .ok (actor,grant) =>
          [fun w => submit P ctx s.repositories w type actor (GrantsService.grantPayload grant) d])
      (s.afterGrants (GrantsService.conclude P ⟨ctx,s.repositories⟩ ⟨s.grants,s.chain⟩ type checked
        change d)) := by
  cases checked with
  | error e => exact savesAfter_nil rfl
  | ok checked =>
    obtain ⟨actor,grant⟩ := checked
    dsimp only [GrantsService.conclude]
    apply savesAfter_of_performed (performAll_singleton _ s.chain).symm
    · intro w e h
      rw [h]
      rfl
    · intro w h
      rw [h]
      rfl

theorem serve_savesAfter (q : SubmittingRequest) :
    SavesAfter s (q.steps P ctx s) (q.serve P ctx s) := by
  cases q with
  | revokeDevice deviceId actorId stages => exact revokeDevice_savesAfter deviceId actorId stages
  | revokeWallet userId reason actorId d => exact revokeWallet_savesAfter userId reason actorId d
  | assignRole actorId userId role d => exact assignRole_savesAfter actorId userId role d
  | createGrant actorId targetId input uuid d =>
    exact conclude_savesAfter .GRANT_CREATE
      (GrantsService.createGrantCheck ⟨ctx,s.repositories⟩ actorId targetId input uuid) id d
  | revokeGrant actorId grantId d =>
    exact conclude_savesAfter .GRANT_REVOKE (GrantsService.revokeGrantCheck ⟨ctx,s.repositories⟩
      ⟨s.grants,s.chain⟩ actorId grantId) GrantsService.revoked d
  | activateRegistration actorId userId created roleAssigned walletActivated =>
    exact activateRegistration_savesAfter actorId userId created roleAssigned walletActivated

/-- A request changes the chain by its steps alone, and when one of them fails it fails with the same
error and leaves all rows as they were. -/
theorem refused_requests_keep_rows (P : Platform) (ctx : Context) (s : AccountStore H)
    (q : SubmittingRequest) :
    (q.serve P ctx s).1.chain = (performAll (q.steps P ctx s) s.chain).1 ∧
    ∀ e,.error e ∈ stepResults (q.steps P ctx s) s.chain →
      (q.serve P ctx s).2 = .error e ∧ (q.serve P ctx s).1.repositories = s.repositories ∧
      (q.serve P ctx s).1.grants = s.grants :=
  ⟨(serve_savesAfter q).chain,fun e he => (serve_savesAfter q).failed e (performAll_of_failed he)⟩

section Prototype

def workshopStore : AccountStore (Option Bytes) := ⟨workshopRepositories,.empty,workshop⟩

/-- The auditor is created on chain, and no answer comes to the assignment of the role. -/
def halfActivation : SubmittingRequest :=
  .activateRegistration "ADMIN" "E-2" (stageOf 12 .mined) (stageOf 13 timedOut) (stageOf 14 .mined)

theorem refused_activation_keeps_rows :
    (halfActivation.serve prototypePlatform usersContext workshopStore).1.chain.view.wallets
      0x7e5f4552091a69125d5dfcb7b8c2659029395bdf = some (utf8 "DID:BEL:AUD",.PENDING) ∧
    (halfActivation.serve prototypePlatform usersContext workshopStore).1.repositories =
      workshopRepositories := by
  have hfailed : Except.error (.Blockchain ⟨.TIMEOUT,"no receipt"⟩) ∈ stepResults
      (halfActivation.steps prototypePlatform usersContext workshopStore) workshopStore.chain := by
    decide +kernel
  exact ⟨by decide +kernel,((refused_requests_keep_rows prototypePlatform usersContext workshopStore
    halfActivation).2 _ hfailed).2.1⟩

end Prototype

end SubmittingRequest
end Requests
end BelLedger
