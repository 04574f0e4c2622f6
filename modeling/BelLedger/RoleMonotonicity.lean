import BelLedger.AccessSoundness
import BelLedger.AuditRecords

/-!
# What one more role does to a caller

Roles accumulate in a mask. Every modifier asks for one of several roles, so that a further role
cannot take a call away; the transfer of an asset alone treats a role as a restriction.
-/
namespace BelLedger
open CheckedCalls TransitionRuns IdentityRegistry RoleRegistry

variable {H : Type} [Keccak H]

/-- An error of the access checks. -/
def Revert.isDenial : Revert → Bool
  | .Unauthorized _ _ | .InactiveWallet _ | .TransferNotAuthorized _ _ => true
  | _ => false

/-- The registry of a protected call and the roles it asks for, one of which is enough. -/
def Call.required : Call → Option (Registry × Mask)
  | .createIdentity _ _ => some (.identity,BelRoles.CREATE_EMPLOYEE)
  | .activateWallet _ => some (.identity,BelRoles.ACTIVATE_WALLET)
  | .revokeWallet _ _ => some (.identity,BelRoles.REVOKE_WALLET)
  | .assignRole _ _ | .revokeRole _ _ => some (.roles,BelRoles.MANAGE_ROLES)
  | .mintAsset _ _ => some (.assets,BelRoles.REGISTER_ASSET)
  | .setTransferGrant _ _ _ _ _ => some (.assets,BelRoles.MANAGE_ROLES)
  | .changeAssetState _ _ | .attachComponent _ _ | .removeComponent _ _ =>
    some (.assets,BelRoles.MANAGE_ASSET)
  | .createJob _ _ => some (.jobs,BelRoles.CREATE_JOB)
  | .assignJob _ _ => some (.jobs,BelRoles.ASSIGN_TECHNICIAN)
  | .startJob _ | .completeJob _ _ => some (.jobs,BelRoles.PERFORM_MAINTENANCE)
  | .approveJob _ | .rejectJob _ _ => some (.jobs,BelRoles.VERIFY_MAINTENANCE)
  | .addValidator _ _ _ _ | .removeValidator _ _ _ | .restoreValidator _ _
  | .cancelScheduledRemoval _ _ => some (.validators,BelRoles.ADMIN)
  | _ => none

/-- The access check that a call starts with. -/
def Call.access (w : World H) (env : Env) (call : Call) : Except Revert Unit :=
  match call,call.required with
  | .transferAsset nftId _,_ => AssetRegistry.checkTransferAccess w env nftId
  | _,some (r,mask) => BelAccess.checkRoles w r env.sender mask
  | _,none => .ok ()

theorem Call.access_eq {w : World H} {env : Env} {call : Call}
    (h : ∀ nftId newOwner,call ≠ .transferAsset nftId newOwner) :
    call.access w env = match call.required with
      | some (r,mask) => BelAccess.checkRoles w r env.sender mask
      | none => .ok () := by
  cases call with
  | transferAsset nftId newOwner => exact absurd rfl (h nftId newOwner)
  | _ => rfl

/-- A denial of this call can only come from its access check. -/
def Denied (w : World H) (env : Env) (call : Call) (e : Revert) : Prop :=
  e.isDenial = true → call.access w env = .error e

/-- The transaction reverts with an error of the access checks. -/
def Tx.denied [DecidableEq H] (w : World H) (tx : Tx) : Bool :=
  match exec w tx with
  | .error e => e.isDenial
  | .ok _ => false

section Denials
variable {w : World H} {env : Env} {call : Call} {α : Type}

private theorem denied_of_body {e : Revert} (h : e.isDenial = false) : Denied w env call e := by
  intro hdenial
  rw [h] at hdenial
  cases hdenial

private theorem Denied.revertIf {c : Prop} [Decidable c] {e : Revert} {f : Unit → Except Revert α}
    (h : e.isDenial = false) (hf : Outcome (Denied w env call) (fun _ => True) (f ())) :
    Outcome (Denied w env call) (fun _ => True) (CheckedCalls.revertIf c e >>= f) :=
  Outcome.bind (outcome_revertIf fun _ => denied_of_body h) fun _ _ => hf

/-- The rule for a call that starts with its access check. -/
private theorem Denied.opened (call : Call) {f : Unit → Except Revert α}
    (hf : Outcome (Denied w env call) (fun _ => True) (f ())) :
    Outcome (Denied w env call) (fun _ => call.access w env = .ok ()) (call.access w env >>= f) :=
  Outcome.bind (P := fun _ => call.access w env = .ok ()) ⟨fun _ he _ => he,fun _ h => h⟩
    fun _ h => ⟨hf.error,fun _ _ => h⟩

private theorem existingAsset_denied {s : AssetRegistry.Storage H} {nftId : ℕ}
    {f : AssetRegistry.AssetRecord → Except Revert α}
    (hf : ∀ a,Outcome (Denied w env call) (fun _ => True) (f a)) :
    Outcome (Denied w env call) (fun _ => True) (AssetRegistry.existing s nftId >>= f) :=
  Outcome.bind (existing_outcome (denied_of_body rfl)) fun a _ => hf a

private theorem existingJob_denied {jobId : Bytes} {f : JobManager.JobRecord H → Except Revert α}
    (hf : ∀ j,Outcome (Denied w env call) (fun _ => True) (f j)) :
    Outcome (Denied w env call) (fun _ => True) (JobManager.existing w jobId >>= f) :=
  Outcome.bind (existingJob_outcome (denied_of_body rfl)) fun j _ => hf j

variable [DecidableEq H]

private theorem audit_denied {v : World H} {r : Registry} {entityType entityId action : Bytes} :
    Outcome (Denied w env call) (fun _ => True) (audit v r env entityType entityId action) := by
  refine audit_outcome ?_
  intro e haudit
  apply denied_of_body
  cases e with
  | NotRecorder _ => rfl
  | InvalidEntityType _ => rfl
  | InvalidEntityId => rfl
  | InvalidAction => rfl
  | _ => cases haudit

private theorem wire_denied {r : Registry} {identity_ roles_ audit_ : Address} :
    Outcome (Denied w env call)
      (fun _ => Call.access w env (.wire r identity_ roles_ audit_) = .ok ())
      (exec w ⟨env,.wire r identity_ roles_ audit_⟩) := by
  refine Outcome.bind (P := fun _ => True) ?_ fun _ _ => outcome_ok rfl
  refine Denied.revertIf rfl ?_
  refine Denied.revertIf rfl ?_
  exact Denied.revertIf rfl (outcome_ok trivial)

private theorem identity_denied (htarget : call.target = some .identity) :
    Outcome (Denied w env call) (fun _ => call.access w env = .ok ()) (exec w ⟨env,call⟩) := by
  cases call with
  | wire r a b c => exact wire_denied
  | createIdentity wallet did =>
    refine Denied.opened (.createIdentity wallet did) ?_
    refine Outcome.bind (register_outcome ?_ ?_ ?_) fun _ _ => audit_denied
    · exact denied_of_body rfl
    · exact denied_of_body rfl
    · exact denied_of_body rfl
  | activateWallet wallet =>
    refine Denied.opened (.activateWallet wallet) ?_
    refine Denied.revertIf rfl ?_
    exact Denied.revertIf rfl audit_denied
  | revokeWallet wallet reason =>
    refine Denied.opened (.revokeWallet wallet reason) ?_
    refine Denied.revertIf rfl ?_
    refine Denied.revertIf rfl ?_
    exact Denied.revertIf rfl audit_denied
  | _ => simp [Call.target] at htarget

private theorem roles_denied (htarget : call.target = some .roles) :
    Outcome (Denied w env call) (fun _ => call.access w env = .ok ()) (exec w ⟨env,call⟩) := by
  cases call with
  | wire r a b c => exact wire_denied
  | assignRole identity role =>
    refine Denied.opened (.assignRole identity role) ?_
    refine Denied.revertIf rfl ?_
    exact Denied.revertIf rfl audit_denied
  | revokeRole identity role =>
    refine Denied.opened (.revokeRole identity role) ?_
    refine Denied.revertIf rfl ?_
    refine Denied.revertIf rfl ?_
    refine Outcome.bind (adminCountAfterRevoke_outcome ?_ fun _ => ?_) fun _ _ => audit_denied
    · exact denied_of_body rfl
    · exact denied_of_body rfl
  | _ => simp [Call.target] at htarget

private theorem mintAsset_denied {assetId : Bytes} {owner : Address} :
    Outcome (Denied w env (.mintAsset assetId owner))
      (fun _ => Call.access w env (.mintAsset assetId owner) = .ok ())
      (exec w ⟨env,.mintAsset assetId owner⟩) := by
  simp only [exec,AssetRegistry.mintAsset,bind_assoc,pure_bind]
  refine Denied.opened (.mintAsset assetId owner) ?_
  refine Denied.revertIf rfl ?_
  refine Denied.revertIf rfl ?_
  refine Denied.revertIf rfl ?_
  refine Outcome.bind (outcome_checkedAdd fun _ => denied_of_body rfl) fun _ _ => ?_
  refine Outcome.bind (mint_outcome fun _ => denied_of_body rfl) fun _ _ => ?_
  exact audit_denied.bind fun _ _ => outcome_ok trivial

private theorem transferAsset_denied {nftId : ℕ} {newOwner : Address} :
    Outcome (Denied w env (.transferAsset nftId newOwner))
      (fun _ => Call.access w env (.transferAsset nftId newOwner) = .ok ())
      (exec w ⟨env,.transferAsset nftId newOwner⟩) := by
  refine Denied.opened (.transferAsset nftId newOwner) ?_
  refine existingAsset_denied fun a => ?_
  refine Denied.revertIf rfl ?_
  refine Denied.revertIf rfl ?_
  refine Denied.revertIf rfl ?_
  refine Outcome.bind (ownerOf_outcome fun _ => denied_of_body rfl) fun source _ => ?_
  refine Denied.revertIf rfl ?_
  exact Outcome.bind (transfer_outcome fun _ => denied_of_body rfl) fun _ _ => audit_denied

private theorem assets_denied (htarget : call.target = some .assets) :
    Outcome (Denied w env call) (fun _ => call.access w env = .ok ()) (exec w ⟨env,call⟩) := by
  cases call with
  | wire r a b c => exact wire_denied
  | mintAsset assetId owner => exact mintAsset_denied
  | transferAsset nftId newOwner => exact transferAsset_denied
  | setTransferGrant nftId actor expiresAt active grantId =>
    refine Denied.opened (.setTransferGrant nftId actor expiresAt active grantId) ?_
    refine existingAsset_denied fun a => ?_
    exact Denied.revertIf rfl audit_denied
  | changeAssetState nftId newState =>
    refine Denied.opened (.changeAssetState nftId newState) ?_
    refine existingAsset_denied fun a => ?_
    refine Outcome.bind (parseState_outcome (denied_of_body rfl)) fun _ _ => ?_
    exact Denied.revertIf rfl audit_denied
  | attachComponent parent component =>
    refine Denied.opened (.attachComponent parent component) ?_
    refine Denied.revertIf rfl ?_
    refine existingAsset_denied fun p => ?_
    refine existingAsset_denied fun c => ?_
    refine Denied.revertIf rfl ?_
    refine Denied.revertIf rfl ?_
    refine Denied.revertIf rfl ?_
    refine Outcome.bind (ancestorLoop_outcome ?_ ?_) fun _ _ => audit_denied
    · exact denied_of_body rfl
    · exact denied_of_body rfl
  | removeComponent parent component =>
    refine Denied.opened (.removeComponent parent component) ?_
    refine existingAsset_denied fun p => ?_
    refine existingAsset_denied fun c => ?_
    refine Denied.revertIf rfl ?_
    exact Outcome.bind (detach_outcome fun _ => denied_of_body rfl) fun _ _ => audit_denied
  | approve _ _ => exact outcome_error (denied_of_body rfl)
  | setApprovalForAll _ _ => exact outcome_error (denied_of_body rfl)
  | transferFrom _ _ _ => exact outcome_error (denied_of_body rfl)
  | safeTransferFrom _ _ _ _ => exact outcome_error (denied_of_body rfl)
  | _ => simp [Call.target] at htarget

private theorem jobs_denied (htarget : call.target = some .jobs) :
    Outcome (Denied w env call) (fun _ => call.access w env = .ok ()) (exec w ⟨env,call⟩) := by
  cases call with
  | wire r a b c => exact wire_denied
  | createJob jobId assetNftId =>
    refine Denied.opened (.createJob jobId assetNftId) ?_
    refine Denied.revertIf rfl ?_
    refine Denied.revertIf rfl ?_
    refine Denied.revertIf rfl ?_
    refine Outcome.bind (stateOf_outcome (denied_of_body rfl)) fun _ _ => ?_
    exact Denied.revertIf rfl audit_denied
  | assignJob jobId technician =>
    refine Denied.opened (.assignJob jobId technician) ?_
    refine existingJob_denied fun j => ?_
    refine Denied.revertIf rfl ?_
    exact Denied.revertIf rfl audit_denied
  | startJob jobId =>
    refine Denied.opened (.startJob jobId) ?_
    refine existingJob_denied fun j => ?_
    refine Denied.revertIf rfl ?_
    exact Denied.revertIf rfl audit_denied
  | completeJob jobId evidenceHash =>
    refine Denied.opened (.completeJob jobId evidenceHash) ?_
    refine existingJob_denied fun j => ?_
    refine Denied.revertIf rfl ?_
    refine Denied.revertIf rfl ?_
    exact Denied.revertIf rfl audit_denied
  | approveJob jobId =>
    refine Denied.opened (.approveJob jobId) ?_
    refine existingJob_denied fun j => ?_
    refine Denied.revertIf rfl ?_
    exact Denied.revertIf rfl audit_denied
  | rejectJob jobId reason =>
    refine Denied.opened (.rejectJob jobId reason) ?_
    refine Denied.revertIf rfl ?_
    refine existingJob_denied fun j => ?_
    refine Denied.revertIf rfl ?_
    refine Denied.revertIf rfl ?_
    refine Outcome.bind (outcome_checkedAdd fun _ => denied_of_body rfl) fun _ _ => ?_
    exact audit_denied
  | _ => simp [Call.target] at htarget

private theorem validators_denied (htarget : call.target = some .validators) :
    Outcome (Denied w env call) (fun _ => call.access w env = .ok ()) (exec w ⟨env,call⟩) := by
  cases call with
  | wire r a b c => exact wire_denied
  | addValidator validator publicKey signingPublicKey activationHeight =>
    refine Denied.opened (.addValidator validator publicKey signingPublicKey activationHeight) ?_
    refine Denied.revertIf rfl ?_
    refine Denied.revertIf rfl ?_
    refine Denied.revertIf rfl ?_
    exact Denied.revertIf rfl audit_denied
  | removeValidator validator removalHeight reason =>
    refine Denied.opened (.removeValidator validator removalHeight reason) ?_
    refine Denied.revertIf rfl ?_
    refine Denied.revertIf rfl ?_
    refine Denied.revertIf rfl ?_
    refine Denied.revertIf rfl ?_
    refine Outcome.bind (outcome_checkedSub fun _ => denied_of_body rfl) fun _ _ => ?_
    exact Denied.revertIf rfl audit_denied
  | restoreValidator validator reason =>
    refine Denied.opened (.restoreValidator validator reason) ?_
    refine Denied.revertIf rfl ?_
    refine Denied.revertIf rfl ?_
    refine Denied.revertIf rfl ?_
    exact Denied.revertIf rfl audit_denied
  | cancelScheduledRemoval validator reason =>
    refine Denied.opened (.cancelScheduledRemoval validator reason) ?_
    refine Denied.revertIf rfl ?_
    exact Denied.revertIf rfl audit_denied
  | _ => simp [Call.target] at htarget

/-- A call on one of the five registries passes its access check first, and is denied there or not
at all. -/
theorem exec_access {tx : Tx} (htarget : tx.call.target ≠ none) :
    Outcome (Denied w tx.env tx.call) (fun _ => tx.call.access w tx.env = .ok ()) (exec w tx) := by
  cases htarget' : tx.call.target with
  | none => exact absurd htarget' htarget
  | some r =>
    cases r with
    | identity => exact identity_denied htarget'
    | roles => exact roles_denied htarget'
    | assets => exact assets_denied htarget'
    | jobs => exact jobs_denied htarget'
    | validators => exact validators_denied htarget'

/-- A call that passes its access check is not denied later. -/
theorem not_denied {tx : Tx} (htarget : tx.call.target ≠ none)
    (haccess : tx.call.access w tx.env = .ok ()) : tx.denied w = false := by
  unfold Tx.denied
  cases he : exec w tx with
  | ok w' => rfl
  | error e =>
    by_contra hdenial
    have herror := (exec_access htarget).error e he (by simpa using hdenial)
    rw [haccess] at herror
    cases herror

end Denials
/-- The state in which the DID holds one more role. The counter of administrators may be any. -/
def World.withRole (w : World H) [DecidableEq H] (did : Bytes) (r : Role) (adminCount : ℕ) :
    World H :=
  { w with roles := { w.roles with
      roles := Function.update w.roles.roles (keccak256 did) (rolesOfIdentity w did ||| r.bit)
      adminCount } }

/-- The added role is not ENGINEER, or the call transfers no asset for which the caller has no
active grant. -/
def KeepsTransfers (w : World H) (tx : Tx) (r : Role) : Prop :=
  ∀ nftId newOwner,tx.call = .transferAsset nftId newOwner → r = .ENGINEER →
    AssetRegistry.hasActiveTransferGrant w.assets tx.env nftId tx.env.sender = true

section OneMoreRole
variable [DecidableEq H] {w w' : World H} {a : Address} {r : Role} {n : ℕ}

private theorem rolesOf_withRole (hi : IdentityInvariant w.identity) (ha : Active w.identity a) :
    rolesOf (w.withRole (identityOf w.identity a) r n) a = rolesOf w a ||| r.bit := by
  simp only [rolesOf,World.withRole,hi.keyOf_active ha,Function.update_self,rolesOfIdentity]

private theorem authorised_withRole (hi : IdentityInvariant w.identity) {s : Registry}
    {mask : Mask} (h : Authorised w s a mask) :
    Authorised (w.withRole (identityOf w.identity a) r n) s a mask := by
  refine ⟨?_,h.active,?_⟩
  · cases s <;> exact h.wired
  · rw [rolesOf_withRole hi h.active,BitVec.and_or_distrib_right]
    intro hzero
    exact h.roles (BitVec.or_eq_zero_iff.mp hzero).1

private theorem isEngineer_withRole (hi : IdentityInvariant w.identity) (ha : Active w.identity a) :
    BelAccess.hasAnyRole (w.withRole (identityOf w.identity a) r n) a BelRoles.ENGINEER =
      (BelAccess.hasAnyRole w a BelRoles.ENGINEER || decide (r = .ENGINEER)) := by
  simp only [BelAccess.hasAnyRole,rolesOf_withRole hi ha,BelRoles.ENGINEER,ne_eq,
    Mask.and_bit_eq_zero,Mask.or_bit_has,Bool.not_eq_false,Bool.decide_eq_true]

/-- A transferring role stays one unless ENGINEER is added without a grant. -/
private theorem transfer_withRole (hi : IdentityInvariant w.identity) {env : Env} {nftId : ℕ}
    (h : TransferAuthorised w env nftId) :
    TransferAuthorised (w.withRole (identityOf w.identity env.sender) r n) env nftId ↔
      (r = .ENGINEER →
        AssetRegistry.hasActiveTransferGrant w.assets env nftId env.sender = true) := by
  rcases h with ⟨hauth,hgrant⟩ | ⟨hnot,hauth⟩
  · exact ⟨fun _ _ => hgrant,fun _ => .inl ⟨authorised_withRole hi hauth,hgrant⟩⟩
  · have hengineer := isEngineer_withRole (r := r) (n := n) hi hauth.active
    rw [hnot,Bool.false_or] at hengineer
    constructor
    · rintro (⟨-,hgrant⟩ | ⟨hnone,-⟩) hr
      · exact hgrant
      · rw [hengineer] at hnone
        simp [hr] at hnone
    · intro hgrant
      by_cases hr : r = .ENGINEER
      · refine .inl ⟨⟨?_,hauth.active,?_⟩,hgrant hr⟩
        · exact hauth.wired
        · simpa [BelAccess.hasAnyRole,hr] using hengineer
      · refine .inr ⟨?_,authorised_withRole hi hauth⟩
        simp [hengineer,hr]

/-- Without a grant a caller with ENGINEER is turned away. -/
private theorem transfer_denied (hi : IdentityInvariant w.identity) {env : Env} {nftId : ℕ}
    {newOwner : Address} (h : TransferAuthorised w env nftId)
    (hgrant : AssetRegistry.hasActiveTransferGrant w.assets env nftId env.sender = false) :
    exec (w.withRole (identityOf w.identity env.sender) .ENGINEER n)
      ⟨env,.transferAsset nftId newOwner⟩ =
        .error (.TransferNotAuthorized env.sender nftId) := by
  obtain ⟨hauth,hgranted⟩ | ⟨-,hauth⟩ := h
  · rw [hgrant] at hgranted
    cases hgranted
  have hengineer := isEngineer_withRole (r := .ENGINEER) (n := n) hi hauth.active
  simp only [decide_true,Bool.or_true] at hengineer
  have hcheck : BelAccess.checkRoles (w.withRole (identityOf w.identity env.sender) .ENGINEER n)
      .assets env.sender BelRoles.ENGINEER = .ok () := by
    refine checkRoles_eq_ok.mpr ⟨hauth.wired,hauth.active,?_⟩
    simpa [BelAccess.hasAnyRole] using hengineer
  have haccess : AssetRegistry.checkTransferAccess
      (w.withRole (identityOf w.identity env.sender) .ENGINEER n) env nftId =
        .error (.TransferNotAuthorized env.sender nftId) := by
    unfold AssetRegistry.checkTransferAccess
    rw [if_pos hengineer,hcheck,ok_bind]
    exact revertIf_eq_error.mpr ⟨hgrant,rfl⟩
  simp only [exec,AssetRegistry.transferAsset,haccess]
  rfl

/-- Where only its caller's roles grow, a call passes the access check again unless it transfers. -/
private theorem access_withRole (hi : IdentityInvariant w.identity) {env : Env} {call : Call}
    (hother : ∀ nftId newOwner,call ≠ .transferAsset nftId newOwner)
    (h : call.access w env = .ok ()) :
    call.access (w.withRole (identityOf w.identity env.sender) r n) env = .ok () := by
  rw [Call.access_eq hother] at h ⊢
  cases hrequired : call.required with
  | none => rfl
  | some required =>
    rw [hrequired] at h
    exact checkRoles_eq_ok.mpr (authorised_withRole hi (checkRoles_eq_ok.mp h))

/-- A further role takes a call of an active caller away exactly when the call transfers an asset,
the role is ENGINEER and the caller has no active grant for the asset. -/
theorem roles_monotone_iff (hw : Reachable w) (tx : Tx) (htarget : tx.call.target ≠ none)
    (hs : exec w tx = .ok w') (r : Role) (adminCount : ℕ) :
    tx.denied (w.withRole (identityOf w.identity tx.env.sender) r adminCount) = false ↔
      KeepsTransfers w tx r := by
  have hpassed := (exec_access htarget).ok w' hs
  have hi := hw.identity
  constructor
  · rintro hnever nftId newOwner hcall rfl
    obtain ⟨env,rfl⟩ : ∃ env,tx = ⟨env,.transferAsset nftId newOwner⟩ := ⟨tx.env,by rw [← hcall]⟩
    by_contra hgrant
    rw [Tx.denied,transfer_denied hi (checkTransferAccess_eq_ok.mp hpassed) (by simpa using hgrant)]
      at hnever
    cases hnever
  · intro hkeeps
    have haccess : tx.call.access (w.withRole (identityOf w.identity tx.env.sender) r adminCount)
        tx.env = .ok () := by
      by_cases htransfer : ∃ nftId newOwner,tx.call = .transferAsset nftId newOwner
      · obtain ⟨nftId,newOwner,hcall⟩ := htransfer
        rw [hcall] at hpassed ⊢
        exact checkTransferAccess_eq_ok.mpr
          ((transfer_withRole hi (checkTransferAccess_eq_ok.mp hpassed)).mpr
            (hkeeps nftId newOwner hcall))
      · exact access_withRole hi (fun nftId newOwner hcall => htransfer ⟨nftId,newOwner,hcall⟩)
          hpassed
    exact not_denied htarget haccess

end OneMoreRole

section Prototype

/-- A manager is registered, and an asset minted to the administrator. -/
def managerTxs : List Tx :=
  [txOf 0xad 2 (.createIdentity 0xe1 (utf8 "DID:BEL:MGR")),
   txOf 0xad 3 (.activateWallet 0xe1),
   txOf 0xad 4 (.assignRole 0xe1 .MANAGER),
   txOf 0xad 5 (.mintAsset (utf8 "RADAR-1") 0xad)]

/-- The manager transfers the asset. -/
def managerTransfer : Tx := txOf 0xe1 9 (.transferAsset 1 0xe1)

private theorem managerTransfer_succeeds :
    ∃ w',exec (attemptAll exec prototypeWorld managerTxs) managerTransfer = .ok w' :=
  exists_eq_ok (by decide +kernel)

/-- A manager who is made an engineer too may not transfer the asset any more. -/
theorem engineer_role_ends_transfers :
    ∃ w w' : World (Option Bytes),Reachable w ∧ exec w managerTransfer = .ok w' ∧
      managerTransfer.call.target ≠ none ∧
      managerTransfer.denied (w.withRole (identityOf w.identity managerTransfer.env.sender)
        .ENGINEER w.roles.adminCount) = true ∧
      managerTransfer.denied (attempt exec w (txOf 0xad 8 (.assignRole 0xe1 .ENGINEER))) =
        true := by
  obtain ⟨w',hs⟩ := managerTransfer_succeeds
  exact ⟨_,w',prototype_reachable managerTxs,hs,by decide,by decide +kernel,by decide +kernel⟩

theorem roles_monotone_auditor :
    managerTransfer.denied ((attemptAll exec prototypeWorld managerTxs).withRole
      (identityOf (attemptAll exec prototypeWorld managerTxs).identity managerTransfer.env.sender)
      .AUDITOR 1) = false := by
  obtain ⟨w',hs⟩ := managerTransfer_succeeds
  exact (roles_monotone_iff (prototype_reachable managerTxs) managerTransfer (by decide) hs .AUDITOR
    1).mpr (fun _ _ _ => nofun)

end Prototype
end BelLedger
