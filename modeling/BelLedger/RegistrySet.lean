import BelLedger.IdentityContracts
import BelLedger.JobManager
import BelLedger.TransitionRuns
import BelLedger.ValidatorRegistry

/-! # The deployed registry set: all entry points, the deployment script, and runs -/
namespace BelLedger
open CheckedCalls TransitionRuns

variable {H : Type} [Keccak H] [DecidableEq H]

/-- Every state-changing entry point of the six contracts. -/
inductive Call
  | wire (target : Registry) (identity_ roles_ audit_ : Address)
  | createIdentity (wallet : Address) (did : Bytes)
  | activateWallet (wallet : Address)
  | revokeWallet (wallet : Address) (reason : Bytes)
  | assignRole (identity : Address) (role : Role)
  | revokeRole (identity : Address) (role : Role)
  | mintAsset (assetId : Bytes) (owner : Address)
  | transferAsset (nftId : ℕ) (newOwner : Address)
  | setTransferGrant (nftId : ℕ) (actor : Address) (expiresAt : ℕ) (active : Bool) (grantId : Bytes)
  | changeAssetState (nftId : ℕ) (newState : Bytes)
  | attachComponent (parentNftId componentNftId : ℕ)
  | removeComponent (parentNftId componentNftId : ℕ)
  | approve (operator : Address) (nftId : ℕ)
  | setApprovalForAll (operator : Address) (approved : Bool)
  | transferFrom (source receiver : Address) (nftId : ℕ)
  | safeTransferFrom (source receiver : Address) (nftId : ℕ) (data : Option Bytes)
  | createJob (jobId : Bytes) (assetNftId : ℕ)
  | assignJob (jobId : Bytes) (technician : Address)
  | startJob (jobId : Bytes)
  | completeJob (jobId : Bytes) (evidenceHash : Bytes32)
  | approveJob (jobId : Bytes)
  | rejectJob (jobId reason : Bytes)
  | addValidator (validator : Address) (publicKey signingPublicKey : Bytes) (activationHeight : ℕ)
  | removeValidator (validator : Address) (removalHeight : ℕ) (reason : Bytes)
  | restoreValidator (validator : Address) (reason : Bytes)
  | cancelScheduledRemoval (validator : Address) (reason : Bytes)
  | recordAudit (entityType entityId action : Bytes)
  | recordAuditFor (actor : Address) (entityType entityId action : Bytes)
  deriving DecidableEq

structure Tx where
  env : Env
  call : Call
  deriving DecidableEq

/-- One transaction on the registry set. -/
def exec (w : World H) (tx : Tx) : Except Revert (World H) :=
  let env := tx.env
  match tx.call with
  | .wire target identity_ roles_ audit_ => do
    let access ← BelAccess.wire (w.access target) env identity_ roles_ audit_
    pure (w.setAccess access target)
  | .createIdentity wallet did => IdentityRegistry.createIdentity w env wallet did
  | .activateWallet wallet => IdentityRegistry.activateWallet w env wallet
  | .revokeWallet wallet reason => IdentityRegistry.revokeWallet w env wallet reason
  | .assignRole identity role => RoleRegistry.assignRole w env identity role
  | .revokeRole identity role => RoleRegistry.revokeRole w env identity role
  | .mintAsset assetId owner => do
    let minted ← AssetRegistry.mintAsset w env assetId owner
    pure minted.2
  | .transferAsset nftId newOwner => AssetRegistry.transferAsset w env nftId newOwner
  | .setTransferGrant nftId actor expiresAt active grantId =>
    AssetRegistry.setTransferGrant w env nftId actor expiresAt active grantId
  | .changeAssetState nftId newState => AssetRegistry.changeAssetState w env nftId newState
  | .attachComponent parent component => AssetRegistry.attachComponent w env parent component
  | .removeComponent parent component => AssetRegistry.removeComponent w env parent component
  | .approve _ _ => AssetRegistry.directTransfer
  | .setApprovalForAll _ _ => AssetRegistry.directTransfer
  | .transferFrom _ _ _ => AssetRegistry.directTransfer
  | .safeTransferFrom _ _ _ _ => AssetRegistry.directTransfer
  | .createJob jobId assetNftId => JobManager.createJob w env jobId assetNftId
  | .assignJob jobId technician => JobManager.assignJob w env jobId technician
  | .startJob jobId => JobManager.startJob w env jobId
  | .completeJob jobId evidenceHash => JobManager.completeJob w env jobId evidenceHash
  | .approveJob jobId => JobManager.approveJob w env jobId
  | .rejectJob jobId reason => JobManager.rejectJob w env jobId reason
  | .addValidator validator publicKey signingPublicKey activationHeight =>
    ValidatorRegistry.addValidator w env validator publicKey signingPublicKey activationHeight
  | .removeValidator validator removalHeight reason =>
    ValidatorRegistry.removeValidator w env validator removalHeight reason
  | .restoreValidator validator reason => ValidatorRegistry.restoreValidator w env validator reason
  | .cancelScheduledRemoval validator reason =>
    ValidatorRegistry.cancelScheduledRemoval w env validator reason
  | .recordAudit entityType entityId action =>
    AuditRegistry.recordAudit w env entityType entityId action
  | .recordAuditFor actor entityType entityId action =>
    AuditRegistry.recordAuditFor w env env.sender actor entityType entityId action

namespace AuditRegistry

/-- The constructor's loop over the recorders. -/
def addRecorders : List Address → (Address → Bool) → Except Revert (Address → Bool)
  | [], isRecorder => .ok isRecorder
  | r :: rs, isRecorder => do
    revertIf (r = 0) .ZeroAddress
    addRecorders rs (Function.update isRecorder r true)

/-- The constructor. -/
def deploy (identity_ roles_ : Address) (recorders : List Address) : Except Revert (Storage H) := do
  revertIf (identity_ = 0 ∨ roles_ = 0) .ZeroAddress
  let isRecorder ← addRecorders recorders (fun _ => false)
  pure { isRecorder
         recordCount := 0
         records := fun _ => ⟨[], [], [], 0, 0, 0, 0⟩
         trails := fun _ => [] }

end AuditRegistry

/-- The inputs of a deployment. -/
structure Deployment where
  env : Env
  addr : Addresses
  bootstrapAdmin : Address
  bootstrapDid : Bytes
  bootstrap : List Address
  minimumPopulation : ℕ
  deriving DecidableEq

/-- `wire(address(d.identity), address(d.roles), address(d.audit))` on one contract. -/
def Deployment.wire (d : Deployment) (a : Access) : Except Revert Access :=
  BelAccess.wire a d.env d.addr.identity d.addr.roles d.addr.audit

/-- `_deployWithBootstrap`: constructors in order, then wiring. The contracts' addresses are inputs
because the chain chooses them. -/
def deploy (d : Deployment) : Except Revert (World H) := do
  revertIf (d.minimumPopulation < 70 ∧ d.minimumPopulation ≠ 4)
    (.Reason "invalid BEL minimum population")
  revertIf (d.bootstrap.length < d.minimumPopulation) (.Reason "insufficient bootstrap validators")
  let identity : IdentityRegistry.Storage H ←
    IdentityRegistry.deploy d.env d.bootstrapAdmin d.bootstrapDid
  let roles ← RoleRegistry.deploy d.env d.addr.identity identity d.bootstrapAdmin
  let assets : AssetRegistry.Storage H := AssetRegistry.deploy d.env
  let jobs : JobManager.Storage H ← JobManager.deploy d.env d.addr.assets
  let validators ← ValidatorRegistry.deploy d.env d.minimumPopulation d.bootstrap
  let audit : AuditRegistry.Storage H ← AuditRegistry.deploy d.addr.identity d.addr.roles
    [d.addr.identity, d.addr.roles, d.addr.assets, d.addr.jobs, d.addr.validators]
  let identityAccess ← d.wire identity.access
  let rolesAccess ← d.wire roles.access
  let assetsAccess ← d.wire assets.access
  let jobsAccess ← d.wire jobs.access
  let validatorsAccess ← d.wire validators.access
  pure { addr := d.addr
         identity := { identity with access := identityAccess }
         roles := { roles with access := rolesAccess }
         assets := { assets with access := assetsAccess }
         jobs := { jobs with access := jobsAccess }
         audit
         validators := { validators with access := validatorsAccess } }

/-- The states some deployment can reach, with the successful transactions that lead there. -/
def ReachedBy (hist : List (World H × Tx)) (w : World H) : Prop :=
  ∃ d w₀,deploy d = .ok w₀ ∧ Run exec w₀ hist w

def Reachable (w : World H) : Prop := ∃ hist,ReachedBy hist w

end BelLedger
