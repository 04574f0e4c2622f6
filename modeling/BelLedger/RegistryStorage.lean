import BelLedger.ContractTypes

/-!
# Storage of the registry set

One record per contract, with a mapping as a total function to its default value. The references a
contract receives in `wire` are stored, but a call through them is resolved to the registry of the
set: the deployment wires every contract to its own set, and `wire` succeeds only once.
-/
namespace BelLedger

/-- Storage of `BelAccess`, present in each of the five registries. -/
structure Access where
  deployer : Address
  wired : Bool := false
  identityRegistry : Address := 0
  roleRegistry : Address := 0
  auditRegistry : Address := 0
  deriving DecidableEq

namespace IdentityRegistry

def MAX_DID_LENGTH : ℕ := 128
def MAX_REASON_LENGTH : ℕ := 256

structure WalletRecord (H : Type) where
  identityKey : H
  status : WalletStatus
  registeredAt : ℕ
  activatedAt : ℕ
  revokedAt : ℕ
  revokedReason : Bytes
  deriving DecidableEq

structure Storage (H : Type) where
  access : Access
  wallets : Address → WalletRecord H
  dids : H → Bytes
  walletsOfIdentity : H → List Address

end IdentityRegistry

namespace RoleRegistry

structure Storage (H : Type) where
  access : Access
  roles : H → Mask
  adminCount : ℕ

end RoleRegistry

namespace AssetRegistry

def MAX_ASSET_ID_LENGTH : ℕ := 128

structure AssetRecord where
  assetId : Bytes
  custodian : Address
  parent : ℕ
  state : AssetState
  mintedAt : ℕ
  deriving DecidableEq

structure TransferGrant where
  expiresAt : ℕ
  active : Bool
  deriving DecidableEq

/-- `owners` is the owner table of the inherited ERC-721 contract, zero for an absent token. -/
structure Storage (H : Type) where
  access : Access
  nextId : ℕ
  assets : ℕ → AssetRecord
  idByAssetId : H → ℕ
  components : ℕ → List ℕ
  componentIndex : ℕ → ℕ
  transferGrants : ℕ → Address → TransferGrant
  owners : ℕ → Address

end AssetRegistry

namespace JobManager

def MAX_JOB_ID_LENGTH : ℕ := 128
def MAX_REASON_LENGTH : ℕ := 256

structure JobRecord (H : Type) where
  jobId : Bytes
  assetNftId : ℕ
  createdBy : Address
  technician : Address
  technicianKey : H
  verifier : Address
  status : ChainJobStatus
  evidenceHash : Bytes32
  createdAt : ℕ
  completedAt : ℕ
  verifiedAt : ℕ
  rejectionCount : ℕ
  lastRejectionReason : Bytes
  deriving DecidableEq

structure Storage (H : Type) where
  access : Access
  jobs : H → JobRecord H

end JobManager

namespace AuditRegistry

def MAX_FIELD_LENGTH : ℕ := 128

structure AuditRecord where
  entityType : Bytes
  entityId : Bytes
  action : Bytes
  actor : Address
  recorder : Address
  timestamp : ℕ
  blockNumber : ℕ
  deriving DecidableEq

structure Storage (H : Type) where
  isRecorder : Address → Bool
  recordCount : ℕ
  records : H → AuditRecord
  trails : H → List H

end AuditRegistry

namespace ValidatorRegistry

structure ValidatorRecord where
  registered : Bool
  validator : Address
  publicKey : Bytes
  signingPublicKey : Bytes
  activationHeight : ℕ
  removalHeight : ℕ
  registeredAt : ℕ
  deriving DecidableEq

structure Storage where
  access : Access
  minimumPopulation : ℕ
  records : Address → ValidatorRecord
  validators : List Address
  bootstrapValidators : List Address
  isBootstrap : Address → Bool

end ValidatorRegistry

/-- The five registries that inherit `BelAccess`. -/
inductive Registry
  | identity | roles | assets | jobs | validators
  deriving DecidableEq, Repr

/-- Where the contracts of one deployment live. -/
structure Addresses where
  identity : Address
  roles : Address
  assets : Address
  jobs : Address
  validators : Address
  audit : Address
  deriving DecidableEq

def Addresses.of (a : Addresses) : Registry → Address
  | .identity => a.identity
  | .roles => a.roles
  | .assets => a.assets
  | .jobs => a.jobs
  | .validators => a.validators

/-- The state of the whole registry set. -/
structure World (H : Type) where
  addr : Addresses
  identity : IdentityRegistry.Storage H
  roles : RoleRegistry.Storage H
  assets : AssetRegistry.Storage H
  jobs : JobManager.Storage H
  audit : AuditRegistry.Storage H
  validators : ValidatorRegistry.Storage

namespace World

variable {H : Type}

def access (w : World H) : Registry → Access
  | .identity => w.identity.access
  | .roles => w.roles.access
  | .assets => w.assets.access
  | .jobs => w.jobs.access
  | .validators => w.validators.access

def setAccess (w : World H) (a : Access) : Registry → World H
  | .identity => { w with identity := { w.identity with access := a } }
  | .roles => { w with roles := { w.roles with access := a } }
  | .assets => { w with assets := { w.assets with access := a } }
  | .jobs => { w with jobs := { w.jobs with access := a } }
  | .validators => { w with validators := { w.validators with access := a } }

end World
end BelLedger
