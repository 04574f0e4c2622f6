import BelLedger.CheckedCalls
import Mathlib.Logic.Function.Basic

/-!
# Values, errors and access control shared by the registry contracts

Addresses and role masks are machine words. A contract string is its byte string. A `bytes32`
that only ever holds a keccak256 digest is a value of an abstract type `H`: the 256-bit type
cannot carry an injective digest of all byte strings, while the contracts use digests as mapping
keys and compare them with zero, and nothing else.
-/
namespace BelLedger

abbrev Address := BitVec 160
abbrev Bytes := List UInt8
abbrev Bytes32 := BitVec 256
abbrev Mask := BitVec 256

/-- The bytes of a string literal or of an ABI-encoded JavaScript string. -/
def utf8 (s : String) : Bytes := s.toByteArray.data.toList

theorem utf8_injective : Function.Injective utf8 := by
  intro a b h
  apply String.toByteArray_inj.mp
  apply ByteArray.ext
  exact Array.toList_inj.mp h

class Keccak (H : Type) extends Zero H where
  keccak256 : Bytes → H

export Keccak (keccak256)

/-- `msg.sender` and the block a call is executed in. -/
structure Env where
  sender : Address
  timestamp : ℕ
  number : ℕ
  chainid : ℕ
  deriving DecidableEq

/-- The cast `uint64(x)`. -/
def uint64 (n : ℕ) : ℕ := n % 2 ^ 64

/-- `IRoleRegistry.Role`, in declaration order. -/
inductive Role
  | ADMIN | MANAGER | ENGINEER | TECHNICIAN | AUDITOR | ISSUER | VERIFIER
  deriving DecidableEq, Repr

namespace Role

def index : Role → ℕ
  | ADMIN => 0 | MANAGER => 1 | ENGINEER => 2 | TECHNICIAN => 3
  | AUDITOR => 4 | ISSUER => 5 | VERIFIER => 6

/-- `RoleRegistry._bit`. -/
def bit (r : Role) : Mask := 1#256 <<< r.index

theorem index_lt (r : Role) : r.index < 256 := by cases r <;> decide

theorem index_injective : Function.Injective index := by
  intro a b
  cases a <;> cases b <;> simp [index]

end Role

namespace BelRoles

def ADMIN : Mask := Role.ADMIN.bit
def MANAGER : Mask := Role.MANAGER.bit
def ENGINEER : Mask := Role.ENGINEER.bit
def TECHNICIAN : Mask := Role.TECHNICIAN.bit
def AUDITOR : Mask := Role.AUDITOR.bit
def ISSUER : Mask := Role.ISSUER.bit
def VERIFIER : Mask := Role.VERIFIER.bit

def CREATE_EMPLOYEE : Mask := ADMIN
def REVOKE_WALLET : Mask := ADMIN
def ACTIVATE_WALLET : Mask := ADMIN ||| ISSUER
def REGISTER_ASSET : Mask := ADMIN ||| MANAGER ||| ENGINEER ||| ISSUER
def CREATE_JOB : Mask := MANAGER ||| ENGINEER
def ASSIGN_TECHNICIAN : Mask := MANAGER ||| ENGINEER
def PERFORM_MAINTENANCE : Mask := ENGINEER ||| TECHNICIAN
def VERIFY_MAINTENANCE : Mask := MANAGER ||| ENGINEER ||| AUDITOR ||| VERIFIER
def TRANSFER_ASSET : Mask := ADMIN ||| MANAGER
def MANAGE_ROLES : Mask := ADMIN
def MANAGE_ASSET : Mask := REGISTER_ASSET

end BelRoles

/-- A mask holds a role when the role's bit is set. -/
def Mask.has (m : Mask) (r : Role) : Bool := m.getLsbD r.index

theorem Role.bit_eq_twoPow (r : Role) : r.bit = BitVec.twoPow 256 r.index := rfl

@[simp] theorem Mask.and_bit_eq_zero (m : Mask) (r : Role) : m &&& r.bit = 0 ↔ m.has r = false := by
  rw [Role.bit_eq_twoPow, BitVec.and_twoPow]
  unfold Mask.has
  cases h : m.getLsbD r.index with
  | false => simp
  | true =>
    simp only [if_true, Bool.true_eq_false, iff_false]
    intro hz
    have hb := congrArg (fun v : Mask => v.getLsbD r.index) hz
    simp [r.index_lt] at hb

@[simp] theorem Mask.zero_has (r : Role) : Mask.has 0 r = false := by simp [Mask.has]

@[simp] theorem Mask.bit_has (r t : Role) : Mask.has r.bit t = decide (r = t) := by
  rw [Role.bit_eq_twoPow, Mask.has, BitVec.getLsbD_twoPow]
  simp [r.index_lt, Role.index_injective.eq_iff]

@[simp] theorem Mask.or_bit_has (m : Mask) (r t : Role) :
    Mask.has (m ||| r.bit) t = (m.has t || decide (r = t)) := by
  rw [← Mask.bit_has r t]
  simp [Mask.has]

@[simp] theorem Mask.clear_bit_has (m : Mask) (r t : Role) :
    Mask.has (m &&& ~~~ r.bit) t = (m.has t && !decide (r = t)) := by
  rw [← Mask.bit_has r t]
  simp [Mask.has, t.index_lt]

inductive WalletStatus
  | NONE | PENDING | ACTIVE | REVOKED
  deriving DecidableEq, Repr

inductive AssetState
  | NONE | ACTIVE | IN_MAINTENANCE | DECOMMISSIONED
  deriving DecidableEq, Repr

/-- `JobManager.JobStatus`; `NONE` is the status of an absent job. -/
inductive ChainJobStatus
  | NONE | CREATED | ASSIGNED | IN_PROGRESS | COMPLETED | VERIFIED | REJECTED
  deriving DecidableEq, Repr

inductive Panic
  | arithmetic | emptyPop | indexOutOfBounds
  deriving DecidableEq, Repr

/-- Every way a call on the registry set can revert. -/
inductive Revert
  | Unauthorized (caller : Address) (requiredRoles : Mask)
  | InactiveWallet (wallet : Address)
  | NotWired | AlreadyWired | NotDeployer | ZeroAddress
  | InvalidWallet | InvalidDid | InvalidReason
  | WalletAlreadyRegistered (wallet : Address)
  | WalletNotFound (wallet : Address)
  | InvalidWalletStatus (wallet : Address) (status : WalletStatus)
  | UnknownIdentity (wallet : Address)
  | RoleAlreadyAssigned (wallet : Address) (role : Role)
  | RoleNotAssigned (wallet : Address) (role : Role)
  | LastAdmin
  | InvalidAssetId
  | InvalidRecipient (account : Address)
  | AssetAlreadyExists (assetId : Bytes)
  | AssetNotFound (nftId : ℕ)
  | UnknownState (state : Bytes)
  | InvalidStateTransition (nftId : ℕ) (source target : AssetState)
  | AssetDecommissioned (nftId : ℕ)
  | SelfAttachment (nftId : ℕ)
  | AlreadyAttached (componentNftId currentParent : ℕ)
  | NotAttached (parentNftId componentNftId : ℕ)
  | CyclicHierarchy (parentNftId componentNftId : ℕ)
  | ComponentIsAttached (nftId : ℕ)
  | DirectTransferDisabled
  | TransferNotAuthorized (actor : Address) (nftId : ℕ)
  | InvalidJobId
  | JobAlreadyExists (jobId : Bytes)
  | JobNotFound (jobId : Bytes)
  | AssetUnavailable (assetNftId : ℕ)
  | InvalidTransition (jobId : Bytes) (source target : ChainJobStatus)
  | InvalidTechnician (technician : Address)
  | NotAssignedTechnician (caller : Address)
  | InvalidEvidence
  | VerifierIsTechnician (verifier : Address)
  | NotRecorder (caller : Address)
  | InvalidEntityType (entityType : Bytes)
  | InvalidEntityId | InvalidAction
  | InvalidValidator
  | AlreadyRegistered (validator : Address)
  | NotRegistered (validator : Address)
  | InvalidHeight
  | PopulationBelowMinimum (height population : ℕ)
  | InvalidKeyMaterial
  | RemovalAlreadyScheduled (validator : Address)
  | RemovalNotEffective (validator : Address)
  | Reason (message : String)
  | Panic (code : Panic)
  | OutOfGas
  deriving DecidableEq

end BelLedger
