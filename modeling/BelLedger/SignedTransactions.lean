import BelLedger.EvmAdapter
import BelLedger.RegistryFrames

/-!
# Transactions that the device signs

The adapter prepares the fields of a call, the device signs them, and the adapter compares what was
signed with what the submitted envelope stands for.
-/
namespace BelLedger
open CheckedCalls

def Registry.contractName : Registry → String
  | .identity => "IdentityRegistry"
  | .roles => "RoleRegistry"
  | .assets => "AssetRegistry"
  | .jobs => "JobManager"
  | .validators => "ValidatorRegistry"

def Call.contract (call : Call) : String :=
  (call.target.map Registry.contractName).getD "AuditRegistry"

/-- The name of the function that is called. -/
def Call.method : Call → String
  | .wire _ _ _ _ => "wire"
  | .createIdentity _ _ => "createIdentity"
  | .activateWallet _ => "activateWallet"
  | .revokeWallet _ _ => "revokeWallet"
  | .assignRole _ _ => "assignRole"
  | .revokeRole _ _ => "revokeRole"
  | .mintAsset _ _ => "mintAsset"
  | .transferAsset _ _ => "transferAsset"
  | .setTransferGrant _ _ _ _ _ => "setTransferGrant"
  | .changeAssetState _ _ => "changeAssetState"
  | .attachComponent _ _ => "attachComponent"
  | .removeComponent _ _ => "removeComponent"
  | .approve _ _ => "approve"
  | .setApprovalForAll _ _ => "setApprovalForAll"
  | .transferFrom _ _ _ => "transferFrom"
  | .safeTransferFrom _ _ _ _ => "safeTransferFrom"
  | .createJob _ _ => "createJob"
  | .assignJob _ _ => "assignJob"
  | .startJob _ => "startJob"
  | .completeJob _ _ => "completeJob"
  | .approveJob _ => "approveJob"
  | .rejectJob _ _ => "rejectJob"
  | .addValidator _ _ _ _ => "addValidator"
  | .removeValidator _ _ _ => "removeValidator"
  | .restoreValidator _ _ => "restoreValidator"
  | .cancelScheduledRemoval _ _ => "cancelScheduledRemoval"
  | .recordAudit _ _ _ => "recordAudit"
  | .recordAuditFor _ _ _ _ => "recordAuditFor"

/-- The configuration of the adapter, and the encoder of the interfaces. -/
structure EvmChainConfig where
  contracts : String → Address
  chainId : ℕ
  encodeFunctionData : Call → Bytes

/-- The unsigned call fields. -/
structure PreparedTransaction where
  sender : Address
  receiver : Address
  data : Bytes
  chainId : ℕ
  value : ℕ
  contract : String
  method : String
  deriving DecidableEq

/-- A parsed signed transaction; its sender is recovered from the signature. -/
structure SignedTransaction where
  sender : Option Address
  receiver : Option Address
  data : Bytes
  chainId : ℕ
  value : ℕ
  deriving DecidableEq

/-- What the device signs when it is given the prepared fields. -/
def PreparedTransaction.signed (p : PreparedTransaction) : SignedTransaction :=
  ⟨some p.sender,some p.receiver,p.data,p.chainId,p.value⟩

namespace Payloads
section Lookups
variable {parseAddress : String → Option Address} {dateParse : String → Option ℤ}
  {type : TransactionType} {p : Payload} {lookups lookups' : ChainLookups}

/-- The lookups answer alike what a payload can make the planner ask. -/
def AnswerAlike (p : Payload) (lookups lookups' : ChainLookups) : Prop :=
  ∀ k text,p.get k = .string text →
    lookups.nftIdOf (jsTrim text) = lookups'.nftIdOf (jsTrim text) ∧
    ∀ requireActive,lookups.walletOfIdentity (jsTrim text) requireActive =
      lookups'.walletOfIdentity (jsTrim text) requireActive

theorem nftRef_congr (h : AnswerAlike p lookups lookups') (idKeys nftKeys : List String) :
    nftRef type p idKeys nftKeys lookups = nftRef type p idKeys nftKeys lookups' := by
  unfold nftRef
  cases nftKeys.findSome? (fun k => nftNumber (p.get k)) with
  | some n => rfl
  | none =>
    cases hid : optionalStr p idKeys with
    | none => rfl
    | some assetId =>
      obtain ⟨k,-,text,htext,-,rfl⟩ := optionalStr_eq_some hid
      simp only [(h k text htext).1]

theorem party_congr (h : AnswerAlike p lookups lookups') (keys : List String) (requireActive : Bool) :
    party parseAddress type p keys lookups requireActive =
      party parseAddress type p keys lookups' requireActive := by
  unfold party
  cases hstr : str type p keys with
  | error e => rfl
  | ok ref =>
    obtain ⟨k,-,text,htext,-,rfl⟩ := optionalStr_eq_some (str_eq_ok hstr)
    simp only [ok_bind,(h k text htext).2]

/-- A plan asks the chain about texts of its payload only. -/
theorem buildCallPlan_congr (h : AnswerAlike p lookups lookups') :
    buildCallPlan parseAddress dateParse type p lookups =
      buildCallPlan parseAddress dateParse type p lookups' := by
  unfold buildCallPlan
  simp only [nftRef_congr h,party_congr h]

end Lookups
end Payloads

namespace EvmAdapter
variable {H : Type} [Keccak H] (P : Platform) (config : EvmChainConfig)

/-- The fields of a planned call. -/
def fields (sender : Address) (call : Call) : PreparedTransaction :=
  { sender, receiver := config.contracts call.contract, data := config.encodeFunctionData call
    chainId := config.chainId, value := 0, contract := call.contract, method := call.method }

/-- `buildPreparedTransaction` without the estimates. -/
def buildPreparedTransaction (w : World H) (tx : Envelope) :
    Except BlockchainError PreparedTransaction := do
  let sender ← actorWallet P tx
  let call ← plan P w tx
  pure (fields config sender call)

def verificationProblems (raw : SignedTransaction) (prepared : PreparedTransaction) : List String :=
  (if raw.sender ≠ some prepared.sender then ["signer is not actorWallet"] else [])++
  (if raw.receiver ≠ some prepared.receiver then ["target is not "++prepared.contract] else [])++
  (if raw.data ≠ prepared.data then ["calldata does not match "++prepared.method++"(payload)"]
    else [])++
  (if raw.chainId ≠ prepared.chainId then ["wrong chainId"] else [])++
  (if raw.value ≠ 0 then ["value must be 0"] else [])

def verifySignedTransaction (raw : SignedTransaction) (prepared : PreparedTransaction) :
    Except BlockchainError Unit :=
  revertIf (verificationProblems raw prepared ≠ [])
    ⟨.SIGNER,"Signed transaction rejected: "++"; ".intercalate (verificationProblems raw prepared)⟩

variable {P config} {w w' : World H} {tx tx' : Envelope} {prepared : PreparedTransaction}

theorem buildPreparedTransaction_value (h : buildPreparedTransaction P config w tx = .ok prepared) :
    prepared.value = 0 := by
  obtain ⟨sender,-,h⟩ := ok_bind_iff.mp h
  obtain ⟨call,-,h⟩ := ok_bind_iff.mp h
  rw [← ok_pure_iff.mp h]
  rfl

theorem verifySignedTransaction_signed (hvalue : prepared.value = 0) :
    verifySignedTransaction prepared.signed prepared = .ok () := by
  simp [verifySignedTransaction,verificationProblems,PreparedTransaction.signed,hvalue,revertIf]

/-- An envelope of the same wallet and with the same plan is prepared alike. -/
theorem buildPreparedTransaction_congr (hwallet : actorWallet P tx = actorWallet P tx')
    (hplan : plan P w tx = plan P w' tx') :
    buildPreparedTransaction P config w tx = buildPreparedTransaction P config w' tx' := by
  unfold buildPreparedTransaction
  rw [hwallet,hplan]

end EvmAdapter
end BelLedger
