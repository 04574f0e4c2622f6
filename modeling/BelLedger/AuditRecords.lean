import BelLedger.AddressTexts
import BelLedger.AssetHierarchy
import BelLedger.IdentityBindings
import BelLedger.JobSeparation

/-!
# The audit record of every operation

Each protected operation first checks its caller and its arguments, then writes, then has the audit
registry record it. Nothing before the last call fails with an error of the audit registry, and what
has been checked by then is enough for the audit registry to accept the entry.
-/
namespace BelLedger
open CheckedCalls TransitionRuns

variable {H : Type} [Keccak H] [DecidableEq H]

/-- What an operation has recorded. -/
structure AuditEntry where
  registry : Registry
  entityType : Bytes
  entityId : Bytes
  action : Bytes

/-- The arguments of `_audit` in each protected operation. -/
def Call.entry (w : World H) : Call → Option AuditEntry
  | .createIdentity _ did => some ⟨.identity,utf8 "IDENTITY",did,utf8 "IDENTITY_CREATE"⟩
  | .activateWallet wallet =>
    some ⟨.identity,utf8 "WALLET",toHexString wallet,utf8 "WALLET_ACTIVATE"⟩
  | .revokeWallet wallet _ =>
    some ⟨.identity,utf8 "WALLET",toHexString wallet,utf8 "WALLET_REVOKE"⟩
  | .assignRole identity _ =>
    some ⟨.roles,utf8 "IDENTITY",IdentityRegistry.identityOf w.identity identity,
      utf8 "ROLE_ASSIGN"⟩
  | .revokeRole identity _ =>
    some ⟨.roles,utf8 "IDENTITY",IdentityRegistry.identityOf w.identity identity,
      utf8 "ROLE_REVOKE"⟩
  | .mintAsset assetId _ => some ⟨.assets,utf8 "ASSET",assetId,utf8 "ASSET_MINT"⟩
  | .transferAsset nftId _ =>
    some ⟨.assets,utf8 "ASSET",(w.assets.assets nftId).assetId,utf8 "ASSET_TRANSFER"⟩
  | .setTransferGrant _ _ _ active grantId =>
    some ⟨.assets,utf8 "GRANT",grantId,
      if active then utf8 "GRANT_CREATE" else utf8 "GRANT_REVOKE"⟩
  | .changeAssetState nftId _ =>
    some ⟨.assets,utf8 "ASSET",(w.assets.assets nftId).assetId,utf8 "ASSET_STATE_CHANGE"⟩
  | .attachComponent _ component =>
    some ⟨.assets,utf8 "ASSET",(w.assets.assets component).assetId,utf8 "COMPONENT_ATTACH"⟩
  | .removeComponent _ component =>
    some ⟨.assets,utf8 "ASSET",(w.assets.assets component).assetId,utf8 "COMPONENT_REMOVE"⟩
  | .createJob jobId _ => some ⟨.jobs,utf8 "JOB",jobId,utf8 "JOB_CREATE"⟩
  | .assignJob jobId _ => some ⟨.jobs,utf8 "JOB",jobId,utf8 "JOB_ASSIGN"⟩
  | .startJob jobId => some ⟨.jobs,utf8 "JOB",jobId,utf8 "JOB_START"⟩
  | .completeJob jobId _ => some ⟨.jobs,utf8 "JOB",jobId,utf8 "JOB_COMPLETE"⟩
  | .approveJob jobId => some ⟨.jobs,utf8 "JOB",jobId,utf8 "JOB_APPROVE"⟩
  | .rejectJob jobId _ => some ⟨.jobs,utf8 "JOB",jobId,utf8 "JOB_REJECT"⟩
  | .addValidator validator _ _ _ =>
    some ⟨.validators,utf8 "VALIDATOR",ValidatorRegistry.vmHex validator,utf8 "VALIDATOR_ADD"⟩
  | .removeValidator validator _ _ =>
    some ⟨.validators,utf8 "VALIDATOR",ValidatorRegistry.vmHex validator,utf8 "VALIDATOR_REMOVE"⟩
  | .restoreValidator validator _ =>
    some ⟨.validators,utf8 "VALIDATOR",ValidatorRegistry.vmHex validator,utf8 "VALIDATOR_RESTORE"⟩
  | .cancelScheduledRemoval validator _ =>
    some ⟨.validators,utf8 "VALIDATOR",ValidatorRegistry.vmHex validator,
      utf8 "VALIDATOR_REMOVE_CANCEL"⟩
  | _ => none

/-- The length rule of the audit registry. -/
def Recordable (field : Bytes) : Prop :=
  field.length ≠ 0 ∧ field.length ≤ AuditRegistry.MAX_FIELD_LENGTH

omit [Keccak H] [DecidableEq H] in
/-- The length checks of the registries are those of the audit registry. -/
theorem recordable_of_checked {field : Bytes} {limit : ℕ}
    (h : ¬(field.length = 0 ∨ field.length > limit)) (hlimit : limit ≤ 128 := by decide) :
    Recordable field := by
  rw [not_or,Nat.not_lt] at h
  exact ⟨h.1,h.2.trans hlimit⟩

/-- An error that only the audit registry raises. -/
def Revert.isAudit : Revert → Bool
  | .NotRecorder _ | .InvalidEntityType _ | .InvalidEntityId | .InvalidAction => true
  | _ => false

/-- Not an error of the audit registry. -/
def OwnError (e : Revert) : Prop := e.isAudit = false

namespace AuditRegistry

/-- The log with one more record. -/
def appended (s : Storage H) (txId : H) (r : AuditRecord) : Storage H :=
  { s with
    recordCount := s.recordCount + 1
    records := Function.update s.records txId r
    trails := Function.update s.trails (keccak256 r.entityId)
      (s.trails (keccak256 r.entityId)++[txId]) }

/-- The record that a call makes in the block of `env`. -/
def recordIn (env : Env) (recorder actor : Address) (entityType entityId action : Bytes) :
    AuditRecord :=
  { entityType, entityId, action, actor, recorder,
    timestamp := uint64 env.timestamp, blockNumber := uint64 env.number }

/-- The log after a record made in the block of `env`. -/
def logged (w : World H) (env : Env) (r : AuditRecord) : Storage H :=
  appended w.audit (recordId env w.addr.audit (w.audit.recordCount + 1)) r

end AuditRegistry

section Entries
variable {w v w' : World H} {env : Env} {r : Registry} {entityType entityId action : Bytes}
open AuditRegistry

private theorem record_eq_ok_iff {recorder actor : Address} :
    record w env recorder actor entityType entityId action = .ok w' ↔
      validEntityType (H := H) entityType = true ∧ Recordable entityId ∧ Recordable action ∧
      { w with audit := logged w env (recordIn env recorder actor entityType entityId action) } =
        w' := by
  simp only [record,revertIf_bind_eq_ok,ok_pure_iff,Bool.not_eq_false,not_or,Nat.not_lt,gt_iff_lt,
    Recordable,ne_eq]
  rfl

theorem recordAudit_logged (h : recordAudit w env entityType entityId action = .ok w') :
    w' = { w with
      audit := logged w env (recordIn env env.sender env.sender entityType entityId action) } := by
  simp only [recordAudit,revertIf_bind_eq_ok] at h
  exact (record_eq_ok_iff.mp h.2).2.2.2.symm

theorem recordAuditFor_logged {caller actor : Address}
    (h : recordAuditFor w env caller actor entityType entityId action = .ok w') :
    w' = { w with
      audit := logged w env (recordIn env caller actor entityType entityId action) } := by
  simp only [recordAuditFor,revertIf_bind_eq_ok] at h
  exact (record_eq_ok_iff.mp h.2).2.2.2.symm

/-- The record of an entry: the registry is the recorder and its caller the actor. -/
def AuditEntry.record (entry : AuditEntry) (w : World H) (env : Env) : AuditRecord :=
  recordIn env (w.addr.of entry.registry) env.sender entry.entityType entry.entityId entry.action

/-- The call ends before its audit entry with an error of its own, or with the entry; the latter only
if `P` holds. -/
inductive Audited (w : World H) (env : Env) (entry : AuditEntry) (P : Prop)
    (x : Except Revert (World H)) : Prop
  | refused (e : Revert) (hown : OwnError e) (h : x = .error e)
  | passed (v : World H)
      (h : x = audit v entry.registry env entry.entityType entry.entityId entry.action)
      (haudit : v.audit = w.audit) (haddr : v.addr = w.addr) (hP : P)

variable {entry : AuditEntry} {P : Prop}

/-- A check before the audit entry. -/
theorem Audited.bind {α : Type} {Q : α → Prop} {x : Except Revert α}
    {f : α → Except Revert (World H)} (hx : Outcome OwnError Q x)
    (hf : ∀ a,Q a → Audited w env entry P (f a)) : Audited w env entry P (x >>= f) := by
  cases x with
  | error e => exact .refused e (hx.error e rfl) rfl
  | ok a => exact hf a (hx.ok a rfl)

/-- `if (c) revert e;` with an error of the registry's own. -/
theorem Audited.revertIf {c : Prop} [Decidable c] {e : Revert} {f : Unit → Except Revert (World H)}
    (hown : OwnError e) (hf : ¬c → Audited w env entry P (f ())) :
    Audited w env entry P (CheckedCalls.revertIf c e >>= f) :=
  Audited.bind (outcome_revertIf fun _ => hown) fun _ h => hf h

theorem audit_outcome {E : Revert → Prop} (h : ∀ e,e.isAudit = true → E e) :
    Outcome E (fun _ => True) (audit w r env entityType entityId action) := by
  refine Outcome.bind (outcome_revertIf fun _ => h _ rfl) fun _ _ => ?_
  refine Outcome.bind (outcome_revertIf fun _ => h _ rfl) fun _ _ => ?_
  refine Outcome.bind (outcome_revertIf fun _ => h _ rfl) fun _ _ => ?_
  refine Outcome.bind (outcome_revertIf fun _ => h _ rfl) fun _ _ => ?_
  exact outcome_ok trivial

omit [DecidableEq H] in
private theorem checkRoles_outcome {caller : Address} {mask : Mask} :
    Outcome OwnError (fun _ => Authorised w r caller mask)
      (BelAccess.checkRoles w r caller mask) := by
  refine ⟨?_,fun _ => checkRoles_eq_ok.mp⟩
  intro e he
  simp only [BelAccess.checkRoles,revertIf_bind_eq_error,revertIf_eq_error] at he
  rcases he with ⟨-,rfl⟩ | ⟨-,⟨-,rfl⟩ | ⟨-,-,rfl⟩⟩
  · rfl
  · rfl
  · rfl

theorem Audited.checkRoles {caller : Address} {mask : Mask} {f : Unit → Except Revert (World H)}
    (hf : Audited w env entry P (f ())) :
    Audited w env entry P (BelAccess.checkRoles w r caller mask >>= f) :=
  Audited.bind checkRoles_outcome fun _ _ => hf

/-- A successful call has made exactly the record of its entry. -/
theorem Audited.logged {x : Except Revert (World H)} (h : Audited w env entry P x)
    (hx : x = .ok w') : w'.audit = logged w env (entry.record w env) := by
  cases h with
  | refused e hown he =>
    rw [he] at hx
    cases hx
  | passed v he haudit haddr hP =>
    rw [he] at hx
    rw [recordAuditFor_logged hx]
    simp only [AuditRegistry.logged,AuditEntry.record,haudit,haddr]

/-- A call succeeds with a recordable entry only. -/
theorem Audited.recordable {x : Except Revert (World H)} (h : Audited w env entry P x)
    (hx : x = .ok w') : Recordable entry.entityId := by
  cases h with
  | refused e hown he =>
    rw [he] at hx
    cases hx
  | passed v he haudit haddr hP =>
    rw [he] at hx
    simp only [audit,recordAuditFor,revertIf_bind_eq_ok] at hx
    exact (record_eq_ok_iff.mp hx.2).2.1

/-- Once its own checks have passed, a call with a recordable entry succeeds. -/
theorem Audited.own_error {x : Except Revert (World H)} (h : Audited w env entry P x)
    (hd : Deployed w) (htype : validEntityType (H := H) entry.entityType = true)
    (haction : Recordable entry.action) (hid : P → Recordable entry.entityId) :
    Outcome OwnError (fun _ => True) x := by
  cases h with
  | refused e hown he =>
    rw [he]
    exact outcome_error hown
  | passed v he haudit haddr hP =>
    have hvalid : AuditEntry.Valid v (v.addr.of entry.registry) entry.entityType entry.entityId
        entry.action := by
      refine ⟨?_,htype,hid hP,haction⟩
      rw [haudit,haddr]
      exact (hd.recorder _).mpr ⟨entry.registry,rfl⟩
    obtain ⟨log,haudit,-⟩ := audit_succeeds env hvalid
    rw [he,haudit]
    exact outcome_ok trivial

end Entries

section Identity
variable {w : World H} {env : Env} {E : Revert → Prop}

theorem register_outcome {s : IdentityRegistry.Storage H} {wallet : Address} {did : Bytes}
    (hwallet : E .InvalidWallet) (hdid : E .InvalidDid)
    (hnew : E (.WalletAlreadyRegistered wallet)) :
    Outcome E (fun _ => Recordable did) (IdentityRegistry.register s env wallet did) := by
  refine Outcome.bind (outcome_revertIf fun _ => hwallet) fun _ _ => ?_
  refine Outcome.bind (outcome_revertIf fun _ => hdid) fun _ hlen => ?_
  refine Outcome.bind (outcome_revertIf fun _ => hnew) fun _ _ => outcome_ok ?_
  exact recordable_of_checked hlen

theorem adminCountAfterRevoke_outcome {adminCount : ℕ} {role : Role} (hlast : E .LastAdmin)
    (hpanic : adminCount < 1 → E (.Panic .arithmetic)) :
    Outcome E (fun _ => True) (RoleRegistry.adminCountAfterRevoke adminCount role) := by
  unfold RoleRegistry.adminCountAfterRevoke
  split
  · refine Outcome.bind (outcome_revertIf fun _ => hlast) fun _ _ => ?_
    exact Outcome.trivial (outcome_checkedSub hpanic)
  · exact outcome_ok trivial

private theorem createIdentity_audited {wallet : Address} {did : Bytes} :
    Audited w env ⟨.identity,utf8 "IDENTITY",did,utf8 "IDENTITY_CREATE"⟩ (Recordable did)
      (IdentityRegistry.createIdentity w env wallet did) := by
  refine Audited.checkRoles ?_
  exact Audited.bind (register_outcome rfl rfl rfl) fun identity hdid =>
    .passed _ rfl rfl rfl hdid

private theorem activateWallet_audited {wallet : Address} :
    Audited w env ⟨.identity,utf8 "WALLET",toHexString wallet,utf8 "WALLET_ACTIVATE"⟩ True
      (IdentityRegistry.activateWallet w env wallet) := by
  refine Audited.checkRoles ?_
  refine Audited.revertIf rfl fun _ => ?_
  refine Audited.revertIf rfl fun _ => ?_
  exact .passed _ rfl rfl rfl trivial

private theorem revokeWallet_audited {wallet : Address} {reason : Bytes} :
    Audited w env ⟨.identity,utf8 "WALLET",toHexString wallet,utf8 "WALLET_REVOKE"⟩ True
      (IdentityRegistry.revokeWallet w env wallet reason) := by
  refine Audited.checkRoles ?_
  refine Audited.revertIf rfl fun _ => ?_
  refine Audited.revertIf rfl fun _ => ?_
  refine Audited.revertIf rfl fun _ => ?_
  exact .passed _ rfl rfl rfl trivial

private theorem assignRole_audited {identity : Address} {role : Role} :
    Audited w env ⟨.roles,utf8 "IDENTITY",IdentityRegistry.identityOf w.identity identity,
      utf8 "ROLE_ASSIGN"⟩ (RoleRegistry.keyOf w.identity identity ≠ 0)
      (RoleRegistry.assignRole w env identity role) := by
  refine Audited.checkRoles ?_
  refine Audited.revertIf rfl fun hkey => ?_
  refine Audited.revertIf rfl fun _ => ?_
  exact .passed _ rfl rfl rfl hkey

private theorem revokeRole_audited {identity : Address} {role : Role} :
    Audited w env ⟨.roles,utf8 "IDENTITY",IdentityRegistry.identityOf w.identity identity,
      utf8 "ROLE_REVOKE"⟩ (RoleRegistry.keyOf w.identity identity ≠ 0)
      (RoleRegistry.revokeRole w env identity role) := by
  refine Audited.checkRoles ?_
  refine Audited.revertIf rfl fun hkey => ?_
  refine Audited.revertIf rfl fun _ => ?_
  exact Audited.bind (adminCountAfterRevoke_outcome rfl fun _ => rfl) fun _ _ =>
    .passed _ rfl rfl rfl hkey

end Identity

section Assets
variable {w : World H} {env : Env} {E : Revert → Prop}
open AssetRegistry

omit [Keccak H] [DecidableEq H] in
theorem existing_outcome {s : Storage H} {nftId : ℕ} (h : E (.AssetNotFound nftId)) :
    Outcome E (fun a => Minted s nftId ∧ a = s.assets nftId) (existing s nftId) :=
  Outcome.bind (outcome_revertIf fun _ => h) fun _ hminted => outcome_ok ⟨hminted,rfl⟩

omit [Keccak H] [DecidableEq H] in
theorem stateOf_outcome {s : Storage H} {nftId : ℕ} (h : E (.AssetNotFound nftId)) :
    Outcome E (fun _ => True) (stateOf s nftId) :=
  Outcome.bind (existing_outcome h) fun _ _ => outcome_ok trivial

theorem mint_outcome {owners : ℕ → Address} {receiver : Address} {nftId : ℕ}
    (h : ∀ message,E (.Reason message)) : Outcome E (fun _ => True) (mint owners receiver nftId) :=
  Outcome.bind (outcome_revertIf fun _ => h _) fun _ _ =>
    Outcome.bind (outcome_revertIf fun _ => h _) fun _ _ => outcome_ok trivial

theorem ownerOf_outcome {owners : ℕ → Address} {nftId : ℕ}
    (h : ∀ message,E (.Reason message)) : Outcome E (fun _ => True) (ownerOf owners nftId) :=
  Outcome.bind (outcome_revertIf fun _ => h _) fun _ _ => outcome_ok trivial

theorem transfer_outcome {owners : ℕ → Address} {source receiver : Address} {nftId : ℕ}
    (h : ∀ message,E (.Reason message)) :
    Outcome E (fun _ => True) (transfer owners source receiver nftId) :=
  Outcome.bind (ownerOf_outcome h) fun _ _ =>
    Outcome.bind (outcome_revertIf fun _ => h _) fun _ _ =>
      Outcome.bind (outcome_revertIf fun _ => h _) fun _ _ => outcome_ok trivial

theorem parseState_outcome {newState : Bytes} (h : E (.UnknownState newState)) :
    Outcome E (fun _ => True) (parseState H newState) := by
  unfold parseState
  split
  · exact outcome_ok trivial
  split
  · exact outcome_ok trivial
  split
  · exact outcome_ok trivial
  · exact outcome_error h

private theorem mintAsset_audited {assetId : Bytes} {owner : Address} :
    Audited w env ⟨.assets,utf8 "ASSET",assetId,utf8 "ASSET_MINT"⟩ (Recordable assetId)
      (exec w ⟨env,.mintAsset assetId owner⟩) := by
  simp only [exec,mintAsset,bind_assoc,pure_bind,bind_pure]
  refine Audited.checkRoles ?_
  refine Audited.revertIf rfl fun hlen => ?_
  have hid : Recordable assetId := recordable_of_checked hlen
  refine Audited.bind (outcome_revertIf fun _ => rfl) fun _ _ => ?_
  refine Audited.revertIf rfl fun _ => ?_
  refine Audited.bind (outcome_checkedAdd fun _ => rfl) fun _ _ => ?_
  exact Audited.bind (mint_outcome fun _ => rfl) fun _ _ => .passed _ rfl rfl rfl hid

private theorem transferAsset_audited {nftId : ℕ} {newOwner : Address} :
    Audited w env ⟨.assets,utf8 "ASSET",(w.assets.assets nftId).assetId,utf8 "ASSET_TRANSFER"⟩
      (Minted w.assets nftId) (transferAsset w env nftId newOwner) := by
  have haccess : Outcome OwnError (fun _ => True) (checkTransferAccess w env nftId) := by
    unfold checkTransferAccess
    split
    · refine Outcome.bind checkRoles_outcome fun _ _ => ?_
      exact Outcome.trivial (outcome_revertIf fun _ => rfl)
    · exact Outcome.trivial checkRoles_outcome
  refine Audited.bind haccess fun _ _ => ?_
  refine Audited.bind (existing_outcome rfl) fun a ha => ?_
  obtain ⟨hminted,rfl⟩ := ha
  refine Audited.revertIf rfl fun _ => ?_
  refine Audited.revertIf rfl fun _ => ?_
  refine Audited.bind (outcome_revertIf fun _ => rfl) fun _ _ => ?_
  refine Audited.bind (ownerOf_outcome fun _ => rfl) fun source _ => ?_
  refine Audited.revertIf rfl fun _ => ?_
  exact Audited.bind (transfer_outcome fun _ => rfl) fun _ _ => .passed _ rfl rfl rfl hminted

private theorem setTransferGrant_audited {nftId expiresAt : ℕ} {actor : Address} {active : Bool}
    {grantId : Bytes} :
    Audited w env ⟨.assets,utf8 "GRANT",grantId,
      if active then utf8 "GRANT_CREATE" else utf8 "GRANT_REVOKE"⟩ True
      (setTransferGrant w env nftId actor expiresAt active grantId) := by
  refine Audited.checkRoles ?_
  refine Audited.bind (existing_outcome rfl) fun _ _ => ?_
  refine Audited.revertIf rfl fun _ => ?_
  exact .passed _ rfl rfl rfl trivial

private theorem changeAssetState_audited {nftId : ℕ} {newState : Bytes} :
    Audited w env ⟨.assets,utf8 "ASSET",(w.assets.assets nftId).assetId,
      utf8 "ASSET_STATE_CHANGE"⟩ (Minted w.assets nftId)
      (changeAssetState w env nftId newState) := by
  refine Audited.checkRoles ?_
  refine Audited.bind (existing_outcome rfl) fun a ⟨hminted,ha⟩ => ?_
  subst ha
  refine Audited.bind (parseState_outcome rfl) fun _ _ => ?_
  refine Audited.revertIf rfl fun _ => ?_
  exact .passed _ rfl rfl rfl hminted

omit [Keccak H] [DecidableEq H] in
theorem ancestorLoop_outcome {parent : ℕ → ℕ} {p c budget cur : ℕ} (hgas : E .OutOfGas)
    (hcycle : E (.CyclicHierarchy p c)) :
    Outcome E (fun _ => True) (ancestorLoop parent p c budget cur) := by
  induction budget generalizing cur with
  | zero =>
    unfold ancestorLoop
    split
    · exact outcome_ok trivial
    · exact outcome_error hgas
  | succ budget ih =>
    unfold ancestorLoop
    split
    · exact outcome_ok trivial
    split
    · exact outcome_error hcycle
    · exact ih

private theorem attachComponent_audited {parent component : ℕ} :
    Audited w env ⟨.assets,utf8 "ASSET",(w.assets.assets component).assetId,
      utf8 "COMPONENT_ATTACH"⟩ (Minted w.assets component)
      (attachComponent w env parent component) := by
  refine Audited.checkRoles ?_
  refine Audited.revertIf rfl fun _ => ?_
  refine Audited.bind (existing_outcome rfl) fun p _ => ?_
  refine Audited.bind (existing_outcome rfl) fun c ⟨hminted,hc⟩ => ?_
  subst hc
  refine Audited.revertIf rfl fun _ => ?_
  refine Audited.revertIf rfl fun _ => ?_
  refine Audited.revertIf rfl fun _ => ?_
  refine Audited.bind (ancestorLoop_outcome rfl rfl) fun _ _ => ?_
  exact .passed _ rfl rfl rfl hminted

omit [Keccak H] [DecidableEq H] in
theorem detach_outcome {s : Storage H} {parent component : ℕ} (hpanic : ∀ code,E (.Panic code)) :
    Outcome E (fun _ => True) (detach s parent component) := by
  refine Outcome.bind (outcome_checkedSub fun _ => hpanic _) fun _ _ => ?_
  refine Outcome.bind (outcome_checkedSub fun _ => hpanic _) fun _ _ => ?_
  refine Outcome.bind (outcome_readAt (hpanic _)) fun _ _ => ?_
  refine Outcome.bind (outcome_writeAt (hpanic _)) fun _ _ => ?_
  refine Outcome.bind (outcome_checkedAdd fun _ => hpanic _) fun _ _ => ?_
  exact Outcome.bind (outcome_popLast (hpanic _)) fun _ _ => outcome_ok trivial

private theorem removeComponent_audited {parent component : ℕ} :
    Audited w env ⟨.assets,utf8 "ASSET",(w.assets.assets component).assetId,
      utf8 "COMPONENT_REMOVE"⟩ (Minted w.assets component)
      (removeComponent w env parent component) := by
  refine Audited.checkRoles ?_
  refine Audited.bind (existing_outcome rfl) fun p _ => ?_
  refine Audited.bind (existing_outcome rfl) fun c ⟨hminted,hc⟩ => ?_
  subst hc
  refine Audited.revertIf rfl fun _ => ?_
  refine Audited.bind (detach_outcome fun _ => rfl) fun _ _ => ?_
  exact .passed _ rfl rfl rfl hminted

end Assets

section Jobs
variable {w : World H} {env : Env} {jobId : Bytes} {E : Revert → Prop}
open JobManager

omit [DecidableEq H] in
theorem existingJob_outcome (h : E (.JobNotFound jobId)) :
    Outcome E (fun _ => (job w jobId).status ≠ .NONE) (existing w jobId) :=
  Outcome.bind (outcome_revertIf fun _ => h) fun _ hjob => outcome_ok hjob

private theorem createJob_audited {assetNftId : ℕ} :
    Audited w env ⟨.jobs,utf8 "JOB",jobId,utf8 "JOB_CREATE"⟩ (Recordable jobId)
      (createJob w env jobId assetNftId) := by
  refine Audited.checkRoles ?_
  refine Audited.revertIf rfl fun hlen => ?_
  refine Audited.revertIf rfl fun _ => ?_
  refine Audited.revertIf rfl fun _ => ?_
  refine Audited.bind (stateOf_outcome rfl) fun _ _ => ?_
  refine Audited.revertIf rfl fun _ => ?_
  exact .passed _ rfl rfl rfl (recordable_of_checked hlen)

private theorem assignJob_audited {technician : Address} :
    Audited w env ⟨.jobs,utf8 "JOB",jobId,utf8 "JOB_ASSIGN"⟩ ((job w jobId).status ≠ .NONE)
      (assignJob w env jobId technician) := by
  refine Audited.checkRoles ?_
  refine Audited.bind (existingJob_outcome rfl) fun _ hknown => ?_
  refine Audited.revertIf rfl fun _ => ?_
  refine Audited.revertIf rfl fun _ => ?_
  exact .passed _ rfl rfl rfl hknown

private theorem startJob_audited :
    Audited w env ⟨.jobs,utf8 "JOB",jobId,utf8 "JOB_START"⟩ ((job w jobId).status ≠ .NONE)
      (startJob w env jobId) := by
  refine Audited.checkRoles ?_
  refine Audited.bind (existingJob_outcome rfl) fun _ hknown => ?_
  refine Audited.revertIf rfl fun _ => ?_
  refine Audited.bind (outcome_revertIf fun _ => rfl) fun _ _ => ?_
  exact .passed _ rfl rfl rfl hknown

private theorem completeJob_audited {evidenceHash : Bytes32} :
    Audited w env ⟨.jobs,utf8 "JOB",jobId,utf8 "JOB_COMPLETE"⟩ ((job w jobId).status ≠ .NONE)
      (completeJob w env jobId evidenceHash) := by
  refine Audited.checkRoles ?_
  refine Audited.bind (existingJob_outcome rfl) fun _ hknown => ?_
  refine Audited.revertIf rfl fun _ => ?_
  refine Audited.bind (outcome_revertIf fun _ => rfl) fun _ _ => ?_
  refine Audited.revertIf rfl fun _ => ?_
  exact .passed _ rfl rfl rfl hknown

private theorem approveJob_audited :
    Audited w env ⟨.jobs,utf8 "JOB",jobId,utf8 "JOB_APPROVE"⟩ ((job w jobId).status ≠ .NONE)
      (approveJob w env jobId) := by
  refine Audited.checkRoles ?_
  refine Audited.bind (existingJob_outcome rfl) fun _ hknown => ?_
  refine Audited.revertIf rfl fun _ => ?_
  refine Audited.bind (outcome_revertIf fun _ => rfl) fun _ _ => ?_
  exact .passed _ rfl rfl rfl hknown

private theorem rejectJob_audited {reason : Bytes} :
    Audited w env ⟨.jobs,utf8 "JOB",jobId,utf8 "JOB_REJECT"⟩ ((job w jobId).status ≠ .NONE)
      (rejectJob w env jobId reason) := by
  refine Audited.checkRoles ?_
  refine Audited.revertIf rfl fun _ => ?_
  refine Audited.bind (existingJob_outcome rfl) fun _ hknown => ?_
  refine Audited.revertIf rfl fun _ => ?_
  refine Audited.bind (outcome_revertIf fun _ => rfl) fun _ _ => ?_
  refine Audited.bind (outcome_checkedAdd fun _ => rfl) fun _ _ => ?_
  exact .passed _ rfl rfl rfl hknown

end Jobs

section Validators
variable {w : World H} {env : Env} {validator : Address}
open ValidatorRegistry

/-- The entry of a validator operation, with its id named. -/
private theorem auditValidator_passed {v : World H} {action : String} {id : Bytes}
    (hid : vmHex validator = id) (haudit : v.audit = w.audit) (haddr : v.addr = w.addr) :
    Audited w env ⟨.validators,utf8 "VALIDATOR",id,utf8 action⟩ True
      (auditValidator v env validator action) := by
  subst hid
  refine .passed v ?_ haudit haddr trivial
  rw [auditValidator]

private theorem addValidator_audited {publicKey signingPublicKey : Bytes} {activationHeight : ℕ} :
    Audited w env ⟨.validators,utf8 "VALIDATOR",vmHex validator,utf8 "VALIDATOR_ADD"⟩ True
      (addValidator w env validator publicKey signingPublicKey activationHeight) := by
  refine Audited.checkRoles ?_
  refine Audited.revertIf rfl fun _ => ?_
  refine Audited.revertIf rfl fun _ => ?_
  refine Audited.revertIf rfl fun _ => ?_
  refine Audited.revertIf rfl fun _ => ?_
  exact auditValidator_passed rfl rfl rfl

private theorem removeValidator_audited {removalHeight : ℕ} (reason : Bytes) :
    Audited w env ⟨.validators,utf8 "VALIDATOR",vmHex validator,utf8 "VALIDATOR_REMOVE"⟩ True
      (removeValidator w env validator removalHeight reason) := by
  refine Audited.checkRoles ?_
  refine Audited.revertIf rfl fun _ => ?_
  refine Audited.revertIf rfl fun _ => ?_
  refine Audited.revertIf rfl fun _ => ?_
  refine Audited.revertIf rfl fun _ => ?_
  refine Audited.bind (outcome_checkedSub fun _ => rfl) fun _ _ => ?_
  refine Audited.revertIf rfl fun _ => ?_
  exact auditValidator_passed rfl rfl rfl

private theorem restoreValidator_audited (reason : Bytes) :
    Audited w env ⟨.validators,utf8 "VALIDATOR",vmHex validator,utf8 "VALIDATOR_RESTORE"⟩ True
      (restoreValidator w env validator reason) := by
  refine Audited.checkRoles ?_
  refine Audited.revertIf rfl fun _ => ?_
  refine Audited.revertIf rfl fun _ => ?_
  refine Audited.revertIf rfl fun _ => ?_
  refine Audited.revertIf rfl fun _ => ?_
  exact auditValidator_passed rfl rfl rfl

private theorem cancelScheduledRemoval_audited (reason : Bytes) :
    Audited w env ⟨.validators,utf8 "VALIDATOR",vmHex validator,
      utf8 "VALIDATOR_REMOVE_CANCEL"⟩ True (cancelScheduledRemoval w env validator reason) := by
  refine Audited.checkRoles ?_
  refine Audited.revertIf rfl fun _ => ?_
  refine Audited.revertIf rfl fun _ => ?_
  exact auditValidator_passed rfl rfl rfl

end Validators

section Calls
variable {w w' : World H} {tx : Tx} {entry : AuditEntry}

/-- What the checks of an operation establish about the entity id of its entry. -/
def Call.Checked (w : World H) : Call → Prop
  | .createIdentity _ did => Recordable did
  | .assignRole identity _ | .revokeRole identity _ => RoleRegistry.keyOf w.identity identity ≠ 0
  | .mintAsset assetId _ => Recordable assetId
  | .transferAsset nftId _ | .changeAssetState nftId _ | .attachComponent _ nftId
  | .removeComponent _ nftId => Minted w.assets nftId
  | .createJob jobId _ => Recordable jobId
  | .assignJob jobId _ | .startJob jobId | .completeJob jobId _ | .approveJob jobId
  | .rejectJob jobId _ => (JobManager.job w jobId).status ≠ .NONE
  | _ => True

/-- Every protected operation ends with its one entry, or before it with an error of its own. -/
theorem exec_audited (hentry : tx.call.entry w = some entry) :
    Audited w tx.env entry (tx.call.Checked w) (exec w tx) := by
  rcases tx with ⟨env,call⟩
  cases call with
  | createIdentity wallet did => cases hentry; exact createIdentity_audited
  | activateWallet wallet => cases hentry; exact activateWallet_audited
  | revokeWallet wallet reason => cases hentry; exact revokeWallet_audited
  | assignRole identity role => cases hentry; exact assignRole_audited
  | revokeRole identity role => cases hentry; exact revokeRole_audited
  | mintAsset assetId owner => cases hentry; exact mintAsset_audited
  | transferAsset nftId newOwner => cases hentry; exact transferAsset_audited
  | setTransferGrant nftId actor expiresAt active grantId =>
    cases hentry; exact setTransferGrant_audited
  | changeAssetState nftId newState => cases hentry; exact changeAssetState_audited
  | attachComponent parent component => cases hentry; exact attachComponent_audited
  | removeComponent parent component => cases hentry; exact removeComponent_audited
  | createJob jobId assetNftId => cases hentry; exact createJob_audited
  | assignJob jobId technician => cases hentry; exact assignJob_audited
  | startJob jobId => cases hentry; exact startJob_audited
  | completeJob jobId evidenceHash => cases hentry; exact completeJob_audited
  | approveJob jobId => cases hentry; exact approveJob_audited
  | rejectJob jobId reason => cases hentry; exact rejectJob_audited
  | addValidator validator publicKey signingPublicKey activationHeight =>
    cases hentry; exact addValidator_audited
  | removeValidator validator removalHeight reason =>
    cases hentry; exact removeValidator_audited reason
  | restoreValidator validator reason => cases hentry; exact restoreValidator_audited reason
  | cancelScheduledRemoval validator reason =>
    cases hentry; exact cancelScheduledRemoval_audited reason
  | _ => cases hentry

/-- The record that a successful transaction leaves, if it leaves one. -/
def Tx.record (w : World H) (tx : Tx) : Option AuditRegistry.AuditRecord :=
  match tx.call.entry w,tx.call with
  | some entry,_ => some (entry.record w tx.env)
  | none,.recordAudit entityType entityId action =>
    some (AuditRegistry.recordIn tx.env tx.env.sender tx.env.sender entityType entityId action)
  | none,.recordAuditFor actor entityType entityId action =>
    some (AuditRegistry.recordIn tx.env tx.env.sender actor entityType entityId action)
  | none,_ => none

/-- The audit log after a transaction with that record. -/
def AuditRegistry.after (w : World H) (env : Env) :
    Option AuditRegistry.AuditRecord → AuditRegistry.Storage H
  | some r => logged w env r
  | none => w.audit

theorem exec_audit (hs : exec w tx = .ok w') :
    w'.audit = AuditRegistry.after w tx.env (tx.record w) := by
  cases hentry : tx.call.entry w with
  | some entry =>
    rw [(exec_audited hentry).logged hs,Tx.record,hentry]
    rfl
  | none =>
    rcases tx with ⟨env,call⟩
    cases call with
    | wire target identity_ roles_ audit_ =>
      obtain ⟨access,-,h⟩ := ok_bind_iff.mp hs
      obtain rfl := ok_pure_iff.mp h
      cases target <;> rfl
    | approve _ _ => cases hs
    | setApprovalForAll _ _ => cases hs
    | transferFrom _ _ _ => cases hs
    | safeTransferFrom _ _ _ _ => cases hs
    | recordAudit entityType entityId action =>
      rw [recordAudit_logged hs]
      rfl
    | recordAuditFor actor entityType entityId action =>
      rw [recordAuditFor_logged hs]
      rfl
    | _ => cases hentry

end Calls

section Invariants
variable {w : World H}

private theorem dids_bounded_genesis (d : Deployment) (w : World H) (h : Genesis d w) (k : H) :
    (w.identity.dids k).length ≤ AuditRegistry.MAX_FIELD_LENGTH := by
  rw [h.dids]
  by_cases hk : k = keccak256 d.bootstrapDid
  · subst hk
    rw [Function.update_self]
    exact h.did_length.2
  · rw [Function.update_of_ne hk]
    exact Nat.zero_le _

/-- No stored DID is longer than the audit registry allows. -/
private theorem Reachable.dids_bounded (hw : Reachable w) (k : H) :
    (w.identity.dids k).length ≤ AuditRegistry.MAX_FIELD_LENGTH := by
  obtain ⟨hist,h⟩ := hw
  refine (h.invariant (I := fun w => ∀ k,(w.identity.dids k).length ≤
    AuditRegistry.MAX_FIELD_LENGTH) dids_bounded_genesis ?_).2 k
  intro w tx w' hd hi hs k
  have hstep := exec_identityStep hd hs
  generalize w'.identity = s' at hstep ⊢
  cases hstep with
  | same => exact hi k
  | register env wallet did hwallet hdid hnew =>
    have hdids : (registered w.identity env wallet did).dids k = did ∨
        (registered w.identity env wallet did).dids k = w.identity.dids k := by
      unfold registered
      by_cases hk : k = keccak256 did
      · subst hk
        split
        · exact .inl (Function.update_self ..)
        · exact .inr rfl
      · split
        · exact .inr (Function.update_of_ne hk ..)
        · exact .inr rfl
    rcases hdids with heq | heq
    · rw [heq]
      exact hdid.2
    · rw [heq]
      exact hi k
  | activate wallet record hpending hactive hkey => exact hi k
  | revoke wallet record hold hrevoked hkey => exact hi k

/-- The id of every existing job has passed the length check of its creation. -/
private theorem Reachable.jobIds (hinj : Function.Injective (keccak256 : Bytes → H))
    (hw : Reachable w) (jobId : Bytes) (hjob : (JobManager.job w jobId).status ≠ .NONE) :
    Recordable jobId := by
  obtain ⟨hist,h⟩ := hw
  refine (h.invariant (I := fun w => (JobManager.job w jobId).status ≠ .NONE → Recordable jobId)
    ?_ ?_).2 hjob
  · intro d w hgen hne
    exact absurd (by simp [JobManager.job,hgen.jobs]) hne
  · intro w tx w' hd hi hs hne
    by_cases hcall : tx.call.jobId = some jobId
    swap
    · rw [exec_job_other hinj hd hs hcall] at hne
      exact hi hne
    have hexists : ∀ {status},(JobManager.job w jobId).status = status → status ≠ .NONE →
        Recordable jobId := fun hstatus hsome => hi (hstatus ▸ hsome)
    rcases tx with ⟨env,call⟩
    cases call with
    | createJob j assetNftId =>
      cases hcall
      obtain ⟨-,hlen,-⟩ := createJob_cases hs
      exact hlen
    | assignJob j technician =>
      cases hcall
      obtain ⟨-,hstatus,-⟩ := assignJob_cases hs
      rcases hstatus with hstatus | hstatus
      · exact hexists hstatus (by decide)
      · exact hexists hstatus (by decide)
    | startJob j =>
      cases hcall
      exact hexists (startJob_cases hs).2.1 (by decide)
    | completeJob j evidenceHash =>
      cases hcall
      exact hexists (completeJob_cases hs).2.1 (by decide)
    | approveJob j =>
      cases hcall
      exact hexists (approveJob_cases hs).2.1 (by decide)
    | rejectJob j reason =>
      cases hcall
      exact hexists (rejectJob_cases hs).2.2.1 (by decide)
    | _ => cases hcall

private theorem toHexString_recordable (a : Address) : Recordable (toHexString a) := by
  have hlen := length_toHexString a
  exact ⟨by omega,hlen.symm ▸ (by decide)⟩

private theorem vmHex_recordable (a : Address) : Recordable (ValidatorRegistry.vmHex a) := by
  have hlen := ValidatorRegistry.length_vmHex a
  exact ⟨by omega,hlen.symm ▸ (by decide)⟩

variable {call : Call} {entry : AuditEntry}

/-- The type and the action of every entry are accepted by the audit registry. -/
private theorem entry_valid (hentry : call.entry w = some entry) :
    AuditRegistry.validEntityType (H := H) entry.entityType = true ∧ Recordable entry.action := by
  cases call with
  | setTransferGrant nftId actor expiresAt active grantId =>
    cases hentry
    refine ⟨by simp [AuditRegistry.validEntityType],?_⟩
    cases active with
    | false => exact (by decide : (utf8 "GRANT_REVOKE").length ≠ 0 ∧
        (utf8 "GRANT_REVOKE").length ≤ AuditRegistry.MAX_FIELD_LENGTH)
    | true => exact (by decide : (utf8 "GRANT_CREATE").length ≠ 0 ∧
        (utf8 "GRANT_CREATE").length ≤ AuditRegistry.MAX_FIELD_LENGTH)
  | _ =>
    cases hentry <;>
      exact ⟨by simp [AuditRegistry.validEntityType],by dsimp only; decide,by dsimp only; decide⟩

private theorem Call.Checked.recordable (hinj : Function.Injective (keccak256 : Bytes → H))
    (hw : Reachable w) (hentry : call.entry w = some entry) (hc : call.Checked w)
    (hgrant : ∀ nftId actor expiresAt active grantId,
      call = .setTransferGrant nftId actor expiresAt active grantId → Recordable grantId) :
    Recordable entry.entityId := by
  have hdid : ∀ {a : Address},RoleRegistry.keyOf w.identity a ≠ 0 →
      Recordable (IdentityRegistry.identityOf w.identity a) := by
    intro a ha
    refine ⟨?_,hw.dids_bounded _⟩
    intro hlen
    exact ha (by simp [RoleRegistry.keyOf,hlen])
  cases call with
  | createIdentity wallet did => cases hentry; exact hc
  | activateWallet wallet => cases hentry; exact toHexString_recordable wallet
  | revokeWallet wallet reason => cases hentry; exact toHexString_recordable wallet
  | assignRole identity role => cases hentry; exact hdid hc
  | revokeRole identity role => cases hentry; exact hdid hc
  | mintAsset assetId owner => cases hentry; exact hc
  | transferAsset nftId newOwner => cases hentry; exact hw.hierarchy.assetId_length nftId hc
  | setTransferGrant nftId actor expiresAt active grantId =>
    cases hentry; exact hgrant _ _ _ _ _ rfl
  | changeAssetState nftId newState => cases hentry; exact hw.hierarchy.assetId_length nftId hc
  | attachComponent parent component =>
    cases hentry; exact hw.hierarchy.assetId_length component hc
  | removeComponent parent component =>
    cases hentry; exact hw.hierarchy.assetId_length component hc
  | createJob jobId assetNftId => cases hentry; exact hc
  | assignJob jobId technician => cases hentry; exact hw.jobIds hinj jobId hc
  | startJob jobId => cases hentry; exact hw.jobIds hinj jobId hc
  | completeJob jobId evidenceHash => cases hentry; exact hw.jobIds hinj jobId hc
  | approveJob jobId => cases hentry; exact hw.jobIds hinj jobId hc
  | rejectJob jobId reason => cases hentry; exact hw.jobIds hinj jobId hc
  | addValidator validator publicKey signingPublicKey activationHeight =>
    cases hentry; dsimp only; exact vmHex_recordable validator
  | removeValidator validator removalHeight reason =>
    cases hentry; dsimp only; exact vmHex_recordable validator
  | restoreValidator validator reason =>
    cases hentry; dsimp only; exact vmHex_recordable validator
  | cancelScheduledRemoval validator reason =>
    cases hentry; dsimp only; exact vmHex_recordable validator
  | _ => cases hentry

/-- In a reachable state no operation fails in the audit registry, but for grants whose id is not
recordable. -/
theorem exec_ownError (hinj : Function.Injective (keccak256 : Bytes → H)) (hw : Reachable w)
    {tx : Tx} (hentry : tx.call.entry w = some entry)
    (hgrant : ∀ nftId actor expiresAt active grantId,
      tx.call = .setTransferGrant nftId actor expiresAt active grantId → Recordable grantId) :
    Outcome OwnError (fun _ => True) (exec w tx) := by
  obtain ⟨htype,haction⟩ := entry_valid hentry
  exact (exec_audited hentry).own_error hw.deployed htype haction
    (fun hc => hc.recordable hinj hw hentry hgrant)

end Invariants
end BelLedger
