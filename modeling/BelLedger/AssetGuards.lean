import BelLedger.AssetOwnership

/-!
# The checks of AssetRegistry that do not depend on the caller

A mutation of an existing asset succeeds exactly when the caller is authorised and these checks pass:
the audit entry it ends with is always accepted.
-/
namespace BelLedger
open CheckedCalls TransitionRuns AssetRegistry

variable {H : Type} [Keccak H] [DecidableEq H]

namespace AssetRegistry

def transferGuards (w : World H) (nftId : ℕ) (newOwner : Address) : Except Revert Unit := do
  let a ← existing w.assets nftId
  revertIf (a.state = .DECOMMISSIONED) (.AssetDecommissioned nftId)
  revertIf (a.parent ≠ 0) (.ComponentIsAttached nftId)
  requireActiveRecipient w newOwner
  let source ← ownerOf w.assets.owners nftId
  revertIf (source = newOwner) (.InvalidRecipient newOwner)

def stateGuards (w : World H) (nftId : ℕ) (newState : Bytes) : Except Revert Unit := do
  let a ← existing w.assets nftId
  let target ← parseState H newState
  revertIf (a.state = target ∨ a.state = .DECOMMISSIONED)
    (.InvalidStateTransition nftId a.state target)

def attachGuards (w : World H) (parentNftId componentNftId : ℕ) : Except Revert Unit := do
  revertIf (parentNftId = componentNftId) (.SelfAttachment parentNftId)
  let parent ← existing w.assets parentNftId
  let comp ← existing w.assets componentNftId
  revertIf (parent.state = .DECOMMISSIONED) (.AssetDecommissioned parentNftId)
  revertIf (comp.state = .DECOMMISSIONED) (.AssetDecommissioned componentNftId)
  revertIf (comp.parent ≠ 0) (.AlreadyAttached componentNftId comp.parent)
  ancestorLoop (fun cur => (w.assets.assets cur).parent) parentNftId componentNftId
    w.assets.nextId parent.parent

def removeGuards (w : World H) (parentNftId componentNftId : ℕ) : Except Revert Unit := do
  let _ ← existing w.assets parentNftId
  let comp ← existing w.assets componentNftId
  revertIf (comp.parent ≠ parentNftId) (.NotAttached parentNftId componentNftId)
  let _ ← detach w.assets parentNftId componentNftId
  pure ()

/-- The checks of the mutations of an existing asset. -/
def guards (w : World H) : Call → Except Revert Unit
  | .transferAsset nftId newOwner => transferGuards w nftId newOwner
  | .changeAssetState nftId newState => stateGuards w nftId newState
  | .attachComponent parentNftId componentNftId => attachGuards w parentNftId componentNftId
  | .removeComponent parentNftId componentNftId => removeGuards w parentNftId componentNftId
  | _ => .ok ()

end AssetRegistry

section Conditions
variable {w : World H}

omit [Keccak H] [DecidableEq H] in
theorem transferGuards_eq_ok {nftId : ℕ} {newOwner : Address} :
    transferGuards w nftId newOwner = .ok () ↔
      Minted w.assets nftId ∧ (w.assets.assets nftId).state ≠ .DECOMMISSIONED ∧
      parentOf w.assets nftId = 0 ∧ (newOwner ≠ 0 ∧ Active w.identity newOwner) ∧
      w.assets.owners nftId ≠ 0 ∧ w.assets.owners nftId ≠ newOwner := by
  simp only [transferGuards,existingAsset_bind_eq_ok,requireActiveRecipient,revertIf_bind_eq_ok,
    ownerOf,not_or,isActiveWallet_false_iff,not_not,ne_eq]
  simp only [ok_bind_iff,revertIf_eq_ok,ok_pure_iff,Minted,parentOf,Active]
  simp

theorem stateGuards_eq_ok {nftId : ℕ} {newState : Bytes} :
    stateGuards w nftId newState = .ok () ↔
      Minted w.assets nftId ∧ ∃ target,parseState H newState = .ok target ∧
        (w.assets.assets nftId).state ≠ target ∧
        (w.assets.assets nftId).state ≠ .DECOMMISSIONED := by
  simp only [stateGuards,existingAsset_bind_eq_ok]
  simp only [ok_bind_iff,revertIf_eq_ok,not_or,Minted,ne_eq]

omit [Keccak H] [DecidableEq H] in
theorem attachGuards_eq_ok {parent component : ℕ} :
    attachGuards w parent component = .ok () ↔
      parent ≠ component ∧ Minted w.assets parent ∧ Minted w.assets component ∧
      (w.assets.assets parent).state ≠ .DECOMMISSIONED ∧
      (w.assets.assets component).state ≠ .DECOMMISSIONED ∧ parentOf w.assets component = 0 ∧
      ancestorLoop (parentOf w.assets) parent component w.assets.nextId
        (parentOf w.assets parent) = .ok () := by
  simp only [attachGuards,existingAsset_bind_eq_ok,revertIf_bind_eq_ok,not_not,ne_eq,Minted]
  exact Iff.rfl

omit [Keccak H] [DecidableEq H] in
/-- Of an attached component every check of the swap-and-pop passes. -/
theorem removeGuards_eq_ok (h : HierarchyInvariant w.assets) {parent component : ℕ} :
    removeGuards w parent component = .ok () ↔
      Minted w.assets parent ∧ Minted w.assets component ∧ parentOf w.assets component = parent := by
  simp only [removeGuards,existingAsset_bind_eq_ok,revertIf_bind_eq_ok,not_not,ne_eq]
  refine and_congr_right (fun hparent => and_congr_right (fun _ => and_iff_left_of_imp ?_))
  intro hattached
  have hne : parentOf w.assets component ≠ 0 := by
    intro hzero
    have hparent0 : parent = 0 := hattached.symm.trans hzero
    exact h.zero_not_minted (hparent0 ▸ hparent)
  obtain ⟨last,-,hdetach⟩ := detach_attached h hne
  rw [show parentOf w.assets component = parent from hattached] at hdetach
  exact ok_bind_iff.mpr ⟨_,hdetach,rfl⟩

end Conditions

section Success
variable {w : World H} {env : Env}

private theorem auditAsset_succeeds (hd : Deployed w) (h : HierarchyInvariant w.assets) (env : Env)
    {nftId : ℕ} (hminted : Minted w.assets nftId) (assets : AssetRegistry.Storage H) {kind : Bytes}
    (hkind : kind.length ≠ 0 ∧ kind.length ≤ AuditRegistry.MAX_FIELD_LENGTH) :
    ∃ w',audit { w with assets } .assets env (utf8 "ASSET") (w.assets.assets nftId).assetId kind =
      .ok w' := by
  have hvalid : AuditEntry.Valid { w with assets } (w.addr.of .assets) (utf8 "ASSET")
      (w.assets.assets nftId).assetId kind := by
    refine ⟨(hd.recorder _).mpr ⟨.assets,rfl⟩,?_,h.assetId_length nftId hminted,hkind⟩
    simp [AuditRegistry.validEntityType]
  obtain ⟨log,haudit,-⟩ := audit_succeeds env hvalid
  exact ⟨_,haudit⟩

/-- A transfer needs its access check and the guards, and nothing else. -/
theorem transferAsset_succeeds_iff (hw : Reachable w) {nftId : ℕ} {newOwner : Address} :
    (∃ w',transferAsset w env nftId newOwner = .ok w') ↔
      TransferAuthorised w env nftId ∧ transferGuards w nftId newOwner = .ok () := by
  rw [transferGuards_eq_ok]
  constructor
  · rintro ⟨w',hw'⟩
    obtain ⟨hauth,hminted,hstate,hparent,hzero,hactive,howner,hsame,-⟩ := transferAsset_cases hw'
    exact ⟨hauth,hminted,hstate,hparent,⟨hzero,hactive⟩,howner,hsame⟩
  · rintro ⟨hauth,hminted,hstate,hparent,⟨hzero,hactive⟩,howner,hsame⟩
    let assets := { w.assets with
      owners := Function.update w.assets.owners nftId newOwner
      assets := Function.update w.assets.assets nftId
        { w.assets.assets nftId with custodian := newOwner } }
    have hkind : (utf8 "ASSET_TRANSFER").length ≠ 0 ∧
        (utf8 "ASSET_TRANSFER").length ≤ AuditRegistry.MAX_FIELD_LENGTH := by decide
    obtain ⟨w',haudit⟩ := auditAsset_succeeds hw.deployed hw.hierarchy env hminted assets hkind
    refine ⟨w',ok_bind_iff.mpr ⟨(),checkTransferAccess_eq_ok.mpr hauth,?_⟩⟩
    simp only [existingAsset_bind_eq_ok,requireActiveRecipient,revertIf_bind_eq_ok,not_or,
      isActiveWallet_false_iff,not_not]
    refine ⟨hminted,hstate,hparent,⟨hzero,hactive⟩,ok_bind_iff.mpr ⟨w.assets.owners nftId,?_,?_⟩⟩
    · exact revertIf_bind_eq_ok.mpr ⟨howner,rfl⟩
    · refine revertIf_bind_eq_ok.mpr ⟨hsame,ok_bind_iff.mpr ⟨_,?_,haudit⟩⟩
      exact AssetRegistry.transfer_eq_ok.mpr ⟨howner,rfl,hzero,rfl⟩

theorem changeAssetState_succeeds_iff (hw : Reachable w) {nftId : ℕ} {newState : Bytes} :
    (∃ w',changeAssetState w env nftId newState = .ok w') ↔
      Authorised w .assets env.sender BelRoles.MANAGE_ASSET ∧
        stateGuards w nftId newState = .ok () := by
  rw [stateGuards_eq_ok]
  constructor
  · rintro ⟨w',hw'⟩
    obtain ⟨hauth,hminted,hstate,target,hparse,hne,-⟩ := changeAssetState_cases hw'
    exact ⟨hauth,hminted,target,hparse,hne,hstate⟩
  · rintro ⟨hauth,hminted,target,hparse,hne,hstate⟩
    let assets := { w.assets with
      assets := Function.update w.assets.assets nftId
        { w.assets.assets nftId with state := target } }
    have hkind : (utf8 "ASSET_STATE_CHANGE").length ≠ 0 ∧
        (utf8 "ASSET_STATE_CHANGE").length ≤ AuditRegistry.MAX_FIELD_LENGTH := by decide
    obtain ⟨w',haudit⟩ := auditAsset_succeeds hw.deployed hw.hierarchy env hminted assets hkind
    refine ⟨w',checkRoles_bind_eq_ok.mpr ⟨hauth,?_⟩⟩
    refine existingAsset_bind_eq_ok.mpr ⟨hminted,ok_bind_iff.mpr ⟨target,hparse,?_⟩⟩
    exact revertIf_bind_eq_ok.mpr ⟨not_or.mpr ⟨hne,hstate⟩,haudit⟩

theorem attachComponent_succeeds_iff (hw : Reachable w) {parent component : ℕ} :
    (∃ w',attachComponent w env parent component = .ok w') ↔
      Authorised w .assets env.sender BelRoles.MANAGE_ASSET ∧
        attachGuards w parent component = .ok () := by
  rw [attachGuards_eq_ok]
  constructor
  · rintro ⟨w',hw'⟩
    obtain ⟨hauth,hne,hp,hc,hpstate,hcstate,hfree,hloop,-⟩ := attachComponent_cases hw'
    exact ⟨hauth,hne,hp,hc,hpstate,hcstate,hfree,hloop⟩
  · rintro ⟨hauth,hne,hp,hc,hpstate,hcstate,hfree,hloop⟩
    let assets := { w.assets with
      assets := Function.update w.assets.assets component
        { w.assets.assets component with parent }
      components := Function.update w.assets.components parent
        (w.assets.components parent++[component])
      componentIndex := Function.update w.assets.componentIndex component
        (w.assets.components parent++[component]).length }
    have hkind : (utf8 "COMPONENT_ATTACH").length ≠ 0 ∧
        (utf8 "COMPONENT_ATTACH").length ≤ AuditRegistry.MAX_FIELD_LENGTH := by decide
    obtain ⟨w',haudit⟩ := auditAsset_succeeds hw.deployed hw.hierarchy env hc assets hkind
    refine ⟨w',checkRoles_bind_eq_ok.mpr ⟨hauth,revertIf_bind_eq_ok.mpr ⟨hne,?_⟩⟩⟩
    simp only [existingAsset_bind_eq_ok,revertIf_bind_eq_ok,not_not]
    exact ⟨hp,hc,hpstate,hcstate,hfree,ok_bind_iff.mpr ⟨(),hloop,haudit⟩⟩

theorem removeComponent_succeeds_iff (hw : Reachable w) {parent component : ℕ} :
    (∃ w',removeComponent w env parent component = .ok w') ↔
      Authorised w .assets env.sender BelRoles.MANAGE_ASSET ∧
        removeGuards w parent component = .ok () := by
  rw [removeGuards_eq_ok hw.hierarchy]
  constructor
  · rintro ⟨w',hw'⟩
    obtain ⟨hauth,hp,hc,hattached,-⟩ := removeComponent_cases hw'
    exact ⟨hauth,hp,hc,hattached⟩
  · rintro ⟨hauth,hp,hc,rfl⟩
    have hne : parentOf w.assets component ≠ 0 := fun hzero => hw.hierarchy.zero_not_minted (hzero ▸ hp)
    obtain ⟨last,w',hexec,-⟩ := removeComponent_succeeds hw.deployed hw.hierarchy hne hauth
    exact ⟨w',hexec⟩

/-- Who may call the mutations of an existing asset. -/
def CallerAuthorised (w : World H) (env : Env) : Call → Prop
  | .transferAsset nftId _ => TransferAuthorised w env nftId
  | .changeAssetState _ _ | .attachComponent _ _ | .removeComponent _ _ =>
    Authorised w .assets env.sender BelRoles.MANAGE_ASSET
  | _ => True

/-- The mutations of an existing asset. -/
inductive AssetMutation : Call → Prop
  | transfer (nftId : ℕ) (newOwner : Address) : AssetMutation (.transferAsset nftId newOwner)
  | state (nftId : ℕ) (newState : Bytes) : AssetMutation (.changeAssetState nftId newState)
  | attach (parent component : ℕ) : AssetMutation (.attachComponent parent component)
  | remove (parent component : ℕ) : AssetMutation (.removeComponent parent component)

/-- The guards are all the checks there are besides the authorization of the caller. -/
theorem exec_succeeds_iff (hw : Reachable w) {call : Call} (hcall : AssetMutation call) :
    (∃ w',exec w ⟨env,call⟩ = .ok w') ↔
      CallerAuthorised w env call ∧ AssetRegistry.guards w call = .ok () := by
  cases hcall with
  | transfer nftId newOwner => exact transferAsset_succeeds_iff hw
  | state nftId newState => exact changeAssetState_succeeds_iff hw
  | attach parent component => exact attachComponent_succeeds_iff hw
  | remove parent component => exact removeComponent_succeeds_iff hw

end Success
end BelLedger
