import BelLedger.AccessControl

/-! # AssetRegistry: ERC-721 custody, lifecycle state and the component hierarchy -/
namespace BelLedger
open CheckedCalls

variable {H : Type} [Keccak H] [DecidableEq H]

namespace AssetRegistry

section ERC721

/-- `ERC721.ownerOf` of OpenZeppelin 4.9.6, which is set up beside the contracts: its owner table is an
assumption here, with the reasons that it reverts with. -/
def ownerOf (owners : ℕ → Address) (nftId : ℕ) : Except Revert Address := do
  revertIf (owners nftId = 0) (.Reason "ERC721: invalid token ID")
  pure (owners nftId)

/-- `ERC721._mint` of the same library. -/
def mint (owners : ℕ → Address) (receiver : Address) (nftId : ℕ) :
    Except Revert (ℕ → Address) := do
  revertIf (receiver = 0) (.Reason "ERC721: mint to the zero address")
  revertIf (owners nftId ≠ 0) (.Reason "ERC721: token already minted")
  pure (Function.update owners nftId receiver)

/-- `ERC721._transfer` of the same library. -/
def transfer (owners : ℕ → Address) (source receiver : Address) (nftId : ℕ) :
    Except Revert (ℕ → Address) := do
  let owner ← ownerOf owners nftId
  revertIf (owner ≠ source) (.Reason "ERC721: transfer from incorrect owner")
  revertIf (receiver = 0) (.Reason "ERC721: transfer to the zero address")
  pure (Function.update owners nftId receiver)

theorem transfer_eq_ok {owners owners' : ℕ → Address} {source receiver : Address} {nftId : ℕ} :
    transfer owners source receiver nftId = .ok owners' ↔
      owners nftId ≠ 0 ∧ owners nftId = source ∧ receiver ≠ 0 ∧
        Function.update owners nftId receiver = owners' := by
  simp only [transfer,ownerOf,bind_assoc,pure_bind,revertIf_bind_eq_ok,ok_pure_iff,ne_eq,not_not]

end ERC721

/-- The constructor. -/
def deploy (env : Env) : Storage H :=
  { access := { deployer := env.sender }
    nextId := 1
    assets := fun _ => ⟨[], 0, 0, .NONE, 0⟩
    idByAssetId := fun _ => 0
    components := fun _ => []
    componentIndex := fun _ => 0
    transferGrants := fun _ _ => ⟨0, false⟩
    owners := fun _ => 0 }

/-- `_existing`. -/
def existing (s : Storage H) (nftId : ℕ) : Except Revert AssetRecord := do
  revertIf ((s.assets nftId).state = .NONE) (.AssetNotFound nftId)
  pure (s.assets nftId)

/-- `_requireActiveRecipient`. -/
def requireActiveRecipient (w : World H) (account : Address) : Except Revert Unit :=
  revertIf (account = 0 ∨ IdentityRegistry.isActiveWallet w.identity account = false)
    (.InvalidRecipient account)

/-- `_parseState` compares digests of the state names. -/
def parseState (H : Type) [Keccak H] [DecidableEq H] (s : Bytes) : Except Revert AssetState :=
  if (keccak256 s : H) = keccak256 (utf8 "ACTIVE") then .ok .ACTIVE
  else if (keccak256 s : H) = keccak256 (utf8 "IN_MAINTENANCE") then .ok .IN_MAINTENANCE
  else if (keccak256 s : H) = keccak256 (utf8 "DECOMMISSIONED") then .ok .DECOMMISSIONED
  else .error (.UnknownState s)

/-- `_stateName`. -/
def stateName : AssetState → Bytes
  | .ACTIVE => utf8 "ACTIVE"
  | .IN_MAINTENANCE => utf8 "IN_MAINTENANCE"
  | .DECOMMISSIONED => utf8 "DECOMMISSIONED"
  | .NONE => []

/-- `_hasActiveTransferGrant`. -/
def hasActiveTransferGrant (s : Storage H) (env : Env) (nftId : ℕ) (actor : Address) : Bool :=
  let grant := s.transferGrants nftId actor
  grant.active && (decide (grant.expiresAt = 0) || decide (grant.expiresAt > env.timestamp))

/-- `_checkTransferAccess`: an ENGINEER needs a grant, anybody else a transferring role. -/
def checkTransferAccess (w : World H) (env : Env) (nftId : ℕ) : Except Revert Unit :=
  if BelAccess.hasAnyRole w env.sender BelRoles.ENGINEER = true then do
    BelAccess.checkRoles w .assets env.sender BelRoles.ENGINEER
    revertIf (hasActiveTransferGrant w.assets env nftId env.sender = false)
      (.TransferNotAuthorized env.sender nftId)
  else BelAccess.checkRoles w .assets env.sender BelRoles.TRANSFER_ASSET

/-- The ancestor loop of `attachComponent`. The budget stands for the gas of the call. -/
def ancestorLoop (parent : ℕ → ℕ) (parentNftId componentNftId : ℕ) : ℕ → ℕ → Except Revert Unit
  | 0, cur => if cur = 0 then .ok () else .error .OutOfGas
  | budget + 1, cur =>
    if cur = 0 then .ok ()
    else if cur = componentNftId then .error (.CyclicHierarchy parentNftId componentNftId)
    else ancestorLoop parent parentNftId componentNftId budget (parent cur)

def mintAsset (w : World H) (env : Env) (assetId : Bytes) (owner : Address) :
    Except Revert (ℕ × World H) := do
  BelAccess.checkRoles w .assets env.sender BelRoles.REGISTER_ASSET
  revertIf (assetId.length = 0 ∨ assetId.length > MAX_ASSET_ID_LENGTH) .InvalidAssetId
  requireActiveRecipient w owner
  let key : H := keccak256 assetId
  revertIf (w.assets.idByAssetId key ≠ 0) (.AssetAlreadyExists assetId)
  let nftId := w.assets.nextId
  let nextId ← checkedAdd 256 (.Panic .arithmetic) nftId 1
  let owners ← mint w.assets.owners owner nftId
  let assets := { w.assets with
    nextId, owners
    idByAssetId := Function.update w.assets.idByAssetId key nftId
    assets := Function.update w.assets.assets nftId
      { assetId, custodian := owner, parent := 0, state := .ACTIVE,
        mintedAt := uint64 env.timestamp } }
  let w' ← audit { w with assets } .assets env (utf8 "ASSET") assetId (utf8 "ASSET_MINT")
  pure (nftId, w')

def transferAsset (w : World H) (env : Env) (nftId : ℕ) (newOwner : Address) :
    Except Revert (World H) := do
  checkTransferAccess w env nftId
  let a ← existing w.assets nftId
  revertIf (a.state = .DECOMMISSIONED) (.AssetDecommissioned nftId)
  revertIf (a.parent ≠ 0) (.ComponentIsAttached nftId)
  requireActiveRecipient w newOwner
  let source ← ownerOf w.assets.owners nftId
  revertIf (source = newOwner) (.InvalidRecipient newOwner)
  let owners ← transfer w.assets.owners source newOwner nftId
  let assets := { w.assets with
    owners
    assets := Function.update w.assets.assets nftId { a with custodian := newOwner } }
  audit { w with assets } .assets env (utf8 "ASSET") a.assetId (utf8 "ASSET_TRANSFER")

def setTransferGrant (w : World H) (env : Env) (nftId : ℕ) (actor : Address) (expiresAt : ℕ)
    (active : Bool) (grantId : Bytes) : Except Revert (World H) := do
  BelAccess.checkRoles w .assets env.sender BelRoles.MANAGE_ROLES
  let _ ← existing w.assets nftId
  revertIf (actor = 0) .ZeroAddress
  let transferGrants := Function.update w.assets.transferGrants nftId
    (Function.update (w.assets.transferGrants nftId) actor { expiresAt, active })
  audit { w with assets := { w.assets with transferGrants } } .assets env (utf8 "GRANT") grantId
    (if active then utf8 "GRANT_CREATE" else utf8 "GRANT_REVOKE")

def changeAssetState (w : World H) (env : Env) (nftId : ℕ) (newState : Bytes) :
    Except Revert (World H) := do
  BelAccess.checkRoles w .assets env.sender BelRoles.MANAGE_ASSET
  let a ← existing w.assets nftId
  let target ← parseState H newState
  revertIf (a.state = target ∨ a.state = .DECOMMISSIONED)
    (.InvalidStateTransition nftId a.state target)
  let assets := Function.update w.assets.assets nftId { a with state := target }
  audit { w with assets := { w.assets with assets } } .assets env
    (utf8 "ASSET") a.assetId (utf8 "ASSET_STATE_CHANGE")

def attachComponent (w : World H) (env : Env) (parentNftId componentNftId : ℕ) :
    Except Revert (World H) := do
  BelAccess.checkRoles w .assets env.sender BelRoles.MANAGE_ASSET
  revertIf (parentNftId = componentNftId) (.SelfAttachment parentNftId)
  let parent ← existing w.assets parentNftId
  let comp ← existing w.assets componentNftId
  revertIf (parent.state = .DECOMMISSIONED) (.AssetDecommissioned parentNftId)
  revertIf (comp.state = .DECOMMISSIONED) (.AssetDecommissioned componentNftId)
  revertIf (comp.parent ≠ 0) (.AlreadyAttached componentNftId comp.parent)
  ancestorLoop (fun cur => (w.assets.assets cur).parent) parentNftId componentNftId
    w.assets.nextId parent.parent
  let list := w.assets.components parentNftId ++ [componentNftId]
  let assets := { w.assets with
    assets := Function.update w.assets.assets componentNftId { comp with parent := parentNftId }
    components := Function.update w.assets.components parentNftId list
    componentIndex := Function.update w.assets.componentIndex componentNftId list.length }
  audit { w with assets } .assets env (utf8 "ASSET") comp.assetId (utf8 "COMPONENT_ATTACH")

/-- The swap-and-pop of `removeComponent`, with every check the compiler inserts. The writes to
`_componentIndex` are in source order: the moved token first, the removed one last. -/
def detach (s : Storage H) (parentNftId componentNftId : ℕ) :
    Except Revert (List ℕ × (ℕ → ℕ)) := do
  let list := s.components parentNftId
  let idx ← checkedSub (.Panic .arithmetic) (s.componentIndex componentNftId) 1
  let lastIdx ← checkedSub (.Panic .arithmetic) list.length 1
  let last ← readAt (.Panic .indexOutOfBounds) list lastIdx
  let list ← writeAt (.Panic .indexOutOfBounds) list idx last
  let position ← checkedAdd 256 (.Panic .arithmetic) idx 1
  let componentIndex := Function.update s.componentIndex last position
  let list ← popLast (.Panic .emptyPop) list
  pure (list, Function.update componentIndex componentNftId 0)

def removeComponent (w : World H) (env : Env) (parentNftId componentNftId : ℕ) :
    Except Revert (World H) := do
  BelAccess.checkRoles w .assets env.sender BelRoles.MANAGE_ASSET
  let _ ← existing w.assets parentNftId
  let comp ← existing w.assets componentNftId
  revertIf (comp.parent ≠ parentNftId) (.NotAttached parentNftId componentNftId)
  let (list, componentIndex) ← detach w.assets parentNftId componentNftId
  let assets := { w.assets with
    assets := Function.update w.assets.assets componentNftId { comp with parent := 0 }
    components := Function.update w.assets.components parentNftId list
    componentIndex }
  audit { w with assets } .assets env (utf8 "ASSET") comp.assetId (utf8 "COMPONENT_REMOVE")

def nftIdOf (s : Storage H) (assetId : Bytes) : ℕ := s.idByAssetId (keccak256 assetId)

def «exists» (s : Storage H) (nftId : ℕ) : Bool := decide ((s.assets nftId).state ≠ .NONE)

def stateOf (s : Storage H) (nftId : ℕ) : Except Revert Bytes := do
  let a ← existing s nftId
  pure (stateName a.state)

def custodianOf (s : Storage H) (nftId : ℕ) : Except Revert Address := do
  let a ← existing s nftId
  pure a.custodian

def ownerOfAsset (s : Storage H) (nftId : ℕ) : Except Revert Address := do
  let _ ← existing s nftId
  ownerOf s.owners nftId

def totalMinted (s : Storage H) : Except Revert ℕ := checkedSub (.Panic .arithmetic) s.nextId 1

/-- `approve`, `setApprovalForAll`, `transferFrom` and both forms of `safeTransferFrom`. -/
def directTransfer : Except Revert (World H) := .error .DirectTransferDisabled

end AssetRegistry

section Specifications
open AssetRegistry

omit [Keccak H] [DecidableEq H] in
theorem existingAsset_bind_eq_ok {s : Storage H} {nftId : ℕ} {β : Type}
    {f : AssetRecord → Except Revert β} {v : β} :
    (existing s nftId >>= f) = .ok v ↔
      (s.assets nftId).state ≠ .NONE ∧ f (s.assets nftId) = .ok v := by
  rw [ok_bind_iff]
  simp only [existing,revertIf_bind_eq_ok,ok_pure_iff]
  constructor
  · rintro ⟨a,⟨hne,rfl⟩,hf⟩
    exact ⟨hne,hf⟩
  · rintro ⟨hne,hf⟩
    exact ⟨_,⟨hne,rfl⟩,hf⟩

/-- The world after an asset operation: new asset storage and a longer audit log. -/
def AssetStep (w w' : World H) (assets : Storage H) : Prop :=
  ∃ log, w' = { w with assets, audit := log } ∧ log.isRecorder = w.audit.isRecorder

/-- The two ways to pass `_checkTransferAccess`. -/
def TransferAuthorised (w : World H) (env : Env) (nftId : ℕ) : Prop :=
  (Authorised w .assets env.sender BelRoles.ENGINEER ∧
    hasActiveTransferGrant w.assets env nftId env.sender = true) ∨
  (BelAccess.hasAnyRole w env.sender BelRoles.ENGINEER = false ∧
    Authorised w .assets env.sender BelRoles.TRANSFER_ASSET)

omit [DecidableEq H] in
theorem checkTransferAccess_eq_ok {w : World H} {env : Env} {nftId : ℕ} {u : Unit} :
    checkTransferAccess w env nftId = .ok u ↔ TransferAuthorised w env nftId := by
  cases hrole : BelAccess.hasAnyRole w env.sender BelRoles.ENGINEER with
  | false =>
    have hnot : ¬Authorised w .assets env.sender BelRoles.ENGINEER := by
      intro ha
      simp only [BelAccess.hasAnyRole,decide_eq_false_iff_not,ne_eq,not_not] at hrole
      exact ha.roles hrole
    simp [checkTransferAccess,TransferAuthorised,hrole,hnot,checkRoles_eq_ok]
  | true =>
    simp [checkTransferAccess,TransferAuthorised,hrole,checkRoles_bind_eq_ok]

theorem mintAsset_cases {w w' : World H} {env : Env} {assetId : Bytes} {owner : Address} {nftId : ℕ}
    (h : mintAsset w env assetId owner = .ok (nftId,w')) :
    Authorised w .assets env.sender BelRoles.REGISTER_ASSET ∧
    (assetId.length ≠ 0 ∧ assetId.length ≤ MAX_ASSET_ID_LENGTH) ∧
    owner ≠ 0 ∧ (w.identity.wallets owner).status = .ACTIVE ∧
    w.assets.idByAssetId (keccak256 assetId) = 0 ∧ w.assets.nextId + 1 < 2 ^ 256 ∧
    w.assets.owners w.assets.nextId = 0 ∧ nftId = w.assets.nextId ∧
    AssetStep w w' { w.assets with
      nextId := w.assets.nextId + 1
      owners := Function.update w.assets.owners w.assets.nextId owner
      idByAssetId := Function.update w.assets.idByAssetId (keccak256 assetId) w.assets.nextId
      assets := Function.update w.assets.assets w.assets.nextId
        { assetId, custodian := owner, parent := 0, state := .ACTIVE,
          mintedAt := uint64 env.timestamp } } := by
  simp only [mintAsset,requireActiveRecipient,checkRoles_bind_eq_ok,revertIf_bind_eq_ok,not_or,
    Nat.not_lt,gt_iff_lt,isActiveWallet_false_iff,not_not,ne_eq] at h
  obtain ⟨hauth,hlen,⟨hzero,hactive⟩,hfresh,h⟩ := h
  obtain ⟨next,hnext,h⟩ := ok_bind_iff.mp h
  obtain ⟨hbound,rfl⟩ := checkedAdd_eq_ok.mp hnext
  obtain ⟨owners,howners,h⟩ := ok_bind_iff.mp h
  simp only [mint,revertIf_bind_eq_ok,ok_pure_iff,not_not,ne_eq] at howners
  obtain ⟨-,hfree,rfl⟩ := howners
  obtain ⟨v,haudit,h⟩ := ok_bind_iff.mp h
  simp only [ok_pure_iff,Prod.mk.injEq] at h
  obtain ⟨rfl,rfl⟩ := h
  exact ⟨hauth,hlen,hzero,hactive,hfresh,hbound,hfree,rfl,audit_frame haudit⟩

theorem transferAsset_cases {w w' : World H} {env : Env} {nftId : ℕ} {newOwner : Address}
    (h : transferAsset w env nftId newOwner = .ok w') :
    TransferAuthorised w env nftId ∧
    (w.assets.assets nftId).state ≠ .NONE ∧ (w.assets.assets nftId).state ≠ .DECOMMISSIONED ∧
    (w.assets.assets nftId).parent = 0 ∧
    newOwner ≠ 0 ∧ (w.identity.wallets newOwner).status = .ACTIVE ∧
    w.assets.owners nftId ≠ 0 ∧ w.assets.owners nftId ≠ newOwner ∧
    AssetStep w w' { w.assets with
      owners := Function.update w.assets.owners nftId newOwner
      assets := Function.update w.assets.assets nftId
        { w.assets.assets nftId with custodian := newOwner } } := by
  obtain ⟨_,haccess,h⟩ := ok_bind_iff.mp h
  simp only [existingAsset_bind_eq_ok,requireActiveRecipient,revertIf_bind_eq_ok,not_or,
    isActiveWallet_false_iff,not_not,ne_eq] at h
  obtain ⟨hexists,hdecom,hparent,⟨hzero,hactive⟩,h⟩ := h
  obtain ⟨source,hsource,h⟩ := ok_bind_iff.mp h
  simp only [ownerOf,revertIf_bind_eq_ok,ok_pure_iff] at hsource
  obtain ⟨howner,rfl⟩ := hsource
  rw [revertIf_bind_eq_ok] at h
  obtain ⟨hsame,h⟩ := h
  obtain ⟨owners,howners,haudit⟩ := ok_bind_iff.mp h
  obtain ⟨-,-,-,rfl⟩ := transfer_eq_ok.mp howners
  exact ⟨checkTransferAccess_eq_ok.mp haccess,hexists,hdecom,hparent,hzero,hactive,howner,hsame,
    audit_frame haudit⟩

theorem setTransferGrant_cases {w w' : World H} {env : Env} {nftId expiresAt : ℕ} {actor : Address}
    {active : Bool} {grantId : Bytes}
    (h : setTransferGrant w env nftId actor expiresAt active grantId = .ok w') :
    Authorised w .assets env.sender BelRoles.MANAGE_ROLES ∧
    (w.assets.assets nftId).state ≠ .NONE ∧ actor ≠ 0 ∧
    AssetStep w w' { w.assets with
      transferGrants := Function.update w.assets.transferGrants nftId
        (Function.update (w.assets.transferGrants nftId) actor { expiresAt, active }) } := by
  simp only [setTransferGrant,checkRoles_bind_eq_ok,existingAsset_bind_eq_ok,
    revertIf_bind_eq_ok] at h
  obtain ⟨hauth,hexists,hzero,haudit⟩ := h
  exact ⟨hauth,hexists,hzero,audit_frame haudit⟩

theorem parseState_ne_none {s : Bytes} {state : AssetState} (h : parseState H s = .ok state) :
    state ≠ .NONE := by
  unfold parseState at h
  split at h
  · cases h; decide
  split at h
  · cases h; decide
  split at h
  · cases h; decide
  · cases h

theorem changeAssetState_cases {w w' : World H} {env : Env} {nftId : ℕ} {newState : Bytes}
    (h : changeAssetState w env nftId newState = .ok w') :
    Authorised w .assets env.sender BelRoles.MANAGE_ASSET ∧
    (w.assets.assets nftId).state ≠ .NONE ∧ (w.assets.assets nftId).state ≠ .DECOMMISSIONED ∧
    ∃ target, parseState H newState = .ok target ∧ (w.assets.assets nftId).state ≠ target ∧
      AssetStep w w' { w.assets with
        assets := Function.update w.assets.assets nftId
          { w.assets.assets nftId with state := target } } := by
  simp only [changeAssetState,checkRoles_bind_eq_ok,existingAsset_bind_eq_ok] at h
  obtain ⟨hauth,hexists,h⟩ := h
  obtain ⟨target,htarget,h⟩ := ok_bind_iff.mp h
  simp only [revertIf_bind_eq_ok,not_or] at h
  obtain ⟨⟨hsame,hdecom⟩,haudit⟩ := h
  exact ⟨hauth,hexists,hdecom,target,htarget,hsame,audit_frame haudit⟩

theorem attachComponent_cases {w w' : World H} {env : Env} {parent component : ℕ}
    (h : attachComponent w env parent component = .ok w') :
    Authorised w .assets env.sender BelRoles.MANAGE_ASSET ∧ parent ≠ component ∧
    (w.assets.assets parent).state ≠ .NONE ∧ (w.assets.assets component).state ≠ .NONE ∧
    (w.assets.assets parent).state ≠ .DECOMMISSIONED ∧
    (w.assets.assets component).state ≠ .DECOMMISSIONED ∧
    (w.assets.assets component).parent = 0 ∧
    ancestorLoop (fun cur => (w.assets.assets cur).parent) parent component w.assets.nextId
      (w.assets.assets parent).parent = .ok () ∧
    AssetStep w w' { w.assets with
      assets := Function.update w.assets.assets component
        { w.assets.assets component with parent }
      components := Function.update w.assets.components parent
        (w.assets.components parent ++ [component])
      componentIndex := Function.update w.assets.componentIndex component
        (w.assets.components parent ++ [component]).length } := by
  simp only [attachComponent,checkRoles_bind_eq_ok,existingAsset_bind_eq_ok,revertIf_bind_eq_ok,
    not_not,ne_eq] at h
  obtain ⟨hauth,hself,hparent,hcomp,hpdecom,hcdecom,hfree,h⟩ := h
  obtain ⟨_,hloop,haudit⟩ := ok_bind_iff.mp h
  exact ⟨hauth,hself,hparent,hcomp,hpdecom,hcdecom,hfree,hloop,audit_frame haudit⟩

/-- What `removeComponent` stores, as a function of the last member of the parent's list. -/
def removed (s : Storage H) (parent component last : ℕ) : Storage H :=
  { s with
    assets := Function.update s.assets component { s.assets component with parent := 0 }
    components := Function.update s.components parent
      (((s.components parent).set (s.componentIndex component - 1) last).dropLast)
    componentIndex := Function.update
      (Function.update s.componentIndex last (s.componentIndex component - 1 + 1)) component 0 }

omit [Keccak H] [DecidableEq H] in
theorem detach_eq_ok {s : Storage H} {parent component : ℕ} {r : List ℕ × (ℕ → ℕ)} :
    detach s parent component = .ok r ↔
      1 ≤ s.componentIndex component ∧ 1 ≤ (s.components parent).length ∧
      s.componentIndex component - 1 < (s.components parent).length ∧
      s.componentIndex component - 1 + 1 < 2 ^ 256 ∧
      ∃ last, (s.components parent)[(s.components parent).length - 1]? = some last ∧
        (((s.components parent).set (s.componentIndex component - 1) last).dropLast,
          Function.update (Function.update s.componentIndex last
            (s.componentIndex component - 1 + 1)) component 0) = r := by
  constructor
  · intro h
    obtain ⟨idx,hidx,h⟩ := ok_bind_iff.mp h
    obtain ⟨hpos,rfl⟩ := checkedSub_eq_ok.mp hidx
    obtain ⟨lastIdx,hlastIdx,h⟩ := ok_bind_iff.mp h
    obtain ⟨hne,rfl⟩ := checkedSub_eq_ok.mp hlastIdx
    obtain ⟨last,hlast,h⟩ := ok_bind_iff.mp h
    obtain ⟨list,hlist,h⟩ := ok_bind_iff.mp h
    obtain ⟨hlt,rfl⟩ := writeAt_eq_ok.mp hlist
    obtain ⟨position,hposition,h⟩ := ok_bind_iff.mp h
    obtain ⟨hbound,rfl⟩ := checkedAdd_eq_ok.mp hposition
    obtain ⟨popped,hpopped,h⟩ := ok_bind_iff.mp h
    obtain ⟨-,rfl⟩ := popLast_eq_ok.mp hpopped
    exact ⟨hpos,hne,hlt,hbound,last,readAt_eq_ok.mp hlast,ok_pure_iff.mp h⟩
  · rintro ⟨hpos,hne,hlt,hbound,last,hlast,rfl⟩
    refine ok_bind_iff.mpr ⟨_,checkedSub_eq_ok.mpr ⟨hpos,rfl⟩,?_⟩
    refine ok_bind_iff.mpr ⟨_,checkedSub_eq_ok.mpr ⟨hne,rfl⟩,?_⟩
    refine ok_bind_iff.mpr ⟨_,readAt_eq_ok.mpr hlast,?_⟩
    refine ok_bind_iff.mpr ⟨_,writeAt_eq_ok.mpr ⟨hlt,rfl⟩,?_⟩
    refine ok_bind_iff.mpr ⟨_,checkedAdd_eq_ok.mpr ⟨hbound,rfl⟩,?_⟩
    refine ok_bind_iff.mpr ⟨_,popLast_eq_ok.mpr ⟨?_,rfl⟩,rfl⟩
    rw [List.length_set]
    omega

theorem removeComponent_cases {w w' : World H} {env : Env} {parent component : ℕ}
    (h : removeComponent w env parent component = .ok w') :
    Authorised w .assets env.sender BelRoles.MANAGE_ASSET ∧
    (w.assets.assets parent).state ≠ .NONE ∧ (w.assets.assets component).state ≠ .NONE ∧
    (w.assets.assets component).parent = parent ∧
    ∃ last, (w.assets.components parent)[(w.assets.components parent).length - 1]? = some last ∧
      AssetStep w w' (removed w.assets parent component last) := by
  simp only [removeComponent,checkRoles_bind_eq_ok,existingAsset_bind_eq_ok,revertIf_bind_eq_ok,
    not_not,ne_eq] at h
  obtain ⟨hauth,hparent,hcomp,hattached,h⟩ := h
  obtain ⟨r,hdetach,haudit⟩ := ok_bind_iff.mp h
  obtain ⟨-,-,-,-,last,hlast,rfl⟩ := detach_eq_ok.mp hdetach
  exact ⟨hauth,hparent,hcomp,hattached,last,hlast,audit_frame haudit⟩

end Specifications
end BelLedger
