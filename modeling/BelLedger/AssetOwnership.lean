import BelLedger.AssetHierarchy
import BelLedger.IdentityBindings
import Mathlib.Data.Set.Function
import Mathlib.Order.Interval.Set.Basic

/-!
# Ownership and custody of assets

The owner of a token lives in the inherited ERC-721 contract and its custodian in the asset record.
The two agree, every token is found under its asset id, and only a transfer moves a token.
-/
namespace BelLedger
open CheckedCalls TransitionRuns AssetRegistry

variable {H : Type} [Keccak H] [DecidableEq H]

/-- What a successful transaction can do to the asset storage. -/
inductive AssetChange (w : World H) (tx : Tx) : Storage H → Prop
  | same (htarget : tx.call.target ≠ some .assets) : AssetChange w tx w.assets
  | mint (assetId : Bytes) (owner : Address) (hcall : tx.call = .mintAsset assetId owner)
      (howner : owner ≠ 0) (hactive : Active w.identity owner)
      (hfresh : w.assets.idByAssetId (keccak256 assetId) = 0) :
      AssetChange w tx { w.assets with
        nextId := w.assets.nextId + 1
        owners := Function.update w.assets.owners w.assets.nextId owner
        idByAssetId := Function.update w.assets.idByAssetId (keccak256 assetId) w.assets.nextId
        assets := Function.update w.assets.assets w.assets.nextId
          { assetId, custodian := owner, parent := 0, state := .ACTIVE,
            mintedAt := uint64 tx.env.timestamp } }
  | transfer (nftId : ℕ) (newOwner : Address) (hcall : tx.call = .transferAsset nftId newOwner)
      (hminted : Minted w.assets nftId) (hstate : (w.assets.assets nftId).state ≠ .DECOMMISSIONED)
      (hparent : parentOf w.assets nftId = 0) (howner : newOwner ≠ 0)
      (hactive : Active w.identity newOwner) :
      AssetChange w tx { w.assets with
        owners := Function.update w.assets.owners nftId newOwner
        assets := Function.update w.assets.assets nftId
          { w.assets.assets nftId with custodian := newOwner } }
  | grant (nftId : ℕ) (actor : Address) (expiresAt : ℕ) (active : Bool) (grantId : Bytes)
      (hcall : tx.call = .setTransferGrant nftId actor expiresAt active grantId)
      (hminted : Minted w.assets nftId) :
      AssetChange w tx { w.assets with
        transferGrants := Function.update w.assets.transferGrants nftId
          (Function.update (w.assets.transferGrants nftId) actor { expiresAt, active }) }
  | state (nftId : ℕ) (newState : Bytes) (target : AssetState)
      (hcall : tx.call = .changeAssetState nftId newState) (hminted : Minted w.assets nftId)
      (hstate : (w.assets.assets nftId).state ≠ .DECOMMISSIONED) (htarget : target ≠ .NONE) :
      AssetChange w tx { w.assets with
        assets := Function.update w.assets.assets nftId
          { w.assets.assets nftId with state := target } }
  | attach (parent component : ℕ) (hcall : tx.call = .attachComponent parent component)
      (hminted : Minted w.assets component)
      (hparent : (w.assets.assets parent).state ≠ .DECOMMISSIONED)
      (hstate : (w.assets.assets component).state ≠ .DECOMMISSIONED) :
      AssetChange w tx { w.assets with
        assets := Function.update w.assets.assets component
          { w.assets.assets component with parent }
        components := Function.update w.assets.components parent
          (w.assets.components parent++[component])
        componentIndex := Function.update w.assets.componentIndex component
          (w.assets.components parent++[component]).length }
  | remove (parent component last : ℕ) (hcall : tx.call = .removeComponent parent component)
      (hminted : Minted w.assets component) :
      AssetChange w tx (removed w.assets parent component last)

theorem exec_assetChange {w w' : World H} {tx : Tx} (hd : Deployed w) (hs : exec w tx = .ok w') :
    AssetChange w tx w'.assets := by
  by_cases htarget : tx.call.target = some .assets
  swap
  · rw [(exec_frame hd hs).assets htarget]
    exact .same htarget
  rcases tx with ⟨env,call⟩
  cases call with
  | wire r a b c => exact absurd hs (exec_wire_ne_ok hd)
  | mintAsset assetId owner =>
    obtain ⟨⟨nftId,v⟩,hmint,hv⟩ := ok_bind_iff.mp hs
    obtain rfl := ok_pure_iff.mp hv
    obtain ⟨-,-,howner,hactive,hfresh,-,-,-,log,rfl,-⟩ := mintAsset_cases hmint
    exact .mint assetId owner rfl howner hactive hfresh
  | transferAsset nftId newOwner =>
    obtain ⟨-,hminted,hstate,hparent,howner,hactive,-,-,log,rfl,-⟩ := transferAsset_cases hs
    exact .transfer nftId newOwner rfl hminted hstate hparent howner hactive
  | setTransferGrant nftId actor expiresAt active grantId =>
    obtain ⟨-,hminted,-,log,rfl,-⟩ := setTransferGrant_cases hs
    exact .grant nftId actor expiresAt active grantId rfl hminted
  | changeAssetState nftId newState =>
    obtain ⟨-,hminted,hstate,target,hparse,-,log,rfl,-⟩ := changeAssetState_cases hs
    exact .state nftId newState target rfl hminted hstate (parseState_ne_none hparse)
  | attachComponent parent component =>
    obtain ⟨-,-,-,hminted,hparent,hstate,-,-,log,rfl,-⟩ := attachComponent_cases hs
    exact .attach parent component rfl hminted hparent hstate
  | removeComponent parent component =>
    obtain ⟨-,-,hminted,-,last,-,log,rfl,-⟩ := removeComponent_cases hs
    exact .remove parent component last rfl hminted
  | approve _ _ => cases hs
  | setApprovalForAll _ _ => cases hs
  | transferFrom _ _ _ => cases hs
  | safeTransferFrom _ _ _ _ => cases hs
  | _ => simp [Call.target] at htarget

/-- The owner table, the custodians and the asset-id index describe the same tokens. -/
structure OwnershipInvariant (s : Storage H) : Prop where
  owned : ∀ t,Minted s t → s.owners t ≠ 0
  custodian : ∀ t,Minted s t → (s.assets t).custodian = s.owners t
  unowned : ∀ t,¬Minted s t → s.owners t = 0
  indexed : ∀ t,Minted s t → s.idByAssetId (keccak256 (s.assets t).assetId) = t
  found : ∀ k,s.idByAssetId k ≠ 0 → Minted s (s.idByAssetId k) ∧
    keccak256 (s.assets (s.idByAssetId k)).assetId = k

namespace OwnershipInvariant

variable {s s' : Storage H}

omit [DecidableEq H] in
/-- A rewrite of one minted token's record that keeps its id and its custodian. -/
private theorem rewrite (h : OwnershipInvariant s) {c : ℕ} {a : AssetRecord} (hc : Minted s c)
    (hassets : s'.assets = Function.update s.assets c a) (hstate : a.state ≠ .NONE)
    (hid : a.assetId = (s.assets c).assetId) (hcustodian : a.custodian = (s.assets c).custodian)
    (howners : s'.owners = s.owners) (hindex : s'.idByAssetId = s.idByAssetId) :
    OwnershipInvariant s' := by
  have hminted : ∀ t,Minted s' t ↔ Minted s t := by
    intro t
    unfold Minted at hc ⊢
    by_cases ht : t = c
    · subst ht
      simp [hassets,hstate,hc]
    · simp [hassets,ht]
  have hids : ∀ t,(s'.assets t).assetId = (s.assets t).assetId := by
    intro t
    by_cases ht : t = c
    · subst ht
      simp [hassets,hid]
    · simp [hassets,ht]
  have hcustodians : ∀ t,(s'.assets t).custodian = (s.assets t).custodian := by
    intro t
    by_cases ht : t = c
    · subst ht
      simp [hassets,hcustodian]
    · simp [hassets,ht]
  refine ⟨?_,?_,?_,?_,?_⟩
  · intro t ht
    rw [howners]
    exact h.owned t ((hminted t).mp ht)
  · intro t ht
    rw [hcustodians,howners]
    exact h.custodian t ((hminted t).mp ht)
  · intro t ht
    rw [howners]
    exact h.unowned t (fun hm => ht ((hminted t).mpr hm))
  · intro t ht
    rw [hids,hindex]
    exact h.indexed t ((hminted t).mp ht)
  · intro k hk
    rw [hindex] at hk ⊢
    rw [hids,hminted]
    exact h.found k hk

omit [DecidableEq H] in
private theorem transfer (h : OwnershipInvariant s) {c : ℕ} {newOwner : Address}
    (hc : Minted s c) (howner : newOwner ≠ 0) :
    OwnershipInvariant { s with
      owners := Function.update s.owners c newOwner
      assets := Function.update s.assets c { s.assets c with custodian := newOwner } } := by
  have hrecord : ∀ t,Function.update s.assets c { s.assets c with custodian := newOwner } t =
      { s.assets t with custodian := if t = c then newOwner else (s.assets t).custodian } := by
    intro t
    by_cases ht : t = c
    · subst ht
      simp
    · simp [ht]
  refine ⟨?_,?_,?_,?_,?_⟩
  · intro t ht
    simp only [Minted,hrecord] at ht
    by_cases htc : t = c
    · simpa [htc] using howner
    · simpa [htc] using h.owned t ht
  · intro t ht
    simp only [Minted,hrecord] at ht ⊢
    by_cases htc : t = c
    · simp [htc]
    · simpa [htc] using h.custodian t ht
  · intro t ht
    simp only [Minted,hrecord] at ht
    have htc : t ≠ c := fun he => ht (he ▸ hc)
    simpa [htc] using h.unowned t ht
  · intro t ht
    simp only [Minted,hrecord] at ht ⊢
    exact h.indexed t ht
  · intro k hk
    simp only [Minted,hrecord]
    exact h.found k hk

private theorem mint (h : OwnershipInvariant s) (hh : HierarchyInvariant s) {assetId : Bytes}
    {owner : Address} {mintedAt : ℕ} (howner : owner ≠ 0)
    (hfresh : s.idByAssetId (keccak256 assetId) = 0) :
    OwnershipInvariant { s with
      nextId := s.nextId + 1
      owners := Function.update s.owners s.nextId owner
      idByAssetId := Function.update s.idByAssetId (keccak256 assetId) s.nextId
      assets := Function.update s.assets s.nextId
        { assetId, custodian := owner, parent := 0, state := .ACTIVE, mintedAt } } := by
  have hnew : ¬Minted s s.nextId := by
    rw [hh.minted_iff]
    omega
  have hold : ∀ t,Minted s t → t ≠ s.nextId := fun t ht he => hnew (he ▸ ht)
  -- a token already minted is indexed under another key
  have hkey : ∀ t,Minted s t → (keccak256 (s.assets t).assetId : H) ≠ keccak256 assetId := by
    intro t ht he
    have hzero := h.indexed t ht
    rw [he,hfresh] at hzero
    exact hh.zero_not_minted (hzero ▸ ht)
  refine ⟨?_,?_,?_,?_,?_⟩
  · intro t ht
    by_cases htn : t = s.nextId
    · simpa [htn] using howner
    · simp only [Minted,Function.update_of_ne htn] at ht ⊢
      exact h.owned t ht
  · intro t ht
    by_cases htn : t = s.nextId
    · simp [htn]
    · simp only [Minted,Function.update_of_ne htn] at ht ⊢
      exact h.custodian t ht
  · intro t ht
    by_cases htn : t = s.nextId
    · simp [Minted,htn] at ht
    · simp only [Minted,Function.update_of_ne htn] at ht ⊢
      exact h.unowned t ht
  · intro t ht
    by_cases htn : t = s.nextId
    · simp [htn]
    · simp only [Minted,Function.update_of_ne htn] at ht ⊢
      rw [Function.update_of_ne (hkey t ht)]
      exact h.indexed t ht
  · intro k hk
    by_cases hkn : k = keccak256 assetId
    · simp [hkn,Minted]
    · simp only [Function.update_of_ne hkn] at hk ⊢
      obtain ⟨hm,hfound⟩ := h.found k hk
      simp only [Minted,Function.update_of_ne (hold _ hm)]
      exact ⟨hm,hfound⟩

end OwnershipInvariant

section Runs
variable {w w' s : World H} {tx : Tx}

theorem AssetChange.ownership {a : Storage H} (hchange : AssetChange w tx a)
    (hh : HierarchyInvariant w.assets) (h : OwnershipInvariant w.assets) : OwnershipInvariant a := by
  cases hchange with
  | same htarget => exact h
  | mint assetId owner hcall howner hactive hfresh => exact h.mint hh howner hfresh
  | transfer nftId newOwner hcall hminted hstate hparent howner hactive =>
    exact h.transfer hminted howner
  | grant nftId actor expiresAt active grantId hcall hminted =>
    exact h.rewrite hminted (Function.update_eq_self nftId _).symm hminted rfl rfl rfl rfl
  | state nftId newState target hcall hminted hstate htarget =>
    exact h.rewrite hminted rfl htarget rfl rfl rfl rfl
  | attach parent component hcall hminted hparent hstate =>
    exact h.rewrite hminted rfl hminted rfl rfl rfl rfl
  | remove parent component last hcall hminted =>
    exact h.rewrite hminted rfl hminted rfl rfl rfl rfl

private theorem ownership_genesis (d : Deployment) (w : World H) (h : Genesis d w) :
    OwnershipInvariant w.assets := by
  rw [h.assets]
  have hnone : ∀ t,¬Minted ({ AssetRegistry.deploy d.env with access := d.access } : Storage H) t :=
    fun t hm => hm rfl
  exact ⟨fun t ht => absurd ht (hnone t),fun t ht => absurd ht (hnone t),fun _ _ => rfl,
    fun t ht => absurd ht (hnone t),fun k hk => absurd rfl hk⟩

theorem Reachable.ownership (h : Reachable w) : OwnershipInvariant w.assets := by
  obtain ⟨hist,h⟩ := h
  refine h.history_invariant (I := fun _ w => OwnershipInvariant w.assets) ownership_genesis ?_
  intro hist w tx w' hreached hd hi hs
  exact (exec_assetChange hd hs).ownership (Reachable.hierarchy ⟨hist,hreached⟩) hi

/-- Only a transfer gives a minted token another owner. -/
theorem AssetChange.owner {a : Storage H} (hchange : AssetChange w tx a)
    (hh : HierarchyInvariant w.assets) {t : ℕ} (ht : Minted w.assets t) :
    a.owners t = w.assets.owners t ∨
      ∃ newOwner,tx.call = .transferAsset t newOwner ∧ a.owners t = newOwner ∧
        Active w.identity newOwner ∧ parentOf w.assets t = 0 ∧
        (w.assets.assets t).state ≠ .DECOMMISSIONED := by
  cases hchange with
  | mint assetId owner hcall howner hactive hfresh =>
    have htn : t ≠ w.assets.nextId := by
      have hlt := ((hh.minted_iff t).mp ht).2
      omega
    exact .inl (Function.update_of_ne htn _ _)
  | transfer nftId newOwner hcall hminted hstate hparent howner hactive =>
    by_cases htn : t = nftId
    · subst htn
      exact .inr ⟨newOwner,hcall,Function.update_self ..,hactive,hparent,hstate⟩
    · exact .inl (Function.update_of_ne htn _ _)
  | _ => exact .inl rfl

/-- The owner of a minted token is the one of before, or received it as an active wallet. -/
theorem AssetChange.ownerOfMinted {a : Storage H} (hchange : AssetChange w tx a) {t : ℕ}
    (ht : Minted a t) :
    (Minted w.assets t ∧ a.owners t = w.assets.owners t) ∨ Active w.identity (a.owners t) := by
  unfold Minted at ht ⊢
  cases hchange with
  | same htarget => exact .inl ⟨ht,rfl⟩
  | grant nftId actor expiresAt active grantId hcall hminted => exact .inl ⟨ht,rfl⟩
  | mint assetId owner hcall howner hactive hfresh =>
    by_cases htn : t = w.assets.nextId
    · exact .inr (by simpa [htn] using hactive)
    · exact .inl (by simpa [htn] using ht)
  | transfer nftId newOwner hcall hminted hstate hparent howner hactive =>
    by_cases htn : t = nftId
    · exact .inr (by simpa [htn] using hactive)
    · exact .inl (by simpa [htn] using ht)
  | state nftId newState target hcall hminted hstate htarget =>
    by_cases htn : t = nftId
    · exact .inl ⟨htn ▸ hminted,rfl⟩
    · exact .inl (by simpa [htn] using ht)
  | attach parent component hcall hminted hparent hstate =>
    by_cases htn : t = component
    · exact .inl ⟨htn ▸ hminted,rfl⟩
    · exact .inl (by simpa [htn] using ht)
  | remove parent component last hcall hminted =>
    by_cases htn : t = component
    · exact .inl ⟨htn ▸ hminted,rfl⟩
    · exact .inl (by simpa [removed,htn] using ht)

theorem AssetChange.minted {a : Storage H} (hchange : AssetChange w tx a) {t : ℕ}
    (ht : Minted w.assets t) : Minted a t := by
  unfold Minted at ht ⊢
  cases hchange with
  | same htarget => exact ht
  | grant nftId actor expiresAt active grantId hcall hminted => exact ht
  | mint assetId owner hcall howner hactive hfresh =>
    by_cases htn : t = w.assets.nextId
    · simp [htn]
    · simpa [htn] using ht
  | transfer nftId newOwner hcall hminted hstate hparent howner hactive =>
    by_cases htn : t = nftId
    · simpa [Minted,htn] using hminted
    · simpa [htn] using ht
  | state nftId newState target hcall hminted hstate htarget =>
    by_cases htn : t = nftId
    · simpa [htn] using htarget
    · simpa [htn] using ht
  | attach parent component hcall hminted hparent hstate =>
    by_cases htn : t = component
    · simpa [Minted,htn] using hminted
    · simpa [htn] using ht
  | remove parent component last hcall hminted =>
    by_cases htn : t = component
    · simpa [Minted,removed,htn] using hminted
    · simpa [removed,htn] using ht

/-- An asset id stays with its token. -/
theorem AssetChange.index {a : Storage H} (hchange : AssetChange w tx a) {k : H}
    (hk : w.assets.idByAssetId k ≠ 0) : a.idByAssetId k = w.assets.idByAssetId k := by
  cases hchange with
  | mint assetId owner hcall howner hactive hfresh =>
    have hne : k ≠ keccak256 assetId := by
      rintro rfl
      exact hk hfresh
    exact Function.update_of_ne hne _ _
  | _ => rfl

/-- A call that attaches token `t` to another one, or another one to it. -/
def Attaches (call : Call) (t : ℕ) : Prop :=
  ∃ parent component,call = .attachComponent parent component ∧ (parent = t ∨ component = t)

/-- A decommissioned token takes part in nothing but grants and removals. -/
theorem AssetChange.decommissioned {a : Storage H} (hchange : AssetChange w tx a)
    (hh : HierarchyInvariant w.assets) {t : ℕ}
    (ht : (w.assets.assets t).state = .DECOMMISSIONED) :
    (a.assets t).state = .DECOMMISSIONED ∧ ¬Attaches tx.call t := by
  have hminted : Minted w.assets t := by
    unfold Minted
    rw [ht]
    decide
  have hcalls : ∀ {call : Call},tx.call = call →
      (∀ parent component,call ≠ .attachComponent parent component) → ¬Attaches tx.call t := by
    rintro call hcall hne ⟨parent,component,hattach,-⟩
    exact hne parent component (hcall.symm.trans hattach)
  cases hchange with
  | same htarget =>
    refine ⟨ht,?_⟩
    rintro ⟨parent,component,hattach,-⟩
    rw [hattach] at htarget
    exact htarget rfl
  | mint assetId owner hcall howner hactive hfresh =>
    have htn : t ≠ w.assets.nextId := by
      have hlt := ((hh.minted_iff t).mp hminted).2
      omega
    exact ⟨by simpa [htn] using ht,hcalls hcall (by simp)⟩
  | transfer nftId newOwner hcall hm hstate hparent howner hactive =>
    have htn : t ≠ nftId := fun he => hstate (he ▸ ht)
    exact ⟨by simpa [htn] using ht,hcalls hcall (by simp)⟩
  | grant nftId actor expiresAt active grantId hcall hm => exact ⟨ht,hcalls hcall (by simp)⟩
  | state nftId newState target hcall hm hstate htarget =>
    have htn : t ≠ nftId := fun he => hstate (he ▸ ht)
    exact ⟨by simpa [htn] using ht,hcalls hcall (by simp)⟩
  | attach parent component hcall hm hparent hstate =>
    have htp : t ≠ parent := fun he => hparent (he ▸ ht)
    have htc : t ≠ component := fun he => hstate (he ▸ ht)
    refine ⟨by simpa [htc] using ht,?_⟩
    rintro ⟨p,c,hattach,hpc⟩
    obtain ⟨rfl,rfl⟩ := Call.attachComponent.inj (hcall.symm.trans hattach)
    rcases hpc with rfl | rfl
    · exact htp rfl
    · exact htc rfl
  | remove parent component last hcall hm =>
    refine ⟨?_,hcalls hcall (by simp)⟩
    by_cases htc : t = component
    · simpa [removed,htc] using ht
    · simpa [removed,htc] using ht

/-- The public ERC-721 entry points that move tokens or set approvals. -/
def Call.isDirect : Call → Bool
  | .approve _ _ | .setApprovalForAll _ _ | .transferFrom _ _ _ | .safeTransferFrom _ _ _ _ => true
  | _ => false

/-- The asset ids of the minted tokens. -/
def assetIds (s : Storage H) : Set Bytes := {id | ∃ t,Minted s t ∧ (s.assets t).assetId = id}

/-- What holds of ownership in one state. -/
structure Ownership (w : World H) : Prop where
  tokens : ∃ n,totalMinted w.assets = .ok n ∧
    (∀ t,AssetRegistry.exists w.assets t = true ↔ 1 ≤ t ∧ t ≤ n) ∧
    Set.BijOn (nftIdOf w.assets) (assetIds w.assets) (Set.Icc 1 n)
  unknown_id : ∀ id,id ∉ assetIds w.assets → nftIdOf w.assets id = 0
  custodian : ∀ t,Minted w.assets t → ∃ a,ownerOf w.assets.owners t = .ok a ∧
    ownerOfAsset w.assets t = .ok a ∧ custodianOf w.assets t = .ok a
  unowned : ∀ t,¬Minted w.assets t →
    ownerOf w.assets.owners t = .error (.Reason "ERC721: invalid token ID")
  direct : ∀ tx,tx.call.isDirect = true → exec w tx = .error .DirectTransferDisabled

/-- What holds of ownership over a run from `s` to `w`. -/
structure OwnershipKept (s : World H) (later : List (World H × Tx)) (w : World H) : Prop where
  transferred : ∀ t,Minted s.assets t → w.assets.owners t ≠ s.assets.owners t →
    ∃ p tx newOwner,(p,tx) ∈ later ∧ tx.call = .transferAsset t newOwner ∧
      w.assets.owners t = newOwner ∧ Active p.identity newOwner ∧ parentOf p.assets t = 0
  attached : ∀ t,Minted s.assets t → (∀ p tx,(p,tx) ∈ later → parentOf p.assets t ≠ 0) →
    w.assets.owners t = s.assets.owners t
  frozen : ∀ t,(s.assets.assets t).state = .DECOMMISSIONED →
    (w.assets.assets t).state = .DECOMMISSIONED ∧ w.assets.owners t = s.assets.owners t ∧
    (w.assets.assets t).custodian = (s.assets.assets t).custodian ∧
    ∀ p tx,(p,tx) ∈ later → ¬Attaches tx.call t

omit [DecidableEq H] in
private theorem nftIdOf_bijOn (hh : HierarchyInvariant w.assets)
    (ho : OwnershipInvariant w.assets) :
    Set.BijOn (nftIdOf w.assets) (assetIds w.assets) (Set.Icc 1 (w.assets.nextId - 1)) := by
  have hindex : ∀ t,Minted w.assets t → nftIdOf w.assets (w.assets.assets t).assetId = t :=
    ho.indexed
  refine ⟨?_,?_,?_⟩
  · rintro _ ⟨t,ht,rfl⟩
    rw [hindex t ht,Set.mem_Icc]
    have hrange := (hh.minted_iff t).mp ht
    omega
  · rintro _ ⟨t,ht,rfl⟩ _ ⟨u,hu,rfl⟩ heq
    rw [hindex t ht,hindex u hu] at heq
    rw [heq]
  · intro t ht
    rw [Set.mem_Icc] at ht
    have hminted : Minted w.assets t := by
      rw [hh.minted_iff]
      omega
    exact ⟨_,⟨t,hminted,rfl⟩,hindex t hminted⟩

private theorem Reachable.ownership_state (hinj : Function.Injective (keccak256 : Bytes → H))
    (hw : Reachable w) : Ownership w := by
  have hh := hw.hierarchy
  have ho := hw.ownership
  refine ⟨⟨w.assets.nextId - 1,?_,?_,nftIdOf_bijOn hh ho⟩,?_,?_,?_,?_⟩
  · exact checkedSub_eq_ok.mpr ⟨hh.nextId_pos,rfl⟩
  · intro t
    have hiff := hh.minted_iff t
    unfold Minted at hiff
    simp only [AssetRegistry.exists,decide_eq_true_eq,hiff]
    omega
  · intro id hid
    by_contra hne
    obtain ⟨hminted,hkey⟩ := ho.found _ hne
    exact hid ⟨_,hminted,hinj hkey⟩
  · intro t ht
    have hstate : (w.assets.assets t).state ≠ .NONE := ht
    have howner : ownerOf w.assets.owners t = .ok (w.assets.owners t) := by
      simp only [ownerOf,revertIf_bind_eq_ok,ok_pure_iff,and_true]
      exact ho.owned t ht
    refine ⟨w.assets.owners t,?_,?_,?_⟩
    · exact howner
    · simp only [ownerOfAsset,existingAsset_bind_eq_ok]
      exact ⟨hstate,howner⟩
    · simp only [custodianOf,existingAsset_bind_eq_ok,ok_pure_iff]
      exact ⟨hstate,ho.custodian t ht⟩
  · intro t ht
    rw [ownerOf,ho.unowned t ht]
    rfl
  · rintro ⟨env,call⟩ hdirect
    cases call with
    | approve _ _ => rfl
    | setApprovalForAll _ _ => rfl
    | transferFrom _ _ _ => rfl
    | safeTransferFrom _ _ _ _ => rfl
    | _ => cases hdirect

/-- One more transaction after a run. -/
private theorem OwnershipKept.step {later : List (World H × Tx)} (hs : Reachable s)
    (hw : Reachable w) (hminted : ∀ t,Minted s.assets t → Minted w.assets t)
    (h : OwnershipKept s later w) (hexec : exec w tx = .ok w') :
    OwnershipKept s ((w,tx)::later) w' := by
  have hchange := exec_assetChange hw.deployed hexec
  have hh := hw.hierarchy
  refine ⟨?_,?_,?_⟩
  · intro t ht hne
    rcases hchange.owner hh (hminted t ht) with hsame | hmoved
    · rw [hsame] at hne ⊢
      obtain ⟨p,tx',newOwner,hmem,hfacts⟩ := h.transferred t ht hne
      exact ⟨p,tx',newOwner,List.mem_cons_of_mem _ hmem,hfacts⟩
    · obtain ⟨newOwner,hcall,howner,hactive,hparent,-⟩ := hmoved
      exact ⟨w,tx,newOwner,List.mem_cons_self,hcall,howner,hactive,hparent⟩
  · intro t ht hattached
    have hearlier := h.attached t ht (fun p tx' hmem => hattached p tx' (List.mem_cons_of_mem _ hmem))
    rcases hchange.owner hh (hminted t ht) with hsame | hmoved
    · exact hsame.trans hearlier
    · obtain ⟨newOwner,-,-,-,hparent,-⟩ := hmoved
      exact absurd hparent (hattached w tx List.mem_cons_self)
  · intro t ht
    have htm : Minted s.assets t := by
      unfold Minted
      rw [ht]
      decide
    obtain ⟨hstate,howner,hcustodian,hnever⟩ := h.frozen t ht
    obtain ⟨hstate',hattach⟩ := hchange.decommissioned hh hstate
    have howner' : w'.assets.owners t = s.assets.owners t := by
      rcases hchange.owner hh (hminted t htm) with hsame | hmoved
      · exact hsame.trans howner
      · obtain ⟨newOwner,-,-,-,-,hne⟩ := hmoved
        exact absurd hstate hne
    refine ⟨hstate',howner',?_,?_⟩
    · rw [(hw.step hexec).ownership.custodian t (hchange.minted (hminted t htm)),howner',
        hs.ownership.custodian t htm]
    · intro p tx' hmem
      rcases List.mem_cons.mp hmem with heq | hmem
      · obtain ⟨rfl,rfl⟩ := Prod.mk.inj heq
        exact hattach
      · exact hnever p tx' hmem

/-- In every reachable state the tokens, their asset ids, owners and custodians match; and along
every run from it only a transfer to an ACTIVE wallet moves a token, never an attached or a
decommissioned one. -/
theorem asset_ownership (hinj : Function.Injective (keccak256 : Bytes → H)) (s : World H)
    (hs : Reachable s) :
    Ownership s ∧ ∀ later w,Run exec s later w → OwnershipKept s later w := by
  refine ⟨hs.ownership_state hinj,?_⟩
  intro later w hrun
  have hinv := hrun.history_invariant (P := fun later w => Reachable w ∧
    (∀ t,Minted s.assets t → Minted w.assets t) ∧ OwnershipKept s later w) ⟨hs,fun _ ht => ht,?_⟩ ?_
  · exact hinv.2.2
  · exact ⟨fun t _ hne => absurd rfl hne,fun _ _ _ => rfl,
      fun t ht => ⟨ht,rfl,rfl,fun p tx hmem => absurd hmem List.not_mem_nil⟩⟩
  · rintro later p tx q - ⟨hreach,hminted,hkept⟩ hstep
    refine ⟨hreach.step hstep,?_,hkept.step hs hreach hminted hstep⟩
    intro t ht
    exact (exec_assetChange hreach.deployed hstep).minted (hminted t ht)

end Runs

section Prototype

/-- The first token changes hands, is decommissioned, and is then to be moved and attached again. -/
def custodyTxs : List Tx :=
  [txOf 0xad 10 (.createIdentity 0xe1 (utf8 "DID:BEL:ENG1")),
   txOf 0xad 11 (.activateWallet 0xe1),
   txOf 0xad 12 (.transferAsset 2 0xe1),
   txOf 0xad 13 (.changeAssetState 2 (utf8 "DECOMMISSIONED")),
   txOf 0xad 14 (.transferAsset 2 0xad),
   txOf 0xad 15 (.attachComponent 1 2)]

theorem asset_ownership_prototype :
    ((history exec (attemptAll exec prototypeWorld hierarchyTxs) custodyTxs).length = 4 ∧
      ownerOfAsset (attemptAll exec (attemptAll exec prototypeWorld hierarchyTxs)
        custodyTxs).assets 2 = .ok 0xe1) ∧
      Ownership (attemptAll exec prototypeWorld hierarchyTxs) ∧
      OwnershipKept (attemptAll exec prototypeWorld hierarchyTxs)
        (history exec (attemptAll exec prototypeWorld hierarchyTxs) custodyTxs)
        (attemptAll exec (attemptAll exec prototypeWorld hierarchyTxs) custodyTxs) := by
  have hall := asset_ownership prototype_keccak_injective _ (prototype_reachable hierarchyTxs)
  exact ⟨by decide +kernel,hall.1,hall.2 _ _ (Run.attemptAll _ custodyTxs)⟩

end Prototype
end BelLedger
