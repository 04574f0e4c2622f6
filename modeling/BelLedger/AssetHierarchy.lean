import BelLedger.DeploymentFacts
import BelLedger.IndexedLists
import BelLedger.ParentForests
import Mathlib.Data.Finset.Range

/-!
# The component hierarchy of AssetRegistry

Parent pointers, per-parent arrays and the 1-based index map describe one forest. The invariant is
stated once on the asset storage; every entry point keeps it, so it holds in every reachable state.
-/
namespace BelLedger
open CheckedCalls TransitionRuns ParentForests IndexedLists AssetRegistry

variable {H : Type}

/-- The parent pointer of each token. -/
def parentOf (s : Storage H) (nftId : ℕ) : ℕ := (s.assets nftId).parent

def Minted (s : Storage H) (nftId : ℕ) : Prop := (s.assets nftId).state ≠ .NONE

structure HierarchyInvariant (s : Storage H) : Prop where
  nextId_pos : 1 ≤ s.nextId
  nextId_lt : s.nextId < 2 ^ 256
  minted_iff : ∀ t,Minted s t ↔ 1 ≤ t ∧ t < s.nextId
  unminted_parent : ∀ t,¬Minted s t → parentOf s t = 0
  parent_minted : ∀ t,parentOf s t ≠ 0 → Minted s (parentOf s t)
  assetId_length : ∀ t,Minted s t →
    (s.assets t).assetId.length ≠ 0 ∧ (s.assets t).assetId.length ≤ MAX_ASSET_ID_LENGTH
  forest : Forest 0 (parentOf s)
  indexed : Indexed 0 (parentOf s) s.components s.componentIndex

namespace HierarchyInvariant

variable {s : Storage H} (h : HierarchyInvariant s)
include h

theorem zero_not_minted : ¬Minted s 0 := by
  rw [h.minted_iff]
  omega

theorem parentOf_zero : parentOf s 0 = 0 := h.unminted_parent 0 h.zero_not_minted

theorem minted_of_parent {t : ℕ} (ht : parentOf s t ≠ 0) : Minted s t := by
  by_contra hn
  exact ht (h.unminted_parent t hn)

theorem above_lt {x y : ℕ} (hx : x ≠ 0 → Minted s x) (hxy : Above 0 (parentOf s) x y)
    (hy : y ≠ 0) : y < s.nextId := by
  induction hxy with
  | refl => exact ((h.minted_iff x).mp (hx hy)).2
  | tail hab hedge ih =>
    obtain ⟨rfl,hne⟩ := hedge
    exact ((h.minted_iff _).mp (h.parent_minted _ hne)).2

/-- The climb from any token ends within as many steps as there are tokens. -/
theorem within (x : ℕ) (hx : x ≠ 0 → Minted s x) : Within 0 (parentOf s) s.nextId x := by
  apply h.forest.within_card s.nextId (Finset.range s.nextId) x
  · intro y hy hne
    exact Finset.mem_range.mpr (h.above_lt hx hy hne)
  · simp

theorem components_length_lt (p : ℕ) : (s.components p).length < s.nextId := by
  have hsub : (s.components p) ⊆ List.range' 1 (s.nextId - 1) := by
    intro c hc
    obtain ⟨hparent,hne⟩ := h.indexed.owner_of_mem hc
    have hc' := (h.minted_iff c).mp (h.minted_of_parent (hparent ▸ hne))
    rw [List.mem_range'_1]
    omega
  have hlen := (h.indexed.nodup p).subperm hsub |>.length_le
  have hpos := h.nextId_pos
  simp only [List.length_range'] at hlen
  omega

end HierarchyInvariant

section AncestorLoop
variable {parent : ℕ → ℕ} {p c : ℕ}

/-- A loop that ends normally has not met the component. -/
theorem ancestorLoop_not_above {budget cur : ℕ} (hc : c ≠ 0) (h0 : parent 0 = 0)
    (h : ancestorLoop parent p c budget cur = .ok ()) : ¬Above 0 parent cur c := by
  have hzero : ¬Above 0 parent 0 c := by
    intro ha
    rcases Relation.ReflTransGen.cases_head ha with he | ⟨d,⟨hd,hne⟩,-⟩
    · exact hc he.symm
    · exact hne (hd.symm.trans h0)
  induction budget generalizing cur with
  | zero =>
    by_cases hcur : cur = 0
    · subst hcur
      exact hzero
    · simp [ancestorLoop,hcur] at h
  | succ budget ih =>
    by_cases hcur : cur = 0
    · subst hcur
      exact hzero
    by_cases heq : cur = c
    · simp [ancestorLoop,heq,hc] at h
    simp only [ancestorLoop,if_neg hcur,if_neg heq] at h
    intro ha
    rcases Relation.ReflTransGen.cases_head ha with he | ⟨d,⟨rfl,-⟩,hd⟩
    · exact heq he
    · exact ih h hd

/-- A climb that ends within the budget never runs out of gas. -/
theorem ancestorLoop_ends {budget cur : ℕ} (h : Within 0 parent budget cur) :
    ancestorLoop parent p c budget cur ≠ .error .OutOfGas := by
  induction budget generalizing cur with
  | zero =>
    have hcur : cur = 0 := h
    simp [ancestorLoop,hcur]
  | succ budget ih =>
    by_cases hcur : cur = 0
    · simp [ancestorLoop,hcur]
    by_cases heq : cur = c
    · subst heq
      simp [ancestorLoop,hcur]
    have hrest : Within 0 parent budget (parent cur) := h.resolve_left hcur
    simpa [ancestorLoop,hcur,heq] using ih hrest

/-- With enough gas the loop decides whether the component is above. -/
theorem ancestorLoop_eq_ok {budget cur : ℕ} (hc : c ≠ 0) (h0 : parent 0 = 0)
    (h : Within 0 parent budget cur) :
    ancestorLoop parent p c budget cur = .ok () ↔ ¬Above 0 parent cur c := by
  refine ⟨ancestorLoop_not_above hc h0,fun habove => ?_⟩
  induction budget generalizing cur with
  | zero =>
    have hcur : cur = 0 := h
    simp [ancestorLoop,hcur]
  | succ budget ih =>
    by_cases hcur : cur = 0
    · simp [ancestorLoop,hcur]
    have heq : cur ≠ c := fun he => habove (he ▸ Relation.ReflTransGen.refl)
    have hrest : Within 0 parent budget (parent cur) := h.resolve_left hcur
    simp only [ancestorLoop,if_neg hcur,if_neg heq]
    apply ih hrest
    intro hparent
    by_cases hzero : parent cur = 0
    · rw [hzero] at hparent
      rcases Relation.ReflTransGen.cases_head hparent with he | ⟨d,⟨hd,hne⟩,-⟩
      · exact hc he.symm
      · exact hne (hd.symm.trans h0)
    · exact habove (hparent.step hzero)

end AncestorLoop

section Steps
variable {s s' : Storage H}

private theorem parentOf_update {t : ℕ} {a : AssetRecord}
    (hs : s'.assets = Function.update s.assets t a) :
    parentOf s' = Function.update (parentOf s) t a.parent := by
  funext x
  by_cases hx : x = t
  · subst hx
    simp [parentOf,hs]
  · simp [parentOf,hs,hx]

private theorem minted_update {t : ℕ} {a : AssetRecord}
    (hs : s'.assets = Function.update s.assets t a) (x : ℕ) :
    Minted s' x ↔ if x = t then a.state ≠ .NONE else Minted s x := by
  by_cases hx : x = t
  · subst hx
    simp [Minted,hs]
  · simp [Minted,hs,hx]

/-- A rewrite of one minted token's record that keeps its id, together with whatever it does to the
lists and the index map. -/
private theorem HierarchyInvariant.rewrite (h : HierarchyInvariant s) {c : ℕ} {a : AssetRecord}
    (hnext : s'.nextId = s.nextId) (hs : s'.assets = Function.update s.assets c a)
    (hc : Minted s c) (hid : a.assetId = (s.assets c).assetId) (hstate : a.state ≠ .NONE)
    (hp : a.parent ≠ 0 → Minted s a.parent)
    (hforest : Forest 0 (Function.update (parentOf s) c a.parent))
    (hindexed : Indexed 0 (Function.update (parentOf s) c a.parent) s'.components
      s'.componentIndex) : HierarchyInvariant s' := by
  have hparents := parentOf_update hs
  have hminted : ∀ x,Minted s' x ↔ Minted s x := by
    intro x
    rw [minted_update hs]
    by_cases hx : x = c
    · subst hx
      simp [hstate,hc]
    · simp [hx]
  refine ⟨hnext ▸ h.nextId_pos,hnext ▸ h.nextId_lt,?_,?_,?_,?_,hparents ▸ hforest,
    hparents ▸ hindexed⟩
  · intro x
    rw [hminted,hnext]
    exact h.minted_iff x
  · intro x hx
    rw [hminted] at hx
    have hxc : x ≠ c := fun he => hx (he ▸ hc)
    rw [hparents,Function.update_of_ne hxc]
    exact h.unminted_parent x hx
  · intro x hx
    rw [hminted]
    rw [hparents] at hx ⊢
    by_cases hxc : x = c
    · subst hxc
      rw [Function.update_self] at hx ⊢
      exact hp hx
    · rw [Function.update_of_ne hxc] at hx ⊢
      exact h.parent_minted x hx
  · intro x hx
    have hlen := h.assetId_length x ((hminted x).mp hx)
    by_cases hxc : x = c
    · subst hxc
      simpa [hs,hid] using hlen
    · simpa [hs,hxc] using hlen

/-- A rewrite that keeps the parent as well leaves the hierarchy alone. -/
private theorem HierarchyInvariant.rewrite_same_parent (h : HierarchyInvariant s) {c : ℕ}
    {a : AssetRecord} (hnext : s'.nextId = s.nextId)
    (hs : s'.assets = Function.update s.assets c a) (hc : Minted s c)
    (hid : a.assetId = (s.assets c).assetId) (hstate : a.state ≠ .NONE)
    (hparent : a.parent = parentOf s c) (hcomponents : s'.components = s.components)
    (hindex : s'.componentIndex = s.componentIndex) : HierarchyInvariant s' := by
  have hsame : Function.update (parentOf s) c a.parent = parentOf s := by
    rw [hparent,Function.update_eq_self]
  apply h.rewrite hnext hs hc hid hstate
  · rw [hparent]
    exact h.parent_minted c
  · rw [hsame]
    exact h.forest
  · rw [hsame,hcomponents,hindex]
    exact h.indexed

private theorem HierarchyInvariant.mint (h : HierarchyInvariant s) {a : AssetRecord}
    (hnext : s'.nextId = s.nextId + 1) (hbound : s.nextId + 1 < 2 ^ 256)
    (hs : s'.assets = Function.update s.assets s.nextId a)
    (hlen : a.assetId.length ≠ 0 ∧ a.assetId.length ≤ MAX_ASSET_ID_LENGTH)
    (hstate : a.state ≠ .NONE) (hparent : a.parent = 0)
    (hcomponents : s'.components = s.components)
    (hindex : s'.componentIndex = s.componentIndex) : HierarchyInvariant s' := by
  have hpos := h.nextId_pos
  have hfresh : ¬Minted s s.nextId := by
    rw [h.minted_iff]
    omega
  have hparents : parentOf s' = parentOf s := by
    rw [parentOf_update hs,hparent,← h.unminted_parent _ hfresh,Function.update_eq_self]
  have hminted : ∀ x,Minted s' x ↔ x = s.nextId ∨ Minted s x := by
    intro x
    rw [minted_update hs]
    by_cases hx : x = s.nextId
    · simp [hx,hstate]
    · simp [hx]
  refine ⟨?_,hnext ▸ hbound,?_,?_,?_,?_,hparents ▸ h.forest,?_⟩
  · rw [hnext]
    omega
  · intro x
    rw [hminted,h.minted_iff,hnext]
    omega
  · intro x hx
    rw [hminted] at hx
    rw [hparents]
    exact h.unminted_parent x (fun hm => hx (.inr hm))
  · intro x hx
    rw [hminted]
    rw [hparents] at hx ⊢
    exact .inr (h.parent_minted x hx)
  · intro x hx
    by_cases hxn : x = s.nextId
    · subst hxn
      simpa [hs] using hlen
    · have hm := ((hminted x).mp hx).resolve_left hxn
      simpa [hs,hxn] using h.assetId_length x hm
  · rw [hparents,hcomponents,hindex]
    exact h.indexed

/-- A loop that let the attachment through has excluded a cycle. -/
private theorem HierarchyInvariant.attach (h : HierarchyInvariant s) {p c : ℕ}
    (hnext : s'.nextId = s.nextId)
    (hs : s'.assets = Function.update s.assets c { s.assets c with parent := p })
    (hp : Minted s p) (hc : Minted s c) (hpc : p ≠ c) (hfree : parentOf s c = 0)
    (hloop : ancestorLoop (parentOf s) p c s.nextId (parentOf s p) = .ok ())
    (hcomponents : s'.components =
      Function.update s.components p (s.components p ++ [c]))
    (hindex : s'.componentIndex =
      Function.update s.componentIndex c (s.components p ++ [c]).length) :
    HierarchyInvariant s' := by
  have hp0 : p ≠ 0 := fun he => h.zero_not_minted (he ▸ hp)
  have hc0 : c ≠ 0 := fun he => h.zero_not_minted (he ▸ hc)
  have habove : ¬Above 0 (parentOf s) p c := by
    intro ha
    rcases Relation.ReflTransGen.cases_head ha with he | ⟨q,⟨rfl,-⟩,hq⟩
    · exact hpc he
    · exact ancestorLoop_not_above hc0 h.parentOf_zero hloop hq
  apply h.rewrite hnext hs hc rfl hc (fun _ => hp)
  · exact h.forest.attach habove
  · rw [hcomponents,hindex]
    exact h.indexed.append hfree hp0

private theorem HierarchyInvariant.remove (h : HierarchyInvariant s) {p c last : ℕ}
    (hc : Minted s c) (hp : Minted s p) (hparent : parentOf s c = p)
    (hlast : (s.components p)[(s.components p).length - 1]? = some last) :
    HierarchyInvariant (removed s p c last) := by
  have hp0 : p ≠ 0 := fun he => h.zero_not_minted (he ▸ hp)
  refine h.rewrite rfl rfl hc rfl hc (fun hne => absurd rfl hne) ?_ ?_
  · exact h.forest.detach c
  · exact h.indexed.swapPop hparent hp0 hlast

end Steps

section Runs
variable [Keccak H] [DecidableEq H]

private theorem hierarchy_genesis (d : Deployment) (w : World H) (h : Genesis d w) :
    HierarchyInvariant w.assets := by
  rw [h.assets]
  refine ⟨Nat.le_refl 1,Nat.one_lt_two_pow (by decide),?_,fun _ _ => rfl,
    fun _ hne => absurd rfl hne,?_,forest_of_no_parents (fun _ => rfl),
    indexed_empty (fun _ => rfl) (fun _ => rfl) (fun _ => rfl)⟩
  · intro t
    have hnone : ¬Minted (AssetRegistry.deploy d.env : Storage H) t := fun hm => hm rfl
    show Minted (AssetRegistry.deploy d.env : Storage H) t ↔ 1 ≤ t ∧ t < 1
    simp only [hnone,false_iff]
    omega
  · intro t ht
    exact absurd rfl ht

private theorem hierarchy_step (w : World H) (tx : Tx) (w' : World H) (hd : Deployed w)
    (h : HierarchyInvariant w.assets) (hs : exec w tx = .ok w') : HierarchyInvariant w'.assets := by
  by_cases htarget : tx.call.target = some .assets
  swap
  · rw [(exec_frame hd hs).assets htarget]
    exact h
  rcases tx with ⟨env,call⟩
  cases call with
  | wire r a b c => exact absurd hs (exec_wire_ne_ok hd)
  | mintAsset assetId owner =>
    obtain ⟨⟨nftId,v⟩,hmint,hv⟩ := ok_bind_iff.mp hs
    obtain rfl := ok_pure_iff.mp hv
    obtain ⟨-,hlen,-,-,-,hbound,-,-,log,rfl,-⟩ := mintAsset_cases hmint
    exact h.mint rfl hbound rfl hlen (by simp) rfl rfl rfl
  | transferAsset nftId newOwner =>
    obtain ⟨-,hexists,-,-,-,-,-,-,log,rfl,-⟩ := transferAsset_cases hs
    exact h.rewrite_same_parent rfl rfl hexists rfl hexists rfl rfl rfl
  | setTransferGrant nftId actor expiresAt active grantId =>
    obtain ⟨-,hexists,-,log,rfl,-⟩ := setTransferGrant_cases hs
    exact h.rewrite_same_parent rfl (Function.update_eq_self nftId _).symm hexists rfl hexists rfl
      rfl rfl
  | changeAssetState nftId newState =>
    obtain ⟨-,hexists,-,target,htarget,-,log,rfl,-⟩ := changeAssetState_cases hs
    exact h.rewrite_same_parent rfl rfl hexists rfl (parseState_ne_none htarget) rfl rfl rfl
  | attachComponent parent component =>
    obtain ⟨-,hne,hp,hc,-,-,hfree,hloop,log,rfl,-⟩ := attachComponent_cases hs
    exact h.attach rfl rfl hp hc hne hfree hloop rfl rfl
  | removeComponent parent component =>
    obtain ⟨-,hp,hc,hparent,last,hlast,log,rfl,-⟩ := removeComponent_cases hs
    exact h.remove hc hp hparent hlast
  | approve _ _ => cases hs
  | setApprovalForAll _ _ => cases hs
  | transferFrom _ _ _ => cases hs
  | safeTransferFrom _ _ _ _ => cases hs
  | _ => simp [Call.target] at htarget

theorem Reachable.hierarchy {w : World H} (h : Reachable w) : HierarchyInvariant w.assets := by
  obtain ⟨hist,h⟩ := h
  exact (h.invariant (I := fun w => HierarchyInvariant w.assets) hierarchy_genesis
    hierarchy_step).2

omit [Keccak H] [DecidableEq H] in
/-- On an attached component every check of the swap-and-pop passes. -/
theorem detach_attached {s : Storage H} (h : HierarchyInvariant s) {c : ℕ}
    (hc : parentOf s c ≠ 0) :
    ∃ last,(s.components (parentOf s c))[(s.components (parentOf s c)).length - 1]? = some last ∧
      detach s (parentOf s c) c =
        .ok ((removed s (parentOf s c) c last).components (parentOf s c),
          (removed s (parentOf s c) c last).componentIndex) := by
  obtain ⟨hpos,hget⟩ := h.indexed.complete c hc
  obtain ⟨hlt,-⟩ := List.getElem?_eq_some_iff.mp hget
  have hlen := h.components_length_lt (parentOf s c)
  have hbound := h.nextId_lt
  have hlast : (s.components (parentOf s c)).length - 1 < (s.components (parentOf s c)).length := by
    omega
  refine ⟨_,List.getElem?_eq_getElem hlast,?_⟩
  rw [detach_eq_ok]
  refine ⟨by omega,by omega,hlt,by omega,_,List.getElem?_eq_getElem hlast,?_⟩
  simp [removed]

/-- An authorised caller always gets an attached component off its parent. -/
theorem removeComponent_succeeds {w : World H} (hd : Deployed w)
    (h : HierarchyInvariant w.assets) {env : Env} {c : ℕ} (hc : parentOf w.assets c ≠ 0)
    (hauth : Authorised w .assets env.sender BelRoles.MANAGE_ASSET) :
    ∃ last w',removeComponent w env (parentOf w.assets c) c = .ok w' ∧
      (w.assets.components (parentOf w.assets c))[
        (w.assets.components (parentOf w.assets c)).length - 1]? = some last ∧
      w'.assets = removed w.assets (parentOf w.assets c) c last := by
  obtain ⟨last,hlast,hdetach⟩ := detach_attached h hc
  have hminted := h.minted_of_parent hc
  have hvalid : AuditEntry.Valid { w with assets := removed w.assets (parentOf w.assets c) c last }
      (w.addr.of .assets) (utf8 "ASSET") (w.assets.assets c).assetId (utf8 "COMPONENT_REMOVE") := by
    refine ⟨(hd.recorder _).mpr ⟨.assets,rfl⟩,?_,h.assetId_length c hminted,by decide,by decide⟩
    simp [AuditRegistry.validEntityType]
  obtain ⟨log,haudit,-⟩ := audit_succeeds env hvalid
  refine ⟨last,{ w with assets := removed w.assets (parentOf w.assets c) c last, audit := log },?_,
    hlast,rfl⟩
  · simp only [removeComponent,checkRoles_bind_eq_ok,existingAsset_bind_eq_ok,revertIf_bind_eq_ok]
    refine ⟨hauth,h.parent_minted c hc,hminted,not_not.mpr rfl,?_⟩
    refine ok_bind_iff.mpr ⟨_,hdetach,?_⟩
    simpa [removed,parentOf] using haudit

/-- What the three structures say about each other, and what a removal does to them. -/
structure ComponentHierarchy (w : World H) : Prop where
  acyclic : ∀ t,¬Relation.TransGen (Edge 0 (parentOf w.assets)) t t
  parent_minted : ∀ t,parentOf w.assets t ≠ 0 → Minted w.assets (parentOf w.assets t)
  climb_ends : ∀ t,Minted w.assets t → Within 0 (parentOf w.assets) w.assets.nextId t
  loop_ends : ∀ t p c budget,Minted w.assets t → w.assets.nextId ≤ budget →
    ancestorLoop (parentOf w.assets) p c budget t ≠ .error .OutOfGas
  occurs_once : ∀ p c,p ≠ 0 →
    (w.assets.components p).count c = if parentOf w.assets c = p then 1 else 0
  no_list_at_zero : w.assets.components 0 = []
  index_position : ∀ c,parentOf w.assets c ≠ 0 →
    (w.assets.components (parentOf w.assets c))[w.assets.componentIndex c - 1]? = some c
  index_zero : ∀ c,w.assets.componentIndex c = 0 ↔ parentOf w.assets c = 0
  remove : ∀ env c,parentOf w.assets c ≠ 0 →
    Authorised w .assets env.sender BelRoles.MANAGE_ASSET →
    ∃ w',exec w ⟨env,.removeComponent (parentOf w.assets c) c⟩ = .ok w' ∧
      (w.assets.components (parentOf w.assets c)).Perm
        (c :: w'.assets.components (parentOf w.assets c)) ∧
      ∀ q,q ≠ parentOf w.assets c → w'.assets.components q = w.assets.components q

omit [Keccak H] [DecidableEq H] in
private theorem HierarchyInvariant.count_components {s : Storage H} (h : HierarchyInvariant s)
    {p : ℕ} (c : ℕ) (hp : p ≠ 0) :
    (s.components p).count c = if parentOf s c = p then 1 else 0 := by
  rw [List.Nodup.count (h.indexed.nodup p)]
  simp only [h.indexed.mem_iff hp]

omit [Keccak H] [DecidableEq H] in
/-- The list of a parent before a removal is the list after it with the component put back. -/
private theorem HierarchyInvariant.removed_perm {s : Storage H} (h : HierarchyInvariant s)
    {c last : ℕ} (hc : parentOf s c ≠ 0)
    (hlast : (s.components (parentOf s c))[(s.components (parentOf s c)).length - 1]? = some last) :
    (s.components (parentOf s c)).Perm
      (c :: (removed s (parentOf s c) c last).components (parentOf s c)) := by
  have h' := h.remove (h.minted_of_parent hc) (h.parent_minted c hc) rfl hlast
  have hparents : parentOf (removed s (parentOf s c) c last) = Function.update (parentOf s) c 0 :=
    parentOf_update (a := { s.assets c with parent := 0 }) rfl
  rw [List.perm_iff_count]
  intro d
  rw [h.count_components d hc,List.count_cons,h'.count_components d hc,hparents]
  by_cases hdc : d = c
  · subst hdc
    simp [hc.symm]
  · have hcd : ¬c = d := fun he => hdc he.symm
    simp [hdc,hcd]

/-- The component hierarchy of every reachable state is a forest that its lists and its index map
describe exactly, and a removal takes exactly the component away. -/
theorem component_hierarchy (w : World H) (hw : Reachable w) : ComponentHierarchy w := by
  have h := hw.hierarchy
  refine ⟨h.forest.acyclic,h.parent_minted,fun t ht => h.within t (fun _ => ht),?_,?_,
    h.indexed.members_none,fun c hc => (h.indexed.complete c hc).2,h.indexed.position_eq_zero_iff,
    ?_⟩
  · intro t p c budget ht hbudget
    exact ancestorLoop_ends ((h.within t (fun _ => ht)).mono hbudget)
  · intro p c hp
    exact h.count_components c hp
  · intro env c hc hauth
    obtain ⟨last,w',hexec,hlast,hassets⟩ := removeComponent_succeeds hw.deployed h hc hauth
    refine ⟨w',hexec,?_,?_⟩
    · rw [hassets]
      exact h.removed_perm hc hlast
    · intro q hq
      rw [hassets]
      exact Function.update_of_ne hq _ _

end Runs

section Prototype

/-- Four assets, three of them attached below the first and one of these removed again. -/
def hierarchyTxs : List Tx :=
  [txOf 0xad 2 (.mintAsset (utf8 "RADAR-1") 0xad),
   txOf 0xad 3 (.mintAsset (utf8 "ANTENNA-1") 0xad),
   txOf 0xad 4 (.mintAsset (utf8 "MOTOR-1") 0xad),
   txOf 0xad 5 (.mintAsset (utf8 "PUMP-1") 0xad),
   txOf 0xad 6 (.attachComponent 1 2),
   txOf 0xad 7 (.attachComponent 1 3),
   txOf 0xad 8 (.attachComponent 1 4),
   txOf 0xad 9 (.attachComponent 4 1),
   txOf 0xad 10 (.removeComponent 1 2)]

theorem component_hierarchy_prototype :
    (attemptAll exec prototypeWorld hierarchyTxs).assets.components 1 = [4,3] ∧
      ComponentHierarchy (attemptAll exec prototypeWorld hierarchyTxs) :=
  ⟨by decide +kernel,component_hierarchy _ (prototype_reachable hierarchyTxs)⟩

end Prototype
end BelLedger
