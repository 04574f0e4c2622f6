import BelLedger.AssetGuards
import BelLedger.AssetReads
import BelLedger.UsersService

/-!
# The validation of AssetsServiceImpl agrees with the checks of AssetRegistry

The same rules are written twice: by the service over asset ids and rows, by the contract over token
numbers and records.
-/
namespace BelLedger
open CheckedCalls TransitionRuns ParentForests AssetRegistry EffectPrograms Prog AssetsService

variable {H : Type} [Keccak H] [DecidableEq H]

section Requests
variable {P : Platform} {ctx : AssetsContext} {w : World H} {s : AssetsSystem H}
  {actor : AssetActor} {t p c : ℕ} {id parentId componentId : String}

theorem find_status {newState : String} {status : AssetStatus} :
    assetStatuses.find? (fun known => known.name = newState) = some status ↔
      status.name = newState := by
  constructor
  · intro h
    simpa using List.find?_some h
  · rintro rfl
    cases status <;> decide

theorem parseState_utf8 (hinj : Function.Injective (keccak256 : Bytes → H)) {text : String}
    {target : AssetState} : parseState H (utf8 text) = .ok target ↔
      ∃ status : AssetStatus,status.name = text ∧ status.onChain = target := by
  have hkey : ∀ name,(keccak256 (utf8 text) : H) = keccak256 (utf8 name) ↔ text = name :=
    fun name => ⟨fun h => utf8_injective (hinj h),fun h => h ▸ rfl⟩
  simp only [parseState,hkey]
  constructor
  · intro h
    split at h
    · rename_i htext
      exact ⟨.ACTIVE,htext.symm,Except.ok.inj h⟩
    split at h
    · rename_i htext
      exact ⟨.IN_MAINTENANCE,htext.symm,Except.ok.inj h⟩
    split at h
    · rename_i htext
      exact ⟨.DECOMMISSIONED,htext.symm,Except.ok.inj h⟩
    · cases h
  · rintro ⟨status,rfl,rfl⟩
    cases status <;> simp [AssetStatus.name,AssetStatus.onChain]

theorem mem_allowed {current next : AssetStatus} : next ∈ allowed current ↔
    current.onChain ≠ next.onChain ∧ current.onChain ≠ .DECOMMISSIONED := by
  cases current <;> cases next <;> simp [allowed,AssetStatus.onChain]

variable (hs : s.chain = w) (hw : Reachable w) (hactor : actor.WellFormed)
  (hsigned : ctx.evm = true → signatureOf (some actor) ≠ "development")
include hs hw hactor hsigned

theorem changeAssetState_accepts (hinj : Function.Injective (keccak256 : Bytes → H))
    (hn : NamesAsset w t id) (newState : String) :
    Accepts P ctx s (changeAssetStateChecked ctx (some actor) id newState) ↔
      stateGuards w t (utf8 newState) = .ok () ∧ Legible w t := by
  have hstart : Accepts P ctx s (changeAssetStateChecked ctx (some actor) id newState) ↔
      ∃ next : AssetStatus,next.name = newState ∧ Legible w t ∧
        ((w.assets.assets t).state ≠ next.onChain ∧
          (w.assets.assets t).state ≠ .DECOMMISSIONED) := by
    simp only [changeAssetStateChecked,accepts_orThrow_bind,find_status]
    refine exists_congr (fun next => and_congr_right (fun _ => ?_))
    apply accepts_requireAsset_bind hs hw hn
    intro u row _ hrow
    rw [assertStateTransition,accepts_throwIf_bind,transaction_eq hactor hsigned,pure_bind,not_not,
      mem_allowed,hrow.status]
    exact and_iff_left accepts_pure
  rw [hstart,stateGuards_eq_ok]
  constructor
  · rintro ⟨next,hname,hlegible,hguards⟩
    exact ⟨⟨hn.minted,_,(parseState_utf8 hinj).mpr ⟨next,hname,rfl⟩,hguards⟩,hlegible⟩
  · rintro ⟨⟨-,target,hparse,hguards⟩,hlegible⟩
    obtain ⟨next,hname,rfl⟩ := (parseState_utf8 hinj).mp hparse
    exact ⟨next,hname,hlegible,hguards⟩

theorem attachComponent_accepts (hrounds : w.assets.nextId ≤ ctx.rounds)
    (hp : NamesAsset w p parentId) (hc : NamesAsset w c componentId) :
    Accepts P ctx s (attachComponentChecked ctx (some actor) parentId componentId) ↔
      attachGuards w p c = .ok () ∧ (Legible w p ∧ Legible w c ∧
        ∀ x,Ancestor w p x → Legible w x) := by
  have hstart : Accepts P ctx s (attachComponentChecked ctx (some actor) parentId componentId) ↔
      Legible w p ∧ Legible w c ∧ p ≠ c ∧
        ¬((w.assets.assets p).state = .DECOMMISSIONED ∨
          (w.assets.assets c).state = .DECOMMISSIONED) ∧
        parentOf w.assets c = 0 ∧ Legible w p ∧
        (ancestorLoop (parentOf w.assets) p c w.assets.nextId
          (parentOf w.assets p) = .ok () ∧ ∀ x,Ancestor w p x → Legible w x) ∧
        True := by
    have hstatus : ∀ {t : ℕ} {id : String} {row : Asset},Shows w t id row →
        (row.status = .DECOMMISSIONED ↔ (w.assets.assets t).state = .DECOMMISSIONED) := by
      intro t id row hrow
      rw [← hrow.status]
      exact AssetStatus.onChain_injective.eq_iff.symm
    apply accepts_requireAsset_bind hs hw hp
    intro u parent hu hparent
    apply accepts_requireAsset_bind hu hw hc
    intro v component hv hcomponent
    have hfree : ¬component.parent ≠ none ↔ parentOf w.assets c = 0 := by
      by_cases hroot : parentOf w.assets c = 0
      · simp [Asset.parent,hcomponent.root hroot,hroot]
      · obtain ⟨q,hq,-⟩ := hcomponent.component hroot
        simp [Asset.parent,hq,hroot]
    rw [accepts_throwIf_bind,accepts_throwIf_bind,accepts_throwIf_bind,hfree,hstatus hparent,
      hstatus hcomponent,hp.eq_iff hc hw.ownership]
    rw [accepts_assertNoCycle_bind (Q := True) hv hw hp hc hrounds]
    intro x _
    rw [transaction_eq hactor hsigned,pure_bind]
    exact iff_true_intro accepts_pure
  rw [hstart,attachGuards_eq_ok]
  constructor
  · rintro ⟨hlp,hlc,hne,hstates,hfree,-,⟨hloop,hall⟩,-⟩
    obtain ⟨hpstate,hcstate⟩ := not_or.mp hstates
    exact ⟨⟨hne,hp.minted,hc.minted,hpstate,hcstate,hfree,hloop⟩,hlp,hlc,hall⟩
  · rintro ⟨⟨hne,-,-,hpstate,hcstate,hfree,hloop⟩,hlp,hlc,hall⟩
    exact ⟨hlp,hlc,hne,not_or.mpr ⟨hpstate,hcstate⟩,hfree,hlp,⟨hloop,hall⟩,trivial⟩

theorem removeComponent_accepts (hp : NamesAsset w p parentId) (hc : NamesAsset w c componentId) :
    Accepts P ctx s (removeComponentChecked ctx (some actor) parentId componentId) ↔
      removeGuards w p c = .ok () ∧ (Legible w p ∧ Legible w c) := by
  have hstart : Accepts P ctx s (removeComponentChecked ctx (some actor) parentId componentId) ↔
      Legible w p ∧ Legible w c ∧ parentOf w.assets c = p := by
    apply accepts_requireAsset_bind hs hw hp
    intro u parent hu hparent
    apply accepts_requireAsset_bind hu hw hc
    intro v component hv hcomponent
    have hattached : ¬component.parent ≠ some parentId ↔ parentOf w.assets c = p := by
      by_cases hroot : parentOf w.assets c = 0
      · have hne : 0 ≠ p := fun he => hp.ne_zero hw.hierarchy he.symm
        simp [Asset.parent,hcomponent.root hroot,hroot,hne]
      · obtain ⟨q,hq,htext⟩ := hcomponent.component hroot
        have hqn : NamesAsset w (parentOf w.assets c) q :=
          ⟨hw.hierarchy.parent_minted c hroot,htext.symm⟩
        simp [Asset.parent,hq,hqn.eq_iff hp hw.ownership]
    rw [accepts_throwIf_bind,hattached,transaction_eq hactor hsigned,pure_bind]
    exact and_iff_left accepts_pure
  rw [hstart,removeGuards_eq_ok hw.hierarchy]
  constructor
  · rintro ⟨hlp,hlc,hattached⟩
    exact ⟨⟨hp.minted,hc.minted,hattached⟩,hlp,hlc⟩
  · rintro ⟨⟨-,-,hattached⟩,hlp,hlc⟩
    exact ⟨hlp,hlc,hattached⟩

end Requests

section Plans
variable {P : Platform} {ctx : AssetsContext} {w : World H} {s v : AssetsSystem H}
  {actor : AssetActor} {t p c : ℕ} {id parentId componentId wallet : String} {lookups : ChainLookups}

omit [Keccak H] [DecidableEq H] in
private theorem plan_changeAssetState (ht : 0 < t) (next : AssetStatus) (previous : String) :
    Payloads.buildCallPlan P.parseAddress P.dateParse .ASSET_STATE_CHANGE
      [("assetId",.string id),("nftId",.string (toString t)),("previousState",.string previous),
        ("newState",.string next.name)] lookups = .ok (.changeAssetState t (utf8 next.name)) := by
  have hstate : Payloads.str .ASSET_STATE_CHANGE
      [("assetId",.string id),("nftId",.string (toString t)),("previousState",.string previous),
        ("newState",.string next.name)] ["newState","status"] = .ok next.name := by
    have htrim : jsTrim next.name = next.name := by cases next <;> decide +kernel
    have hblank : jsTrim next.name ≠ "" := by cases next <;> decide +kernel
    rw [Payloads.str,Payloads.optionalStr_head rfl hblank,htrim]
  have hknown : ¬next.name ∉ Payloads.ASSET_STATUSES := by cases next <;> decide
  simp only [Payloads.buildCallPlan,hstate,ok_bind,if_neg hknown]
  rw [Payloads.nftRef_of_number rfl ht]
  rfl

omit [Keccak H] [DecidableEq H] in
private theorem plan_component (hp : 0 < p) (hc : 0 < c) {type : TransactionType}
    (htype : type = .COMPONENT_ATTACH ∨ type = .COMPONENT_REMOVE) :
    Payloads.buildCallPlan P.parseAddress P.dateParse type
      [("parentAssetId",.string parentId),("parentNftId",.string (toString p)),
        ("componentId",.string componentId),("componentNftId",.string (toString c))] lookups =
      .ok (if type = .COMPONENT_ATTACH then .attachComponent p c else .removeComponent p c) := by
  rcases htype with rfl | rfl
  · rw [Payloads.buildCallPlan,Payloads.nftRef_of_number rfl hp,ok_bind,
      Payloads.nftRef_of_number rfl hc]
    rfl
  · rw [Payloads.buildCallPlan,Payloads.nftRef_of_number rfl hp,ok_bind,
      Payloads.nftRef_of_number rfl hc]
    rfl

omit [Keccak H] [DecidableEq H] in
/-- A transfer to a DID is planned for the wallet that the DID resolves to. -/
private theorem plan_transfer (ht : 0 < t) {owner : String} (htrim : Trimmed owner)
    (hblank : owner ≠ "") (hdid : P.parseAddress owner = none) {call : Call} :
    Payloads.buildCallPlan P.parseAddress P.dateParse .ASSET_TRANSFER
      [("assetId",.string id),("nftId",.string (toString t)),("newOwnerId",.string owner),
        ("newCustodianId",.string owner)] lookups = .ok call ↔
      ∃ a,lookups.walletOfIdentity owner true = some a ∧ call = .transferAsset t a := by
  let payload : Payload := [("assetId",.string id),("nftId",.string (toString t)),
    ("newOwnerId",.string owner),("newCustodianId",.string owner)]
  have hvisible : jsTrim owner ≠ "" := by rwa [show jsTrim owner = owner from htrim]
  have howner : Payloads.optionalStr payload Payloads.newOwnerKeys = some owner := by
    rw [Payloads.newOwnerKeys,Payloads.optionalStr_head rfl hvisible,htrim]
  have hcustodian : Payloads.optionalStr payload ["newCustodianId"] = some owner := by
    rw [Payloads.optionalStr_head rfl hvisible,htrim]
  have hstr : Payloads.str .ASSET_TRANSFER payload Payloads.newOwnerKeys = .ok owner := by
    rw [Payloads.str,howner]
  have hnft : Payloads.nftRef .ASSET_TRANSFER payload ["assetId"] ["nftId"] lookups = .ok t :=
    Payloads.nftRef_of_number rfl ht
  change Payloads.buildCallPlan P.parseAddress P.dateParse .ASSET_TRANSFER payload lookups = _ ↔ _
  simp only [Payloads.buildCallPlan,hstr,ok_bind,hcustodian,ne_eq,not_true_eq_false,if_false,hnft,
    Payloads.party,hdid]
  cases lookups.walletOfIdentity owner true with
  | none =>
    simp only [reduceCtorEq,false_and,exists_false,iff_false]
    exact fun h => by cases h
  | some a =>
    simp only [Option.some.injEq,exists_eq_left']
    exact ⟨fun h => (Except.ok.inj h).symm,fun h => h ▸ rfl⟩

/-- What is known when a program has got past `requireAsset`. -/
private theorem requireAsset_returns {α : Type} {f : Asset → Program α} {b : α} {«field» : String}
    (hs : s.chain = w) (hw : Reachable w) (hn : NamesAsset w t id)
    (h : (requireAsset id «field» >>= f).Returns (AssetCall.handle P ctx) s v b) :
    ∃ u row,u.chain = w ∧ Shows w t id row ∧ (f row).Returns (AssetCall.handle P ctx) u v b := by
  unfold requireAsset at h
  rw [bind_assoc,returns_bind] at h
  obtain ⟨u,found,hread,h⟩ := h
  obtain ⟨-,hu,row,rfl,hrow⟩ := getById_returns hs hw hn hread
  exact ⟨u,row,hu,hrow,h⟩

variable (hs : s.chain = w) (hw : Reachable w) (hactor : actor.WellFormed)
  (hsigned : ctx.evm = true → signatureOf (some actor) ≠ "development")
include hs hw hactor hsigned

theorem changeAssetState_planned (hn : NamesAsset w t id) {newState : String} {tx : Envelope}
    {fallback : Asset} (h : (changeAssetStateChecked ctx (some actor) id newState).Returns
      (AssetCall.handle P ctx) s v (tx,fallback)) :
    Payloads.buildCallPlan P.parseAddress P.dateParse tx.type tx.payload lookups =
      .ok (.changeAssetState t (utf8 newState)) := by
  obtain ⟨next,hnext,hread⟩ := returns_orThrow_bind.mp h
  obtain rfl := find_status.mp hnext
  obtain ⟨u,row,-,hrow,hrest⟩ := requireAsset_returns hs hw hn hread
  rw [assertStateTransition,returns_throwIf_bind,transaction_eq hactor hsigned,pure_bind,
    returns_pure] at hrest
  obtain ⟨-,-,heq⟩ := hrest
  obtain ⟨rfl,-⟩ := Prod.mk.inj heq
  rw [hrow.nftId]
  exact plan_changeAssetState (Nat.pos_of_ne_zero (hn.ne_zero hw.hierarchy)) next _

theorem attachComponent_planned (hp : NamesAsset w p parentId) (hc : NamesAsset w c componentId)
    {tx : Envelope} {fallback : Asset}
    (h : (attachComponentChecked ctx (some actor) parentId componentId).Returns
      (AssetCall.handle P ctx) s v (tx,fallback)) :
    Payloads.buildCallPlan P.parseAddress P.dateParse tx.type tx.payload lookups =
      .ok (.attachComponent p c) := by
  obtain ⟨u,parent,hu,hparent,h⟩ := requireAsset_returns hs hw hp h
  obtain ⟨u',component,-,hcomponent,h⟩ := requireAsset_returns hu hw hc h
  rw [returns_throwIf_bind,returns_throwIf_bind,returns_throwIf_bind,returns_bind] at h
  obtain ⟨-,-,-,v',_,-,h⟩ := h
  rw [transaction_eq hactor hsigned,pure_bind,returns_pure] at h
  obtain ⟨rfl,-⟩ := Prod.mk.inj h.2
  simp only [componentPayload,hparent.nftId,hcomponent.nftId]
  exact plan_component (Nat.pos_of_ne_zero (hp.ne_zero hw.hierarchy))
    (Nat.pos_of_ne_zero (hc.ne_zero hw.hierarchy)) (.inl rfl)

theorem removeComponent_planned (hp : NamesAsset w p parentId) (hc : NamesAsset w c componentId)
    {tx : Envelope} {fallback : Asset}
    (h : (removeComponentChecked ctx (some actor) parentId componentId).Returns
      (AssetCall.handle P ctx) s v (tx,fallback)) :
    Payloads.buildCallPlan P.parseAddress P.dateParse tx.type tx.payload lookups =
      .ok (.removeComponent p c) := by
  obtain ⟨u,parent,hu,hparent,h⟩ := requireAsset_returns hs hw hp h
  obtain ⟨u',component,-,hcomponent,h⟩ := requireAsset_returns hu hw hc h
  rw [returns_throwIf_bind,transaction_eq hactor hsigned,pure_bind,returns_pure] at h
  obtain ⟨-,-,heq⟩ := h
  obtain ⟨rfl,-⟩ := Prod.mk.inj heq
  simp only [componentPayload,hparent.nftId,hcomponent.nftId]
  exact plan_component (Nat.pos_of_ne_zero (hp.ne_zero hw.hierarchy))
    (Nat.pos_of_ne_zero (hc.ne_zero hw.hierarchy)) (.inr rfl)

/-- What `transfer` has checked of the chain when it submits. -/
private theorem transferChecked_returns (hn : NamesAsset w t id) {newOwnerId : String}
    {newCustodianId : Option String} {tx : Envelope} {fallback : Asset}
    (h : (transferChecked ctx (some actor) id newOwnerId newCustodianId).Returns
      (AssetCall.handle P ctx) s v (tx,fallback)) :
    jsTrim newOwnerId ≠ "" ∧ (w.assets.assets t).state ≠ .DECOMMISSIONED ∧
      parentOf w.assets t = 0 ∧
      IdentityRegistry.identityOf w.identity (w.assets.owners t) ≠ utf8 (jsTrim newOwnerId) ∧
      tx.type = .ASSET_TRANSFER ∧
      tx.payload = [("assetId",.string id),("nftId",.string (toString t)),
        ("newOwnerId",.string (jsTrim newOwnerId)),
        ("newCustodianId",.string (jsTrim newOwnerId))] := by
  obtain ⟨u,row,-,hrow,h⟩ := requireAsset_returns hs hw hn h
  rw [requiredString,bind_assoc,returns_throwIf_bind,pure_bind,requireIdentity,
    returns_throwIf_bind,returns_bind] at h
  obtain ⟨hblank,-,u',custodian,-,h⟩ := h
  simp only [returns_throwIf_bind,transaction_eq hactor hsigned,pure_bind,returns_pure,
    not_not] at h
  obtain ⟨rfl,hstate,hparent,howner,-,heq⟩ := h
  obtain ⟨rfl,-⟩ := Prod.mk.inj heq
  refine ⟨hblank,?_,?_,?_,rfl,?_⟩
  · rw [← hrow.status]
    exact fun he => hstate (AssetStatus.onChain_injective he)
  · by_contra hroot
    obtain ⟨q,hq,-⟩ := hrow.component hroot
    simp [Asset.parent,hq] at hparent
  · exact fun hdid => howner (hrow.owner _ hblank hdid)
  · simp only [hrow.assetId,hrow.nftId]
    rfl

/-- When `transfer` submits, the planned call passes every check that does not depend on the caller,
and it is planned when the DID has an ACTIVE wallet. -/
theorem transfer_planned (hinj : Function.Injective (keccak256 : Bytes → H)) (hn : NamesAsset w t id)
    {newOwnerId : String} (hdid : P.parseAddress (jsTrim newOwnerId) = none)
    {newCustodianId : Option String} {tx : Envelope} {fallback : Asset}
    (h : (transferChecked ctx (some actor) id newOwnerId newCustodianId).Returns
      (AssetCall.handle P ctx) s v (tx,fallback)) :
    (∀ call,Payloads.buildCallPlan P.parseAddress P.dateParse tx.type tx.payload
        (EvmAdapter.lookups w) = .ok call →
      ∃ a,call = .transferAsset t a ∧ transferGuards w t a = .ok ()) ∧
    ((∃ a ∈ IdentityRegistry.walletsOf w.identity (utf8 (jsTrim newOwnerId)),
        IdentityRegistry.isActiveWallet w.identity a = true) →
      ∃ call,Payloads.buildCallPlan P.parseAddress P.dateParse tx.type tx.payload
        (EvmAdapter.lookups w) = .ok call) := by
  obtain ⟨hblank,hstate,hparent,howner,htype,hpayload⟩ :=
    transferChecked_returns hs hw hactor hsigned hn h
  have hplan : ∀ call,Payloads.buildCallPlan P.parseAddress P.dateParse .ASSET_TRANSFER
      [("assetId",.string id),("nftId",.string (toString t)),
        ("newOwnerId",.string (jsTrim newOwnerId)),("newCustodianId",.string (jsTrim newOwnerId))]
      (EvmAdapter.lookups w) = .ok call ↔
        ∃ a,(EvmAdapter.lookups w).walletOfIdentity (jsTrim newOwnerId) true = some a ∧
          call = .transferAsset t a :=
    fun call => plan_transfer (Nat.pos_of_ne_zero (hn.ne_zero hw.hierarchy))
      (trimmed_jsTrim newOwnerId) hblank hdid
  rw [htype,hpayload]
  constructor
  · intro call hcall
    obtain ⟨a,hfound,rfl⟩ := (hplan call).mp hcall
    obtain ⟨hregistered,hidentity⟩ := EvmAdapter.lookups_did hinj hw.identity hfound
    have hactive : Active w.identity a := by
      have hfind := List.find?_some hfound
      simpa [isActiveWallet_iff,Active] using hfind
    have hzero : a ≠ 0 := by
      rintro rfl
      exact hregistered hw.identity.zero_unregistered
    refine ⟨a,rfl,transferGuards_eq_ok.mpr ⟨hn.minted,hstate,hparent,⟨hzero,hactive⟩,
      hw.ownership.owned t hn.minted,?_⟩⟩
    rintro rfl
    exact howner hidentity
  · rintro ⟨a,ha,hactive⟩
    have hsome : ((EvmAdapter.lookups w).walletOfIdentity (jsTrim newOwnerId) true).isSome = true := by
      rw [EvmAdapter.lookups,List.find?_isSome]
      exact ⟨a,List.mem_reverse.mpr ha,by simpa using hactive⟩
    obtain ⟨b,hb⟩ := Option.isSome_iff_exists.mp hsome
    exact ⟨_,(hplan _).mpr ⟨b,hb,rfl⟩⟩

end Plans

section Agreement

/-- The program reaches its submission exactly when the call passes the checks of the contract and the
texts can be read; it submits that call. -/
structure AgreesWith (P : Platform) (ctx : AssetsContext) (s : AssetsSystem H)
    (p : Program (Envelope × Asset)) (call : Call) (legible : Prop) : Prop where
  reaches : Accepts P ctx s p ↔ AssetRegistry.guards s.chain call = .ok () ∧ legible
  planned : ∀ v tx fallback,p.Returns (AssetCall.handle P ctx) s v (tx,fallback) →
    Payloads.buildCallPlan P.parseAddress P.dateParse tx.type tx.payload
      (EvmAdapter.lookups s.chain) = .ok call

/-- The token of an asset id. -/
def AssetsSystem.token (s : AssetsSystem H) (id : String) : ℕ := nftIdOf s.chain.assets (utf8 id)

structure ValidationAgrees (P : Platform) (ctx : AssetsContext) (actor : AssetActor)
    (s : AssetsSystem H) : Prop where
  /-- The guards are what the contract checks besides the authorization of the caller. -/
  guards : ∀ env call,AssetMutation call → ((∃ w',exec s.chain ⟨env,call⟩ = .ok w') ↔
    CallerAuthorised s.chain env call ∧ AssetRegistry.guards s.chain call = .ok ())
  state : ∀ id newState,s.token id ≠ 0 →
    AgreesWith P ctx s (changeAssetStateChecked ctx (some actor) id newState)
      (.changeAssetState (s.token id) (utf8 newState)) (Legible s.chain (s.token id))
  attach : ∀ p c,s.token p ≠ 0 → s.token c ≠ 0 →
    AgreesWith P ctx s (attachComponentChecked ctx (some actor) p c)
      (.attachComponent (s.token p) (s.token c))
      (Legible s.chain (s.token p) ∧ Legible s.chain (s.token c) ∧
        ∀ x,Ancestor s.chain (s.token p) x → Legible s.chain x)
  remove : ∀ p c,s.token p ≠ 0 → s.token c ≠ 0 →
    AgreesWith P ctx s (removeComponentChecked ctx (some actor) p c)
      (.removeComponent (s.token p) (s.token c))
      (Legible s.chain (s.token p) ∧ Legible s.chain (s.token c))
  /-- For a new owner that is no address. -/
  transfer : ∀ id newOwnerId newCustodianId v tx fallback,s.token id ≠ 0 →
    P.parseAddress (jsTrim newOwnerId) = none →
    (transferChecked ctx (some actor) id newOwnerId newCustodianId).Returns
      (AssetCall.handle P ctx) s v (tx,fallback) →
    (∀ call,Payloads.buildCallPlan P.parseAddress P.dateParse tx.type tx.payload
        (EvmAdapter.lookups s.chain) = .ok call →
      ∃ a,call = .transferAsset (s.token id) a ∧ AssetRegistry.guards s.chain call = .ok ()) ∧
    ((∃ a ∈ IdentityRegistry.walletsOf s.chain.identity (utf8 (jsTrim newOwnerId)),
        IdentityRegistry.isActiveWallet s.chain.identity a = true) →
      ∃ call,Payloads.buildCallPlan P.parseAddress P.dateParse tx.type tx.payload
        (EvmAdapter.lookups s.chain) = .ok call)
  cycle : ∀ p c,s.token p ≠ 0 → s.token c ≠ 0 → (Accepts P ctx s (assertNoCycle ctx p c) ↔
    ancestorLoop (parentOf s.chain.assets) (s.token p) (s.token c) s.chain.assets.nextId
        (parentOf s.chain.assets (s.token p)) = .ok () ∧
      (Legible s.chain (s.token p) ∧ ∀ x,Ancestor s.chain (s.token p) x → Legible s.chain x))
  cycle_ends : ∀ p c env,s.token p ≠ 0 →
    ((assertNoCycle ctx p c).run (AssetCall.handle P ctx) env s).2 ≠ .error stillRunning

/-- Whatever the index and the repository hold, the service validates a request on minted assets as
the contract does. -/
theorem asset_validation_agrees (hinj : Function.Injective (keccak256 : Bytes → H)) (P : Platform)
    (ctx : AssetsContext) (actor : AssetActor) (s : AssetsSystem H) (hw : Reachable s.chain)
    (hrounds : s.chain.assets.nextId ≤ ctx.rounds) (hactor : actor.WellFormed)
    (hsigned : ctx.evm = true → signatureOf (some actor) ≠ "development") :
    ValidationAgrees P ctx actor s where
  guards := fun env call hcall => exec_succeeds_iff hw hcall
  state := by
    intro id newState hid
    have hn := names_nftIdOf hinj hw hid
    exact ⟨changeAssetState_accepts rfl hw hactor hsigned hinj hn newState,
      fun v tx fallback h => changeAssetState_planned rfl hw hactor hsigned hn h⟩
  attach := by
    intro p c hp hc
    have hpn := names_nftIdOf hinj hw hp
    have hcn := names_nftIdOf hinj hw hc
    exact ⟨attachComponent_accepts rfl hw hactor hsigned hrounds hpn hcn,
      fun v tx fallback h => attachComponent_planned rfl hw hactor hsigned hpn hcn h⟩
  remove := by
    intro p c hp hc
    have hpn := names_nftIdOf hinj hw hp
    have hcn := names_nftIdOf hinj hw hc
    exact ⟨removeComponent_accepts rfl hw hactor hsigned hpn hcn,
      fun v tx fallback h => removeComponent_planned rfl hw hactor hsigned hpn hcn h⟩
  transfer := by
    intro id newOwnerId newCustodianId v tx fallback hid hdid h
    obtain ⟨hguards,hplanned⟩ := transfer_planned rfl hw hactor hsigned hinj
      (names_nftIdOf hinj hw hid) hdid h
    refine ⟨fun call hcall => ?_,hplanned⟩
    obtain ⟨a,rfl,ha⟩ := hguards call hcall
    exact ⟨a,rfl,ha⟩
  cycle := by
    intro p c hp hc
    rw [← bind_pure (assertNoCycle ctx p c),accepts_assertNoCycle_bind (Q := True) rfl hw
      (names_nftIdOf hinj hw hp) (names_nftIdOf hinj hw hc) hrounds
      (fun u _ => iff_true_intro accepts_pure)]
    constructor
    · rintro ⟨hlegible,⟨hloop,hall⟩,-⟩
      exact ⟨hloop,hlegible,hall⟩
    · rintro ⟨hloop,hlegible,hall⟩
      exact ⟨hlegible,⟨hloop,hall⟩,trivial⟩
  cycle_ends := fun p c env hp =>
    assertNoCycle_ends rfl hw (names_nftIdOf hinj hw hp) hrounds c env

end Agreement

section Prototype

def assetsContext : AssetsContext :=
  { evm := true
    identityExists := none
    checksum := fun a => UsersService.didText (toHexString a)
    assetType := fun _ => none
    rounds := 8 }

/-- A service that has just been started. -/
def assetsSystem (txs : List Tx) : AssetsSystem (Option Bytes) :=
  ⟨fun _ => none,.empty,attemptAll exec prototypeWorld txs⟩

theorem assetsSystem_reachable (txs : List Tx) : Reachable (assetsSystem txs).chain :=
  prototype_reachable txs

def assetActor (signature : String) : AssetActor :=
  ⟨"DID:BEL:ADMIN","0x00000000000000000000000000000000000000ad",some signature⟩

theorem assetActor_wellFormed : (assetActor "0x02f8").WellFormed ∧
    (assetActor "development").WellFormed :=
  ⟨⟨by decide +kernel,by decide +kernel,by decide +kernel⟩,
    ⟨by decide +kernel,by decide +kernel,by decide +kernel⟩⟩

omit [Keccak H] [DecidableEq H] in
private theorem transaction_refuses {P : Platform} {ctx : AssetsContext} {α : Type}
    {s : AssetsSystem (Option Bytes)} {actor : AssetActor} (hevm : ctx.evm = true)
    (hsignature : signatureOf (some actor) = "development") {type : TransactionType}
    {payload : Payload} {g : Envelope → Program α} :
    ¬Accepts P ctx s (transaction ctx type (some actor) payload >>= g) := by
  rw [transaction,bind_assoc,accepts_bind]
  rintro ⟨u,_,-,h⟩
  rw [bind_assoc,accepts_bind] at h
  obtain ⟨u',_,-,h⟩ := h
  rw [bind_assoc,accepts_throwIf_bind] at h
  exact h.1 ⟨hevm,.inr hsignature⟩

/-- Attaching the removed component again is accepted, and hanging the root below its component is
not. -/
theorem asset_validation_agrees_hierarchy :
    attachGuards (assetsSystem hierarchyTxs).chain 1 2 = .ok () ∧
      attachGuards (assetsSystem hierarchyTxs).chain 4 1 = .error (.CyclicHierarchy 4 1) ∧
      ValidationAgrees prototypePlatform assetsContext (assetActor "0x02f8")
        (assetsSystem hierarchyTxs) :=
  ⟨by decide +kernel,by decide +kernel,
    asset_validation_agrees prototype_keccak_injective prototypePlatform assetsContext
      (assetActor "0x02f8") (assetsSystem hierarchyTxs) (assetsSystem_reachable hierarchyTxs)
      (by decide +kernel) assetActor_wellFormed.1 (fun _ => by decide +kernel)⟩

/-- An owner whose DID is no text, and another one whose DID is the address of the administrator. -/
def unusualDidTxs : List Tx :=
  hierarchyTxs++
  [txOf 0xad 11 (.createIdentity 0xb1 [0xff]),
   txOf 0xad 12 (.activateWallet 0xb1),
   txOf 0xad 13 (.mintAsset (utf8 "VALVE-1") 0xb1),
   txOf 0xad 14 (.createIdentity 0xb2 (utf8 "0x00000000000000000000000000000000000000ad")),
   txOf 0xad 15 (.activateWallet 0xb2)]

private theorem valve_illegible : ¬Legible (assetsSystem unusualDidTxs).chain 5 := by
  intro h
  obtain ⟨text,htext⟩ := h.owner
  have hdid : IdentityRegistry.identityOf (assetsSystem unusualDidTxs).chain.identity
      ((assetsSystem unusualDidTxs).chain.assets.owners 5) = [0xff] := by decide +kernel
  rw [hdid] at htext
  have hdecoded := decoded_eq_ok.mpr htext
  have hrefused : (EvmAdapter.decoded [0xff]).toOption = none := by decide +kernel
  rw [hdecoded] at hrefused
  cases hrefused

/-- In EVM mode the service refuses the signature `development`, it cannot read an asset whose owner's
DID is no text, and it takes a DID that is spelled like an address for that address. -/
theorem asset_validation_differs :
    Reachable (assetsSystem unusualDidTxs).chain ∧
    ((assetsSystem unusualDidTxs).token "RADAR-1" = 1 ∧ (assetActor "development").WellFormed ∧
      stateGuards (assetsSystem unusualDidTxs).chain 1 (utf8 "IN_MAINTENANCE") = .ok () ∧
      ¬Accepts prototypePlatform assetsContext (assetsSystem unusualDidTxs)
        (changeAssetStateChecked assetsContext (some (assetActor "development")) "RADAR-1"
          "IN_MAINTENANCE")) ∧
    ((assetsSystem unusualDidTxs).token "VALVE-1" = 5 ∧ (assetActor "0x02f8").WellFormed ∧
      stateGuards (assetsSystem unusualDidTxs).chain 5 (utf8 "IN_MAINTENANCE") = .ok () ∧
      ¬Accepts prototypePlatform assetsContext (assetsSystem unusualDidTxs)
        (changeAssetStateChecked assetsContext (some (assetActor "0x02f8")) "VALVE-1"
          "IN_MAINTENANCE")) ∧
    ((IdentityRegistry.walletsOf (assetsSystem unusualDidTxs).chain.identity
          (utf8 "0x00000000000000000000000000000000000000ad")).any
        (IdentityRegistry.isActiveWallet (assetsSystem unusualDidTxs).chain.identity) = true ∧
      ((transferChecked assetsContext (some (assetActor "0x02f8")) "RADAR-1"
          "0x00000000000000000000000000000000000000ad" none).run
        (AssetCall.handle prototypePlatform assetsContext) (fun _ => default)
        (assetsSystem unusualDidTxs)).2.toOption.map (fun planned =>
          (Payloads.buildCallPlan prototypePlatform.parseAddress prototypePlatform.dateParse
            planned.1.type planned.1.payload
            (EvmAdapter.lookups (assetsSystem unusualDidTxs).chain)).toOption) =
        some (some (.transferAsset 1 0xad)) ∧
      transferGuards (assetsSystem unusualDidTxs).chain 1 0xad = .error (.InvalidRecipient 0xad)) := by
  have hw := assetsSystem_reachable unusualDidTxs
  have hvalve : (assetsSystem unusualDidTxs).token "VALVE-1" = 5 := by decide +kernel
  refine ⟨hw,⟨by decide +kernel,assetActor_wellFormed.2,by decide +kernel,?_⟩,
    ⟨hvalve,assetActor_wellFormed.1,by decide +kernel,?_⟩,by decide +kernel⟩
  · rw [changeAssetStateChecked,accepts_orThrow_bind]
    rintro ⟨next,-,h⟩
    obtain ⟨u,row,-,h⟩ := accepts_bind.mp h
    rw [assertStateTransition,accepts_throwIf_bind] at h
    exact transaction_refuses rfl (by decide +kernel) h.2
  · have hminted : (assetsSystem unusualDidTxs).token "VALVE-1" ≠ 0 := by
      rw [hvalve]
      decide
    have hn : NamesAsset (assetsSystem unusualDidTxs).chain 5 "VALVE-1" := by
      rw [← hvalve]
      exact names_nftIdOf prototype_keccak_injective hw hminted
    rw [changeAssetState_accepts rfl hw assetActor_wellFormed.1 (fun _ => by decide +kernel)
      prototype_keccak_injective hn]
    exact fun h => valve_illegible h.2

end Prototype
end BelLedger
