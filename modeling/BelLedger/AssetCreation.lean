import BelLedger.AssetValidation

/-!
# The parent of a new asset

`create` checks that the parent exists and hands it on, and the planner of ASSET_MINT drops it: the
contract mints roots.
-/
namespace BelLedger
open CheckedCalls TransitionRuns KeyedTables AssetRegistry EffectPrograms Prog AssetsService

variable {H : Type} [Keccak H] [DecidableEq H]

section Minting
variable {P : Platform} {ctx : AssetsContext} {w w' : World H} {id : String}

omit [Keccak H] [DecidableEq H] in
/-- Whatever else the payload holds, the planned call is about its asset id. -/
theorem plan_mint {lookups : ChainLookups} {rest : Payload} (htrim : Trimmed id)
    {call : Call} (h : Payloads.buildCallPlan P.parseAddress P.dateParse .ASSET_MINT
      (("assetId",.string id)::rest) lookups = .ok call) :
    ∃ owner,call = .mintAsset (utf8 id) owner := by
  obtain ⟨assetId,hstr,h⟩ := ok_bind_iff.mp h
  obtain ⟨owner,-,h⟩ := ok_bind_iff.mp h
  obtain ⟨rfl,-⟩ := Payloads.optionalStr_only "assetId" id rfl
    (fun k hk => .inl (List.mem_singleton.mp hk)) (Payloads.str_eq_ok hstr)
  rw [show jsTrim id = id from htrim] at h
  exact ⟨owner,(ok_pure_iff.mp h).symm⟩

/-- A minted asset is a root. -/
theorem minted_root (hw : Reachable w) {env : Env} {owner : Address}
    (hexec : exec w ⟨env,.mintAsset (utf8 id) owner⟩ = .ok w') :
    ∃ t,NamesAsset w' t id ∧ parentOf w'.assets t = 0 := by
  have hchange := exec_assetChange hw.deployed hexec
  have hroot : Minted w'.assets w.assets.nextId ∧
      (w'.assets.assets w.assets.nextId).assetId = utf8 id ∧
      parentOf w'.assets w.assets.nextId = 0 := by
    generalize w'.assets = a at hchange
    cases hchange with
    | same htarget => exact absurd rfl htarget
    | mint assetId owner' hcall howner hactive hfresh =>
      cases hcall
      simp [Minted,parentOf]
    | _ => contradiction
  exact ⟨w.assets.nextId,⟨hroot.1,hroot.2.1⟩,hroot.2.2⟩

end Minting

section Settling
variable {P : Platform} {ctx : AssetsContext} {s t : AssetsSystem H} {id : String}
  {tx : Envelope} {fallback row : Asset}

private theorem submit_returns {d : Delivery} {nftId : Option String}
    (h : (AssetCall.handle P ctx d s (.submit tx)).2 = .ok nftId) :
    ∃ w',EvmAdapter.submitTransaction P s.chain tx d = (w',.ok .SUCCESS) ∧
      (AssetCall.handle P ctx d s (.submit tx)).1 = { s with chain := w' } := by
  simp only [AssetCall.handle] at h ⊢
  split at h
  · rename_i w' hsubmit
    exact ⟨w',hsubmit,rfl⟩
  · cases h
  · cases h

/-- What a write stores of an asset that it can read back. -/
private theorem settle_returns (h : (settle id (tx,fallback)).Returns (AssetCall.handle P ctx) s t row) :
    ∃ d w' found,EvmAdapter.submitTransaction P s.chain tx d = (w',.ok .SUCCESS) ∧
      EvmAdapter.getAsset ctx w' id = .ok found ∧
      ∀ onChain,found = some onChain → row = mergeAsset onChain (some fallback) ∧
        t.chain = w' ∧ t.assets id = some row ∧ t.repository = s.repository.save row := by
  simp only [settle,returns_perform_bind,returns_done_bind,reconcileAfterWrite,bind_assoc] at h
  obtain ⟨d,nftId,hsubmit,e,found,hread,h⟩ := h
  obtain ⟨w',hsubmitted,hstate⟩ := submit_returns hsubmit
  rw [hstate] at hread h
  refine ⟨d,w',found,hsubmitted,hread,?_⟩
  rintro onChain rfl
  simp only [pure_bind,returns_perform_bind,returns_pure] at h
  obtain ⟨-,-,rfl,rfl⟩ := h
  simp [AssetCall.handle]

end Settling

section Creation
variable {P : Platform} {ctx : AssetsContext} {actor : Option AssetActor} {s t : AssetsSystem H}
  {input : AssetInput} {uuid : String}

private theorem getById_chain {id : String} {found : Option Asset}
    (h : (getById id).Returns (AssetCall.handle P ctx) s t found) : t.chain = s.chain := by
  obtain ⟨onChain,-,h⟩ := returns_getById.mp h
  cases onChain with
  | none => rw [h.1]
  | some row => rw [← h.1]

private theorem requireParent_chain {parent : Option String} {u : Unit}
    (h : (requireParent parent).Returns (AssetCall.handle P ctx) s t u) : t.chain = s.chain := by
  cases parent with
  | none =>
    obtain ⟨rfl,-⟩ := returns_pure.mp h
    rfl
  | some parent =>
    rw [requireParent,requireAsset,bind_assoc,returns_bind] at h
    obtain ⟨v,found,hread,h⟩ := h
    simp only [returns_orThrow_bind,returns_pure] at h
    obtain ⟨_,-,rfl,-⟩ := h
    exact getById_chain hread

/-- What `create` submits. Its reads leave the chain alone. -/
private theorem createChecked_returns {tx : Envelope} {fallback : Asset}
    (h : (createChecked ctx actor input uuid).Returns (AssetCall.handle P ctx) s t (tx,fallback)) :
    t.chain = s.chain ∧ tx.type = .ASSET_MINT ∧
      ∃ rest,tx.payload = ("assetId",.string (newAssetId input uuid))::rest := by
  simp only [createChecked,requiredString,requireIdentity,bind_assoc,pure_bind,returns_throwIf_bind,
    transaction] at h
  obtain ⟨-,-,-,-,-,-,h⟩ := h
  obtain ⟨u,found,hread,h⟩ := returns_bind.mp h
  obtain ⟨-,h⟩ := returns_throwIf_bind.mp h
  obtain ⟨v,_,hparent,h⟩ := returns_bind.mp h
  simp only [returns_throwIf_bind,returns_pure] at h
  obtain ⟨-,-,-,rfl,heq⟩ := h
  obtain ⟨rfl,-⟩ := Prod.mk.inj heq
  exact ⟨(requireParent_chain hparent).trans (getById_chain hread),rfl,_,rfl⟩

theorem trimmed_newAssetId (huuid : Trimmed ("AST-"++uuid)) :
    Trimmed (newAssetId input uuid) := by
  rw [newAssetId]
  split
  · exact trimmed_jsTrim _
  · exact huuid

/-- The asset shows this parent when it is returned, where it is stored, and when it is read again. -/
structure ShowsParent (P : Platform) (ctx : AssetsContext) (t : AssetsSystem H) (row : Asset)
    (parent : Option String) : Prop where
  returned : row.parentAssetId = some parent
  stored : t.repository.find row.assetId = some row ∧ t.assets row.assetId = some row
  readable : ∃ u found,(getById row.assetId).Returns (AssetCall.handle P ctx) t u found
  read : ∀ u found,(getById row.assetId).Returns (AssetCall.handle P ctx) t u found →
    ∃ row',found = some row' ∧ row'.parentAssetId = some parent

/-- Whatever parent was asked for, the asset that `create` returns is a root. -/
theorem create_root (hs : Reachable s.chain) (huuid : Trimmed ("AST-"++uuid)) {row : Asset}
    (h : (create ctx actor input uuid).Returns (AssetCall.handle P ctx) s t row) :
    row.assetId = newAssetId input uuid ∧ ShowsParent P ctx t row none := by
  obtain ⟨u,⟨tx,fallback⟩,hchecked,h⟩ := returns_bind.mp h
  obtain ⟨hchain,htype,rest,hpayload⟩ := createChecked_returns hchecked
  obtain ⟨d,w',found,hsubmit,hread,hsettled⟩ := settle_returns h
  rw [hchain] at hsubmit
  obtain ⟨⟨env,call⟩,-,hprepare,hexec⟩ := EvmAdapter.submitTransaction_success hsubmit
  have hplan := EvmAdapter.prepare_call hprepare
  rw [htype,hpayload] at hplan
  obtain ⟨owner,rfl⟩ := plan_mint (trimmed_newAssetId huuid) hplan
  have hbefore : Reachable (attemptAll exec s.chain d.interference) := hs.attemptAll _
  have hw' : Reachable w' := hbefore.step hexec
  obtain ⟨token,hn,hroot⟩ := minted_root hbefore hexec
  obtain ⟨onChain,rfl,hshows⟩ := getAsset_shows hw' hn hread
  obtain ⟨rfl,hchain',hassets,hrepository⟩ := hsettled onChain rfl
  have hmerged := hshows.merge (hn.id_ne hw'.hierarchy) (some fallback)
  have hid := hmerged.assetId
  refine ⟨hid,hmerged.root hroot,⟨?_,?_⟩,?_,?_⟩
  · rw [hrepository,Table.find_save,if_pos rfl]
  · rw [hid,hassets]
  · rw [hid]
    exact ⟨_,_,returns_getById.mpr ⟨some onChain,hchain' ▸ hread,rfl,rfl⟩⟩
  · rw [hid]
    intro v found hfound
    obtain ⟨-,-,row',rfl,hrow'⟩ := getById_returns hchain' hw' hn hfound
    exact ⟨row',rfl,hrow'.root hroot⟩

/-- A new asset has the parent that was asked for exactly when none was. -/
theorem create_keeps_parent_iff (P : Platform) (ctx : AssetsContext) (actor : Option AssetActor)
    (s t : AssetsSystem H) (hs : Reachable s.chain) (input : AssetInput) (uuid : String)
    (huuid : Trimmed ("AST-"++uuid)) (row : Asset)
    (h : (create ctx actor input uuid).Returns (AssetCall.handle P ctx) s t row) :
    ShowsParent P ctx t row input.parentAssetId.join ↔ input.parentAssetId.join = none := by
  obtain ⟨-,hroot⟩ := create_root hs huuid h
  constructor
  · intro hkept
    exact (Option.some.inj (hkept.returned.symm.trans hroot.returned))
  · intro hnone
    rw [hnone]
    exact hroot

end Creation

section Prototype

/-- A valve for the administrator, with the parent asked for. -/
def valveInput (parentAssetId : Option (Option String)) : AssetInput :=
  ⟨some " VALVE-1 ",some "VALVE",some "DID:BEL:ADMIN",some "DID:BEL:ADMIN",parentAssetId⟩

/-- The administrator creates it where RADAR-1 exists. -/
def valveCreation (parentAssetId : Option (Option String)) :
    AssetsSystem (Option Bytes) × Except ServiceError Asset :=
  (create assetsContext (some (assetActor "0x02f8")) (valveInput parentAssetId) "0b1e").run
    (AssetCall.handle prototypePlatform assetsContext) (fun _ => ⟨[],20,20,1,.mined⟩)
    (assetsSystem hierarchyTxs)

private theorem valveCreation_returns {parentAssetId : Option (Option String)} {row : Asset}
    (h : (valveCreation parentAssetId).2 = .ok row) :
    (create assetsContext (some (assetActor "0x02f8")) (valveInput parentAssetId) "0b1e").Returns
      (AssetCall.handle prototypePlatform assetsContext) (assetsSystem hierarchyTxs)
      (valveCreation parentAssetId).1 row := by
  unfold valveCreation at h ⊢
  exact returns_of_run h

theorem create_keeps_no_parent : ∃ row,(valveCreation none).2 = .ok row ∧
    ShowsParent prototypePlatform assetsContext (valveCreation none).1 row none := by
  have hcreated : (valveCreation none).2 = .ok ⟨"VALVE-1","5","VALVE","DID:BEL:ADMIN",
      "DID:BEL:ADMIN",some none,.ACTIVE⟩ := by decide +kernel
  have huuid : Trimmed ("AST-"++"0b1e") := by decide +kernel
  exact ⟨_,hcreated,(create_keeps_parent_iff prototypePlatform assetsContext _ _ _
    (assetsSystem_reachable hierarchyTxs) (valveInput none) "0b1e" huuid _
    (valveCreation_returns hcreated)).mpr rfl⟩

/-- The valve is created below RADAR-1 and has no parent. -/
theorem create_drops_parent :
    Reachable (assetsSystem hierarchyTxs).chain ∧ Trimmed ("AST-"++"0b1e") ∧
    (assetsSystem hierarchyTxs).token "RADAR-1" = 1 ∧
    ∃ row,(create assetsContext (some (assetActor "0x02f8")) (valveInput (some (some "RADAR-1")))
        "0b1e").Returns (AssetCall.handle prototypePlatform assetsContext)
        (assetsSystem hierarchyTxs) (valveCreation (some (some "RADAR-1"))).1 row ∧
      row.parentAssetId = some none ∧
      ¬ShowsParent prototypePlatform assetsContext (valveCreation (some (some "RADAR-1"))).1 row
        (some "RADAR-1") := by
  have hcreated : (valveCreation (some (some "RADAR-1"))).2 = .ok ⟨"VALVE-1","5","VALVE",
      "DID:BEL:ADMIN","DID:BEL:ADMIN",some none,.ACTIVE⟩ := by decide +kernel
  refine ⟨assetsSystem_reachable hierarchyTxs,by decide +kernel,by decide +kernel,_,
    valveCreation_returns hcreated,rfl,?_⟩
  intro hkept
  cases hkept.returned

end Prototype
end BelLedger
