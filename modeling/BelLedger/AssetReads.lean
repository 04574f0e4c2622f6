import BelLedger.AssetOwnership
import BelLedger.AssetsService

/-!
# How AssetsServiceImpl reads minted assets

A read of a minted asset succeeds when its texts are valid UTF-8, and gives a row that shows the
token, whatever the index and the repository hold. The cycle check climbs from row to row as the
contract climbs from record to record.
-/
namespace BelLedger
open CheckedCalls TransitionRuns ParentForests AssetRegistry EffectPrograms Prog AssetsService

variable {H : Type} [Keccak H] [DecidableEq H]

section Reading
variable {ctx : AssetsContext} {w : World H} {t : ℕ} {id : String}

theorem decoded_eq_ok {bytes : Bytes} {text : String} :
    EvmAdapter.decoded bytes = .ok text ↔ utf8 text = bytes := by
  have hfrom : String.fromUTF8? ⟨bytes.toArray⟩ = some text ↔ utf8 text = bytes := by
    unfold String.fromUTF8?
    constructor
    · intro h
      split at h
      · cases h
        rfl
      · cases h
    · rintro rfl
      have hbytes : (⟨(utf8 text).toArray⟩ : ByteArray) = text.toByteArray := by
        simp [utf8]
      simp only [hbytes,text.isValidUTF8,dif_pos]
      rfl
  rw [← hfrom]
  unfold EvmAdapter.decoded
  split
  · rename_i found hfound
    simp [hfound]
  · rename_i hfound
    simp [hfound]

/-- The text is the asset id of the token. -/
structure NamesAsset (w : World H) (t : ℕ) (id : String) : Prop where
  minted : Minted w.assets t
  assetId : (w.assets.assets t).assetId = utf8 id

omit [DecidableEq H] in
theorem NamesAsset.nftIdOf_eq (hn : NamesAsset w t id) (ho : OwnershipInvariant w.assets) :
    nftIdOf w.assets (utf8 id) = t := by
  rw [← hn.assetId]
  exact ho.indexed t hn.minted

omit [Keccak H] [DecidableEq H] in
theorem NamesAsset.ne_zero (hn : NamesAsset w t id) (hh : HierarchyInvariant w.assets) : t ≠ 0 :=
  fun hzero => hh.zero_not_minted (hzero ▸ hn.minted)

omit [Keccak H] [DecidableEq H] in
theorem NamesAsset.id_ne (hn : NamesAsset w t id) (hh : HierarchyInvariant w.assets) : id ≠ "" := by
  rintro rfl
  have hlen := (hh.assetId_length t hn.minted).1
  rw [hn.assetId] at hlen
  exact hlen rfl

omit [DecidableEq H] in
theorem NamesAsset.eq_iff {t' : ℕ} {id' : String} (hn : NamesAsset w t id) (hn' : NamesAsset w t' id')
    (ho : OwnershipInvariant w.assets) : id = id' ↔ t = t' := by
  constructor
  · rintro rfl
    exact (hn.nftIdOf_eq ho).symm.trans (hn'.nftIdOf_eq ho)
  · rintro rfl
    exact utf8_injective (hn.assetId.symm.trans hn'.assetId)

/-- A text under which a token is found is the asset id of the token. -/
theorem names_nftIdOf (hinj : Function.Injective (keccak256 : Bytes → H)) (hw : Reachable w)
    (hid : nftIdOf w.assets (utf8 id) ≠ 0) : NamesAsset w (nftIdOf w.assets (utf8 id)) id := by
  obtain ⟨hminted,hkey⟩ := hw.ownership.found _ hid
  exact ⟨hminted,hinj hkey⟩

/-- A text that the adapter can read. -/
def ValidText (bytes : Bytes) : Prop := ∃ text,utf8 text = bytes

/-- The texts that a read of the token decodes: the id of its parent and the DID of its owner. -/
structure Legible (w : World H) (t : ℕ) : Prop where
  parent : parentOf w.assets t ≠ 0 → ValidText (w.assets.assets (parentOf w.assets t)).assetId
  owner : ValidText (IdentityRegistry.identityOf w.identity (w.assets.owners t))

/-- The row shows the state of the token. -/
structure Shows (w : World H) (t : ℕ) (id : String) (row : Asset) : Prop where
  assetId : row.assetId = id
  nftId : row.nftId = toString t
  owner : ∀ did,did ≠ "" → IdentityRegistry.identityOf w.identity (w.assets.owners t) = utf8 did →
    row.ownerId = did
  root : parentOf w.assets t = 0 → row.parentAssetId = some none
  component : parentOf w.assets t ≠ 0 → ∃ parent,row.parentAssetId = some (some parent) ∧
    utf8 parent = (w.assets.assets (parentOf w.assets t)).assetId
  status : row.status.onChain = (w.assets.assets t).state

omit [Keccak H] [DecidableEq H] in
theorem existing_minted (ht : Minted w.assets t) :
    existing w.assets t = .ok (w.assets.assets t) := by
  rw [existing,revertIf_bind_eq_ok]
  exact ⟨ht,rfl⟩

omit [Keccak H] [DecidableEq H] in
private theorem parentAssetId_eq_ok {parent : ℕ} (hparent : parent ≠ 0 → Minted w.assets parent)
    {found : Option String} :
    EvmAdapter.parentAssetId w parent = .ok found ↔ (parent = 0 ∧ found = none) ∨
      (parent ≠ 0 ∧ ∃ text,utf8 text = (w.assets.assets parent).assetId ∧ found = some text) := by
  by_cases hroot : parent = 0
  · simp [EvmAdapter.parentAssetId,hroot,eq_comm]
  · have hread : EvmAdapter.read (existing w.assets parent) = .ok (w.assets.assets parent) := by
      rw [existing_minted (hparent hroot)]
      rfl
    simp only [EvmAdapter.parentAssetId,if_neg hroot,hread,ok_bind,ok_bind_iff,decoded_eq_ok,
      ok_pure_iff]
    simp [hroot,eq_comm]

omit [Keccak H] [DecidableEq H] in
private theorem identityOrAddress_eq_ok {a : Address} {text : String} :
    EvmAdapter.identityOrAddress ctx.checksum w a = .ok text ↔
      ∃ did,utf8 did = IdentityRegistry.identityOf w.identity a ∧
        (if did = "" then ctx.checksum a else did) = text := by
  simp only [EvmAdapter.identityOrAddress,ok_bind_iff,decoded_eq_ok,ok_pure_iff]

/-- What a read of a minted token needs, and what it gives. -/
private theorem getAsset_eq_ok (hw : Reachable w) (hn : NamesAsset w t id) {found : Option Asset} :
    EvmAdapter.getAsset ctx w id = .ok found ↔ ∃ parent owner custodian,
      EvmAdapter.parentAssetId w (parentOf w.assets t) = .ok parent ∧
      EvmAdapter.identityOrAddress ctx.checksum w (w.assets.owners t) = .ok owner ∧
      EvmAdapter.identityOrAddress ctx.checksum w (w.assets.owners t) = .ok custodian ∧
      found = some
        { assetId := id, nftId := toString t, assetType := (ctx.assetType id).getD "",
          ownerId := owner, custodianId := custodian, parentAssetId := some parent,
          status := EvmAdapter.statusNamed (stateName (w.assets.assets t).state) } := by
  have hminted := hn.minted
  have howner : ownerOfAsset w.assets t = .ok (w.assets.owners t) := by
    rw [ownerOfAsset,existing_minted hminted]
    exact revertIf_bind_eq_ok.mpr ⟨hw.ownership.owned t hminted,rfl⟩
  have hstate : stateOf w.assets t = .ok (stateName (w.assets.assets t).state) := by
    rw [stateOf,existing_minted hminted]
    rfl
  have hcustodian := hw.ownership.custodian t hminted
  simp only [EvmAdapter.getAsset,hn.nftIdOf_eq hw.ownership,if_neg (hn.ne_zero hw.hierarchy),
    existing_minted hminted,howner,hstate,EvmAdapter.read,Except.mapError,ok_bind,hcustodian]
  simp only [ok_bind_iff,ok_pure_iff,parentOf]
  simp only [exists_and_left,eq_comm]

/-- A read of a minted token succeeds exactly when the token is legible. -/
theorem getAsset_legible (hw : Reachable w) (hn : NamesAsset w t id) :
    (∃ row,EvmAdapter.getAsset ctx w id = .ok (some row)) ↔ Legible w t := by
  have hparent : parentOf w.assets t ≠ 0 → Minted w.assets (parentOf w.assets t) :=
    hw.hierarchy.parent_minted t
  constructor
  · rintro ⟨row,hrow⟩
    obtain ⟨parent,owner,-,hp,ho,-,-⟩ := (getAsset_eq_ok hw hn).mp hrow
    obtain ⟨did,hdid,-⟩ := identityOrAddress_eq_ok.mp ho
    refine ⟨fun hne => ?_,did,hdid⟩
    rcases (parentAssetId_eq_ok hparent).mp hp with ⟨hzero,-⟩ | ⟨-,text,htext,-⟩
    · exact absurd hzero hne
    · exact ⟨text,htext⟩
  · intro h
    obtain ⟨did,hdid⟩ := h.owner
    have howner : EvmAdapter.identityOrAddress ctx.checksum w (w.assets.owners t) =
        .ok (if did = "" then ctx.checksum (w.assets.owners t) else did) :=
      identityOrAddress_eq_ok.mpr ⟨did,hdid,rfl⟩
    have hread : ∃ parent,EvmAdapter.parentAssetId w (parentOf w.assets t) = .ok parent := by
      by_cases hzero : parentOf w.assets t = 0
      · exact ⟨none,(parentAssetId_eq_ok hparent).mpr (.inl ⟨hzero,rfl⟩)⟩
      · obtain ⟨text,htext⟩ := h.parent hzero
        exact ⟨some text,(parentAssetId_eq_ok hparent).mpr (.inr ⟨hzero,text,htext,rfl⟩)⟩
    obtain ⟨parent,hp⟩ := hread
    exact ⟨_,(getAsset_eq_ok hw hn).mpr ⟨parent,_,_,hp,howner,howner,rfl⟩⟩

/-- Every state but NONE is the state of a status. -/
private theorem exists_onChain {state : AssetState} (h : state ≠ .NONE) :
    ∃ status : AssetStatus,status.onChain = state := by
  cases state with
  | NONE => exact absurd rfl h
  | ACTIVE => exact ⟨.ACTIVE,rfl⟩
  | IN_MAINTENANCE => exact ⟨.IN_MAINTENANCE,rfl⟩
  | DECOMMISSIONED => exact ⟨.DECOMMISSIONED,rfl⟩

theorem onChain_statusNamed {state : AssetState} (h : state ≠ .NONE) :
    (EvmAdapter.statusNamed (stateName state)).onChain = state := by
  obtain ⟨status,rfl⟩ := exists_onChain h
  rw [EvmAdapter.statusNamed_onChain]

/-- A read of a minted token gives a row that shows it. -/
theorem getAsset_shows (hw : Reachable w) (hn : NamesAsset w t id) {found : Option Asset}
    (h : EvmAdapter.getAsset ctx w id = .ok found) :
    ∃ row,found = some row ∧ Shows w t id row := by
  obtain ⟨parent,owner,-,hp,ho,-,rfl⟩ := (getAsset_eq_ok hw hn).mp h
  obtain ⟨did,hdid,rfl⟩ := identityOrAddress_eq_ok.mp ho
  have hparent := (parentAssetId_eq_ok (hw.hierarchy.parent_minted t)).mp hp
  refine ⟨_,rfl,rfl,rfl,?_,?_,?_,onChain_statusNamed hn.minted⟩
  · intro did' hne hdid'
    obtain rfl := utf8_injective (hdid.trans hdid')
    exact if_neg hne
  · intro hzero
    rcases hparent with ⟨-,rfl⟩ | ⟨hne,-⟩
    · rfl
    · exact absurd hzero hne
  · intro hne
    rcases hparent with ⟨hzero,-⟩ | ⟨-,text,htext,rfl⟩
    · exact absurd hzero hne
    · exact ⟨text,rfl,htext⟩

omit [Keccak H] [DecidableEq H] in
/-- What the index or the repository holds of an asset does not hide its state. -/
theorem Shows.merge {row : Asset} (h : Shows w t id row) (hid : id ≠ "") (cached : Option Asset) :
    Shows w t id (mergeAsset row cached) := by
  have hparent : (mergeAsset row cached).parentAssetId = row.parentAssetId := by
    by_cases hzero : parentOf w.assets t = 0
    · simp [mergeAsset,h.root hzero]
    · obtain ⟨parent,hp,-⟩ := h.component hzero
      simp [mergeAsset,hp]
  refine ⟨?_,h.nftId,h.owner,?_,?_,h.status⟩
  · simp [mergeAsset,h.assetId,hid]
  · rw [hparent]
    exact h.root
  · rw [hparent]
    exact h.component

end Reading

section Names
variable {w w' u : World H}

/-- Every wallet keeps its DID and every token its asset id. -/
structure KeepsNames (w w' : World H) : Prop where
  wallets : KeepsWallets w w'
  assets : ∀ t,Minted w.assets t →
    Minted w'.assets t ∧ (w'.assets.assets t).assetId = (w.assets.assets t).assetId

omit [Keccak H] [DecidableEq H] in
theorem KeepsNames.refl (w : World H) : KeepsNames w w := ⟨.refl w,fun _ h => ⟨h,rfl⟩⟩

omit [Keccak H] [DecidableEq H] in
theorem KeepsNames.trans (h : KeepsNames w u) (h' : KeepsNames u w') : KeepsNames w w' := by
  refine ⟨h.wallets.trans h'.wallets,fun t ht => ?_⟩
  obtain ⟨hminted,hid⟩ := h.assets t ht
  obtain ⟨hminted',hid'⟩ := h'.assets t hminted
  exact ⟨hminted',hid'.trans hid⟩

omit [Keccak H] [DecidableEq H] in
theorem KeepsNames.names (h : KeepsNames w w') {t : ℕ} {id : String} (hn : NamesAsset w t id) :
    NamesAsset w' t id := by
  obtain ⟨hminted,hid⟩ := h.assets t hn.minted
  exact ⟨hminted,hid.trans hn.assetId⟩

private theorem AssetChange.assetId {tx : Tx} {s : Storage H} (h : AssetChange w tx s)
    (hh : HierarchyInvariant w.assets) {t : ℕ} (ht : Minted w.assets t) :
    (s.assets t).assetId = (w.assets.assets t).assetId := by
  cases h with
  | mint assetId owner hcall howner hactive hfresh =>
    have htn : t ≠ w.assets.nextId := by
      have hlt := ((hh.minted_iff t).mp ht).2
      omega
    simp [htn]
  | transfer n | state n | attach _ n =>
    by_cases htn : t = n
    · simp [htn]
    · simp [htn]
  | remove _ n =>
    by_cases htn : t = n
    · simp [removed,htn]
    · simp [removed,htn]
  | _ => rfl

theorem exec_keepsNames {tx : Tx} (hw : Reachable w) (hs : exec w tx = .ok w') : KeepsNames w w' := by
  refine ⟨exec_keepsWallets hw hs,fun t ht => ?_⟩
  have hchange := exec_assetChange hw.deployed hs
  exact ⟨hchange.minted ht,hchange.assetId hw.hierarchy ht⟩

theorem attemptAll_keepsNames (hw : Reachable w) (txs : List Tx) :
    KeepsNames w (attemptAll exec w txs) := by
  refine hw.attemptAll_related (R := KeepsNames) (fun u _ => .refl u)
    (fun _ _ _ h h' => h.trans h') ?_
  intro tx _ u hu
  unfold attempt
  cases hs : exec u tx with
  | ok v => exact exec_keepsNames hu hs
  | error e => exact .refl u

end Names

section Programs
variable {P : Platform} {ctx : AssetsContext} {w : World H} {s u : AssetsSystem H} {α : Type}
  {id : String} {f : Asset → Program α} {t : ℕ}

/-- What `getById` starts from. -/
def AssetsSystem.known (s : AssetsSystem H) (id : String) : Option Asset :=
  (s.assets id).orElse (fun _ => s.repository.find id)

/-- The program can be run from `s` to a value. -/
def Accepts (P : Platform) (ctx : AssetsContext) (s : AssetsSystem H) (p : Program α) : Prop :=
  ∃ u a,p.Returns (AssetCall.handle P ctx) s u a

theorem accepts_throwIf_bind {c : Prop} [Decidable c] {e : ServiceError} {g : Unit → Program α} :
    Accepts P ctx s (throwIf c e >>= g) ↔ ¬c ∧ Accepts P ctx s (g ()) := by
  simp only [Accepts,returns_throwIf_bind,exists_and_left]

theorem accepts_orThrow_bind {β : Type} {found : Option β} {e : ServiceError} {g : β → Program α} :
    Accepts P ctx s (orThrow found e >>= g) ↔ ∃ b,found = some b ∧ Accepts P ctx s (g b) := by
  simp only [Accepts,returns_orThrow_bind]
  constructor
  · rintro ⟨u,a,b,hb,h⟩
    exact ⟨b,hb,u,a,h⟩
  · rintro ⟨b,hb,u,a,h⟩
    exact ⟨u,a,b,hb,h⟩

theorem accepts_pure {b : α} : Accepts P ctx s (pure b : Program α) :=
  ⟨s,b,returns_pure.mpr ⟨rfl,rfl⟩⟩

/-- The rule of sequencing. -/
theorem accepts_bind {β : Type} {p : Program β} {g : β → Program α} :
    Accepts P ctx s (p >>= g) ↔
      ∃ u b,p.Returns (AssetCall.handle P ctx) s u b ∧ Accepts P ctx u (g b) := by
  simp only [Accepts,returns_bind]
  constructor
  · rintro ⟨v,a,u,b,hp,hg⟩
    exact ⟨u,b,hp,v,a,hg⟩
  · rintro ⟨u,b,hp,v,a,hg⟩
    exact ⟨v,a,u,b,hp,hg⟩

theorem returns_getById {found : Option Asset} :
    (getById id).Returns (AssetCall.handle P ctx) s u found ↔
      ∃ onChain,EvmAdapter.getAsset ctx s.chain id = .ok onChain ∧
        match onChain with
        | none => s = u ∧ s.known id = found
        | some row => { s with
            assets := Function.update s.assets id (some (mergeAsset row (s.known id))) } = u ∧
          some (mergeAsset row (s.known id)) = found := by
  simp only [getById,returns_perform_bind,returns_done_bind]
  constructor
  · rintro ⟨_,_,onChain,hread,h⟩
    refine ⟨onChain,hread,?_⟩
    cases onChain with
    | none => exact returns_pure.mp h
    | some row =>
      simp only [returns_perform_bind,returns_pure] at h
      obtain ⟨_,h⟩ := h
      exact h
  · rintro ⟨onChain,hread,h⟩
    refine ⟨default,default,onChain,hread,?_⟩
    cases onChain with
    | none => exact returns_pure.mpr h
    | some row =>
      simp only [returns_perform_bind,returns_pure]
      exact ⟨default,h⟩

/-- A read of a minted asset writes the index only, and returns a row that shows the token. -/
theorem getById_returns (hs : s.chain = w) (hw : Reachable w) (hn : NamesAsset w t id)
    {found : Option Asset} (h : (getById id).Returns (AssetCall.handle P ctx) s u found) :
    Legible w t ∧ u.chain = w ∧ ∃ row,found = some row ∧ Shows w t id row := by
  subst hs
  obtain ⟨onChain,hread,h⟩ := returns_getById.mp h
  obtain ⟨row,rfl,hshows⟩ := getAsset_shows hw hn hread
  obtain ⟨rfl,rfl⟩ := h
  exact ⟨(getAsset_legible hw hn).mp ⟨row,hread⟩,rfl,_,rfl,hshows.merge (hn.id_ne hw.hierarchy) _⟩

theorem accepts_getById_bind (hs : s.chain = w) (hw : Reachable w) (hn : NamesAsset w t id) {Q : Prop}
    {g : Option Asset → Program α} (hg : ∀ u row,u.chain = w → Shows w t id row →
      (Accepts P ctx u (g (some row)) ↔ Q)) :
    Accepts P ctx s (getById id >>= g) ↔ Legible w t ∧ Q := by
  rw [accepts_bind]
  constructor
  · rintro ⟨u,found,hread,hrest⟩
    obtain ⟨hlegible,hchain,row,rfl,hshows⟩ := getById_returns hs hw hn hread
    exact ⟨hlegible,(hg u row hchain hshows).mp hrest⟩
  · rintro ⟨hlegible,hQ⟩
    have hread : ∃ row,EvmAdapter.getAsset ctx w id = .ok (some row) :=
      (getAsset_legible hw hn).mpr hlegible
    obtain ⟨row,hread⟩ := hread
    rw [← hs] at hread
    have hreturns := (returns_getById (P := P)).mpr ⟨some row,hread,rfl,rfl⟩
    obtain ⟨-,hchain,row',hrow',hshows⟩ := getById_returns hs hw hn hreturns
    exact ⟨_,_,hreturns,hrow' ▸ (hg _ row' hchain hshows).mpr hQ⟩

theorem accepts_requireAsset_bind (hs : s.chain = w) (hw : Reachable w) (hn : NamesAsset w t id)
    {Q : Prop} {«field» : String} (hf : ∀ u row,u.chain = w → Shows w t id row →
      (Accepts P ctx u (f row) ↔ Q)) :
    Accepts P ctx s (requireAsset id «field» >>= f) ↔ Legible w t ∧ Q := by
  unfold requireAsset
  rw [bind_assoc]
  exact accepts_getById_bind hs hw hn hf

/-- An actor whose identity, wallet and signature are not blank. -/
structure AssetActor.WellFormed (actor : AssetActor) : Prop where
  identity : jsTrim actor.identityId ≠ ""
  wallet : jsTrim actor.walletAddress ≠ ""
  signature : signatureOf (some actor) ≠ ""

theorem transaction_eq {actor : AssetActor} (hactor : actor.WellFormed)
    (hsigned : ctx.evm = true → signatureOf (some actor) ≠ "development") (type : TransactionType)
    (payload : Payload) :
    transaction ctx type (some actor) payload = pure ⟨type,jsTrim actor.walletAddress,payload⟩ := by
  have hgate : ¬(ctx.evm = true ∧
      (signatureOf (some actor) = "" ∨ signatureOf (some actor) = "development")) := by
    rintro ⟨hevm,hblank | hdevelopment⟩
    · exact hactor.signature hblank
    · exact hsigned hevm hdevelopment
  simp only [transaction,requiredString,Option.map_some,Option.getD_some,
    throwIf_bind_of_neg hactor.identity,throwIf_bind_of_neg hactor.wallet,pure_bind,
    throwIf_bind_of_neg hgate]

end Programs

section CycleCheck
variable {P : Platform} {ctx : AssetsContext} {w : World H} {s : AssetsSystem H} {α : Type}
  {g : Unit → Program α}

omit [Keccak H] [DecidableEq H] in
private theorem properAncestor_iff {parent : ℕ → ℕ} {t x : ℕ} :
    Relation.TransGen (Edge 0 parent) t x ↔ parent t ≠ 0 ∧ Above 0 parent (parent t) x := by
  rw [Relation.TransGen.head'_iff]
  constructor
  · rintro ⟨q,⟨rfl,hne⟩,hx⟩
    exact ⟨hne,hx⟩
  · rintro ⟨hne,hx⟩
    exact ⟨_,⟨rfl,hne⟩,hx⟩

/-- The tokens properly above `t`. -/
def Ancestor (w : World H) (t x : ℕ) : Prop := Relation.TransGen (Edge 0 (parentOf w.assets)) t x

omit [Keccak H] [DecidableEq H] in
theorem ancestor_iff {t x : ℕ} : Ancestor w t x ↔ parentOf w.assets t ≠ 0 ∧
    (x = parentOf w.assets t ∨ Ancestor w (parentOf w.assets t) x) := by
  rw [Ancestor,properAncestor_iff]
  refine and_congr_right (fun _ => ?_)
  rw [Above,Relation.reflTransGen_iff_eq_or_transGen]
  exact Iff.rfl

omit [Keccak H] [DecidableEq H] in
private theorem climb_component {componentId parent id : String} {row : Asset} {t rounds : ℕ}
    {visited : List String} (hrow : Shows w t id row)
    (hparent : row.parentAssetId = some (some parent)) (hne : parent ≠ "") :
    climb componentId (rounds + 1) (some row) visited = (do
      throwIf (id ∈ visited) (.ValidationError ["Asset component hierarchy contains a cycle"])
      throwIf (parent = componentId)
        (.ValidationError ["Component attachment would create a cycle"])
      let next ← getById parent
      climb componentId rounds next (id::visited)) := by
  have hcurrent : ((some row).bind Asset.parent).filter (· ≠ "") = some parent := by
    simp [Asset.parent,hparent,hne]
  rw [climb.eq_def]
  simp only [hcurrent,Option.map_some,Option.getD_some,hrow.assetId]

/-- The loop goes on exactly when the component is not above and everything above can be read. The
ids that it has visited name tokens below. -/
private theorem accepts_climb_bind (hw : Reachable w) {c : ℕ} {componentId : String}
    (hc : NamesAsset w c componentId) {Q : Prop}
    (hg : ∀ u,u.chain = w → (Accepts P ctx u (g ()) ↔ Q)) {rounds t : ℕ} {id : String} {row : Asset}
    {visited : List String} (hs : s.chain = w) (hn : NamesAsset w t id) (hrow : Shows w t id row)
    (hrounds : Within 0 (parentOf w.assets) rounds t)
    (hvisited : ∀ v ∈ visited,∃ x,NamesAsset w x v ∧ Ancestor w x t) :
    Accepts P ctx s (climb componentId rounds (some row) visited >>= g) ↔
      (∀ x,Ancestor w t x → x ≠ c ∧ Legible w x) ∧ Q := by
  induction rounds generalizing s t id row visited with
  | zero => exact absurd hrounds (hn.ne_zero hw.hierarchy)
  | succ rounds ih =>
    by_cases hroot : parentOf w.assets t = 0
    · have hend : climb componentId (rounds + 1) (some row) visited = pure () := by
        simp [climb,Asset.parent,hrow.root hroot]
      have hnone : ∀ x,Ancestor w t x → x ≠ c ∧ Legible w x :=
        fun x hx => absurd hroot (ancestor_iff.mp hx).1
      rw [hend,pure_bind,hg s hs]
      exact (and_iff_right hnone).symm
    · obtain ⟨parent,hparent,htext⟩ := hrow.component hroot
      have hq : NamesAsset w (parentOf w.assets t) parent :=
        ⟨hw.hierarchy.parent_minted t hroot,htext.symm⟩
      have hfresh : id ∉ visited := by
        intro hmem
        obtain ⟨x,hx,habove⟩ := hvisited id hmem
        obtain rfl := (hx.eq_iff hn hw.ownership).mp rfl
        exact hw.hierarchy.forest.acyclic x habove
      have hvisited' : ∀ v ∈ id::visited,
          ∃ x,NamesAsset w x v ∧ Ancestor w x (parentOf w.assets t) := by
        intro v hv
        have hedge : Edge 0 (parentOf w.assets) t (parentOf w.assets t) := ⟨rfl,hroot⟩
        rcases List.mem_cons.mp hv with rfl | hv
        · exact ⟨t,hn,.single hedge⟩
        · obtain ⟨x,hx,habove⟩ := hvisited v hv
          exact ⟨x,hx,habove.tail hedge⟩
      have hrest : Within 0 (parentOf w.assets) rounds (parentOf w.assets t) :=
        hrounds.resolve_left (hn.ne_zero hw.hierarchy)
      rw [climb_component hrow hparent (hq.id_ne hw.hierarchy),bind_assoc,accepts_throwIf_bind,
        bind_assoc,accepts_throwIf_bind,bind_assoc,accepts_getById_bind hs hw hq
          (fun u row' hu hrow' => ih hu hq hrow' hrest hvisited'),hq.eq_iff hc hw.ownership]
      constructor
      · rintro ⟨-,hne,hlegible,hall,hQ⟩
        refine ⟨fun x hx => ?_,hQ⟩
        rcases (ancestor_iff.mp hx).2 with rfl | hx
        · exact ⟨hne,hlegible⟩
        · exact hall x hx
      · rintro ⟨hall,hQ⟩
        have hfirst := hall _ (ancestor_iff.mpr ⟨hroot,.inl rfl⟩)
        refine ⟨hfresh,hfirst.1,hfirst.2,fun x hx => ?_,hQ⟩
        exact hall x (ancestor_iff.mpr ⟨hroot,.inr hx⟩)

/-- The condition that the contract's loop checks, in terms of what is above. -/
theorem ancestorLoop_iff (hw : Reachable w) {p c : ℕ} (hc : c ≠ 0) :
    ancestorLoop (parentOf w.assets) p c w.assets.nextId (parentOf w.assets p) = .ok () ↔
      ∀ x,Ancestor w p x → x ≠ c := by
  have hwithin : Within 0 (parentOf w.assets) w.assets.nextId (parentOf w.assets p) :=
    hw.hierarchy.within _ (hw.hierarchy.parent_minted p)
  rw [ancestorLoop_eq_ok hc hw.hierarchy.parentOf_zero hwithin]
  constructor
  · rintro hnot x hx rfl
    exact hnot (properAncestor_iff.mp hx).2
  · intro hall habove
    by_cases hroot : parentOf w.assets p = 0
    · rw [hroot] at habove
      rcases Relation.ReflTransGen.cases_head habove with he | ⟨q,⟨hq,hne⟩,-⟩
      · exact hc he.symm
      · exact hne (hq.symm.trans hw.hierarchy.parentOf_zero)
    · exact hall c (properAncestor_iff.mpr ⟨hroot,habove⟩) rfl

/-- `assertNoCycle` accepts exactly when the loop of the contract does, on assets it can read. -/
theorem accepts_assertNoCycle_bind (hs : s.chain = w) (hw : Reachable w) {p c : ℕ}
    {parentId componentId : String} (hp : NamesAsset w p parentId) (hc : NamesAsset w c componentId)
    (hrounds : w.assets.nextId ≤ ctx.rounds) {Q : Prop}
    (hg : ∀ u,u.chain = w → (Accepts P ctx u (g ()) ↔ Q)) :
    Accepts P ctx s (assertNoCycle ctx parentId componentId >>= g) ↔
      Legible w p ∧
        (ancestorLoop (parentOf w.assets) p c w.assets.nextId (parentOf w.assets p) = .ok () ∧
          ∀ x,Ancestor w p x → Legible w x) ∧ Q := by
  have hwithin : Within 0 (parentOf w.assets) ctx.rounds p :=
    (hw.hierarchy.within p (fun _ => hp.minted)).mono hrounds
  have hsplit : (ancestorLoop (parentOf w.assets) p c w.assets.nextId (parentOf w.assets p) = .ok () ∧
      ∀ x,Ancestor w p x → Legible w x) ↔ ∀ x,Ancestor w p x → x ≠ c ∧ Legible w x := by
    rw [ancestorLoop_iff hw (hc.ne_zero hw.hierarchy)]
    exact ⟨fun h x hx => ⟨h.1 x hx,h.2 x hx⟩,fun h => ⟨fun x hx => (h x hx).1,fun x hx => (h x hx).2⟩⟩
  rw [assertNoCycle,bind_assoc,hsplit]
  apply accepts_getById_bind hs hw hp
  intro u row hu hrow
  exact accepts_climb_bind hw hc hg hu hp hrow hwithin (fun v hv => absurd hv List.not_mem_nil)

omit [Keccak H] [DecidableEq H] in
private theorem read_outcome {β : Type} (r : Except Revert β) :
    Outcome (fun e => e ≠ stillRunning) (fun _ => True) (EvmAdapter.read r) := by
  cases r with
  | ok b => exact outcome_ok trivial
  | error e => exact outcome_error (by simp [stillRunning])

private theorem decoded_outcome (bytes : Bytes) :
    Outcome (fun e => e ≠ stillRunning) (fun _ => True) (EvmAdapter.decoded bytes) := by
  unfold EvmAdapter.decoded
  split
  · exact outcome_ok trivial
  · exact outcome_error (by simp [stillRunning])

omit [DecidableEq H] in
private theorem getAsset_outcome (id : String) :
    Outcome (fun e => e ≠ stillRunning) (fun _ => True) (EvmAdapter.getAsset ctx w id) := by
  have hname : ∀ a,Outcome (fun e => e ≠ stillRunning) (fun _ => True)
      (EvmAdapter.identityOrAddress ctx.checksum w a) :=
    fun a => (decoded_outcome _).bind (fun _ _ => outcome_ok trivial)
  have hparent : ∀ parent,Outcome (fun e => e ≠ stillRunning) (fun _ => True)
      (EvmAdapter.parentAssetId w parent) := by
    intro parent
    unfold EvmAdapter.parentAssetId
    split
    · exact outcome_ok trivial
    · exact (read_outcome _).bind (fun _ _ => (decoded_outcome _).bind (fun _ _ => outcome_ok trivial))
  unfold EvmAdapter.getAsset
  dsimp only
  split
  · exact outcome_ok trivial
  · refine (read_outcome _).bind (fun _ _ => (read_outcome _).bind (fun _ _ => ?_))
    refine (read_outcome _).bind (fun _ _ => (hparent _).bind (fun _ _ => ?_))
    exact (hname _).bind (fun _ _ => (hname _).bind (fun _ _ => outcome_ok trivial))

private theorem getById_bind_ends (hs : s.chain = w) (hw : Reachable w) {t : ℕ} {id : String}
    (hn : NamesAsset w t id) {g : Option Asset → Program α}
    (hg : ∀ env u row,u.chain = w → Shows w t id row →
      ((g (some row)).run (AssetCall.handle P ctx) env u).2 ≠ .error stillRunning)
    (env : ℕ → Delivery) :
    ((getById id >>= g).run (AssetCall.handle P ctx) env s).2 ≠ .error stillRunning := by
  rw [getById,bind_assoc,run_perform_bind,bind_assoc,run_perform_bind]
  simp only [AssetCall.handle,hs]
  cases hread : EvmAdapter.getAsset ctx w id with
  | error e =>
    intro he
    exact (getAsset_outcome id).error e hread (Except.error.inj he)
  | ok found =>
    obtain ⟨row,rfl,hrow⟩ := getAsset_shows hw hn hread
    exact hg _ _ _ hs (hrow.merge (hn.id_ne hw.hierarchy) _)

private theorem climb_ends (hw : Reachable w) {componentId : String} {rounds t : ℕ} {id : String}
    {row : Asset} {visited : List String} (hs : s.chain = w) (hn : NamesAsset w t id)
    (hrow : Shows w t id row) (hrounds : Within 0 (parentOf w.assets) rounds t)
    (env : ℕ → Delivery) :
    ((climb componentId rounds (some row) visited).run (AssetCall.handle P ctx) env s).2 ≠
      .error stillRunning := by
  induction rounds generalizing s t id row visited env with
  | zero => exact absurd hrounds (hn.ne_zero hw.hierarchy)
  | succ rounds ih =>
    by_cases hroot : parentOf w.assets t = 0
    · have hend : climb componentId (rounds + 1) (some row) visited = pure () := by
        simp [climb,Asset.parent,hrow.root hroot]
      rw [hend]
      exact fun h => by cases h
    · obtain ⟨parent,hparent,htext⟩ := hrow.component hroot
      have hq : NamesAsset w (parentOf w.assets t) parent :=
        ⟨hw.hierarchy.parent_minted t hroot,htext.symm⟩
      have hrest : Within 0 (parentOf w.assets) rounds (parentOf w.assets t) :=
        hrounds.resolve_left (hn.ne_zero hw.hierarchy)
      rw [climb_component hrow hparent (hq.id_ne hw.hierarchy)]
      by_cases hseen : id ∈ visited
      · rw [throwIf_bind_of_pos hseen]
        exact fun h => by cases h
      by_cases hfound : parent = componentId
      · rw [throwIf_bind_of_neg hseen,throwIf_bind_of_pos hfound]
        exact fun h => by cases h
      rw [throwIf_bind_of_neg hseen,throwIf_bind_of_neg hfound]
      exact getById_bind_ends hs hw hq (fun env u row' hu hrow' => ih hu hq hrow' hrest env) env

/-- With a round for each token the cycle check comes to its end. -/
theorem assertNoCycle_ends (hs : s.chain = w) (hw : Reachable w) {p : ℕ} {parentId : String}
    (hp : NamesAsset w p parentId) (hrounds : w.assets.nextId ≤ ctx.rounds) (componentId : String)
    (env : ℕ → Delivery) :
    ((assertNoCycle ctx parentId componentId).run (AssetCall.handle P ctx) env s).2 ≠
      .error stillRunning := by
  have hwithin : Within 0 (parentOf w.assets) ctx.rounds p :=
    (hw.hierarchy.within p (fun _ => hp.minted)).mono hrounds
  exact getById_bind_ends hs hw hp (fun env u row hu hrow => climb_ends hw hu hp hrow hwithin env) env

end CycleCheck
end BelLedger
