import BelLedger.AssetCaches

/-!
# Asset requests in parallel

Requests of AssetsServiceImpl are interleaved at their awaits, and others have transactions mined at
any time. A row that a request returns is then either one that was stored before the service was
started, or what the chain has shown since the request was made.
-/
namespace BelLedger
open CheckedCalls TransitionRuns KeyedTables AssetRegistry EffectPrograms Prog AssetsService

inductive AssetTask
  | getById (id : String)
  | create (actor : Option AssetActor) (input : AssetInput) (uuid : String)
  | transfer (actor : Option AssetActor) (id newOwnerId : String) (newCustodianId : Option String)
  | changeAssetState (actor : Option AssetActor) (id newState : String)
  | attachComponent (actor : Option AssetActor) (parentAssetId componentId : String)
  | removeComponent (actor : Option AssetActor) (parentAssetId componentId : String)
  | prepare (type : TransactionType) (input : Payload) (actor : AssetActor)

namespace AssetTask

/-- The asset that the request returns, if it returns one. -/
def prog (ctx : AssetsContext) : AssetTask → AssetsService.Program (Option Asset)
  | getById id => AssetsService.getById id
  | create actor input uuid => some <$> AssetsService.create ctx actor input uuid
  | transfer actor id newOwnerId newCustodianId =>
    some <$> AssetsService.transfer ctx actor id newOwnerId newCustodianId
  | changeAssetState actor id newState =>
    some <$> AssetsService.changeAssetState ctx actor id newState
  | attachComponent actor parentAssetId componentId =>
    some <$> AssetsService.attachComponent ctx actor parentAssetId componentId
  | removeComponent actor parentAssetId componentId =>
    some <$> AssetsService.removeComponent ctx actor parentAssetId componentId
  | prepare type input actor => do
    let _ ← AssetsService.prepare ctx type input actor
    pure none

/-- The id of the asset that it returns. -/
def subject : AssetTask → String
  | getById id | transfer _ id _ _ | changeAssetState _ id _ => id
  | create _ input uuid => newAssetId input uuid
  | attachComponent _ _ componentId | removeComponent _ _ componentId => componentId
  | prepare _ _ _ => ""

/-- The request with the calls that it makes on the EVM adapter. -/
def served (ctx : AssetsContext) (q : AssetTask) : ServedProgram (Option Asset) :=
  (q.prog ctx).expand (onAdapter ctx)

/-- A random identifier has no white space around it. -/
def DrawsTrimmed : AssetTask → Prop
  | create _ _ uuid => Trimmed ("AST-"++uuid)
  | _ => True

end AssetTask

section Reads
variable {H : Type} [Keccak H] [DecidableEq H] {stored : Table Asset.assetId} {P : Platform}
  {ctx : AssetsContext} {s : AssetHistory H} {α : Type} {Q : α → AssetHistory H → Prop} {id : String}
  {m : ℕ} {states : List (World H)}

/-- The metadata provider of the adapter does not contradict the stored asset types. -/
def ProviderAgrees (ctx : AssetsContext) (stored : Table Asset.assetId) : Prop :=
  ∀ id old type,stored.find id = some old → ctx.assetType id = some type →
    type = "" ∨ type = old.assetType

omit [Keccak H] [DecidableEq H] in
private theorem backed_merge (hprovider : ProviderAgrees ctx stored) {onChain : Asset}
    {cached : Option Asset} {k : ℕ} (hid : id ≠ "") (hseen : SeenAs states k id onChain)
    (htype : onChain.assetType = (ctx.assetType id).getD "")
    (hcached : ∀ old,stored.find id = some old →
      ∃ row,cached = some row ∧ row.assetType = old.assetType) :
    Backed stored states id (mergeAsset onChain cached) := by
  refine ⟨.inr ⟨k,hseen.merge hid cached⟩,?_⟩
  intro old hold
  obtain ⟨row,rfl,hrow⟩ := hcached old hold
  by_cases hblank : onChain.assetType = ""
  · simp [mergeAsset,hblank,hrow]
  · have hagrees : onChain.assetType = old.assetType := by
      cases hknown : ctx.assetType id with
      | none =>
        rw [hknown] at htype
        exact absurd htype hblank
      | some type =>
        rw [hknown] at htype
        rcases hprovider id old type hold hknown with hempty | hsame
        · exact absurd (htype.trans hempty) hblank
        · exact htype.trans hsame
    rw [← hagrees]
    simp [mergeAsset,hblank]

private theorem Caches.seen_id_ne (h : Caches stored s) {n k : ℕ} {row : Asset}
    (hseen : SeenAs (since n s.past) k id row) : id ≠ "" := by
  obtain ⟨w,hw,hnames,-⟩ := hseen.status
  exact hnames.id_ne (h.evolved.reachable w (since_mem hw)).hierarchy

private theorem Caches.not_absent (h : Caches stored s) {past : List (World H)}
    (hsuffix : past <:+ s.past) {k : ℕ} {u w : World H} (hw : w ∈ past) (hnames : NamesAsset w k id)
    (hu : u ∈ since past.length s.past) : nftIdOf u.assets (utf8 id) ≠ 0 := by
  have hlater := (h.evolved.keeps hsuffix hw hu).names hnames
  have hreach := h.evolved.reachable u (since_mem hu)
  rw [hlater.nftIdOf_eq hreach.ownership]
  exact hlater.ne_zero hreach.hierarchy

variable (hinj : Function.Injective (keccak256 : Bytes → H)) (hprovider : ProviderAgrees ctx stored)
include hinj hprovider

theorem serves_getById (hm : m ≤ s.past.length) :
    Serves P ctx stored (fun found t => Held stored (since m t.past) id found) (getById id) s := by
  unfold getById
  refine serves_cached_bind (fun s₁ cached h₁ m₁ hcached => ?_)
  refine serves_getAsset_bind hinj h₁ (fun s₂ found h₂ m₂ hviewed => ?_)
  refine serves_done_bind.mpr (fun onChain honChain => ?_)
  obtain rfl := Except.ok.inj honChain
  cases found with
  | none =>
    obtain ⟨u,hu,habsent⟩ := hviewed
    refine serves_pure.mpr ⟨fun row hrow => ?_,hcached.absent⟩
    have hbacked := hcached.row row hrow
    refine ⟨?_,hbacked.type⟩
    rcases hbacked.seen with hstored | ⟨k,hseen⟩
    · exact .inl hstored
    · -- an asset that has been seen is there from then on
      obtain ⟨w,hw,hnames,-⟩ := hseen.status
      exact absurd habsent (h₂.not_absent m₂ hw hnames hu)
  | some onChain =>
    obtain ⟨⟨k,hseen⟩,htype⟩ := hviewed
    have hbacked : Backed stored (since s₁.past.length s₂.past) id (mergeAsset onChain cached) :=
      backed_merge hprovider (h₂.seen_id_ne hseen) hseen htype (fun _ => hcached.typed)
    refine serves_set_bind (hbacked.mono (fun _ hu => since_mem hu)) (fun s₃ h₃ m₃ => ?_)
    refine serves_pure.mpr ⟨fun row hrow => ?_,fun hnone => nomatch hnone⟩
    obtain rfl := Option.some.inj hrow
    have hm₁ : m ≤ s₁.past.length := hm.trans m₁.length_le
    exact hbacked.mono
      (fun u hu => since_suffix m₃ (hm₁.trans m₂.length_le) u (since_subset hm₁ u hu))

theorem serves_requireAsset_bind (hs : Caches stored s) {«field» : String}
    {f : Asset → AssetsService.Program α} (hf : ∀ t row,Caches stored t → s.past <:+ t.past →
      Typed stored id row → Serves P ctx stored Q (f row) t) :
    Serves P ctx stored Q (requireAsset id «field» >>= f) s := by
  rw [requireAsset,bind_assoc]
  refine Serves.bind hs (serves_getById hinj hprovider (Nat.zero_le _))
    (fun found t ht hst hfound => ?_)
  exact serves_orThrow_bind.mpr (fun row hrow => hf t row ht hst (hfound.row row hrow).type)

private theorem serves_climb (hs : Caches stored s) (componentId : String) (rounds : ℕ)
    (current : Option Asset) (visited : List String) :
    Serves P ctx stored (fun _ _ => True) (climb componentId rounds current visited) s := by
  induction rounds generalizing s current visited with
  | zero =>
    rw [climb.eq_def]
    dsimp only
    cases (current.bind Asset.parent).filter (· ≠ "") with
    | none => exact serves_pure.mpr trivial
    | some parent => exact serves_error
  | succ rounds ih =>
    rw [climb.eq_def]
    dsimp only
    cases (current.bind Asset.parent).filter (· ≠ "") with
    | none => exact serves_pure.mpr trivial
    | some parent =>
      refine serves_throwIf_bind.mpr (fun _ => serves_throwIf_bind.mpr (fun _ => ?_))
      exact Serves.bind hs (serves_getById hinj hprovider (Nat.zero_le _))
        (fun next t ht _ _ => ih ht next _)

theorem serves_assertNoCycle (hs : Caches stored s) (parentAssetId componentId : String) :
    Serves P ctx stored (fun _ _ => True) (assertNoCycle ctx parentAssetId componentId) s :=
  Serves.bind hs (serves_getById hinj hprovider (Nat.zero_le _))
    (fun current _ ht _ _ => serves_climb hinj hprovider ht componentId ctx.rounds current [])

/-- What a write keeps and returns: an asset that the chain has shown after it. -/
theorem serves_settle (hm : m ≤ s.past.length) {planned : Envelope × Asset}
    (htyped : Typed stored id planned.2) (hnamed : ∀ (w w' : World H) (d : Delivery),Reachable w →
      EvmAdapter.submitTransaction P w planned.1 d = (w',.ok .SUCCESS) →
      EvmAdapter.mintedNftId planned.1.type w' = none ∨ ∃ k,NamesAsset w' k id) :
    Serves P ctx stored (fun row t => Backed stored (since m t.past) id row) (settle id planned) s := by
  unfold settle
  refine serves_submit_bind (fun s₁ answer h₁ m₁ hsubmitted => ?_)
  refine serves_done_bind.mpr (fun nftId hnftId => ?_)
  obtain ⟨⟨w,d,hw,hsubmit⟩,rfl⟩ := hsubmitted nftId hnftId
  rw [reconcileAfterWrite,bind_assoc]
  refine serves_getAsset_bind hinj h₁ (fun s₂ found h₂ m₂ hviewed => ?_)
  rw [bind_assoc]
  refine serves_done_bind.mpr (fun onChain honChain => ?_)
  obtain rfl := Except.ok.inj honChain
  cases found with
  | none =>
    obtain ⟨u,hu,habsent⟩ := hviewed
    rcases hnamed w _ d hw hsubmit with hnone | ⟨k,hnames⟩
    · rw [hnone]
      refine serves_done_bind.mpr (fun row hrow => ?_)
      cases hrow
    · exact absurd habsent (h₂.not_absent m₂ h₁.chain_mem hnames hu)
  | some onChain =>
    obtain ⟨⟨k,hseen⟩,htype⟩ := hviewed
    have hbacked : Backed stored (since s₁.past.length s₂.past) id
        (mergeAsset onChain (some planned.2)) :=
      backed_merge hprovider (h₂.seen_id_ne hseen) hseen htype
        (fun old hold => ⟨planned.2,rfl,htyped old hold⟩)
    have hpast : Backed stored s₂.past id (mergeAsset onChain (some planned.2)) :=
      hbacked.mono (fun _ hu => since_mem hu)
    dsimp only
    rw [pure_bind]
    refine serves_set_bind hpast (fun s₃ h₃ m₃ => ?_)
    have hkept : Backed stored s₃.past id (mergeAsset onChain (some planned.2)) :=
      hpast.mono (fun _ hu => m₃.mem hu)
    refine serves_save_bind (hkept.assetId.symm ▸ hkept) (fun s₄ h₄ m₄ => ?_)
    have hm₁ : m ≤ s₁.past.length := hm.trans m₁.length_le
    exact serves_pure.mpr (hbacked.mono (fun u hu =>
      since_suffix (m₃.trans m₄) (hm₁.trans m₂.length_le) u (since_subset hm₁ u hu)))

end Reads

section Requests
variable {H : Type} [Keccak H] [DecidableEq H] {stored : Table Asset.assetId} {P : Platform}
  {ctx : AssetsContext} {s : AssetHistory H} {actor : Option AssetActor} {id : String} {m : ℕ}
  (hinj : Function.Injective (keccak256 : Bytes → H)) (hprovider : ProviderAgrees ctx stored)
include hinj hprovider

omit hinj hprovider in
private theorem serves_custodianOrOwner_bind {α : Type} {Q : α → AssetHistory H → Prop}
    {ownerId : String} {newCustodianId : Option String} {f : String → AssetsService.Program α}
    (hf : ∀ custodianId,Serves P ctx stored Q (f custodianId) s) :
    Serves P ctx stored Q (custodianOrOwner ownerId newCustodianId >>= f) s := by
  cases newCustodianId with
  | none =>
    rw [custodianOrOwner,pure_bind]
    exact hf ownerId
  | some custodianId =>
    simp only [custodianOrOwner,requiredString,bind_assoc,pure_bind,serves_throwIf_bind]
    exact fun _ => hf _

private theorem serves_transferChecked (hs : Caches stored s) (newOwnerId : String)
    (newCustodianId : Option String) :
    Serves P ctx stored (fun planned _ => planned.1.type = .ASSET_TRANSFER ∧ Typed stored id planned.2)
      (transferChecked ctx actor id newOwnerId newCustodianId) s := by
  unfold transferChecked
  refine serves_requireAsset_bind hinj hprovider hs (fun t asset _ _ hasset => ?_)
  simp only [requiredString,requireIdentity,bind_assoc,pure_bind,serves_throwIf_bind]
  intros
  refine serves_custodianOrOwner_bind (fun custodianId => ?_)
  simp only [requiredString,transaction,bind_assoc,pure_bind,serves_throwIf_bind,serves_pure,true_and]
  intros
  exact hasset

private theorem serves_changeAssetStateChecked (hs : Caches stored s) (newState : String) :
    Serves P ctx stored
      (fun planned _ => planned.1.type = .ASSET_STATE_CHANGE ∧ Typed stored id planned.2)
      (changeAssetStateChecked ctx actor id newState) s := by
  unfold changeAssetStateChecked
  refine serves_orThrow_bind.mpr (fun status _ => ?_)
  refine serves_requireAsset_bind hinj hprovider hs (fun t asset _ _ hasset => ?_)
  simp only [assertStateTransition,requiredString,transaction,bind_assoc,pure_bind,
    serves_throwIf_bind,serves_pure,true_and]
  intros
  exact hasset

private theorem serves_attachComponentChecked (hs : Caches stored s) (parentAssetId : String) :
    Serves P ctx stored
      (fun planned _ => planned.1.type = .COMPONENT_ATTACH ∧ Typed stored id planned.2)
      (attachComponentChecked ctx actor parentAssetId id) s := by
  unfold attachComponentChecked
  refine serves_requireAsset_bind hinj hprovider hs (fun t parent ht _ _ => ?_)
  refine serves_requireAsset_bind hinj hprovider ht (fun u component hu _ hcomponent => ?_)
  simp only [serves_throwIf_bind]
  intros
  refine Serves.bind hu (serves_assertNoCycle hinj hprovider hu parentAssetId id)
    (fun _ v _ _ _ => ?_)
  simp only [requiredString,transaction,bind_assoc,pure_bind,serves_throwIf_bind,serves_pure,
    true_and]
  intros
  exact hcomponent

private theorem serves_removeComponentChecked (hs : Caches stored s) (parentAssetId : String) :
    Serves P ctx stored
      (fun planned _ => planned.1.type = .COMPONENT_REMOVE ∧ Typed stored id planned.2)
      (removeComponentChecked ctx actor parentAssetId id) s := by
  unfold removeComponentChecked
  refine serves_requireAsset_bind hinj hprovider hs (fun t parent ht _ _ => ?_)
  refine serves_requireAsset_bind hinj hprovider ht (fun u component _ _ hcomponent => ?_)
  simp only [requiredString,transaction,bind_assoc,pure_bind,serves_throwIf_bind,serves_pure,
    true_and]
  intros
  exact hcomponent

private theorem serves_requireParent (hs : Caches stored s) (parentAssetId : Option String) :
    Serves P ctx stored (fun _ _ => True) (requireParent parentAssetId) s := by
  cases parentAssetId with
  | none => exact serves_pure.mpr trivial
  | some parentAssetId =>
    exact serves_requireAsset_bind hinj hprovider hs (fun _ _ _ _ _ => serves_pure.mpr trivial)

/-- A new asset has not been stored before. -/
private theorem serves_createChecked (hs : Caches stored s) (input : AssetInput) (uuid : String) :
    Serves P ctx stored (fun planned _ => planned.1.type = .ASSET_MINT ∧
        (∃ rest,planned.1.payload = ("assetId",.string (newAssetId input uuid))::rest) ∧
        Typed stored (newAssetId input uuid) planned.2)
      (createChecked ctx actor input uuid) s := by
  unfold createChecked
  simp only [requiredString,requireIdentity,bind_assoc,pure_bind,serves_throwIf_bind]
  intros
  refine Serves.bind hs (serves_getById hinj hprovider (Nat.zero_le _))
    (fun existing t ht _ hexisting => serves_throwIf_bind.mpr (fun hnone => ?_))
  refine Serves.bind ht (serves_requireParent hinj hprovider ht _) (fun _ u _ _ _ => ?_)
  simp only [requiredString,transaction,bind_assoc,pure_bind,serves_throwIf_bind,serves_pure,
    true_and]
  intros
  refine ⟨⟨_,rfl⟩,fun old hold => ?_⟩
  obtain ⟨row,hrow,-⟩ := hexisting.typed hold
  exact absurd (Option.isSome_iff_exists.mpr ⟨row,hrow⟩) hnone

private theorem serves_preparableComponent (hs : Caches stored s) (type : TransactionType)
    (parentAssetId componentId : String) (parent component : Asset) :
    Serves P ctx stored (fun _ _ => True)
      (preparableComponent ctx type parentAssetId componentId parent component) s := by
  unfold preparableComponent
  split
  · simp only [serves_throwIf_bind]
    intros
    exact serves_assertNoCycle hinj hprovider hs parentAssetId componentId
  · exact serves_throwIf.mpr (fun _ => trivial)

private theorem serves_preparePayload (hs : Caches stored s) (type : TransactionType)
    (input : Payload) :
    Serves P ctx stored (fun _ _ => True) (preparePayload ctx type input) s := by
  unfold preparePayload
  split
  · simp only [requiredString,bind_assoc,pure_bind,serves_throwIf_bind]
    intros
    refine serves_requireAsset_bind hinj hprovider hs (fun t asset _ _ _ => ?_)
    simp only [requireIdentity,serves_throwIf_bind]
    intros
    refine serves_custodianOrOwner_bind (fun custodianId => ?_)
    simp only [serves_throwIf_bind,serves_pure]
    intros
    trivial
  · simp only [requiredString,bind_assoc,pure_bind,serves_throwIf_bind,serves_orThrow_bind]
    intros
    refine serves_requireAsset_bind hinj hprovider hs (fun t asset _ _ _ => ?_)
    simp only [assertStateTransition,serves_throwIf_bind,serves_pure]
    intros
    trivial
  · simp only [requiredString,bind_assoc,pure_bind,serves_throwIf_bind]
    intros
    refine serves_requireAsset_bind hinj hprovider hs (fun t parent ht _ _ => ?_)
    refine serves_requireAsset_bind hinj hprovider ht (fun u component hu _ _ => ?_)
    exact Serves.bind hu (serves_preparableComponent hinj hprovider hu type _ _ parent component)
      (fun _ _ _ _ _ => serves_pure.mpr trivial)

/-- A write of an existing asset settles what it has planned. -/
private theorem serves_write (hs : Caches stored s) (hm : m ≤ s.past.length) {type : TransactionType}
    (htype : type ≠ .ASSET_MINT) {p : AssetsService.Program (Envelope × Asset)}
    (hp : Serves P ctx stored (fun planned _ => planned.1.type = type ∧ Typed stored id planned.2) p s) :
    Serves P ctx stored (fun row t => Backed stored (since m t.past) id row) (p >>= settle id) s := by
  refine Serves.bind hs hp (fun planned t ht hst hplanned => ?_)
  refine serves_settle hinj hprovider (hm.trans hst.length_le) hplanned.2 (fun w w' d _ _ => ?_)
  rw [EvmAdapter.mintedNftId,hplanned.1,if_neg htype]
  exact .inl rfl

private theorem serves_create (hs : Caches stored s) (hm : m ≤ s.past.length) (input : AssetInput)
    {uuid : String} (huuid : Trimmed ("AST-"++uuid)) :
    Serves P ctx stored (fun row t => Backed stored (since m t.past) (newAssetId input uuid) row)
      (create ctx actor input uuid) s := by
  unfold create
  refine Serves.bind hs (serves_createChecked hinj hprovider hs input uuid)
    (fun planned t ht hst hplanned => ?_)
  obtain ⟨htype,⟨rest,hpayload⟩,htyped⟩ := hplanned
  refine serves_settle hinj hprovider (hm.trans hst.length_le) htyped (fun w w' d hw hsubmit => ?_)
  obtain ⟨⟨env,call⟩,-,hprepare,hexec⟩ := EvmAdapter.submitTransaction_success hsubmit
  have hplan := EvmAdapter.prepare_call hprepare
  rw [htype,hpayload] at hplan
  obtain ⟨owner,rfl⟩ := plan_mint (trimmed_newAssetId huuid) hplan
  obtain ⟨token,hnames,-⟩ := minted_root (hw.attemptAll _) hexec
  exact .inr ⟨token,hnames⟩

omit hinj hprovider in
private theorem serves_some (hs : Caches stored s) {p : AssetsService.Program Asset}
    (hp : Serves P ctx stored (fun row t => Backed stored (since m t.past) id row) p s) :
    Serves P ctx stored
      (fun found t => ∀ row,found = some row → Backed stored (since m t.past) id row) (some <$> p) s := by
  rw [map_eq_pure_bind]
  refine Serves.bind hs hp (fun row t _ _ hrow => serves_pure.mpr (fun row' hrow' => ?_))
  obtain rfl := Option.some.inj hrow'
  exact hrow

theorem serves_prog (hs : Caches stored s) (hm : m ≤ s.past.length) {q : AssetTask}
    (hdraws : q.DrawsTrimmed) :
    Serves P ctx stored (fun found t => ∀ row,found = some row →
      Backed stored (since m t.past) q.subject row) (q.prog ctx) s := by
  cases q with
  | getById id =>
    simp only [AssetTask.prog,AssetTask.subject]
    exact (serves_getById hinj hprovider hm).mono (fun _ _ _ h => h.row)
  | create actor input uuid =>
    simp only [AssetTask.prog,AssetTask.subject]
    exact serves_some hs (serves_create hinj hprovider hs hm input hdraws)
  | transfer actor id newOwnerId newCustodianId =>
    simp only [AssetTask.prog,AssetTask.subject]
    exact serves_some hs (serves_write hinj hprovider hs hm (by decide)
      (serves_transferChecked hinj hprovider hs newOwnerId newCustodianId))
  | changeAssetState actor id newState =>
    simp only [AssetTask.prog,AssetTask.subject]
    exact serves_some hs (serves_write hinj hprovider hs hm (by decide)
      (serves_changeAssetStateChecked hinj hprovider hs newState))
  | attachComponent actor parentAssetId componentId =>
    simp only [AssetTask.prog,AssetTask.subject]
    exact serves_some hs (serves_write hinj hprovider hs hm (by decide)
      (serves_attachComponentChecked hinj hprovider hs parentAssetId))
  | removeComponent actor parentAssetId componentId =>
    simp only [AssetTask.prog,AssetTask.subject]
    exact serves_some hs (serves_write hinj hprovider hs hm (by decide)
      (serves_removeComponentChecked hinj hprovider hs parentAssetId))
  | prepare type input actor =>
    simp only [AssetTask.prog,AssetTask.subject]
    have hprepared : Serves P ctx stored (fun _ _ => True)
        (AssetsService.prepare ctx type input actor) s :=
      Serves.bind hs (serves_preparePayload hinj hprovider hs type input)
        (fun _ _ _ _ _ => serves_pure.mpr trivial)
    exact Serves.bind hs hprepared
      (fun _ t _ _ _ => serves_pure.mpr (fun row hrow => nomatch hrow))

end Requests

section Runs
variable {H : Type} [Keccak H] [DecidableEq H] {ι : Type} [DecidableEq ι]

/-- The service has just been started: nothing is in the index. -/
def AssetHistory.started (stored : Table Asset.assetId) (w : World H) : AssetHistory H :=
  ⟨⟨fun _ => none,stored,w⟩,[w]⟩

/-- The requests, one call at a time as the schedule says. -/
def servedTasks (P : Platform) (ctx : AssetsContext) (stored : Table Asset.assetId) (w : World H)
    (tasks : ι → AssetTask) (schedule : List (ι × AssetSurroundings)) :
    Pool ServedCall.Answer ServiceError (Option Asset) ι (AssetHistory H) :=
  Pool.run (AssetHistory.serve P ctx) (fun i => (tasks i).served ctx) (.started stored w) schedule

/-- The row that a request has returned. -/
def returnedRow : ServedProgram (Option Asset) → Option Asset
  | .done (.ok found) => found
  | _ => none

private theorem returnedRow_eq_some {p : ServedProgram (Option Asset)} {row : Asset}
    (h : returnedRow p = some row) : p = .done (.ok (some row)) := by
  unfold returnedRow at h
  split at h
  · rw [h]
  · cases h

private theorem started_caches {stored : Table Asset.assetId} {w : World H} (hw : Reachable w) :
    Caches stored (AssetHistory.started stored w) := by
  refine ⟨⟨[],rfl⟩,.start hw,fun id row hrow => (nomatch hrow),fun id row hrow => ?_,fun _ h => h⟩
  refine ⟨.inl hrow,fun old hold => ?_⟩
  obtain rfl := Option.some.inj (hrow.symm.trans hold)
  rfl

/-- Whatever requests and transactions come between its calls, the service keeps and returns rows that
were stored before it was started or that the chain has shown since, with the stored asset types; a
row that a request returns shows the chain since the request was made. -/
theorem asset_rows_backed (hinj : Function.Injective (keccak256 : Bytes → H)) (P : Platform)
    (ctx : AssetsContext) (stored : Table Asset.assetId) (hprovider : ProviderAgrees ctx stored)
    (w : World H) (hw : Reachable w) (tasks : ι → AssetTask) (hdraws : ∀ i,(tasks i).DrawsTrimmed)
    (before after : List (ι × AssetSurroundings)) :
    Caches stored (servedTasks P ctx stored w tasks (before++after)).state ∧
    ∀ i row,(∀ turn ∈ before,turn.1 ≠ i) →
      returnedRow ((servedTasks P ctx stored w tasks (before++after)).progs i) = some row →
      Backed stored (since (servedTasks P ctx stored w tasks before).state.past.length
        (servedTasks P ctx stored w tasks (before++after)).state.past) (tasks i).subject row := by
  have hstart : Caches stored (AssetHistory.started stored w) := started_caches hw
  have hinitial : Pool.AllSafe (relying stored) (AssetHistory.serve P ctx) (fun _ _ _ => True)
      ⟨fun i => (tasks i).served ctx,AssetHistory.started stored w,[]⟩ :=
    ⟨hstart,fun i => ⟨_,List.suffix_refl _,(serves_iff.mp
      (serves_prog hinj hprovider hstart (Nat.zero_le _) (hdraws i))).mono (fun _ _ _ _ => trivial)⟩⟩
  have hsplit : servedTasks P ctx stored w tasks (before++after) =
      after.foldl (Pool.step (AssetHistory.serve P ctx)) (servedTasks P ctx stored w tasks before) :=
    List.foldl_append
  have hbefore : Pool.AllSafe (relying stored) (AssetHistory.serve P ctx) (fun _ _ _ => True)
      (servedTasks P ctx stored w tasks before) := (hinitial.run (fun _ _ => trivial)).1
  rw [hsplit]
  refine ⟨(hbefore.run (fun _ _ => trivial)).1.holds,fun i row hturns hrow => ?_⟩
  -- the request has not begun, so it is safe from here on
  have hprog : (servedTasks P ctx stored w tasks before).progs i = (tasks i).served ctx :=
    Pool.progs_of_no_turn hturns
  have hsafe : Pool.AllSafe (relying stored) (AssetHistory.serve P ctx)
      (fun j found t => j = i → (servedTasks P ctx stored w tasks before).state.past <:+ t.past ∧
        ∀ row,found = some row → Backed stored
          (since (servedTasks P ctx stored w tasks before).state.past.length t.past)
          (tasks i).subject row) (servedTasks P ctx stored w tasks before) := by
    refine ⟨hbefore.holds,fun j => ?_⟩
    by_cases hj : j = i
    · subst hj
      refine ⟨_,List.suffix_refl _,?_⟩
      rw [hprog]
      exact (serves_iff.mp (serves_prog hinj hprovider hbefore.holds le_rfl (hdraws j))).mono
        (fun _ _ hmoves h _ => ⟨hmoves,h⟩)
    · obtain ⟨t,hmoves,hother⟩ := hbefore.safe j
      exact ⟨t,hmoves,hother.mono (fun _ _ _ _ he => absurd he hj)⟩
  obtain ⟨t,hmoves,hbacked⟩ :=
    (hsafe.run (fun _ _ => trivial)).1.value (returnedRow_eq_some hrow)
  obtain ⟨hsince,hrows⟩ := hbacked rfl
  exact (hrows row rfl).mono (since_suffix hmoves hsince.length_le)

end Runs

section Prototype

/-- RADAR-1 as it was stored before the service was started. -/
def radarStore : Table Asset.assetId :=
  Table.empty.save ⟨"RADAR-1","1","RADAR","DID:BEL:ADMIN","DID:BEL:ADMIN",some none,.ACTIVE⟩

/-- RADAR-1 is sent into maintenance while it is read. -/
def radarTasks : Bool → AssetTask
  | true => .changeAssetState (some (assetActor "0x02f8")) "RADAR-1" "IN_MAINTENANCE"
  | false => .getById "RADAR-1"

/-- A call that nothing comes before. -/
def radarTurn (i : Bool) : Bool × AssetSurroundings := (i,⟨[],⟨[],20,20,1,.mined⟩,0,none⟩)

theorem asset_rows_backed_radar : ∃ row,
    returnedRow ((servedTasks prototypePlatform assetsContext radarStore
      (assetsSystem hierarchyTxs).chain radarTasks (List.replicate 3 (radarTurn false)++
        (List.replicate 25 [radarTurn true,radarTurn false]).flatten)).progs true) = some row ∧
    row.assetType = "RADAR" ∧ row.status = .IN_MAINTENANCE ∧
    Backed radarStore (since (servedTasks prototypePlatform assetsContext radarStore
        (assetsSystem hierarchyTxs).chain radarTasks
        (List.replicate 3 (radarTurn false))).state.past.length
      (servedTasks prototypePlatform assetsContext radarStore
        (assetsSystem hierarchyTxs).chain radarTasks (List.replicate 3 (radarTurn false)++
          (List.replicate 25 [radarTurn true,radarTurn false]).flatten)).state.past) "RADAR-1" row := by
  have hrow : returnedRow ((servedTasks prototypePlatform assetsContext radarStore
      (assetsSystem hierarchyTxs).chain radarTasks (List.replicate 3 (radarTurn false)++
        (List.replicate 25 [radarTurn true,radarTurn false]).flatten)).progs true) =
      some ⟨"RADAR-1","1","RADAR","DID:BEL:ADMIN","DID:BEL:ADMIN",some none,.IN_MAINTENANCE⟩ := by
    decide +kernel
  have hdraws : ∀ i,(radarTasks i).DrawsTrimmed := by
    intro i
    cases i <;> trivial
  have hturns : ∀ turn ∈ List.replicate 3 (radarTurn false),turn.1 ≠ true := by
    intro turn hturn
    rw [List.eq_of_mem_replicate hturn]
    exact Bool.false_ne_true
  exact ⟨_,hrow,rfl,rfl,(asset_rows_backed prototype_keccak_injective prototypePlatform assetsContext
    radarStore (fun _ _ _ _ h => nomatch h) _ (assetsSystem_reachable hierarchyTxs) radarTasks hdraws
    _ _).2 true _ hturns hrow⟩

end Prototype
end BelLedger
