import BelLedger.AssetViews

/-!
# What AssetsServiceImpl keeps of the chain

A row of the index or of the repository is either one that was stored before the service was started,
or what the chain has shown since; the asset type of a stored row, which the chain does not know, is
kept. The calls of a request keep to this, whatever others do between them.
-/
namespace BelLedger
open CheckedCalls TransitionRuns KeyedTables AssetRegistry EffectPrograms Prog AssetsService

section Seen
variable {H : Type} [Keccak H] [DecidableEq H]

/-- In one of the states the token bore the id and was as the fact says. -/
def Glimpsed (states : List (World H)) (t : ℕ) (id : String) (fact : World H → Prop) : Prop :=
  ∃ w ∈ states,NamesAsset w t id ∧ fact w

/-- The text is the DID of the owner. -/
def OwnerIs (t : ℕ) (text : String) (w : World H) : Prop :=
  IdentityRegistry.identityOf w.identity (w.assets.owners t) = utf8 text

/-- The row has the parent of the token. -/
def ParentIs (t : ℕ) (row : Asset) (w : World H) : Prop :=
  (parentOf w.assets t = 0 → row.parentAssetId = some none) ∧
  (parentOf w.assets t ≠ 0 → ∃ parent,row.parentAssetId = some (some parent) ∧
    NamesAsset w (parentOf w.assets t) parent)

/-- What the states show of the token `t`, each part of the row in one of them. -/
structure SeenAs (states : List (World H)) (t : ℕ) (id : String) (row : Asset) : Prop where
  assetId : row.assetId = id
  nftId : row.nftId = toString t
  status : Glimpsed states t id (fun w => row.status.onChain = (w.assets.assets t).state)
  owner : Glimpsed states t id (OwnerIs t row.ownerId)
  custodian : Glimpsed states t id (OwnerIs t row.custodianId)
  parent : Glimpsed states t id (ParentIs t row)

variable {states states' : List (World H)} {t : ℕ} {id : String} {row : Asset}

omit [Keccak H] [DecidableEq H] in
theorem Glimpsed.mono {fact : World H → Prop} (h : Glimpsed states t id fact)
    (hsub : ∀ w ∈ states,w ∈ states') : Glimpsed states' t id fact := by
  obtain ⟨w,hw,hfact⟩ := h
  exact ⟨w,hsub w hw,hfact⟩

omit [Keccak H] [DecidableEq H] in
theorem SeenAs.mono (h : SeenAs states t id row) (hsub : ∀ w ∈ states,w ∈ states') :
    SeenAs states' t id row :=
  ⟨h.assetId,h.nftId,h.status.mono hsub,h.owner.mono hsub,h.custodian.mono hsub,h.parent.mono hsub⟩

omit [Keccak H] [DecidableEq H] in
/-- What is cached of an asset does not hide what is seen of it. -/
theorem SeenAs.merge (h : SeenAs states t id row) (hid : id ≠ "") (cached : Option Asset) :
    SeenAs states t id (mergeAsset row cached) := by
  have hparent : ∃ parent,row.parentAssetId = some parent := by
    obtain ⟨w,-,-,hroot,hcomponent⟩ := h.parent
    by_cases hzero : parentOf w.assets t = 0
    · exact ⟨none,hroot hzero⟩
    · obtain ⟨parent,hparent,-⟩ := hcomponent hzero
      exact ⟨some parent,hparent⟩
  obtain ⟨parent,hparent⟩ := hparent
  have hmerged : (mergeAsset row cached).parentAssetId = row.parentAssetId := by
    simp [mergeAsset,hparent]
  refine ⟨?_,h.nftId,h.status,h.owner,h.custodian,?_⟩
  · simp [mergeAsset,h.assetId,hid]
  · obtain ⟨w,hw,hnames,hrow⟩ := h.parent
    refine ⟨w,hw,hnames,?_⟩
    unfold ParentIs
    rw [hmerged]
    exact hrow

end Seen

section Serving
variable {H : Type} [Keccak H] [DecidableEq H]

/-- The stored row of before. -/
def Typed (stored : Table Asset.assetId) (id : String) (row : Asset) : Prop :=
  ∀ old,stored.find id = some old → row.assetType = old.assetType

/-- A row that was stored before, or shows what has been seen of the chain in these states. -/
structure Backed (stored : Table Asset.assetId) (states : List (World H)) (id : String)
    (row : Asset) : Prop where
  seen : stored.find id = some row ∨ ∃ t,SeenAs states t id row
  type : Typed stored id row

/-- The chain has gone on, and the rows are backed by it. -/
structure Caches (stored : Table Asset.assetId) (s : AssetHistory H) : Prop where
  chain : ∃ rest,s.past = s.system.chain::rest
  evolved : Evolved s.past
  index : ∀ id row,s.system.assets id = some row → Backed stored s.past id row
  rows : ∀ id row,s.system.repository.find id = some row → Backed stored s.past id row
  kept : ∀ id,stored.find id ≠ none → s.system.repository.find id ≠ none

/-- What a request may rely on, and has to keep to. -/
def relying (stored : Table Asset.assetId) : Rely AssetSurroundings (AssetHistory H) where
  admits := fun _ => True
  holds := Caches stored
  moves := fun s s' => s.past <:+ s'.past
  refl := fun _ => List.suffix_refl _
  trans := fun h h' => h.trans h'

variable {stored : Table Asset.assetId} {s s' : AssetHistory H} {id : String} {row : Asset}
  {P : Platform} {ctx : AssetsContext} {states states' : List (World H)}

omit [Keccak H] [DecidableEq H] in
theorem Backed.mono (h : Backed stored states id row) (hsub : ∀ w ∈ states,w ∈ states') :
    Backed stored states' id row :=
  ⟨h.seen.imp_right (fun ⟨t,ht⟩ => ⟨t,ht.mono hsub⟩),h.type⟩

omit [Keccak H] [DecidableEq H] in
theorem Backed.assetId (h : Backed stored states id row) : row.assetId = id := by
  rcases h.seen with hstored | ⟨t,ht⟩
  · exact Table.key_of_find hstored
  · exact ht.assetId

theorem Caches.chain_mem (h : Caches stored s) : s.system.chain ∈ s.past := by
  obtain ⟨rest,hrest⟩ := h.chain
  rw [hrest]
  exact List.mem_cons_self

theorem Caches.pass (h : Caches stored s) (txs : List Tx) :
    Caches stored (s.pass txs) ∧ s.past <:+ (s.pass txs).past := by
  obtain ⟨rest,hrest⟩ := h.chain
  have hevolved := h.evolved
  rw [hrest] at hevolved
  obtain ⟨rest',hpast,hnew⟩ := passed_evolves txs hevolved
  have hsuffix : s.past <:+ (s.pass txs).past := ⟨_,rfl⟩
  refine ⟨⟨⟨rest',?_⟩,?_,?_,?_,h.kept⟩,hsuffix⟩
  · rw [AssetHistory.pass,hrest]
    exact hpast
  · rw [AssetHistory.pass,hrest]
    exact hnew
  · exact fun id row hrow => (h.index id row hrow).mono (fun _ hw => hsuffix.mem hw)
  · exact fun id row hrow => (h.rows id row hrow).mono (fun _ hw => hsuffix.mem hw)

/-- What the others and a call leave of the rows. -/
private theorem Caches.next (h : Caches stored s) {system : AssetsSystem H} {new : List (World H)}
    (hevolved : Evolved (system.chain::(new++s.past)))
    (hindex : ∀ id row,system.assets id = some row → s.system.assets id = some row ∨
      Backed stored s.past id row)
    (hrows : ∀ id row,system.repository.find id = some row →
      s.system.repository.find id = some row ∨ Backed stored s.past id row)
    (hkept : ∀ id,s.system.repository.find id ≠ none → system.repository.find id ≠ none) :
    Caches stored ⟨system,system.chain::(new++s.past)⟩ ∧
      s.past <:+ system.chain::(new++s.past) := by
  have hsuffix : s.past <:+ system.chain::(new++s.past) := ⟨system.chain::new,rfl⟩
  refine ⟨⟨⟨_,rfl⟩,hevolved,?_,?_,fun id hid => hkept id (h.kept id hid)⟩,hsuffix⟩
  · intro id row hrow
    rcases hindex id row hrow with hold | hnew
    · exact (h.index id row hold).mono (fun _ hw => hsuffix.mem hw)
    · exact hnew.mono (fun _ hw => hsuffix.mem hw)
  · intro id row hrow
    rcases hrows id row hrow with hold | hnew
    · exact (h.rows id row hold).mono (fun _ hw => hsuffix.mem hw)
    · exact hnew.mono (fun _ hw => hsuffix.mem hw)

theorem Caches.evolved_again (h : Caches stored s) : Evolved (s.system.chain::([]++s.past)) := by
  obtain ⟨rest,hrest⟩ := h.chain
  have hevolved := h.evolved
  rw [hrest] at hevolved
  rw [hrest]
  exact hevolved.next (hevolved.reachable _ List.mem_cons_self) (.refl _)

/-- A submission goes on from where the transactions before it have led. -/
theorem submitted_evolves {w : World H} {past : List (World H)} (h : Evolved (w::past))
    (tx : Envelope) (d : Delivery) : Evolved ((EvmAdapter.submitTransaction P w tx d).1::
      (AssetHistory.between P w d (.submit tx)++w::past)) := by
  have hagain : ∀ {u : World H} {states : List (World H)},Evolved (u::states) →
      Evolved (u::u::states) :=
    fun hu => hu.next (hu.reachable _ List.mem_cons_self) (.refl _)
  have hattempt : ∀ {u : World H} {states : List (World H)} (call : Tx),Evolved (u::states) →
      Evolved (attempt exec u call::u::states) := by
    intro u states call hu
    have hreach := hu.reachable u List.mem_cons_self
    exact hu.next (hreach.attempt call) (attemptAll_keepsNames hreach [call])
  unfold EvmAdapter.submitTransaction AssetHistory.between
  dsimp only
  cases EvmAdapter.prepare P w tx d with
  | error e => exact hagain h
  | ok call =>
    obtain ⟨rest,hrest,hevolved⟩ := passed_evolves d.interference h
    dsimp only
    rw [hrest] at hevolved ⊢
    cases d.fate with
    | dropped report =>
      cases report with
      | error e => exact hagain hevolved
      | ok revert => exact hagain hevolved
    | mined =>
      have hmined := hattempt call hevolved
      unfold attempt at hmined
      dsimp only
      cases hs : exec (attemptAll exec w d.interference) call with
      | ok w' =>
        rw [hs] at hmined
        exact hmined
      | error revert => exact hagain hevolved
    | lost e => exact hattempt call hevolved

private theorem handle_submit (d : Delivery) (system : AssetsSystem H) (tx : Envelope) :
    (AssetCall.handle P ctx d system (.submit tx)).1 =
      { system with chain := (EvmAdapter.submitTransaction P system.chain tx d).1 } := by
  simp only [AssetCall.handle]
  split
  · rename_i w' hsubmit
    rw [hsubmit]
  · rename_i w' revert hsubmit
    rw [hsubmit]
  · rename_i w' e hsubmit
    rw [hsubmit]

/-- A call keeps the rows backed when what it writes is. -/
theorem Caches.handle (h : Caches stored s) (d : Delivery) (c : AssetCall)
    (hset : ∀ id row,c = .set id row → Backed stored s.past id row)
    (hsave : ∀ row,c = .save row → Backed stored s.past row.assetId row) :
    Caches stored (s.handle P ctx d c).1 ∧ s.past <:+ (s.handle P ctx d c).1.past := by
  cases c with
  | cached id =>
    exact h.next h.evolved_again (fun _ _ => .inl) (fun _ _ => .inl) (fun _ hid => hid)
  | getAsset id =>
    exact h.next h.evolved_again (fun _ _ => .inl) (fun _ _ => .inl) (fun _ hid => hid)
  | set id row =>
    refine h.next h.evolved_again ?_ (fun _ _ => .inl) (fun _ hid => hid)
    intro id' row' hrow
    dsimp only [AssetCall.handle] at hrow
    by_cases hid : id' = id
    · subst hid
      rw [Function.update_self] at hrow
      exact .inr (Option.some.inj hrow ▸ hset _ _ rfl)
    · rw [Function.update_of_ne hid] at hrow
      exact .inl hrow
  | save row =>
    refine h.next h.evolved_again (fun _ _ => .inl) ?_ ?_
    · intro id row' hrow
      dsimp only [AssetCall.handle] at hrow
      rw [Table.find_save] at hrow
      split at hrow
      · rename_i hid
        obtain rfl := Option.some.inj hrow
        exact .inr (hid ▸ hsave _ rfl)
      · exact .inl hrow
    · intro id hid
      dsimp only [AssetCall.handle]
      rw [Table.find_save]
      split
      · exact fun hnone => Option.some_ne_none _ hnone
      · exact hid
  | submit tx =>
    obtain ⟨rest,hrest⟩ := h.chain
    have hevolved := h.evolved
    rw [hrest] at hevolved
    have hsubmitted := submitted_evolves (P := P) hevolved tx d
    have hhandled : (AssetCall.handle P ctx d s.system (.submit tx)).1 = _ :=
      handle_submit d s.system tx
    unfold AssetHistory.handle
    dsimp only
    rw [hhandled]
    rw [← hrest] at hsubmitted
    exact h.next hsubmitted (fun _ _ => .inl) (fun _ _ => .inl) (fun _ hid => hid)

variable (P ctx) in
/-- Each call of a request goes on from what is backed to what is backed. -/
theorem Caches.serve (h : Caches stored s) (env : AssetSurroundings) (c : ServedCall)
    (hset : ∀ id row,c = .of (.set id row) → Backed stored s.past id row)
    (hsave : ∀ row,c = .of (.save row) → Backed stored s.past row.assetId row) :
    Caches stored (s.serve P ctx env c).1 ∧ s.past <:+ (s.serve P ctx env c).1.past := by
  obtain ⟨hpassed,hsuffix⟩ := h.pass env.others
  cases c with
  | of c =>
    have hhandled : Caches stored ((s.pass env.others).handle P ctx env.delivery c).1 ∧
        (s.pass env.others).past <:+ ((s.pass env.others).handle P ctx env.delivery c).1.past := by
      refine hpassed.handle env.delivery c ?_ ?_
      · exact fun id row hc => (hset id row (hc ▸ rfl)).mono (fun _ hw => hsuffix.mem hw)
      · exact fun row hc => (hsave row (hc ▸ rfl)).mono (fun _ hw => hsuffix.mem hw)
    exact ⟨hhandled.1,hsuffix.trans hhandled.2⟩
  | height => exact ⟨hpassed,hsuffix⟩
  | view n v => exact ⟨hpassed,hsuffix⟩

end Serving

section Views
variable {H : Type} [Keccak H] [DecidableEq H] {stored : Table Asset.assetId} {P : Platform}
  {ctx : AssetsContext} {s : AssetHistory H} {α : Type} {Q : α → AssetHistory H → Prop}

/-- The program is safe among others from `s` on. -/
abbrev ServedSafe (P : Platform) (ctx : AssetsContext) (stored : Table Asset.assetId)
    (Q : α → AssetHistory H → Prop) (p : ServedProgram α) (s : AssetHistory H) : Prop :=
  p.Safe (relying stored) (AssetHistory.serve P ctx) Q s

/-- The rule of a call: what it writes is backed, and the program is safe after it. -/
theorem safe_call_bind {c : ServedCall} {f : c.Answer → ServedProgram α}
    (hset : ∀ id row,c = .of (.set id row) → Backed stored s.past id row)
    (hsave : ∀ row,c = .of (.save row) → Backed stored s.past row.assetId row)
    (hf : ∀ env s',Caches stored s' → Caches stored (s'.serve P ctx env c).1 →
      s.past <:+ (s'.serve P ctx env c).1.past →
      ServedSafe P ctx stored Q (f (s'.serve P ctx env c).2) (s'.serve P ctx env c).1) :
    ServedSafe P ctx stored Q (perform c >>= f) s := by
  refine safe_perform_bind.mpr (fun env s' _ hs' hmoves => ?_)
  have hkept : Caches stored (s'.serve P ctx env c).1 ∧ s'.past <:+ (s'.serve P ctx env c).1.past := by
    refine hs'.serve P ctx env c ?_ ?_
    · exact fun id row hc => (hset id row hc).mono (fun _ hw => hmoves.mem hw)
    · exact fun row hc => (hsave row hc).mono (fun _ hw => hmoves.mem hw)
  exact ⟨hkept,hf env s' hs' hkept.1 (hmoves.trans hkept.2)⟩

theorem safe_height_bind {f : ℕ → ServedProgram α}
    (hf : ∀ t,Caches stored t → s.past <:+ t.past → ServedSafe P ctx stored Q (f t.past.length) t) :
    ServedSafe P ctx stored Q (perform ServedCall.height >>= f) s :=
  safe_call_bind (fun _ _ hc => nomatch hc) (fun _ hc => nomatch hc)
    (fun _ _ _ ht hst => hf _ ht hst)

omit [Keccak H] [DecidableEq H] in
private theorem answering_mem {w : World H} {past rest : List (World H)} (hpast : past = w::rest)
    (n k : ℕ) : (since n past).getD k w ∈ since n past := by
  have hlatest : w ∈ since n past := by
    rw [since,hpast,List.take_succ_cons]
    exact List.mem_cons_self
  rw [List.getD_eq_getElem?_getD]
  cases hk : (since n past)[k]? with
  | none => exact hlatest
  | some u => exact List.mem_of_getElem? hk

/-- A view call is answered in one of the states that the chain has had since it was sent. -/
theorem safe_ask_bind {n : ℕ} {v : AssetView} {f : v.Answer → ServedProgram α}
    (hf : ∀ t u answer,Caches stored t → s.past <:+ t.past → u ∈ since n t.past →
      v.answer u = .ok answer → ServedSafe P ctx stored Q (f answer) t) :
    ServedSafe P ctx stored Q (EvmAdapter.ask n v >>= f) s := by
  rw [EvmAdapter.ask,bind_assoc]
  refine safe_call_bind (fun _ _ hc => nomatch hc) (fun _ hc => nomatch hc)
    (fun env s' _ ht hst => safe_done_bind.mpr (fun answer hanswer => ?_))
  obtain ⟨rest,hrest⟩ := ht.chain
  refine hf _ _ answer ht hst (answering_mem hrest n env.moment) ?_
  unfold AssetHistory.serve AssetHistory.view at hanswer
  cases hfailure : env.failure with
  | none =>
    rw [hfailure] at hanswer
    exact hanswer
  | some e =>
    rw [hfailure] at hanswer
    cases hanswer

private theorem safe_identity_bind {n : ℕ} {address : Address} {f : String → ServedProgram α}
    (hf : ∀ t u did,Caches stored t → s.past <:+ t.past → u ∈ since n t.past →
      IdentityRegistry.identityOf u.identity address = utf8 did →
      ServedSafe P ctx stored Q (f (if did = "" then ctx.checksum address else did)) t) :
    ServedSafe P ctx stored Q (EvmAdapter.identityOrAddressViews ctx.checksum n address >>= f) s := by
  rw [EvmAdapter.identityOrAddressViews,bind_assoc]
  refine safe_ask_bind (fun t u did ht hst hu hdid => ?_)
  rw [pure_bind]
  exact hf t u did ht hst hu (decoded_eq_ok.mp hdid).symm

omit [DecidableEq H] in
private theorem answered_record {u : World H} {k : ℕ} {record : AssetRecord}
    (h : AssetView.answer u (.getAsset k) = .ok record) : u.assets.assets k = record := by
  have hread : existing u.assets k = .ok record := mapError_eq_ok.mp h
  rw [existing,revertIf_bind_eq_ok] at hread
  exact ok_pure_iff.mp hread.2

omit [DecidableEq H] in
private theorem answered_owner {u : World H} {k : ℕ} {owner : Address}
    (h : AssetView.answer u (.ownerOfAsset k) = .ok owner) : u.assets.owners k = owner := by
  have hread : AssetRegistry.ownerOfAsset u.assets k = .ok owner := mapError_eq_ok.mp h
  obtain ⟨-,howner⟩ := existingAsset_bind_eq_ok.mp hread
  rw [ownerOf,revertIf_bind_eq_ok] at howner
  exact ok_pure_iff.mp howner.2

omit [DecidableEq H] in
private theorem answered_state {u : World H} {k : ℕ} {state : Bytes}
    (h : AssetView.answer u (.stateOf k) = .ok state) :
    stateName (u.assets.assets k).state = state := by
  have hread : AssetRegistry.stateOf u.assets k = .ok state := mapError_eq_ok.mp h
  exact ok_pure_iff.mp (existingAsset_bind_eq_ok.mp hread).2

private theorem safe_parent_bind {parent : ℕ} {f : Option String → ServedProgram α}
    (hs : Caches stored s)
    (hf : ∀ t found,Caches stored t → s.past <:+ t.past → (parent = 0 → found = none) →
      (parent ≠ 0 → ∃ u ∈ since s.past.length t.past,∃ text,found = some text ∧
        utf8 text = (u.assets.assets parent).assetId) →
      ServedSafe P ctx stored Q (f found) t) :
    ServedSafe P ctx stored Q (EvmAdapter.parentViews parent >>= f) s := by
  unfold EvmAdapter.parentViews
  by_cases hparent : parent = 0
  · rw [if_pos hparent,pure_bind]
    exact hf s none hs (List.suffix_refl _) (fun _ => rfl) (fun hne => absurd hparent hne)
  · rw [if_neg hparent,bind_assoc]
    refine safe_height_bind (fun s₁ h₁ m₁ => ?_)
    rw [bind_assoc]
    refine safe_ask_bind (fun s₂ u record h₂ m₂ hu hrecord => ?_)
    rw [bind_assoc]
    refine safe_done_bind.mpr (fun text htext => ?_)
    rw [pure_bind]
    refine hf s₂ (some text) h₂ (m₁.trans m₂) (fun hzero => absurd hzero hparent) (fun _ => ?_)
    refine ⟨u,since_subset m₁.length_le u hu,text,rfl,?_⟩
    rw [decoded_eq_ok.mp htext,answered_record hrecord]

/-- A token has been given to a registered wallet, which stays one. -/
theorem owner_registered {u : World H} (hu : Reachable u) :
    ∀ k,Minted u.assets k → (u.identity.wallets (u.assets.owners k)).status ≠ .NONE := by
  obtain ⟨hist,h⟩ := hu
  refine h.history_invariant (I := fun _ w => ∀ k,Minted w.assets k →
    (w.identity.wallets (w.assets.owners k)).status ≠ .NONE) ?_ ?_
  · intro d w hgen k hminted
    rw [hgen.assets] at hminted
    exact absurd rfl hminted
  · intro hist w tx w' hreached hd ih hs k hminted
    have hkeeps : KeepsWallets w w' := exec_keepsWallets ⟨hist,hreached⟩ hs
    rcases (exec_assetChange hd hs).ownerOfMinted hminted with ⟨hold,howner⟩ | hactive
    · rw [howner]
      exact (hkeeps _ (ih k hold)).1
    · exact (hkeeps _ (by rw [hactive]; decide)).1

/-- The owner has the DID that is read of it later. -/
private theorem ownerIs_of_later {u v : World H} (hu : Reachable u) (hkeeps : KeepsNames u v) {k : ℕ}
    (hminted : Minted u.assets k) {did : String}
    (hdid : IdentityRegistry.identityOf v.identity (u.assets.owners k) = utf8 did) (text : String) :
    OwnerIs k (if did = "" then text else did) u := by
  have hregistered := owner_registered hu k hminted
  have hsame : IdentityRegistry.identityOf u.identity (u.assets.owners k) = utf8 did :=
    (hkeeps.wallets _ hregistered).2.symm.trans hdid
  have hne : did ≠ "" := by
    rintro rfl
    have hlength := (hu.identity.identityOf_length hregistered).1
    rw [hsame] at hlength
    exact hlength rfl
  rw [if_neg hne]
  exact hsame

/-- What the views of an asset tell: the row as seen since there were `n` states, or that there was
no such asset in one of them. -/
def Viewed (ctx : AssetsContext) (n : ℕ) (id : String) (t : AssetHistory H) : Option Asset → Prop
  | some row => (∃ k,SeenAs (since n t.past) k id row) ∧ row.assetType = (ctx.assetType id).getD ""
  | none => ∃ u ∈ since n t.past,nftIdOf u.assets (utf8 id) = 0

theorem safe_getAssetViews (hinj : Function.Injective (keccak256 : Bytes → H)) (id : String) :
    ServedSafe P ctx stored (fun found t => Viewed ctx s.past.length id t found)
      (EvmAdapter.getAssetViews ctx id) s := by
  unfold EvmAdapter.getAssetViews
  refine safe_height_bind (fun s₁ h₁ m₁ => ?_)
  refine safe_ask_bind (fun s₂ u₁ nftId h₂ m₂ hu₁ hid => ?_)
  obtain rfl : nftIdOf u₁.assets (utf8 id) = nftId := Except.ok.inj hid
  by_cases hzero : nftIdOf u₁.assets (utf8 id) = 0
  · rw [if_pos hzero]
    exact ⟨u₁,since_subset m₁.length_le u₁ hu₁,hzero⟩
  rw [if_neg hzero]
  have hnamed := names_nftIdOf hinj (h₂.evolved.reachable u₁ (since_mem hu₁)) hzero
  generalize nftIdOf u₁.assets (utf8 id) = k at hnamed
  refine safe_height_bind (fun s₃ h₃ m₃ => ?_)
  -- from now on every state that answers has the token under this id
  have hnames : ∀ t : AssetHistory H,Caches stored t → s₃.past <:+ t.past →
      ∀ u ∈ since s₃.past.length t.past,NamesAsset u k id := by
    intro t ht hst u hu
    exact (ht.evolved.keeps hst (m₃.mem (since_mem hu₁)) hu).names hnamed
  refine safe_ask_bind (fun s₄ u₂ record h₄ m₄ hu₂ hrecord => ?_)
  obtain rfl := answered_record hrecord
  have hn₂ := hnames s₄ h₄ m₄ u₂ hu₂
  have hr₂ : Reachable u₂ := h₄.evolved.reachable u₂ (since_mem hu₂)
  refine safe_ask_bind (fun s₅ u₃ owner h₅ m₅ hu₃ howner => ?_)
  obtain rfl := answered_owner howner
  have hn₃ := hnames s₅ h₅ (m₄.trans m₅) u₃ hu₃
  have hr₃ : Reachable u₃ := h₅.evolved.reachable u₃ (since_mem hu₃)
  refine safe_ask_bind (fun s₆ u₄ state h₆ m₆ hu₄ hstate => ?_)
  obtain rfl := answered_state hstate
  have hn₄ := hnames s₆ h₆ ((m₄.trans m₅).trans m₆) u₄ hu₄
  refine safe_parent_bind h₆ (fun s₇ found h₇ m₇ hroot hparent => ?_)
  refine safe_height_bind (fun s₈ h₈ m₈ => ?_)
  refine safe_identity_bind (fun s₉ u₆ ownerDid h₉ m₉ hu₆ hownerDid => ?_)
  refine safe_identity_bind (fun s₁₀ u₇ custodianDid h₁₀ m₁₀ hu₇ hcustodianDid => ?_)
  have e₆ : s₆.past <:+ s₁₀.past := ((m₇.trans m₈).trans m₉).trans m₁₀
  have e₅ : s₅.past <:+ s₁₀.past := m₆.trans e₆
  have e₄ : s₄.past <:+ s₁₀.past := m₅.trans e₅
  have hbefore : s.past.length ≤ s₃.past.length := ((m₁.trans m₂).trans m₃).length_le
  have hseen : ∀ t : AssetHistory H,s₃.past <:+ t.past → t.past <:+ s₁₀.past →
      ∀ u ∈ since s₃.past.length t.past,u ∈ since s.past.length s₁₀.past :=
    fun t hst hend u hu => since_subset hbefore u (since_suffix hend hst.length_le u hu)
  have hg₂ := hseen s₄ m₄ e₄ u₂ hu₂
  have hg₃ := hseen s₅ (m₄.trans m₅) e₅ u₃ hu₃
  have hg₄ := hseen s₆ ((m₄.trans m₅).trans m₆) e₆ u₄ hu₄
  have hkept₃ : KeepsNames u₃ u₆ :=
    h₉.evolved.keeps m₉ (((m₆.trans m₇).trans m₈).mem (since_mem hu₃)) hu₆
  have hkept₂ : KeepsNames u₂ u₇ :=
    h₁₀.evolved.keeps (m₉.trans m₁₀) ((((m₅.trans m₆).trans m₇).trans m₈).mem (since_mem hu₂)) hu₇
  have hcustodian := hr₂.ownership.custodian k hn₂.minted
  rw [hcustodian] at hcustodianDid
  refine ⟨⟨k,rfl,rfl,?_,?_,?_,?_⟩,rfl⟩
  · exact ⟨u₄,hg₄,hn₄,onChain_statusNamed hn₄.minted⟩
  · exact ⟨u₃,hg₃,hn₃,ownerIs_of_later hr₃ hkept₃ hn₃.minted hownerDid _⟩
  · exact ⟨u₂,hg₂,hn₂,ownerIs_of_later hr₂ hkept₂ hn₂.minted hcustodianDid _⟩
  · refine ⟨u₂,hg₂,hn₂,fun hzero => congrArg some (hroot hzero),fun hne => ?_⟩
    obtain ⟨u₅,hu₅,text,rfl,htext⟩ := hparent hne
    have hkept : KeepsNames u₂ u₅ :=
      h₇.evolved.keeps m₇ ((m₅.trans m₆).mem (since_mem hu₂)) hu₅
    have hminted := hr₂.hierarchy.parent_minted k hne
    exact ⟨text,rfl,hminted,(hkept.assets _ hminted).2.symm.trans htext.symm⟩

end Views

section Requests
variable {H : Type} [Keccak H] [DecidableEq H] {stored : Table Asset.assetId} {P : Platform}
  {ctx : AssetsContext} {s : AssetHistory H} {α β : Type} {Q Q' : α → AssetHistory H → Prop}
  {id : String} {row : Asset} {tx : Envelope} {m : ℕ}

/-- The request is safe among others from `s` on, with its calls made on the EVM adapter. -/
def Serves (P : Platform) (ctx : AssetsContext) (stored : Table Asset.assetId)
    (Q : α → AssetHistory H → Prop) (p : AssetsService.Program α) (s : AssetHistory H) : Prop :=
  ServedSafe P ctx stored Q (p.expand (onAdapter ctx)) s

theorem serves_iff {p : AssetsService.Program α} : Serves P ctx stored Q p s ↔
    ServedSafe P ctx stored Q (p.expand (onAdapter ctx)) s := Iff.rfl

theorem serves_pure {a : α} : Serves P ctx stored Q (pure a) s ↔ Q a s := by
  rw [Serves,expand_pure]
  exact safe_pure

theorem serves_error {e : ServiceError} : Serves P ctx stored Q (done (.error e)) s := trivial

theorem serves_throwIf_bind {c : Prop} [Decidable c] {e : ServiceError}
    {f : Unit → AssetsService.Program α} :
    Serves P ctx stored Q (throwIf c e >>= f) s ↔ (¬c → Serves P ctx stored Q (f ()) s) := by
  rw [Serves,expand_bind,expand_throwIf]
  exact safe_throwIf_bind

theorem serves_throwIf {c : Prop} [Decidable c] {e : ServiceError}
    {Q : Unit → AssetHistory H → Prop} :
    Serves P ctx stored Q (throwIf c e) s ↔ (¬c → Q () s) := by
  rw [← bind_pure (throwIf c e),serves_throwIf_bind]
  exact Iff.rfl

theorem serves_orThrow_bind {found : Option β} {e : ServiceError}
    {f : β → AssetsService.Program α} :
    Serves P ctx stored Q (orThrow found e >>= f) s ↔
      ∀ b,found = some b → Serves P ctx stored Q (f b) s := by
  rw [Serves,expand_bind,expand_orThrow]
  exact safe_orThrow_bind

theorem serves_done_bind {result : Except ServiceError β} {f : β → AssetsService.Program α} :
    Serves P ctx stored Q (done result >>= f) s ↔
      ∀ b,result = .ok b → Serves P ctx stored Q (f b) s := by
  rw [Serves,expand_bind,expand_done]
  exact safe_done_bind

theorem Serves.mono {p : AssetsService.Program α} (hp : Serves P ctx stored Q p s)
    (hQ : ∀ a t,s.past <:+ t.past → Q a t → Q' a t) : Serves P ctx stored Q' p s :=
  Safe.mono hp hQ

/-- The rule of sequencing. -/
theorem Serves.bind {Q : β → AssetHistory H → Prop} {p : AssetsService.Program β}
    {f : β → AssetsService.Program α} (hs : Caches stored s) (hp : Serves P ctx stored Q p s)
    (hf : ∀ b t,Caches stored t → s.past <:+ t.past → Q b t → Serves P ctx stored Q' (f b) t) :
    Serves P ctx stored Q' (p >>= f) s := by
  rw [Serves,expand_bind]
  exact Safe.bind hs hp hf

/-- What is cached of an asset is backed, and is there if something was stored before. -/
structure Held (stored : Table Asset.assetId) (states : List (World H)) (id : String)
    (found : Option Asset) : Prop where
  row : ∀ row,found = some row → Backed stored states id row
  absent : found = none → stored.find id = none

omit [Keccak H] [DecidableEq H] in
theorem Held.typed {states : List (World H)} {found : Option Asset}
    (h : Held stored states id found) {old : Asset} (hold : stored.find id = some old) :
    ∃ row,found = some row ∧ row.assetType = old.assetType := by
  cases hfound : found with
  | none =>
    rw [h.absent hfound] at hold
    cases hold
  | some row => exact ⟨row,rfl,(h.row row hfound).type old hold⟩

theorem serves_cached_bind {f : Option Asset → AssetsService.Program α}
    (hf : ∀ t found,Caches stored t → s.past <:+ t.past → Held stored t.past id found →
      Serves P ctx stored Q (f found) t) :
    Serves P ctx stored Q (perform (AssetCall.cached id) >>= f) s := by
  rw [Serves,expand_bind,expand_perform]
  refine safe_call_bind (fun _ _ hc => nomatch hc) (fun _ hc => nomatch hc)
    (fun env s' _ ht hst => hf _ _ ht hst ?_)
  dsimp only [AssetHistory.serve,AssetHistory.handle,AssetCall.handle]
  cases hindex : (s'.pass env.others).system.assets id with
  | some old =>
    refine ⟨fun row hrow => ?_,fun hnone => nomatch hnone⟩
    obtain rfl := Option.some.inj hrow
    exact ht.index id _ hindex
  | none =>
    refine ⟨fun row hrow => ht.rows id row hrow,fun hnone => ?_⟩
    by_contra hstored
    exact ht.kept id hstored hnone

theorem serves_getAsset_bind (hinj : Function.Injective (keccak256 : Bytes → H))
    (hs : Caches stored s) {f : Except ServiceError (Option Asset) → AssetsService.Program α}
    (hf : ∀ t found,Caches stored t → s.past <:+ t.past → Viewed ctx s.past.length id t found →
      Serves P ctx stored Q (f (.ok found)) t) :
    Serves P ctx stored Q (perform (AssetCall.getAsset id) >>= f) s := by
  rw [Serves,expand_bind,expand_perform,onAdapter,bind_assoc]
  refine Safe.bind hs (safe_getAssetViews hinj id) (fun found t ht hst hviewed => ?_)
  rw [pure_bind]
  exact hf t found ht hst hviewed

theorem serves_set_bind {f : Unit → AssetsService.Program α} (hrow : Backed stored s.past id row)
    (hf : ∀ t,Caches stored t → s.past <:+ t.past → Serves P ctx stored Q (f ()) t) :
    Serves P ctx stored Q (perform (AssetCall.set id row) >>= f) s := by
  rw [Serves,expand_bind,expand_perform]
  refine safe_call_bind (fun id' row' hc => ?_) (fun _ hc => nomatch hc)
    (fun _ _ _ ht hst => hf _ ht hst)
  cases hc
  exact hrow

theorem serves_save_bind {f : Unit → AssetsService.Program α}
    (hrow : Backed stored s.past row.assetId row)
    (hf : ∀ t,Caches stored t → s.past <:+ t.past → Serves P ctx stored Q (f ()) t) :
    Serves P ctx stored Q (perform (AssetCall.save row) >>= f) s := by
  rw [Serves,expand_bind,expand_perform]
  refine safe_call_bind (fun _ _ hc => nomatch hc) (fun row' hc => ?_)
    (fun _ _ _ ht hst => hf _ ht hst)
  cases hc
  exact hrow

private theorem handle_submitted {d : Delivery} {system : AssetsSystem H} {nftId : Option String}
    (h : (AssetCall.handle P ctx d system (.submit tx)).2 = .ok nftId) :
    EvmAdapter.submitTransaction P system.chain tx d =
        ((AssetCall.handle P ctx d system (.submit tx)).1.chain,.ok .SUCCESS) ∧
      nftId = EvmAdapter.mintedNftId tx.type
        (AssetCall.handle P ctx d system (.submit tx)).1.chain := by
  simp only [AssetCall.handle] at h ⊢
  split at h
  · rename_i w' hsubmit
    rw [hsubmit]
    exact ⟨rfl,(Except.ok.inj h).symm⟩
  · cases h
  · cases h

theorem serves_submit_bind {f : Except ServiceError (Option String) → AssetsService.Program α}
    (hf : ∀ t answer,Caches stored t → s.past <:+ t.past → (∀ nftId,answer = .ok nftId →
      (∃ w d,Reachable w ∧
        EvmAdapter.submitTransaction P w tx d = (t.system.chain,.ok .SUCCESS)) ∧
      nftId = EvmAdapter.mintedNftId tx.type t.system.chain) →
      Serves P ctx stored Q (f answer) t) :
    Serves P ctx stored Q (perform (AssetCall.submit tx) >>= f) s := by
  rw [Serves,expand_bind,expand_perform]
  refine safe_call_bind (fun _ _ hc => nomatch hc) (fun _ hc => nomatch hc)
    (fun env s' hs' ht hst => hf _ _ ht hst (fun nftId hanswer => ?_))
  have hpassed := (hs'.pass env.others).1
  obtain ⟨hsubmitted,hnftId⟩ := handle_submitted hanswer
  exact ⟨⟨_,_,hpassed.evolved.reachable _ hpassed.chain_mem,hsubmitted⟩,hnftId⟩

-- a request is followed by its rules, never by running it
attribute [irreducible] Serves

end Requests
end BelLedger
