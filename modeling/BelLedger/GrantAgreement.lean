import BelLedger.AssetOwnership
import BelLedger.GrantsService

/-!
# Grants in the store and on chain

The rows of one grantee and one asset share a slot on chain, which the last transaction decides. The
two sides agree as long as a grant is revoked only when no other one for the same pair is ACTIVE.
-/
namespace BelLedger
open CheckedCalls TransitionRuns KeyedTables UsersService GrantsService AssetRegistry

def Call.setsGrant : Call → Bool
  | .setTransferGrant _ _ _ _ _ => true
  | _ => false

section Chain
variable {H : Type} [Keccak H] [DecidableEq H] {w₀ w w' : World H}

/-- What transactions that set no grant keep: the slots, the tokens of minted assets, the DIDs. -/
structure KeepsGrants (w w' : World H) : Prop where
  reachable : Reachable w'
  slots : w'.assets.transferGrants = w.assets.transferGrants
  tokens : ∀ id,nftIdOf w.assets id ≠ 0 → nftIdOf w'.assets id = nftIdOf w.assets id
  wallets : KeepsWallets w w'

theorem KeepsGrants.refl (hw : Reachable w) : KeepsGrants w w := ⟨hw,rfl,fun _ _ => rfl,.refl w⟩

theorem KeepsGrants.trans (h : KeepsGrants w₀ w) (h' : KeepsGrants w w') : KeepsGrants w₀ w' := by
  refine ⟨h'.reachable,h'.slots.trans h.slots,?_,h.wallets.trans h'.wallets⟩
  intro id hid
  have hfirst := h.tokens id hid
  rw [h'.tokens id (by rw [hfirst]; exact hid),hfirst]

theorem AssetChange.slots {tx : Tx} {a : AssetRegistry.Storage H} (hchange : AssetChange w tx a)
    (htx : tx.call.setsGrant = false) : a.transferGrants = w.assets.transferGrants := by
  cases hchange with
  | grant nftId actor expiresAt active grantId hcall hminted =>
    rw [hcall] at htx
    cases htx
  | _ => rfl

theorem attempt_keepsGrants (hw : Reachable w) {tx : Tx} (htx : tx.call.setsGrant = false) :
    KeepsGrants w (attempt exec w tx) := by
  have hwallets := attempt_keepsWallets hw tx
  unfold attempt at hwallets ⊢
  cases hs : exec w tx with
  | error e => exact .refl hw
  | ok w' =>
    rw [hs] at hwallets
    have hchange := exec_assetChange hw.deployed hs
    exact ⟨hw.step hs,hchange.slots htx,fun id hid => hchange.index hid,hwallets⟩

theorem attemptAll_keepsGrants (hw : Reachable w) {txs : List Tx}
    (htxs : ∀ tx ∈ txs,tx.call.setsGrant = false) : KeepsGrants w (attemptAll exec w txs) :=
  hw.attemptAll_related (fun _ hw => .refl hw) (fun _ _ _ h h' => h.trans h')
    (fun tx htx _ hu => attempt_keepsGrants hu (htxs tx htx))

/-- Two asset ids with the same token are the same. -/
theorem nftIdOf_injective (hinj : Function.Injective (keccak256 : Bytes → H)) (hw : Reachable w)
    {id id' : Bytes} (hid : nftIdOf w.assets id ≠ 0)
    (heq : nftIdOf w.assets id = nftIdOf w.assets id') : id = id' := by
  have hfound := (hw.ownership.found _ hid).2
  have hfound' := (hw.ownership.found _ (heq ▸ hid)).2
  unfold nftIdOf at heq
  rw [heq] at hfound
  exact hinj (hfound.symm.trans hfound')

end Chain

section Plans
variable {P : Platform} {lookups : ChainLookups} {type : TransactionType}
  {grant : AuthorizationGrant}

private theorem nftRef_grant {n : ℕ}
    (h : Payloads.nftRef type (grantPayload grant) ["resourceId","assetId"] ["nftId"] lookups = .ok n) :
    n = lookups.nftIdOf (jsTrim grant.resourceId) ∧ n ≠ 0 := by
  unfold Payloads.nftRef at h
  have hnone : ["nftId"].findSome? (fun k => Payloads.nftNumber ((grantPayload grant).get k)) = none := by
    simp [grantPayload,Payload.get_cons,Payload.get_nil,Payloads.nftNumber]
  rw [hnone] at h
  cases hfound : Payloads.optionalStr (grantPayload grant) ["resourceId","assetId"] with
  | none =>
    rw [hfound] at h
    cases h
  | some v =>
    obtain ⟨rfl,-⟩ := Payloads.optionalStr_only "resourceId" grant.resourceId
      (by simp [grantPayload,Payload.get_cons])
      (by simp [grantPayload,Payload.get_cons,Payload.get_nil]) hfound
    rw [hfound] at h
    simp only at h
    split at h
    · cases h
    · rename_i hminted
      obtain rfl := Except.ok.inj h
      exact ⟨rfl,hminted⟩

private theorem party_grant {a : Address} (htrim : Trimmed grant.actorIdentityId)
    (hdid : P.parseAddress grant.actorIdentityId = none)
    (h : Payloads.party P.parseAddress type (grantPayload grant) ["actorIdentityId"] lookups true =
      .ok a) : lookups.walletOfIdentity grant.actorIdentityId true = some a := by
  obtain ⟨v,hv,h⟩ := ok_bind_iff.mp h
  obtain ⟨rfl,-⟩ := Payloads.optionalStr_only "actorIdentityId" grant.actorIdentityId
    (by simp [grantPayload,Payload.get_cons]) (by simp) (Payloads.str_eq_ok hv)
  rw [htrim,hdid] at h
  simp only at h
  split at h
  · rename_i b hb
    rw [hb,ok_pure_iff.mp h]
  · cases h

private theorem grantExpiry_none (hexpiry : grant.expiresAt = none) {expiresAt : ℕ}
    (h : Payloads.grantExpiry P.dateParse type (grantPayload grant) = .ok expiresAt) :
    expiresAt = 0 := by
  have hget : (grantPayload grant).get "expiresAt" = .null := by
    simp [grantPayload,Payload.get_cons,hexpiry]
  unfold Payloads.grantExpiry at h
  rw [hget] at h
  exact (Except.ok.inj h).symm

/-- The call of either transaction about a grant, and what it is made of. -/
theorem plan_setsGrant (htype : type = .GRANT_CREATE ∨ type = .GRANT_REVOKE) {call : Call}
    (h : Payloads.buildCallPlan P.parseAddress P.dateParse type (grantPayload grant) lookups =
      .ok call) :
    ∃ n a expiry grantId,(n = lookups.nftIdOf (jsTrim grant.resourceId) ∧ n ≠ 0) ∧
      Payloads.party P.parseAddress type (grantPayload grant) ["actorIdentityId"] lookups true = .ok a ∧
      Payloads.grantExpiry P.dateParse type (grantPayload grant) = .ok expiry ∧
      call = .setTransferGrant n a expiry (type = .GRANT_CREATE) grantId := by
  rcases htype with rfl | rfl
  all_goals
    obtain ⟨-,-,h⟩ := ok_bind_iff.mp h
    obtain ⟨grantId,-,h⟩ := ok_bind_iff.mp h
    obtain ⟨n,hn,h⟩ := ok_bind_iff.mp h
    obtain ⟨a,ha,h⟩ := ok_bind_iff.mp h
    obtain ⟨expiry,hexpiry,h⟩ := ok_bind_iff.mp h
    exact ⟨n,a,expiry,_,nftRef_grant hn,ha,hexpiry,(ok_pure_iff.mp h).symm⟩

theorem plan_grant (htype : type = .GRANT_CREATE ∨ type = .GRANT_REVOKE)
    (htrim : Trimmed grant.actorIdentityId) (hdid : P.parseAddress grant.actorIdentityId = none)
    (hexpiry : grant.expiresAt = none) {call : Call}
    (h : Payloads.buildCallPlan P.parseAddress P.dateParse type (grantPayload grant) lookups =
      .ok call) :
    ∃ a grantId,lookups.walletOfIdentity grant.actorIdentityId true = some a ∧
      lookups.nftIdOf (jsTrim grant.resourceId) ≠ 0 ∧
      call = .setTransferGrant (lookups.nftIdOf (jsTrim grant.resourceId)) a 0
        (type = .GRANT_CREATE) grantId := by
  obtain ⟨n,a,expiresAt,grantId,⟨rfl,hminted⟩,ha,hexpires,hcall⟩ := plan_setsGrant htype h
  obtain rfl := grantExpiry_none hexpiry hexpires
  exact ⟨a,grantId,party_grant htrim hdid ha,hminted,hcall⟩

end Plans

section Invariant
variable {H : Type} [Keccak H] [DecidableEq H] {P : Platform} {wallet : String → Address}

/-- A row names its asset and its grantee as the chain knows them. -/
structure Stands (P : Platform) (wallet : String → Address) (w : World H) (g : AuthorizationGrant) :
    Prop where
  unlimited : g.expiresAt = none
  transfer : g.resourceType = .ASSET ∧ g.action = .TRANSFER_ASSET
  asset : Trimmed g.resourceId
  did : Trimmed g.actorIdentityId ∧ P.parseAddress g.actorIdentityId = none
  token : nftIdOf w.assets (utf8 g.resourceId) ≠ 0
  registered : (w.identity.wallets (wallet g.actorIdentityId)).status ≠ .NONE
  owner : IdentityRegistry.identityOf w.identity (wallet g.actorIdentityId) = utf8 g.actorIdentityId

/-- The row is ACTIVE, and its slot is that of token `t` and wallet `a`. -/
def Fills (wallet : String → Address) (w : World H) (g : AuthorizationGrant) (t : ℕ) (a : Address) :
    Prop :=
  g.status = .ACTIVE ∧ nftIdOf w.assets (utf8 g.resourceId) = t ∧ wallet g.actorIdentityId = a

/-- A slot is active exactly when an ACTIVE row fills it. -/
structure GrantInvariant (P : Platform) (wallet : String → Address) (s : GrantSystem H) : Prop where
  reachable : Reachable s.chain
  rows : ∀ g ∈ s.grants.rows,Stands P wallet s.chain g
  slots : ∀ t a,(s.chain.assets.transferGrants t a).active = true ↔
    ∃ g ∈ s.grants.rows,Fills wallet s.chain g t a
  unlimited : ∀ t a,(s.chain.assets.transferGrants t a).active = true →
    (s.chain.assets.transferGrants t a).expiresAt = 0

variable {s : GrantSystem H} {w w' : World H}

omit [DecidableEq H] in
theorem Stands.kept {g : AuthorizationGrant} (h : Stands P wallet w g)
    (htokens : ∀ id,nftIdOf w.assets id ≠ 0 → nftIdOf w'.assets id = nftIdOf w.assets id)
    (hwallets : KeepsWallets w w') : Stands P wallet w' g := by
  obtain ⟨hregistered,howner⟩ := hwallets _ h.registered
  refine ⟨h.unlimited,h.transfer,h.asset,h.did,?_,hregistered,howner.trans h.owner⟩
  rw [htokens _ h.token]
  exact h.token

/-- Transactions that set no grant change nothing between the two sides. -/
theorem GrantInvariant.frame (h : GrantInvariant P wallet s) (hkeeps : KeepsGrants s.chain w) :
    GrantInvariant P wallet { s with chain := w } := by
  refine ⟨hkeeps.reachable,fun g hg => (h.rows g hg).kept hkeeps.tokens hkeeps.wallets,?_,?_⟩
  · intro t a
    rw [hkeeps.slots,h.slots]
    apply exists_congr
    intro g
    apply and_congr_right
    intro hg
    rw [Fills,Fills,hkeeps.tokens _ (h.rows g hg).token]
  · rw [hkeeps.slots]
    exact h.unlimited

/-- What setting a grant changes: one slot. -/
theorem exec_setTransferGrant (hw : Reachable w) {env : Env} {n : ℕ} {a : Address} {active : Bool}
    {grantId : Bytes} (hs : exec w ⟨env,.setTransferGrant n a 0 active grantId⟩ = .ok w') :
    Reachable w' ∧ KeepsWallets w w' ∧ (∀ id,nftIdOf w'.assets id = nftIdOf w.assets id) ∧
      ∀ t b,w'.assets.transferGrants t b =
        if t = n ∧ b = a then { expiresAt := 0, active } else w.assets.transferGrants t b := by
  have hreach := hw.step hs
  have hwallets := exec_keepsWallets hw hs
  obtain ⟨-,-,-,log,rfl,-⟩ := setTransferGrant_cases hs
  refine ⟨hreach,hwallets,fun _ => rfl,?_⟩
  intro t b
  by_cases ht : t = n
  · by_cases hb : b = a
    · simp [ht,hb]
    · simp [ht,hb]
  · simp [ht]

section Executed
variable {env : Env} {g : AuthorizationGrant} {grantId : Bytes}

/-- Two rows of one slot are about the same asset and the same grantee. -/
theorem Stands.same_pair (hinj : Function.Injective (keccak256 : Bytes → H)) (hw : Reachable w)
    {g g' : AuthorizationGrant} (h : Stands P wallet w g) (h' : Stands P wallet w g')
    (htoken : nftIdOf w.assets (utf8 g'.resourceId) = nftIdOf w.assets (utf8 g.resourceId))
    (hwallet : wallet g'.actorIdentityId = wallet g.actorIdentityId) :
    g'.resourceId = g.resourceId ∧ g'.actorIdentityId = g.actorIdentityId := by
  have hasset := nftIdOf_injective hinj hw h'.token htoken
  have hactor : utf8 g'.actorIdentityId = utf8 g.actorIdentityId := by
    rw [← h'.owner,hwallet,h.owner]
  exact ⟨utf8_injective hasset,utf8_injective hactor⟩

theorem GrantInvariant.create (h : GrantInvariant P wallet s) (hg : Stands P wallet s.chain g)
    (hactive : g.status = .ACTIVE) (hfresh : s.grants.find g.authorizationGrantId = none)
    (hs : exec s.chain ⟨env,.setTransferGrant (nftIdOf s.chain.assets (utf8 g.resourceId))
      (wallet g.actorIdentityId) 0 true grantId⟩ = .ok w') :
    GrantInvariant P wallet ⟨s.grants.save g,w'⟩ := by
  obtain ⟨hreach,hwallets,htokens,hslots⟩ := exec_setTransferGrant h.reachable hs
  have hrow : ∀ x,x ∈ (s.grants.save g).rows ↔ x = g ∨ x ∈ s.grants.rows := by
    intro x
    rw [Table.mem_save]
    constructor
    · rintro (rfl | ⟨hx,-⟩)
      · exact .inl rfl
      · exact .inr hx
    · rintro (rfl | hx)
      · exact .inl rfl
      · refine .inr ⟨hx,?_⟩
        intro he
        rw [← he,Table.find_of_mem hx] at hfresh
        cases hfresh
  refine ⟨hreach,?_,?_,?_⟩
  · intro x hx
    rcases (hrow x).mp hx with rfl | hx
    · exact hg.kept (fun id _ => htokens id) hwallets
    · exact (h.rows x hx).kept (fun id _ => htokens id) hwallets
  · intro t a
    simp only [hslots,hrow,Fills,htokens]
    by_cases hslot : t = nftIdOf s.chain.assets (utf8 g.resourceId) ∧ a = wallet g.actorIdentityId
    · rw [if_pos hslot]
      exact iff_of_true rfl ⟨g,.inl rfl,hactive,hslot.1.symm,hslot.2.symm⟩
    · rw [if_neg hslot,h.slots]
      constructor
      · rintro ⟨x,hx,hfills⟩
        exact ⟨x,.inr hx,hfills⟩
      · rintro ⟨x,rfl | hx,hstatus,ht,ha⟩
        · exact absurd ⟨ht.symm,ha.symm⟩ hslot
        · exact ⟨x,hx,hstatus,ht,ha⟩
  · intro t a
    simp only [hslots]
    split
    · exact fun _ => rfl
    · exact h.unlimited t a

theorem GrantInvariant.revoke (hinj : Function.Injective (keccak256 : Bytes → H))
    (h : GrantInvariant P wallet s) (hg : g ∈ s.grants.rows)
    (honly : ∀ x ∈ s.grants.rows,x.status = .ACTIVE → x.actorIdentityId = g.actorIdentityId →
      x.resourceId = g.resourceId → x = g)
    (hs : exec s.chain ⟨env,.setTransferGrant (nftIdOf s.chain.assets (utf8 g.resourceId))
      (wallet g.actorIdentityId) 0 false grantId⟩ = .ok w') :
    GrantInvariant P wallet ⟨s.grants.save (revoked g),w'⟩ := by
  obtain ⟨hreach,hwallets,htokens,hslots⟩ := exec_setTransferGrant h.reachable hs
  have hrow : ∀ x,x ∈ (s.grants.save (revoked g)).rows ↔ x = revoked g ∨
      (x ∈ s.grants.rows ∧ x ≠ g) := by
    intro x
    rw [Table.mem_save]
    apply or_congr_right
    apply and_congr_right
    intro hx
    constructor
    · rintro hne rfl
      exact hne rfl
    · intro hne he
      have hsame := Table.find_of_mem hx
      rw [he,show (revoked g).authorizationGrantId = g.authorizationGrantId from rfl,
        Table.find_of_mem hg] at hsame
      exact hne (Option.some.inj hsame).symm
  refine ⟨hreach,?_,?_,?_⟩
  · intro x hx
    rcases (hrow x).mp hx with rfl | ⟨hx,-⟩
    · have hstands := (h.rows g hg).kept (fun id _ => htokens id) hwallets
      exact ⟨hstands.unlimited,hstands.transfer,hstands.asset,hstands.did,hstands.token,
        hstands.registered,hstands.owner⟩
    · exact (h.rows x hx).kept (fun id _ => htokens id) hwallets
  · intro t a
    simp only [hslots,hrow,Fills,htokens]
    by_cases hslot : t = nftIdOf s.chain.assets (utf8 g.resourceId) ∧ a = wallet g.actorIdentityId
    · rw [if_pos hslot]
      refine iff_of_false Bool.false_ne_true ?_
      rintro ⟨x,rfl | ⟨hx,hne⟩,hstatus,ht,ha⟩
      · cases hstatus
      · obtain ⟨hasset,hactor⟩ := (h.rows g hg).same_pair hinj h.reachable (h.rows x hx)
          (ht.trans hslot.1) (ha.trans hslot.2)
        exact hne (honly x hx hstatus hactor hasset)
    · rw [if_neg hslot,h.slots]
      constructor
      · rintro ⟨x,hx,hfills⟩
        refine ⟨x,.inr ⟨hx,?_⟩,hfills⟩
        rintro rfl
        exact hslot ⟨hfills.2.1.symm,hfills.2.2.symm⟩
      · rintro ⟨x,rfl | ⟨hx,-⟩,hstatus,ht,ha⟩
        · cases hstatus
        · exact ⟨x,hx,hstatus,ht,ha⟩
  · intro t a
    simp only [hslots]
    split
    · exact fun _ => rfl
    · exact h.unlimited t a

end Executed
end Invariant

section Events
variable {H : Type} [Keccak H] [DecidableEq H] {P : Platform} {wallet : String → Address}

/-- The wallet is the ACTIVE one that the chain knows for the identity. -/
def HasWallet (wallet : String → Address) (w : World H) (identityId : String) : Prop :=
  (EvmAdapter.lookups w).walletOfIdentity identityId true = some (wallet identityId)

/-- Nobody else sets a grant during the submission, and its outcome is reported. -/
def Delivery.KeepsSlots (d : Delivery) : Prop :=
  (∀ tx ∈ d.interference,tx.call.setsGrant = false) ∧ ¬d.fate.Lost

/-- Grants change through the service only and have no expiry, an identifier that is drawn is new,
and a grantee has its wallet. -/
def GrantEvent.Sound (wallet : String → Address) (s : GrantSystem H) : GrantEvent → Prop
  | .createGrant ctx _ targetId input uuid d =>
    ctx.users.evm = true ∧ d.KeepsSlots ∧ input.expiresAt = none ∧
      s.grants.find ("GRANT-"++uuid) = none ∧
      ∀ target ∈ ctx.repositories.resolveIdentity targetId,HasWallet wallet s.chain target.identityId
  | .revokeGrant ctx _ grantId d =>
    ctx.users.evm = true ∧ d.KeepsSlots ∧
      ∀ grant ∈ s.grants.find grantId,HasWallet wallet s.chain grant.actorIdentityId
  | .validateGrant _ _ _ _ _ => True
  | .external tx => tx.call.setsGrant = false

/-- The names in a grant are spelled as the chain has them. -/
def AuthorizationGrant.Spelled (P : Platform) (grant : AuthorizationGrant) : Prop :=
  Trimmed grant.resourceId ∧ Trimmed grant.actorIdentityId ∧
    P.parseAddress grant.actorIdentityId = none

/-- No other ACTIVE row has the grantee and the asset of the grant. -/
def OnlyActive (s : GrantSystem H) (grant : AuthorizationGrant) : Prop :=
  ∀ other ∈ s.grants.rows,other.status = .ACTIVE →
    other.actorIdentityId = grant.actorIdentityId → other.resourceId = grant.resourceId →
      other = grant

/-- A grant that is created is spelled right, and one that is revoked is the only ACTIVE one of its
grantee and asset. -/
def GrantEvent.KeepsSlots (P : Platform) (s : GrantSystem H) : GrantEvent → Prop
  | .createGrant ctx actorId targetId input uuid d =>
    match createGrantCheck ctx actorId targetId input uuid with
    | .ok (actor,grant) =>
      executes P s.chain
        (envelope ctx.repositories .GRANT_CREATE actor (grantPayload grant)) d = true →
      grant.Spelled P
    | .error _ => True
  | .revokeGrant ctx actorId grantId d =>
    match revokeGrantCheck ctx s actorId grantId with
    | .ok (actor,grant) =>
      executes P s.chain
        (envelope ctx.repositories .GRANT_REVOKE actor (grantPayload grant)) d = true →
      OnlyActive s grant
    | .error _ => True
  | .validateGrant _ _ _ _ _ => True
  | .external _ => True

section Decidability
variable {wallet : String → Address} {s : GrantSystem H}

instance HasWallet.decidable (w : World H) (identityId : String) :
    Decidable (HasWallet wallet w identityId) :=
  inferInstanceAs (Decidable (_ = _))

instance Delivery.KeepsSlots.decidable (d : Delivery) : Decidable d.KeepsSlots :=
  inferInstanceAs (Decidable (_ ∧ _))

instance GrantEvent.Sound.decidable : (e : GrantEvent) → Decidable (e.Sound wallet s)
  | .createGrant _ _ _ _ _ _ => inferInstanceAs (Decidable (_ ∧ _))
  | .revokeGrant _ _ _ _ => inferInstanceAs (Decidable (_ ∧ _))
  | .validateGrant _ _ _ _ _ => isTrue trivial
  | .external _ => inferInstanceAs (Decidable (_ = _))

instance AuthorizationGrant.Spelled.decidable (grant : AuthorizationGrant) :
    Decidable (grant.Spelled P) :=
  inferInstanceAs (Decidable (_ ∧ _))

instance OnlyActive.decidable (grant : AuthorizationGrant) : Decidable (OnlyActive s grant) :=
  List.decidableBAll _ _

instance GrantEvent.KeepsSlots.decidable : (e : GrantEvent) → Decidable (e.KeepsSlots P s)
  | .createGrant ctx actorId targetId input uuid d =>
    match hcheck : createGrantCheck ctx actorId targetId input uuid with
    | .ok (actor,grant) =>
      decidable_of_iff (executes P s.chain
          (envelope ctx.repositories .GRANT_CREATE actor (grantPayload grant)) d = true →
            grant.Spelled P) (by simp only [GrantEvent.KeepsSlots,hcheck])
    | .error _ => isTrue (by simp only [GrantEvent.KeepsSlots,hcheck])
  | .revokeGrant ctx actorId grantId d =>
    match hcheck : revokeGrantCheck ctx s actorId grantId with
    | .ok (actor,grant) =>
      decidable_of_iff (executes P s.chain
          (envelope ctx.repositories .GRANT_REVOKE actor (grantPayload grant)) d = true →
            OnlyActive s grant) (by simp only [GrantEvent.KeepsSlots,hcheck])
    | .error _ => isTrue (by simp only [GrantEvent.KeepsSlots,hcheck])
  | .validateGrant _ _ _ _ _ => isTrue trivial
  | .external _ => isTrue trivial

end Decidability

section Conclusion
variable {s : GrantSystem H} {ctx : GrantContext} {type : TransactionType}
  {checked : Except ServiceError (UsersService.Identity × AuthorizationGrant)}
  {change : AuthorizationGrant → AuthorizationGrant} {d : Delivery}

/-- A request leaves the grants alone, or its transaction is executed and its row is saved. -/
theorem conclude_cases (hw : Reachable s.chain) (hevm : ctx.users.evm = true) (hd : d.KeepsSlots) :
    (∃ w,KeepsGrants s.chain w ∧
      (GrantsService.conclude P ctx s type checked change d).1 = { s with chain := w }) ∨
    ∃ actor grant env call w w',checked = .ok (actor,grant) ∧
      executes P s.chain (envelope ctx.repositories type actor (grantPayload grant)) d = true ∧
      KeepsGrants s.chain w ∧
      Payloads.buildCallPlan P.parseAddress P.dateParse type (grantPayload grant)
        (EvmAdapter.lookups s.chain) = .ok call ∧
      exec w ⟨env,call⟩ = .ok w' ∧
      (GrantsService.conclude P ctx s type checked change d).1 = ⟨s.grants.save (change grant),w'⟩ := by
  unfold GrantsService.conclude
  have hothers := attemptAll_keepsGrants hw hd.1
  cases checked with
  | error e => exact .inl ⟨s.chain,.refl hw,rfl⟩
  | ok found =>
    rcases found with ⟨actor,grant⟩
    simp only
    cases hsubmit : submit P ctx.users ctx.repositories s.chain type actor (grantPayload grant) d with
    | mk w' result =>
    cases result with
    | error e =>
      refine .inl ⟨w',?_,rfl⟩
      rcases submit_failure hsubmit with (rfl | rfl) | hlost
      · exact .refl hw
      · exact hothers
      · exact absurd hlost hd.2
    | ok done =>
      obtain ⟨tx,hfate,hprepare,hexec⟩ := submit_succeeds hevm hsubmit
      refine .inr ⟨actor,grant,tx.env,tx.call,_,w',rfl,?_,hothers,EvmAdapter.prepare_call hprepare,
        hexec,rfl⟩
      simp only [executes,hprepare,hfate,hexec]
      rfl

end Conclusion

section Checks
variable {ctx : GrantContext} {actor : UsersService.Identity} {grant : AuthorizationGrant}

theorem createGrantCheck_eq_ok {actorId targetId uuid : String} {input : GrantInput}
    (h : createGrantCheck ctx actorId targetId input uuid = .ok (actor,grant)) :
    ∃ target,ctx.repositories.resolveIdentity targetId = some target ∧
      grant.actorIdentityId = target.identityId ∧ grant.expiresAt = input.expiresAt ∧
      (grant.resourceType = .ASSET ∧ grant.action = .TRANSFER_ASSET) ∧ grant.status = .ACTIVE ∧
      grant.authorizationGrantId = "GRANT-"++uuid := by
  obtain ⟨admin,-,h⟩ := ok_bind_iff.mp h
  obtain ⟨target,htarget,h⟩ := ok_bind_iff.mp h
  obtain ⟨-,h⟩ := revertIf_bind_eq_ok.mp h
  obtain ⟨-,h⟩ := revertIf_bind_eq_ok.mp h
  obtain ⟨hkind,h⟩ := revertIf_bind_eq_ok.mp h
  obtain ⟨-,rfl⟩ := Prod.mk.inj (ok_pure_iff.mp h)
  rw [not_or,not_not,not_not] at hkind
  refine ⟨target,?_,rfl,rfl,hkind,rfl,rfl⟩
  unfold requireIdentity at htarget
  split at htarget
  · cases htarget
  · rename_i identity hidentity
    rw [hidentity,Except.ok.inj htarget]

omit [Keccak H] [DecidableEq H] in
theorem revokeGrantCheck_eq_ok {s : GrantSystem H} {actorId grantId : String}
    (h : revokeGrantCheck ctx s actorId grantId = .ok (actor,grant)) :
    s.grants.find grantId = some grant := by
  obtain ⟨admin,-,h⟩ := ok_bind_iff.mp h
  split at h
  · cases h
  · rename_i found hfound
    obtain ⟨-,h⟩ := revertIf_bind_eq_ok.mp h
    obtain ⟨-,rfl⟩ := Prod.mk.inj (ok_pure_iff.mp h)
    exact hfound

end Checks

section Steps
variable {s : GrantSystem H} (h : GrantInvariant P wallet s)
include h

private theorem GrantInvariant.created (hinj : Function.Injective (keccak256 : Bytes → H))
    {ctx : GrantContext} {actorId targetId uuid : String} {input : GrantInput} {d : Delivery}
    (hsound : (GrantEvent.createGrant ctx actorId targetId input uuid d).Sound wallet s)
    (hkeeps : (GrantEvent.createGrant ctx actorId targetId input uuid d).KeepsSlots P s) :
    GrantInvariant P wallet (GrantsService.createGrant P ctx s actorId targetId input uuid d).1 := by
  obtain ⟨hevm,hd,hexpiry,hfresh,hwallet⟩ := hsound
  unfold GrantsService.createGrant
  rcases conclude_cases (P := P) (d := d) h.reachable hevm hd with ⟨w,hothers,hresult⟩ |
    ⟨actor,grant,env,call,w,w',hchecked,hexecutes,hothers,hplan,hexec,hresult⟩
  · rw [hresult]
    exact h.frame hothers
  · rw [hresult]
    simp only [GrantEvent.KeepsSlots,hchecked] at hkeeps
    obtain ⟨hasset,hactor,hdid⟩ := hkeeps hexecutes
    obtain ⟨target,htarget,hname,hexpires,hkind,hactive,hid⟩ := createGrantCheck_eq_ok hchecked
    rw [hexpiry] at hexpires
    have hhas := hwallet target htarget
    rw [← hname] at hhas
    obtain ⟨a,grantId,ha,hminted,rfl⟩ := plan_grant (.inl rfl) hactor hdid hexpires hplan
    obtain rfl := Option.some.inj (ha.symm.trans hhas)
    obtain ⟨hregistered,howner⟩ := EvmAdapter.lookups_did hinj h.reachable.identity hhas
    obtain ⟨hregistered,hkept⟩ := hothers.wallets _ hregistered
    rw [hasset] at hminted hexec
    have htoken := hothers.tokens _ hminted
    have hstands : Stands P wallet w grant :=
      ⟨hexpires,hkind,hasset,⟨hactor,hdid⟩,by rw [htoken]; exact hminted,hregistered,
        hkept.trans howner⟩
    change exec w ⟨env,.setTransferGrant (nftIdOf s.chain.assets _) _ 0 _ grantId⟩ = .ok w' at hexec
    rw [← htoken] at hexec
    rw [← hid] at hfresh
    exact (h.frame hothers).create hstands hactive hfresh hexec

private theorem GrantInvariant.revokedOne (hinj : Function.Injective (keccak256 : Bytes → H))
    {ctx : GrantContext} {actorId grantId : String} {d : Delivery}
    (hsound : (GrantEvent.revokeGrant ctx actorId grantId d).Sound wallet s)
    (hkeeps : (GrantEvent.revokeGrant ctx actorId grantId d).KeepsSlots P s) :
    GrantInvariant P wallet (GrantsService.revokeGrant P ctx s actorId grantId d).1 := by
  obtain ⟨hevm,hd,hwallet⟩ := hsound
  unfold GrantsService.revokeGrant
  rcases conclude_cases (P := P) (d := d) h.reachable hevm hd with ⟨w,hothers,hresult⟩ |
    ⟨actor,grant,env,call,w,w',hchecked,hexecutes,hothers,hplan,hexec,hresult⟩
  · rw [hresult]
    exact h.frame hothers
  · rw [hresult]
    simp only [GrantEvent.KeepsSlots,hchecked] at hkeeps
    have honly := hkeeps hexecutes
    have hfound := revokeGrantCheck_eq_ok hchecked
    have hmem := Table.mem_of_find hfound
    have hstands := h.rows _ hmem
    have hhas := hwallet _ hfound
    obtain ⟨a,sent,ha,-,rfl⟩ :=
      plan_grant (.inr rfl) hstands.did.1 hstands.did.2 hstands.unlimited hplan
    obtain rfl := Option.some.inj (ha.symm.trans hhas)
    have htoken := hothers.tokens _ hstands.token
    rw [hstands.asset] at hexec
    change exec w ⟨env,.setTransferGrant (nftIdOf s.chain.assets _) _ 0 _ sent⟩ = .ok w' at hexec
    rw [← htoken] at hexec
    have hnext := (h.frame hothers).revoke hinj hmem honly hexec
    exact hnext

theorem GrantInvariant.step (hinj : Function.Injective (keccak256 : Bytes → H)) {e : GrantEvent}
    (hsound : e.Sound wallet s) (hkeeps : e.KeepsSlots P s) : GrantInvariant P wallet (s.step P e) := by
  cases e with
  | createGrant ctx actorId targetId input uuid d => exact h.created hinj hsound hkeeps
  | revokeGrant ctx actorId grantId d => exact h.revokedOne hinj hsound hkeeps
  | external tx => exact h.frame (attempt_keepsGrants h.reachable hsound)
  | validateGrant grantId actorId resourceId action now =>
    -- a grant without an expiry is never marked
    have hsame : GrantsService.validateGrant P s grantId actorId resourceId action now = (s,false) ∨
        GrantsService.validateGrant P s grantId actorId resourceId action now = (s,true) := by
      unfold GrantsService.validateGrant
      cases hfound : s.grants.find grantId with
      | none => exact .inl rfl
      | some grant =>
        have hexpired : grantIsExpired P grant now = false := by
          unfold grantIsExpired
          rw [(h.rows _ (Table.mem_of_find hfound)).unlimited]
        simp only [hexpired]
        split
        · exact .inl rfl
        · exact .inr rfl
    rw [GrantSystem.step]
    rcases hsame with hsame | hsame
    all_goals
      rw [hsame]
      exact h

end Steps

section Agreement
variable {s : GrantSystem H}

/-- For an identity with its wallet and a minted asset, the service finds an ACTIVE grant exactly when
the contract has one. -/
def GrantsAgree (P : Platform) (wallet : String → Address) (s : GrantSystem H) : Prop :=
  ∀ identityId assetId now env,HasWallet wallet s.chain identityId →
    nftIdOf s.chain.assets (utf8 assetId) ≠ 0 →
    ((findActiveGrant P s identityId .ASSET assetId .TRANSFER_ASSET now).isSome = true ↔
      hasActiveTransferGrant s.chain.assets env (nftIdOf s.chain.assets (utf8 assetId))
        (wallet identityId) = true)

theorem GrantInvariant.agree (hinj : Function.Injective (keccak256 : Bytes → H))
    (h : GrantInvariant P wallet s) : GrantsAgree P wallet s := by
  intro identityId assetId now env hhas hminted
  have hchain : hasActiveTransferGrant s.chain.assets env (nftIdOf s.chain.assets (utf8 assetId))
      (wallet identityId) = true ↔ ∃ g ∈ s.grants.rows,Fills wallet s.chain g
        (nftIdOf s.chain.assets (utf8 assetId)) (wallet identityId) := by
    rw [← h.slots]
    constructor
    · intro hactive
      exact (Bool.and_eq_true_iff.mp hactive).1
    · intro hactive
      simp [hasActiveTransferGrant,hactive,h.unlimited _ _ hactive]
  rw [hchain,findActiveGrant,List.find?_isSome]
  constructor
  · rintro ⟨g,hg,hfound⟩
    obtain ⟨hg,hactor⟩ := List.mem_filter.mp hg
    rw [decide_eq_true_eq] at hactor
    simp only [grantIsActive,Bool.and_eq_true,decide_eq_true_eq] at hfound
    obtain ⟨⟨-,hasset⟩,⟨hstatus,-⟩,-⟩ := hfound
    exact ⟨g,hg,hstatus,by rw [hasset],by rw [hactor]⟩
  · rintro ⟨g,hg,hstatus,htoken,hwallet⟩
    have hstands := h.rows g hg
    have hasset : g.resourceId = assetId :=
      utf8_injective (nftIdOf_injective hinj h.reachable hstands.token htoken)
    have hactor : g.actorIdentityId = identityId := by
      have hdid := (EvmAdapter.lookups_did hinj h.reachable.identity hhas).2
      rw [← hwallet,hstands.owner] at hdid
      exact utf8_injective hdid
    refine ⟨g,List.mem_filter.mpr ⟨hg,by rw [decide_eq_true_eq]; exact hactor⟩,?_⟩
    simp [grantIsActive,grantMatches,grantIsExpired,hstatus,hasset,hactor,hstands.transfer,
      hstands.unlimited]

/-- From an empty table and no active slot, the two sides agree in every state of a run that revokes
only grants without a second ACTIVE row for the pair, and creates only grants that are spelled right. -/
theorem grants_agree (hinj : Function.Injective (keccak256 : Bytes → H)) (P : Platform)
    (wallet : String → Address) (s : GrantSystem H) (hs : Reachable s.chain)
    (hrows : s.grants = .empty)
    (hslots : ∀ t a,(s.chain.assets.transferGrants t a).active = false) (events : List GrantEvent)
    (hsound : Throughout (GrantSystem.step P) (fun s e => e.Sound wallet s ∧ e.KeepsSlots P s) s
      events) :
    ∀ n,GrantsAgree P wallet (s.run P (events.take n)) := by
  intro n
  have hstart : GrantInvariant P wallet s := by
    refine ⟨hs,?_,?_,?_⟩
    · intro g hg
      rw [hrows] at hg
      cases hg
    · intro t a
      refine iff_of_false (by rw [hslots]; decide) ?_
      rintro ⟨g,hg,-⟩
      rw [hrows] at hg
      cases hg
    · intro t a hactive
      rw [hslots] at hactive
      cases hactive
  have hrun := (hsound.take n).invariant (I := GrantInvariant P wallet)
    (fun _ _ h he => h.step hinj he.1 he.2) hstart
  exact hrun.agree hinj

end Agreement
end Events

section Prototype

def grantContext : GrantContext := ⟨usersContext,workshopRepositories⟩

def workshopGrants : GrantSystem (Option Bytes) := ⟨.empty,workshop⟩

def engineerWalletOf (_ : String) : Address := 0xe1

def radarGrant : GrantInput := ⟨.ASSET,"RADAR-1",.TRANSFER_ASSET,none⟩

def firstGrant : GrantEvent :=
  .createGrant grantContext "ADMIN" "E-1" radarGrant "1" (deliveryOf 12 .mined)

def secondGrant : GrantEvent :=
  .createGrant grantContext "ADMIN" "E-1" radarGrant "2" (deliveryOf 13 .mined)

def firstRevocation : GrantEvent :=
  .revokeGrant grantContext "ADMIN" "GRANT-1" (deliveryOf 14 .mined)

theorem grants_agree_one_at_a_time :
    (workshopGrants.run prototypePlatform [firstGrant,firstRevocation,secondGrant]).grants.rows.map
        AuthorizationGrant.status = [.REVOKED,.ACTIVE] ∧
      ∀ n,GrantsAgree prototypePlatform engineerWalletOf (workshopGrants.run prototypePlatform
        ([firstGrant,firstRevocation,secondGrant].take n)) :=
  ⟨by decide +kernel,
    grants_agree prototype_keccak_injective prototypePlatform engineerWalletOf workshopGrants
      workshop_reachable rfl (fun t a => rfl) [firstGrant,firstRevocation,secondGrant]
      (by decide +kernel)⟩

/-- Two grants of the engineer for one asset, and the first one is revoked: the service still finds the
second one, the contract none. -/
theorem second_grant_lost :
    Throughout (GrantSystem.step prototypePlatform) (fun s e => e.Sound engineerWalletOf s)
      workshopGrants [firstGrant,secondGrant,firstRevocation] ∧
    (nftIdOf (workshopGrants.run prototypePlatform
        [firstGrant,secondGrant,firstRevocation]).chain.assets (utf8 "RADAR-1") = 1 ∧
      HasWallet engineerWalletOf (workshopGrants.run prototypePlatform
        [firstGrant,secondGrant,firstRevocation]).chain "DID:BEL:ENG" ∧
      (findActiveGrant prototypePlatform (workshopGrants.run prototypePlatform
        [firstGrant,secondGrant,firstRevocation]) "DID:BEL:ENG" .ASSET "RADAR-1" .TRANSFER_ASSET
          0).isSome = true ∧
      hasActiveTransferGrant (workshopGrants.run prototypePlatform
        [firstGrant,secondGrant,firstRevocation]).chain.assets ⟨0xe1,15,15,1⟩ 1 0xe1 = false) ∧
    ¬GrantsAgree prototypePlatform engineerWalletOf (workshopGrants.run prototypePlatform
      [firstGrant,secondGrant,firstRevocation]) := by
  refine ⟨by decide +kernel,(and_iff_left_of_imp ?_).mpr (by decide +kernel)⟩
  rintro ⟨htoken,hwallet,hfound,hchain⟩ hagree
  have hiff := hagree "DID:BEL:ENG" "RADAR-1" 0 ⟨0xe1,15,15,1⟩ hwallet (by rw [htoken]; decide)
  rw [htoken] at hiff
  exact absurd (hiff.mp hfound) (by rw [engineerWalletOf,hchain]; decide)

end Prototype
end BelLedger
