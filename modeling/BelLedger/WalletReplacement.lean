import BelLedger.WalletAgreement

/-!
# Failed replacements

`activateWallet` revokes the ACTIVE wallet of the identity, row and all, before it registers the new
one. A failure after that is not undone.
-/
namespace BelLedger
open CheckedCalls TransitionRuns ResumableSteps KeyedTables UsersService

variable {H : Type} [Keccak H] [DecidableEq H] {P : Platform} {s s' : UsersSystem H}

/-- The identity has the same ACTIVE wallets, in the rows and on chain. -/
structure SameActive (identityId : String) (s s' : UsersSystem H) : Prop where
  rows : ∀ row : Wallet,row.identityId = identityId → row.status = .ACTIVE →
    (row ∈ s'.repositories.wallets.rows ↔ row ∈ s.repositories.wallets.rows)
  chain : ∀ a,s'.chain.view.wallets a = some (utf8 identityId,.ACTIVE) ↔
    s.chain.view.wallets a = some (utf8 identityId,.ACTIVE)

/-- The transaction reaches the chain, and there the wallet of the actor may revoke wallets. -/
def RevocationAllowed (P : Platform) (r : Repositories) (w : World H) (actor : Identity)
    (d : Delivery) : Prop :=
  d.fate = .mined ∧ ∃ sender,(r.actorWallet actor).bind P.parseAddress = some sender ∧
    (attemptAll exec w d.interference).view.allows sender BelRoles.REVOKE_WALLET = true

/-- The identity has an ACTIVE wallet, and its revocation is allowed. The deliveries are counted as the
rows are listed. -/
def RevokesCurrent (P : Platform) (ctx : Context) (s : UsersSystem H)
    (userId deviceId address : String) (actorId : Option String) (revocations : ℕ → Delivery) : Prop :=
  ∃ actor identity wallet,activateWalletCheck ctx s.repositories userId deviceId address
      (actorId.getD userId) = .ok (actor,identity,wallet) ∧
    ∃ k current,(s.repositories.listWallets ctx identity.identityId)[k]? = some current ∧
      current.status = .ACTIVE ∧ RevocationAllowed P s.repositories s.chain actor (revocations k)

/-- Revoking a wallet that is not yet revoked takes the permission only. -/
private theorem view_revokeWallet_iff {v : ChainView} {a : Address} {did reason : Bytes}
    {status : WalletStatus} (hwallet : v.wallets a = some (did,status)) (hstatus : status ≠ .REVOKED)
    (hreason : reason.length ≠ 0 ∧ reason.length ≤ IdentityRegistry.MAX_REASON_LENGTH)
    (sender : Address) :
    v.exec H sender (.revokeWallet a reason) ≠ none ↔
      v.allows sender BelRoles.REVOKE_WALLET = true := by
  simp only [ChainView.exec,hwallet]
  constructor
  · intro hsome
    by_contra hnot
    exact hsome (if_neg (fun hchecks => hnot hchecks.1))
  · intro hallowed
    rw [if_pos ⟨hallowed,hreason,hstatus⟩]
    exact Option.some_ne_none _

section Submissions
variable {ctx : Context} {r : Repositories} {w w' : World H} {actor identity : Identity}
  {d : Delivery} {address reason : String} {a : Address} {result : Except ServiceError Unit}

/-- On a wallet that is not yet revoked a settled revocation succeeds exactly if it is allowed. -/
theorem submit_revokeWallet_iff (hinj : Function.Injective (keccak256 : Bytes → H))
    (hstrict : P.Strict) (hevm : ctx.evm = true) (hw : Reachable w)
    (ha : P.parseAddress address = some a) {did : Bytes} {status : WalletStatus}
    (hwallet : w.view.wallets a = some (did,status)) (hstatus : status ≠ .REVOKED)
    (hreason : (utf8 (jsTrim reason)).length ≠ 0 ∧
      (utf8 (jsTrim reason)).length ≤ IdentityRegistry.MAX_REASON_LENGTH) (hd : d.Settled)
    (h : submit P ctx r w .WALLET_REVOKE actor (revokePayload address reason) d = (w',result)) :
    result.isOk = true ↔ RevocationAllowed P r w actor d := by
  have hcall : plannedCall P .WALLET_REVOKE (revokePayload address reason) =
      .ok (.revokeWallet a (utf8 (jsTrim reason))) := by
    obtain ⟨htrim,hblank⟩ := parseAddress_trim hstrict ha
    refine plannedCall_revokeWallet htrim hblank (fun he => hreason.1 ?_)
    rw [he]
    rfl
  have hthere : (attemptAll exec w d.interference).view.wallets a = some (did,status) := by
    rw [attemptAll_wallets hw hd.foreign]
    exact hwallet
  have heffect := view_revokeWallet_iff (H := H) hthere hstatus hreason
  obtain ⟨-,⟨hnone,-,hfailed⟩ | hperform⟩ :=
    submit_view hinj hevm hw revokeWallet_selfContained h
  · constructor
    · intro hok
      rw [hfailed] at hok
      cases hok
    · rintro ⟨-,sender,hsender,-⟩
      unfold planned at hnone
      rw [hsender,hcall] at hnone
      cases hnone
  · constructor
    · intro hok
      rw [hok] at hperform
      obtain ⟨hconfirmed,heff⟩ := perform_eq_true.mp hperform.symm
      obtain ⟨⟨sender,call⟩,hplanned,hexec⟩ := Option.bind_eq_some_iff.mp heff
      obtain ⟨⟨wallet,hwallet,hsender⟩,hplannedCall⟩ := planned_eq_some.mp hplanned
      obtain rfl := Except.ok.inj (hcall.symm.trans hplannedCall)
      refine ⟨?_,sender,by rw [hwallet]; exact hsender,(heffect sender).mp (by rw [hexec]; nofun)⟩
      cases hfate : d.fate with
      | mined => rfl
      | dropped report =>
        rw [hfate] at hconfirmed
        cases hconfirmed
      | lost e =>
        rw [hfate] at hconfirmed
        cases hconfirmed
    · rintro ⟨hfate,sender,hsender,hallowed⟩
      obtain ⟨v,hv⟩ := Option.ne_none_iff_exists'.mp ((heffect sender).mpr hallowed)
      have heff : plannedEffect H P r .WALLET_REVOKE actor (revokePayload address reason)
          (attemptAll exec w d.interference).view = some v := by
        unfold plannedEffect planned
        rw [hsender,hcall]
        exact hv
      rw [heff,hfate] at hperform
      exact (Prod.mk.inj hperform).2

/-- A registration that fails activates no wallet. -/
theorem registerReplacement_failed (hinj : Function.Injective (keccak256 : Bytes → H))
    (hstrict : P.Strict) (hevm : ctx.evm = true) (hw : Reachable w) {wallet : Wallet}
    (ha : P.parseAddress wallet.address = some a) {created activated : Stage}
    (hcreated : created.Settled) (hactivated : activated.Settled) {e : ServiceError}
    (h : registerReplacement P ctx r w actor identity wallet created activated = (w',.error e))
    (b : Address) (did : Bytes) :
    w'.view.wallets b = some (did,.ACTIVE) ↔ w.view.wallets b = some (did,.ACTIVE) := by
  unfold registerReplacement at h
  split at h
  · rename_i w₁ e' hfirst
    obtain rfl := (Prod.mk.inj h).1
    obtain ⟨-,hsame,-⟩ := ensureIdentityCreated_settled hinj hstrict hevm hw ha hcreated hfirst
    rw [hsame rfl]
  · rename_i w₁ hfirst
    obtain ⟨hreach,-,hdone⟩ := ensureIdentityCreated_settled hinj hstrict hevm hw ha hcreated hfirst
    obtain ⟨-,hsame,-⟩ := ensureWalletActive_settled hinj hstrict hevm hreach ha hactivated h
    rw [hsame rfl]
    rcases hdone rfl with ⟨hkept,-⟩ | ⟨hnone,hnew⟩
    · rw [hkept]
    · rw [hnew]
      by_cases hba : b = a
      · rw [hba,Function.update_self,hnone]
        simp
      · rw [Function.update_of_ne hba]

end Submissions

private theorem RevokesCurrent.listed {ctx : Context} {userId deviceId address : String}
    {actorId : Option String} {actor identity : Identity} {wallet : Wallet}
    {revocations : ℕ → Delivery}
    (h : RevokesCurrent P ctx s userId deviceId address actorId revocations)
    (hcheck : activateWalletCheck ctx s.repositories userId deviceId address (actorId.getD userId) =
      .ok (actor,identity,wallet)) :
    ∃ (k : ℕ) (current : Wallet),
      (s.repositories.listWallets ctx identity.identityId)[k]? = some current ∧
      current.status = .ACTIVE ∧ RevocationAllowed P s.repositories s.chain actor (revocations k) := by
  obtain ⟨actor',identity',wallet',hok,hlisted⟩ := h
  obtain ⟨rfl,hpair⟩ := Prod.mk.inj (Except.ok.inj (hcheck.symm.trans hok))
  obtain ⟨rfl,rfl⟩ := Prod.mk.inj hpair
  exact hlisted

/-- Only one row can be meant. -/
private theorem revokesCurrent_iff {ctx : Context} (hctx : ctx.Faithful)
    {userId deviceId address : String} {actorId : Option String} {actor identity : Identity}
    {wallet current : Wallet} (hcheck : activateWalletCheck ctx s.repositories userId deviceId address
      (actorId.getD userId) = .ok (actor,identity,wallet)) {before after : List Wallet}
    (hlist : s.repositories.listWallets ctx identity.identityId = before++current::after)
    (hactive : current.status = .ACTIVE)
    (honly : ∀ x ∈ s.repositories.wallets.rows,x.status = .ACTIVE →
      x.identityId = identity.identityId → x = current) {revocations : ℕ → Delivery} :
    RevokesCurrent P ctx s userId deviceId address actorId revocations ↔
      RevocationAllowed P s.repositories s.chain actor (revocations before.length) := by
  have hplace : (s.repositories.listWallets ctx identity.identityId)[before.length]? =
      some current := by
    rw [hlist]
    simp
  constructor
  · intro hrevokes
    obtain ⟨k,current',hlisted,hactive',hallowed⟩ := hrevokes.listed hcheck
    obtain ⟨hmem,hid⟩ := (mem_listWallets hctx).mp (List.mem_of_getElem? hlisted)
    rw [honly current' hmem hactive' hid] at hlisted
    have hbound : before.length < (s.repositories.listWallets ctx identity.identityId).length := by
      rw [hlist]
      simp
    have hk : before.length = k :=
      (List.getElem?_inj hbound (listWallets_distinct hctx).of_map).mp (hplace.trans hlisted.symm)
    rw [hk]
    exact hallowed
  · intro hallowed
    exact ⟨actor,identity,wallet,hcheck,before.length,current,hplace,hactive,hallowed⟩

omit [DecidableEq H] in
/-- A row that has been revoked is no longer among the ACTIVE ones. -/
private theorem not_sameActive_of_revoked {now : String} {current : Wallet} {reason : String}
    (hcurrent : current ∈ s.repositories.wallets.rows) (hactive : current.status = .ACTIVE)
    (hrows : s'.repositories.wallets = s.repositories.wallets.save (revokedWallet now reason current)) :
    ¬SameActive current.identityId s s' := by
  intro hsame
  have hrow := (hsame.rows current rfl hactive).mpr hcurrent
  rw [hrows] at hrow
  rcases Table.mem_save.mp hrow with heq | ⟨-,hother⟩
  · rw [heq] at hactive
    cases hactive
  · exact hother rfl

/-- A failed call leaves the ACTIVE wallets as they were, unless it has revoked the current one. -/
theorem replacement_atomic_iff (hinj : Function.Injective (keccak256 : Bytes → H))
    (hstrict : P.Strict) {ctx : Context} (hctx : ctx.OnChain P) (hreach : Reachable s.chain)
    (hagree : WalletsAgree P s.repositories.wallets.rows s.chain.view.wallets)
    {userId deviceId address : String} {actorId : Option String} {identity : Identity}
    (hidentity : s.repositories.resolveIdentity userId = some identity) {revocations : ℕ → Delivery}
    (hrevocations : ∀ k,(revocations k).Settled) {created activated : Stage}
    (hcreated : created.Settled) (hactivated : activated.Settled) {e : ServiceError}
    (h : activateWallet P ctx s userId deviceId address actorId revocations created activated =
      (s',.error e)) :
    SameActive identity.identityId s s' ↔
      ¬RevokesCurrent P ctx s userId deviceId address actorId revocations := by
  unfold activateWallet at h
  split at h
  · rename_i e' hcheck
    obtain rfl := (Prod.mk.inj h).1
    refine ⟨?_,fun _ => ⟨fun _ _ _ => Iff.rfl,fun _ => Iff.rfl⟩⟩
    rintro - ⟨actor,found,wallet,hok,-⟩
    cases hcheck.symm.trans hok
  · rename_i actor found wallet hcheck
    obtain ⟨-,hfound,-,hfind,-,-,hpending,hmatch⟩ := activateWalletCheck_rows hcheck
    obtain rfl := Option.some.inj ((requireIdentity_eq_ok hfound).symm.trans hidentity)
    obtain ⟨b,haddress⟩ := hctx.matching _ _ (hmatch hctx.evm)
    have hb : P.parseAddress wallet.address = some b := by
      rw [show wallet.address = jsTrim address from Table.key_of_find hfind]
      exact (parseAddress_trim hstrict haddress).1
    rcases replaced_cases hctx.faithful hagree.one (Table.mem_of_find hfind) hpending found.identityId
      with ⟨hnone,hkept⟩ | ⟨before,current,after,hlist,hcurrent,hid,hreplaced,hbefore,hafter,honly⟩
    · -- nothing is revoked, and the registration fails
      rw [revokeReplaced_none hkept] at h
      dsimp only at h
      split at h
      · rename_i w e' hsteps
        obtain rfl := (Prod.mk.inj h).1
        refine ⟨?_,fun _ => ⟨fun _ _ _ => Iff.rfl,fun c => ?_⟩⟩
        · intro _ hrevokes
          obtain ⟨k,current,hlisted,hactive,-⟩ := hrevokes.listed hcheck
          obtain ⟨hmem,hid⟩ := (mem_listWallets hctx.faithful).mp (List.mem_of_getElem? hlisted)
          exact hnone current hmem hactive hid
        · exact registerReplacement_failed hinj hstrict hctx.evm hreach hb hcreated hactivated hsteps c _
      · cases (Prod.mk.inj h).2
    · rw [hlist,revokeReplaced_one hbefore hreplaced hafter] at h
      obtain ⟨a,ha,hwallet⟩ := hagree.active current hcurrent hreplaced.1
      cases hsubmit : submit P ctx s.repositories s.chain .WALLET_REVOKE actor
          (revokePayload current.address "Replaced by wallet activation")
          (revocations before.length) with
      | mk w result =>
      have hiff := submit_revokeWallet_iff hinj hstrict hctx.evm hreach ha hwallet (by decide)
        (by decide) (hrevocations before.length) hsubmit
      rw [revokesCurrent_iff hctx.faithful hcheck hlist hreplaced.1 honly,← hiff]
      unfold revokeRow at h
      rw [hsubmit] at h
      cases result with
      | error e' =>
        -- the revocation fails without an effect
        obtain ⟨-,hsame,-⟩ := submit_revokeWallet_settled hinj hstrict hctx.evm hreach ha
          (hrevocations before.length) hsubmit
        obtain rfl := (Prod.mk.inj h).1
        refine ⟨fun _ => by simp [Except.isOk,Except.toBool],fun _ => ⟨fun _ _ _ => Iff.rfl,fun c => ?_⟩⟩
        dsimp only
        rw [hsame rfl]
      | ok u =>
        -- the row is revoked, and the call fails later
        refine ⟨fun hsame => absurd hsame ?_,fun hnot => absurd rfl hnot⟩
        have hrows : s'.repositories.wallets = s.repositories.wallets.save
            (revokedWallet ctx.now "Replaced by wallet activation" current) := by
          dsimp only at h
          split at h
          · obtain rfl := (Prod.mk.inj h).1
            rfl
          · cases (Prod.mk.inj h).2
        rw [← hid]
        exact not_sameActive_of_revoked hcurrent hreplaced.1 hrows

section Prototype

/-- The administrator gets a new device and a wallet for it. -/
def newAdminDevice : List AccountEvent :=
  [.registerDevice chainAuth "ADMIN" "DEV-2" none (some auditorKey),
   .registerWallet usersContext "ADMIN" "DEV-2" auditorWallet]

def adminUsers : UsersSystem (Option Bytes) :=
  accountRun prototypePlatform bootstrapUsers newAdminDevice

theorem adminUsers_agreement : WalletAgreement prototypePlatform adminUsers :=
  bootstrapUsers_bootstrapped.agreement.run prototype_keccak_injective prototypePlatform_strict
    ⟨trivial,usersContext_onChain,trivial⟩

/-- The wallet is replaced by its owner, with this delivery of the revocation. -/
def ownReplacement (d : Delivery) : UsersSystem (Option Bytes) × Except ServiceError Wallet :=
  activateWallet prototypePlatform usersContext adminUsers "ADMIN" "DEV-2" auditorWallet none
    (fun _ => d) ⟨[],deliveryOf 3 .mined⟩ ⟨[],deliveryOf 4 .mined⟩

def unreachable : Fate := .dropped (.error ⟨.NETWORK,"unreachable"⟩)

theorem replacement_atomic_iff_dropped :
    SameActive "DID:BEL:ADMIN" adminUsers (ownReplacement (deliveryOf 2 unreachable)).1 := by
  have hidentity : adminUsers.repositories.resolveIdentity "ADMIN" =
      some ⟨"DID:BEL:ADMIN",some "ADMIN",some .ADMIN,some "IT",.ACTIVE⟩ := by decide +kernel
  have hfailed : (ownReplacement (deliveryOf 2 unreachable)).2 =
      .error (.Blockchain ⟨.NETWORK,"unreachable"⟩) := by decide +kernel
  have hcall : ownReplacement (deliveryOf 2 unreachable) =
      ((ownReplacement (deliveryOf 2 unreachable)).1,
        .error (.Blockchain ⟨.NETWORK,"unreachable"⟩)) := by
    rw [← hfailed]
  refine (replacement_atomic_iff prototype_keccak_injective prototypePlatform_strict
    usersContext_onChain adminUsers_agreement.reachable adminUsers_agreement.agree hidentity
    (fun _ => deliveryOf_settled 2 id) (stage_settled 3 id) (stage_settled 4 id) hcall).mpr ?_
  rintro ⟨actor,identity,wallet,-,k,current,-,-,hfate,-⟩
  cases hfate

/-- The administrator ends without any wallet. -/
theorem own_replacement_loses_wallet :
    (WalletsAgree prototypePlatform adminUsers.repositories.wallets.rows
      adminUsers.chain.view.wallets ∧ (deliveryOf 2 .mined).Settled ∧
      (Stage.mk [] (deliveryOf 3 .mined)).Settled ∧ (Stage.mk [] (deliveryOf 4 .mined)).Settled) ∧
    (ownReplacement (deliveryOf 2 .mined)).2 =
      .error (.Blockchain ⟨.SIGNER,"No active actor wallet for DID:BEL:ADMIN"⟩) ∧
    (adminUsers.repositories.wallets.rows.filter (fun row => row.status = .ACTIVE)).map
      Wallet.address = [adminWallet] ∧
    (ownReplacement (deliveryOf 2 .mined)).1.repositories.wallets.rows.map
      (fun row => (row.address,row.status)) = [(adminWallet,.REVOKED),(auditorWallet,.PENDING)] ∧
    (ownReplacement (deliveryOf 2 .mined)).1.chain.view.wallets 0xad =
      some (utf8 "DID:BEL:ADMIN",.REVOKED) ∧
    ¬SameActive "DID:BEL:ADMIN" adminUsers (ownReplacement (deliveryOf 2 .mined)).1 := by
  have hrun : (ownReplacement (deliveryOf 2 .mined)).2 =
        .error (.Blockchain ⟨.SIGNER,"No active actor wallet for DID:BEL:ADMIN"⟩) ∧
      (ownReplacement (deliveryOf 2 .mined)).1.repositories.wallets.rows.map
        (fun row => (row.address,row.status)) = [(adminWallet,.REVOKED),(auditorWallet,.PENDING)] ∧
      (ownReplacement (deliveryOf 2 .mined)).1.chain.view.wallets 0xad =
        some (utf8 "DID:BEL:ADMIN",.REVOKED) := by
    decide +kernel
  obtain ⟨hfailed,hrows,hchain⟩ := hrun
  refine ⟨⟨adminUsers_agreement.agree,deliveryOf_settled 2 id,stage_settled 3 id,stage_settled 4 id⟩,
    hfailed,by decide +kernel,hrows,hchain,?_⟩
  intro hsame
  have hactive : adminUsers.chain.view.wallets 0xad = some (utf8 "DID:BEL:ADMIN",.ACTIVE) := by
    decide +kernel
  have hkept := (hsame.chain 0xad).mpr hactive
  rw [hchain] at hkept
  cases hkept

end Prototype

end BelLedger
