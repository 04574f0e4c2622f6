import BelLedger.AddressTexts
import BelLedger.RoleEffects

/-!
# The wallets and the roles on chain

For UsersServiceImpl the chain is the DID and the status of each wallet and the roles of each DID. The
calls that it makes are determined by these: they succeed on the contracts exactly if they do on the
view, and with the same outcome.
-/
namespace BelLedger
open CheckedCalls TransitionRuns UsersService

@[ext]
structure ChainView where
  wallets : Address → Option (Bytes × WalletStatus)
  roles : Bytes → Mask

namespace ChainView

/-- The sender is an ACTIVE wallet of a DID with one of the roles. -/
def allows (v : ChainView) (sender : Address) (mask : Mask) : Bool :=
  match v.wallets sender with
  | some (did,.ACTIVE) => decide (v.roles did &&& mask ≠ 0)
  | _ => false

def setWallet (v : ChainView) (wallet : Address) (did : Bytes) (status : WalletStatus) : ChainView :=
  { v with wallets := Function.update v.wallets wallet (some (did,status)) }

def addRole (v : ChainView) (did : Bytes) (role : Role) : ChainView :=
  { v with roles := Function.update v.roles did (v.roles did ||| role.bit) }

/-- To RoleRegistry a DID whose digest is zero is unknown. -/
def exec (H : Type) [Keccak H] [DecidableEq H] (v : ChainView) (sender : Address) :
    Call → Option ChainView
  | .createIdentity wallet did =>
    if v.allows sender BelRoles.CREATE_EMPLOYEE = true ∧ wallet ≠ 0 ∧
        (did.length ≠ 0 ∧ did.length ≤ IdentityRegistry.MAX_DID_LENGTH) ∧ v.wallets wallet = none then
      some (v.setWallet wallet did .PENDING)
    else none
  | .activateWallet wallet =>
    match v.wallets wallet with
    | some (did,.PENDING) =>
      if v.allows sender BelRoles.ACTIVATE_WALLET then some (v.setWallet wallet did .ACTIVE) else none
    | _ => none
  | .revokeWallet wallet reason =>
    match v.wallets wallet with
    | none => none
    | some (did,status) =>
      if v.allows sender BelRoles.REVOKE_WALLET = true ∧
          (reason.length ≠ 0 ∧ reason.length ≤ IdentityRegistry.MAX_REASON_LENGTH) ∧
          status ≠ .REVOKED then
        some (v.setWallet wallet did .REVOKED)
      else none
  | .assignRole wallet role =>
    match v.wallets wallet with
    | none => none
    | some (did,_) =>
      if v.allows sender BelRoles.MANAGE_ROLES = true ∧ (keccak256 did : H) ≠ 0 ∧
          (v.roles did).has role = false then
        some (v.addRole did role)
      else none
  | _ => none

section Inversion
variable {H : Type} [Keccak H] [DecidableEq H] {v v' : ChainView} {sender wallet : Address}

theorem exec_createIdentity_eq_some {did : Bytes}
    (h : v.exec H sender (.createIdentity wallet did) = some v') :
    v.wallets wallet = none ∧ v' = v.setWallet wallet did .PENDING := by
  simp only [exec] at h
  split at h
  · rename_i hchecks
    exact ⟨hchecks.2.2.2,(Option.some.inj h).symm⟩
  · cases h

theorem exec_activateWallet_eq_some (h : v.exec H sender (.activateWallet wallet) = some v') :
    ∃ did,v.wallets wallet = some (did,.PENDING) ∧ v' = v.setWallet wallet did .ACTIVE := by
  simp only [exec] at h
  split at h
  · rename_i did hwallet
    split at h
    · exact ⟨did,hwallet,(Option.some.inj h).symm⟩
    · cases h
  · cases h

theorem exec_revokeWallet_eq_some {reason : Bytes}
    (h : v.exec H sender (.revokeWallet wallet reason) = some v') :
    ∃ did status,v.wallets wallet = some (did,status) ∧ status ≠ .REVOKED ∧
      v' = v.setWallet wallet did .REVOKED := by
  simp only [exec] at h
  split at h
  · cases h
  · rename_i did status hwallet
    split at h
    · rename_i hchecks
      exact ⟨did,status,hwallet,hchecks.2.2,(Option.some.inj h).symm⟩
    · cases h

theorem exec_assignRole_eq_some {role : Role}
    (h : v.exec H sender (.assignRole wallet role) = some v') :
    ∃ did status,v.wallets wallet = some (did,status) ∧ v' = v.addRole did role := by
  simp only [exec] at h
  split at h
  · cases h
  · rename_i did status hwallet
    split at h
    · exact ⟨did,status,hwallet,(Option.some.inj h).symm⟩
    · cases h

end Inversion

end ChainView

/-- The calls of UsersServiceImpl. -/
def Call.Lifecycle : Call → Prop
  | .createIdentity _ _ | .activateWallet _ | .revokeWallet _ _ | .assignRole _ _ => True
  | _ => False

variable {H : Type} [Keccak H] [DecidableEq H]

def World.view (w : World H) : ChainView where
  wallets := fun a =>
    if (w.identity.wallets a).status = .NONE then none
    else some (IdentityRegistry.identityOf w.identity a,(w.identity.wallets a).status)
  roles := RoleRegistry.rolesOfIdentity w

section Reading
variable {w : World H} {a : Address} {did : Bytes} {status : WalletStatus}

omit [DecidableEq H] in
theorem view_wallets_eq_none : w.view.wallets a = none ↔ (w.identity.wallets a).status = .NONE := by
  unfold World.view
  dsimp only
  split
  · simp [*]
  · simp [*]

omit [DecidableEq H] in
theorem view_wallets_eq_some : w.view.wallets a = some (did,status) ↔
    (w.identity.wallets a).status ≠ .NONE ∧ IdentityRegistry.identityOf w.identity a = did ∧
      (w.identity.wallets a).status = status := by
  unfold World.view
  dsimp only
  split
  · simp [*]
  · simp [*]

omit [DecidableEq H] in
theorem getWallet_eq_view (P : Platform) (w : World H) (address : String) :
    getWallet P w address = (P.parseAddress address).bind w.view.wallets := by
  unfold getWallet
  cases P.parseAddress address with
  | none => rfl
  | some a => rfl

/-- `getIdentity` sees a role only when the DID has a wallet. -/
theorem onChainRole_eq_view (hinj : Function.Injective (keccak256 : Bytes → H)) (hw : Reachable w)
    {identityId : String} {role : Role} :
    onChainRole w identityId = some role ↔
      (∃ a status,w.view.wallets a = some (utf8 identityId,status)) ∧
        ROLES.find? (fun r => (w.view.roles (utf8 identityId)).has r) = some role := by
  have hwallets : IdentityRegistry.walletsOf w.identity (utf8 identityId) = [] ↔
      ¬∃ a status,w.view.wallets a = some (utf8 identityId,status) := by
    constructor
    · rintro hnil ⟨a,status,ha⟩
      obtain ⟨hregistered,hdid,-⟩ := view_wallets_eq_some.mp ha
      have hlisted := hw.identity.listed a hregistered
      have hkey := hw.identity.did_key _ (hw.identity.identityOf_length hregistered).1
      rw [← hkey] at hlisted
      rw [show w.identity.dids (w.identity.wallets a).identityKey = utf8 identityId from hdid]
        at hlisted
      rw [IdentityRegistry.walletsOf] at hnil
      rw [hnil] at hlisted
      cases hlisted
    · intro hnone
      by_contra hlisted
      obtain ⟨a,ha⟩ := List.exists_mem_of_ne_nil _ hlisted
      obtain ⟨hregistered,hkey⟩ := hw.identity.member _ a ha
      refine hnone ⟨a,_,view_wallets_eq_some.mpr ⟨hregistered,hinj ?_,rfl⟩⟩
      rw [← hkey]
      exact hw.identity.did_key _ (hw.identity.identityOf_length hregistered).1
  unfold onChainRole
  by_cases hnil : IdentityRegistry.walletsOf w.identity (utf8 identityId) = []
  · rw [if_pos hnil]
    simp [hwallets.mp hnil]
  · rw [if_neg hnil]
    have hsome := not_not.mp (fun h => hnil (hwallets.mpr h))
    simp only [hsome,true_and]
    rfl

theorem authorised_iff_allows (hw : Reachable w) (r : Registry) {mask : Mask} :
    Authorised w r a mask ↔ w.view.allows a mask = true := by
  unfold ChainView.allows
  constructor
  · rintro ⟨-,hactive,hroles⟩
    have hview := view_wallets_eq_some.mpr
      ⟨by rw [hactive]; decide,(rfl : IdentityRegistry.identityOf w.identity a = _),hactive⟩
    rw [hview]
    rw [RoleRegistry.rolesOf,hw.identity.keyOf_active hactive] at hroles
    exact decide_eq_true hroles
  · intro h
    split at h
    · rename_i did hview
      obtain ⟨-,rfl,hactive⟩ := view_wallets_eq_some.mp hview
      refine ⟨hw.deployed.wired r,hactive,?_⟩
      rw [RoleRegistry.rolesOf,hw.identity.keyOf_active hactive]
      exact of_decide_eq_true h
    · cases h

end Reading

section Registration

private theorem identityStep_unregistered {s s' : IdentityRegistry.Storage H}
    (hstep : IdentityStep s s')
    (h : ∀ a,(s.wallets a).status = .NONE → (s.wallets a).identityKey = 0) (a : Address)
    (ha : (s'.wallets a).status = .NONE) : (s'.wallets a).identityKey = 0 := by
  cases hstep with
  | same => exact h a ha
  | register env wallet did hwallet hdid hnew =>
    by_cases haw : a = wallet
    · simp [registered,haw] at ha
    · simp only [registered,Function.update_of_ne haw] at ha ⊢
      exact h a ha
  | activate wallet record hpending hactive hkey =>
    by_cases haw : a = wallet
    · simp [setWallet,haw,hactive] at ha
    · simp only [setWallet,Function.update_of_ne haw] at ha ⊢
      exact h a ha
  | revoke wallet record hold hrevoked hkey =>
    by_cases haw : a = wallet
    · simp [setWallet,haw,hrevoked] at ha
    · simp only [setWallet,Function.update_of_ne haw] at ha ⊢
      exact h a ha

private theorem unregistered_key {w : World H} (h : Reachable w) :
    ∀ a,(w.identity.wallets a).status = .NONE → (w.identity.wallets a).identityKey = 0 := by
  obtain ⟨hist,h⟩ := h
  refine (h.invariant (I := fun w => ∀ a,(w.identity.wallets a).status = .NONE →
    (w.identity.wallets a).identityKey = 0) ?_ ?_).2
  · intro d w hgen a ha
    rw [hgen.wallets] at ha ⊢
    by_cases hadmin : a = d.bootstrapAdmin
    · simp [hadmin,Deployment.adminWallet] at ha
    · rw [Function.update_of_ne hadmin]
  · exact fun w tx w' hd hi hs => identityStep_unregistered (exec_identityStep hd hs) hi

/-- A wallet for which RoleRegistry finds a key is registered. -/
theorem registered_of_keyOf {w : World H} (hw : Reachable w) {wallet : Address}
    (hkey : RoleRegistry.keyOf w.identity wallet ≠ 0) : (w.identity.wallets wallet).status ≠ .NONE := by
  intro hnone
  have hlength : (IdentityRegistry.identityOf w.identity wallet).length ≠ 0 := by
    intro hzero
    exact hkey (by simp [RoleRegistry.keyOf,hzero])
  rw [hw.identity.keyOf_eq hlength] at hkey
  exact hkey (unregistered_key hw wallet hnone)

end Registration

section Execution
variable {w w' : World H} {env : Env} {wallet : Address} {did reason : Bytes} {role : Role}

omit [DecidableEq H] in
/-- The record of one wallet is replaced and its DID stays. -/
private theorem view_setWallet (w : World H) (wallet : Address)
    (record : IdentityRegistry.WalletRecord H) (log : AuditRegistry.Storage H)
    (status : WalletStatus) (hstatus : record.status = status)
    (hnone : status ≠ .NONE)
    (hkey : record.identityKey = (w.identity.wallets wallet).identityKey) :
    World.view { w with identity := setWallet w.identity wallet record, audit := log } =
      w.view.setWallet wallet (IdentityRegistry.identityOf w.identity wallet) status := by
  ext1
  · funext a
    by_cases ha : a = wallet
    · subst ha
      simp [World.view,ChainView.setWallet,BelLedger.setWallet,IdentityRegistry.identityOf,hstatus,
        hnone,hkey]
    · simp [World.view,ChainView.setWallet,BelLedger.setWallet,IdentityRegistry.identityOf,ha]
  · rfl

private theorem view_createIdentity (hinj : Function.Injective (keccak256 : Bytes → H))
    (hw : Reachable w) (hs : exec w ⟨env,.createIdentity wallet did⟩ = .ok w') :
    w'.view = w.view.setWallet wallet did .PENDING := by
  have hkept := exec_keepsWallets hw hs
  have hnew := (exec_createIdentity hinj hw hs).2
  obtain ⟨-,-,-,-,log,rfl,-⟩ := createIdentity_cases hs
  ext1
  · funext a
    by_cases ha : a = wallet
    · subst ha
      simp [World.view,ChainView.setWallet,hnew]
      simp [registered]
    · have hsame : (registered w.identity env wallet did).wallets a = w.identity.wallets a := by
        simp [registered,ha]
      simp only [World.view,ChainView.setWallet,hsame,Function.update_of_ne ha]
      by_cases hnone : (w.identity.wallets a).status = .NONE
      · simp [hnone]
      · simp [hnone,(hkept a hnone).2]
  · rfl

private theorem view_assignRole (hinj : Function.Injective (keccak256 : Bytes → H))
    (hw : Reachable w) {status : WalletStatus} (hwallet : w.view.wallets wallet = some (did,status))
    (hs : exec w ⟨env,.assignRole wallet role⟩ = .ok w') : w'.view = w.view.addRole did role := by
  obtain ⟨hregistered,hdid,-⟩ := view_wallets_eq_some.mp hwallet
  obtain ⟨hchange,-,hmask⟩ := exec_assignRole hinj hw hs hregistered hdid
  obtain ⟨-,-,-,log,rfl,-⟩ := assignRole_cases hs
  ext1
  · rfl
  · funext other
    by_cases hother : other = did
    · subst hother
      simpa [ChainView.addRole,World.view] using hmask
    · simpa [ChainView.addRole,World.view,hother] using hchange.others other hother

/-- What succeeds on the contracts succeeds on the view. -/
theorem exec_view (hinj : Function.Injective (keccak256 : Bytes → H)) (hw : Reachable w) {tx : Tx}
    (htx : tx.call.Lifecycle) (hs : exec w tx = .ok w') :
    w.view.exec H tx.env.sender tx.call = some w'.view := by
  obtain ⟨env,call⟩ := tx
  cases call with
  | createIdentity wallet did =>
    have hview := view_createIdentity hinj hw hs
    obtain ⟨hauth,hzero,hdid,hnew,-⟩ := createIdentity_cases hs
    rw [ChainView.exec,if_pos ⟨(authorised_iff_allows hw _).mp hauth,hzero,hdid,
      view_wallets_eq_none.mpr hnew⟩,hview]
  | activateWallet wallet =>
    obtain ⟨hauth,hpending,log,rfl,-⟩ := activateWallet_cases hs
    have hwallet := view_wallets_eq_some.mpr ⟨by rw [hpending]; decide,
      (rfl : IdentityRegistry.identityOf w.identity wallet = _),hpending⟩
    have hview := view_setWallet w wallet { w.identity.wallets wallet with
      status := .ACTIVE, activatedAt := uint64 env.timestamp } log .ACTIVE rfl (by decide) rfl
    simp only [ChainView.exec,hwallet,(authorised_iff_allows hw _).mp hauth,if_true]
    exact congrArg some hview.symm
  | revokeWallet wallet reason =>
    obtain ⟨hauth,hreason,hnone,hrevoked,log,rfl,-⟩ := revokeWallet_cases hs
    have hwallet := view_wallets_eq_some.mpr
      ⟨hnone,(rfl : IdentityRegistry.identityOf w.identity wallet = _),rfl⟩
    have hview := view_setWallet w wallet { w.identity.wallets wallet with
      status := .REVOKED, revokedAt := uint64 env.timestamp, revokedReason := reason } log .REVOKED
      rfl (by decide) rfl
    simp only [ChainView.exec,hwallet]
    rw [if_pos ⟨(authorised_iff_allows hw _).mp hauth,hreason,hrevoked⟩]
    exact congrArg some hview.symm
  | assignRole wallet role =>
    obtain ⟨hauth,hkey,hbit,-⟩ := assignRole_cases hs
    have hregistered := registered_of_keyOf hw hkey
    have hwallet := view_wallets_eq_some.mpr
      ⟨hregistered,(rfl : IdentityRegistry.identityOf w.identity wallet = _),rfl⟩
    rw [hw.identity.keyOf_registered hregistered] at hkey
    rw [RoleRegistry.rolesOf,hw.identity.keyOf_registered hregistered] at hbit
    simp only [ChainView.exec,hwallet]
    rw [if_pos ⟨(authorised_iff_allows hw _).mp hauth,hkey,hbit⟩,view_assignRole hinj hw hwallet hs]
  | _ => exact htx.elim

/-- IdentityRegistry may write to the audit log. -/
private theorem audit_identity (hd : Deployed w) (env : Env) (entityType action : Bytes)
    (identity : IdentityRegistry.Storage H) {entityId : Bytes}
    (htype : AuditRegistry.validEntityType (H := H) entityType = true)
    (hid : entityId.length ≠ 0 ∧ entityId.length ≤ AuditRegistry.MAX_FIELD_LENGTH)
    (haction : action.length ≠ 0 ∧ action.length ≤ AuditRegistry.MAX_FIELD_LENGTH) :
    ∃ w',audit { w with identity } .identity env entityType entityId action = .ok w' := by
  have hvalid : AuditEntry.Valid { w with identity } (w.addr.of .identity) entityType entityId
      action := ⟨(hd.recorder _).mpr ⟨.identity,rfl⟩,htype,hid,haction⟩
  obtain ⟨log,hlog,-⟩ := audit_succeeds env hvalid
  exact ⟨_,hlog⟩

omit [Keccak H] [DecidableEq H] in
private theorem toHexString_length (a : Address) :
    (toHexString a).length ≠ 0 ∧ (toHexString a).length ≤ AuditRegistry.MAX_FIELD_LENGTH := by
  rw [length_toHexString]
  decide

private theorem createIdentity_succeeds (hd : Deployed w)
    (hauth : Authorised w .identity env.sender BelRoles.CREATE_EMPLOYEE) (hzero : wallet ≠ 0)
    (hdid : did.length ≠ 0 ∧ did.length ≤ IdentityRegistry.MAX_DID_LENGTH)
    (hnew : (w.identity.wallets wallet).status = .NONE) :
    ∃ w',exec w ⟨env,.createIdentity wallet did⟩ = .ok w' := by
  obtain ⟨w',hw'⟩ := audit_identity hd env (utf8 "IDENTITY") (utf8 "IDENTITY_CREATE")
    (registered w.identity env wallet did)
    (by simp [AuditRegistry.validEntityType]) hdid (by decide)
  refine ⟨w',?_⟩
  simp only [exec,IdentityRegistry.createIdentity,checkRoles_bind_eq_ok]
  exact ⟨hauth,ok_bind_iff.mpr ⟨_,register_eq_ok.mpr ⟨hzero,hdid,hnew,rfl⟩,hw'⟩⟩

private theorem activateWallet_succeeds (hd : Deployed w)
    (hauth : Authorised w .identity env.sender BelRoles.ACTIVATE_WALLET)
    (hpending : (w.identity.wallets wallet).status = .PENDING) :
    ∃ w',exec w ⟨env,.activateWallet wallet⟩ = .ok w' := by
  obtain ⟨w',hw'⟩ := audit_identity hd env (utf8 "WALLET") (utf8 "WALLET_ACTIVATE")
    (setWallet w.identity wallet
      { w.identity.wallets wallet with status := .ACTIVE, activatedAt := uint64 env.timestamp })
    (by simp [AuditRegistry.validEntityType]) (toHexString_length wallet) (by decide)
  refine ⟨w',?_⟩
  simp only [exec,IdentityRegistry.activateWallet,checkRoles_bind_eq_ok,revertIf_bind_eq_ok,hpending]
  exact ⟨hauth,by decide,by decide,hw'⟩

private theorem revokeWallet_succeeds (hd : Deployed w)
    (hauth : Authorised w .identity env.sender BelRoles.REVOKE_WALLET)
    (hreason : reason.length ≠ 0 ∧ reason.length ≤ IdentityRegistry.MAX_REASON_LENGTH)
    (hregistered : (w.identity.wallets wallet).status ≠ .NONE)
    (hrevoked : (w.identity.wallets wallet).status ≠ .REVOKED) :
    ∃ w',exec w ⟨env,.revokeWallet wallet reason⟩ = .ok w' := by
  obtain ⟨w',hw'⟩ := audit_identity hd env (utf8 "WALLET") (utf8 "WALLET_REVOKE")
    (setWallet w.identity wallet
      { w.identity.wallets wallet with
        status := .REVOKED, revokedAt := uint64 env.timestamp, revokedReason := reason })
    (by simp [AuditRegistry.validEntityType]) (toHexString_length wallet) (by decide)
  refine ⟨w',?_⟩
  simp only [exec,IdentityRegistry.revokeWallet,checkRoles_bind_eq_ok,revertIf_bind_eq_ok,not_or,
    Nat.not_lt,gt_iff_lt]
  exact ⟨hauth,hreason,hregistered,hrevoked,hw'⟩

/-- What succeeds on the view succeeds on the contracts. -/
theorem exec_of_view (hw : Reachable w) (env : Env) {call : Call} {v : ChainView}
    (h : w.view.exec H env.sender call = some v) : ∃ w',exec w ⟨env,call⟩ = .ok w' := by
  cases call with
  | createIdentity wallet did =>
    simp only [ChainView.exec] at h
    split at h
    · rename_i hchecks
      obtain ⟨hallowed,hzero,hdid,hnew⟩ := hchecks
      exact createIdentity_succeeds hw.deployed ((authorised_iff_allows hw _).mpr hallowed) hzero hdid
        (view_wallets_eq_none.mp hnew)
    · cases h
  | activateWallet wallet =>
    simp only [ChainView.exec] at h
    split at h
    · rename_i did hwallet
      split at h
      · rename_i hallowed
        exact activateWallet_succeeds hw.deployed ((authorised_iff_allows hw _).mpr hallowed)
          (view_wallets_eq_some.mp hwallet).2.2
      · cases h
    · cases h
  | revokeWallet wallet reason =>
    simp only [ChainView.exec] at h
    split at h
    · cases h
    · rename_i did status hwallet
      obtain ⟨hregistered,-,rfl⟩ := view_wallets_eq_some.mp hwallet
      split at h
      · rename_i hchecks
        obtain ⟨hallowed,hreason,hrevoked⟩ := hchecks
        exact revokeWallet_succeeds hw.deployed ((authorised_iff_allows hw _).mpr hallowed) hreason
          hregistered hrevoked
      · cases h
  | assignRole wallet role =>
    simp only [ChainView.exec] at h
    split at h
    · cases h
    · rename_i did status hwallet
      obtain ⟨hregistered,rfl,-⟩ := view_wallets_eq_some.mp hwallet
      have hlength := hw.identity.identityOf_length hregistered
      have hkey := hw.identity.keyOf_registered hregistered
      split at h
      · rename_i hchecks
        obtain ⟨hallowed,hknown,hbit⟩ := hchecks
        refine assignRole_succeeds hw.deployed ((authorised_iff_allows hw _).mpr hallowed) ?_ ?_
          hlength
        · rw [hkey]
          exact hknown
        · rw [hkey,Mask.and_bit_eq_zero]
          exact hbit
      · cases h
  | _ => cases h

/-- The view decides about the calls of UsersServiceImpl. -/
theorem exec_refines_view (hinj : Function.Injective (keccak256 : Bytes → H)) (hw : Reachable w)
    (tx : Tx) (htx : tx.call.Lifecycle) :
    (exec w tx).toOption.map World.view = w.view.exec H tx.env.sender tx.call := by
  cases hs : exec w tx with
  | ok w' => exact (exec_view hinj hw htx hs).symm
  | error e =>
    cases hv : w.view.exec H tx.env.sender tx.call with
    | none => rfl
    | some v =>
      obtain ⟨w',hw'⟩ := exec_of_view hw tx.env hv
      cases hs.symm.trans hw'

end Execution

end BelLedger
