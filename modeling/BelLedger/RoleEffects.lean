import BelLedger.UsersService

/-!
# What the submissions of UsersServiceImpl do to the roles on chain

A stage of an activation either leaves all roles alone or adds one role to the identity it is for.
-/
namespace BelLedger
open CheckedCalls TransitionRuns KeyedTables UsersService

variable {H : Type} [Keccak H] [DecidableEq H]

section Chain
variable {w₀ w w' : World H} {did : Bytes}

/-- Only the roles of `did` may differ; wallets keep their DIDs. -/
structure RoleChange (did : Bytes) (w w' : World H) : Prop where
  reachable : Reachable w'
  wallets : KeepsWallets w w'
  others : ∀ other,other ≠ did →
    RoleRegistry.rolesOfIdentity w' other = RoleRegistry.rolesOfIdentity w other

/-- All roles are the same; wallets keep their DIDs. -/
structure KeepsRoles (w w' : World H) : Prop where
  reachable : Reachable w'
  wallets : KeepsWallets w w'
  roles : w'.roles = w.roles

theorem KeepsRoles.refl (hw : Reachable w) : KeepsRoles w w := ⟨hw,.refl w,rfl⟩

theorem KeepsRoles.trans (h : KeepsRoles w₀ w) (h' : KeepsRoles w w') : KeepsRoles w₀ w' :=
  ⟨h'.reachable,h.wallets.trans h'.wallets,h'.roles.trans h.roles⟩

theorem KeepsRoles.mask (h : KeepsRoles w w') (did : Bytes) :
    RoleRegistry.rolesOfIdentity w' did = RoleRegistry.rolesOfIdentity w did := by
  unfold RoleRegistry.rolesOfIdentity
  rw [h.roles]

theorem KeepsRoles.change (h : KeepsRoles w w') (did : Bytes) : RoleChange did w w' :=
  ⟨h.reachable,h.wallets,fun other _ => h.mask other⟩

theorem RoleChange.trans (h : RoleChange did w₀ w) (h' : RoleChange did w w') :
    RoleChange did w₀ w' :=
  ⟨h'.reachable,h.wallets.trans h'.wallets,
    fun other hother => (h'.others other hother).trans (h.others other hother)⟩

theorem exec_keepsRoles (hw : Reachable w) {tx : Tx} (hs : exec w tx = .ok w')
    (htx : tx.call.target ≠ some .roles) : KeepsRoles w w' :=
  ⟨hw.step hs,exec_keepsWallets hw hs,(exec_frame hw.deployed hs).roles htx⟩

theorem attempt_keepsRoles (hw : Reachable w) {tx : Tx} (htx : tx.call.target ≠ some .roles) :
    KeepsRoles w (attempt exec w tx) := by
  unfold attempt
  cases hs : exec w tx with
  | ok w' => exact exec_keepsRoles hw hs htx
  | error e => exact .refl hw

theorem attemptAll_keepsRoles (hw : Reachable w) {txs : List Tx}
    (htxs : ∀ tx ∈ txs,tx.call.target ≠ some .roles) : KeepsRoles w (attemptAll exec w txs) :=
  hw.attemptAll_related (fun _ hu => .refl hu) (fun _ _ _ h h' => h.trans h')
    (fun tx htx _ hu => attempt_keepsRoles hu (htxs tx htx))

/-- An assignment adds a role that the identity behind the wallet did not hold. -/
theorem exec_assignRole (hinj : Function.Injective (keccak256 : Bytes → H)) (hw : Reachable w)
    {env : Env} {wallet : Address} {role : Role}
    (hs : exec w ⟨env,.assignRole wallet role⟩ = .ok w')
    (hregistered : (w.identity.wallets wallet).status ≠ .NONE)
    (hdid : IdentityRegistry.identityOf w.identity wallet = did) :
    RoleChange did w w' ∧ (RoleRegistry.rolesOfIdentity w did).has role = false ∧
      RoleRegistry.rolesOfIdentity w' did = RoleRegistry.rolesOfIdentity w did ||| role.bit := by
  have hreach := hw.step hs
  have hwallets := exec_keepsWallets hw hs
  have hkey := hw.identity.keyOf_registered hregistered
  rw [hdid] at hkey
  obtain ⟨-,-,hbit,log,rfl,-⟩ := assignRole_cases hs
  unfold RoleRegistry.rolesOf at hbit
  rw [hkey] at hbit
  refine ⟨⟨hreach,hwallets,?_⟩,hbit,?_⟩
  · intro other hother
    have hne : (keccak256 other : H) ≠ keccak256 did := fun he => hother (hinj he)
    simp [RoleRegistry.rolesOfIdentity,hkey,hne]
  · simp [RoleRegistry.rolesOfIdentity,RoleRegistry.rolesOf,hkey]

/-- An assignment that passes the checks of RoleRegistry is executed. -/
theorem assignRole_succeeds (hd : Deployed w) {env : Env} {wallet : Address} {role : Role}
    (hauth : Authorised w .roles env.sender BelRoles.MANAGE_ROLES)
    (hkey : RoleRegistry.keyOf w.identity wallet ≠ 0)
    (hnew : w.roles.roles (RoleRegistry.keyOf w.identity wallet) &&& role.bit = 0)
    (hlength : (IdentityRegistry.identityOf w.identity wallet).length ≠ 0 ∧
      (IdentityRegistry.identityOf w.identity wallet).length ≤ AuditRegistry.MAX_FIELD_LENGTH) :
    ∃ w',exec w ⟨env,.assignRole wallet role⟩ = .ok w' := by
  have haudit : ∀ roles,∃ w',audit { w with roles } .roles env (utf8 "IDENTITY")
      (IdentityRegistry.identityOf w.identity wallet) (utf8 "ROLE_ASSIGN") = .ok w' := by
    intro roles
    have hvalid : AuditEntry.Valid { w with roles } (w.addr.of .roles) (utf8 "IDENTITY")
        (IdentityRegistry.identityOf w.identity wallet) (utf8 "ROLE_ASSIGN") := by
      refine ⟨(hd.recorder _).mpr ⟨.roles,rfl⟩,?_,hlength,by decide,by decide⟩
      simp [AuditRegistry.validEntityType]
    obtain ⟨log,hlog,-⟩ := audit_succeeds env hvalid
    exact ⟨_,hlog⟩
  obtain ⟨w',hw'⟩ := haudit { w.roles with
    roles := Function.update w.roles.roles (RoleRegistry.keyOf w.identity wallet)
      (w.roles.roles (RoleRegistry.keyOf w.identity wallet) ||| role.bit)
    adminCount := if role = .ADMIN then w.roles.adminCount + 1 else w.roles.adminCount }
  refine ⟨w',?_⟩
  simp only [exec,RoleRegistry.assignRole,checkRoles_bind_eq_ok,revertIf_bind_eq_ok]
  exact ⟨hauth,hkey,not_not.mpr hnew,hw'⟩

end Chain

section Submissions
variable {P : Platform} {ctx : Context} {r : Repositories} {w w' : World H}
  {type : TransactionType} {actor : Identity} {payload : Payload} {d : Delivery}

/-- Nobody else changes roles during the submission, and its outcome is reported. -/
structure Delivery.Fair (d : Delivery) : Prop where
  foreign : ∀ tx ∈ d.interference,tx.call.target ≠ some .roles
  reported : ¬d.fate.Lost

theorem submit_succeeds (hevm : ctx.evm = true)
    (h : submit P ctx r w type actor payload d = (w',.ok ())) :
    ∃ tx,d.fate = .mined ∧ EvmAdapter.prepare P w (envelope r type actor payload) d = .ok tx ∧
      exec (attemptAll exec w d.interference) tx = .ok w' := by
  unfold submit at h
  rw [if_neg (by rw [hevm]; decide)] at h
  split at h
  · cases (Prod.mk.inj h).2
  · split at h
    · rename_i w'' hsubmit
      obtain rfl : w'' = w' := (Prod.mk.inj h).1
      exact EvmAdapter.submitTransaction_success hsubmit
    · cases (Prod.mk.inj h).2
    · cases (Prod.mk.inj h).2

/-- A submission that fails leaves the chain to the others, unless its outcome is lost. -/
theorem submit_failure {e : ServiceError}
    (h : submit P ctx r w type actor payload d = (w',.error e)) :
    (w' = w ∨ w' = attemptAll exec w d.interference) ∨ d.fate.Lost := by
  have hcases : ∀ {tx : Envelope} {result : Except BlockchainError SubmitStatus},
      EvmAdapter.submitTransaction P w tx d = (w',result) → result ≠ .ok .SUCCESS →
      (w' = w ∨ w' = attemptAll exec w d.interference) ∨ d.fate.Lost := by
    intro tx result hsubmit hresult
    rcases EvmAdapter.submitTransaction_failure hsubmit hresult with hsame | ⟨call,hlost,-⟩
    · exact .inl hsame
    · exact .inr hlost
  unfold submit at h
  split at h
  · cases (Prod.mk.inj h).2
  split at h
  · exact .inl (.inl (Prod.mk.inj h).1.symm)
  · split at h
    · cases (Prod.mk.inj h).2
    · rename_i w'' revert hsubmit
      obtain rfl : w'' = w' := (Prod.mk.inj h).1
      exact hcases hsubmit (by simp)
    · rename_i w'' error hsubmit
      obtain rfl : w'' = w' := (Prod.mk.inj h).1
      exact hcases hsubmit (by simp)

theorem submit_fails (hw : Reachable w) (hd : d.Fair) {e : ServiceError}
    (h : submit P ctx r w type actor payload d = (w',.error e)) : KeepsRoles w w' := by
  rcases submit_failure h with (rfl | rfl) | hlost
  · exact .refl hw
  · exact attemptAll_keepsRoles hw hd.foreign
  · exact absurd hlost hd.reported

end Submissions

section Plans
variable {P : Platform} {w : World H} {d : Delivery} {tx : Tx} {type : TransactionType}
  {sender walletAddress identityId : String} {p : Payload}

omit [Keccak H] [DecidableEq H] in
private theorem roleIndex_name {role found : Role} (hrole : p.get "role" = .string role.name)
    (h : Payloads.roleIndex type p = .ok found) : found = role := by
  obtain ⟨name,hname,h⟩ := ok_bind_iff.mp h
  obtain ⟨rfl,-⟩ := Payloads.optionalStr_only "role" role.name hrole (by simp) (Payloads.str_eq_ok hname)
  have hfind : ROLES.find? (fun r => r.name = jsTrim role.name) = some role := by
    cases role <;> decide +kernel
  rw [hfind] at h
  exact (ok_pure_iff.mp h).symm

omit [Keccak H] [DecidableEq H] in
theorem plan_createIdentity {lookups : ChainLookups} {call : Call}
    (h : Payloads.buildCallPlan P.parseAddress P.dateParse .IDENTITY_CREATE
      [("walletAddress",.string walletAddress),("identityId",.string identityId)] lookups =
        .ok call) :
    ∃ a,P.parseAddress (jsTrim walletAddress) = some a ∧ jsTrim walletAddress ≠ "" ∧
      call = .createIdentity a (utf8 (jsTrim identityId)) := by
  obtain ⟨a,haddress,hplan⟩ := ok_bind_iff.mp h
  obtain ⟨did,hdid,hplan⟩ := ok_bind_iff.mp hplan
  obtain ⟨v,hv,ha⟩ := Payloads.requiredAddress_eq_ok haddress
  obtain ⟨rfl,hblank⟩ := Payloads.optionalStr_only "walletAddress" walletAddress rfl
    (by simp [Payloads.walletKeys,Payload.get_cons,Payload.get_nil]) hv
  obtain ⟨rfl,-⟩ := Payloads.optionalStr_only "identityId" identityId rfl
    (by simp [Payload.get_cons,Payload.get_nil]) (Payloads.str_eq_ok hdid)
  exact ⟨a,ha,hblank,(ok_pure_iff.mp hplan).symm⟩

omit [Keccak H] [DecidableEq H] in
theorem plan_activateWallet {deviceId : String} {lookups : ChainLookups} {call : Call}
    (h : Payloads.buildCallPlan P.parseAddress P.dateParse .WALLET_ACTIVATE
      [("address",.string walletAddress),("deviceId",.string deviceId),
        ("identityId",.string identityId)] lookups = .ok call) :
    ∃ a,P.parseAddress (jsTrim walletAddress) = some a ∧ call = .activateWallet a := by
  obtain ⟨a,haddress,hplan⟩ := ok_bind_iff.mp h
  obtain ⟨v,hv,ha⟩ := Payloads.requiredAddress_eq_ok haddress
  obtain ⟨rfl,-⟩ := Payloads.optionalStr_only "address" walletAddress rfl
    (by simp [Payloads.walletKeys,Payload.get_cons,Payload.get_nil]) hv
  exact ⟨a,ha,(ok_pure_iff.mp hplan).symm⟩

omit [Keccak H] [DecidableEq H] in
/-- The wallet of the payload decides whose role is assigned. -/
theorem plan_assignRole_wallet {role : Role} {a : Address}
    (ha : P.parseAddress (jsTrim walletAddress) = some a) (hblank : jsTrim walletAddress ≠ "")
    {lookups : ChainLookups} {call : Call}
    (h : Payloads.buildCallPlan P.parseAddress P.dateParse .ROLE_ASSIGN
      [("walletAddress",.string walletAddress),("identityId",.string identityId),
        ("role",.string role.name)] lookups = .ok call) :
    call = .assignRole a role := by
  obtain ⟨found,hfound,hplan⟩ := ok_bind_iff.mp h
  rw [Payloads.optionalAddress,Payloads.walletKeys,Payloads.optionalStr_head rfl hblank] at hfound
  simp only [ha] at hfound
  obtain rfl := Except.ok.inj hfound
  obtain ⟨target,htarget,hrest⟩ := ok_bind_iff.mp hplan
  obtain rfl := ok_pure_iff.mp htarget
  obtain ⟨found,hrole,hcall⟩ := ok_bind_iff.mp hrest
  obtain rfl := roleIndex_name rfl hrole
  exact (ok_pure_iff.mp hcall).symm

omit [Keccak H] [DecidableEq H] in
theorem plan_assignRole {lookups : ChainLookups} {call : Call}
    (h : Payloads.buildCallPlan P.parseAddress P.dateParse .ROLE_ASSIGN p lookups = .ok call) :
    ∃ a role,call = .assignRole a role := by
  obtain ⟨found,-,hplan⟩ := ok_bind_iff.mp h
  cases found with
  | some wallet =>
    obtain ⟨a,-,hrest⟩ := ok_bind_iff.mp hplan
    obtain ⟨role,-,hcall⟩ := ok_bind_iff.mp hrest
    exact ⟨a,role,(ok_pure_iff.mp hcall).symm⟩
  | none =>
    obtain ⟨a,-,hrest⟩ := ok_bind_iff.mp hplan
    obtain ⟨role,-,hcall⟩ := ok_bind_iff.mp hrest
    exact ⟨a,role,(ok_pure_iff.mp hcall).symm⟩

omit [DecidableEq H] in
/-- Without a wallet in the payload, any wallet of the identity stands for it. -/
theorem plan_assignRole_identity {role : Role} (htrim : Trimmed identityId)
    (hnot : P.parseAddress identityId = none)
    (h : EvmAdapter.prepare P w ⟨.ROLE_ASSIGN,sender,
      [("identityId",.string identityId),("role",.string role.name)]⟩ d = .ok tx) :
    ∃ a,(EvmAdapter.lookups w).walletOfIdentity identityId false = some a ∧
      tx.call = .assignRole a role := by
  obtain ⟨found,hfound,hplan⟩ := ok_bind_iff.mp (EvmAdapter.prepare_call h)
  obtain rfl := Except.ok.inj hfound
  obtain ⟨target,htarget,hplan⟩ := ok_bind_iff.mp hplan
  obtain ⟨ref,href,htarget⟩ := ok_bind_iff.mp htarget
  obtain ⟨rfl,-⟩ := Payloads.optionalStr_only "identityId" identityId rfl (by simp)
    (Payloads.str_eq_ok href)
  obtain ⟨found,hrole,hplan⟩ := ok_bind_iff.mp hplan
  obtain rfl := roleIndex_name rfl hrole
  rw [show jsTrim identityId = identityId from htrim] at htarget
  simp only [hnot] at htarget
  split at htarget
  · rename_i a ha
    obtain rfl := ok_pure_iff.mp htarget
    exact ⟨a,ha,(ok_pure_iff.mp hplan).symm⟩
  · cases htarget

end Plans

section Stages
variable {P : Platform} {ctx : Context} {r : Repositories} {w w' : World H}
  {actor identity : Identity} {walletAddress : String} {stage : Stage} {result : Except ServiceError Unit}

structure UsersService.Stage.Fair (stage : Stage) : Prop where
  before : ∀ tx ∈ stage.before,tx.call.target ≠ some .roles
  delivery : stage.delivery.Fair

/-- The wallet that the text stands for is registered under the DID. -/
def Bound (P : Platform) (w : World H) (walletAddress : String) (did : Bytes) : Prop :=
  jsTrim walletAddress ≠ "" ∧ ∃ a,P.parseAddress (jsTrim walletAddress) = some a ∧
    (w.identity.wallets a).status ≠ .NONE ∧ IdentityRegistry.identityOf w.identity a = did

omit [Keccak H] [DecidableEq H] in
theorem Bound.kept {did : Bytes} (h : Bound P w walletAddress did) (hkept : KeepsWallets w w') :
    Bound P w' walletAddress did := by
  obtain ⟨hblank,a,ha,hregistered,hdid⟩ := h
  have hhere := hkept a hregistered
  exact ⟨hblank,a,ha,hhere.1,hhere.2.trans hdid⟩

omit [Keccak H] [DecidableEq H] in
private theorem getWallet_bound (hstrict : P.Strict) {did : Bytes} {status : WalletStatus}
    (h : getWallet P w walletAddress = some (did,status)) : Bound P w walletAddress did := by
  unfold getWallet at h
  split at h
  · cases h
  · rename_i a ha
    split at h
    · cases h
    · rename_i hregistered
      obtain ⟨htrim,hblank⟩ := hstrict walletAddress a ha
      have htext : jsTrim walletAddress = walletAddress := htrim
      unfold Bound
      rw [htext]
      exact ⟨hblank,a,ha,hregistered,(Prod.mk.inj (Option.some.inj h)).1⟩

private theorem submit_createIdentity (hinj : Function.Injective (keccak256 : Bytes → H))
    (hevm : ctx.evm = true) (hw : Reachable w) (htrim : Trimmed identity.identityId) {d : Delivery} (hd : d.Fair)
    (h : submit P ctx r w .IDENTITY_CREATE actor
      [("walletAddress",.string walletAddress),("identityId",.string identity.identityId)] d =
      (w',result)) :
    KeepsRoles w w' ∧ (result = .ok () → Bound P w' walletAddress (utf8 identity.identityId)) := by
  cases result with
  | error e => exact ⟨submit_fails hw hd h,fun hok => nomatch hok⟩
  | ok u =>
    obtain ⟨⟨env,call⟩,-,hprepare,hexec⟩ := submit_succeeds hevm h
    have hbefore := attemptAll_keepsRoles hw hd.foreign
    obtain ⟨a,ha,hblank,hcall⟩ := plan_createIdentity (EvmAdapter.prepare_call hprepare)
    rw [show jsTrim identity.identityId = identity.identityId from htrim] at hcall
    obtain rfl : call = .createIdentity a (utf8 identity.identityId) := hcall
    have hcreated := exec_createIdentity hinj hbefore.reachable hexec
    refine ⟨hbefore.trans (exec_keepsRoles hbefore.reachable hexec (by simp [Call.target])),?_⟩
    exact fun _ => ⟨hblank,a,ha,hcreated.1,hcreated.2⟩

theorem ensureIdentityCreated_spec (hinj : Function.Injective (keccak256 : Bytes → H))
    (hstrict : P.Strict) (hevm : ctx.evm = true) (hw : Reachable w)
    (htrim : Trimmed identity.identityId) (hstage : stage.Fair)
    (h : ensureIdentityCreated P ctx r w actor identity walletAddress stage = (w',result)) :
    KeepsRoles w w' ∧ (result = .ok () → Bound P w' walletAddress (utf8 identity.identityId)) := by
  have hbefore := attemptAll_keepsRoles hw hstage.before
  unfold ensureIdentityCreated at h
  dsimp only at h
  split at h
  · rename_i did status hwallet
    have hget : getWallet P (attemptAll exec w stage.before) walletAddress = some (did,status) := by
      rwa [if_pos hevm] at hwallet
    split at h
    · obtain ⟨rfl,rfl⟩ := Prod.mk.inj h
      exact ⟨hbefore,fun hok => nomatch hok⟩
    · rename_i hsame
      obtain ⟨rfl,rfl⟩ := Prod.mk.inj h
      refine ⟨hbefore,fun _ => ?_⟩
      rw [← not_not.mp hsame]
      exact getWallet_bound hstrict hget
  · obtain ⟨hkeeps,hbound⟩ :=
      submit_createIdentity hinj hevm hbefore.reachable htrim hstage.delivery h
    exact ⟨hbefore.trans hkeeps,hbound⟩

private theorem submit_assignRole (hinj : Function.Injective (keccak256 : Bytes → H))
    (hevm : ctx.evm = true) (hw : Reachable w) {role : Role} (hbound : Bound P w walletAddress (utf8 identity.identityId))
    {d : Delivery} (hd : d.Fair)
    (h : submit P ctx r w .ROLE_ASSIGN actor
      [("walletAddress",.string walletAddress),("identityId",.string identity.identityId),
        ("role",.string role.name)] d = (w',result)) :
    RoleChange (utf8 identity.identityId) w w' ∧ (result = .ok () →
      (RoleRegistry.rolesOfIdentity w (utf8 identity.identityId)).has role = false ∧
      RoleRegistry.rolesOfIdentity w' (utf8 identity.identityId) =
        RoleRegistry.rolesOfIdentity w (utf8 identity.identityId) ||| role.bit) := by
  cases result with
  | error e => exact ⟨(submit_fails hw hd h).change _,fun hok => nomatch hok⟩
  | ok u =>
    obtain ⟨⟨env,call⟩,-,hprepare,hexec⟩ := submit_succeeds hevm h
    have hbefore := attemptAll_keepsRoles hw hd.foreign
    obtain ⟨hblank,a,ha,hregistered,hdid⟩ := hbound.kept hbefore.wallets
    have hcall := plan_assignRole_wallet ha hblank (EvmAdapter.prepare_call hprepare)
    obtain rfl : call = .assignRole a role := hcall
    obtain ⟨hchange,hbit,hmask⟩ := exec_assignRole hinj hbefore.reachable hexec hregistered hdid
    refine ⟨(hbefore.change _).trans hchange,fun _ => ?_⟩
    rw [hbefore.mask] at hbit hmask
    exact ⟨hbit,hmask⟩

omit [DecidableEq H] in
private theorem onChainRole_has {role : Role}
    (h : onChainRole w identity.identityId = some role) :
    (RoleRegistry.rolesOfIdentity w (utf8 identity.identityId)).has role = true := by
  unfold onChainRole at h
  split at h
  · cases h
  · exact List.find?_some h

/-- After its stage the identity holds its role on chain, and no other one that it did not hold. -/
theorem ensureRoleAssigned_spec (hinj : Function.Injective (keccak256 : Bytes → H))
    (hevm : ctx.evm = true) (hw : Reachable w) {role : Role} (hrole : identity.role = some role)
    (hbound : Bound P w walletAddress (utf8 identity.identityId)) (hstage : stage.Fair)
    (h : ensureRoleAssigned P ctx r w actor identity walletAddress stage = (w',result)) :
    RoleChange (utf8 identity.identityId) w w' ∧ (result = .ok () →
      RoleRegistry.rolesOfIdentity w (utf8 identity.identityId) = 0 ∨
        RoleRegistry.rolesOfIdentity w (utf8 identity.identityId) = role.bit →
      RoleRegistry.rolesOfIdentity w' (utf8 identity.identityId) = role.bit) := by
  have hbefore := attemptAll_keepsRoles hw hstage.before
  unfold ensureRoleAssigned at h
  dsimp only at h
  generalize honChain : (if ctx.evm = true then
    onChainRole (attemptAll exec w stage.before) identity.identityId else none) = onChain at h
  by_cases hsame : onChain ≠ none ∧ onChain = identity.role
  · rw [if_pos hsame] at h
    obtain ⟨rfl,rfl⟩ := Prod.mk.inj h
    refine ⟨hbefore.change _,fun _ hmask => ?_⟩
    have hfound : onChainRole (attemptAll exec w stage.before) identity.identityId = some role := by
      rw [hrole] at hsame
      rw [if_pos hevm] at honChain
      exact honChain.trans hsame.2
    have hhas := onChainRole_has hfound
    rw [hbefore.mask] at hhas ⊢
    rcases hmask with hmask | hmask
    · rw [hmask,Mask.zero_has] at hhas
      cases hhas
    · exact hmask
  · rw [if_neg hsame,hrole] at h
    obtain ⟨hchange,hassigned⟩ := submit_assignRole hinj hevm hbefore.reachable
      (hbound.kept hbefore.wallets) hstage.delivery h
    refine ⟨(hbefore.change _).trans hchange,fun hok hmask => ?_⟩
    obtain ⟨hbit,hresult⟩ := hassigned hok
    rw [hbefore.mask] at hbit hresult
    rcases hmask with hmask | hmask
    · rw [hresult,hmask]
      simp
    · rw [hmask] at hbit
      simp at hbit

theorem ensureWalletActive_spec (hevm : ctx.evm = true) (hw : Reachable w) (hstage : stage.Fair)
    {deviceId identityId : String}
    (h : ensureWalletActive P ctx r w actor walletAddress deviceId identityId stage = (w',result)) :
    KeepsRoles w w' := by
  have hbefore := attemptAll_keepsRoles hw hstage.before
  unfold ensureWalletActive at h
  dsimp only at h
  split at h
  · obtain ⟨rfl,rfl⟩ := Prod.mk.inj h
    exact hbefore
  · obtain ⟨rfl,rfl⟩ := Prod.mk.inj h
    exact hbefore
  · cases result with
    | error e => exact hbefore.trans (submit_fails hbefore.reachable hstage.delivery h)
    | ok u =>
      obtain ⟨tx,-,hprepare,hexec⟩ := submit_succeeds hevm h
      have hduring := attemptAll_keepsRoles hbefore.reachable hstage.delivery.foreign
      obtain ⟨a,-,hcall⟩ := plan_activateWallet (EvmAdapter.prepare_call hprepare)
      exact hbefore.trans (hduring.trans
        (exec_keepsRoles hduring.reachable hexec (by simp [hcall,Call.target])))

/-- An activation changes no roles but those of its identity. When it succeeds, an identity that held
no role or its own holds exactly its own. -/
theorem activateOnChain_spec (hinj : Function.Injective (keccak256 : Bytes → H)) (hstrict : P.Strict)
    (hevm : ctx.evm = true) (hw : Reachable w) {g : Registration} (htrim : Trimmed g.identity.identityId) {role : Role}
    (hrole : g.identity.role = some role) {created roleAssigned walletActivated : Stage}
    (hcreated : created.Fair) (hassigned : roleAssigned.Fair) (hactivated : walletActivated.Fair)
    (h : activateOnChain P ctx r w actor g created roleAssigned walletActivated = (w',result)) :
    RoleChange (utf8 g.identity.identityId) w w' ∧ (result = .ok () →
      RoleRegistry.rolesOfIdentity w (utf8 g.identity.identityId) = 0 ∨
        RoleRegistry.rolesOfIdentity w (utf8 g.identity.identityId) = role.bit →
      RoleRegistry.rolesOfIdentity w' (utf8 g.identity.identityId) = role.bit) := by
  unfold activateOnChain at h
  split at h
  · rename_i w₁ e hfirst
    obtain ⟨rfl,rfl⟩ := Prod.mk.inj h
    have hkeeps := (ensureIdentityCreated_spec hinj hstrict hevm hw htrim hcreated hfirst).1
    exact ⟨hkeeps.change _,fun hok => nomatch hok⟩
  · rename_i w₁ hfirst
    obtain ⟨hkeeps,hbound⟩ := ensureIdentityCreated_spec hinj hstrict hevm hw htrim hcreated hfirst
    replace hbound := hbound rfl
    split at h
    · rename_i w₂ e hsecond
      obtain ⟨rfl,rfl⟩ := Prod.mk.inj h
      have hchange :=
        (ensureRoleAssigned_spec hinj hevm hkeeps.reachable hrole hbound hassigned hsecond).1
      exact ⟨(hkeeps.change _).trans hchange,fun hok => nomatch hok⟩
    · rename_i w₂ hsecond
      obtain ⟨hchange,hmask⟩ :=
        ensureRoleAssigned_spec hinj hevm hkeeps.reachable hrole hbound hassigned hsecond
      have hlast := ensureWalletActive_spec hevm hchange.reachable hactivated h
      refine ⟨((hkeeps.change _).trans hchange).trans (hlast.change _),fun _ hbefore => ?_⟩
      rw [hlast.mask]
      apply hmask rfl
      rw [hkeeps.mask]
      exact hbefore

end Stages

section Lookups
variable {r : Repositories} {ctx : Context} {actorId userId : String}

theorem resolveIdentity_mem {id : String} {row : Identity}
    (h : r.resolveIdentity id = some row) : row ∈ r.identities.rows := by
  unfold Repositories.resolveIdentity at h
  cases hfind : r.identities.find id with
  | some found =>
    simp only [hfind,Option.orElse_some,Option.some.injEq] at h
    exact h ▸ Table.mem_of_find hfind
  | none =>
    simp only [hfind,Option.orElse_none] at h
    exact List.mem_of_find?_eq_some h

theorem requireIdentity_eq_ok {found : Option Identity} {row : Identity}
    (h : requireIdentity found = .ok row) : found = some row := by
  unfold requireIdentity at h
  split at h
  · cases h
  · rw [Except.ok.inj h]

theorem assignRoleCheck_target {role : String} {actor target : Identity} {found : Role}
    (h : assignRoleCheck r actorId userId role = .ok (actor,target,found)) :
    target ∈ r.identities.rows := by
  unfold assignRoleCheck at h
  split at h
  · cases h
  · obtain ⟨actor',-,h⟩ := ok_bind_iff.mp h
    obtain ⟨u,-,h⟩ := ok_bind_iff.mp h
    obtain ⟨target',htarget,h⟩ := ok_bind_iff.mp h
    obtain ⟨v,-,h⟩ := ok_bind_iff.mp h
    obtain ⟨-,rfl,-⟩ : actor' = actor ∧ target' = target ∧ _ := by simpa using ok_pure_iff.mp h
    exact resolveIdentity_mem (requireIdentity_eq_ok htarget)

theorem activateCheck_registration {actor : Identity} {g : Registration}
    (h : activateCheck ctx r actorId userId = .ok (actor,g)) :
    g.identity ∈ r.identities.rows ∧ g.identity.status = .PENDING ∧
      ∃ role,g.identity.role = some role := by
  obtain ⟨actor',-,h⟩ := ok_bind_iff.mp h
  obtain ⟨u,-,h⟩ := ok_bind_iff.mp h
  obtain ⟨identity,hidentity,h⟩ := ok_bind_iff.mp h
  rw [revertIf_bind_eq_ok] at h
  obtain ⟨hready,h⟩ := h
  split at h
  · simp only [revertIf_bind_eq_ok,ok_pure_iff] at h
    obtain ⟨-,-,h⟩ := h
    obtain ⟨-,rfl⟩ := Prod.mk.inj h
    refine ⟨resolveIdentity_mem (requireIdentity_eq_ok hidentity),?_,?_⟩
    · by_contra hpending
      exact hready (.inl hpending)
    · rw [← Option.ne_none_iff_exists']
      exact fun hnone => hready (.inr (.inr (.inr hnone)))
  · cases h

end Lookups

end BelLedger
