import BelLedger.ChainViews
import BelLedger.ResumableSteps
import BelLedger.AccountsService

/-!
# The submissions of UsersServiceImpl on the view of the chain

A submission about a wallet sends a call that is determined by the payload and the wallet of the
actor. Nothing else decides about its success than the view and the fate of the transaction.
-/
namespace BelLedger
open CheckedCalls TransitionRuns ResumableSteps UsersService

variable {H : Type} [Keccak H] [DecidableEq H]

/-- A chain on which nothing can be looked up. -/
def noLookups : ChainLookups := ⟨fun _ => 0,fun _ _ => none⟩

/-- The call of a payload that needs no lookup. -/
def plannedCall (P : Platform) (type : TransactionType) (payload : Payload) :
    Except BlockchainError Call :=
  Payloads.buildCallPlan P.parseAddress P.dateParse type payload noLookups

/-- Who sends which call. -/
def planned (P : Platform) (r : Repositories) (type : TransactionType) (actor : Identity)
    (payload : Payload) : Option (Address × Call) :=
  match (r.actorWallet actor).bind P.parseAddress,plannedCall P type payload with
  | some sender,.ok call => some (sender,call)
  | _,_ => none

/-- The payload names its wallet, so that the plan needs no lookup, and the call is about wallets. -/
structure SelfContained (P : Platform) (type : TransactionType) (payload : Payload) : Prop where
  plan : ∀ lookups,Payloads.buildCallPlan P.parseAddress P.dateParse type payload lookups =
    plannedCall P type payload
  lifecycle : ∀ call,plannedCall P type payload = .ok call → call.Lifecycle

theorem Call.Lifecycle.encodable {call : Call} (h : call.Lifecycle) :
    EvmAdapter.encodable call = true := by
  cases call with
  | setTransferGrant => exact h.elim
  | _ => rfl

section Plans
variable {P : Platform} {address deviceId identityId reason : String}

/-- Only `walletAddress` is set, or only `address`. -/
theorem createIdentity_selfContained : SelfContained P .IDENTITY_CREATE
    [("walletAddress",.string address),("identityId",.string identityId)] := by
  refine ⟨fun _ => rfl,fun call h => ?_⟩
  obtain ⟨a,-,h⟩ := ok_bind_iff.mp h
  obtain ⟨did,-,h⟩ := ok_bind_iff.mp h
  obtain rfl := ok_pure_iff.mp h
  trivial

theorem activateWallet_selfContained : SelfContained P .WALLET_ACTIVATE
    [("address",.string address),("deviceId",.string deviceId),("identityId",.string identityId)] := by
  refine ⟨fun _ => rfl,fun call h => ?_⟩
  obtain ⟨a,-,h⟩ := ok_bind_iff.mp h
  obtain rfl := ok_pure_iff.mp h
  trivial

theorem revokeWallet_selfContained :
    SelfContained P .WALLET_REVOKE (revokePayload address reason) := by
  refine ⟨fun _ => rfl,fun call h => ?_⟩
  obtain ⟨a,-,h⟩ := ok_bind_iff.mp h
  obtain ⟨text,-,h⟩ := ok_bind_iff.mp h
  obtain rfl := ok_pure_iff.mp h
  trivial

theorem plan_revokeWallet {lookups : ChainLookups} {call : Call}
    (h : Payloads.buildCallPlan P.parseAddress P.dateParse .WALLET_REVOKE
      (revokePayload address reason) lookups = .ok call) :
    ∃ a,P.parseAddress (jsTrim address) = some a ∧ call = .revokeWallet a (utf8 (jsTrim reason)) := by
  obtain ⟨a,haddress,h⟩ := ok_bind_iff.mp h
  obtain ⟨text,htext,h⟩ := ok_bind_iff.mp h
  obtain ⟨v,hv,ha⟩ := Payloads.requiredAddress_eq_ok haddress
  obtain ⟨rfl,-⟩ := Payloads.optionalStr_only "address" address rfl
    (by simp [revokePayload,Payloads.walletKeys,Payload.get_cons,Payload.get_nil]) hv
  obtain ⟨rfl,-⟩ := Payloads.optionalStr_only "reason" reason rfl (by simp) (Payloads.str_eq_ok htext)
  exact ⟨a,ha,(ok_pure_iff.mp h).symm⟩

theorem plannedCall_revokeWallet {a : Address} (ha : P.parseAddress (jsTrim address) = some a)
    (hblank : jsTrim address ≠ "") (hreason : jsTrim reason ≠ "") :
    plannedCall P .WALLET_REVOKE (revokePayload address reason) =
      .ok (.revokeWallet a (utf8 (jsTrim reason))) := by
  have haddress : Payloads.optionalStr (revokePayload address reason) Payloads.walletKeys =
      some (jsTrim address) := by
    unfold Payloads.optionalStr Payloads.walletKeys
    rw [List.findSome?_cons_of_isNone rfl]
    exact Payloads.optionalStr_head rfl hblank
  have htext : Payloads.optionalStr (revokePayload address reason) ["reason"] =
      some (jsTrim reason) := Payloads.optionalStr_head rfl hreason
  simp [plannedCall,Payloads.buildCallPlan,Payloads.requiredAddress,Payloads.optionalAddress,haddress,
    ha,Payloads.str,htext]
  rfl

/-- A role is assigned by wallet. -/
theorem assignRole_selfContained {a : Address} (ha : P.parseAddress (jsTrim address) = some a)
    (hblank : jsTrim address ≠ "") (role : Value) : SelfContained P .ROLE_ASSIGN
      [("walletAddress",.string address),("identityId",.string identityId),("role",role)] := by
  have haddress : ∀ lookups : ChainLookups,Payloads.buildCallPlan P.parseAddress P.dateParse .ROLE_ASSIGN
      [("walletAddress",.string address),("identityId",.string identityId),("role",role)] lookups =
      Payloads.roleIndex .ROLE_ASSIGN
        [("walletAddress",.string address),("identityId",.string identityId),("role",role)] >>=
          fun role => pure (.assignRole a role) := by
    intro lookups
    unfold Payloads.buildCallPlan
    dsimp only
    rw [Payloads.optionalAddress,Payloads.walletKeys,Payloads.optionalStr_head rfl hblank]
    simp only [ha]
    rfl
  refine ⟨fun lookups => (haddress lookups).trans (haddress noLookups).symm,fun call h => ?_⟩
  rw [plannedCall,haddress] at h
  obtain ⟨found,-,h⟩ := ok_bind_iff.mp h
  obtain rfl := ok_pure_iff.mp h
  trivial

end Plans

section Submit
variable {P : Platform} {ctx : Context} {r : Repositories} {w w' : World H}
  {type : TransactionType} {actor : Identity} {payload : Payload} {d : Delivery}
  {result : Except ServiceError Unit}

/-- The outcome of a submission whose transaction has this fate. -/
def Fate.outcome : Fate → Outcome
  | .mined => .confirmed
  | .dropped _ => .refused
  | .lost _ => .unreported

/-- The effect of a submission on the view. -/
def plannedEffect (H : Type) [Keccak H] [DecidableEq H] (P : Platform) (r : Repositories)
    (type : TransactionType) (actor : Identity) (payload : Payload) (v : ChainView) :
    Option ChainView :=
  (planned P r type actor payload).bind (fun sent => v.exec H sent.1 sent.2)

omit [Keccak H] [DecidableEq H] in
theorem planned_eq_some {sender : Address} {call : Call} :
    planned P r type actor payload = some (sender,call) ↔
      (∃ wallet,r.actorWallet actor = some wallet ∧ P.parseAddress wallet = some sender) ∧
        plannedCall P type payload = .ok call := by
  unfold planned
  constructor
  · intro h
    split at h
    · rename_i a c hsender hcall
      obtain ⟨rfl,rfl⟩ := Prod.mk.inj (Option.some.inj h)
      exact ⟨Option.bind_eq_some_iff.mp hsender,hcall⟩
    · cases h
  · rintro ⟨⟨wallet,hwallet,hsender⟩,hcall⟩
    rw [hwallet,Option.bind_some,hsender,hcall]

omit [DecidableEq H] in
private theorem prepare_of_planned (hself : SelfContained P type payload) {sender : Address}
    {call : Call} (h : planned P r type actor payload = some (sender,call)) :
    EvmAdapter.prepare P w (envelope r type actor payload) d =
      .ok ⟨⟨sender,d.timestamp,d.number,d.chainid⟩,call⟩ := by
  obtain ⟨⟨wallet,hwallet,hsender⟩,hcall⟩ := planned_eq_some.mp h
  refine EvmAdapter.prepare_eq_ok ?_ ?_ (hself.lifecycle call hcall).encodable d
  · simp only [envelope,hwallet,Option.getD_some]
    exact hsender
  · exact (hself.plan _).trans hcall

omit [DecidableEq H] in
private theorem planned_of_prepare (hself : SelfContained P type payload) {wallet : String}
    (hwallet : r.actorWallet actor = some wallet) {tx : Tx}
    (h : EvmAdapter.prepare P w (envelope r type actor payload) d = .ok tx) :
    planned P r type actor payload = some (tx.env.sender,tx.call) := by
  have hcall := EvmAdapter.prepare_call h
  obtain ⟨sender,hsender,h⟩ := ok_bind_iff.mp h
  obtain ⟨call,-,h⟩ := ok_bind_iff.mp h
  obtain rfl := ok_pure_iff.mp h
  refine planned_eq_some.mpr ⟨⟨wallet,hwallet,?_⟩,(hself.plan _).symm.trans hcall⟩
  unfold EvmAdapter.actorWallet at hsender
  simp only [envelope,hwallet,Option.getD_some] at hsender
  split at hsender
  · rename_i a ha
    rw [ha,Except.ok.inj hsender]
  · cases hsender

/-- A submission is performed on the chain as it is after the transactions of others, unless nothing
can be sent. -/
theorem submit_view (hinj : Function.Injective (keccak256 : Bytes → H)) (hevm : ctx.evm = true)
    (hw : Reachable w) (hself : SelfContained P type payload)
    (h : submit P ctx r w type actor payload d = (w',result)) :
    Reachable w' ∧ ((planned P r type actor payload = none ∧ w' = w ∧ result.isOk = false) ∨
      (w'.view,result.isOk) = perform d.fate.outcome
        (plannedEffect H P r type actor payload (attemptAll exec w d.interference).view)
        (attemptAll exec w d.interference).view) := by
  unfold submit at h
  rw [if_neg (by rw [hevm]; decide)] at h
  cases hwallet : r.actorWallet actor with
  | none =>
    rw [if_pos hwallet] at h
    obtain ⟨rfl,rfl⟩ := Prod.mk.inj h
    refine ⟨hw,.inl ⟨?_,rfl,rfl⟩⟩
    unfold planned
    rw [hwallet]
    rfl
  | some wallet =>
    rw [if_neg (by rw [hwallet]; nofun)] at h
    cases hplanned : planned P r type actor payload with
    | none =>
      cases hprepare : EvmAdapter.prepare P w (envelope r type actor payload) d with
      | ok tx => cases hplanned.symm.trans (planned_of_prepare hself hwallet hprepare)
      | error e =>
        simp only [EvmAdapter.submitTransaction,hprepare] at h
        obtain ⟨rfl,rfl⟩ := Prod.mk.inj h
        exact ⟨hw,.inl ⟨rfl,rfl,rfl⟩⟩
    | some sent =>
      obtain ⟨sender,call⟩ := sent
      have hbefore := hw.attemptAll d.interference
      have hlifecycle := hself.lifecycle call (planned_eq_some.mp hplanned).2
      have hrefines := exec_refines_view hinj hbefore
        ⟨⟨sender,d.timestamp,d.number,d.chainid⟩,call⟩ hlifecycle
      simp only [EvmAdapter.submitTransaction,prepare_of_planned hself hplanned] at h
      simp only [plannedEffect,hplanned,Option.bind_some,← hrefines]
      cases hfate : d.fate with
      | dropped report =>
        rw [hfate] at h
        cases report with
        | error e =>
          obtain ⟨rfl,rfl⟩ := Prod.mk.inj h
          exact ⟨hbefore,.inr rfl⟩
        | ok revert =>
          obtain ⟨rfl,rfl⟩ := Prod.mk.inj h
          exact ⟨hbefore,.inr rfl⟩
      | mined =>
        rw [hfate] at h
        cases hexec : exec (attemptAll exec w d.interference)
            ⟨⟨sender,d.timestamp,d.number,d.chainid⟩,call⟩ with
        | ok w'' =>
          simp only [hexec] at h
          obtain ⟨rfl,rfl⟩ := Prod.mk.inj h
          exact ⟨hbefore.step hexec,.inr rfl⟩
        | error revert =>
          simp only [hexec] at h
          obtain ⟨rfl,rfl⟩ := Prod.mk.inj h
          exact ⟨hbefore,.inr rfl⟩
      | lost e =>
        rw [hfate] at h
        obtain ⟨rfl,rfl⟩ := Prod.mk.inj h
        refine ⟨hbefore.attempt _,.inr ?_⟩
        unfold TransitionRuns.attempt
        cases hexec : exec (attemptAll exec w d.interference)
            ⟨⟨sender,d.timestamp,d.number,d.chainid⟩,call⟩ with
        | ok w'' => rfl
        | error revert => rfl

end Submit

section Settled
variable {P : Platform} {ctx : Context} {r : Repositories} {w w' : World H}
  {type : TransactionType} {actor identity : Identity} {payload : Payload} {d : Delivery}
  {address : String} {a : Address} {stage : Stage} {result : Except ServiceError Unit}

/-- Nobody else changes wallets during the submission, and its outcome is reported. -/
structure Delivery.Settled (d : Delivery) : Prop where
  foreign : ∀ tx ∈ d.interference,tx.call.target ≠ some .identity
  reported : ¬d.fate.Lost

structure UsersService.Stage.Settled (stage : Stage) : Prop where
  before : ∀ tx ∈ stage.before,tx.call.target ≠ some .identity
  delivery : stage.delivery.Settled

theorem attempt_wallets (hw : Reachable w) {tx : Tx} (htx : tx.call.target ≠ some .identity) :
    (TransitionRuns.attempt exec w tx).view.wallets = w.view.wallets := by
  unfold TransitionRuns.attempt
  cases hs : exec w tx with
  | ok w' =>
    dsimp only
    unfold World.view
    rw [(exec_frame hw.deployed hs).identity htx]
  | error e => rfl

theorem attemptAll_wallets (hw : Reachable w) {txs : List Tx}
    (htxs : ∀ tx ∈ txs,tx.call.target ≠ some .identity) :
    (attemptAll exec w txs).view.wallets = w.view.wallets :=
  hw.attemptAll_related (R := fun u v => v.view.wallets = u.view.wallets) (fun _ _ => rfl)
    (fun _ _ _ h h' => Eq.trans h' h) (fun tx htx _ hu => attempt_wallets hu (htxs tx htx))

omit [Keccak H] [DecidableEq H] in
theorem Fate.outcome_eq_unreported {fate : Fate} (h : fate.outcome = .unreported) : fate.Lost := by
  cases fate with
  | lost e => trivial
  | mined => cases h
  | dropped report => cases h

/-- A settled submission that fails changes no wallet; one that succeeds has been executed. -/
theorem submit_settled (hinj : Function.Injective (keccak256 : Bytes → H)) (hevm : ctx.evm = true)
    (hw : Reachable w) (hself : SelfContained P type payload) (hd : d.Settled)
    (h : submit P ctx r w type actor payload d = (w',result)) :
    Reachable w' ∧ (result.isOk = false → w'.view.wallets = w.view.wallets) ∧
      (result = .ok () → ∃ (v : ChainView) (sender : Address) (call : Call),
        plannedCall P type payload = .ok call ∧ v.wallets = w.view.wallets ∧
          v.exec H sender call = some w'.view) := by
  obtain ⟨hreach,hcases⟩ := submit_view hinj hevm hw hself h
  have hbefore := attemptAll_wallets hw hd.foreign
  refine ⟨hreach,?_,?_⟩
  · intro hfailed
    rcases hcases with ⟨-,rfl,-⟩ | hperform
    · rfl
    · rw [hfailed] at hperform
      rcases perform_eq_false hperform.symm with hsame | ⟨hlost,-⟩
      · rw [hsame,hbefore]
      · exact absurd (Fate.outcome_eq_unreported hlost) hd.reported
  · rintro rfl
    rcases hcases with ⟨-,-,hfailed⟩ | hperform
    · cases hfailed
    · obtain ⟨-,heffect⟩ := perform_eq_true.mp hperform.symm
      obtain ⟨⟨sender,call⟩,hplanned,hexec⟩ := Option.bind_eq_some_iff.mp heffect
      exact ⟨_,sender,call,(planned_eq_some.mp hplanned).2,hbefore,hexec⟩

/-- A text that is an address reaches the contracts as it is. -/
theorem parseAddress_trim (hstrict : P.Strict) (ha : P.parseAddress address = some a) :
    P.parseAddress (jsTrim address) = some a ∧ jsTrim address ≠ "" := by
  obtain ⟨htrim,hblank⟩ := hstrict address a ha
  rw [show jsTrim address = address from htrim]
  exact ⟨ha,hblank⟩

theorem submit_revokeWallet_settled (hinj : Function.Injective (keccak256 : Bytes → H))
    (hstrict : P.Strict) (hevm : ctx.evm = true) (hw : Reachable w)
    (ha : P.parseAddress address = some a) {reason : String} (hd : d.Settled)
    (h : submit P ctx r w .WALLET_REVOKE actor (revokePayload address reason) d = (w',result)) :
    Reachable w' ∧ (result.isOk = false → w'.view.wallets = w.view.wallets) ∧
      (result = .ok () → ∃ did status,w.view.wallets a = some (did,status) ∧ status ≠ .REVOKED ∧
        w'.view.wallets = Function.update w.view.wallets a (some (did,.REVOKED))) := by
  obtain ⟨hreach,hfailed,hdone⟩ := submit_settled hinj hevm hw revokeWallet_selfContained hd h
  refine ⟨hreach,hfailed,fun hok => ?_⟩
  obtain ⟨v,sender,call,hcall,hwallets,hexec⟩ := hdone hok
  obtain ⟨b,hb,rfl⟩ := plan_revokeWallet hcall
  obtain rfl := Option.some.inj ((parseAddress_trim hstrict ha).1.symm.trans hb)
  obtain ⟨did,status,hwallet,hstatus,hview⟩ := ChainView.exec_revokeWallet_eq_some hexec
  rw [hview,← hwallets]
  exact ⟨did,status,hwallet,hstatus,rfl⟩

/-- After the stage the wallet is registered under the DID; only a new wallet is touched. -/
theorem ensureIdentityCreated_settled (hinj : Function.Injective (keccak256 : Bytes → H))
    (hstrict : P.Strict) (hevm : ctx.evm = true) (hw : Reachable w)
    (ha : P.parseAddress address = some a) (hstage : stage.Settled)
    (h : ensureIdentityCreated P ctx r w actor identity address stage = (w',result)) :
    Reachable w' ∧ (result.isOk = false → w'.view.wallets = w.view.wallets) ∧
      (result = .ok () → (w'.view.wallets = w.view.wallets ∧
          ∃ status,w.view.wallets a = some (utf8 identity.identityId,status)) ∨
        (w.view.wallets a = none ∧ w'.view.wallets =
          Function.update w.view.wallets a (some (utf8 (jsTrim identity.identityId),.PENDING)))) := by
  have hreach := hw.attemptAll stage.before
  have hbefore := attemptAll_wallets hw hstage.before
  unfold ensureIdentityCreated at h
  simp only [hevm,if_true,getWallet_eq_view,ha,Option.bind_some,hbefore] at h
  split at h
  · rename_i did status hwallet
    split at h
    · obtain ⟨rfl,rfl⟩ := Prod.mk.inj h
      exact ⟨hreach,fun _ => hbefore,nofun⟩
    · rename_i hsame
      obtain ⟨rfl,rfl⟩ := Prod.mk.inj h
      refine ⟨hreach,nofun,fun _ => .inl ⟨hbefore,status,?_⟩⟩
      rw [hwallet,not_not.mp hsame]
  · rename_i hnone
    obtain ⟨hreach',hfailed,hdone⟩ := submit_settled hinj hevm hreach createIdentity_selfContained
      hstage.delivery h
    rw [hbefore] at hfailed
    refine ⟨hreach',hfailed,fun hok => .inr ⟨hnone,?_⟩⟩
    obtain ⟨v,sender,call,hcall,hwallets,hexec⟩ := hdone hok
    obtain ⟨b,hb,-,rfl⟩ := plan_createIdentity hcall
    obtain rfl := Option.some.inj ((parseAddress_trim hstrict ha).1.symm.trans hb)
    rw [(ChainView.exec_createIdentity_eq_some hexec).2,← hbefore,← hwallets]
    rfl

/-- Assigning a role changes no wallet. -/
theorem submit_roleAssign_settled (hw : Reachable w) (hevm : ctx.evm = true) (hd : d.Settled)
    (h : submit P ctx r w .ROLE_ASSIGN actor payload d = (w',result)) :
    Reachable w' ∧ w'.view.wallets = w.view.wallets := by
  have hbefore := attemptAll_wallets hw hd.foreign
  cases result with
  | error e =>
    rcases submit_failure h with (rfl | rfl) | hlost
    · exact ⟨hw,rfl⟩
    · exact ⟨hw.attemptAll _,hbefore⟩
    · exact absurd hlost hd.reported
  | ok u =>
    obtain ⟨tx,-,hprepare,hexec⟩ := submit_succeeds hevm h
    obtain ⟨b,role,hcall⟩ := plan_assignRole (EvmAdapter.prepare_call hprepare)
    have hreach := hw.attemptAll d.interference
    have hforeign : tx.call.target ≠ some .identity := by simp [hcall,Call.target]
    have hafter := attempt_wallets hreach hforeign
    unfold TransitionRuns.attempt at hafter
    rw [hexec] at hafter
    exact ⟨hreach.step hexec,hafter.trans hbefore⟩

/-- After the stage the wallet is ACTIVE; only a PENDING wallet is touched. -/
theorem ensureWalletActive_settled (hinj : Function.Injective (keccak256 : Bytes → H))
    (hstrict : P.Strict) (hevm : ctx.evm = true) (hw : Reachable w)
    (ha : P.parseAddress address = some a) {deviceId identityId : String} (hstage : stage.Settled)
    (h : ensureWalletActive P ctx r w actor address deviceId identityId stage = (w',result)) :
    Reachable w' ∧ (result.isOk = false → w'.view.wallets = w.view.wallets) ∧
      (result = .ok () → ∃ did status,w.view.wallets a = some (did,status) ∧ status ≠ .REVOKED ∧
        w'.view.wallets = Function.update w.view.wallets a (some (did,.ACTIVE))) := by
  have hreach := hw.attemptAll stage.before
  have hbefore := attemptAll_wallets hw hstage.before
  unfold ensureWalletActive at h
  simp only [hevm,if_true,getWallet_eq_view,ha,Option.bind_some,hbefore] at h
  split at h
  · rename_i did hwallet
    obtain ⟨rfl,rfl⟩ := Prod.mk.inj h
    refine ⟨hreach,nofun,fun _ => ⟨did,.ACTIVE,hwallet,by decide,?_⟩⟩
    rw [hbefore,← hwallet,Function.update_eq_self]
  · obtain ⟨rfl,rfl⟩ := Prod.mk.inj h
    exact ⟨hreach,fun _ => hbefore,nofun⟩
  · obtain ⟨hreach',hfailed,hdone⟩ := submit_settled hinj hevm hreach activateWallet_selfContained
      hstage.delivery h
    rw [hbefore] at hfailed
    refine ⟨hreach',hfailed,fun hok => ?_⟩
    obtain ⟨v,sender,call,hcall,hwallets,hexec⟩ := hdone hok
    obtain ⟨b,hb,rfl⟩ := plan_activateWallet hcall
    obtain rfl := Option.some.inj ((parseAddress_trim hstrict ha).1.symm.trans hb)
    obtain ⟨did,hwallet,hview⟩ := ChainView.exec_activateWallet_eq_some hexec
    rw [hview,← hbefore,← hwallets]
    exact ⟨did,.PENDING,hwallet,by decide,rfl⟩

theorem ensureRoleAssigned_settled (hevm : ctx.evm = true) (hw : Reachable w)
    (hstage : stage.Settled)
    (h : ensureRoleAssigned P ctx r w actor identity address stage = (w',result)) :
    Reachable w' ∧ w'.view.wallets = w.view.wallets := by
  have hreach := hw.attemptAll stage.before
  have hbefore := attemptAll_wallets hw hstage.before
  unfold ensureRoleAssigned at h
  simp only [hevm,if_true] at h
  split at h
  · obtain ⟨rfl,rfl⟩ := Prod.mk.inj h
    exact ⟨hreach,hbefore⟩
  · obtain ⟨hreach',hsame⟩ := submit_roleAssign_settled hreach hevm hstage.delivery h
    exact ⟨hreach',hsame.trans hbefore⟩

theorem ensureWalletRevoked_settled (hinj : Function.Injective (keccak256 : Bytes → H))
    (hstrict : P.Strict) (hevm : ctx.evm = true) (hw : Reachable w)
    (ha : P.parseAddress address = some a) {reason : String} (hstage : stage.Settled)
    (h : ensureWalletRevoked P ctx r w actor address reason stage = (w',result)) :
    Reachable w' ∧ (result.isOk = false → w'.view.wallets = w.view.wallets) ∧
      (result = .ok () → ∃ did status,w.view.wallets a = some (did,status) ∧
        w'.view.wallets = Function.update w.view.wallets a (some (did,.REVOKED))) := by
  have hreach := hw.attemptAll stage.before
  have hbefore := attemptAll_wallets hw hstage.before
  unfold ensureWalletRevoked at h
  simp only [hevm,if_true,getWallet_eq_view,ha,Option.bind_some,hbefore] at h
  split at h
  · rename_i did hwallet
    obtain ⟨rfl,rfl⟩ := Prod.mk.inj h
    refine ⟨hreach,nofun,fun _ => ⟨did,.REVOKED,hwallet,?_⟩⟩
    rw [hbefore,← hwallet,Function.update_eq_self]
  · obtain ⟨hreach',hfailed,hdone⟩ := submit_revokeWallet_settled hinj hstrict hevm hreach ha
      hstage.delivery h
    rw [hbefore] at hfailed hdone
    refine ⟨hreach',hfailed,fun hok => ?_⟩
    obtain ⟨did,status,hwallet,-,hwallets⟩ := hdone hok
    exact ⟨did,status,hwallet,hwallets⟩

/-- A wallet is registered under a DID and activated, with other stages in between. A failure leaves
at most the registration behind. -/
structure Enrolled (w w' : World H) (a : Address) (did : Bytes) (result : Except ServiceError Unit) :
    Prop where
  reachable : Reachable w'
  failed : result.isOk = false → w'.view.wallets = w.view.wallets ∨
    (w.view.wallets a = none ∧
      w'.view.wallets = Function.update w.view.wallets a (some (did,.PENDING)))
  done : result = .ok () → w'.view.wallets = Function.update w.view.wallets a (some (did,.ACTIVE)) ∧
    ∀ found status,w.view.wallets a = some (found,status) → found = did ∧ status ≠ .REVOKED

private theorem Enrolled.of_stages (hinj : Function.Injective (keccak256 : Bytes → H))
    (hstrict : P.Strict) (hevm : ctx.evm = true) {w₁ w₂ : World H} {did : Bytes}
    (ha : P.parseAddress address = some a)
    (hcreated : (w₁.view.wallets = w.view.wallets ∧ ∃ status,w.view.wallets a = some (did,status)) ∨
      (w.view.wallets a = none ∧
        w₁.view.wallets = Function.update w.view.wallets a (some (did,.PENDING))))
    (hw₂ : Reachable w₂) (hbetween : w₂.view.wallets = w₁.view.wallets)
    {deviceId identityId : String} (hstage : stage.Settled)
    (h : ensureWalletActive P ctx r w₂ actor address deviceId identityId stage = (w',result)) :
    Enrolled w w' a did result := by
  obtain ⟨hreach,hfailed,hdone⟩ :=
    ensureWalletActive_settled hinj hstrict hevm hw₂ ha hstage h
  rw [hbetween] at hfailed hdone
  refine ⟨hreach,fun hfail => ?_,fun hok => ?_⟩
  · rw [hfailed hfail]
    rcases hcreated with ⟨hsame,-⟩ | hnew
    · exact .inl hsame
    · exact .inr hnew
  · obtain ⟨found,status,hwallet,hstatus,hwallets⟩ := hdone hok
    rcases hcreated with ⟨hsame,known,hknown⟩ | ⟨hnone,hnew⟩
    · rw [hsame] at hwallet hwallets
      obtain ⟨rfl,rfl⟩ := Prod.mk.inj (Option.some.inj (hknown.symm.trans hwallet))
      refine ⟨hwallets,fun found' status' hfound => ?_⟩
      obtain ⟨rfl,rfl⟩ := Prod.mk.inj (Option.some.inj (hknown.symm.trans hfound))
      exact ⟨rfl,hstatus⟩
    · rw [hnew,Function.update_self] at hwallet
      obtain ⟨rfl,rfl⟩ := Prod.mk.inj (Option.some.inj hwallet)
      rw [hnew,Function.update_idem] at hwallets
      refine ⟨hwallets,fun found' status' hfound => ?_⟩
      rw [hnone] at hfound
      cases hfound

theorem registerReplacement_enrolled (hinj : Function.Injective (keccak256 : Bytes → H))
    (hstrict : P.Strict) (hevm : ctx.evm = true) (hw : Reachable w)
    (htrim : Trimmed identity.identityId) {wallet : Wallet}
    (ha : P.parseAddress wallet.address = some a) {created activated : Stage}
    (hcreated : created.Settled) (hactivated : activated.Settled)
    (h : registerReplacement P ctx r w actor identity wallet created activated = (w',result)) :
    Enrolled w w' a (utf8 identity.identityId) result := by
  unfold registerReplacement at h
  split at h
  · rename_i w₁ e hfirst
    obtain ⟨rfl,rfl⟩ := Prod.mk.inj h
    obtain ⟨hreach,hfailed,-⟩ :=
      ensureIdentityCreated_settled hinj hstrict hevm hw ha hcreated hfirst
    exact ⟨hreach,fun hfail => .inl (hfailed hfail),nofun⟩
  · rename_i w₁ hfirst
    obtain ⟨hreach,-,hdone⟩ :=
      ensureIdentityCreated_settled hinj hstrict hevm hw ha hcreated hfirst
    rw [show jsTrim identity.identityId = identity.identityId from htrim] at hdone
    exact .of_stages hinj hstrict hevm ha (hdone rfl) hreach rfl hactivated h

theorem activateOnChain_enrolled (hinj : Function.Injective (keccak256 : Bytes → H))
    (hstrict : P.Strict) (hevm : ctx.evm = true) (hw : Reachable w) {g : Registration}
    (htrim : Trimmed g.identity.identityId) (ha : P.parseAddress g.wallet.address = some a)
    {created roleAssigned walletActivated : Stage} (hcreated : created.Settled)
    (hassigned : roleAssigned.Settled) (hactivated : walletActivated.Settled)
    (h : activateOnChain P ctx r w actor g created roleAssigned walletActivated = (w',result)) :
    Enrolled w w' a (utf8 g.identity.identityId) result := by
  unfold activateOnChain at h
  split at h
  · rename_i w₁ e hfirst
    obtain ⟨rfl,rfl⟩ := Prod.mk.inj h
    obtain ⟨hreach,hfailed,-⟩ :=
      ensureIdentityCreated_settled hinj hstrict hevm hw ha hcreated hfirst
    exact ⟨hreach,fun hfail => .inl (hfailed hfail),nofun⟩
  · rename_i w₁ hfirst
    obtain ⟨hreach,-,hdone⟩ :=
      ensureIdentityCreated_settled hinj hstrict hevm hw ha hcreated hfirst
    rw [show jsTrim g.identity.identityId = g.identity.identityId from htrim] at hdone
    split at h
    · rename_i w₂ e hsecond
      obtain ⟨rfl,rfl⟩ := Prod.mk.inj h
      obtain ⟨hreach',hsame⟩ := ensureRoleAssigned_settled hevm hreach hassigned hsecond
      refine ⟨hreach',fun _ => ?_,nofun⟩
      rw [hsame]
      rcases hdone rfl with ⟨hkept,-⟩ | hnew
      · exact .inl hkept
      · exact .inr hnew
    · rename_i w₂ hsecond
      obtain ⟨hreach',hsame⟩ := ensureRoleAssigned_settled hevm hreach hassigned hsecond
      exact .of_stages hinj hstrict hevm ha (hdone rfl) hreach' hsame hactivated h

end Settled
end BelLedger
