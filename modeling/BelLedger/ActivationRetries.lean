import BelLedger.WalletReplacement

/-!
# Retries of activations and device revocations

`activateRegistration` and `revokeDevice` look at the chain before each submission. On the view of the
chain they are sequences of steps that can be resumed, so that attempts whose responses were lost do no
harm.
-/
namespace BelLedger
open CheckedCalls TransitionRuns ResumableSteps KeyedTables UsersService

variable {H : Type} [Keccak H] [DecidableEq H] {P : Platform}

section Quiet

/-- Nobody else changes wallets or roles during the submission. -/
def Delivery.Quiet (d : Delivery) : Prop :=
  ∀ tx ∈ d.interference,tx.call.target ≠ some .identity ∧ tx.call.target ≠ some .roles

structure UsersService.Stage.Quiet (stage : Stage) : Prop where
  before : ∀ tx ∈ stage.before,tx.call.target ≠ some .identity ∧ tx.call.target ≠ some .roles
  delivery : stage.delivery.Quiet

/-- The outcome of the submission of a stage. -/
def UsersService.Stage.outcome (stage : Stage) : Outcome := stage.delivery.fate.outcome

variable {ctx : Context} {r : Repositories} {w w' : World H} {type : TransactionType}
  {actor : Identity} {payload : Payload} {d : Delivery} {result : Except ServiceError Unit}

theorem attemptAll_view (hw : Reachable w) {txs : List Tx}
    (htxs : ∀ tx ∈ txs,tx.call.target ≠ some .identity ∧ tx.call.target ≠ some .roles) :
    (attemptAll exec w txs).view = w.view := by
  have hkeeps := attemptAll_keepsRoles hw (fun tx htx => (htxs tx htx).2)
  refine ChainView.ext (attemptAll_wallets hw (fun tx htx => (htxs tx htx).1)) ?_
  funext did
  exact hkeeps.mask did

/-- A submission is performed on the view. -/
theorem submit_perform (hinj : Function.Injective (keccak256 : Bytes → H)) (hevm : ctx.evm = true)
    (hw : Reachable w) (hself : SelfContained P type payload) (hd : d.Quiet)
    (h : submit P ctx r w type actor payload d = (w',result)) :
    Reachable w' ∧ (w'.view,result.isOk) = perform d.fate.outcome
      (plannedEffect H P r type actor payload w.view) w.view := by
  obtain ⟨hreach,⟨hnone,rfl,hfailed⟩ | hperform⟩ := submit_view hinj hevm hw hself h
  · refine ⟨hreach,?_⟩
    rw [plannedEffect,hnone,hfailed]
    exact (perform_none _ _).symm
  · rw [attemptAll_view hw hd] at hperform
    exact ⟨hreach,hperform⟩

end Quiet

section Steps
variable (H) (P) (r : Repositories) (actor identity : Identity) (address deviceId : String)

/-- `ensureIdentityCreated`. -/
def creation : Step ChainView where
  isDone v := ∃ status,(P.parseAddress address).bind v.wallets = some (utf8 identity.identityId,status)
  act := plannedEffect H P r .IDENTITY_CREATE actor
    [("walletAddress",.string address),("identityId",.string identity.identityId)]

/-- `ensureRoleAssigned`. -/
def roleAssignment : Step ChainView where
  isDone v := (∃ a status,v.wallets a = some (utf8 identity.identityId,status)) ∧
    ∃ role,identity.role = some role ∧
      ROLES.find? (fun known => (v.roles (utf8 identity.identityId)).has known) = some role
  act := plannedEffect H P r .ROLE_ASSIGN actor
    [("walletAddress",.string address),("identityId",.string identity.identityId),
      ("role",roleValue identity.role)]

/-- `ensureWalletActive`. -/
def activation : Step ChainView where
  isDone v := ∃ did,(P.parseAddress address).bind v.wallets = some (did,.ACTIVE)
  act := plannedEffect H P r .WALLET_ACTIVATE actor
    [("address",.string address),("deviceId",.string deviceId),
      ("identityId",.string identity.identityId)]

/-- `ensureWalletRevoked`. -/
def revocation (reason : String) : Step ChainView where
  isDone v := ∃ did,(P.parseAddress address).bind v.wallets = some (did,.REVOKED)
  act := plannedEffect H P r .WALLET_REVOKE actor (revokePayload address reason)

end Steps

section Effects
variable {r : Repositories} {actor identity : Identity} {address deviceId reason : String}
  {a : Address} {v v' : ChainView}

theorem creation_act (htrim : P.parseAddress (jsTrim address) = P.parseAddress address)
    (h : (creation H P r actor identity address).act v = some v') :
    ∃ a,P.parseAddress address = some a ∧ v.wallets a = none ∧
      v' = v.setWallet a (utf8 (jsTrim identity.identityId)) .PENDING := by
  obtain ⟨⟨sender,call⟩,hplanned,hexec⟩ := Option.bind_eq_some_iff.mp h
  obtain ⟨a,ha,-,rfl⟩ := plan_createIdentity (planned_eq_some.mp hplanned).2
  obtain ⟨hnew,hview⟩ := ChainView.exec_createIdentity_eq_some hexec
  exact ⟨a,htrim.symm.trans ha,hnew,hview⟩

theorem roleAssignment_act (ha : P.parseAddress (jsTrim address) = some a)
    (hblank : jsTrim address ≠ "") {role : Role} (hrole : identity.role = some role)
    (h : (roleAssignment H P r actor identity address).act v = some v') :
    ∃ did status,v.wallets a = some (did,status) ∧ v' = v.addRole did role := by
  obtain ⟨⟨sender,call⟩,hplanned,hexec⟩ := Option.bind_eq_some_iff.mp h
  have hcall := (planned_eq_some.mp hplanned).2
  rw [hrole] at hcall
  obtain rfl := plan_assignRole_wallet ha hblank hcall
  exact ChainView.exec_assignRole_eq_some hexec

theorem activation_act (htrim : P.parseAddress (jsTrim address) = P.parseAddress address)
    (h : (activation H P r actor identity address deviceId).act v = some v') :
    ∃ a did,P.parseAddress address = some a ∧ v.wallets a = some (did,.PENDING) ∧
      v' = v.setWallet a did .ACTIVE := by
  obtain ⟨⟨sender,call⟩,hplanned,hexec⟩ := Option.bind_eq_some_iff.mp h
  obtain ⟨a,ha,rfl⟩ := plan_activateWallet (planned_eq_some.mp hplanned).2
  obtain ⟨did,hpending,hview⟩ := ChainView.exec_activateWallet_eq_some hexec
  exact ⟨a,did,htrim.symm.trans ha,hpending,hview⟩

theorem revocation_act (htrim : P.parseAddress (jsTrim address) = P.parseAddress address)
    (h : (revocation H P r actor address reason).act v = some v') :
    ∃ a did status,P.parseAddress address = some a ∧ v.wallets a = some (did,status) ∧
      status ≠ .REVOKED ∧ v' = v.setWallet a did .REVOKED := by
  obtain ⟨⟨sender,call⟩,hplanned,hexec⟩ := Option.bind_eq_some_iff.mp h
  obtain ⟨a,ha,rfl⟩ := plan_revokeWallet (planned_eq_some.mp hplanned).2
  obtain ⟨did,status,hwallet,hstatus,hview⟩ := ChainView.exec_revokeWallet_eq_some hexec
  exact ⟨a,did,status,htrim.symm.trans ha,hwallet,hstatus,hview⟩

end Effects

section Refinement
variable {ctx : Context} {r : Repositories} {w w' : World H} {actor identity : Identity}
  {address deviceId reason : String} {a : Address} {stage : Stage}
  {result : Except ServiceError Unit}

theorem ensureIdentityCreated_refines (hinj : Function.Injective (keccak256 : Bytes → H))
    (hevm : ctx.evm = true) (hw : Reachable w)
    (htrim : P.parseAddress (jsTrim address) = P.parseAddress address) (hstage : stage.Quiet)
    (h : ensureIdentityCreated P ctx r w actor identity address stage = (w',result)) :
    Reachable w' ∧
      (w'.view,result.isOk) = (creation H P r actor identity address).run stage.outcome w.view := by
  have hreach := hw.attemptAll stage.before
  have hbefore := attemptAll_view hw hstage.before
  unfold ensureIdentityCreated at h
  simp only [hevm,if_true,getWallet_eq_view,hbefore] at h
  split at h
  · rename_i did status hwallet
    split at h
    · rename_i hother
      obtain ⟨rfl,rfl⟩ := Prod.mk.inj h
      have hopen : ¬(creation H P r actor identity address).isDone w.view := by
        rintro ⟨status',hdone⟩
        exact hother (Prod.mk.inj (Option.some.inj (hwallet.symm.trans hdone))).1
      have hact : (creation H P r actor identity address).act w.view = none := by
        refine Option.eq_none_iff_forall_ne_some.mpr (fun v hv => ?_)
        obtain ⟨b,hb,hnew,-⟩ := creation_act htrim hv
        rw [hb,Option.bind_some,hnew] at hwallet
        cases hwallet
      rw [run_of_not_isDone hopen,hact,perform_none,hbefore]
      exact ⟨hreach,rfl⟩
    · rename_i hsame
      obtain ⟨rfl,rfl⟩ := Prod.mk.inj h
      have hdone : (creation H P r actor identity address).isDone w.view :=
        ⟨status,by rw [hwallet,not_not.mp hsame]⟩
      rw [run_of_isDone hdone,hbefore]
      exact ⟨hreach,rfl⟩
  · rename_i hnone
    have hopen : ¬(creation H P r actor identity address).isDone w.view := by
      rintro ⟨status,hdone⟩
      cases hnone.symm.trans hdone
    rw [run_of_not_isDone hopen,← hbefore]
    exact submit_perform hinj hevm hreach createIdentity_selfContained hstage.delivery h

theorem ensureRoleAssigned_refines (hinj : Function.Injective (keccak256 : Bytes → H))
    (hevm : ctx.evm = true) (hw : Reachable w) (ha : P.parseAddress (jsTrim address) = some a)
    (hblank : jsTrim address ≠ "") (hstage : stage.Quiet)
    (h : ensureRoleAssigned P ctx r w actor identity address stage = (w',result)) :
    Reachable w' ∧ (w'.view,result.isOk) =
      (roleAssignment H P r actor identity address).run stage.outcome w.view := by
  have hreach := hw.attemptAll stage.before
  have hbefore := attemptAll_view hw hstage.before
  -- the probe of the code is the one of the step
  have hprobe : (onChainRole (attemptAll exec w stage.before) identity.identityId ≠ none ∧
      onChainRole (attemptAll exec w stage.before) identity.identityId = identity.role) ↔
      (roleAssignment H P r actor identity address).isDone w.view := by
    constructor
    · rintro ⟨hsome,hsame⟩
      obtain ⟨role,hrole⟩ := Option.ne_none_iff_exists'.mp hsome
      obtain ⟨hwallet,hfirst⟩ := (onChainRole_eq_view hinj hreach).mp hrole
      rw [hbefore] at hwallet hfirst
      exact ⟨hwallet,role,hsame.symm.trans hrole,hfirst⟩
    · rintro ⟨hwallet,role,hrole,hfirst⟩
      rw [← hbefore] at hwallet hfirst
      rw [hrole,(onChainRole_eq_view hinj hreach).mpr ⟨hwallet,hfirst⟩]
      exact ⟨nofun,rfl⟩
  unfold ensureRoleAssigned at h
  simp only [hevm,if_true] at h
  split at h
  · rename_i hdone
    obtain ⟨rfl,rfl⟩ := Prod.mk.inj h
    rw [run_of_isDone (hprobe.mp hdone),hbefore]
    exact ⟨hreach,rfl⟩
  · rename_i hopen
    rw [run_of_not_isDone (fun hdone => hopen (hprobe.mpr hdone)),← hbefore]
    exact submit_perform hinj hevm hreach (assignRole_selfContained ha hblank _) hstage.delivery h

theorem ensureWalletActive_refines (hinj : Function.Injective (keccak256 : Bytes → H))
    (hevm : ctx.evm = true) (hw : Reachable w)
    (htrim : P.parseAddress (jsTrim address) = P.parseAddress address) (hstage : stage.Quiet)
    (h : ensureWalletActive P ctx r w actor address deviceId identity.identityId stage =
      (w',result)) :
    Reachable w' ∧ (w'.view,result.isOk) =
      (activation H P r actor identity address deviceId).run stage.outcome w.view := by
  have hreach := hw.attemptAll stage.before
  have hbefore := attemptAll_view hw hstage.before
  unfold ensureWalletActive at h
  simp only [hevm,if_true,getWallet_eq_view,hbefore] at h
  split at h
  · rename_i did hwallet
    obtain ⟨rfl,rfl⟩ := Prod.mk.inj h
    have hdone : (activation H P r actor identity address deviceId).isDone w.view := ⟨did,hwallet⟩
    rw [run_of_isDone hdone,hbefore]
    exact ⟨hreach,rfl⟩
  · rename_i did hwallet
    obtain ⟨rfl,rfl⟩ := Prod.mk.inj h
    have hopen : ¬(activation H P r actor identity address deviceId).isDone w.view := by
      rintro ⟨did',hdone⟩
      cases hwallet.symm.trans hdone
    have hact : (activation H P r actor identity address deviceId).act w.view = none := by
      refine Option.eq_none_iff_forall_ne_some.mpr (fun v hv => ?_)
      obtain ⟨b,did',hb,hpending,-⟩ := activation_act htrim hv
      rw [hb,Option.bind_some,hpending] at hwallet
      cases hwallet
    rw [run_of_not_isDone hopen,hact,perform_none,hbefore]
    exact ⟨hreach,rfl⟩
  · rename_i hactive hrevoked
    have hopen : ¬(activation H P r actor identity address deviceId).isDone w.view := by
      rintro ⟨did,hdone⟩
      exact hactive did hdone
    rw [run_of_not_isDone hopen,← hbefore]
    exact submit_perform hinj hevm hreach activateWallet_selfContained hstage.delivery h

theorem ensureWalletRevoked_refines (hinj : Function.Injective (keccak256 : Bytes → H))
    (hevm : ctx.evm = true) (hw : Reachable w) (hstage : stage.Quiet)
    (h : ensureWalletRevoked P ctx r w actor address reason stage = (w',result)) :
    Reachable w' ∧
      (w'.view,result.isOk) = (revocation H P r actor address reason).run stage.outcome w.view := by
  have hreach := hw.attemptAll stage.before
  have hbefore := attemptAll_view hw hstage.before
  unfold ensureWalletRevoked at h
  simp only [hevm,if_true,getWallet_eq_view,hbefore] at h
  split at h
  · rename_i did hwallet
    obtain ⟨rfl,rfl⟩ := Prod.mk.inj h
    have hdone : (revocation H P r actor address reason).isDone w.view := ⟨did,hwallet⟩
    rw [run_of_isDone hdone,hbefore]
    exact ⟨hreach,rfl⟩
  · rename_i hrevoked
    have hopen : ¬(revocation H P r actor address reason).isDone w.view := by
      rintro ⟨did,hdone⟩
      exact hrevoked did hdone
    rw [run_of_not_isDone hopen,← hbefore]
    exact submit_perform hinj hevm hreach revokeWallet_selfContained hstage.delivery h

/-- The three stages of an activation. -/
def activationSteps (H : Type) [Keccak H] [DecidableEq H] (P : Platform) (r : Repositories)
    (actor : Identity) (g : Registration) : List (Step ChainView) :=
  [creation H P r actor g.identity g.wallet.address,
   roleAssignment H P r actor g.identity g.wallet.address,
   activation H P r actor g.identity g.wallet.address g.device.deviceId]

def stageOutcomes (created roleAssigned walletActivated : Stage) : ℕ → Outcome
  | 0 => created.outcome
  | 1 => roleAssigned.outcome
  | _ => walletActivated.outcome

theorem activateOnChain_refines (hinj : Function.Injective (keccak256 : Bytes → H))
    (hstrict : P.Strict) (hevm : ctx.evm = true) (hw : Reachable w) {g : Registration}
    (ha : P.parseAddress g.wallet.address = some a) {created roleAssigned walletActivated : Stage}
    (hcreated : created.Quiet) (hassigned : roleAssigned.Quiet) (hactivated : walletActivated.Quiet)
    (h : activateOnChain P ctx r w actor g created roleAssigned walletActivated = (w',result)) :
    Reachable w' ∧ (w'.view,result.isOk) = ResumableSteps.attempt (activationSteps H P r actor g)
      (stageOutcomes created roleAssigned walletActivated) w.view := by
  obtain ⟨htrim,hblank⟩ := parseAddress_trim hstrict ha
  have hsame := htrim.trans ha.symm
  unfold activateOnChain at h
  split at h
  · rename_i w₁ e hfirst
    obtain ⟨rfl,rfl⟩ := Prod.mk.inj h
    obtain ⟨hreach,hrun⟩ := ensureIdentityCreated_refines hinj hevm hw hsame hcreated hfirst
    exact ⟨hreach,(attempt_cons_of_failed hrun.symm).symm⟩
  · rename_i w₁ hfirst
    obtain ⟨hreach₁,hrun₁⟩ := ensureIdentityCreated_refines hinj hevm hw hsame hcreated hfirst
    rw [activationSteps,attempt_cons_of_run hrun₁.symm]
    split at h
    · rename_i w₂ e hsecond
      obtain ⟨rfl,rfl⟩ := Prod.mk.inj h
      obtain ⟨hreach,hrun⟩ :=
        ensureRoleAssigned_refines hinj hevm hreach₁ htrim hblank hassigned hsecond
      exact ⟨hreach,(attempt_cons_of_failed hrun.symm).symm⟩
    · rename_i w₂ hsecond
      obtain ⟨hreach₂,hrun₂⟩ :=
        ensureRoleAssigned_refines hinj hevm hreach₁ htrim hblank hassigned hsecond
      rw [attempt_cons_of_run hrun₂.symm,attempt_singleton]
      exact ensureWalletActive_refines hinj hevm hreach₂ hsame hactivated h

/-- The loop of `revokeDevice`. -/
theorem ensureWalletsRevoked_refines (hinj : Function.Injective (keccak256 : Bytes → H))
    (hevm : ctx.evm = true) (hw : Reachable w) {wallets : List Wallet} {stages : ℕ → Stage}
    (hstages : ∀ k,(stages k).Quiet)
    (h : ensureWalletsRevoked P ctx r actor w wallets stages = (w',result)) :
    Reachable w' ∧ (w'.view,result.isOk) = ResumableSteps.attempt
      (wallets.map (fun row => revocation H P r actor row.address "Device revoked"))
      (fun k => (stages k).outcome) w.view := by
  induction wallets generalizing w stages with
  | nil =>
    obtain ⟨rfl,rfl⟩ := Prod.mk.inj h
    exact ⟨hw,rfl⟩
  | cons wallet wallets ih =>
    unfold ensureWalletsRevoked at h
    split at h
    · rename_i w₁ e hfirst
      obtain ⟨rfl,rfl⟩ := Prod.mk.inj h
      obtain ⟨hreach,hrun⟩ := ensureWalletRevoked_refines hinj hevm hw (hstages 0) hfirst
      exact ⟨hreach,(attempt_cons_of_failed hrun.symm).symm⟩
    · rename_i w₁ hfirst
      obtain ⟨hreach,hrun⟩ := ensureWalletRevoked_refines hinj hevm hw (hstages 0) hfirst
      rw [List.map_cons,attempt_cons_of_run hrun.symm]
      exact ih hreach (fun k => hstages (k + 1)) h

end Refinement

section Recognition
variable {r : Repositories} {actor : Identity} {a : Address} {v v' u : ChainView} {g : Registration}
  {role : Role}

omit [Keccak H] [DecidableEq H] in
private theorem first_role (role : Role) :
    ROLES.find? (fun known => ((0 : Mask) ||| role.bit).has known) = some role := by
  cases role <;> decide

/-- The wallet `a` belongs to the DID of the registration. -/
private def Registered (g : Registration) (a : Address) (v : ChainView) : Prop :=
  ∃ status,v.wallets a = some (utf8 g.identity.identityId,status)

theorem creation_registers (hstrict : P.Strict) {identity : Identity} {address : String}
    (ha : P.parseAddress address = some a) (hname : Trimmed identity.identityId)
    (h : (creation H P r actor identity address).run .confirmed v = (v',true)) :
    (∃ status,v'.wallets a = some (utf8 identity.identityId,status)) ∧ v'.roles = v.roles := by
  have hsame := (parseAddress_trim hstrict ha).1.trans ha.symm
  rcases run_confirmed h with ⟨⟨status,hdone⟩,rfl⟩ | hact
  · rw [ha] at hdone
    exact ⟨⟨status,hdone⟩,rfl⟩
  · obtain ⟨b,hb,-,rfl⟩ := creation_act hsame hact
    obtain rfl := Option.some.inj (hb.symm.trans ha)
    rw [show jsTrim identity.identityId = identity.identityId from hname]
    exact ⟨⟨.PENDING,Function.update_self ..⟩,rfl⟩

/-- No wallet leaves its DID when one is activated. -/
theorem activation_keeps (hstrict : P.Strict) {identity : Identity} {address deviceId : String}
    (ha : P.parseAddress address = some a)
    (h : (activation H P r actor identity address deviceId).act v = some v')
    {b : Address} {did : Bytes} {status : WalletStatus} (hb : v.wallets b = some (did,status)) :
    ∃ status,v'.wallets b = some (did,status) := by
  obtain ⟨c,found,-,hpending,rfl⟩ :=
    activation_act ((parseAddress_trim hstrict ha).1.trans ha.symm) h
  by_cases hbc : b = c
  · subst hbc
    obtain ⟨rfl,-⟩ := Prod.mk.inj (Option.some.inj (hb.symm.trans hpending))
    exact ⟨.ACTIVE,Function.update_self ..⟩
  · exact ⟨status,(Function.update_of_ne hbc _ _).trans hb⟩

/-- The later stages leave the registration in place. -/
private theorem registered_along (hstrict : P.Strict)
    (ha : P.parseAddress g.wallet.address = some a) (hrole : g.identity.role = some role)
    (hv : Registered g a v)
    (h : Along [roleAssignment H P r actor g.identity g.wallet.address,
      activation H P r actor g.identity g.wallet.address g.device.deviceId] v u) :
    Registered g a u := by
  obtain ⟨htrim,hblank⟩ := parseAddress_trim hstrict ha
  refine h.invariant (I := Registered g a) ?_ hv
  rintro step hstep v v' hact ⟨status,hstatus⟩
  rcases List.mem_cons.mp hstep with rfl | hstep
  · obtain ⟨did,status',-,rfl⟩ := roleAssignment_act htrim hblank hrole hact
    exact ⟨status,hstatus⟩
  · obtain rfl := List.mem_singleton.mp hstep
    exact activation_keeps hstrict ha hact hstatus

/-- A role that is assigned to a DID without roles is the one that the probe finds. -/
private theorem roleAssignment_done (hstrict : P.Strict)
    (ha : P.parseAddress g.wallet.address = some a) (hrole : g.identity.role = some role)
    (hv : Registered g a v) (hnone : v.roles (utf8 g.identity.identityId) = 0)
    (h : (roleAssignment H P r actor g.identity g.wallet.address).run .confirmed v = (v',true)) :
    (roleAssignment H P r actor g.identity g.wallet.address).isDone v' := by
  obtain ⟨htrim,hblank⟩ := parseAddress_trim hstrict ha
  rcases run_confirmed h with ⟨hdone,rfl⟩ | hact
  · exact hdone
  · obtain ⟨status,hstatus⟩ := hv
    obtain ⟨did,status',hwallet,rfl⟩ := roleAssignment_act htrim hblank hrole hact
    obtain ⟨rfl,rfl⟩ := Prod.mk.inj (Option.some.inj (hstatus.symm.trans hwallet))
    have hmask : (v.addRole (utf8 g.identity.identityId) role).roles (utf8 g.identity.identityId) =
        0 ||| role.bit := by
      rw [← hnone]
      exact Function.update_self ..
    refine ⟨⟨a,status,hstatus⟩,role,hrole,?_⟩
    rw [hmask]
    exact first_role role

private theorem assigned_along (hstrict : P.Strict) (ha : P.parseAddress g.wallet.address = some a)
    (hv : (roleAssignment H P r actor g.identity g.wallet.address).isDone v)
    (h : Along [activation H P r actor g.identity g.wallet.address g.device.deviceId] v u) :
    (roleAssignment H P r actor g.identity g.wallet.address).isDone u := by
  refine h.invariant ?_ hv
  rintro step hstep v v' hact ⟨⟨b,status,hb⟩,found,hfound,hfirst⟩
  obtain rfl := List.mem_singleton.mp hstep
  obtain ⟨status',hb'⟩ := activation_keeps hstrict ha hact hb
  obtain ⟨c,did,-,-,rfl⟩ := activation_act ((parseAddress_trim hstrict ha).1.trans ha.symm) hact
  exact ⟨⟨b,status',hb'⟩,found,hfound,hfirst⟩

theorem activation_done (hstrict : P.Strict) {identity : Identity} {address deviceId : String}
    (ha : P.parseAddress address = some a)
    (h : (activation H P r actor identity address deviceId).run .confirmed v = (v',true)) :
    (activation H P r actor identity address deviceId).isDone v' := by
  rcases run_confirmed h with ⟨hdone,rfl⟩ | hact
  · exact hdone
  · obtain ⟨b,did,hb,-,rfl⟩ := activation_act ((parseAddress_trim hstrict ha).1.trans ha.symm) hact
    exact ⟨did,by rw [hb]; exact Function.update_self ..⟩

/-- The probes of an activation find the effects of the earlier stages, provided that the DID had no
role before. -/
theorem activationSteps_recognised (hstrict : P.Strict) (hrole : g.identity.role = some role)
    (hname : Trimmed g.identity.identityId) (ha : P.parseAddress g.wallet.address = some a)
    (hnone : v.roles (utf8 g.identity.identityId) = 0) :
    Recognised (activationSteps H P r actor g) v := by
  intro v₁ hfirst
  obtain ⟨hregistered,hroles⟩ := creation_registers hstrict ha hname hfirst
  refine ⟨?_,?_⟩
  · intro u hu
    obtain ⟨status,hstatus⟩ := registered_along hstrict ha hrole hregistered hu
    exact ⟨status,by rw [ha]; exact hstatus⟩
  intro v₂ hsecond
  have hassigned := roleAssignment_done hstrict ha hrole hregistered (by rw [hroles]; exact hnone)
    hsecond
  refine ⟨fun u hu => assigned_along hstrict ha hassigned hu,?_⟩
  intro v₃ hthird
  refine ⟨?_,trivial⟩
  intro u hu
  cases hu
  exact activation_done hstrict ha hthird

/-- A revoked wallet stays revoked. -/
theorem revocations_recognised {reason : String} {wallets : List Wallet}
    (hnamed : ∀ row ∈ wallets,Trimmed row.address) :
    Recognised (wallets.map (fun row => revocation H P r actor row.address reason)) v := by
  induction wallets generalizing v with
  | nil => trivial
  | cons wallet wallets ih =>
    have hsame : ∀ row ∈ wallet::wallets,P.parseAddress (jsTrim row.address) =
        P.parseAddress row.address := by
      intro row hrow
      rw [show jsTrim row.address = row.address from hnamed row hrow]
    intro v₁ hfirst
    refine ⟨?_,ih (fun row hrow => hnamed row (List.mem_cons_of_mem wallet hrow))⟩
    intro u hu
    refine hu.invariant (I := (revocation H P r actor wallet.address reason).isDone) ?_ ?_
    · rintro step hstep v v' hact ⟨did,hrevoked⟩
      obtain ⟨row,hrow,rfl⟩ := List.mem_map.mp hstep
      obtain ⟨b,found,status,hb,-,-,rfl⟩ :=
        revocation_act (hsame row (List.mem_cons_of_mem wallet hrow)) hact
      obtain ⟨c,hc,hwallet⟩ := Option.bind_eq_some_iff.mp hrevoked
      by_cases hcb : c = b
      · exact ⟨found,by rw [hc,hcb]; exact Function.update_self ..⟩
      · exact ⟨did,by rw [hc]; exact (Function.update_of_ne hcb _ _).trans hwallet⟩
    · rcases run_confirmed hfirst with ⟨hdone,rfl⟩ | hact
      · exact hdone
      · obtain ⟨b,did,status,hb,-,-,rfl⟩ := revocation_act (hsame wallet List.mem_cons_self) hact
        exact ⟨did,by rw [hb]; exact Function.update_self ..⟩

end Recognition

section Records

/-- The times of a row, blotted out. -/
def UsersService.Wallet.untimed (row : Wallet) : Wallet :=
  { row with
    activatedAt := row.activatedAt.map (fun _ => ""), revokedAt := row.revokedAt.map (fun _ => "") }

def UsersService.Device.untimed (row : Device) : Device :=
  { row with
    registeredAt := "", activatedAt := row.activatedAt.map (fun _ => "")
    revokedAt := row.revokedAt.map (fun _ => "") }

/-- The same rows, up to times. -/
structure SameRecords (r r' : Repositories) : Prop where
  identities : r'.identities.rows = r.identities.rows
  users : r'.users.rows = r.users.rows
  devices : r'.devices.rows.map Device.untimed = r.devices.rows.map Device.untimed
  wallets : r'.wallets.rows.map Wallet.untimed = r.wallets.rows.map Wallet.untimed

variable (r : Repositories) (now now' : String)

theorem saveActivated_records (g : Registration) :
    SameRecords (saveActivated r (activated now g)) (saveActivated r (activated now' g)) where
  identities := rfl
  users := rfl
  devices := Table.map_save_congr (f := Device.untimed) (fun _ => rfl) rfl rfl
  wallets := Table.map_save_congr (f := Wallet.untimed) (fun _ => rfl) rfl rfl

theorem saveRevokedDevice_records (device : Device) (wallets : List Wallet) :
    SameRecords (saveRevokedDevice now r device wallets)
      (saveRevokedDevice now' r device wallets) := by
  have hrevoked : ∀ row,(revokedWallet now' "Device revoked" row).untimed =
      (revokedWallet now "Device revoked" row).untimed := fun _ => rfl
  refine ⟨rfl,rfl,Table.map_save_congr (f := Device.untimed) (fun _ => rfl) rfl ?_,
    Table.map_saveAll_congr (f := Wallet.untimed) (fun _ => rfl) hrevoked wallets rfl⟩
  unfold revokedDevice
  split
  · rfl
  · rfl

end Records

section Attempts
variable {ctx : Context} {s s' t : UsersSystem H}

/-- When an activation is attempted and what happens to its stages. -/
structure ActivationAttempt where
  now : String
  created : Stage
  roleAssigned : Stage
  walletActivated : Stage

def ActivationAttempt.Quiet (a : ActivationAttempt) : Prop :=
  a.created.Quiet ∧ a.roleAssigned.Quiet ∧ a.walletActivated.Quiet

/-- No submission fails on its way. -/
def ActivationAttempt.Clean (a : ActivationAttempt) : Prop :=
  a.Quiet ∧ a.created.delivery.fate = .mined ∧ a.roleAssigned.delivery.fate = .mined ∧
    a.walletActivated.delivery.fate = .mined

def attemptActivation (P : Platform) (ctx : Context) (actorId userId : String) (s : UsersSystem H)
    (a : ActivationAttempt) : UsersSystem H × Except ServiceError Registration :=
  activateRegistration P { ctx with now := a.now } s actorId userId a.created a.roleAssigned
    a.walletActivated

structure DeviceAttempt where
  now : String
  stages : ℕ → Stage

def DeviceAttempt.Quiet (a : DeviceAttempt) : Prop := ∀ k,(a.stages k).Quiet

def DeviceAttempt.Clean (a : DeviceAttempt) : Prop :=
  a.Quiet ∧ ∀ k,(a.stages k).delivery.fate = .mined

def attemptDeviceRevocation (P : Platform) (ctx : Context) (deviceId : String)
    (actorId : Option String) (s : UsersSystem H) (a : DeviceAttempt) :
    UsersSystem H × Except ServiceError Device :=
  revokeDevice P { ctx with now := a.now } s deviceId actorId a.stages

omit [Keccak H] [DecidableEq H] in
private theorem ActivationAttempt.Clean.outcomes {a : ActivationAttempt} (h : a.Clean) :
    stageOutcomes a.created a.roleAssigned a.walletActivated = clean := by
  obtain ⟨-,hcreated,hassigned,hactivated⟩ := h
  funext k
  match k with
  | 0 => exact congrArg Fate.outcome hcreated
  | 1 => exact congrArg Fate.outcome hassigned
  | _ + 2 => exact congrArg Fate.outcome hactivated

omit [Keccak H] [DecidableEq H] in
private theorem DeviceAttempt.Clean.outcomes {a : DeviceAttempt} (h : a.Clean) :
    (fun k => (a.stages k).outcome) = clean := by
  funext k
  exact congrArg Fate.outcome (h.2 k)

/-- An attempt of the code is an attempt of the steps. -/
private theorem attemptActivation_refines (hinj : Function.Injective (keccak256 : Bytes → H))
    (hstrict : P.Strict) (hevm : ctx.evm = true) {actorId userId : String} {r : Repositories}
    {actor : Identity} {g : Registration}
    (hcheck : activateCheck ctx r actorId userId = .ok (actor,g)) {a : Address}
    (ha : P.parseAddress g.wallet.address = some a) (hrows : t.repositories = r)
    (hreach : Reachable t.chain) {attempt : ActivationAttempt} (hquiet : attempt.Quiet)
    {u : UsersSystem H} {result : Except ServiceError Registration}
    (h : attemptActivation P ctx actorId userId t attempt = (u,result)) :
    ResumableSteps.attempt (activationSteps H P r actor g)
        (stageOutcomes attempt.created attempt.roleAssigned attempt.walletActivated) t.chain.view =
      (u.chain.view,result.isOk) ∧ Reachable u.chain ∧
      (result.isOk = false → u.repositories = r) ∧
      (∀ g',result = .ok g' → g' = activated attempt.now g ∧ u.repositories = saveActivated r g') := by
  have hcheck' : activateCheck { ctx with now := attempt.now } t.repositories actorId userId =
      .ok (actor,g) := by
    rw [hrows]
    exact hcheck
  unfold attemptActivation activateRegistration at h
  simp only [hcheck'] at h
  rw [← hrows]
  split at h
  · rename_i w e hsteps
    obtain ⟨rfl,rfl⟩ := Prod.mk.inj h
    obtain ⟨hw,hattempt⟩ := activateOnChain_refines hinj hstrict
      (show ({ ctx with now := attempt.now } : Context).evm = true from hevm) hreach ha hquiet.1
      hquiet.2.1 hquiet.2.2 hsteps
    refine ⟨hattempt.symm,hw,fun _ => rfl,?_⟩
    intro g' hg'
    cases hg'
  · rename_i w hsteps
    obtain ⟨rfl,rfl⟩ := Prod.mk.inj h
    obtain ⟨hw,hattempt⟩ := activateOnChain_refines hinj hstrict
      (show ({ ctx with now := attempt.now } : Context).evm = true from hevm) hreach ha hquiet.1
      hquiet.2.1 hquiet.2.2 hsteps
    refine ⟨hattempt.symm,hw,fun hfail => absurd hfail Bool.false_ne_true.symm,fun g' hg' => ?_⟩
    obtain rfl := Except.ok.inj hg'
    exact ⟨rfl,rfl⟩

private theorem attemptDeviceRevocation_refines (hinj : Function.Injective (keccak256 : Bytes → H))
    (hevm : ctx.evm = true) {deviceId : String} {actorId : Option String} {r : Repositories}
    {device : Device} {actor : Identity} {wallets : List Wallet}
    (hcheck : revokeDeviceCheck ctx r deviceId actorId = .ok (device,actor,wallets))
    (hrows : t.repositories = r) (hreach : Reachable t.chain) {attempt : DeviceAttempt}
    (hquiet : attempt.Quiet) {u : UsersSystem H} {result : Except ServiceError Device}
    (h : attemptDeviceRevocation P ctx deviceId actorId t attempt = (u,result)) :
    ResumableSteps.attempt
        (wallets.map (fun row => revocation H P r actor row.address "Device revoked"))
        (fun k => (attempt.stages k).outcome) t.chain.view = (u.chain.view,result.isOk) ∧
      Reachable u.chain ∧ (result.isOk = false → u.repositories = r) ∧
      (result.isOk = true → u.repositories = saveRevokedDevice attempt.now r device wallets) := by
  have hcheck' : revokeDeviceCheck { ctx with now := attempt.now } t.repositories deviceId actorId =
      .ok (device,actor,wallets) := by
    rw [hrows]
    exact hcheck
  unfold attemptDeviceRevocation revokeDevice at h
  simp only [hcheck'] at h
  rw [← hrows]
  split at h
  · rename_i w e hsteps
    obtain ⟨rfl,rfl⟩ := Prod.mk.inj h
    obtain ⟨hw,hattempt⟩ := ensureWalletsRevoked_refines hinj
      (show ({ ctx with now := attempt.now } : Context).evm = true from hevm) hreach hquiet hsteps
    exact ⟨hattempt.symm,hw,fun _ => rfl,fun hok => absurd hok Bool.false_ne_true⟩
  · rename_i w hsteps
    obtain ⟨rfl,rfl⟩ := Prod.mk.inj h
    obtain ⟨hw,hattempt⟩ := ensureWalletsRevoked_refines hinj
      (show ({ ctx with now := attempt.now } : Context).evm = true from hevm) hreach hquiet hsteps
    exact ⟨hattempt.symm,hw,fun hfail => absurd hfail Bool.false_ne_true.symm,fun _ => rfl⟩

private theorem activation_converges (hinj : Function.Injective (keccak256 : Bytes → H))
    (hstrict : P.Strict) (hctx : ctx.OnChain P) (hreach : Reachable s.chain)
    (hids : ∀ row ∈ s.repositories.identities.rows,Trimmed row.identityId)
    {actorId userId : String} {first last : ActivationAttempt} {g : Registration}
    (hfirst : first.Clean) (hdone : attemptActivation P ctx actorId userId s first = (s',.ok g))
    (hnone : RoleRegistry.rolesOfIdentity s.chain (utf8 g.identity.identityId) = 0)
    (hretried : Retried (attemptActivation P ctx actorId userId) (fun _ a => a.Quiet) s t)
    (hlast : last.Clean) :
    ∃ u g',attemptActivation P ctx actorId userId t last = (u,.ok g') ∧
      SameRecords s'.repositories u.repositories ∧ u.chain.view = s'.chain.view := by
  cases hcheck : activateCheck ctx s.repositories actorId userId with
  | error e =>
    have hcheck' : activateCheck { ctx with now := first.now } s.repositories actorId userId =
        .error e := hcheck
    unfold attemptActivation activateRegistration at hdone
    rw [hcheck'] at hdone
    cases (Prod.mk.inj hdone).2
  | ok checked =>
  obtain ⟨actor,g₀⟩ := checked
  obtain ⟨hidentity,-,role,hrole⟩ := activateCheck_registration hcheck
  obtain ⟨-,-,-,hmatch⟩ := activateCheck_rows hctx.faithful hcheck
  obtain ⟨a,ha⟩ := hctx.matching _ _ (hmatch hctx.evm)
  have hattempt : ∀ (t : UsersSystem H) (a : ActivationAttempt) (u : UsersSystem H)
      (result : Except ServiceError Registration),
      (t.repositories = s.repositories ∧ Reachable t.chain) → a.Quiet →
      attemptActivation P ctx actorId userId t a = (u,result) →
      ResumableSteps.attempt (activationSteps H P s.repositories actor g₀)
        (stageOutcomes a.created a.roleAssigned a.walletActivated) t.chain.view =
          (u.chain.view,result.isOk) ∧
        (result.isOk = false → u.repositories = s.repositories ∧ Reachable u.chain) := by
    rintro t a u result ⟨hrows,hchain⟩ hquiet hop
    obtain ⟨hsteps,hu,hkept,-⟩ :=
      attemptActivation_refines hinj hstrict hctx.evm hcheck ha hrows hchain hquiet hop
    exact ⟨hsteps,fun hfailed => ⟨hkept hfailed,hu⟩⟩
  obtain ⟨-,-,-,hsaved⟩ :=
    attemptActivation_refines hinj hstrict hctx.evm hcheck ha rfl hreach hfirst.1 hdone
  obtain ⟨rfl,hrows'⟩ := hsaved g rfl
  have hknown : Recognised (activationSteps H P s.repositories actor g₀) s.chain.view := by
    exact activationSteps_recognised hstrict hrole (hids g₀.identity hidentity) ha hnone
  obtain ⟨⟨hrows,hchain⟩,u,g',hop,hview⟩ := hretried.converges hattempt ⟨rfl,hreach⟩ hknown hfirst.1
    hfirst.outcomes hdone hlast.1 hlast.outcomes
  obtain ⟨-,-,-,hsaved'⟩ :=
    attemptActivation_refines hinj hstrict hctx.evm hcheck ha hrows hchain hlast.1 hop
  obtain ⟨rfl,hrows''⟩ := hsaved' g' rfl
  refine ⟨u,_,hop,?_,hview⟩
  rw [hrows',hrows'']
  exact saveActivated_records s.repositories first.now last.now g₀

private theorem deviceRevocation_converges (hinj : Function.Injective (keccak256 : Bytes → H))
    (hctx : ctx.OnChain P) (hreach : Reachable s.chain)
    (haddresses : ∀ row ∈ s.repositories.wallets.rows,Trimmed row.address) {deviceId : String}
    {actorId : Option String} {first last : DeviceAttempt} {device : Device} (hfirst : first.Clean)
    (hdone : attemptDeviceRevocation P ctx deviceId actorId s first = (s',.ok device))
    (hretried : Retried (attemptDeviceRevocation P ctx deviceId actorId) (fun _ a => a.Quiet) s t)
    (hlast : last.Clean) :
    ∃ u device',attemptDeviceRevocation P ctx deviceId actorId t last = (u,.ok device') ∧
      SameRecords s'.repositories u.repositories ∧ u.chain.view = s'.chain.view := by
  cases hcheck : revokeDeviceCheck ctx s.repositories deviceId actorId with
  | error e =>
    have hcheck' : revokeDeviceCheck { ctx with now := first.now } s.repositories deviceId actorId =
        .error e := hcheck
    unfold attemptDeviceRevocation revokeDevice at hdone
    rw [hcheck'] at hdone
    cases (Prod.mk.inj hdone).2
  | ok checked =>
  obtain ⟨device₀,actor,wallets⟩ := checked
  have hattempt : ∀ (t : UsersSystem H) (a : DeviceAttempt) (u : UsersSystem H)
      (result : Except ServiceError Device),
      (t.repositories = s.repositories ∧ Reachable t.chain) → a.Quiet →
      attemptDeviceRevocation P ctx deviceId actorId t a = (u,result) →
      ResumableSteps.attempt
        (wallets.map (fun row => revocation H P s.repositories actor row.address "Device revoked"))
        (fun k => (a.stages k).outcome) t.chain.view = (u.chain.view,result.isOk) ∧
        (result.isOk = false → u.repositories = s.repositories ∧ Reachable u.chain) := by
    rintro t a u result ⟨hrows,hchain⟩ hquiet hop
    obtain ⟨hsteps,hu,hkept,-⟩ :=
      attemptDeviceRevocation_refines hinj hctx.evm hcheck hrows hchain hquiet hop
    exact ⟨hsteps,fun hfailed => ⟨hkept hfailed,hu⟩⟩
  have hknown : Recognised (wallets.map (fun row =>
      revocation H P s.repositories actor row.address "Device revoked")) s.chain.view := by
    refine revocations_recognised (fun row hrow => ?_)
    obtain ⟨-,-,hwallets⟩ := revokeDeviceCheck_rows hcheck
    rw [hwallets] at hrow
    exact haddresses row ((mem_listWallets hctx.faithful).mp (List.mem_filter.mp hrow).1).1
  obtain ⟨-,-,-,hsaved⟩ :=
    attemptDeviceRevocation_refines hinj hctx.evm hcheck rfl hreach hfirst.1 hdone
  obtain ⟨⟨hrows,hchain⟩,u,device',hop,hview⟩ := hretried.converges hattempt ⟨rfl,hreach⟩ hknown
    hfirst.1 hfirst.outcomes hdone hlast.1 hlast.outcomes
  obtain ⟨-,-,-,hsaved'⟩ :=
    attemptDeviceRevocation_refines hinj hctx.evm hcheck hrows hchain hlast.1 hop
  refine ⟨u,device',hop,?_,hview⟩
  rw [hsaved rfl,hsaved' rfl]
  exact saveRevokedDevice_records s.repositories first.now last.now device₀ wallets

/-- Activations and device revocations can be retried until they succeed, with the result of a first
attempt that meets no failure. -/
theorem retries_converge (hinj : Function.Injective (keccak256 : Bytes → H)) (hstrict : P.Strict)
    (hctx : ctx.OnChain P) (hreach : Reachable s.chain)
    (hids : ∀ row ∈ s.repositories.identities.rows,Trimmed row.identityId)
    (haddresses : ∀ row ∈ s.repositories.wallets.rows,Trimmed row.address) :
    (∀ (actorId userId : String) (first last : ActivationAttempt) (s' t : UsersSystem H)
      (g : Registration),first.Clean → attemptActivation P ctx actorId userId s first = (s',.ok g) →
      RoleRegistry.rolesOfIdentity s.chain (utf8 g.identity.identityId) = 0 →
      Retried (attemptActivation P ctx actorId userId) (fun _ a => a.Quiet) s t → last.Clean →
      ∃ u g',attemptActivation P ctx actorId userId t last = (u,.ok g') ∧
        SameRecords s'.repositories u.repositories ∧ u.chain.view = s'.chain.view) ∧
    (∀ (deviceId : String) (actorId : Option String) (first last : DeviceAttempt)
      (s' t : UsersSystem H) (device : Device),first.Clean →
      attemptDeviceRevocation P ctx deviceId actorId s first = (s',.ok device) →
      Retried (attemptDeviceRevocation P ctx deviceId actorId) (fun _ a => a.Quiet) s t → last.Clean →
      ∃ u device',attemptDeviceRevocation P ctx deviceId actorId t last = (u,.ok device') ∧
        SameRecords s'.repositories u.repositories ∧ u.chain.view = s'.chain.view) :=
  ⟨fun _ _ _ _ _ _ _ hfirst hdone hnone hretried hlast =>
      activation_converges hinj hstrict hctx hreach hids hfirst hdone hnone hretried hlast,
    fun _ _ _ _ _ _ _ hfirst hdone hretried hlast =>
      deviceRevocation_converges hinj hctx hreach haddresses hfirst hdone hretried hlast⟩

section Prototype

def stageOf (number : ℕ) (fate : Fate) : Stage := ⟨[],deliveryOf number fate⟩

def timedOut : Fate := .lost ⟨.TIMEOUT,"no receipt"⟩

theorem stageOf_quiet (number : ℕ) (fate : Fate) : (stageOf number fate).Quiet :=
  ⟨fun _ h => absurd h List.not_mem_nil,fun _ h => absurd h List.not_mem_nil⟩

def activationAt (now : String) (number : ℕ) (roleFate : Fate) : ActivationAttempt :=
  ⟨now,stageOf number .mined,stageOf (number+1) roleFate,stageOf (number+2) .mined⟩

def deviceRevocationAt (now : String) (number : ℕ) (fate : Fate) : DeviceAttempt :=
  ⟨now,fun k => stageOf (number+k) fate⟩

/-- The second attempt, after one whose role assignment is executed without an answer. -/
def retriedActivation : UsersSystem (Option Bytes) × Except ServiceError Registration :=
  attemptActivation prototypePlatform usersContext "ADMIN" "E-2"
    (attemptActivation prototypePlatform usersContext "ADMIN" "E-2" workshopUsers
      (activationAt "09:00" 12 timedOut)).1 (activationAt "09:05" 15 .mined)

/-- The second attempt, after one whose wallet revocation is executed without an answer. -/
def retriedDeviceRevocation : UsersSystem (Option Bytes) × Except ServiceError Device :=
  attemptDeviceRevocation prototypePlatform usersContext "DEV-1" (some "ADMIN")
    (attemptDeviceRevocation prototypePlatform usersContext "DEV-1" (some "ADMIN") workshopUsers
      (deviceRevocationAt "09:00" 12 timedOut)).1 (deviceRevocationAt "09:05" 15 .mined)

private theorem retriedActivation_rows :
    retriedActivation.1.repositories.identities.find "DID:BEL:AUD" =
        some ⟨"DID:BEL:AUD",some "E-2",some .TECHNICIAN,some "QA",.ACTIVE⟩ ∧
      (retriedActivation.1.repositories.devices.find "DEV-2").map Device.status = some .ACTIVE ∧
      (retriedActivation.1.repositories.wallets.find auditorWallet).map Wallet.status =
        some .ACTIVE := by
  decide +kernel

private theorem retriedDeviceRevocation_rows :
    (retriedDeviceRevocation.1.repositories.devices.find "DEV-1").map Device.status =
        some .REVOKED ∧
      (retriedDeviceRevocation.1.repositories.wallets.find engineerWallet).map Wallet.status =
        some .REVOKED := by
  decide +kernel

/-- The role of the auditor is assigned, and the revocation of the engineer's wallet executed, without
an answer. The next attempts complete what was begun: the auditor's rows are ACTIVE, the engineer's
device and wallet REVOKED, and the chain is as after attempts that meet no failure. -/
theorem retries_converge_lost_responses :
    (∃ u g',retriedActivation = (u,.ok g') ∧
      u.repositories.identities.find "DID:BEL:AUD" =
        some ⟨"DID:BEL:AUD",some "E-2",some .TECHNICIAN,some "QA",.ACTIVE⟩ ∧
      (u.repositories.devices.find "DEV-2").map Device.status = some .ACTIVE ∧
      (u.repositories.wallets.find auditorWallet).map Wallet.status = some .ACTIVE ∧
      u.chain.view = (attemptActivation prototypePlatform usersContext "ADMIN" "E-2" workshopUsers
        (activationAt "09:00" 12 .mined)).1.chain.view) ∧
    ∃ u device,retriedDeviceRevocation = (u,.ok device) ∧
      (u.repositories.devices.find "DEV-1").map Device.status = some .REVOKED ∧
      (u.repositories.wallets.find engineerWallet).map Wallet.status = some .REVOKED ∧
      u.chain.view = (attemptDeviceRevocation prototypePlatform usersContext "DEV-1" (some "ADMIN")
        workshopUsers (deviceRevocationAt "09:00" 12 .mined)).1.chain.view := by
  have hids : ∀ row ∈ workshopUsers.repositories.identities.rows,Trimmed row.identityId := by
    decide +kernel
  have haddresses : ∀ row ∈ workshopUsers.repositories.wallets.rows,Trimmed row.address := by
    decide +kernel
  obtain ⟨hactivation,hdevice⟩ := retries_converge prototype_keccak_injective prototypePlatform_strict
    usersContext_onChain (s := workshopUsers) workshop_reachable hids haddresses
  constructor
  · have hquiet : ∀ now number fate,(activationAt now number fate).Quiet :=
      fun _ _ _ => ⟨stageOf_quiet _ _,stageOf_quiet _ _,stageOf_quiet _ _⟩
    have hdone : (attemptActivation prototypePlatform usersContext "ADMIN" "E-2" workshopUsers
        (activationAt "09:00" 12 .mined)).2 = .ok (activated "09:00"
          ⟨⟨"DID:BEL:AUD",some "E-2",some .TECHNICIAN,some "QA",.PENDING⟩,
            ⟨"DEV-2","DID:BEL:AUD",.PENDING,"2025-11-17T09:00:00.000Z",none,none,some auditorKey⟩,
            ⟨auditorWallet,"DID:BEL:AUD","DEV-2",.PENDING,none,none,none,some auditorKey⟩⟩) := by
      decide +kernel
    have hfailed : (attemptActivation prototypePlatform usersContext "ADMIN" "E-2" workshopUsers
        (activationAt "09:00" 12 timedOut)).2 = .error (.Blockchain ⟨.TIMEOUT,"no receipt"⟩) := by
      decide +kernel
    obtain ⟨u,g',hop,-,hview⟩ := hactivation "ADMIN" "E-2" (activationAt "09:00" 12 .mined)
      (activationAt "09:05" 15 .mined) _ _ _ ⟨hquiet _ _ _,rfl,rfl,rfl⟩ (by rw [← hdone])
      (by decide +kernel) (.failed .start (hquiet _ _ _) (by rw [← hfailed]))
      ⟨hquiet _ _ _,rfl,rfl,rfl⟩
    have hrows := retriedActivation_rows
    rw [show retriedActivation = (u,.ok g') from hop] at hrows
    exact ⟨u,g',hop,hrows.1,hrows.2.1,hrows.2.2,hview⟩
  · have hquiet : ∀ now number fate,(deviceRevocationAt now number fate).Quiet :=
      fun _ _ _ _ => stageOf_quiet _ _
    have hdone : (attemptDeviceRevocation prototypePlatform usersContext "DEV-1" (some "ADMIN")
        workshopUsers (deviceRevocationAt "09:00" 12 .mined)).2 = .ok ⟨"DEV-1","DID:BEL:ENG",
          .REVOKED,"2025-11-17T09:00:00.000Z",none,some "09:00",none⟩ := by decide +kernel
    have hfailed : (attemptDeviceRevocation prototypePlatform usersContext "DEV-1" (some "ADMIN")
        workshopUsers (deviceRevocationAt "09:00" 12 timedOut)).2 =
          .error (.Blockchain ⟨.TIMEOUT,"no receipt"⟩) := by decide +kernel
    obtain ⟨u,device,hop,-,hview⟩ := hdevice "DEV-1" (some "ADMIN")
      (deviceRevocationAt "09:00" 12 .mined) (deviceRevocationAt "09:05" 15 .mined) _ _ _
      ⟨hquiet _ _ _,fun _ => rfl⟩ (by rw [← hdone])
      (.failed .start (hquiet _ _ _) (by rw [← hfailed])) ⟨hquiet _ _ _,fun _ => rfl⟩
    have hrows := retriedDeviceRevocation_rows
    rw [show retriedDeviceRevocation = (u,.ok device) from hop] at hrows
    exact ⟨u,device,hop,hrows.1,hrows.2,hview⟩

end Prototype

end Attempts
end BelLedger
