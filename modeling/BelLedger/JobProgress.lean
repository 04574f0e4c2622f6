import BelLedger.AdminSurvival
import BelLedger.ChainViews
import BelLedger.JobRecords
import BelLedger.VerifierAvailability

/-!
# What an administrator can always bring about

No job is ever stuck. Its technician is a DID, so a wallet that is lost or revoked halfway can be
replaced, and somebody else can be enrolled to verify.
-/
namespace BelLedger
open CheckedCalls TransitionRuns

section Masks
variable {m mask other : Mask} {role : Role}

theorem Mask.and_ne_zero_of_has (h : m.has role = true) (hmask : mask.has role = true) :
    m &&& mask ≠ 0 := by
  intro hzero
  have hbit : (m &&& mask).getLsbD role.index = true := by
    rw [BitVec.getLsbD_and]
    exact Bool.and_eq_true_iff.mpr ⟨h,hmask⟩
  rw [hzero] at hbit
  simp at hbit

theorem Mask.or_and_ne_zero (h : m &&& mask ≠ 0) : (m ||| other) &&& mask ≠ 0 := by
  rw [BitVec.and_or_distrib_right]
  exact fun hzero => h (BitVec.or_eq_zero_iff.mp hzero).1

end Masks

/-- Who signs a transaction and what it calls; the block it is mined in is not theirs to choose. -/
def Tx.signed (tx : Tx) : Address × Call := (tx.env.sender,tx.call)

namespace ChainView

section Permissions
variable {v : ChainView} {a : Address} {did : Bytes} {mask : Mask} {role : Role}

theorem allows_iff : v.allows a mask = true ↔
    ∃ did,v.wallets a = some (did,.ACTIVE) ∧ v.roles did &&& mask ≠ 0 := by
  unfold allows
  split
  · rename_i did hwallet
    simp [hwallet]
  · rename_i hnot
    simp only [Bool.false_eq_true,false_iff]
    rintro ⟨did,hwallet,-⟩
    exact hnot did hwallet

theorem allows_of_has (hwallet : v.wallets a = some (did,.ACTIVE)) (hrole : (v.roles did).has role = true)
    (hmask : mask.has role = true) : v.allows a mask = true :=
  allows_iff.mpr ⟨did,hwallet,Mask.and_ne_zero_of_has hrole hmask⟩

end Permissions

/-- `v'` is `v` with `wallet` enrolled under `did` as `role`. -/
structure Enrolled (v v' : ChainView) (wallet : Address) (did : Bytes) (role : Role) : Prop where
  wallets : v'.wallets = Function.update v.wallets wallet (some (did,.ACTIVE))
  role : (v'.roles did).has role = true
  kept : ∀ d mask,v.roles d &&& mask ≠ 0 → v'.roles d &&& mask ≠ 0
  others : ∀ d,d ≠ did → v'.roles d = v.roles d

theorem Enrolled.active {v v' : ChainView} {wallet : Address} {did : Bytes} {role : Role}
    (h : Enrolled v v' wallet did role) : v'.wallets wallet = some (did,.ACTIVE) := by
  rw [h.wallets,Function.update_self]

/-- Whoever has a wallet already keeps their permissions. -/
theorem Enrolled.allows {v v' : ChainView} {wallet a : Address} {did : Bytes} {role : Role} {mask : Mask}
    (h : Enrolled v v' wallet did role) (hnew : v.wallets wallet = none)
    (ha : v.allows a mask = true) : v'.allows a mask = true := by
  obtain ⟨d,hwallet,hmask⟩ := allows_iff.mp ha
  have hne : a ≠ wallet := by
    rintro rfl
    rw [hnew] at hwallet
    cases hwallet
  refine allows_iff.mpr ⟨d,?_,h.kept d mask hmask⟩
  rw [h.wallets,Function.update_of_ne hne]
  exact hwallet

section Enrolment
variable {H : Type} [Keccak H] [DecidableEq H] {v : ChainView} {admin wallet : Address} {did : Bytes}

/-- A call that fails changes nothing. -/
def attempt (H : Type) [Keccak H] [DecidableEq H] (v : ChainView) (sender : Address) (call : Call) :
    ChainView := (v.exec H sender call).getD v

/-- The calls by which an administrator enrols a wallet. -/
def enrolment (wallet : Address) (did : Bytes) (role : Role) : List Call :=
  [.createIdentity wallet did,.activateWallet wallet,.assignRole wallet role]

theorem allows_setWallet {mask : Mask} {status : WalletStatus} (hnew : v.wallets wallet = none)
    (ha : v.allows admin mask = true) : (v.setWallet wallet did status).allows admin mask = true := by
  obtain ⟨d,hwallet,hmask⟩ := allows_iff.mp ha
  have hne : admin ≠ wallet := by
    rintro rfl
    rw [hnew] at hwallet
    cases hwallet
  refine allows_iff.mpr ⟨d,?_,hmask⟩
  simp [setWallet,hne,hwallet]

private theorem attempt_createIdentity (hadmin : v.allows admin BelRoles.ADMIN = true)
    (hzero : wallet ≠ 0) (hdid : did.length ≠ 0 ∧ did.length ≤ IdentityRegistry.MAX_DID_LENGTH)
    (hnew : v.wallets wallet = none) :
    v.attempt H admin (.createIdentity wallet did) = v.setWallet wallet did .PENDING := by
  have hchecks : v.allows admin BelRoles.CREATE_EMPLOYEE = true ∧ wallet ≠ 0 ∧
      (did.length ≠ 0 ∧ did.length ≤ IdentityRegistry.MAX_DID_LENGTH) ∧ v.wallets wallet = none :=
    ⟨hadmin,hzero,hdid,hnew⟩
  simp only [attempt,exec,if_pos hchecks,Option.getD_some]

private theorem attempt_activateWallet (hadmin : v.allows admin BelRoles.ADMIN = true)
    (hnew : v.wallets wallet = none) :
    (v.setWallet wallet did .PENDING).attempt H admin (.activateWallet wallet) =
      v.setWallet wallet did .ACTIVE := by
  have hallowed : (v.setWallet wallet did .PENDING).allows admin BelRoles.ACTIVATE_WALLET = true := by
    obtain ⟨d,hwallet,hmask⟩ := allows_iff.mp (allows_setWallet hnew hadmin)
    refine allows_iff.mpr ⟨d,hwallet,?_⟩
    rw [BelRoles.ACTIVATE_WALLET,BitVec.and_comm]
    rw [BitVec.and_comm] at hmask
    exact Mask.or_and_ne_zero hmask
  have hpending : (v.setWallet wallet did .PENDING).wallets wallet = some (did,.PENDING) := by
    simp [setWallet]
  simp only [attempt,exec,hpending,hallowed,if_true,Option.getD_some]
  simp [setWallet]

theorem enrolled {role : Role} (hadmin : v.allows admin BelRoles.ADMIN = true)
    (hzero : wallet ≠ 0) (hdid : did.length ≠ 0 ∧ did.length ≤ IdentityRegistry.MAX_DID_LENGTH)
    (hkey : (keccak256 did : H) ≠ 0) (hnew : v.wallets wallet = none) :
    Enrolled v ((enrolment wallet did role).foldl (fun v => v.attempt H admin) v) wallet did role := by
  simp only [enrolment,List.foldl_cons,List.foldl_nil,attempt_createIdentity hadmin hzero hdid hnew,
    attempt_activateWallet hadmin hnew]
  have hallowed : (v.setWallet wallet did .ACTIVE).allows admin BelRoles.MANAGE_ROLES = true :=
    allows_setWallet hnew hadmin
  have hactive : (v.setWallet wallet did .ACTIVE).wallets wallet = some (did,.ACTIVE) := by
    simp [setWallet]
  have hroles : (v.setWallet wallet did .ACTIVE).roles = v.roles := rfl
  simp only [attempt,exec,hactive,hroles]
  by_cases hheld : (v.roles did).has role = true
  · rw [if_neg (by simp [hheld]),Option.getD_none]
    exact ⟨rfl,hheld,fun d mask h => h,fun d _ => rfl⟩
  · rw [if_pos ⟨hallowed,hkey,by simpa using hheld⟩,Option.getD_some]
    refine ⟨rfl,by simp [addRole],?_,?_⟩
    · intro d mask hmask
      by_cases hd : d = did
      · subst hd
        simpa [addRole,setWallet] using Mask.or_and_ne_zero hmask
      · simpa [addRole,setWallet,hd] using hmask
    · intro d hd
      simp [addRole,setWallet,hd]

end Enrolment

end ChainView

open ChainView

variable {H : Type} [Keccak H] [DecidableEq H]

section Enrolments
variable {w : World H} {admin wallet : Address} {did : Bytes} {role : Role}

theorem attempt_lifecycle (hinj : Function.Injective (keccak256 : Bytes → H)) (hw : Reachable w) {tx : Tx}
    (htx : tx.call.Lifecycle) :
    (TransitionRuns.attempt exec w tx).view = w.view.attempt H tx.env.sender tx.call := by
  have hview := exec_refines_view hinj hw tx htx
  unfold TransitionRuns.attempt ChainView.attempt
  rw [← hview]
  cases exec w tx with
  | ok w' => rfl
  | error e => rfl

theorem attemptAll_lifecycle (hinj : Function.Injective (keccak256 : Bytes → H)) {calls : List Call}
    (hcalls : ∀ call ∈ calls,call.Lifecycle) {txs : List Tx} (hw : Reachable w)
    (htxs : txs.map Tx.signed = calls.map fun call => (admin,call)) :
    (attemptAll exec w txs).view = calls.foldl (fun v => v.attempt H admin) w.view := by
  induction calls generalizing w txs with
  | nil =>
    obtain rfl := List.map_eq_nil_iff.mp htxs
    rfl
  | cons call calls ih =>
    obtain ⟨tx,rest,rfl,htx,hrest⟩ := List.map_eq_cons_iff.mp htxs
    obtain ⟨rfl,rfl⟩ := Prod.mk.inj htx
    rw [List.foldl_cons,← attempt_lifecycle hinj hw (hcalls _ List.mem_cons_self)]
    exact ih (fun c hc => hcalls c (List.mem_cons_of_mem _ hc)) (hw.attempt tx) hrest

/-- Three transactions of an administrator enrol any unregistered wallet, and do nothing else. -/
theorem attemptAll_enrolment (hinj : Function.Injective (keccak256 : Bytes → H)) (hw : Reachable w)
    (hadmin : w.view.allows admin BelRoles.ADMIN = true) (hzero : wallet ≠ 0)
    (hnew : w.view.wallets wallet = none)
    (hdid : did.length ≠ 0 ∧ did.length ≤ IdentityRegistry.MAX_DID_LENGTH)
    (hkey : (keccak256 did : H) ≠ 0) {txs : List Tx}
    (htxs : txs.map Tx.signed = (enrolment wallet did role).map fun call => (admin,call)) :
    Enrolled w.view (attemptAll exec w txs).view wallet did role ∧ KeepsJobs w (attemptAll exec w txs) := by
  have hcalls : ∀ call ∈ enrolment wallet did role,call.Lifecycle ∧ call.target ≠ some .jobs := by
    simp [enrolment,Call.Lifecycle,Call.target]
  rw [attemptAll_lifecycle hinj (fun call hcall => (hcalls call hcall).1) hw htxs]
  refine ⟨enrolled hadmin hzero hdid hkey hnew,attemptAll_keepsJobs hw ?_⟩
  intro tx htx
  have hmem : tx.signed ∈ (enrolment wallet did role).map fun call => (admin,call) :=
    htxs ▸ List.mem_map_of_mem htx
  obtain ⟨call,hcall,heq⟩ := List.mem_map.mp hmem
  rw [← (Prod.mk.inj heq).2]
  exact (hcalls call hcall).2

end Enrolments

section Duties
variable {w : World H} {env : Env} {jobId did : Bytes} {technician manager : Address}

/-- The technician's DID is `did`, and the manager may assign, and verify what that DID has done. -/
structure Crew (v : ChainView) (technician manager : Address) (did : Bytes) : Prop where
  active : v.wallets technician = some (did,.ACTIVE)
  maintains : v.allows technician BelRoles.PERFORM_MAINTENANCE = true
  assigns : v.allows manager BelRoles.ASSIGN_TECHNICIAN = true
  verifies : v.allows manager BelRoles.VERIFY_MAINTENANCE = true
  independent : ∀ status,v.wallets manager ≠ some (did,status)

/-- A job in `status` of which the crew can do the rest. -/
structure Working (w : World H) (jobId did : Bytes) (technician manager : Address)
    (status : ChainJobStatus) : Prop where
  reachable : Reachable w
  crew : Crew w.view technician manager did
  current : (JobManager.job w jobId).status = status
  assigned : status ≠ .CREATED → status ≠ .REJECTED →
    (JobManager.job w jobId).technicianKey = keccak256 did

/-- What the crew has to do next, and where it takes the job. -/
inductive Duty (jobId : Bytes) (technician manager : Address) :
    ChainJobStatus → Address × Call → ChainJobStatus → Prop
  | assign : Duty jobId technician manager .CREATED (manager,.assignJob jobId technician) .ASSIGNED
  | reassign : Duty jobId technician manager .REJECTED (manager,.assignJob jobId technician) .ASSIGNED
  | start : Duty jobId technician manager .ASSIGNED (technician,.startJob jobId) .IN_PROGRESS
  | complete (evidenceHash : Bytes32) (hevidence : evidenceHash ≠ 0) : Duty jobId technician manager
      .IN_PROGRESS (technician,.completeJob jobId evidenceHash) .COMPLETED
  | approve : Duty jobId technician manager .COMPLETED (manager,.approveJob jobId) .VERIFIED

omit [DecidableEq H] in
private theorem Crew.keys (h : Crew w.view technician manager did) :
    IdentityRegistry.identityOf w.identity technician = did ∧
      IdentityRegistry.identityOf w.identity manager ≠ did := by
  obtain ⟨-,hdid,-⟩ := view_wallets_eq_some.mp h.active
  refine ⟨hdid,fun hsame => ?_⟩
  obtain ⟨d,hmanager,-⟩ := allows_iff.mp h.verifies
  obtain ⟨hregistered,-,hstatus⟩ := view_wallets_eq_some.mp hmanager
  exact h.independent _ (view_wallets_eq_some.mpr ⟨hregistered,hsame,hstatus⟩)

private theorem assignJob_succeeds (hd : Deployed w)
    (hauth : Authorised w .jobs env.sender BelRoles.ASSIGN_TECHNICIAN)
    (hstatus : (JobManager.job w jobId).status = .CREATED ∨ (JobManager.job w jobId).status = .REJECTED)
    (hzero : technician ≠ 0) (hworker : Authorised w .jobs technician BelRoles.PERFORM_MAINTENANCE)
    (hlength : jobId.length ≠ 0 ∧ jobId.length ≤ JobManager.MAX_JOB_ID_LENGTH) :
    ∃ w',exec w ⟨env,.assignJob jobId technician⟩ = .ok w' := by
  obtain ⟨w',hw'⟩ := auditJob_succeeds hd env "JOB_ASSIGN" hlength (by decide)
    { JobManager.job w jobId with
      technician, technicianKey := keccak256 (IdentityRegistry.identityOf w.identity technician),
      status := .ASSIGNED }
  have hnone : (JobManager.job w jobId).status ≠ .NONE := by
    rcases hstatus with hstatus | hstatus <;> simp [hstatus]
  have hrole : BelAccess.hasAnyRole w technician BelRoles.PERFORM_MAINTENANCE = true :=
    decide_eq_true hworker.roles
  refine ⟨w',?_⟩
  simp only [exec,JobManager.assignJob,checkRoles_bind_eq_ok,existingJob_bind_eq_ok,
    revertIf_bind_eq_ok,not_or,isActiveWallet_false_iff,hworker.active,hrole]
  exact ⟨hauth,hnone,by tauto,⟨hzero,by decide,by decide⟩,hw'⟩

private theorem startJob_succeeds (hd : Deployed w)
    (hauth : Authorised w .jobs env.sender BelRoles.PERFORM_MAINTENANCE)
    (hstatus : (JobManager.job w jobId).status = .ASSIGNED)
    (hkey : JobManager.callerKey w env = (JobManager.job w jobId).technicianKey)
    (hlength : jobId.length ≠ 0 ∧ jobId.length ≤ JobManager.MAX_JOB_ID_LENGTH) :
    ∃ w',exec w ⟨env,.startJob jobId⟩ = .ok w' := by
  obtain ⟨w',hw'⟩ := auditJob_succeeds hd env "JOB_START" hlength (by decide)
    { JobManager.job w jobId with status := .IN_PROGRESS }
  refine ⟨w',?_⟩
  simp only [exec,JobManager.startJob,checkRoles_bind_eq_ok,existingJob_bind_eq_ok,
    revertIf_bind_eq_ok,JobManager.requireAssignee,hstatus,hkey]
  exact ⟨hauth,by decide,by decide,not_not.mpr rfl,hw'⟩

private theorem completeJob_succeeds (hd : Deployed w) {evidenceHash : Bytes32}
    (hauth : Authorised w .jobs env.sender BelRoles.PERFORM_MAINTENANCE)
    (hstatus : (JobManager.job w jobId).status = .IN_PROGRESS)
    (hkey : JobManager.callerKey w env = (JobManager.job w jobId).technicianKey)
    (hevidence : evidenceHash ≠ 0)
    (hlength : jobId.length ≠ 0 ∧ jobId.length ≤ JobManager.MAX_JOB_ID_LENGTH) :
    ∃ w',exec w ⟨env,.completeJob jobId evidenceHash⟩ = .ok w' := by
  obtain ⟨w',hw'⟩ := auditJob_succeeds hd env "JOB_COMPLETE" hlength (by decide)
    { JobManager.job w jobId with
      status := .COMPLETED, evidenceHash, completedAt := uint64 env.timestamp }
  refine ⟨w',?_⟩
  simp only [exec,JobManager.completeJob,checkRoles_bind_eq_ok,existingJob_bind_eq_ok,
    revertIf_bind_eq_ok,JobManager.requireAssignee,hstatus,hkey]
  exact ⟨hauth,by decide,by decide,not_not.mpr rfl,hevidence,hw'⟩

/-- The call of a duty goes through. -/
private theorem Working.succeeds (hinj : Function.Injective (keccak256 : Bytes → H))
    {status next : ChainJobStatus} (h : Working w jobId did technician manager status) {call : Call}
    (hduty : Duty jobId technician manager status (env.sender,call) next) :
    ∃ w',exec w ⟨env,call⟩ = .ok w' := by
  have hd := h.reachable.deployed
  have hcurrent := h.current
  obtain ⟨htechnician,hmanager⟩ := h.crew.keys
  have hlength := jobId_length hinj h.reachable jobId (by rw [hcurrent]; cases hduty <;> decide)
  have hworker := (authorised_iff_allows h.reachable .jobs).mpr h.crew.maintains
  have hzero : technician ≠ 0 := by
    rintro rfl
    have hregistered := (view_wallets_eq_some.mp h.crew.active).1
    exact hregistered h.reachable.identity.zero_unregistered
  have hkey : status ≠ .CREATED → status ≠ .REJECTED → env.sender = technician →
      JobManager.callerKey w env = (JobManager.job w jobId).technicianKey := by
    intro hcreated hrejected hsender
    rw [h.assigned hcreated hrejected,JobManager.callerKey,hsender,htechnician]
  generalize hsigned : (env.sender,call) = signed at hduty
  cases hduty with
  | assign =>
    obtain ⟨rfl,rfl⟩ := Prod.mk.inj hsigned
    exact assignJob_succeeds hd ((authorised_iff_allows h.reachable .jobs).mpr h.crew.assigns)
      (.inl hcurrent) hzero hworker hlength
  | reassign =>
    obtain ⟨rfl,rfl⟩ := Prod.mk.inj hsigned
    exact assignJob_succeeds hd ((authorised_iff_allows h.reachable .jobs).mpr h.crew.assigns)
      (.inr hcurrent) hzero hworker hlength
  | start =>
    obtain ⟨hsender,rfl⟩ := Prod.mk.inj hsigned
    exact startJob_succeeds hd (hsender ▸ hworker) hcurrent (hkey (by decide) (by decide) hsender) hlength
  | complete evidenceHash hevidence =>
    obtain ⟨hsender,rfl⟩ := Prod.mk.inj hsigned
    exact completeJob_succeeds hd (hsender ▸ hworker) hcurrent
      (hkey (by decide) (by decide) hsender) hevidence hlength
  | approve =>
    obtain ⟨rfl,rfl⟩ := Prod.mk.inj hsigned
    refine approveJob_succeeds hd env ((authorised_iff_allows h.reachable .jobs).mpr h.crew.verifies)
      hcurrent ?_ hlength
    rw [JobManager.requireIndependentVerifier,revertIf_eq_ok,JobManager.callerKey,
      h.assigned (by decide) (by decide)]
    exact fun he => hmanager (hinj he)

/-- The crew's next step is taken, and the crew can take the one after it. -/
private theorem Working.step (hinj : Function.Injective (keccak256 : Bytes → H))
    {status next : ChainJobStatus} (h : Working w jobId did technician manager status) {tx : Tx}
    (hduty : Duty jobId technician manager status tx.signed next) :
    Working (TransitionRuns.attempt exec w tx) jobId did technician manager next := by
  obtain ⟨env,call⟩ := tx
  obtain ⟨w',hexec⟩ := h.succeeds hinj hduty
  have hview : ∀ {j : JobManager.JobRecord H},JobStep w w' jobId j → w'.view = w.view := by
    rintro j ⟨log,rfl,-⟩
    rfl
  have hafter : ∀ j : JobManager.JobRecord H,JobStep w w' jobId j → j.status = next →
      j.technicianKey = keccak256 did → Working w' jobId did technician manager next := by
    intro j hstep hstatus hkey
    refine ⟨h.reachable.step hexec,?_,?_,fun _ _ => ?_⟩
    · rw [hview hstep]
      exact h.crew
    · rw [hstep.job_self]
      exact hstatus
    · rw [hstep.job_self]
      exact hkey
  have hattempt : TransitionRuns.attempt exec w ⟨env,call⟩ = w' := by
    rw [TransitionRuns.attempt,hexec]
  rw [hattempt]
  have htechnician := congrArg (keccak256 (H := H)) h.crew.keys.1
  generalize hsigned : Tx.signed ⟨env,call⟩ = signed at hduty
  cases hduty with
  | assign =>
    obtain ⟨-,rfl⟩ := Prod.mk.inj hsigned
    exact hafter _ (assignJob_cases hexec).2.2.2.2.2 rfl htechnician
  | reassign =>
    obtain ⟨-,rfl⟩ := Prod.mk.inj hsigned
    exact hafter _ (assignJob_cases hexec).2.2.2.2.2 rfl htechnician
  | start =>
    obtain ⟨-,rfl⟩ := Prod.mk.inj hsigned
    exact hafter _ (startJob_cases hexec).2.2.2 rfl (h.assigned (by decide) (by decide))
  | complete evidenceHash hevidence =>
    obtain ⟨-,rfl⟩ := Prod.mk.inj hsigned
    exact hafter _ (completeJob_cases hexec).2.2.2.2 rfl (h.assigned (by decide) (by decide))
  | approve =>
    obtain ⟨-,rfl⟩ := Prod.mk.inj hsigned
    exact hafter _ (approveJob_cases hexec).2.2.2 rfl (h.assigned (by decide) (by decide))

/-- The calls that take a job from a status to VERIFIED. -/
inductive Remaining (jobId : Bytes) (technician manager : Address) :
    ChainJobStatus → List (Address × Call) → Prop
  | done : Remaining jobId technician manager .VERIFIED []
  | duty {status next : ChainJobStatus} {signed : Address × Call} {rest : List (Address × Call)}
      (h : Duty jobId technician manager status signed next)
      (hrest : Remaining jobId technician manager next rest) :
      Remaining jobId technician manager status (signed::rest)

private theorem remaining_exists (jobId : Bytes) (technician manager : Address)
    {status : ChainJobStatus} (hstatus : status ≠ .NONE) :
    ∃ calls,Remaining jobId technician manager status calls ∧
      ∀ signed ∈ calls,signed.1 = technician ∨ signed.1 = manager := by
  have hcompleted : Remaining jobId technician manager .COMPLETED [(manager,.approveJob jobId)] :=
    .duty .approve .done
  have hstarted := Remaining.duty (.complete 1 (by decide)) hcompleted
  have hassigned := Remaining.duty .start hstarted
  cases status with
  | NONE => exact absurd rfl hstatus
  | CREATED => exact ⟨_,.duty .assign hassigned,by simp⟩
  | ASSIGNED => exact ⟨_,hassigned,by simp⟩
  | IN_PROGRESS => exact ⟨_,hstarted,by simp⟩
  | COMPLETED => exact ⟨_,hcompleted,by simp⟩
  | VERIFIED => exact ⟨_,.done,by simp⟩
  | REJECTED => exact ⟨_,.duty .reassign hassigned,by simp⟩

private theorem Working.finish (hinj : Function.Injective (keccak256 : Bytes → H))
    {status : ChainJobStatus} (h : Working w jobId did technician manager status)
    {calls : List (Address × Call)} (hcalls : Remaining jobId technician manager status calls)
    {txs : List Tx} (htxs : txs.map Tx.signed = calls) :
    Working (attemptAll exec w txs) jobId did technician manager .VERIFIED := by
  induction hcalls generalizing w txs with
  | done =>
    obtain rfl := List.map_eq_nil_iff.mp htxs
    exact h
  | duty hduty hrest ih =>
    obtain ⟨tx,rest,rfl,rfl,hmap⟩ := List.map_eq_cons_iff.mp htxs
    exact ih (h.step hinj hduty) hmap

end Duties

section Progress
variable {w : World H} {admin x y : Address} {jobId : Bytes}

/-- Transactions of these three, in whatever blocks they are mined, take the job to VERIFIED. If
somebody is at work on it, the job stays with their DID. -/
def Finishable (w : World H) (jobId : Bytes) (admin x y : Address) : Prop :=
  ∃ calls : List (Address × Call),(∀ signed ∈ calls,signed.1 = admin ∨ signed.1 = x ∨ signed.1 = y) ∧
    ∀ txs : List Tx,txs.map Tx.signed = calls →
      (JobManager.job (attemptAll exec w txs) jobId).status = .VERIFIED ∧
      ((JobManager.job w jobId).status ≠ .CREATED → (JobManager.job w jobId).status ≠ .REJECTED →
        (JobManager.job (attemptAll exec w txs) jobId).technicianKey =
          (JobManager.job w jobId).technicianKey)

theorem adminWallet_iff_allows (hw : Reachable w) :
    AdminWallet w admin ↔ w.view.allows admin BelRoles.ADMIN = true := by
  rw [← authorised_iff_allows hw .jobs]
  constructor
  · intro h
    refine ⟨hw.deployed.wired .jobs,h.1,?_⟩
    rw [rolesOf_active hw.identity h.1]
    exact h.2
  · intro h
    refine ⟨h.active,?_⟩
    have hroles := h.roles
    rwa [rolesOf_active hw.identity h.active] at hroles

/-- The DID that the rest of a job is to be done by. -/
private theorem technician_did (hinj : Function.Injective (keccak256 : Bytes → H)) (hw : Reachable w)
    (hjob : (JobManager.job w jobId).status ≠ .NONE) :
    ∃ did : Bytes,(did.length ≠ 0 ∧ did.length ≤ IdentityRegistry.MAX_DID_LENGTH) ∧
      ((JobManager.job w jobId).status ≠ .CREATED → (JobManager.job w jobId).status ≠ .REJECTED →
        (JobManager.job w jobId).technicianKey = keccak256 did) := by
  by_cases hcreated : (JobManager.job w jobId).status = .CREATED
  · exact ⟨utf8 "T",by decide,fun h => absurd hcreated h⟩
  obtain ⟨hist,hreached⟩ := hw
  have hassigned : (JobManager.job w jobId).technician ≠ 0 := by
    intro hzero
    rcases (hreached.jobRounds hinj jobId).technician.mp hzero with hnone | hnew
    · exact hjob hnone
    · exact hcreated hnew
  have hw : Reachable w := ⟨hist,hreached⟩
  have hregistered := (hw.technicians jobId).resolve_left hassigned
  exact ⟨_,hw.identity.identityOf_length hregistered,fun _ _ => hw.technicianKeys jobId hassigned⟩

private theorem exists_other_did (did : Bytes) :
    ∃ other : Bytes,other ≠ did ∧ other.length ≠ 0 ∧ other.length ≤ IdentityRegistry.MAX_DID_LENGTH := by
  by_cases h : did = utf8 "M"
  · subst h
    exact ⟨utf8 "N",by decide⟩
  · exact ⟨utf8 "M",fun he => h he.symm,by decide⟩

theorem finishable (hinj : Function.Injective (keccak256 : Bytes → H))
    (hnonzero : ∀ did,(keccak256 did : H) ≠ 0) (hw : Reachable w) (hadmin : AdminWallet w admin)
    (hx : x ≠ 0) (hy : y ≠ 0) (hxy : x ≠ y) (hxnew : (w.identity.wallets x).status = .NONE)
    (hynew : (w.identity.wallets y).status = .NONE)
    (hjob : (JobManager.job w jobId).status ≠ .NONE) : Finishable w jobId admin x y := by
  rw [adminWallet_iff_allows hw] at hadmin
  rw [← view_wallets_eq_none] at hxnew hynew
  obtain ⟨did,hdid,hkey⟩ := technician_did hinj hw hjob
  obtain ⟨other,hother,hlength⟩ := exists_other_did did
  obtain ⟨calls,hcalls,hsigners⟩ := remaining_exists jobId x y hjob
  refine ⟨(enrolment x did .TECHNICIAN).map (fun call => (admin,call))++
    ((enrolment y other .MANAGER).map (fun call => (admin,call))++calls),?_,?_⟩
  · intro signed hsigned
    simp only [List.mem_append,List.mem_map] at hsigned
    rcases hsigned with ⟨call,-,rfl⟩ | ⟨call,-,rfl⟩ | hsigned
    · exact .inl rfl
    · exact .inl rfl
    · exact .inr (hsigners signed hsigned)
  intro txs htxs
  obtain ⟨txs₁,rest,rfl,htxs₁,hrest⟩ := List.map_eq_append_iff.mp htxs
  obtain ⟨txs₂,txs₃,rfl,htxs₂,htxs₃⟩ := List.map_eq_append_iff.mp hrest
  obtain ⟨h₁,hkept₁⟩ := attemptAll_enrolment hinj hw hadmin hx hxnew hdid (hnonzero did) htxs₁
  have hynew₁ : (attemptAll exec w txs₁).view.wallets y = none := by
    rw [h₁.wallets,Function.update_of_ne hxy.symm]
    exact hynew
  obtain ⟨h₂,hkept₂⟩ := attemptAll_enrolment hinj (hw.attemptAll txs₁) (h₁.allows hxnew hadmin) hy
    hynew₁ hlength (hnonzero other) htxs₂
  have hsame : ∀ id,JobManager.job (attemptAll exec (attemptAll exec w txs₁) txs₂) id =
      JobManager.job w id := fun id => (hkept₁.trans hkept₂).job_eq id
  have hx₂ : (attemptAll exec (attemptAll exec w txs₁) txs₂).view.wallets x = some (did,.ACTIVE) := by
    rw [h₂.wallets,Function.update_of_ne hxy]
    exact h₁.active
  have hcrew : Crew (attemptAll exec (attemptAll exec w txs₁) txs₂).view x y did := by
    refine ⟨hx₂,?_,?_,?_,?_⟩
    · exact h₂.allows hynew₁ (allows_of_has h₁.active h₁.role (by decide))
    · exact allows_of_has h₂.active h₂.role (by decide)
    · exact allows_of_has h₂.active h₂.role (by decide)
    · intro status he
      rw [h₂.active] at he
      exact hother (Prod.mk.inj (Option.some.inj he)).1
  have hworking : Working (attemptAll exec (attemptAll exec w txs₁) txs₂) jobId did x y
      (JobManager.job w jobId).status := by
    refine ⟨(hw.attemptAll txs₁).attemptAll txs₂,hcrew,?_,?_⟩
    · rw [hsame]
    · rw [hsame]
      exact hkey
  have hend := hworking.finish hinj hcalls htxs₃
  have hfold : attemptAll exec w (txs₁++(txs₂++txs₃)) =
      attemptAll exec (attemptAll exec (attemptAll exec w txs₁) txs₂) txs₃ := by
    simp [attemptAll]
  rw [hfold]
  refine ⟨hend.current,fun hcreated hrejected => ?_⟩
  rw [hend.assigned (by decide) (by decide),hkey hcreated hrejected]

/-- As long as every revocation leaves an administrator behind, no job is ever stuck. -/
theorem jobs_finishable (hinj : Function.Injective (keccak256 : Bytes → H))
    (hnonzero : ∀ did,(keccak256 did : H) ≠ 0) {hist : List (World H × Tx)} (h : ReachedBy hist w)
    (hkeeps : ∀ s tx,(s,tx) ∈ hist → KeepsAdmin s tx) {s : World H}
    (hs : s = w ∨ ∃ tx,(s,tx) ∈ hist) (hx : x ≠ 0) (hy : y ≠ 0) (hxy : x ≠ y)
    (hxnew : (s.identity.wallets x).status = .NONE) (hynew : (s.identity.wallets y).status = .NONE)
    (hjob : (JobManager.job s jobId).status ≠ .NONE) :
    ∃ admin,AdminWallet s admin ∧ Finishable s jobId admin x y := by
  obtain ⟨hend,hearlier⟩ := (administrable_iff_keepsAdmin hist w h).mpr hkeeps
  have hreached : Reachable s ∧ Administrable s := by
    rcases hs with rfl | ⟨tx,hmem⟩
    · exact ⟨⟨hist,h⟩,hend⟩
    · obtain ⟨later,earlier,rfl⟩ := List.append_of_mem hmem
      obtain ⟨t,hreach,-,-⟩ := h.split
      exact ⟨⟨earlier,hreach⟩,hearlier s tx hmem⟩
  obtain ⟨hreach,admin,hadmin⟩ := hreached
  exact ⟨admin,hadmin,finishable hinj hnonzero hreach hadmin hx hy hxy hxnew hynew hjob⟩

end Progress

section Prototype

/-- The technician's only wallet is revoked in the middle of the job. -/
def abandonedTxs : List Tx :=
  reworkTxs.take 11++[txOf 0xad 13 (.revokeWallet 0xc1 (utf8 "lost"))]

/-- What can be computed of `KeepsAdmin`, for one administrator. -/
def keepsWallet (a : Address) (s : World (Option Bytes)) (tx : Tx) : Bool :=
  match tx.call with
  | .revokeWallet wallet _ =>
    decide (a ≠ wallet) && (decide ((s.identity.wallets a).status = .ACTIVE) &&
      (RoleRegistry.rolesOfIdentity s (IdentityRegistry.identityOf s.identity a)).has .ADMIN)
  | .revokeRole _ _ => false
  | _ => true

theorem keepsAdmin_of_keepsWallet {a : Address} {s : World (Option Bytes)} {tx : Tx}
    (h : keepsWallet a s tx = true) : KeepsAdmin s tx := by
  obtain ⟨env,call⟩ := tx
  cases call with
  | revokeWallet wallet reason =>
    simp only [keepsWallet,Bool.and_eq_true,decide_eq_true_eq] at h
    exact ⟨a,h.1,h.2.1,didHolds_admin.mpr h.2.2⟩
  | revokeRole identity role => cases h
  | _ => trivial

theorem jobs_finishable_abandoned :
    ∃ admin,AdminWallet (attemptAll exec prototypeWorld abandonedTxs) admin ∧
      Finishable (attemptAll exec prototypeWorld abandonedTxs) (utf8 "JOB-1") admin 0xd1 0xd2 := by
  have hend : (let w := attemptAll exec prototypeWorld abandonedTxs
      ((history exec prototypeWorld abandonedTxs).all fun h => keepsWallet 0xad h.1 h.2) = true ∧
        (w.identity.wallets 0xd1).status = .NONE ∧ (w.identity.wallets 0xd2).status = .NONE ∧
        (JobManager.job w (utf8 "JOB-1")).status = .IN_PROGRESS) := by
    decide +kernel
  obtain ⟨hkeeps,hx,hy,hjob⟩ := hend
  rw [List.all_eq_true] at hkeeps
  refine jobs_finishable prototype_keccak_injective (fun _ he => by cases he)
    (prototype_reachedBy abandonedTxs) ?_ (.inl rfl) (by decide) (by decide) (by decide) hx hy
    (by rw [hjob]; decide)
  exact fun s tx hmem => keepsAdmin_of_keepsWallet (hkeeps (s,tx) hmem)

end Prototype

end BelLedger
