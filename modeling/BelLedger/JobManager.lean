import BelLedger.AssetRegistry

/-! # JobManager: the on-chain maintenance job state machine and what each transition can do -/
namespace BelLedger
open CheckedCalls

variable {H : Type} [Keccak H] [DecidableEq H]

namespace JobManager

/-- The constructor. -/
def deploy (env : Env) (assetRegistry : Address) : Except Revert (Storage H) := do
  revertIf (assetRegistry = 0) .ZeroAddress
  pure { access := { deployer := env.sender }
         jobs := fun _ => ⟨[], 0, 0, 0, 0, 0, .NONE, 0, 0, 0, 0, 0, []⟩ }

/-- The record stored for a job id; its status is `NONE` when there is no such job. -/
def job (w : World H) (jobId : Bytes) : JobRecord H := w.jobs.jobs (keccak256 jobId)

def setJob (w : World H) (jobId : Bytes) (j : JobRecord H) : World H :=
  { w with jobs := { w.jobs with jobs := Function.update w.jobs.jobs (keccak256 jobId) j } }

/-- `_existing`. -/
def existing (w : World H) (jobId : Bytes) : Except Revert (JobRecord H) := do
  revertIf ((job w jobId).status = .NONE) (.JobNotFound jobId)
  pure (job w jobId)

/-- `_callerKey`. -/
def callerKey (w : World H) (env : Env) : H :=
  keccak256 (IdentityRegistry.identityOf w.identity env.sender)

/-- `_requireAssignee`. -/
def requireAssignee (w : World H) (env : Env) (j : JobRecord H) : Except Revert Unit :=
  revertIf (callerKey w env ≠ j.technicianKey) (.NotAssignedTechnician env.sender)

/-- `_requireIndependentVerifier`. -/
def requireIndependentVerifier (w : World H) (env : Env) (j : JobRecord H) : Except Revert Unit :=
  revertIf (callerKey w env = j.technicianKey) (.VerifierIsTechnician env.sender)

/-- `_audit("JOB", jobId, action)`. -/
def auditJob (w : World H) (env : Env) (jobId : Bytes) (action : String) :
    Except Revert (World H) :=
  audit w .jobs env (utf8 "JOB") jobId (utf8 action)

def createJob (w : World H) (env : Env) (jobId : Bytes) (assetNftId : ℕ) :
    Except Revert (World H) := do
  BelAccess.checkRoles w .jobs env.sender BelRoles.CREATE_JOB
  revertIf (jobId.length = 0 ∨ jobId.length > MAX_JOB_ID_LENGTH) .InvalidJobId
  revertIf ((job w jobId).status ≠ .NONE) (.JobAlreadyExists jobId)
  revertIf (AssetRegistry.exists w.assets assetNftId = false) (.AssetUnavailable assetNftId)
  let state ← AssetRegistry.stateOf w.assets assetNftId
  revertIf ((keccak256 state : H) = keccak256 (utf8 "DECOMMISSIONED")) (.AssetUnavailable assetNftId)
  let j := { job w jobId with
    jobId, assetNftId, createdBy := env.sender, status := .CREATED,
    createdAt := uint64 env.timestamp }
  auditJob (setJob w jobId j) env jobId "JOB_CREATE"

def assignJob (w : World H) (env : Env) (jobId : Bytes) (technician : Address) :
    Except Revert (World H) := do
  BelAccess.checkRoles w .jobs env.sender BelRoles.ASSIGN_TECHNICIAN
  let j ← existing w jobId
  revertIf (j.status ≠ .CREATED ∧ j.status ≠ .REJECTED)
    (.InvalidTransition jobId j.status .ASSIGNED)
  revertIf (technician = 0 ∨ IdentityRegistry.isActiveWallet w.identity technician = false ∨
    BelAccess.hasAnyRole w technician BelRoles.PERFORM_MAINTENANCE = false)
    (.InvalidTechnician technician)
  let j := { j with
    technician, technicianKey := keccak256 (IdentityRegistry.identityOf w.identity technician),
    status := .ASSIGNED }
  auditJob (setJob w jobId j) env jobId "JOB_ASSIGN"

def startJob (w : World H) (env : Env) (jobId : Bytes) : Except Revert (World H) := do
  BelAccess.checkRoles w .jobs env.sender BelRoles.PERFORM_MAINTENANCE
  let j ← existing w jobId
  revertIf (j.status ≠ .ASSIGNED) (.InvalidTransition jobId j.status .IN_PROGRESS)
  requireAssignee w env j
  auditJob (setJob w jobId { j with status := .IN_PROGRESS }) env jobId "JOB_START"

def completeJob (w : World H) (env : Env) (jobId : Bytes) (evidenceHash : Bytes32) :
    Except Revert (World H) := do
  BelAccess.checkRoles w .jobs env.sender BelRoles.PERFORM_MAINTENANCE
  let j ← existing w jobId
  revertIf (j.status ≠ .IN_PROGRESS) (.InvalidTransition jobId j.status .COMPLETED)
  requireAssignee w env j
  revertIf (evidenceHash = 0) .InvalidEvidence
  let j := { j with
    status := .COMPLETED, evidenceHash, completedAt := uint64 env.timestamp }
  auditJob (setJob w jobId j) env jobId "JOB_COMPLETE"

def approveJob (w : World H) (env : Env) (jobId : Bytes) : Except Revert (World H) := do
  BelAccess.checkRoles w .jobs env.sender BelRoles.VERIFY_MAINTENANCE
  let j ← existing w jobId
  revertIf (j.status ≠ .COMPLETED) (.InvalidTransition jobId j.status .VERIFIED)
  requireIndependentVerifier w env j
  let j := { j with
    status := .VERIFIED, verifier := env.sender, verifiedAt := uint64 env.timestamp }
  auditJob (setJob w jobId j) env jobId "JOB_APPROVE"

def rejectJob (w : World H) (env : Env) (jobId reason : Bytes) : Except Revert (World H) := do
  BelAccess.checkRoles w .jobs env.sender BelRoles.VERIFY_MAINTENANCE
  revertIf (reason.length = 0 ∨ reason.length > MAX_REASON_LENGTH) .InvalidReason
  let j ← existing w jobId
  revertIf (j.status ≠ .COMPLETED) (.InvalidTransition jobId j.status .REJECTED)
  requireIndependentVerifier w env j
  let rejectionCount ← checkedAdd 32 (.Panic .arithmetic) j.rejectionCount 1
  let j := { j with
    status := .REJECTED, verifier := env.sender, rejectionCount, lastRejectionReason := reason }
  auditJob (setJob w jobId j) env jobId "JOB_REJECT"

end JobManager

section Specifications
open JobManager

omit [DecidableEq H] in
theorem existingJob_bind_eq_ok {w : World H} {jobId : Bytes} {β : Type}
    {f : JobRecord H → Except Revert β} {v : β} :
    (existing w jobId >>= f) = .ok v ↔ (job w jobId).status ≠ .NONE ∧ f (job w jobId) = .ok v := by
  rw [ok_bind_iff]
  simp only [existing,revertIf_bind_eq_ok,ok_pure_iff]
  constructor
  · rintro ⟨j,⟨hne,rfl⟩,hf⟩
    exact ⟨hne,hf⟩
  · rintro ⟨hne,hf⟩
    exact ⟨_,⟨hne,rfl⟩,hf⟩

/-- The world after a job transition: the new record and a longer audit log. -/
def JobStep (w w' : World H) (jobId : Bytes) (j : JobRecord H) : Prop :=
  ∃ log, w' = { setJob w jobId j with audit := log } ∧ log.isRecorder = w.audit.isRecorder

private theorem auditJob_step {w w' : World H} {env : Env} {jobId : Bytes} {action : String}
    {j : JobRecord H} (h : auditJob (setJob w jobId j) env jobId action = .ok w') :
    JobStep w w' jobId j := audit_frame h

theorem createJob_cases {w w' : World H} {env : Env} {jobId : Bytes} {assetNftId : ℕ}
    (h : createJob w env jobId assetNftId = .ok w') :
    Authorised w .jobs env.sender BelRoles.CREATE_JOB ∧
    (jobId.length ≠ 0 ∧ jobId.length ≤ MAX_JOB_ID_LENGTH) ∧ (job w jobId).status = .NONE ∧
    (w.assets.assets assetNftId).state ≠ .NONE ∧
    JobStep w w' jobId { job w jobId with
      jobId, assetNftId, createdBy := env.sender, status := .CREATED,
      createdAt := uint64 env.timestamp } := by
  simp only [createJob,checkRoles_bind_eq_ok,revertIf_bind_eq_ok,not_or,Nat.not_lt,gt_iff_lt,
    not_not,ne_eq] at h
  obtain ⟨hauth,hid,hnone,hexists,h⟩ := h
  obtain ⟨state,-,h⟩ := ok_bind_iff.mp h
  rw [revertIf_bind_eq_ok] at h
  exact ⟨hauth,hid,hnone,by simpa [AssetRegistry.exists] using hexists,auditJob_step h.2⟩

theorem assignJob_cases {w w' : World H} {env : Env} {jobId : Bytes} {technician : Address}
    (h : assignJob w env jobId technician = .ok w') :
    Authorised w .jobs env.sender BelRoles.ASSIGN_TECHNICIAN ∧
    ((job w jobId).status = .CREATED ∨ (job w jobId).status = .REJECTED) ∧
    technician ≠ 0 ∧ (w.identity.wallets technician).status = .ACTIVE ∧
    BelAccess.hasAnyRole w technician BelRoles.PERFORM_MAINTENANCE = true ∧
    JobStep w w' jobId { job w jobId with
      technician, technicianKey := keccak256 (IdentityRegistry.identityOf w.identity technician),
      status := .ASSIGNED } := by
  simp only [assignJob,checkRoles_bind_eq_ok,existingJob_bind_eq_ok,revertIf_bind_eq_ok,not_or,
    isActiveWallet_false_iff,not_not,Bool.not_eq_false] at h
  obtain ⟨hauth,-,hstatus,⟨hzero,hactive,hrole⟩,h⟩ := h
  exact ⟨hauth,by tauto,hzero,hactive,hrole,auditJob_step h⟩

theorem startJob_cases {w w' : World H} {env : Env} {jobId : Bytes}
    (h : startJob w env jobId = .ok w') :
    Authorised w .jobs env.sender BelRoles.PERFORM_MAINTENANCE ∧
    (job w jobId).status = .ASSIGNED ∧ callerKey w env = (job w jobId).technicianKey ∧
    JobStep w w' jobId { job w jobId with status := .IN_PROGRESS } := by
  simp only [startJob,checkRoles_bind_eq_ok,existingJob_bind_eq_ok,revertIf_bind_eq_ok,
    requireAssignee,not_not,ne_eq] at h
  obtain ⟨hauth,-,hstatus,hkey,h⟩ := h
  exact ⟨hauth,hstatus,hkey,auditJob_step h⟩

theorem completeJob_cases {w w' : World H} {env : Env} {jobId : Bytes} {evidenceHash : Bytes32}
    (h : completeJob w env jobId evidenceHash = .ok w') :
    Authorised w .jobs env.sender BelRoles.PERFORM_MAINTENANCE ∧
    (job w jobId).status = .IN_PROGRESS ∧ callerKey w env = (job w jobId).technicianKey ∧
    evidenceHash ≠ 0 ∧
    JobStep w w' jobId { job w jobId with
      status := .COMPLETED, evidenceHash, completedAt := uint64 env.timestamp } := by
  simp only [completeJob,checkRoles_bind_eq_ok,existingJob_bind_eq_ok,revertIf_bind_eq_ok,
    requireAssignee,not_not,ne_eq] at h
  obtain ⟨hauth,-,hstatus,hkey,hevidence,h⟩ := h
  exact ⟨hauth,hstatus,hkey,hevidence,auditJob_step h⟩

theorem approveJob_cases {w w' : World H} {env : Env} {jobId : Bytes}
    (h : approveJob w env jobId = .ok w') :
    Authorised w .jobs env.sender BelRoles.VERIFY_MAINTENANCE ∧
    (job w jobId).status = .COMPLETED ∧ callerKey w env ≠ (job w jobId).technicianKey ∧
    JobStep w w' jobId { job w jobId with
      status := .VERIFIED, verifier := env.sender, verifiedAt := uint64 env.timestamp } := by
  simp only [approveJob,checkRoles_bind_eq_ok,existingJob_bind_eq_ok,revertIf_bind_eq_ok,
    requireIndependentVerifier,not_not,ne_eq] at h
  obtain ⟨hauth,-,hstatus,hkey,h⟩ := h
  exact ⟨hauth,hstatus,hkey,auditJob_step h⟩

theorem rejectJob_cases {w w' : World H} {env : Env} {jobId reason : Bytes}
    (h : rejectJob w env jobId reason = .ok w') :
    Authorised w .jobs env.sender BelRoles.VERIFY_MAINTENANCE ∧
    (reason.length ≠ 0 ∧ reason.length ≤ MAX_REASON_LENGTH) ∧
    (job w jobId).status = .COMPLETED ∧ callerKey w env ≠ (job w jobId).technicianKey ∧
    (job w jobId).rejectionCount + 1 < 2 ^ 32 ∧
    JobStep w w' jobId { job w jobId with
      status := .REJECTED, verifier := env.sender,
      rejectionCount := (job w jobId).rejectionCount + 1, lastRejectionReason := reason } := by
  simp only [rejectJob,checkRoles_bind_eq_ok,existingJob_bind_eq_ok,revertIf_bind_eq_ok,
    requireIndependentVerifier,not_or,Nat.not_lt,gt_iff_lt,not_not,ne_eq] at h
  obtain ⟨hauth,hreason,-,hstatus,hkey,h⟩ := h
  obtain ⟨count,hcount,h⟩ := ok_bind_iff.mp h
  obtain ⟨hbound,rfl⟩ := checkedAdd_eq_ok.mp hcount
  exact ⟨hauth,hreason,hstatus,hkey,hbound,auditJob_step h⟩

end Specifications
end BelLedger
