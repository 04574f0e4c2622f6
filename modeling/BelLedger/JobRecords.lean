import BelLedger.IdentityLifecycle
import BelLedger.JobSeparation

/-!
# The job records of JobManager

A rejected job goes through assignment, start and completion again, with the technician, evidence,
completion time, verifier and reason of the earlier round still in its record. The clauses say which
of these can be left over in which status.
-/
namespace BelLedger
open CheckedCalls TransitionRuns JobManager IdentityRegistry

variable {H : Type}

/-- A rejection of the job. -/
def Call.rejects (jobId : Bytes) : Call → Bool
  | .rejectJob j _ => j = jobId
  | _ => false

/-- An approval or a rejection of the job. -/
def Call.judges (jobId : Bytes) : Call → Bool
  | .approveJob j | .rejectJob j _ => j = jobId
  | _ => false

/-- How often the job was rejected. -/
def rejections (jobId : Bytes) (hist : List (World H × Tx)) : ℕ :=
  hist.countP (fun entry => entry.2.call.rejects jobId)

/-- Whether the job was ever approved or rejected. -/
def judged (jobId : Bytes) (hist : List (World H × Tx)) : Bool :=
  hist.any (fun entry => entry.2.call.judges jobId)

/-- What one call can do to one job's record. -/
inductive JobRecordChange (env : Env) (jobId : Bytes) (r : JobRecord H) : Call → JobRecord H → Prop
  | other (call : Call) (hother : call.jobId ≠ some jobId) : JobRecordChange env jobId r call r
  | create (assetNftId : ℕ) (hnew : r.status = .NONE) :
      JobRecordChange env jobId r (.createJob jobId assetNftId)
        { r with
          jobId, assetNftId, createdBy := env.sender, status := .CREATED,
          createdAt := uint64 env.timestamp }
  | assign (technician : Address) (technicianKey : H)
      (hstatus : r.status = .CREATED ∨ r.status = .REJECTED) (htechnician : technician ≠ 0) :
      JobRecordChange env jobId r (.assignJob jobId technician)
        { r with technician, technicianKey, status := .ASSIGNED }
  | start (hstatus : r.status = .ASSIGNED) :
      JobRecordChange env jobId r (.startJob jobId) { r with status := .IN_PROGRESS }
  | complete (evidenceHash : Bytes32) (hstatus : r.status = .IN_PROGRESS)
      (hevidence : evidenceHash ≠ 0) :
      JobRecordChange env jobId r (.completeJob jobId evidenceHash)
        { r with status := .COMPLETED, evidenceHash, completedAt := uint64 env.timestamp }
  | approve (hstatus : r.status = .COMPLETED) (hsender : env.sender ≠ 0) :
      JobRecordChange env jobId r (.approveJob jobId)
        { r with status := .VERIFIED, verifier := env.sender, verifiedAt := uint64 env.timestamp }
  | reject (reason : Bytes) (hstatus : r.status = .COMPLETED) (hsender : env.sender ≠ 0)
      (hreason : reason.length ≠ 0) (hcount : r.rejectionCount + 1 < 2 ^ 32) :
      JobRecordChange env jobId r (.rejectJob jobId reason)
        { r with
          status := .REJECTED, verifier := env.sender, rejectionCount := r.rejectionCount + 1,
          lastRejectionReason := reason }

section Steps
variable [Keccak H] {w w' : World H}

private theorem active_ne_zero (hi : IdentityInvariant w.identity) {a : Address}
    (ha : Active w.identity a) : a ≠ 0 := by
  rintro rfl
  rw [Active,hi.zero_unregistered] at ha
  cases ha

variable [DecidableEq H]

theorem exec_jobRecordChange (hinj : Function.Injective (keccak256 : Bytes → H)) {tx : Tx}
    (hd : Deployed w) (hi : IdentityInvariant w.identity) (hs : exec w tx = .ok w')
    (jobId : Bytes) : JobRecordChange tx.env jobId (job w jobId) tx.call (job w' jobId) := by
  by_cases hjob : tx.call.jobId = some jobId
  swap
  · rw [exec_job_other hinj hd hs hjob]
    exact .other tx.call hjob
  rcases tx with ⟨env,call⟩
  cases call with
  | createJob j assetNftId =>
    obtain rfl : j = jobId := Option.some.inj hjob
    obtain ⟨-,-,hnew,-,hstep⟩ := createJob_cases hs
    rw [hstep.job_self]
    exact .create assetNftId hnew
  | assignJob j technician =>
    obtain rfl : j = jobId := Option.some.inj hjob
    obtain ⟨-,hstatus,hzero,-,-,hstep⟩ := assignJob_cases hs
    rw [hstep.job_self]
    exact .assign technician _ hstatus hzero
  | startJob j =>
    obtain rfl : j = jobId := Option.some.inj hjob
    obtain ⟨-,hstatus,-,hstep⟩ := startJob_cases hs
    rw [hstep.job_self]
    exact .start hstatus
  | completeJob j evidenceHash =>
    obtain rfl : j = jobId := Option.some.inj hjob
    obtain ⟨-,hstatus,-,hevidence,hstep⟩ := completeJob_cases hs
    rw [hstep.job_self]
    exact .complete evidenceHash hstatus hevidence
  | approveJob j =>
    obtain rfl : j = jobId := Option.some.inj hjob
    obtain ⟨hauth,hstatus,-,hstep⟩ := approveJob_cases hs
    rw [hstep.job_self]
    exact .approve hstatus (active_ne_zero hi hauth.active)
  | rejectJob j reason =>
    obtain rfl : j = jobId := Option.some.inj hjob
    obtain ⟨hauth,hreason,hstatus,-,hcount,hstep⟩ := rejectJob_cases hs
    rw [hstep.job_self]
    exact .reject reason hstatus (active_ne_zero hi hauth.active) hreason.1 hcount
  | _ => simp [Call.jobId] at hjob

end Steps

/-- The record of a job, or of an absent one, against the decisions taken on it. -/
structure JobRounds (rejected : ℕ) (decided : Bool) (r : JobRecord H) : Prop where
  technician : r.technician = 0 ↔ r.status = .NONE ∨ r.status = .CREATED
  evidence : r.status = .COMPLETED ∨ r.status = .VERIFIED ∨ r.status = .REJECTED →
    r.evidenceHash ≠ 0
  rejectionCount : r.rejectionCount = rejected
  rejectionCount_lt : r.rejectionCount < 2 ^ 32
  reason : r.lastRejectionReason = [] ↔ rejected = 0
  verifier : r.verifier = 0 ↔ decided = false

/-- The time stamps of one job's record, none later than `now`. -/
structure JobTimes (now : ℕ) (r : JobRecord H) : Prop where
  verified : r.verifiedAt ≠ 0 ↔ r.status = .VERIFIED
  completed : r.status = .COMPLETED ∨ r.status = .VERIFIED ∨ r.status = .REJECTED →
    r.completedAt ≠ 0
  absent : r.status = .NONE → r.completedAt = 0
  created_le : r.createdAt ≤ now
  completed_le : r.completedAt ≤ now
  created_completed : r.completedAt ≠ 0 → r.createdAt ≤ r.completedAt
  completed_verified : r.verifiedAt ≠ 0 → r.completedAt ≤ r.verifiedAt

/-- What no call changes in the record of an existing job. -/
structure JobKept (r r' : JobRecord H) : Prop where
  jobId : r'.jobId = r.jobId
  assetNftId : r'.assetNftId = r.assetNftId
  createdBy : r'.createdBy = r.createdBy
  createdAt : r'.createdAt = r.createdAt
  final : r.status = .VERIFIED → r' = r

section Records
variable {env : Env} {jobId : Bytes} {r r' : JobRecord H} {call : Call}

theorem JobRecordChange.kept (h : JobRecordChange env jobId r call r') (hr : r.status ≠ .NONE) :
    JobKept r r' ∧ r'.status ≠ .NONE := by
  cases h with
  | other hother => exact ⟨⟨rfl,rfl,rfl,rfl,fun _ => rfl⟩,hr⟩
  | create assetNftId hnew => exact absurd hnew hr
  | assign technician technicianKey hstatus htechnician =>
    exact ⟨⟨rfl,rfl,rfl,rfl,fun hv => by simp [hv] at hstatus⟩,nofun⟩
  | start hstatus => exact ⟨⟨rfl,rfl,rfl,rfl,fun hv => by simp [hv] at hstatus⟩,nofun⟩
  | complete evidenceHash hstatus hevidence =>
    exact ⟨⟨rfl,rfl,rfl,rfl,fun hv => by simp [hv] at hstatus⟩,nofun⟩
  | approve hstatus hsender => exact ⟨⟨rfl,rfl,rfl,rfl,fun hv => by simp [hv] at hstatus⟩,nofun⟩
  | reject reason hstatus hsender hreason hcount =>
    exact ⟨⟨rfl,rfl,rfl,rfl,fun hv => by simp [hv] at hstatus⟩,nofun⟩

/-- One call moves the counters of the history and the record together. -/
theorem JobRecordChange.rounds {rejected : ℕ} {decided : Bool}
    (h : JobRecordChange env jobId r call r') (hr : JobRounds rejected decided r) :
    JobRounds (rejected + if call.rejects jobId then 1 else 0) (call.judges jobId || decided)
      r' := by
  obtain ⟨htechnician,hevidence,hrejections,hlt,hreason,hverifier⟩ := hr
  cases h with
  | other hother =>
    have hrejects : call.rejects jobId = false := by
      cases call <;> simp_all [Call.rejects,Call.jobId]
    have hjudges : call.judges jobId = false := by
      cases call <;> simp_all [Call.judges,Call.jobId]
    rw [hrejects,hjudges]
    exact ⟨htechnician,hevidence,hrejections,hlt,hreason,hverifier⟩
  | create assetNftId hnew =>
    exact ⟨by simpa [hnew] using htechnician,by simp,hrejections,hlt,hreason,hverifier⟩
  | assign technician technicianKey hstatus hzero =>
    exact ⟨by simpa using hzero,by simp,hrejections,hlt,hreason,hverifier⟩
  | start hstatus =>
    exact ⟨by simpa [hstatus] using htechnician,by simp,hrejections,hlt,hreason,hverifier⟩
  | complete evidenceHash hstatus hne =>
    exact ⟨by simpa [hstatus] using htechnician,fun _ => hne,hrejections,hlt,hreason,hverifier⟩
  | approve hstatus hsender =>
    refine ⟨by simpa [hstatus] using htechnician,fun _ => hevidence (.inl hstatus),hrejections,hlt,
      hreason,?_⟩
    simpa [Call.judges] using hsender
  | reject reason hstatus hsender hlength hcount =>
    refine ⟨by simpa [hstatus] using htechnician,fun _ => hevidence (.inl hstatus),?_,hcount,?_,?_⟩
    · simp [Call.rejects,hrejections]
    · have hne : reason ≠ [] := fun he => hlength (by rw [he]; rfl)
      simpa [Call.rejects] using hne
    · simpa [Call.judges] using hsender

theorem JobRecordChange.times {before : ℕ} (h : JobRecordChange env jobId r call r')
    (hr : JobTimes before r) (hpos : 0 < before) (hle : before ≤ env.timestamp) (hlt : env.timestamp < 2 ^ 64) :
    JobTimes env.timestamp r' := by
  have hnow : uint64 env.timestamp = env.timestamp := Nat.mod_eq_of_lt hlt
  have hcreated := hr.created_le.trans hle
  have hcompleted := hr.completed_le.trans hle
  have hunverified : r.status ≠ .VERIFIED → r.verifiedAt = 0 := fun hne =>
    by_contra fun hv => hne (hr.verified.mp hv)
  cases h with
  | other hother =>
    exact ⟨hr.verified,hr.completed,hr.absent,hcreated,hcompleted,hr.created_completed,
      hr.completed_verified⟩
  | create assetNftId hnew =>
    have hverified := hunverified (by simp [hnew])
    exact ⟨by simp [hverified],by simp,nofun,by simp [hnow],hcompleted,
      fun hne => absurd (hr.absent hnew) hne,fun hne => absurd hverified hne⟩
  | assign technician technicianKey hstatus hzero =>
    have hverified := hunverified (by rcases hstatus with hs | hs <;> simp [hs])
    exact ⟨by simp [hverified],by simp,nofun,hcreated,hcompleted,hr.created_completed,
      fun hne => absurd hverified hne⟩
  | start hstatus =>
    have hverified := hunverified (by simp [hstatus])
    exact ⟨by simp [hverified],by simp,nofun,hcreated,hcompleted,hr.created_completed,
      fun hne => absurd hverified hne⟩
  | complete evidenceHash hstatus hne =>
    have hverified := hunverified (by simp [hstatus])
    simp only [hnow]
    exact ⟨by simp [hverified],fun _ => by simp only; omega,nofun,hcreated,Nat.le_refl _,
      fun _ => hcreated,fun hne => absurd hverified hne⟩
  | approve hstatus hsender =>
    simp only [hnow]
    exact ⟨by simp only [ne_eq,iff_true]; omega,fun _ => hr.completed (.inl hstatus),nofun,hcreated,
      hcompleted,hr.created_completed,fun _ => hcompleted⟩
  | reject reason hstatus hsender hlength hcount =>
    have hverified := hunverified (by simp [hstatus])
    exact ⟨by simp [hverified],fun _ => hr.completed (.inl hstatus),nofun,hcreated,hcompleted,
      hr.created_completed,fun hne => absurd hverified hne⟩

end Records

/-- The record of an existing job after a run. -/
structure JobRecordSound (jobId : Bytes) (hist : List (World H × Tx)) (r : JobRecord H) : Prop where
  created : r.status = .CREATED ↔ r.technician = 0
  evidence : r.status = .COMPLETED ∨ r.status = .VERIFIED ∨ r.status = .REJECTED →
    r.evidenceHash ≠ 0
  verified : r.verifiedAt ≠ 0 ↔ r.status = .VERIFIED
  rejectionCount : r.rejectionCount = rejections jobId hist
  rejections_lt : rejections jobId hist < 2 ^ 32
  reason : r.lastRejectionReason = [] ↔ rejections jobId hist = 0
  verifier : r.verifier = 0 ↔ judged jobId hist = false
  created_completed : r.completedAt ≠ 0 → r.createdAt ≤ r.completedAt
  completed_verified : r.verifiedAt ≠ 0 → r.completedAt ≠ 0 ∧ r.completedAt ≤ r.verifiedAt

section Runs
variable [Keccak H] [DecidableEq H] {w w' s : World H}

theorem ReachedBy.jobRounds (hinj : Function.Injective (keccak256 : Bytes → H))
    {hist : List (World H × Tx)} (h : ReachedBy hist w) (jobId : Bytes) :
    JobRounds (rejections jobId hist) (judged jobId hist) (job w jobId) := by
  refine h.history_invariant
    (I := fun hist w => JobRounds (rejections jobId hist) (judged jobId hist) (job w jobId)) ?_ ?_
  · intro d w hgen
    simp only [job,hgen.jobs]
    exact ⟨by simp,by simp,rfl,by simp,by simp [rejections],by simp [judged]⟩
  · intro hist p tx q hreached hd hrounds hstep
    have hchange := exec_jobRecordChange hinj hd (Reachable.identity ⟨hist,hreached⟩) hstep jobId
    simpa [rejections,judged,List.countP_cons] using hchange.rounds hrounds

private theorem Run.jobTimes (hinj : Function.Injective (keccak256 : Bytes → H)) {d : Deployment}
    {w₀ : World H} (hdeploy : deploy d = .ok w₀) {hist : List (World H × Tx)}
    (hrun : Run exec w₀ hist w) (hclock : Clocked d.env.timestamp (blockTimes hist))
    (jobId : Bytes) : JobTimes (clockOf d.env.timestamp hist) (job w jobId) := by
  have hgen := deploy_genesis hdeploy
  have hinv := hrun.history_invariant (P := fun hist w => Reachable w ∧
    (Clocked d.env.timestamp (blockTimes hist) →
      JobTimes (clockOf d.env.timestamp hist) (job w jobId))) ⟨⟨[],d,w₀,hdeploy,.refl⟩,?_⟩ ?_
  · exact hinv.2 hclock
  · intro hstart
    simp only [job,hgen.jobs]
    exact ⟨by simp,by simp,fun _ => rfl,by simp,by simp,by simp,by simp⟩
  · rintro hist p tx q - ⟨hreach,htimes⟩ hstep
    refine ⟨hreach.step hstep,?_⟩
    rintro ⟨hearlier,hle,hlt⟩
    have hchange := exec_jobRecordChange hinj hreach.deployed hreach.identity hstep jobId
    exact hchange.times (htimes hearlier) hearlier.bounds.1 hle hlt

private theorem Run.jobKept (hinj : Function.Injective (keccak256 : Bytes → H)) (hs : Reachable s)
    {later : List (World H × Tx)} (hrun : Run exec s later w) (jobId : Bytes)
    (hjob : (job s jobId).status ≠ .NONE) : JobKept (job s jobId) (job w jobId) := by
  have hinv := hrun.invariant (P := fun w => Reachable w ∧
    JobKept (job s jobId) (job w jobId) ∧ (job w jobId).status ≠ .NONE) ?_
    ⟨hs,⟨rfl,rfl,rfl,rfl,fun _ => rfl⟩,hjob⟩
  · exact hinv.2.1
  rintro p tx q ⟨hreach,hkept,hp⟩ hstep
  have hchange := exec_jobRecordChange hinj hreach.deployed hreach.identity hstep jobId
  obtain ⟨hnext,hq⟩ := hchange.kept hp
  refine ⟨hreach.step hstep,⟨?_,?_,?_,?_,?_⟩,hq⟩
  · exact hnext.jobId.trans hkept.jobId
  · exact hnext.assetNftId.trans hkept.assetNftId
  · exact hnext.createdBy.trans hkept.createdBy
  · exact hnext.createdAt.trans hkept.createdAt
  · intro hverified
    have hsame := hkept.final hverified
    rw [hnext.final (by rw [hsame]; exact hverified),hsame]

/-- In every run the job records are sound; from then on an existing job keeps what it was created
with and a verified job keeps everything; and no call touches another job than its own. -/
theorem job_records (hinj : Function.Injective (keccak256 : Bytes → H)) (d : Deployment)
    (w₀ w : World H) (hist : List (World H × Tx)) (hdeploy : deploy d = .ok w₀)
    (hrun : Run exec w₀ hist w) (hclock : Clocked d.env.timestamp (blockTimes hist)) :
    (∀ jobId,(job w jobId).status ≠ .NONE → JobRecordSound jobId hist (job w jobId)) ∧
    (∀ later w' jobId,Run exec w later w' → (job w jobId).status ≠ .NONE →
      JobKept (job w jobId) (job w' jobId)) ∧
    ∀ tx jobId,tx.call.jobId ≠ some jobId → job (attempt exec w tx) jobId = job w jobId := by
  have hreached : ReachedBy hist w := ⟨d,w₀,hdeploy,hrun⟩
  have hw : Reachable w := ⟨hist,hreached⟩
  refine ⟨?_,fun later w' jobId hlater => Run.jobKept hinj hw hlater jobId,?_⟩
  · intro jobId hjob
    have hrounds := hreached.jobRounds hinj jobId
    have htimes := Run.jobTimes hinj hdeploy hrun hclock jobId
    refine ⟨?_,hrounds.evidence,htimes.verified,hrounds.rejectionCount,?_,hrounds.reason,
      hrounds.verifier,htimes.created_completed,?_⟩
    · rw [hrounds.technician]
      simp [hjob]
    · rw [← hrounds.rejectionCount]
      exact hrounds.rejectionCount_lt
    · intro hne
      exact ⟨htimes.completed (.inr (.inl (htimes.verified.mp hne))),htimes.completed_verified hne⟩
  · intro tx jobId hother
    cases hs : exec w tx with
    | ok w' =>
      simp only [attempt,hs]
      exact exec_job_other hinj hw.deployed hs hother
    | error e => simp only [attempt,hs]

end Runs

section Prototype

/-- A job is rejected once, reassigned to the engineer and approved. -/
def reworkTxs : List Tx :=
  [txOf 0xad 2 (.createIdentity 0xe1 (utf8 "DID:BEL:ENG")),
   txOf 0xad 3 (.activateWallet 0xe1),
   txOf 0xad 4 (.assignRole 0xe1 .ENGINEER),
   txOf 0xad 5 (.createIdentity 0xc1 (utf8 "DID:BEL:TECH")),
   txOf 0xad 6 (.activateWallet 0xc1),
   txOf 0xad 7 (.assignRole 0xc1 .TECHNICIAN),
   txOf 0xad 8 (.assignRole 0xad .AUDITOR),
   txOf 0xad 9 (.mintAsset (utf8 "RADAR-1") 0xad),
   txOf 0xe1 10 (.createJob (utf8 "JOB-1") 1),
   txOf 0xe1 11 (.assignJob (utf8 "JOB-1") 0xc1),
   txOf 0xc1 12 (.startJob (utf8 "JOB-1")),
   txOf 0xc1 13 (.completeJob (utf8 "JOB-1") 7),
   txOf 0xad 14 (.rejectJob (utf8 "JOB-1") (utf8 "torque values missing")),
   txOf 0xe1 15 (.assignJob (utf8 "JOB-1") 0xe1),
   txOf 0xe1 16 (.startJob (utf8 "JOB-1")),
   txOf 0xe1 17 (.completeJob (utf8 "JOB-1") 8),
   txOf 0xad 18 (.approveJob (utf8 "JOB-1"))]

private theorem reworkTxs_clocked :
    Clocked prototype.env.timestamp (blockTimes (history exec prototypeWorld reworkTxs)) := by
  have htimes : blockTimes (history exec prototypeWorld reworkTxs) =
      [18,17,16,15,14,13,12,11,10,9,8,7,6,5,4,3,2] := by
    decide +kernel
  rw [htimes]
  simp [Clocked,prototype]

private theorem reworkTxs_verified :
    (job (attemptAll exec prototypeWorld reworkTxs) (utf8 "JOB-1")).status = .VERIFIED := by
  decide +kernel

theorem job_records_rework :
    rejections (utf8 "JOB-1") (history exec prototypeWorld reworkTxs) = 1 ∧
      JobRecordSound (utf8 "JOB-1") (history exec prototypeWorld reworkTxs)
        (job (attemptAll exec prototypeWorld reworkTxs) (utf8 "JOB-1")) := by
  have hall := job_records prototype_keccak_injective prototype prototypeWorld _ _
    deploy_prototype (Run.attemptAll prototypeWorld reworkTxs) reworkTxs_clocked
  exact ⟨by decide +kernel,hall.1 _ (by rw [reworkTxs_verified]; decide)⟩

end Prototype
end BelLedger
