import BelLedger.DeploymentFacts

/-!
# Separation of duties in JobManager

A job record keeps only the digest of the technician's DID. The history of a run says whose DID it
is: the one behind the wallet of the job's latest assignment. Wallets, roles and assignments may
change between any two steps.
-/
namespace BelLedger
open CheckedCalls TransitionRuns JobManager

variable {H : Type}

/-- The job an entry point of JobManager is called for. -/
def Call.jobId : Call → Option Bytes
  | .createJob jobId _ | .assignJob jobId _ | .startJob jobId | .completeJob jobId _
  | .approveJob jobId | .rejectJob jobId _ => some jobId
  | _ => none

/-- The DID, at the time of the job's latest assignment, of the wallet assigned there. -/
def lastAssignee (jobId : Bytes) : List (World H × Tx) → Option Bytes
  | [] => none
  | (s,tx)::hist =>
    match tx.call with
    | .assignJob j technician =>
      if j = jobId then some (IdentityRegistry.identityOf s.identity technician)
      else lastAssignee jobId hist
    | _ => lastAssignee jobId hist

/-- The caller's DID and the evidence hash of the job's latest completion. -/
def lastCompletion (jobId : Bytes) : List (World H × Tx) → Option (Bytes × Bytes32)
  | [] => none
  | (s,tx)::hist =>
    match tx.call with
    | .completeJob j evidenceHash =>
      if j = jobId then some (IdentityRegistry.identityOf s.identity tx.env.sender,evidenceHash)
      else lastCompletion jobId hist
    | _ => lastCompletion jobId hist

theorem lastAssignee_other {jobId : Bytes} {s : World H} {tx : Tx} {hist : List (World H × Tx)}
    (h : tx.call.jobId ≠ some jobId) : lastAssignee jobId ((s,tx)::hist) = lastAssignee jobId hist := by
  rcases tx with ⟨env,call⟩
  cases call with
  | assignJob j technician =>
    have hj : j ≠ jobId := fun he => h (congrArg some he)
    simp [lastAssignee,hj]
  | _ => rfl

theorem lastCompletion_other {jobId : Bytes} {s : World H} {tx : Tx} {hist : List (World H × Tx)}
    (h : tx.call.jobId ≠ some jobId) :
    lastCompletion jobId ((s,tx)::hist) = lastCompletion jobId hist := by
  rcases tx with ⟨env,call⟩
  cases call with
  | completeJob j evidenceHash =>
    have hj : j ≠ jobId := fun he => h (congrArg some he)
    simp [lastCompletion,hj]
  | _ => rfl

variable [Keccak H] [DecidableEq H]

theorem JobStep.job_self {w w' : World H} {jobId : Bytes} {j : JobRecord H}
    (h : JobStep w w' jobId j) : job w' jobId = j := by
  obtain ⟨log,rfl,-⟩ := h
  simp [job,setJob]

theorem JobStep.job_other {w w' : World H} {jobId other : Bytes} {j : JobRecord H}
    (hinj : Function.Injective (keccak256 : Bytes → H)) (h : JobStep w w' jobId j)
    (hne : jobId ≠ other) : job w' other = job w other := by
  obtain ⟨log,rfl,-⟩ := h
  have hkey : (keccak256 other : H) ≠ keccak256 jobId := fun he => hne (hinj he).symm
  simp [job,setJob,hkey]

/-- A successful transaction writes no job but the one it is called for. -/
theorem exec_job_other (hinj : Function.Injective (keccak256 : Bytes → H)) {w w' : World H} {tx : Tx}
    (hd : Deployed w) (hs : exec w tx = .ok w') {jobId : Bytes} (h : tx.call.jobId ≠ some jobId) :
    job w' jobId = job w jobId := by
  by_cases htarget : tx.call.target = some .jobs
  swap
  · unfold job
    rw [(exec_frame hd hs).jobs htarget]
  rcases tx with ⟨env,call⟩
  have hne : ∀ {j : Bytes},call.jobId = some j → j ≠ jobId := by
    intro j hj he
    exact h (hj.trans (congrArg some he))
  cases call with
  | wire r a b c => exact absurd hs (exec_wire_ne_ok hd)
  | createJob j assetNftId =>
    obtain ⟨-,-,-,-,hstep⟩ := createJob_cases hs
    exact hstep.job_other hinj (hne rfl)
  | assignJob j technician =>
    obtain ⟨-,-,-,-,-,hstep⟩ := assignJob_cases hs
    exact hstep.job_other hinj (hne rfl)
  | startJob j =>
    obtain ⟨-,-,-,hstep⟩ := startJob_cases hs
    exact hstep.job_other hinj (hne rfl)
  | completeJob j evidenceHash =>
    obtain ⟨-,-,-,-,hstep⟩ := completeJob_cases hs
    exact hstep.job_other hinj (hne rfl)
  | approveJob j =>
    obtain ⟨-,-,-,hstep⟩ := approveJob_cases hs
    exact hstep.job_other hinj (hne rfl)
  | rejectJob j reason =>
    obtain ⟨-,-,-,-,-,hstep⟩ := rejectJob_cases hs
    exact hstep.job_other hinj (hne rfl)
  | _ => simp [Call.target] at htarget

/-- The record of a job in terms of the history that wrote it. -/
structure JobHistory (jobId : Bytes) (hist : List (World H × Tx)) (w : World H) : Prop where
  assigned : (job w jobId).status ≠ .NONE → (job w jobId).status ≠ .CREATED →
    ∃ did,lastAssignee jobId hist = some did ∧ (job w jobId).technicianKey = keccak256 did
  completed : (job w jobId).status = .COMPLETED ∨ (job w jobId).status = .VERIFIED ∨
      (job w jobId).status = .REJECTED →
    ∃ did,lastCompletion jobId hist = some (did,(job w jobId).evidenceHash) ∧
      (job w jobId).technicianKey = keccak256 did

section Steps
variable {jobId : Bytes} {hist : List (World H × Tx)} {w w' : World H} {env : Env}

private theorem jobHistory_other (hinj : Function.Injective (keccak256 : Bytes → H)) {tx : Tx}
    (hd : Deployed w) (h : JobHistory jobId hist w) (hs : exec w tx = .ok w')
    (hother : tx.call.jobId ≠ some jobId) : JobHistory jobId ((w,tx)::hist) w' := by
  have hjob := exec_job_other hinj hd hs hother
  refine ⟨?_,?_⟩
  · rw [hjob,lastAssignee_other hother]
    exact h.assigned
  · rw [hjob,lastCompletion_other hother]
    exact h.completed

private theorem jobHistory_create {assetNftId : ℕ}
    (hs : createJob w env jobId assetNftId = .ok w') :
    JobHistory jobId ((w,⟨env,.createJob jobId assetNftId⟩)::hist) w' := by
  obtain ⟨-,-,-,-,hstep⟩ := createJob_cases hs
  refine ⟨?_,?_⟩
  · rw [hstep.job_self]
    intro _ hne
    exact absurd rfl hne
  · rw [hstep.job_self]
    simp

private theorem jobHistory_assign {technician : Address}
    (hs : assignJob w env jobId technician = .ok w') :
    JobHistory jobId ((w,⟨env,.assignJob jobId technician⟩)::hist) w' := by
  obtain ⟨-,-,-,-,-,hstep⟩ := assignJob_cases hs
  refine ⟨?_,?_⟩
  · rw [hstep.job_self]
    intro _ _
    exact ⟨_,by simp [lastAssignee],rfl⟩
  · rw [hstep.job_self]
    simp

private theorem jobHistory_start (h : JobHistory jobId hist w) (hs : startJob w env jobId = .ok w') :
    JobHistory jobId ((w,⟨env,.startJob jobId⟩)::hist) w' := by
  obtain ⟨-,hstatus,-,hstep⟩ := startJob_cases hs
  refine ⟨?_,?_⟩
  · rw [hstep.job_self]
    intro _ _
    exact h.assigned (by simp [hstatus]) (by simp [hstatus])
  · rw [hstep.job_self]
    simp

private theorem jobHistory_complete (h : JobHistory jobId hist w) {evidenceHash : Bytes32}
    (hs : completeJob w env jobId evidenceHash = .ok w') :
    JobHistory jobId ((w,⟨env,.completeJob jobId evidenceHash⟩)::hist) w' := by
  obtain ⟨-,hstatus,hkey,-,hstep⟩ := completeJob_cases hs
  refine ⟨?_,?_⟩
  · rw [hstep.job_self]
    intro _ _
    exact h.assigned (by simp [hstatus]) (by simp [hstatus])
  · rw [hstep.job_self]
    intro _
    -- the caller is the assignee, so the technician's key is the digest of the caller's DID
    exact ⟨_,by simp [lastCompletion],hkey.symm⟩

/-- A decision on a completed job keeps what the record says about its history. -/
private theorem jobHistory_verdict (h : JobHistory jobId hist w) {call : Call} {j : JobRecord H}
    (hstatus : (job w jobId).status = .COMPLETED) (hstep : JobStep w w' jobId j)
    (hkey : j.technicianKey = (job w jobId).technicianKey)
    (hevidence : j.evidenceHash = (job w jobId).evidenceHash)
    (hassign : lastAssignee jobId ((w,⟨env,call⟩)::hist) = lastAssignee jobId hist)
    (hcomplete : lastCompletion jobId ((w,⟨env,call⟩)::hist) = lastCompletion jobId hist) :
    JobHistory jobId ((w,⟨env,call⟩)::hist) w' := by
  refine ⟨?_,?_⟩
  · rw [hstep.job_self,hassign,hkey]
    intro _ _
    exact h.assigned (by simp [hstatus]) (by simp [hstatus])
  · rw [hstep.job_self,hcomplete,hkey,hevidence]
    intro _
    exact h.completed (.inl hstatus)

theorem jobHistory_step (hinj : Function.Injective (keccak256 : Bytes → H)) (jobId : Bytes)
    (hist : List (World H × Tx)) (w : World H) (tx : Tx) (w' : World H) (_ : ReachedBy hist w)
    (hd : Deployed w) (h : JobHistory jobId hist w) (hs : exec w tx = .ok w') :
    JobHistory jobId ((w,tx)::hist) w' := by
  by_cases hother : tx.call.jobId = some jobId
  swap
  · exact jobHistory_other hinj hd h hs hother
  rcases tx with ⟨env,call⟩
  cases call with
  | createJob j assetNftId =>
    obtain rfl : j = jobId := Option.some.inj hother
    exact jobHistory_create hs
  | assignJob j technician =>
    obtain rfl : j = jobId := Option.some.inj hother
    exact jobHistory_assign hs
  | startJob j =>
    obtain rfl : j = jobId := Option.some.inj hother
    exact jobHistory_start h hs
  | completeJob j evidenceHash =>
    obtain rfl : j = jobId := Option.some.inj hother
    exact jobHistory_complete h hs
  | approveJob j =>
    obtain rfl : j = jobId := Option.some.inj hother
    obtain ⟨-,hstatus,-,hstep⟩ := approveJob_cases hs
    exact jobHistory_verdict h hstatus hstep rfl rfl rfl rfl
  | rejectJob j reason =>
    obtain rfl : j = jobId := Option.some.inj hother
    obtain ⟨-,-,hstatus,-,-,hstep⟩ := rejectJob_cases hs
    exact jobHistory_verdict h hstatus hstep rfl rfl rfl rfl
  | _ => simp [Call.jobId] at hother

end Steps

theorem ReachedBy.jobHistory (hinj : Function.Injective (keccak256 : Bytes → H)) {w : World H}
    {hist : List (World H × Tx)} (h : ReachedBy hist w) (jobId : Bytes) :
    JobHistory jobId hist w := by
  refine h.history_invariant (I := JobHistory jobId) ?_ (jobHistory_step hinj jobId)
  intro d w hgen
  refine ⟨?_,?_⟩
  · simp [job,hgen.jobs]
  · simp [job,hgen.jobs]

/-- Who did what on each job of a run. `later` and `earlier` range over the ways to cut the history
at one successful transaction. -/
structure SeparationOfDuties (hist : List (World H × Tx)) (w : World H) : Prop where
  performer : ∀ jobId later s tx earlier,hist = later++(s,tx)::earlier →
    (tx.call = .startJob jobId ∨ ∃ evidenceHash,tx.call = .completeJob jobId evidenceHash) →
    lastAssignee jobId earlier = some (IdentityRegistry.identityOf s.identity tx.env.sender)
  verifier : ∀ jobId later s tx earlier,hist = later++(s,tx)::earlier →
    (tx.call = .approveJob jobId ∨ ∃ reason,tx.call = .rejectJob jobId reason) →
    ∃ did evidenceHash,lastCompletion jobId earlier = some (did,evidenceHash) ∧
      IdentityRegistry.identityOf s.identity tx.env.sender ≠ did
  evidence : ∀ jobId,((job w jobId).status = .COMPLETED ∨ (job w jobId).status = .VERIFIED ∨
      (job w jobId).status = .REJECTED) →
    ∃ did,lastCompletion jobId hist = some (did,(job w jobId).evidenceHash)

omit [DecidableEq H] in
private theorem performer_did (hinj : Function.Injective (keccak256 : Bytes → H)) {jobId : Bytes}
    {hist : List (World H × Tx)} {w : World H} {env : Env} (h : JobHistory jobId hist w)
    (hnone : (job w jobId).status ≠ .NONE) (hcreated : (job w jobId).status ≠ .CREATED)
    (hkey : callerKey w env = (job w jobId).technicianKey) :
    lastAssignee jobId hist = some (IdentityRegistry.identityOf w.identity env.sender) := by
  obtain ⟨did,hlast,htech⟩ := h.assigned hnone hcreated
  have hdid : IdentityRegistry.identityOf w.identity env.sender = did := hinj (hkey.trans htech)
  rw [hlast,hdid]

omit [DecidableEq H] in
private theorem verifier_did {jobId : Bytes} {hist : List (World H × Tx)} {w : World H} {env : Env}
    (h : JobHistory jobId hist w) (hstatus : (job w jobId).status = .COMPLETED)
    (hkey : callerKey w env ≠ (job w jobId).technicianKey) :
    ∃ did evidenceHash,lastCompletion jobId hist = some (did,evidenceHash) ∧
      IdentityRegistry.identityOf w.identity env.sender ≠ did := by
  obtain ⟨did,hlast,htech⟩ := h.completed (.inl hstatus)
  refine ⟨did,_,hlast,?_⟩
  intro he
  apply hkey
  rw [htech,← he]
  rfl

/-- Only the assignee performs a job, and nobody verifies their own work, in every run. -/
theorem separation_of_duties (hinj : Function.Injective (keccak256 : Bytes → H))
    (hist : List (World H × Tx)) (w : World H) (h : ReachedBy hist w) :
    SeparationOfDuties hist w := by
  refine ⟨?_,?_,?_⟩
  · rintro jobId later s ⟨env,call⟩ earlier rfl hcall
    obtain ⟨t,hearlier,hs,-⟩ := h.split
    have hinv := hearlier.jobHistory hinj jobId
    rcases hcall with hcall | ⟨evidenceHash,hcall⟩
    · obtain rfl : call = .startJob jobId := hcall
      obtain ⟨-,hstatus,hkey,-⟩ := startJob_cases hs
      exact performer_did hinj hinv (by simp [hstatus]) (by simp [hstatus]) hkey
    · obtain rfl : call = .completeJob jobId evidenceHash := hcall
      obtain ⟨-,hstatus,hkey,-,-⟩ := completeJob_cases hs
      exact performer_did hinj hinv (by simp [hstatus]) (by simp [hstatus]) hkey
  · rintro jobId later s ⟨env,call⟩ earlier rfl hcall
    obtain ⟨t,hearlier,hs,-⟩ := h.split
    have hinv := hearlier.jobHistory hinj jobId
    rcases hcall with hcall | ⟨reason,hcall⟩
    · obtain rfl : call = .approveJob jobId := hcall
      obtain ⟨-,hstatus,hkey,-⟩ := approveJob_cases hs
      exact verifier_did hinv hstatus hkey
    · obtain rfl : call = .rejectJob jobId reason := hcall
      obtain ⟨-,-,hstatus,hkey,-,-⟩ := rejectJob_cases hs
      exact verifier_did hinv hstatus hkey
  · intro jobId hstatus
    obtain ⟨did,hlast,-⟩ := (h.jobHistory hinj jobId).completed hstatus
    exact ⟨did,hlast⟩

section Prototype

/-- A technician's wallet is replaced while their job is in progress; another identity approves. -/
def replacementTxs : List Tx :=
  [txOf 0xad 2 (.createIdentity 0xe1 (utf8 "DID:BEL:ENG")),
   txOf 0xad 3 (.activateWallet 0xe1),
   txOf 0xad 4 (.assignRole 0xe1 .ENGINEER),
   txOf 0xad 5 (.createIdentity 0xc1 (utf8 "DID:BEL:TECH")),
   txOf 0xad 6 (.activateWallet 0xc1),
   txOf 0xad 7 (.assignRole 0xc1 .TECHNICIAN),
   txOf 0xad 8 (.mintAsset (utf8 "RADAR-1") 0xad),
   txOf 0xe1 9 (.createJob (utf8 "JOB-1") 1),
   txOf 0xe1 10 (.assignJob (utf8 "JOB-1") 0xc1),
   txOf 0xc1 11 (.startJob (utf8 "JOB-1")),
   txOf 0xad 12 (.revokeWallet 0xc1 (utf8 "lost")),
   txOf 0xad 13 (.createIdentity 0xc2 (utf8 "DID:BEL:TECH")),
   txOf 0xad 14 (.activateWallet 0xc2),
   txOf 0xc2 15 (.completeJob (utf8 "JOB-1") 7),
   txOf 0xe1 16 (.approveJob (utf8 "JOB-1"))]

theorem separation_of_duties_replacement :
    (job (attemptAll exec prototypeWorld replacementTxs) (utf8 "JOB-1")).status = .VERIFIED ∧
      SeparationOfDuties (history exec prototypeWorld replacementTxs)
        (attemptAll exec prototypeWorld replacementTxs) :=
  ⟨by decide +kernel,
    separation_of_duties prototype_keccak_injective _ _ (prototype_reachedBy replacementTxs)⟩

end Prototype
end BelLedger
