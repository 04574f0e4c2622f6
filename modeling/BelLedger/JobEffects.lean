import BelLedger.AccessSoundness
import BelLedger.JobSeparation
import BelLedger.JobRequests

/-!
# What an executed job request has done

The payload of a request becomes a call of JobManager, and the call moves the on-chain job to the
status of the row, from a status from which the service itself allows the move.
-/
namespace BelLedger
open CheckedCalls TransitionRuns KeyedTables JobsService

variable {H : Type} [Keccak H]

section Planning
variable {P : Platform} {w : World H} {d : Delivery} {tx : Tx}

/-- The job id of a payload reaches the chain trimmed. -/
theorem str_jobId {type : TransactionType} {id v : String} {rest : Payload}
    (h : Payloads.str type (("jobId",.string id)::rest) ["jobId"] = .ok v) : v = jsTrim id := by
  obtain ⟨k,hk,text,htext,-,rfl⟩ := Payloads.optionalStr_eq_some (Payloads.str_eq_ok h)
  obtain rfl := List.mem_singleton.mp hk
  simp only [Payload.get,List.lookup_cons_self,Option.getD_some,Value.string.injEq] at htext
  rw [htext]

/-- A technician given as `ref` is `wallet`: the address itself, or the newest ACTIVE wallet. -/
def Resolves (P : Platform) (w : World H) (ref : String) (wallet : Address) : Prop :=
  P.parseAddress (jsTrim ref) = some wallet ∨
    (P.parseAddress (jsTrim ref) = none ∧
      (EvmAdapter.lookups w).walletOfIdentity (jsTrim ref) true = some wallet)

private theorem party_technician {id ref : String} {wallet : Address}
    (h : Payloads.party P.parseAddress .JOB_ASSIGN
      [("jobId",.string id),("technicianId",.string ref)]
      ["technicianId","technicianWallet","technician"] (EvmAdapter.lookups w) true = .ok wallet)
    (href : jsTrim ref ≠ "") : Resolves P w ref wallet := by
  obtain ⟨v,hv,h⟩ := ok_bind_iff.mp h
  have hstr := Payloads.str_eq_ok hv
  rw [Payloads.optionalStr_head rfl href] at hstr
  obtain rfl := Option.some.inj hstr
  split at h
  · rename_i a ha
    obtain rfl := ok_pure_iff.mp h
    exact .inl ha
  · rename_i hnone
    split at h
    · rename_i a ha
      obtain rfl := ok_pure_iff.mp h
      exact .inr ⟨hnone,ha⟩
    · cases h

/-- The contract call that a request on an existing job stands for. -/
def JobChange.CallOn (c : JobChange) (P : Platform) (w : World H) (jobId : Bytes) (call : Call) :
    Prop :=
  match c with
  | .assign ref => ∃ wallet,Resolves P w ref wallet ∧ call = .assignJob jobId wallet
  | .start => call = .startJob jobId
  | .complete _ => ∃ evidenceHash,call = .completeJob jobId evidenceHash
  | .approve => call = .approveJob jobId
  | .reject _ => ∃ reason,call = .rejectJob jobId reason

theorem prepare_change {ctx : JobsContext} {actor : JobActor} {c : JobChange} {old : Job}
    (htrim : Trimmed old.jobId) (hcheck : (c.mutation ctx actor).check old = .ok ())
    (h : EvmAdapter.prepare P w ⟨(c.mutation ctx actor).type,actor.walletAddress,
      (c.mutation ctx actor).payload old⟩ d = .ok tx) :
    c.CallOn P w (utf8 old.jobId) tx.call := by
  have hbuild := EvmAdapter.prepare_call h
  have hid : jsTrim old.jobId = old.jobId := htrim
  cases c with
  | assign ref =>
    obtain ⟨id,hstr,hbuild⟩ := ok_bind_iff.mp hbuild
    obtain ⟨wallet,hparty,hbuild⟩ := ok_bind_iff.mp hbuild
    have href : jsTrim ref ≠ "" := by
      simp only [JobChange.mutation,assign,revertIf_bind_eq_ok] at hcheck
      exact hcheck.1
    rw [str_jobId hstr,hid] at hbuild
    exact ⟨wallet,party_technician hparty href,(ok_pure_iff.mp hbuild).symm⟩
  | start =>
    obtain ⟨id,hstr,hbuild⟩ := ok_bind_iff.mp hbuild
    rw [str_jobId hstr,hid] at hbuild
    exact (ok_pure_iff.mp hbuild).symm
  | complete evidence =>
    obtain ⟨id,hstr,hbuild⟩ := ok_bind_iff.mp hbuild
    obtain ⟨v,-,hbuild⟩ := ok_bind_iff.mp hbuild
    obtain ⟨evidenceHash,-,hbuild⟩ := ok_bind_iff.mp hbuild
    rw [str_jobId hstr,hid] at hbuild
    exact ⟨evidenceHash,(ok_pure_iff.mp hbuild).symm⟩
  | approve =>
    obtain ⟨id,hstr,hbuild⟩ := ok_bind_iff.mp hbuild
    rw [str_jobId hstr,hid] at hbuild
    exact (ok_pure_iff.mp hbuild).symm
  | reject reason =>
    obtain ⟨id,hstr,hbuild⟩ := ok_bind_iff.mp hbuild
    obtain ⟨v,-,hbuild⟩ := ok_bind_iff.mp hbuild
    rw [str_jobId hstr,hid] at hbuild
    exact ⟨utf8 v,(ok_pure_iff.mp hbuild).symm⟩

private theorem prepare_create {wallet id assetId : String} (htrim : Trimmed id)
    (h : EvmAdapter.prepare P w
      ⟨.JOB_CREATE,wallet,[("jobId",.string id),("assetId",.string assetId)]⟩ d = .ok tx) :
    ∃ nftId,tx.call = .createJob (utf8 id) nftId := by
  have hbuild := EvmAdapter.prepare_call h
  obtain ⟨v,hstr,hbuild⟩ := ok_bind_iff.mp hbuild
  obtain ⟨nftId,-,hbuild⟩ := ok_bind_iff.mp hbuild
  rw [str_jobId hstr,show jsTrim id = id from htrim] at hbuild
  exact ⟨nftId,(ok_pure_iff.mp hbuild).symm⟩

theorem JobChange.CallOn.jobId_eq {c : JobChange} {jobId : Bytes} {call : Call}
    (hcall : c.CallOn P w jobId call) : call.jobId = some jobId := by
  cases c with
  | assign ref =>
    obtain ⟨wallet,-,rfl⟩ := hcall
    rfl
  | start => exact congrArg Call.jobId hcall
  | complete evidence =>
    obtain ⟨evidenceHash,rfl⟩ := hcall
    rfl
  | approve => exact congrArg Call.jobId hcall
  | reject reason =>
    obtain ⟨reason,rfl⟩ := hcall
    rfl

/-- Resolving an identity id and looking the wallet's DID up again gives the id back. -/
theorem Resolves.identityOf_eq (hinj : Function.Injective (keccak256 : Bytes → H))
    (hi : IdentityInvariant w.identity) {ref : String} {wallet : Address}
    (h : Resolves P w ref wallet) (htrim : Trimmed ref) (hnot : P.parseAddress ref = none) :
    (w.identity.wallets wallet).status ≠ .NONE ∧
      IdentityRegistry.identityOf w.identity wallet = utf8 ref := by
  have href : jsTrim ref = ref := htrim
  rcases h with haddress | ⟨-,hlookup⟩
  · rw [href,hnot] at haddress
    cases haddress
  · rw [href] at hlookup
    exact EvmAdapter.lookups_did hinj hi hlookup

end Planning

section Effects
variable [DecidableEq H] {P : Platform} {w₀ w w' : World H} {env : Env} {jobId : Bytes} {call : Call}

/-- JobManager makes a transition from exactly the statuses from which the service allows it. -/
private theorem exec_change {c : JobChange} (hcall : c.CallOn P w₀ jobId call)
    (hs : exec w ⟨env,call⟩ = .ok w') :
    (JobManager.job w' jobId).status = c.target.onChain ∧
    (∃ source : JobStatus,(JobManager.job w jobId).status = source.onChain ∧
      c.target ∈ ALLOWED_TRANSITIONS source) ∧
    ((∃ ref wallet,c = .assign ref ∧ Resolves P w₀ ref wallet ∧
        (JobManager.job w' jobId).technician = wallet) ∨
      ((∀ ref,c ≠ .assign ref) ∧
        (JobManager.job w' jobId).technician = (JobManager.job w jobId).technician)) := by
  cases c with
  | assign ref =>
    obtain ⟨wallet,hresolves,rfl⟩ := hcall
    obtain ⟨-,hstatus,-,-,-,hstep⟩ := assignJob_cases hs
    rw [hstep.job_self]
    refine ⟨rfl,?_,.inl ⟨ref,wallet,rfl,hresolves,rfl⟩⟩
    rcases hstatus with hstatus | hstatus
    · exact ⟨.CREATED,hstatus,by simp [JobChange.target,ALLOWED_TRANSITIONS]⟩
    · exact ⟨.REJECTED,hstatus,by simp [JobChange.target,ALLOWED_TRANSITIONS]⟩
  | start =>
    obtain rfl : call = .startJob jobId := hcall
    obtain ⟨-,hstatus,-,hstep⟩ := startJob_cases hs
    rw [hstep.job_self]
    exact ⟨rfl,⟨.ASSIGNED,hstatus,by simp [JobChange.target,ALLOWED_TRANSITIONS]⟩,.inr ⟨by simp,rfl⟩⟩
  | complete evidence =>
    obtain ⟨evidenceHash,rfl⟩ := hcall
    obtain ⟨-,hstatus,-,-,hstep⟩ := completeJob_cases hs
    rw [hstep.job_self]
    exact ⟨rfl,⟨.IN_PROGRESS,hstatus,by simp [JobChange.target,ALLOWED_TRANSITIONS]⟩,.inr ⟨by simp,rfl⟩⟩
  | approve =>
    obtain rfl : call = .approveJob jobId := hcall
    obtain ⟨-,hstatus,-,hstep⟩ := approveJob_cases hs
    rw [hstep.job_self]
    exact ⟨rfl,⟨.COMPLETED,hstatus,by simp [JobChange.target,ALLOWED_TRANSITIONS]⟩,.inr ⟨by simp,rfl⟩⟩
  | reject reason =>
    obtain ⟨reason,rfl⟩ := hcall
    obtain ⟨-,-,hstatus,-,-,hstep⟩ := rejectJob_cases hs
    rw [hstep.job_self]
    exact ⟨rfl,⟨.COMPLETED,hstatus,by simp [JobChange.target,ALLOWED_TRANSITIONS]⟩,.inr ⟨by simp,rfl⟩⟩

/-- The row `row` is about to be written for the snapshot `old`, by a request that was planned on
`w₀` and whose transaction took `w` to `w'`. -/
structure ChangeEffect (P : Platform) (ctx : JobsContext) (w₀ w w' : World H) (old row : Job) :
    Prop where
  jobId : row.jobId = old.jobId
  allowed : row.status ∈ ALLOWED_TRANSITIONS old.status
  source : ∃ source : JobStatus,(JobManager.job w (utf8 old.jobId)).status = source.onChain ∧
    row.status ∈ ALLOWED_TRANSITIONS source
  status : (JobManager.job w' (utf8 old.jobId)).status = row.status.onChain
  technician : (row.status = .ASSIGNED ∧ requireIdentity ctx row.assignedTo = .ok () ∧
      Resolves P w₀ row.assignedTo (JobManager.job w' (utf8 old.jobId)).technician) ∨
    (row.status ≠ .ASSIGNED ∧ row.assignedTo = old.assignedTo ∧
      (JobManager.job w' (utf8 old.jobId)).technician =
        (JobManager.job w (utf8 old.jobId)).technician)
  other : ∀ jobId,jobId ≠ utf8 old.jobId → JobManager.job w' jobId = JobManager.job w jobId

/-- The same for a new job. -/
structure CreateEffect (w w' : World H) (row : Job) : Prop where
  created : row.status = .CREATED
  fresh : (JobManager.job w (utf8 row.jobId)).status = .NONE
  status : (JobManager.job w' (utf8 row.jobId)).status = .CREATED
  other : ∀ jobId,jobId ≠ utf8 row.jobId → JobManager.job w' jobId = JobManager.job w jobId

section Rows
variable {ctx : JobsContext} {actor : JobActor} {c : JobChange} {old : Job}

theorem change_jobId : ((c.mutation ctx actor).change old).jobId = old.jobId := by
  cases c <;> rfl

private theorem change_status : ((c.mutation ctx actor).change old).status = c.target := by
  cases c <;> rfl

private theorem change_assignedTo (ctx : JobsContext) (actor : JobActor) (old : Job)
    (h : ∀ ref,c ≠ .assign ref) :
    ((c.mutation ctx actor).change old).assignedTo = old.assignedTo ∧ c.target ≠ .ASSIGNED := by
  cases c with
  | assign ref => exact absurd rfl (h ref)
  | _ => exact ⟨rfl,by simp [JobChange.target]⟩

private theorem assertTransition_eq_ok {current next : JobStatus} {u : Unit} :
    assertTransition current next = .ok u ↔ next ∈ ALLOWED_TRANSITIONS current := by
  simp [assertTransition]

theorem check_allowed (h : (c.mutation ctx actor).check old = .ok ()) :
    c.target ∈ ALLOWED_TRANSITIONS old.status := by
  cases c with
  | assign ref =>
    simp only [JobChange.mutation,assign,revertIf_bind_eq_ok] at h
    obtain ⟨u,-,h⟩ := ok_bind_iff.mp h.2
    exact assertTransition_eq_ok.mp h
  | start =>
    obtain ⟨u,h,-⟩ := ok_bind_iff.mp h
    exact assertTransition_eq_ok.mp h
  | complete evidence =>
    simp only [JobChange.mutation,complete,revertIf_bind_eq_ok] at h
    obtain ⟨u,h,-⟩ := ok_bind_iff.mp h.2
    exact assertTransition_eq_ok.mp h
  | approve =>
    obtain ⟨u,h,-⟩ := ok_bind_iff.mp h
    exact assertTransition_eq_ok.mp h
  | reject reason =>
    simp only [JobChange.mutation,reject,revertIf_bind_eq_ok] at h
    obtain ⟨u,h,-⟩ := ok_bind_iff.mp h.2
    exact assertTransition_eq_ok.mp h

private theorem assign_identity {ref : String}
    (h : ((JobChange.assign ref).mutation ctx actor).check old = .ok ()) :
    requireIdentity ctx ref = .ok () := by
  simp only [JobChange.mutation,assign,revertIf_bind_eq_ok] at h
  obtain ⟨u,h,-⟩ := ok_bind_iff.mp h.2
  exact h

theorem change_effect (hinj : Function.Injective (keccak256 : Bytes → H)) (hd : Deployed w)
    {d : Delivery} {tx : Tx} (htrim : Trimmed old.jobId)
    (hcheck : (c.mutation ctx actor).check old = .ok ())
    (hprepare : EvmAdapter.prepare P w₀ ⟨(c.mutation ctx actor).type,actor.walletAddress,
      (c.mutation ctx actor).payload old⟩ d = .ok tx)
    (hexec : exec w tx = .ok w') :
    ChangeEffect P ctx w₀ w w' old ((c.mutation ctx actor).change old) := by
  have hcall := prepare_change htrim hcheck hprepare
  obtain ⟨hstatus,hsource,htechnician⟩ := exec_change hcall hexec
  refine ⟨change_jobId,?_,?_,?_,?_,?_⟩
  · rw [change_status]
    exact check_allowed hcheck
  · rw [change_status]
    exact hsource
  · rw [change_status]
    exact hstatus
  · rw [change_status]
    rcases htechnician with ⟨ref,wallet,rfl,hresolves,htechnician⟩ | ⟨hnot,htechnician⟩
    · rw [htechnician]
      exact .inl ⟨rfl,assign_identity hcheck,hresolves⟩
    · have hkept := change_assignedTo ctx actor old hnot
      exact .inr ⟨hkept.2,hkept.1,htechnician⟩
  · intro jobId hne
    apply exec_job_other hinj hd hexec
    rw [hcall.jobId_eq]
    exact fun he => hne (Option.some.inj he).symm

theorem trimmed_newJobId (jobs : JobTable) (input : CreateInput) : Trimmed (newJobId jobs input) := by
  unfold newJobId
  by_cases hasked : jsTrim (input.jobId.getD "") = ""
  · simp only [hasked,ne_eq,not_true_eq_false,if_false]
    have hname : ("JOB-".toList.all fun c => !isJsSpace c) = true := by decide
    simp only [List.all_eq_true,Bool.not_eq_true'] at hname
    exact trimmed_append_repr hname _
  · simp only [hasked,ne_eq,not_false_eq_true,if_true]
    exact trimmed_jsTrim _

/-- An id the service gives or takes is not stored yet. -/
private theorem createCheck_fresh {jobs : JobTable} {input : CreateInput}
    (h : createCheck ctx jobs input = .ok ()) : jobs.find (newJob ctx jobs input).jobId = none := by
  simp only [createCheck,revertIf_bind_eq_ok] at h
  obtain ⟨-,-,h⟩ := h
  obtain ⟨u,-,h⟩ := ok_bind_iff.mp h
  simpa using h

private theorem create_effect (hinj : Function.Injective (keccak256 : Bytes → H)) {d : Delivery}
    {tx : Tx} {row : Job} {wallet : String} (hrow : row.status = .CREATED)
    (htrim : Trimmed row.jobId)
    (hprepare : EvmAdapter.prepare P w₀ ⟨.JOB_CREATE,wallet,
      [("jobId",.string row.jobId),("assetId",.string row.assetId)]⟩ d = .ok tx)
    (hexec : exec w tx = .ok w') : CreateEffect w w' row := by
  obtain ⟨nftId,hcall⟩ := prepare_create htrim hprepare
  rcases tx with ⟨env,call⟩
  obtain rfl : call = .createJob (utf8 row.jobId) nftId := hcall
  obtain ⟨-,-,hfresh,-,hstep⟩ := createJob_cases hexec
  refine ⟨hrow,hfresh,?_,?_⟩
  · rw [hstep.job_self]
  · intro jobId hne
    exact hstep.job_other hinj (fun he => hne he.symm)

end Rows

/-- Every stored id survives the trimming of the payload builder. -/
def TrimmedIds (jobs : JobTable) : Prop := ∀ row ∈ jobs.rows,Trimmed row.jobId

theorem Accepted.effect (hinj : Function.Injective (keccak256 : Bytes → H)) {s : JobSystem H}
    {q : JobRequest} {tx : Tx} {row : Job} (h : Accepted P s q tx row) (htrim : TrimmedIds s.jobs)
    (hd : Deployed w) (hexec : exec w tx = .ok w') :
    Trimmed row.jobId ∧
      ((s.jobs.find row.jobId = none ∧ CreateEffect w w' row) ∨
        ∃ old,s.jobs.find row.jobId = some old ∧ ChangeEffect P q.ctx s.chain w w' old row) := by
  unfold Accepted at h
  cases haction : q.action with
  | create input =>
    simp only [haction] at h
    obtain ⟨hcheck,rfl,hprepare⟩ := h
    have hid : Trimmed (newJob q.ctx s.jobs input).jobId := trimmed_newJobId s.jobs input
    exact ⟨hid,.inl ⟨createCheck_fresh hcheck,create_effect hinj rfl hid hprepare hexec⟩⟩
  | change id change =>
    simp only [haction] at h
    obtain ⟨old,hfind,hcheck,rfl,hprepare⟩ := h
    have hid : Trimmed old.jobId := htrim old (Table.mem_of_find hfind)
    have heffect := change_effect hinj hd hid hcheck hprepare hexec
    have hkey : old.jobId = id := Table.key_of_find hfind
    rw [heffect.jobId]
    exact ⟨hid,.inr ⟨old,hkey ▸ hfind,heffect⟩⟩

end Effects

section Technicians
variable [DecidableEq H] {w : World H}

/-- A job's technician is unset or a registered wallet. -/
def TechniciansRegistered (w : World H) : Prop :=
  ∀ jobId,(JobManager.job w jobId).technician = 0 ∨
    (w.identity.wallets (JobManager.job w jobId).technician).status ≠ .NONE

theorem Reachable.technicians (h : Reachable w) : TechniciansRegistered w := by
  obtain ⟨hist,h⟩ := h
  refine (h.invariant (I := TechniciansRegistered) ?_ ?_).2
  · intro d w hgenesis jobId
    left
    unfold JobManager.job
    rw [hgenesis.jobs]
  · intro w tx w' hd hi hs jobId
    have hregistered : ∀ a,(w.identity.wallets a).status ≠ .NONE →
        (w'.identity.wallets a).status ≠ .NONE :=
      fun a ha => (exec_identityStep hd hs).stays_registered ha
    rcases exec_technician hd hs (keccak256 jobId) with ⟨hsame,-⟩ | ⟨hreceiver,-⟩
    · have hkept : (JobManager.job w' jobId).technician = (JobManager.job w jobId).technician := hsame
      rw [hkept]
      exact (hi jobId).imp id (hregistered _)
    · have hactive : (w.identity.wallets (JobManager.job w' jobId).technician).status = .ACTIVE :=
        exec_receiver hs hreceiver
      exact .inr (hregistered _ (by rw [hactive]; decide))

/-- The stored key of a job's technician is the key of the technician's DID. -/
def TechnicianKeys (w : World H) : Prop :=
  ∀ jobId,(JobManager.job w jobId).technician ≠ 0 → (JobManager.job w jobId).technicianKey =
    keccak256 (IdentityRegistry.identityOf w.identity (JobManager.job w jobId).technician)

theorem Reachable.technicianKeys (h : Reachable w) : TechnicianKeys w := by
  obtain ⟨hist,h⟩ := h
  refine h.history_invariant (I := fun _ w => TechnicianKeys w) ?_ ?_
  · intro d w hgenesis jobId hassigned
    unfold JobManager.job at hassigned
    rw [hgenesis.jobs] at hassigned
    exact absurd rfl hassigned
  · intro hist w tx w' hreached hd hi hs jobId hassigned
    have hw : Reachable w := ⟨hist,hreached⟩
    have hkept := exec_keepsWallets hw hs
    rcases exec_technician hd hs (keccak256 jobId) with ⟨hsame,hkey⟩ | ⟨hreceiver,hkey⟩
    · have htechnician : (JobManager.job w' jobId).technician =
          (JobManager.job w jobId).technician := hsame
      rw [htechnician] at hassigned ⊢
      rw [(hkept _ ((hw.technicians jobId).resolve_left hassigned)).2]
      exact Eq.trans hkey (hi jobId hassigned)
    · have hactive : (w.identity.wallets (JobManager.job w' jobId).technician).status = .ACTIVE :=
        exec_receiver hs hreceiver
      rw [(hkept _ (by rw [hactive]; decide)).2]
      exact hkey

end Technicians

end BelLedger
