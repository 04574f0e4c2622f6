import BelLedger.JobRefinement

/-!
# Who can verify a completed job

The service lets the stored verifier alone verify, whoever is the technician. A verifier is stored
when the job is created and by every rejection, and an assignment does not look at it.
-/
namespace BelLedger
open CheckedCalls TransitionRuns KeyedTables JobsService

variable {H : Type} [Keccak H] [DecidableEq H]

/-- An ACTIVE wallet of the actor's DID, which holds a verifying role, and a device signature. -/
structure CanVerify (P : Platform) (w : World H) (actor : JobActor) (a : Address) : Prop where
  address : P.parseAddress actor.walletAddress = some a
  active : (w.identity.wallets a).status = .ACTIVE
  identity : IdentityRegistry.identityOf w.identity a = utf8 actor.identityId
  role : RoleRegistry.rolesOfIdentity w (utf8 actor.identityId) &&& BelRoles.VERIFY_MAINTENANCE ≠ 0
  signed : ∀ ctx,unsigned ctx actor = false

/-- The actor gets past both checks. -/
def Independent (P : Platform) (s : JobSystem H) (row : Job) (actor : JobActor) : Prop :=
  requireIndependentVerifier row actor = .ok () ∧
    ∃ a,P.parseAddress actor.walletAddress = some a ∧ ∀ env : Env,env.sender = a →
      JobManager.requireIndependentVerifier s.chain env (JobManager.job s.chain (utf8 row.jobId)) =
        .ok ()

/-- An approval whose transaction is mined at once succeeds. -/
def Approvable (P : Platform) (s : JobSystem H) (row : Job) (actor : JobActor) : Prop :=
  ∀ (ctx : JobsContext) (d : Delivery),d.interference = [] → d.fate = .mined →
    ∃ job,(serve P s ⟨.change row.jobId .approve,actor,ctx,d⟩).2 = .ok job

def Verifiable (P : Platform) (s : JobSystem H) (staff : List JobActor) (row : Job) : Prop :=
  ∃ actor ∈ staff,Independent P s row actor ∧ Approvable P s row actor

/-- The stored verifier; blank when there is none. -/
def Job.verifier (row : Job) : String := row.verifierId.getD ""

/-- No verifier is stored, or one of the staff. -/
def Staffed (staff : List JobActor) (verifier : String) : Prop :=
  verifier = "" ∨ ∃ actor ∈ staff,actor.identityId = verifier

/-- The stored verifier, if there is one, is one of the staff and not the technician. -/
def Unblocked (staff : List JobActor) (row : Job) : Prop :=
  Staffed staff row.verifier ∧ (row.verifier = "" ∨ row.verifier ≠ row.assignedTo)

/-- Jobs get no verifier from outside the staff, and the stored verifier of a job is not assigned to
it. -/
def JobEvent.KeepsVerifier (staff : List JobActor) (s : JobSystem H) : JobEvent → Prop
  | .request q =>
    match q.action with
    | .create input => Staffed staff (input.verifierId.getD "")
    | .change id (.assign technicianId) =>
      ∀ row,s.jobs.find id = some row → technicianId ≠ row.verifier
    | .change _ (.reject _) => Staffed staff q.actor.identityId
    | .change _ _ => True
  | .external _ => True

section Ids
variable {w : World H}

/-- The ids of the jobs on chain have the length that `createJob` accepts. -/
theorem jobId_length (hinj : Function.Injective (keccak256 : Bytes → H)) (h : Reachable w)
    (jobId : Bytes) (hjob : (JobManager.job w jobId).status ≠ .NONE) :
    jobId.length ≠ 0 ∧ jobId.length ≤ JobManager.MAX_JOB_ID_LENGTH := by
  obtain ⟨hist,h⟩ := h
  refine (h.invariant (I := fun w => ∀ jobId,(JobManager.job w jobId).status ≠ .NONE →
    jobId.length ≠ 0 ∧ jobId.length ≤ JobManager.MAX_JOB_ID_LENGTH) ?_ ?_).2 jobId hjob
  · intro d w hgenesis jobId hjob
    unfold JobManager.job at hjob
    rw [hgenesis.jobs] at hjob
    exact absurd rfl hjob
  · intro w tx w' hd hi hs jobId hjob
    by_cases hcall : tx.call.jobId = some jobId
    swap
    · rw [exec_job_other hinj hd hs hcall] at hjob
      exact hi jobId hjob
    have hbefore : (JobManager.job w jobId).status ≠ .NONE →
        jobId.length ≠ 0 ∧ jobId.length ≤ JobManager.MAX_JOB_ID_LENGTH := hi jobId
    obtain ⟨env,call⟩ := tx
    cases call with
    | createJob j assetNftId =>
      obtain rfl := Option.some.inj hcall
      exact (createJob_cases hs).2.1
    | assignJob j technician =>
      obtain rfl := Option.some.inj hcall
      rcases (assignJob_cases hs).2.1 with hstatus | hstatus
      · exact hbefore (by rw [hstatus]; decide)
      · exact hbefore (by rw [hstatus]; decide)
    | startJob j =>
      obtain rfl := Option.some.inj hcall
      exact hbefore (by rw [(startJob_cases hs).2.1]; decide)
    | completeJob j evidenceHash =>
      obtain rfl := Option.some.inj hcall
      exact hbefore (by rw [(completeJob_cases hs).2.1]; decide)
    | approveJob j =>
      obtain rfl := Option.some.inj hcall
      exact hbefore (by rw [(approveJob_cases hs).2.1]; decide)
    | rejectJob j reason =>
      obtain rfl := Option.some.inj hcall
      exact hbefore (by rw [(rejectJob_cases hs).2.2.1]; decide)
    | _ => cases hcall

end Ids

section Checks
variable {P : Platform} {s : JobSystem H} {row : Job} {actor : JobActor} {a : Address}

omit [Keccak H] [DecidableEq H] in
theorem requireIndependentVerifier_eq_ok :
    requireIndependentVerifier row actor = .ok () ↔
      row.assignedTo ≠ actor.identityId ∧ (row.verifier = "" ∨ row.verifier = actor.identityId) := by
  simp only [requireIndependentVerifier,revertIf_bind_eq_ok,revertIf_eq_ok,Job.verifier]
  tauto

/-- Once a job is assigned, JobManager compares with the DID of the stored technician. -/
private theorem technicianKey_eq (h : InStep s) (hrow : row ∈ s.jobs.rows)
    (hpast : row.status ≠ .CREATED) :
    (JobManager.job s.chain (utf8 row.jobId)).technicianKey = keccak256 (utf8 row.assignedTo) := by
  have hassigned : (JobManager.job s.chain (utf8 row.jobId)).technician ≠ 0 := by
    intro hzero
    have hregistered := h.registered row hrow hpast
    rw [hzero] at hregistered
    exact hregistered h.reachable.identity.zero_unregistered
  rw [h.reachable.technicianKeys _ hassigned]
  exact congrArg keccak256 (h.agree.technician row hrow hpast)

/-- The two checks ask for the same thing, but for the stored verifier. -/
private theorem independent_iff (hinj : Function.Injective (keccak256 : Bytes → H)) (h : InStep s)
    (hrow : row ∈ s.jobs.rows) (hpast : row.status ≠ .CREATED)
    (hactor : CanVerify P s.chain actor a) :
    Independent P s row actor ↔
      row.assignedTo ≠ actor.identityId ∧ (row.verifier = "" ∨ row.verifier = actor.identityId) := by
  unfold Independent
  rw [requireIndependentVerifier_eq_ok]
  constructor
  · exact fun hboth => hboth.1
  · intro hservice
    refine ⟨hservice,a,hactor.address,?_⟩
    intro env hsender
    unfold JobManager.requireIndependentVerifier JobManager.callerKey
    rw [revertIf_eq_ok,hsender,hactor.identity,technicianKey_eq h hrow hpast]
    exact fun he => hservice.1 (utf8_injective (hinj he)).symm

end Checks

section Approval
variable {P : Platform} {s : JobSystem H} {row : Job} {actor : JobActor} {a : Address}

theorem auditJob_succeeds {w : World H} (hd : Deployed w) (env : Env) {jobId : Bytes} (action : String)
    (hlength : jobId.length ≠ 0 ∧ jobId.length ≤ JobManager.MAX_JOB_ID_LENGTH)
    (haction : (utf8 action).length ≠ 0 ∧ (utf8 action).length ≤ AuditRegistry.MAX_FIELD_LENGTH)
    (j : JobManager.JobRecord H) :
    ∃ w',JobManager.auditJob (JobManager.setJob w jobId j) env jobId action = .ok w' := by
  have hvalid : AuditEntry.Valid (JobManager.setJob w jobId j) (w.addr.of .jobs) (utf8 "JOB") jobId
      (utf8 action) := by
    refine ⟨(hd.recorder _).mpr ⟨.jobs,rfl⟩,?_,hlength,haction⟩
    simp [AuditRegistry.validEntityType]
  obtain ⟨log,hlog,-⟩ := audit_succeeds env hvalid
  exact ⟨_,hlog⟩

theorem approveJob_succeeds {w : World H} (hd : Deployed w) (env : Env) {jobId : Bytes}
    (hauth : Authorised w .jobs env.sender BelRoles.VERIFY_MAINTENANCE)
    (hstatus : (JobManager.job w jobId).status = .COMPLETED)
    (hcheck : JobManager.requireIndependentVerifier w env (JobManager.job w jobId) = .ok ())
    (hlength : jobId.length ≠ 0 ∧ jobId.length ≤ JobManager.MAX_JOB_ID_LENGTH) :
    ∃ w',exec w ⟨env,.approveJob jobId⟩ = .ok w' := by
  obtain ⟨w',hw'⟩ := auditJob_succeeds hd env "JOB_APPROVE" hlength (by decide)
    { JobManager.job w jobId with
      status := .VERIFIED, verifier := env.sender, verifiedAt := uint64 env.timestamp }
  refine ⟨w',?_⟩
  simp only [exec,JobManager.approveJob,checkRoles_bind_eq_ok,existingJob_bind_eq_ok,
    revertIf_bind_eq_ok,hstatus,hcheck]
  exact ⟨hauth,by decide,by decide,hw'⟩

omit [DecidableEq H] in
/-- The envelope of an approval always becomes the contract call. -/
private theorem prepare_approve {w : World H} (haddress : P.parseAddress actor.walletAddress = some a)
    (htrim : Trimmed row.jobId) (hblank : row.jobId ≠ "") (d : Delivery) :
    EvmAdapter.prepare P w ⟨.JOB_APPROVE,actor.walletAddress,[("jobId",.string row.jobId)]⟩ d =
      .ok ⟨⟨a,d.timestamp,d.number,d.chainid⟩,.approveJob (utf8 row.jobId)⟩ := by
  have hid : jsTrim row.jobId = row.jobId := htrim
  have hstr : Payloads.optionalStr [("jobId",.string row.jobId)] ["jobId"] = some row.jobId := by
    have hblank' : jsTrim row.jobId ≠ "" := by rwa [hid]
    have hget : Payload.get [("jobId",.string row.jobId)] "jobId" = .string row.jobId := rfl
    have hhead : Payloads.optionalStr [("jobId",.string row.jobId)] ["jobId"] =
        some (jsTrim row.jobId) := Payloads.optionalStr_head hget hblank'
    rwa [hid] at hhead
  refine EvmAdapter.prepare_eq_ok haddress ?_ rfl d
  refine ok_bind_iff.mpr ⟨row.jobId,?_,rfl⟩
  unfold Payloads.str
  rw [hstr]

private theorem approvable (hinj : Function.Injective (keccak256 : Bytes → H)) (h : InStep s)
    (hrow : row ∈ s.jobs.rows) (hcompleted : row.status = .COMPLETED)
    (hactor : CanVerify P s.chain actor a) (hindependent : Independent P s row actor) :
    Approvable P s row actor := by
  intro ctx d hinterference hfate
  obtain ⟨hservice,b,hb,hcontract⟩ := hindependent
  obtain rfl : a = b := Option.some.inj (hactor.address.symm.trans hb)
  have hstatus := h.agree.status row hrow
  rw [hcompleted] at hstatus
  have hlength := jobId_length hinj h.reachable (utf8 row.jobId) (by rw [hstatus]; decide)
  have hblank : row.jobId ≠ "" := by
    intro he
    rw [he] at hlength
    exact hlength.1 rfl
  have hauth : Authorised s.chain .jobs a BelRoles.VERIFY_MAINTENANCE := by
    refine ⟨h.reachable.deployed.wired .jobs,hactor.active,?_⟩
    rw [rolesOf_active h.reachable.identity hactor.active,hactor.identity]
    exact hactor.role
  obtain ⟨w',hexec⟩ := approveJob_succeeds h.reachable.deployed
    ⟨a,d.timestamp,d.number,d.chainid⟩ hauth hstatus (hcontract _ rfl) hlength
  have hcheck : (approve actor).check row = .ok () := by
    simp [approve,assertTransition,hcompleted,ALLOWED_TRANSITIONS,hservice]
  have hsubmitted := EvmAdapter.submitTransaction_mined
    (prepare_approve hactor.address (h.trimmed row hrow) hblank d) hinterference hfate hexec
  have hsubmit : submit P ctx s.chain .JOB_APPROVE actor [("jobId",.string row.jobId)] d =
      (w',.ok ()) := by
    unfold submit
    rw [hactor.signed ctx,if_neg (by decide),hsubmitted]
  refine ⟨(approve actor).change row,?_⟩
  unfold serve
  dsimp only
  unfold mutate
  rw [Table.find_of_mem hrow]
  dsimp only [JobChange.mutation]
  rw [hcheck]
  dsimp only
  rw [show (approve actor).type = .JOB_APPROVE from rfl,
    show (approve actor).payload row = [("jobId",.string row.jobId)] from rfl,hsubmit]

omit [Keccak H] [DecidableEq H] in
private theorem exists_other {staff : List JobActor} (hthree : 3 ≤ staff.length)
    (hdistinct : (staff.map JobActor.identityId).Nodup) (id : String) :
    ∃ actor ∈ staff,id ≠ actor.identityId := by
  by_contra hall
  push Not at hall
  have hconst : ∀ x ∈ staff.map JobActor.identityId,x = id := by
    intro x hx
    obtain ⟨actor,hactor,rfl⟩ := List.mem_map.mp hx
    exact (hall actor hactor).symm
  have hlength : (staff.map JobActor.identityId).length ≤ 1 := by
    rw [List.eq_replicate_of_mem hconst] at hdistinct
    exact List.nodup_replicate.mp hdistinct
  rw [List.length_map] at hlength
  omega

/-- One of three people is neither the technician nor turned away. -/
theorem verifiable_iff (hinj : Function.Injective (keccak256 : Bytes → H)) (h : InStep s)
    (hrow : row ∈ s.jobs.rows) (hcompleted : row.status = .COMPLETED) {staff : List JobActor}
    (hthree : 3 ≤ staff.length) (hdistinct : (staff.map JobActor.identityId).Nodup)
    (hstaff : ∀ actor ∈ staff,∃ a,CanVerify P s.chain actor a) :
    Verifiable P s staff row ↔ Unblocked staff row := by
  have hpast : row.status ≠ .CREATED := by
    rw [hcompleted]
    decide
  constructor
  · rintro ⟨actor,hactor,hindependent,-⟩
    obtain ⟨a,ha⟩ := hstaff actor hactor
    obtain ⟨hother,hverifier⟩ := (independent_iff hinj h hrow hpast ha).mp hindependent
    rcases hverifier with hblank | hsame
    · exact ⟨.inl hblank,.inl hblank⟩
    · refine ⟨.inr ⟨actor,hactor,hsame.symm⟩,.inr ?_⟩
      rw [hsame]
      exact hother.symm
  · intro hopen
    have hfound : ∃ actor ∈ staff,row.assignedTo ≠ actor.identityId ∧
        (row.verifier = "" ∨ row.verifier = actor.identityId) := by
      rcases hopen.2 with hblank | hother
      · obtain ⟨actor,hactor,hne⟩ := exists_other hthree hdistinct row.assignedTo
        exact ⟨actor,hactor,hne,.inl hblank⟩
      · rcases hopen.1 with hblank | ⟨actor,hactor,hsame⟩
        · obtain ⟨actor,hactor,hne⟩ := exists_other hthree hdistinct row.assignedTo
          exact ⟨actor,hactor,hne,.inl hblank⟩
        · refine ⟨actor,hactor,?_,.inr hsame.symm⟩
          rw [hsame]
          exact hother.symm
    obtain ⟨actor,hactor,hpasses⟩ := hfound
    obtain ⟨a,ha⟩ := hstaff actor hactor
    have hindependent := (independent_iff hinj h hrow hpast ha).mpr hpasses
    exact ⟨actor,hactor,hindependent,approvable hinj h hrow hcompleted ha hindependent⟩

end Approval

/-- What every step that meets the condition keeps: no open job has a verifier from outside the staff,
and none that is assigned has its technician as its verifier. -/
def Untangled (staff : List JobActor) (jobs : JobTable) : Prop :=
  ∀ row ∈ jobs.rows,row.status ≠ .VERIFIED → Staffed staff row.verifier ∧
    (row.status ≠ .CREATED → row.status ≠ .REJECTED → row.verifier = "" ∨ row.verifier ≠ row.assignedTo)

section Runs
variable {P : Platform} {s : JobSystem H} {staff : List JobActor}

omit [Keccak H] [DecidableEq H] in
private theorem Untangled.create (h : Untangled staff s.jobs) {ctx : JobsContext}
    {input : CreateInput} (hkeeps : Staffed staff (input.verifierId.getD "")) :
    Untangled staff (s.jobs.save (newJob ctx s.jobs input)) := by
  intro row hrow hopen
  rcases Table.mem_save.mp hrow with rfl | ⟨hold,-⟩
  · exact ⟨hkeeps,fun hpast => absurd rfl hpast⟩
  · exact h row hold hopen

omit [Keccak H] [DecidableEq H] in
private theorem Untangled.change (h : Untangled staff s.jobs) {ctx : JobsContext} {actor : JobActor}
    {id : String} {c : JobChange} {d : Delivery} {old : Job} (hfind : s.jobs.find id = some old)
    (hcheck : (c.mutation ctx actor).check old = .ok ())
    (hkeeps : (JobEvent.request ⟨.change id c,actor,ctx,d⟩).KeepsVerifier staff s) :
    Untangled staff (s.jobs.save ((c.mutation ctx actor).change old)) := by
  intro row hrow hopen
  rcases Table.mem_save.mp hrow with rfl | ⟨hold,-⟩
  swap
  · exact h row hold hopen
  have hallowed := check_allowed hcheck
  have hmem := Table.mem_of_find hfind
  have hbefore : old.status ≠ .VERIFIED := by
    intro he
    rw [he] at hallowed
    cases hallowed
  obtain ⟨hnamed,hother⟩ := h old hmem hbefore
  cases c with
  | assign technicianId =>
    refine ⟨hnamed,fun _ _ => .inr ?_⟩
    exact (hkeeps old hfind).symm
  | start =>
    have hstatus : old.status = .ASSIGNED := by
      revert hallowed
      cases old.status <;> decide
    exact ⟨hnamed,fun _ _ => hother (by rw [hstatus]; decide) (by rw [hstatus]; decide)⟩
  | complete evidenceHash =>
    have hstatus : old.status = .IN_PROGRESS := by
      have hnext : JobStatus.COMPLETED ∈ ALLOWED_TRANSITIONS old.status := hallowed
      revert hnext
      cases old.status <;> decide
    exact ⟨hnamed,fun _ _ => hother (by rw [hstatus]; decide) (by rw [hstatus]; decide)⟩
  | approve => exact absurd rfl hopen
  | reject reason => exact ⟨hkeeps,fun _ hrejected => absurd rfl hrejected⟩

private theorem Untangled.step (h : Untangled staff s.jobs) (e : JobEvent)
    (hkeeps : e.KeepsVerifier staff s) : Untangled staff (s.step P e).jobs := by
  cases e with
  | external tx => exact h
  | request q =>
    have hreturn := serve_outcome P s q
    have hstep : (s.step P (.request q)).jobs = (serve P s q).1.jobs := rfl
    rw [hstep]
    generalize serve P s q = result at hreturn
    rcases result with ⟨s',r⟩
    cases hreturn with
    | failed e chain hchain => exact h
    | lost e tx row chain hfate hsigned haccepted hexec => exact h
    | done tx row chain haccepted hexec =>
      obtain ⟨action,actor,ctx,d⟩ := q
      cases action with
      | create input =>
        obtain ⟨-,rfl,-⟩ := haccepted
        exact h.create hkeeps
      | change id c =>
        obtain ⟨old,hfind,hcheck,rfl,-⟩ := haccepted
        exact h.change hfind hcheck hkeeps

end Runs

/-- A completed job can be verified exactly when the stored verifier is none, or one of the staff and
not the technician. That holds for all jobs as long as every step keeps to the condition. -/
theorem verification_available_iff (hinj : Function.Injective (keccak256 : Bytes → H)) (P : Platform)
    {w₀ : World H} (hw₀ : Reachable w₀) (hempty : ∀ jobId,(JobManager.job w₀ jobId).status = .NONE)
    (events : List JobEvent) (hsound : ∀ e ∈ events,e.Sound P) (staff : List JobActor)
    (hthree : 3 ≤ staff.length) (hdistinct : (staff.map JobActor.identityId).Nodup)
    (hstaff : ∀ actor ∈ staff,∃ a,CanVerify P (JobSystem.run P ⟨.empty,w₀⟩ events).chain actor a) :
    (∀ row ∈ (JobSystem.run P ⟨.empty,w₀⟩ events).jobs.rows,row.status = .COMPLETED →
      (Verifiable P (JobSystem.run P ⟨.empty,w₀⟩ events) staff row ↔ Unblocked staff row)) ∧
    (Throughout (JobSystem.step P) (fun s e => e.KeepsVerifier staff s) ⟨.empty,w₀⟩ events →
      ∀ row ∈ (JobSystem.run P ⟨.empty,w₀⟩ events).jobs.rows,row.status = .COMPLETED →
        Verifiable P (JobSystem.run P ⟨.empty,w₀⟩ events) staff row) := by
  have hend := (inStep_start hw₀ hempty).run hinj hsound
  have hiff : ∀ row ∈ (JobSystem.run P ⟨.empty,w₀⟩ events).jobs.rows,row.status = .COMPLETED →
      (Verifiable P (JobSystem.run P ⟨.empty,w₀⟩ events) staff row ↔ Unblocked staff row) :=
    fun row hrow hcompleted => verifiable_iff hinj hend hrow hcompleted hthree hdistinct hstaff
  refine ⟨hiff,fun hkeeps row hrow hcompleted => ?_⟩
  have huntangled : Untangled staff (JobSystem.run P ⟨.empty,w₀⟩ events).jobs := by
    refine hkeeps.invariant (I := fun s => Untangled staff s.jobs) ?_ ?_
    · exact fun s e h he => h.step e he
    · exact fun row hrow => absurd hrow List.not_mem_nil
  obtain ⟨hnamed,hother⟩ := huntangled row hrow (by rw [hcompleted]; decide)
  apply (hiff row hrow hcompleted).mpr
  exact ⟨hnamed,hother (by rw [hcompleted]; decide) (by rw [hcompleted]; decide)⟩

section Prototype

/-- A manager and an auditor join the workshop. -/
def inspectorTxs : List Tx :=
  [txOf 0xad 12 (.createIdentity 0xf1 (utf8 "DID:BEL:MGR")),
   txOf 0xad 13 (.activateWallet 0xf1),
   txOf 0xad 14 (.assignRole 0xf1 .MANAGER),
   txOf 0xad 15 (.createIdentity 0xf2 (utf8 "DID:BEL:AUD")),
   txOf 0xad 16 (.activateWallet 0xf2),
   txOf 0xad 17 (.assignRole 0xf2 .AUDITOR)]

def inspection : World (Option Bytes) := attemptAll exec workshop inspectorTxs

theorem inspection_reachable : Reachable inspection := workshop_reachable.attemptAll inspectorTxs

theorem inspection_no_jobs (jobId : Bytes) : (JobManager.job inspection jobId).status = .NONE := by
  have hforeign : ∀ tx ∈ inspectorTxs,tx.call.target ≠ some .jobs := by decide
  have hkeeps : KeepsJobs workshop inspection := attemptAll_keepsJobs workshop_reachable hforeign
  rw [hkeeps.job_eq]
  exact workshop_no_jobs jobId

def MGR : JobActor :=
  ⟨"DID:BEL:MGR","0x00000000000000000000000000000000000000f1",some "0x02f8"⟩

def AUD : JobActor :=
  ⟨"DID:BEL:AUD","0x00000000000000000000000000000000000000f2",some "0x02f8"⟩

/-- The engineer may maintain and verify, the other two may verify. -/
def inspectors : List JobActor := [ENG,MGR,AUD]

/-- The engineer does a job for which `verifierId` is chosen at its creation. -/
def engineerEvents (verifierId : String) : List JobEvent :=
  [.request (requestOf MGR 18 .mined
    (.create ⟨none,some "RADAR-1",some "DID:BEL:ENG",some verifierId,some .HIGH⟩)),
   .request (requestOf MGR 19 .mined (.change "JOB-1" (.assign "DID:BEL:ENG"))),
   .request (requestOf ENG 20 .mined (.change "JOB-1" .start)),
   .request (requestOf ENG 21 .mined (.change "JOB-1" (.complete evidence)))]

theorem engineerEvents_sound (verifierId : String) :
    ∀ e ∈ engineerEvents verifierId,e.Sound prototypePlatform := by
  intro e he
  simp only [engineerEvents,List.mem_cons,List.not_mem_nil,or_false] at he
  rcases he with rfl | rfl | rfl | rfl
  · exact requestOf_sound ..
  · exact requestOf_sound ..
  · exact requestOf_sound ..
  · exact requestOf_sound ..

def engineerJob (verifierId : String) : JobSystem (Option Bytes) :=
  JobSystem.run prototypePlatform ⟨.empty,inspection⟩ (engineerEvents verifierId)

theorem signed_inspector {actor : JobActor} (hactor : actor.signature = some "0x02f8")
    (ctx : JobsContext) : unsigned ctx actor = false := by
  have hsignature : jsTrim "0x02f8" = "0x02f8" := by decide +kernel
  simp [unsigned,hactor,hsignature]

/-- What can be computed of `CanVerify`. -/
def verifies (w : World (Option Bytes)) (actor : JobActor) (a : Address) : Bool :=
  decide (prototypePlatform.parseAddress actor.walletAddress = some a) &&
  decide ((w.identity.wallets a).status = .ACTIVE) &&
  decide (IdentityRegistry.identityOf w.identity a = utf8 actor.identityId) &&
  decide (RoleRegistry.rolesOfIdentity w (utf8 actor.identityId) &&& BelRoles.VERIFY_MAINTENANCE ≠ 0)

theorem canVerify_inspector {w : World (Option Bytes)} {actor : JobActor} {a : Address}
    (hsigned : actor.signature = some "0x02f8") (h : verifies w actor a = true) :
    ∃ a,CanVerify prototypePlatform w actor a := by
  simp only [verifies,Bool.and_eq_true,decide_eq_true_eq] at h
  obtain ⟨⟨⟨haddress,hactive⟩,hidentity⟩,hrole⟩ := h
  exact ⟨a,haddress,hactive,hidentity,hrole,signed_inspector hsigned⟩

theorem inspectors_verify {w : World (Option Bytes)}
    (h : verifies w ENG 0xe1 && verifies w MGR 0xf1 && verifies w AUD 0xf2) :
    ∀ actor ∈ inspectors,∃ a,CanVerify prototypePlatform w actor a := by
  simp only [Bool.and_eq_true] at h
  intro actor hactor
  simp only [inspectors,List.mem_cons,List.not_mem_nil,or_false] at hactor
  rcases hactor with rfl | rfl | rfl
  · exact canVerify_inspector rfl h.1.1
  · exact canVerify_inspector rfl h.1.2
  · exact canVerify_inspector rfl h.2

/-- The manager is to verify what the engineer has done. -/
theorem verification_available_manager :
    ∃ row ∈ (engineerJob "DID:BEL:MGR").jobs.rows,row.status = .COMPLETED ∧
      Verifiable prototypePlatform (engineerJob "DID:BEL:MGR") inspectors row := by
  have hrun : (let w := (engineerJob "DID:BEL:MGR").chain
      verifies w ENG 0xe1 && verifies w MGR 0xf1 && verifies w AUD 0xf2) = true ∧
      ∃ row ∈ (engineerJob "DID:BEL:MGR").jobs.rows,row.status = .COMPLETED := by
    decide +kernel
  obtain ⟨hverify,row,hmem,hcompleted⟩ := hrun
  have hstaff : ∀ actor ∈ inspectors,∃ a,
      CanVerify prototypePlatform (engineerJob "DID:BEL:MGR").chain actor a :=
    inspectors_verify hverify
  have hkeeps : Throughout (JobSystem.step prototypePlatform)
      (fun s e => e.KeepsVerifier inspectors s) ⟨.empty,inspection⟩ (engineerEvents "DID:BEL:MGR") := by
    refine ⟨.inr ⟨MGR,by simp [inspectors],rfl⟩,?_,trivial,trivial,trivial⟩
    intro row hrow
    have hverifier : ((JobSystem.step prototypePlatform ⟨.empty,inspection⟩
        (.request (requestOf MGR 18 .mined (.create
          ⟨none,some "RADAR-1",some "DID:BEL:ENG",some "DID:BEL:MGR",some .HIGH⟩)))).jobs.find
        "JOB-1").map Job.verifier = some "DID:BEL:MGR" := by decide +kernel
    rw [hrow] at hverifier
    rw [Option.some.inj hverifier]
    decide
  refine ⟨row,hmem,hcompleted,?_⟩
  unfold engineerJob at hmem hstaff ⊢
  exact (verification_available_iff prototype_keccak_injective prototypePlatform
    inspection_reachable inspection_no_jobs (engineerEvents "DID:BEL:MGR") (engineerEvents_sound _)
    inspectors (by decide) (by decide +kernel) hstaff).2 hkeeps row hmem hcompleted

/-- The engineer is to verify what the engineer has done: nobody can. -/
theorem engineer_blocks_verification :
    JobsAgree (engineerJob "DID:BEL:ENG") ∧
    (∀ actor ∈ inspectors,∃ a,CanVerify prototypePlatform (engineerJob "DID:BEL:ENG").chain actor a) ∧
    ∃ row ∈ (engineerJob "DID:BEL:ENG").jobs.rows,row.status = .COMPLETED ∧
      ∀ actor : JobActor,requireIndependentVerifier row actor ≠ .ok () := by
  have hagree : JobsAgree (engineerJob "DID:BEL:ENG") :=
    ((inStep_start inspection_reachable inspection_no_jobs).run prototype_keccak_injective
      (engineerEvents_sound "DID:BEL:ENG")).agree
  have hrun : (let w := (engineerJob "DID:BEL:ENG").chain
      verifies w ENG 0xe1 && verifies w MGR 0xf1 && verifies w AUD 0xf2) = true ∧
      ∃ row ∈ (engineerJob "DID:BEL:ENG").jobs.rows,row.status = .COMPLETED ∧
        row.verifier = "DID:BEL:ENG" ∧ row.assignedTo = "DID:BEL:ENG" := by
    decide +kernel
  obtain ⟨hverify,row,hmem,hcompleted,hverifier,hassigned⟩ := hrun
  refine ⟨hagree,inspectors_verify hverify,row,hmem,hcompleted,fun actor hpasses => ?_⟩
  obtain ⟨hother,hblank | hsame⟩ := requireIndependentVerifier_eq_ok.mp hpasses
  · rw [hverifier] at hblank
    exact absurd hblank (by decide)
  · rw [hassigned,← hverifier] at hother
    exact hother hsame

end Prototype

end BelLedger
