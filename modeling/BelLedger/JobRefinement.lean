import BelLedger.JobEffects

/-!
# JobsServiceImpl refines JobManager

For requests that finish one after the other. Other transactions may be mined at any time, during a
request too, as long as they leave the jobs alone.
-/
namespace BelLedger
open CheckedCalls TransitionRuns KeyedTables JobsService

variable {H : Type} [Keccak H] [DecidableEq H]

/-- The DID of the wallet a job is assigned to on chain. -/
def technicianDid (w : World H) (jobId : Bytes) : Bytes :=
  IdentityRegistry.identityOf w.identity (JobManager.job w jobId).technician

/-- The stored jobs and the jobs on chain are the same. -/
structure JobsAgree (s : JobSystem H) : Prop where
  ids : ∀ jobId,(JobManager.job s.chain jobId).status ≠ .NONE ↔
    ∃ row ∈ s.jobs.rows,utf8 row.jobId = jobId
  status : ∀ row ∈ s.jobs.rows,
    (JobManager.job s.chain (utf8 row.jobId)).status = row.status.onChain
  technician : ∀ row ∈ s.jobs.rows,row.status ≠ .CREATED →
    technicianDid s.chain (utf8 row.jobId) = utf8 row.assignedTo

/-- The identity lookup is configured, and accepts only trimmed ids that are not addresses. -/
def JobsContext.ChecksIdentities (P : Platform) (ctx : JobsContext) : Prop :=
  ∃ accepts,ctx.identityExists = some accepts ∧
    ∀ id,accepts id = true → Trimmed id ∧ P.parseAddress id = none

structure JobRequest.Sound (P : Platform) (q : JobRequest) : Prop where
  foreign : ∀ tx ∈ q.delivery.interference,tx.call.target ≠ some .jobs
  reported : ¬q.delivery.fate.Lost
  identities : q.ctx.ChecksIdentities P

/-- Jobs change on chain only through requests, and every request learns its outcome. -/
def JobEvent.Sound (P : Platform) : JobEvent → Prop
  | .request q => q.Sound P
  | .external tx => tx.call.target ≠ some .jobs

section Foreign
variable {w : World H}

/-- What a transaction of another contract keeps: every job and the DID of every technician. -/
structure KeepsJobs (w w' : World H) : Prop where
  reachable : Reachable w → Reachable w'
  jobs : w'.jobs = w.jobs
  wallets : KeepsWallets w w'

theorem KeepsJobs.refl (w : World H) : KeepsJobs w w := ⟨fun h => h,rfl,.refl w⟩

theorem KeepsJobs.trans {u v : World H} (h : KeepsJobs w u) (h' : KeepsJobs u v) : KeepsJobs w v :=
  ⟨fun hw => h'.reachable (h.reachable hw),h'.jobs.trans h.jobs,h.wallets.trans h'.wallets⟩

theorem KeepsJobs.job_eq {w' : World H} (h : KeepsJobs w w') (jobId : Bytes) :
    JobManager.job w' jobId = JobManager.job w jobId := by
  unfold JobManager.job
  rw [h.jobs]

theorem attempt_keepsJobs (hw : Reachable w) {tx : Tx} (htx : tx.call.target ≠ some .jobs) :
    KeepsJobs w (attempt exec w tx) := by
  refine ⟨fun h => h.attempt tx,?_,attempt_keepsWallets hw tx⟩
  unfold attempt
  cases hs : exec w tx with
  | error e => rfl
  | ok w' => exact (exec_frame hw.deployed hs).jobs htx

theorem attemptAll_keepsJobs (hw : Reachable w) {txs : List Tx}
    (htxs : ∀ tx ∈ txs,tx.call.target ≠ some .jobs) : KeepsJobs w (attemptAll exec w txs) :=
  hw.attemptAll_related (fun u _ => .refl u) (fun _ _ _ h h' => h.trans h')
    (fun tx htx _ hu => attempt_keepsJobs hu (htxs tx htx))

end Foreign

/-- The invariant of a run: the two sides agree, ids are trimmed, technicians are registered. -/
structure InStep (s : JobSystem H) : Prop where
  agree : JobsAgree s
  trimmed : TrimmedIds s.jobs
  registered : ∀ row ∈ s.jobs.rows,row.status ≠ .CREATED →
    (s.chain.identity.wallets (JobManager.job s.chain (utf8 row.jobId)).technician).status ≠ .NONE
  reachable : Reachable s.chain

theorem InStep.foreign {s : JobSystem H} {w : World H} (h : InStep s) (hkeeps : KeepsJobs s.chain w) :
    InStep ⟨s.jobs,w⟩ := by
  refine ⟨⟨?_,?_,?_⟩,h.trimmed,?_,hkeeps.reachable h.reachable⟩
  · intro jobId
    rw [hkeeps.job_eq]
    exact h.agree.ids jobId
  · intro row hrow
    rw [hkeeps.job_eq]
    exact h.agree.status row hrow
  · intro row hrow hpast
    unfold technicianDid
    rw [hkeeps.job_eq,(hkeeps.wallets _ (h.registered row hrow hpast)).2]
    exact h.agree.technician row hrow hpast
  · intro row hrow hpast
    rw [hkeeps.job_eq]
    exact (hkeeps.wallets _ (h.registered row hrow hpast)).1

section Written
variable {s : JobSystem H} {w w' : World H} {row : Job}

/-- Writing one row and moving its job on chain, when the two new sides agree on that job. -/
theorem InStep.write (h : InStep s) {tx : Tx} (hexec : exec s.chain tx = .ok w')
    (htrim : Trimmed row.jobId)
    (hstatus : (JobManager.job w' (utf8 row.jobId)).status = row.status.onChain)
    (htechnician : row.status ≠ .CREATED →
      (w'.identity.wallets (JobManager.job w' (utf8 row.jobId)).technician).status ≠ .NONE ∧
        technicianDid w' (utf8 row.jobId) = utf8 row.assignedTo)
    (hother : ∀ jobId,jobId ≠ utf8 row.jobId →
      JobManager.job w' jobId = JobManager.job s.chain jobId) : InStep ⟨s.jobs.save row,w'⟩ := by
  have hkept := exec_keepsWallets h.reachable hexec
  have hne : ∀ {x : Job},x.jobId ≠ row.jobId → utf8 x.jobId ≠ utf8 row.jobId :=
    fun hx he => hx (utf8_injective he)
  refine ⟨⟨?_,?_,?_⟩,?_,?_,h.reachable.step hexec⟩
  · intro jobId
    by_cases hid : jobId = utf8 row.jobId
    · subst hid
      rw [hstatus]
      exact ⟨fun _ => ⟨row,Table.mem_save.mpr (.inl rfl),rfl⟩,fun _ => row.status.onChain_ne_none⟩
    · rw [hother jobId hid,h.agree.ids jobId]
      constructor
      · rintro ⟨x,hx,rfl⟩
        exact ⟨x,Table.mem_save.mpr (.inr ⟨hx,fun he => hid (congrArg utf8 he)⟩),rfl⟩
      · rintro ⟨x,hx,rfl⟩
        rcases Table.mem_save.mp hx with rfl | ⟨hold,-⟩
        · exact absurd rfl hid
        · exact ⟨x,hold,rfl⟩
  · intro x hx
    rcases Table.mem_save.mp hx with rfl | ⟨hold,hid⟩
    · exact hstatus
    · rw [hother _ (hne hid)]
      exact h.agree.status x hold
  · intro x hx hpast
    rcases Table.mem_save.mp hx with rfl | ⟨hold,hid⟩
    · exact (htechnician hpast).2
    · unfold technicianDid
      rw [hother _ (hne hid),(hkept _ (h.registered x hold hpast)).2]
      exact h.agree.technician x hold hpast
  · intro x hx
    rcases Table.mem_save.mp hx with rfl | ⟨hold,-⟩
    · exact htrim
    · exact h.trimmed x hold
  · intro x hx hpast
    rcases Table.mem_save.mp hx with rfl | ⟨hold,hid⟩
    · exact (htechnician hpast).1
    · rw [hother _ (hne hid)]
      exact (hkept _ (h.registered x hold hpast)).1

omit [Keccak H] [DecidableEq H] in
/-- Only an assignment leads out of CREATED. -/
private theorem allowed_from_created {next : JobStatus} {old : JobStatus}
    (h : next ∈ ALLOWED_TRANSITIONS old) (hnext : next ≠ .ASSIGNED) : old ≠ .CREATED := by
  rintro rfl
  exact hnext (List.mem_singleton.mp h)

private theorem requireIdentity_sound {P : Platform} {ctx : JobsContext} {id : String}
    (hctx : ctx.ChecksIdentities P) (h : requireIdentity ctx id = .ok ()) :
    Trimmed id ∧ P.parseAddress id = none := by
  obtain ⟨accepts,hconfigured,hsound⟩ := hctx
  apply hsound
  simpa [requireIdentity,hconfigured] using h

theorem InStep.change (hinj : Function.Injective (keccak256 : Bytes → H)) {P : Platform}
    {ctx : JobsContext} {w₀ : World H} {old : Job} {tx : Tx} (h : InStep s)
    (hkeeps : KeepsJobs w₀ s.chain) (hw₀ : Reachable w₀) (hctx : ctx.ChecksIdentities P)
    (hfind : s.jobs.find row.jobId = some old) (hexec : exec s.chain tx = .ok w')
    (heffect : ChangeEffect P ctx w₀ s.chain w' old row) : InStep ⟨s.jobs.save row,w'⟩ := by
  have hmem := Table.mem_of_find hfind
  have hkept := exec_keepsWallets h.reachable hexec
  have hid := heffect.jobId
  refine h.write hexec ?_ ?_ ?_ ?_
  · rw [hid]
    exact h.trimmed old hmem
  · rw [hid]
    exact heffect.status
  · intro hpast
    rw [hid]
    unfold technicianDid
    rcases heffect.technician with ⟨-,hidentity,hresolves⟩ | ⟨hnext,hassigned,htechnician⟩
    · obtain ⟨htrim,hnot⟩ := requireIdentity_sound hctx hidentity
      obtain ⟨hregistered,hdid⟩ := hresolves.identityOf_eq hinj hw₀.identity htrim hnot
      have hhere := hkeeps.wallets.trans hkept _ hregistered
      exact ⟨hhere.1,hhere.2.trans hdid⟩
    · have hsource := allowed_from_created heffect.allowed hnext
      rw [htechnician,hassigned]
      have hhere := h.registered old hmem hsource
      exact ⟨(hkept _ hhere).1,(hkept _ hhere).2.trans (h.agree.technician old hmem hsource)⟩
  · rw [hid]
    exact heffect.other

end Written

section Requests
variable {P : Platform} {s : JobSystem H} {q : JobRequest}

theorem JobRequest.Sound.keepsJobs (hq : q.Sound P) (hw : Reachable s.chain) :
    KeepsJobs s.chain (q.chainAt s) := attemptAll_keepsJobs hw hq.foreign

theorem InStep.serve (hinj : Function.Injective (keccak256 : Bytes → H)) (h : InStep s)
    (hq : q.Sound P) : InStep (serve P s q).1 := by
  have hkeeps := hq.keepsJobs h.reachable
  have hreturn := serve_outcome P s q
  generalize (BelLedger.serve P s q).1 = s',(BelLedger.serve P s q).2 = r at hreturn
  cases hreturn with
  | failed e chain hchain =>
    rcases hchain with rfl | rfl
    · exact h
    · exact h.foreign hkeeps
  | lost e tx row chain hfate hsigned haccepted hexec => exact absurd hfate hq.reported
  | done tx row chain haccepted hexec =>
    have hhere := h.foreign hkeeps
    obtain ⟨htrim,⟨hnew,heffect⟩ | ⟨old,hfind,heffect⟩⟩ :=
      haccepted.effect hinj h.trimmed hhere.reachable.deployed hexec
    · refine hhere.write hexec htrim ?_ ?_ heffect.other
      · rw [heffect.status,heffect.created]
        rfl
      · exact fun hpast => absurd heffect.created hpast
    · exact InStep.change (s := ⟨s.jobs,q.chainAt s⟩) hinj hhere hkeeps h.reachable hq.identities
        hfind hexec heffect

/-- A request that throws has no effect of its own. -/
theorem serve_throws (hq : q.Sound P) {e : ServiceError} (he : (serve P s q).2 = .error e) :
    (serve P s q).1.jobs = s.jobs ∧
      ((serve P s q).1.chain = s.chain ∨ (serve P s q).1.chain = q.chainAt s) := by
  have hreturn := serve_outcome P s q
  generalize BelLedger.serve P s q = result at hreturn he
  rcases result with ⟨s',r⟩
  cases hreturn with
  | failed e' chain hchain => exact ⟨rfl,hchain⟩
  | lost e' tx row chain hfate hsigned haccepted hexec => exact absurd hfate hq.reported
  | done tx row chain haccepted hexec => cases he

theorem InStep.run (hinj : Function.Injective (keccak256 : Bytes → H)) (h : InStep s)
    {events : List JobEvent} (hsound : ∀ e ∈ events,e.Sound P) : InStep (s.run P events) := by
  refine List.foldlRecOn events (JobSystem.step P) h ?_
  intro s h e he
  have hevent := hsound e he
  cases e with
  | request q => exact h.serve hinj hevent
  | external tx => exact h.foreign (attempt_keepsJobs h.reachable hevent)

end Requests

/-- No jobs on either side. -/
theorem inStep_start {w₀ : World H} (hw₀ : Reachable w₀)
    (hempty : ∀ jobId,(JobManager.job w₀ jobId).status = .NONE) : InStep ⟨.empty,w₀⟩ := by
  have hnone : ∀ {row : Job},row ∈ (Table.empty : JobTable).rows → False := fun h => by cases h
  refine ⟨⟨?_,?_,?_⟩,?_,?_,hw₀⟩
  · intro jobId
    constructor
    · exact fun hjob => absurd (hempty jobId) hjob
    · rintro ⟨row,hrow,-⟩
      exact (hnone hrow).elim
  · exact fun row hrow => (hnone hrow).elim
  · exact fun row hrow => (hnone hrow).elim
  · exact fun row hrow => (hnone hrow).elim
  · exact fun row hrow => (hnone hrow).elim

/-- The stored jobs and the on-chain jobs stay the same through every sequence of requests, and a
request that throws changes neither side. -/
theorem jobs_service_refines (hinj : Function.Injective (keccak256 : Bytes → H)) (P : Platform)
    {w₀ : World H} (hw₀ : Reachable w₀) (hempty : ∀ jobId,(JobManager.job w₀ jobId).status = .NONE)
    (events : List JobEvent) (hsound : ∀ e ∈ events,e.Sound P) :
    JobsAgree (JobSystem.run P ⟨.empty,w₀⟩ events) ∧
    ∀ (q : JobRequest) (e : ServiceError),q.Sound P →
      (serve P (JobSystem.run P ⟨.empty,w₀⟩ events) q).2 = .error e →
      (serve P (JobSystem.run P ⟨.empty,w₀⟩ events) q).1.jobs =
        (JobSystem.run P ⟨.empty,w₀⟩ events).jobs ∧
      ((serve P (JobSystem.run P ⟨.empty,w₀⟩ events) q).1.chain =
          (JobSystem.run P ⟨.empty,w₀⟩ events).chain ∨
        (serve P (JobSystem.run P ⟨.empty,w₀⟩ events) q).1.chain =
          attemptAll exec (JobSystem.run P ⟨.empty,w₀⟩ events).chain q.delivery.interference) :=
  ⟨((inStep_start hw₀ hempty).run hinj hsound).agree,fun _ _ hq he => serve_throws hq he⟩

section Prototype

theorem workshop_no_jobs (jobId : Bytes) : (JobManager.job workshop jobId).status = .NONE := by
  have hforeign : ∀ tx ∈ workshopTxs,tx.call.target ≠ some .jobs := by decide
  have hkeeps : KeepsJobs prototypeWorld workshop :=
    attemptAll_keepsJobs (prototype_reachable []) hforeign
  have hjobs := (deploy_genesis deploy_prototype).jobs
  rw [hkeeps.job_eq]
  unfold JobManager.job
  rw [hjobs]

def ENG : JobActor :=
  ⟨"DID:BEL:ENG","0x00000000000000000000000000000000000000e1",some "0x02f8"⟩

def TECH1 : JobActor :=
  ⟨"DID:BEL:TECH-1","0x00000000000000000000000000000000000000c1",some "0x02f8"⟩

def TECH2 : JobActor :=
  ⟨"DID:BEL:TECH-2","0x00000000000000000000000000000000000000c2",some "0x02f8"⟩

def workshopContext : JobsContext :=
  { evm := true
    assetExists := some (fun id => id == "RADAR-1")
    identityExists := some (fun id => [ENG.identityId,TECH1.identityId,TECH2.identityId].contains id)
    now := "2025-11-18T09:00:00.000Z" }

theorem workshopContext_checks : workshopContext.ChecksIdentities prototypePlatform := by
  refine ⟨_,rfl,?_⟩
  intro id hid
  simp only [List.contains_eq_mem,List.mem_cons,List.not_mem_nil,or_false,decide_eq_true_eq] at hid
  rcases hid with rfl | rfl | rfl
  · decide +kernel
  · decide +kernel
  · decide +kernel

/-- A request whose transaction meets the fate `fate` in block `number`. -/
def requestOf (actor : JobActor) (number : ℕ) (fate : Fate) (action : JobAction) : JobRequest :=
  ⟨action,actor,workshopContext,⟨[],number,number,1,fate⟩⟩

theorem requestOf_sound (actor : JobActor) (number : ℕ) (action : JobAction) :
    (requestOf actor number .mined action).Sound prototypePlatform :=
  ⟨fun _ h => absurd h List.not_mem_nil,fun h => h,workshopContext_checks⟩

def radarInput : CreateInput := ⟨none,some "RADAR-1",some "DID:BEL:ENG",none,some .HIGH⟩

def evidence : String := "00000000000000000000000000000000000000000000000000000000000000ff"

/-- A job is rejected, and the second technician's only wallet is revoked meanwhile: assigning it to
them is refused, assigning it to the first one again is not. -/
def reworkEvents : List JobEvent :=
  [.request (requestOf ENG 12 .mined (.create radarInput)),
   .request (requestOf ENG 13 .mined (.change "JOB-1" (.assign "DID:BEL:TECH-1"))),
   .request (requestOf TECH1 14 .mined (.change "JOB-1" .start)),
   .external (txOf 0xad 15 (.revokeWallet 0xc2 (utf8 "lost"))),
   .request (requestOf TECH1 16 .mined (.change "JOB-1" (.complete evidence))),
   .request (requestOf ENG 17 .mined (.change "JOB-1" (.reject "torque"))),
   .request (requestOf ENG 18 .mined (.change "JOB-1" (.assign "DID:BEL:TECH-2"))),
   .request (requestOf ENG 19 .mined (.change "JOB-1" (.assign "DID:BEL:TECH-1")))]

theorem reworkEvents_sound : ∀ e ∈ reworkEvents,e.Sound prototypePlatform := by
  intro e he
  simp only [reworkEvents,List.mem_cons,List.not_mem_nil,or_false] at he
  rcases he with rfl | rfl | rfl | rfl | rfl | rfl | rfl | rfl
  · exact requestOf_sound ..
  · exact requestOf_sound ..
  · exact requestOf_sound ..
  · exact fun h => by cases h
  · exact requestOf_sound ..
  · exact requestOf_sound ..
  · exact requestOf_sound ..
  · exact requestOf_sound ..

theorem jobs_service_refines_rework :
    ((JobSystem.run prototypePlatform ⟨.empty,workshop⟩ reworkEvents).jobs.find "JOB-1").map
        (fun row => (row.status,row.assignedTo)) = some (.ASSIGNED,"DID:BEL:TECH-1") ∧
      JobsAgree (JobSystem.run prototypePlatform ⟨.empty,workshop⟩ reworkEvents) :=
  ⟨by decide +kernel,
    (jobs_service_refines prototype_keccak_injective prototypePlatform workshop_reachable
      workshop_no_jobs reworkEvents reworkEvents_sound).1⟩

end Prototype
end BelLedger
