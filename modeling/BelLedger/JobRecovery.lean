import BelLedger.JobRefinement

/-!
# Jobs after a lost response

A submission may take effect and nevertheless throw: the receipt did not come in time. The chain is
then one transition ahead of the stored row, and no request can move either side of that job again.
-/
namespace BelLedger
open CheckedCalls TransitionRuns KeyedTables JobsService

variable {H : Type} [Keccak H] [DecidableEq H]

/-- The stored status of the job is its status on chain; a job that is not stored is not there. -/
def InSync (id : String) (s : JobSystem H) : Prop :=
  match s.jobs.find id with
  | none => (JobManager.job s.chain (utf8 id)).status = .NONE
  | some row => (JobManager.job s.chain (utf8 id)).status = row.status.onChain

/-- The chain is one transition ahead. -/
def Stuck (id : String) (s : JobSystem H) : Prop :=
  match s.jobs.find id with
  | none => (JobManager.job s.chain (utf8 id)).status = .CREATED
  | some row => ∃ next ∈ ALLOWED_TRANSITIONS row.status,
      (JobManager.job s.chain (utf8 id)).status = next.onChain

instance (id : String) (s : JobSystem H) : Decidable (Stuck id s) :=
  match hfind : s.jobs.find id with
  | none => decidable_of_iff ((JobManager.job s.chain (utf8 id)).status = .CREATED)
      (by simp [Stuck,hfind])
  | some row => decidable_of_iff (∃ next ∈ ALLOWED_TRANSITIONS row.status,
      (JobManager.job s.chain (utf8 id)).status = next.onChain) (by simp [Stuck,hfind])

/-- No other transaction of this request touches JobManager. -/
def JobRequest.Foreign (q : JobRequest) : Prop :=
  ∀ tx ∈ q.delivery.interference,tx.call.target ≠ some .jobs

/-- Jobs change on chain only through requests. -/
def JobEvent.Foreign : JobEvent → Prop
  | .request q => q.Foreign
  | .external tx => tx.call.target ≠ some .jobs

/-- Some further requests, each of which learns its outcome, bring the two statuses together. -/
def Recoverable (P : Platform) (id : String) (s : JobSystem H) : Prop :=
  ∃ qs : List JobRequest,(∀ q ∈ qs,q.Foreign ∧ ¬q.delivery.fate.Lost) ∧
    InSync id (s.run P (qs.map .request))

/-- A request on the job passes its checks, JobManager executes its transaction, and the response is
lost. -/
def JobEvent.LosesEffect (P : Platform) (id : String) (s : JobSystem H) : JobEvent → Prop
  | .request q => q.delivery.fate.Lost ∧ unsigned q.ctx q.actor = false ∧
      ∃ tx row chain,Accepted P s q tx row ∧ row.jobId = id ∧ exec (q.chainAt s) tx = .ok chain
  | .external _ => False

section Transitions

/-- Two transitions in a row are never one transition. -/
private theorem no_shortcut {current next target : JobStatus}
    (hnext : next ∈ ALLOWED_TRANSITIONS current) (htarget : target ∈ ALLOWED_TRANSITIONS current) :
    target ∉ ALLOWED_TRANSITIONS next := by
  cases current <;> cases next <;> simp [ALLOWED_TRANSITIONS] at hnext <;>
    cases target <;> simp [ALLOWED_TRANSITIONS] at htarget ⊢

private theorem no_self_transition (status : JobStatus) : status ∉ ALLOWED_TRANSITIONS status := by
  cases status <;> simp [ALLOWED_TRANSITIONS]

end Transitions

omit [DecidableEq H] in
theorem Stuck.not_inSync {id : String} {s : JobSystem H} (h : Stuck id s) : ¬InSync id s := by
  unfold Stuck at h
  unfold InSync
  cases hfind : s.jobs.find id with
  | none =>
    simp only [hfind] at h ⊢
    simp [h]
  | some row =>
    simp only [hfind] at h ⊢
    obtain ⟨next,hnext,hstatus⟩ := h
    intro hsame
    have heq := JobStatus.onChain_injective (hstatus.symm.trans hsame)
    exact no_self_transition row.status (heq ▸ hnext)

omit [DecidableEq H] in
/-- Both are properties of the row and of the on-chain job of `id`. -/
private theorem same_job {id : String} {s t : JobSystem H} (hfind : t.jobs.find id = s.jobs.find id)
    (hjob : JobManager.job t.chain (utf8 id) = JobManager.job s.chain (utf8 id)) :
    (InSync id s → InSync id t) ∧ (Stuck id s → Stuck id t) := by
  unfold InSync Stuck
  rw [hfind,hjob]
  exact ⟨fun h => h,fun h => h⟩

/-- What every run keeps: a state of the deployed contracts, and ids as `create` spells them. -/
structure Grounded (s : JobSystem H) : Prop where
  reachable : Reachable s.chain
  trimmed : TrimmedIds s.jobs

section Steps
variable {P : Platform} {id : String} {s : JobSystem H} {q : JobRequest}

theorem JobRequest.Foreign.keepsJobs (hq : q.Foreign) (h : Grounded s) :
    KeepsJobs s.chain (q.chainAt s) := attemptAll_keepsJobs h.reachable hq

private theorem foreign_chain {w : World H} (hkeeps : KeepsJobs s.chain w) :
    (InSync id s → InSync id ⟨s.jobs,w⟩) ∧ (Stuck id s → Stuck id ⟨s.jobs,w⟩) :=
  same_job rfl (hkeeps.job_eq (utf8 id))

theorem Grounded.serve (hinj : Function.Injective (keccak256 : Bytes → H)) (h : Grounded s)
    (hq : q.Foreign) : Grounded (serve P s q).1 := by
  have hkeeps := hq.keepsJobs h
  have hhere := hkeeps.reachable h.reachable
  have hreturn := serve_outcome P s q
  generalize (BelLedger.serve P s q).1 = s',(BelLedger.serve P s q).2 = r at hreturn
  cases hreturn with
  | failed e chain hchain =>
    rcases hchain with rfl | rfl
    · exact h
    · exact ⟨hhere,h.trimmed⟩
  | lost e tx row chain hfate hsigned haccepted hexec => exact ⟨hhere.step hexec,h.trimmed⟩
  | done tx row chain haccepted hexec =>
    refine ⟨hhere.step hexec,?_⟩
    intro x hx
    rcases Table.mem_save.mp hx with rfl | ⟨hold,-⟩
    · exact (haccepted.effect hinj h.trimmed hhere.deployed hexec).1
    · exact h.trimmed x hold

section Executed
variable {tx : Tx} {row : Job} {w w' : World H}

/-- An executed transaction of a request on another job. -/
private theorem executed_other (hinj : Function.Injective (keccak256 : Bytes → H)) (h : Grounded s)
    (hw : Reachable w) (haccepted : Accepted P s q tx row) (hexec : exec w tx = .ok w')
    (hid : row.jobId ≠ id) :
    JobManager.job w' (utf8 id) = JobManager.job w (utf8 id) := by
  have hne : utf8 id ≠ utf8 row.jobId := fun he => hid (utf8_injective he).symm
  obtain ⟨-,⟨-,heffect⟩ | ⟨old,-,heffect⟩⟩ :=
    haccepted.effect hinj h.trimmed hw.deployed hexec
  · exact heffect.other _ hne
  · exact heffect.other _ (heffect.jobId ▸ hne)

/-- A stuck job refuses every transaction the service would submit for it. -/
private theorem stuck_refuses (hinj : Function.Injective (keccak256 : Bytes → H)) (h : Grounded s)
    (hw : Reachable w) (haccepted : Accepted P s q tx row) (hexec : exec w tx = .ok w')
    (hstuck : Stuck row.jobId ⟨s.jobs,w⟩) : False := by
  unfold Stuck at hstuck
  obtain ⟨-,⟨hfind,heffect⟩ | ⟨old,hfind,heffect⟩⟩ :=
    haccepted.effect hinj h.trimmed hw.deployed hexec
  · simp only [hfind] at hstuck
    have hfresh := heffect.fresh
    rw [hstuck] at hfresh
    cases hfresh
  · simp only [hfind] at hstuck
    rw [heffect.jobId] at hstuck
    obtain ⟨next,hnext,hstatus⟩ := hstuck
    obtain ⟨source,hsource,htarget⟩ := heffect.source
    obtain rfl := JobStatus.onChain_injective (hstatus.symm.trans hsource)
    exact no_shortcut hnext heffect.allowed htarget

/-- The written row has the status its transaction led to. -/
private theorem written_inSync (hinj : Function.Injective (keccak256 : Bytes → H)) (h : Grounded s)
    (hw : Reachable w) (haccepted : Accepted P s q tx row) (hexec : exec w tx = .ok w') :
    InSync row.jobId ⟨s.jobs.save row,w'⟩ := by
  unfold InSync
  simp only [Table.find_save,if_true]
  obtain ⟨-,⟨-,heffect⟩ | ⟨old,-,heffect⟩⟩ :=
    haccepted.effect hinj h.trimmed hw.deployed hexec
  · rw [heffect.status,heffect.created]
    rfl
  · rw [heffect.jobId]
    exact heffect.status

/-- A row that is not written stays behind. -/
private theorem unwritten_stuck (hinj : Function.Injective (keccak256 : Bytes → H)) (h : Grounded s)
    (hw : Reachable w) (haccepted : Accepted P s q tx row) (hexec : exec w tx = .ok w') :
    Stuck row.jobId ⟨s.jobs,w'⟩ := by
  unfold Stuck
  obtain ⟨-,⟨hfind,heffect⟩ | ⟨old,hfind,heffect⟩⟩ :=
    haccepted.effect hinj h.trimmed hw.deployed hexec
  · simp only [hfind]
    exact heffect.status
  · simp only [hfind]
    exact ⟨row.status,heffect.allowed,heffect.jobId ▸ heffect.status⟩

end Executed

variable {e : JobEvent}

theorem Grounded.step (hinj : Function.Injective (keccak256 : Bytes → H)) (h : Grounded s)
    (he : e.Foreign) : Grounded (s.step P e) := by
  cases e with
  | request q => exact h.serve hinj he
  | external tx => exact ⟨h.reachable.attempt tx,h.trimmed⟩

/-- No event moves a stuck job. -/
theorem Stuck.step (hinj : Function.Injective (keccak256 : Bytes → H)) (h : Grounded s)
    (he : e.Foreign) (hstuck : Stuck id s) : Stuck id (s.step P e) := by
  cases e with
  | external tx => exact (foreign_chain (attempt_keepsJobs h.reachable he)).2 hstuck
  | request q =>
    have hkeeps := JobRequest.Foreign.keepsJobs he h
    have hhere := hkeeps.reachable h.reachable
    have hstuck' := (foreign_chain hkeeps).2 hstuck
    have hother : ∀ {tx row w'},Accepted P s q tx row → exec (q.chainAt s) tx = .ok w' →
        row.jobId ≠ id := by
      rintro tx row w' haccepted hexec rfl
      exact stuck_refuses hinj h hhere haccepted hexec hstuck'
    change Stuck id (serve P s q).1
    have hreturn := serve_outcome P s q
    generalize (serve P s q).1 = s',(serve P s q).2 = r at hreturn
    cases hreturn with
    | failed e chain hchain =>
      rcases hchain with rfl | rfl
      · exact hstuck
      · exact hstuck'
    | lost e tx row chain hfate hsigned haccepted hexec =>
      have hjob := executed_other hinj h hhere haccepted hexec (hother haccepted hexec)
      exact (same_job (s := ⟨s.jobs,q.chainAt s⟩) (t := ⟨s.jobs,chain⟩) rfl hjob).2 hstuck'
    | done tx row chain haccepted hexec =>
      have hid := hother haccepted hexec
      have hjob := executed_other hinj h hhere haccepted hexec hid
      exact (same_job (s := ⟨s.jobs,q.chainAt s⟩) (by simp [hid]) hjob).2 hstuck'

/-- Without a lost effect, the two statuses stay together. -/
theorem InSync.step (hinj : Function.Injective (keccak256 : Bytes → H)) (h : Grounded s)
    (he : e.Foreign) (hsync : InSync id s) (hkept : ¬e.LosesEffect P id s) :
    InSync id (s.step P e) := by
  cases e with
  | external tx => exact (foreign_chain (attempt_keepsJobs h.reachable he)).1 hsync
  | request q =>
    have hkeeps := JobRequest.Foreign.keepsJobs he h
    have hhere := hkeeps.reachable h.reachable
    have hsync' := (foreign_chain hkeeps).1 hsync
    change InSync id (serve P s q).1
    have hreturn := serve_outcome P s q
    generalize (serve P s q).1 = s',(serve P s q).2 = r at hreturn
    cases hreturn with
    | failed e chain hchain =>
      rcases hchain with rfl | rfl
      · exact hsync
      · exact hsync'
    | lost e tx row chain hfate hsigned haccepted hexec =>
      have hid : row.jobId ≠ id := by
        intro hid
        exact hkept ⟨hfate,hsigned,tx,row,chain,haccepted,hid,hexec⟩
      have hjob := executed_other hinj h hhere haccepted hexec hid
      exact (same_job (s := ⟨s.jobs,q.chainAt s⟩) (t := ⟨s.jobs,chain⟩) rfl hjob).1 hsync'
    | done tx row chain haccepted hexec =>
      by_cases hid : row.jobId = id
      · exact hid ▸ written_inSync hinj h hhere haccepted hexec
      · have hjob := executed_other hinj h hhere haccepted hexec hid
        exact (same_job (s := ⟨s.jobs,q.chainAt s⟩) (by simp [hid]) hjob).1 hsync'

/-- A lost effect leaves the job stuck. -/
theorem JobEvent.LosesEffect.stuck (hinj : Function.Injective (keccak256 : Bytes → H))
    (h : Grounded s) (he : e.Foreign) (hloses : e.LosesEffect P id s) : Stuck id (s.step P e) := by
  cases e with
  | external tx => exact hloses.elim
  | request q =>
    obtain ⟨hfate,hsigned,tx,row,chain,haccepted,rfl,hexec⟩ := hloses
    have hhere := (JobRequest.Foreign.keepsJobs he h).reachable h.reachable
    change Stuck row.jobId (serve P s q).1
    rw [serve_lost hfate hsigned haccepted hexec]
    exact unwritten_stuck hinj h hhere haccepted hexec

end Steps

section Runs
variable {P : Platform} {id : String} {s : JobSystem H}

theorem Grounded.run (hinj : Function.Injective (keccak256 : Bytes → H)) (h : Grounded s)
    {events : List JobEvent} (hforeign : ∀ e ∈ events,e.Foreign) : Grounded (s.run P events) :=
  List.foldlRecOn events (JobSystem.step P) h (fun _ hs e he => hs.step hinj (hforeign e he))

theorem Stuck.run (hinj : Function.Injective (keccak256 : Bytes → H)) (h : Grounded s)
    (hstuck : Stuck id s) {events : List JobEvent} (hforeign : ∀ e ∈ events,e.Foreign) :
    Stuck id (s.run P events) := by
  have hboth : Grounded (s.run P events) ∧ Stuck id (s.run P events) := by
    refine List.foldlRecOn (motive := fun s => Grounded s ∧ Stuck id s) events (JobSystem.step P)
      ⟨h,hstuck⟩ ?_
    rintro s ⟨h,hstuck⟩ e he
    exact ⟨h.step hinj (hforeign e he),hstuck.step hinj h (hforeign e he)⟩
  exact hboth.2

theorem Stuck.not_recoverable (hinj : Function.Injective (keccak256 : Bytes → H)) (h : Grounded s)
    (hstuck : Stuck id s) : ¬Recoverable P id s := by
  rintro ⟨qs,hqs,hsync⟩
  have hforeign : ∀ e ∈ qs.map JobEvent.request,e.Foreign := by
    intro e he
    obtain ⟨q,hq,rfl⟩ := List.mem_map.mp he
    exact (hqs q hq).1
  exact (hstuck.run hinj h hforeign).not_inSync hsync

/-- A run that loses an effect on the job ends with the job stuck. -/
private theorem stuck_of_lost (hinj : Function.Injective (keccak256 : Bytes → H)) (h : Grounded s)
    {events : List JobEvent} (hforeign : ∀ e ∈ events,e.Foreign)
    (hlost : ¬Throughout (JobSystem.step P) (fun s e => ¬e.LosesEffect P id s) s events) :
    Grounded (s.run P events) ∧ Stuck id (s.run P events) := by
  induction events generalizing s with
  | nil => exact absurd trivial hlost
  | cons e events ih =>
    have he := hforeign e List.mem_cons_self
    have hrest : ∀ e' ∈ events,e'.Foreign := fun e' he' => hforeign e' (List.mem_cons_of_mem e he')
    have hnext : Grounded (s.step P e) := h.step hinj he
    by_cases hloses : e.LosesEffect P id s
    · exact ⟨hnext.run hinj hrest,(hloses.stuck hinj h he).run hinj hnext hrest⟩
    · exact ih hnext hrest (fun hkept => hlost ⟨hloses,hkept⟩)

/-- A job can be brought back exactly when no effect on it was ever lost. -/
theorem recoverable_iff_no_lost_effect (hinj : Function.Injective (keccak256 : Bytes → H))
    (P : Platform) {w₀ : World H} (hw₀ : Reachable w₀)
    (hempty : ∀ jobId,(JobManager.job w₀ jobId).status = .NONE) (events : List JobEvent)
    (hforeign : ∀ e ∈ events,e.Foreign) (id : String) :
    Recoverable P id (JobSystem.run P ⟨.empty,w₀⟩ events) ↔
      Throughout (JobSystem.step P) (fun s e => ¬e.LosesEffect P id s) ⟨.empty,w₀⟩ events := by
  have hstart : Grounded (⟨.empty,w₀⟩ : JobSystem H) := ⟨hw₀,fun row hrow => by cases hrow⟩
  constructor
  · intro hrecoverable
    by_contra hlost
    obtain ⟨hgrounded,hstuck⟩ := stuck_of_lost hinj hstart hforeign hlost
    exact hstuck.not_recoverable hinj hgrounded hrecoverable
  · intro hkept
    have hend := (hkept.and hforeign).invariant (I := fun s => Grounded s ∧ InSync id s)
      (fun s e hs he => ⟨hs.1.step hinj he.2,hs.2.step hinj hs.1 he.2 he.1⟩)
      ⟨hstart,hempty (utf8 id)⟩
    exact ⟨[],by simp,hend.2⟩

end Runs

section Prototype

/-- The assigned job is started, and the receipt does not come in time. -/
def timedOutStart (fate : Fate) : List JobEvent :=
  [.request (requestOf ENG 12 .mined (.create radarInput)),
   .request (requestOf ENG 13 .mined (.change "JOB-1" (.assign "DID:BEL:TECH-1"))),
   .request (requestOf TECH1 14 fate (.change "JOB-1" .start))]

def timeout : BlockchainError := ⟨.TIMEOUT,"No receipt for JOB_START"⟩

theorem requestOf_foreign (actor : JobActor) (number : ℕ) (fate : Fate) (action : JobAction) :
    (JobEvent.request (requestOf actor number fate action)).Foreign :=
  fun _ h => absurd h List.not_mem_nil

theorem timedOutStart_foreign (fate : Fate) : ∀ e ∈ timedOutStart fate,e.Foreign := by
  intro e he
  simp only [timedOutStart,List.mem_cons,List.not_mem_nil,or_false] at he
  rcases he with rfl | rfl | rfl
  · exact requestOf_foreign _ _ _ _
  · exact requestOf_foreign _ _ _ _
  · exact requestOf_foreign _ _ _ _

def workshopRun (events : List JobEvent) : JobSystem (Option Bytes) :=
  JobSystem.run prototypePlatform ⟨.empty,workshop⟩ events

private theorem lostStart_grounded : Grounded (workshopRun (timedOutStart (.lost timeout))) := by
  have hstart : Grounded (⟨.empty,workshop⟩ : JobSystem (Option Bytes)) :=
    ⟨workshop_reachable,fun row hrow => absurd hrow List.not_mem_nil⟩
  exact hstart.run prototype_keccak_injective (timedOutStart_foreign (.lost timeout))

private theorem lostStart_stuck : Stuck "JOB-1" (workshopRun (timedOutStart (.lost timeout))) := by
  decide +kernel

/-- The stored job waits for its start, the chain for its completion. -/
theorem lost_start_not_recoverable :
    Reachable workshop ∧ (∀ jobId,(JobManager.job workshop jobId).status = .NONE) ∧
    ¬∀ events id,(∀ e ∈ events,e.Foreign) →
      Recoverable prototypePlatform id (workshopRun events) := by
  refine ⟨workshop_reachable,workshop_no_jobs,?_⟩
  intro hclaim
  exact lostStart_stuck.not_recoverable prototype_keccak_injective lostStart_grounded
    (hclaim (timedOutStart (.lost timeout)) "JOB-1" (timedOutStart_foreign _))

/-- A start that was not executed can be repeated. -/
theorem recoverable_dropped_start :
    Recoverable prototypePlatform "JOB-1" (workshopRun (timedOutStart (.dropped (.error timeout)))) :=
  (recoverable_iff_no_lost_effect prototype_keccak_injective prototypePlatform workshop_reachable
    workshop_no_jobs _ (timedOutStart_foreign _) "JOB-1").mpr
    ⟨fun h => h.1,fun h => h.1,fun h => h.1,trivial⟩

end Prototype
end BelLedger
