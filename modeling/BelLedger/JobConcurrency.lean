import BelLedger.JobRefinement
import Mathlib.Data.Fintype.Basic

/-!
# Concurrent requests on one job

A request stops at every await: after it has read the row, after the lookups of its plan, and after
its transaction. Requests interleave there in any order, and with other transactions. Each holds its
own copy of the row it read.
-/
namespace BelLedger
open CheckedCalls TransitionRuns KeyedTables JobsService

/-- A request on the job, with what it will find around it. -/
structure JobTask where
  change : JobChange
  actor : JobActor
  ctx : JobsContext
  delivery : Delivery

def JobTask.mutation (t : JobTask) : Mutation := t.change.mutation t.ctx t.actor

/-- How far a request has come. -/
inductive Phase
  | waiting
  /-- It has read and checked the row. -/
  | loaded (job : Job)
  /-- Its transaction is on the way. -/
  | planned (job : Job) (tx : Tx)
  /-- Its transaction was the `position`-th to be executed; the row is yet to be written. -/
  | confirmed (position : ℕ) (row : Job)
  | finished

def Phase.InFlight : Phase → Prop
  | .loaded _ | .planned _ _ | .confirmed _ _ => True
  | .waiting | .finished => False

instance : DecidablePred Phase.InFlight
  | .loaded _ | .planned _ _ | .confirmed _ _ => isTrue trivial
  | .waiting | .finished => isFalse id

/-- The store, the chain and the requests under way. -/
structure Flight (ι H : Type) where
  jobs : JobTable
  chain : World H
  executed : ℕ
  phase : ι → Phase

/-- One step of a request, or a transaction of somebody else. -/
inductive Move (ι : Type)
  | read (i : ι)
  | plan (i : ι)
  | submit (i : ι)
  | write (i : ι)
  | external (tx : Tx)

section Steps
variable {ι H : Type} [DecidableEq ι] [Keccak H] [DecidableEq H]

def JobTask.read (t : JobTask) (id : String) (jobs : JobTable) : Phase :=
  match jobs.find id with
  | none => .finished
  | some job =>
    match t.mutation.check job with
    | .error _ => .finished
    | .ok () => .loaded job

def JobTask.envelope (t : JobTask) (job : Job) : Envelope :=
  ⟨t.mutation.type,t.actor.walletAddress,t.mutation.payload job⟩

def JobTask.plan (P : Platform) (t : JobTask) (w : World H) (job : Job) : Phase :=
  if unsigned t.ctx t.actor then .finished
  else
    match EvmAdapter.prepare P w (t.envelope job) t.delivery with
    | .error _ => .finished
    | .ok tx => .planned job tx

def Flight.setPhase (s : Flight ι H) (i : ι) (p : Phase) : Flight ι H :=
  { s with phase := Function.update s.phase i p }

def Flight.submit (s : Flight ι H) (i : ι) (t : JobTask) (job : Job) (tx : Tx) : Flight ι H :=
  match t.delivery.fate with
  | .dropped _ => s.setPhase i .finished
  | .mined =>
    match exec s.chain tx with
    | .ok chain =>
      { jobs := s.jobs
        chain
        executed := s.executed + 1
        phase := Function.update s.phase i (.confirmed s.executed (t.mutation.change job)) }
    | .error _ => s.setPhase i .finished
  | .lost _ => { s.setPhase i .finished with chain := attempt exec s.chain tx }

/-- A move that does not fit the request's phase changes nothing. -/
def Flight.step (P : Platform) (id : String) (tasks : ι → JobTask) (s : Flight ι H) :
    Move ι → Flight ι H
  | .read i =>
    match s.phase i with
    | .waiting => s.setPhase i ((tasks i).read id s.jobs)
    | _ => s
  | .plan i =>
    match s.phase i with
    | .loaded job => s.setPhase i ((tasks i).plan P s.chain job)
    | _ => s
  | .submit i =>
    match s.phase i with
    | .planned job tx => s.submit i (tasks i) job tx
    | _ => s
  | .write i =>
    match s.phase i with
    | .confirmed _ row => { s.setPhase i .finished with jobs := s.jobs.save row }
    | _ => s
  | .external tx => { s with chain := attempt exec s.chain tx }

def Flight.run (P : Platform) (id : String) (tasks : ι → JobTask) (s : Flight ι H)
    (moves : List (Move ι)) : Flight ι H := moves.foldl (Flight.step P id tasks) s

section Alone
variable {P : Platform} {id : String} {tasks : ι → JobTask} {s : Flight ι H} {i : ι}

private theorem run_read (h : s.phase i = .waiting) (moves : List (Move ι)) :
    s.run P id tasks (.read i::moves) =
      (s.setPhase i ((tasks i).read id s.jobs)).run P id tasks moves := by
  simp [Flight.run,Flight.step,h]

private theorem run_plan {job : Job} (moves : List (Move ι)) :
    (s.setPhase i (.loaded job)).run P id tasks (.plan i::moves) =
      (s.setPhase i ((tasks i).plan P s.chain job)).run P id tasks moves := by
  simp [Flight.run,Flight.step,Flight.setPhase]

private theorem run_submit {job : Job} {tx : Tx} (moves : List (Move ι)) :
    (s.setPhase i (.planned job tx)).run P id tasks (.submit i::moves) =
      (s.submit i (tasks i) job tx).run P id tasks moves := by
  simp only [Flight.run,List.foldl_cons,Flight.step,Flight.setPhase,Function.update_self,
    Flight.submit,Function.update_idem]

private theorem run_finished (h : s.phase i = .finished) {moves : List (Move ι)}
    (hmoves : ∀ m ∈ moves,m = .plan i ∨ m = .submit i ∨ m = .write i) :
    s.run P id tasks moves = s := by
  induction moves with
  | nil => rfl
  | cons m moves ih =>
    have hstep : s.step P id tasks m = s := by
      rcases hmoves m List.mem_cons_self with rfl | rfl | rfl
      · simp [Flight.step,h]
      · simp [Flight.step,h]
      · simp [Flight.step,h]
    have hrest := ih (fun m' hm' => hmoves m' (List.mem_cons_of_mem m hm'))
    simpa [Flight.run,hstep] using hrest

private theorem run_stopped (t : Flight ι H) {moves : List (Move ι)}
    (hmoves : ∀ m ∈ moves,m = .plan i ∨ m = .submit i ∨ m = .write i) :
    (t.setPhase i .finished).run P id tasks moves = t.setPhase i .finished :=
  run_finished (by simp [Flight.setPhase]) hmoves

private theorem run_submitted (jobId : String) (job : Job) {tx : Tx} {e : Envelope}
    (halone : (tasks i).delivery.interference = [])
    (hprepare : EvmAdapter.prepare P s.chain e (tasks i).delivery = .ok tx) :
    let s' := (s.submit i (tasks i) job tx).run P jobId tasks [.write i]
    (s'.jobs,s'.chain) =
      match EvmAdapter.submitTransaction P s.chain e (tasks i).delivery with
      | (chain,.ok .SUCCESS) => (s.jobs.save ((tasks i).mutation.change job),chain)
      | (chain,_) => (s.jobs,chain) := by
  simp only [EvmAdapter.submitTransaction,hprepare,halone,attemptAll,List.foldl_nil,Flight.submit]
  cases hfate : (tasks i).delivery.fate with
  | dropped report =>
    cases report with
    | error e => simp [Flight.run,Flight.step,Flight.setPhase]
    | ok revert => simp [Flight.run,Flight.step,Flight.setPhase]
  | mined =>
    cases hexec : exec s.chain tx with
    | ok chain => simp [Flight.run,Flight.step,Flight.setPhase]
    | error e => simp [Flight.run,Flight.step,Flight.setPhase]
  | lost e => simp [Flight.run,Flight.step,Flight.setPhase]

/-- A request whose moves nobody interrupts does what `mutate` does. -/
theorem Flight.run_alone (hwaiting : s.phase i = .waiting)
    (halone : (tasks i).delivery.interference = []) :
    let s' := s.run P id tasks [.read i,.plan i,.submit i,.write i]
    (⟨s'.jobs,s'.chain⟩ : JobSystem H) =
      (mutate P (tasks i).ctx ⟨s.jobs,s.chain⟩ id (tasks i).actor (tasks i).mutation
        (tasks i).delivery).1 := by
  rw [run_read hwaiting]
  unfold JobTask.read mutate
  cases hfind : s.jobs.find id with
  | none =>
    dsimp only
    rw [run_stopped s (by simp)]
    rfl
  | some job =>
    dsimp only
    cases hcheck : (tasks i).mutation.check job with
    | error e =>
      dsimp only
      rw [run_stopped s (by simp)]
      rfl
    | ok u =>
      dsimp only
      rw [run_plan]
      unfold JobTask.plan JobsService.submit
      cases hsigned : unsigned (tasks i).ctx (tasks i).actor with
      | true =>
        simp only [if_true]
        rw [run_stopped s (by simp)]
        rfl
      | false =>
        simp only [Bool.false_eq_true,if_false]
        cases hprepare : EvmAdapter.prepare P s.chain ((tasks i).envelope job) (tasks i).delivery with
        | error e =>
          dsimp only
          rw [run_stopped s (by simp)]
          have hprepare' : EvmAdapter.prepare P s.chain ⟨(tasks i).mutation.type,
              (tasks i).actor.walletAddress,(tasks i).mutation.payload job⟩ (tasks i).delivery =
                .error e := hprepare
          simp [EvmAdapter.submitTransaction,hprepare',Flight.setPhase]
        | ok tx =>
          dsimp only
          rw [run_submit]
          have hsubmitted := run_submitted id job halone hprepare
          unfold JobTask.envelope at hsubmitted
          cases hresult : EvmAdapter.submitTransaction P s.chain ⟨(tasks i).mutation.type,
              (tasks i).actor.walletAddress,(tasks i).mutation.payload job⟩ (tasks i).delivery with
          | mk chain r =>
            simp only [hresult] at hsubmitted
            rcases r with e | status
            · simpa using hsubmitted
            · cases status with
              | SUCCESS => simpa using hsubmitted
              | REJECTED revert => simpa using hsubmitted

end Alone

end Steps

section Agreement
variable {H : Type}

/-- The stored `assignedTo` is the DID of the technician on chain, or both are absent. -/
def Names (w : World H) (technician : Address) (assignedTo : String) : Prop :=
  if technician = 0 then assignedTo = ""
  else IdentityRegistry.identityOf w.identity technician = utf8 assignedTo

instance (w : World H) (technician : Address) (assignedTo : String) :
    Decidable (Names w technician assignedTo) :=
  inferInstanceAs (Decidable (if technician = 0 then assignedTo = ""
    else IdentityRegistry.identityOf w.identity technician = utf8 assignedTo))

private theorem Names.kept {w w' : World H} {technician : Address} {assignedTo : String}
    (hkept : KeepsWallets w w')
    (htechnician : technician = 0 ∨ (w.identity.wallets technician).status ≠ .NONE)
    (h : Names w technician assignedTo) : Names w' technician assignedTo := by
  unfold Names at h ⊢
  by_cases hzero : technician = 0
  · simpa [hzero] using h
  · simp only [hzero,if_false] at h ⊢
    rw [(hkept technician (htechnician.resolve_left hzero)).2]
    exact h

variable [Keccak H]

structure RowMatches (w : World H) (id : String) (row : Job) : Prop where
  status : (JobManager.job w (utf8 id)).status = row.status.onChain
  technician : Names w (JobManager.job w (utf8 id)).technician row.assignedTo

instance (w : World H) (id : String) (row : Job) : Decidable (RowMatches w id row) :=
  decidable_of_iff ((JobManager.job w (utf8 id)).status = row.status.onChain ∧
      Names w (JobManager.job w (utf8 id)).technician row.assignedTo)
    ⟨fun h => ⟨h.1,h.2⟩,fun h => ⟨h.status,h.technician⟩⟩

/-- The stored row of the job equals the job on chain. -/
def JobSettled (id : String) (jobs : JobTable) (w : World H) : Prop :=
  ∃ row,jobs.find id = some row ∧ RowMatches w id row

instance (id : String) (jobs : JobTable) (w : World H) : Decidable (JobSettled id jobs w) :=
  match hfind : jobs.find id with
  | none => isFalse (by simp [JobSettled,hfind])
  | some row => decidable_of_iff (RowMatches w id row) (by simp [JobSettled,hfind])

variable [DecidableEq H] {w w' : World H} {id : String} {row : Job}

private theorem names_registered {technician : Address} {assignedTo : String} (hw : Reachable w)
    (hregistered : (w.identity.wallets technician).status ≠ .NONE)
    (h : IdentityRegistry.identityOf w.identity technician = utf8 assignedTo) :
    Names w technician assignedTo := by
  have hzero : technician ≠ 0 := by
    rintro rfl
    exact hregistered hw.identity.zero_unregistered
  unfold Names
  rw [if_neg hzero]
  exact h

/-- A transaction for another job or another contract keeps the agreement. -/
private theorem RowMatches.attempt (hinj : Function.Injective (keccak256 : Bytes → H))
    (hw : Reachable w) {tx : Tx} (htx : tx.call.jobId ≠ some (utf8 id)) (h : RowMatches w id row) :
    RowMatches (attempt exec w tx) id row := by
  have hkept := attempt_keepsWallets hw tx
  have hjob : JobManager.job (TransitionRuns.attempt exec w tx) (utf8 id) =
      JobManager.job w (utf8 id) := by
    unfold TransitionRuns.attempt
    cases hs : exec w tx with
    | ok w' => exact exec_job_other hinj hw.deployed hs htx
    | error e => rfl
  refine ⟨by rw [hjob]; exact h.status,?_⟩
  rw [hjob]
  exact h.technician.kept hkept (hw.technicians (utf8 id))

end Agreement

section Conditions
variable {ι H : Type} [Keccak H] [DecidableEq H]

/-- The request is an assignment to an identity id as the registry spells it, or the row it read
still names the technician on chain. -/
def Current (P : Platform) (w : World H) (id : String) (job : Job) : JobChange → Prop
  | .assign ref => Trimmed ref ∧ P.parseAddress ref = none
  | _ => Names w (JobManager.job w (utf8 id)).technician job.assignedTo

instance (P : Platform) (w : World H) (id : String) (job : Job) : DecidablePred (Current P w id job)
  | .assign ref => inferInstanceAs (Decidable (Trimmed ref ∧ P.parseAddress ref = none))
  | .start | .complete _ | .approve | .reject _ =>
    inferInstanceAs (Decidable (Names w (JobManager.job w (utf8 id)).technician job.assignedTo))

/-- A transaction that JobManager accepts belongs to a current request. -/
def SubmitsCurrent (P : Platform) (w : World H) (id : String) (t : JobTask) : Phase → Prop
  | .planned job tx => (exec w tx).toOption.isSome = true → Current P w id job t.change
  | _ => True

instance (P : Platform) (w : World H) (id : String) (t : JobTask) :
    DecidablePred (SubmitsCurrent P w id t)
  | .planned job tx =>
    inferInstanceAs (Decidable ((exec w tx).toOption.isSome = true → Current P w id job t.change))
  | .waiting | .loaded _ | .confirmed _ _ | .finished => isTrue trivial

def Phase.position : Phase → Option ℕ
  | .confirmed n _ => some n
  | _ => none

/-- Nobody whose transaction was executed earlier is still to write. -/
def WritesInOrder (phase : ι → Phase) : Phase → Prop
  | .confirmed n _ => ∀ j,∀ m ∈ (phase j).position,n ≤ m
  | _ => True

instance [Fintype ι] (phase : ι → Phase) : DecidablePred (WritesInOrder phase)
  | .confirmed n _ => inferInstanceAs (Decidable (∀ j,∀ m ∈ (phase j).position,n ≤ m))
  | .waiting | .loaded _ | .planned _ _ | .finished => isTrue trivial

/-- Accepted transactions belong to current requests, and rows are written in the order in which
their transactions were executed. -/
def Orderly (P : Platform) (id : String) (tasks : ι → JobTask) (s : Flight ι H) : Move ι → Prop
  | .submit i => SubmitsCurrent P s.chain id (tasks i) (s.phase i)
  | .write i => WritesInOrder s.phase (s.phase i)
  | _ => True

instance [Fintype ι] (P : Platform) (id : String) (tasks : ι → JobTask) (s : Flight ι H) :
    DecidablePred (Orderly P id tasks s)
  | .submit i => inferInstanceAs (Decidable (SubmitsCurrent P s.chain id (tasks i) (s.phase i)))
  | .write i => inferInstanceAs (Decidable (WritesInOrder s.phase (s.phase i)))
  | .read _ | .plan _ | .external _ => isTrue trivial

/-- Others do not touch the job. -/
def Move.Foreign (id : String) : Move ι → Prop
  | .external tx => tx.call.jobId ≠ some (utf8 id)
  | _ => True

def Flight.Quiet (s : Flight ι H) : Prop := ∀ i,¬(s.phase i).InFlight

instance [Fintype ι] (s : Flight ι H) : Decidable s.Quiet :=
  inferInstanceAs (Decidable (∀ i,¬(s.phase i).InFlight))

end Conditions

section Invariant
variable {ι H : Type} [DecidableEq ι] [Keccak H] [DecidableEq H]

/-- The row belongs to the job and has passed the checks of the request. -/
def JobTask.Checked (t : JobTask) (id : String) (job : Job) : Prop :=
  job.jobId = id ∧ t.mutation.check job = .ok ()

/-- The row written last of all, by the requests under way, will match the chain. -/
def LastRowMatches (id : String) (s : Flight ι H) : Prop :=
  (∃ i n row,s.phase i = .confirmed n row ∧ (∀ j m r,s.phase j = .confirmed m r → m ≤ n) ∧
    RowMatches s.chain id row) ∨
  ((∀ i n row,s.phase i ≠ .confirmed n row) ∧ JobSettled id s.jobs s.chain)

structure Coherent (P : Platform) (id : String) (tasks : ι → JobTask) (s : Flight ι H) : Prop where
  reachable : Reachable s.chain
  loaded : ∀ i job,s.phase i = .loaded job → (tasks i).Checked id job
  planned : ∀ i job tx,s.phase i = .planned job tx → (tasks i).Checked id job ∧
    ∃ w₀,Reachable w₀ ∧ KeepsWallets w₀ s.chain ∧
      EvmAdapter.prepare P w₀ ((tasks i).envelope job) (tasks i).delivery = .ok tx
  confirmed : ∀ i n row,s.phase i = .confirmed n row → row.jobId = id ∧ n < s.executed
  distinct : ∀ i j n row row',s.phase i = .confirmed n row → s.phase j = .confirmed n row' → i = j
  last : LastRowMatches id s

variable {P : Platform} {id : String} {tasks : ι → JobTask} {s : Flight ι H} {i : ι}

/-- A request that moves on without an effect. -/
theorem Coherent.setPhase (h : Coherent P id tasks s) {p : Phase}
    (hbefore : ∀ n row,s.phase i ≠ .confirmed n row) (hafter : ∀ n row,p ≠ .confirmed n row)
    (hloaded : ∀ job,p = .loaded job → (tasks i).Checked id job)
    (hplanned : ∀ job tx,p = .planned job tx → (tasks i).Checked id job ∧
      EvmAdapter.prepare P s.chain ((tasks i).envelope job) (tasks i).delivery = .ok tx) :
    Coherent P id tasks (s.setPhase i p) := by
  have hconfirmed : ∀ j n row,(s.setPhase i p).phase j = .confirmed n row ↔
      s.phase j = .confirmed n row := by
    intro j n row
    by_cases hj : j = i
    · subst hj
      simp [Flight.setPhase,hbefore n row,hafter n row]
    · simp [Flight.setPhase,hj]
  refine ⟨h.reachable,?_,?_,?_,?_,?_⟩
  · intro j job hj
    by_cases hji : j = i
    · subst hji
      exact hloaded job (by simpa [Flight.setPhase] using hj)
    · exact h.loaded j job (by simpa [Flight.setPhase,hji] using hj)
  · intro j job tx hj
    by_cases hji : j = i
    · subst hji
      obtain ⟨hchecked,hprepare⟩ := hplanned job tx (by simpa [Flight.setPhase] using hj)
      exact ⟨hchecked,s.chain,h.reachable,.refl s.chain,hprepare⟩
    · exact h.planned j job tx (by simpa [Flight.setPhase,hji] using hj)
  · intro j n row hj
    exact h.confirmed j n row ((hconfirmed j n row).mp hj)
  · intro j k n row row' hj hk
    exact h.distinct j k n row row' ((hconfirmed j n row).mp hj) ((hconfirmed k n row').mp hk)
  · rcases h.last with ⟨j,n,row,hj,hlast,hmatches⟩ | ⟨hnone,hsettled⟩
    · exact .inl ⟨j,n,row,(hconfirmed j n row).mpr hj,
        fun k m r hk => hlast k m r ((hconfirmed k m r).mp hk),hmatches⟩
    · exact .inr ⟨fun j n row hj => hnone j n row ((hconfirmed j n row).mp hj),hsettled⟩

theorem Coherent.finish (h : Coherent P id tasks s) (hbefore : ∀ n row,s.phase i ≠ .confirmed n row) :
    Coherent P id tasks (s.setPhase i .finished) :=
  h.setPhase hbefore (by simp) (by simp) (by simp)

theorem Coherent.read (h : Coherent P id tasks s) (hphase : s.phase i = .waiting) :
    Coherent P id tasks (s.setPhase i ((tasks i).read id s.jobs)) := by
  have hbefore : ∀ n row,s.phase i ≠ .confirmed n row := by simp [hphase]
  unfold JobTask.read
  cases hfind : s.jobs.find id with
  | none => exact h.finish hbefore
  | some job =>
    dsimp only
    cases hcheck : (tasks i).mutation.check job with
    | error e => exact h.finish hbefore
    | ok u =>
      refine h.setPhase hbefore (by simp) ?_ (by simp)
      intro job' hjob
      obtain rfl := Phase.loaded.inj hjob
      exact ⟨Table.key_of_find hfind,hcheck⟩

theorem Coherent.plan (h : Coherent P id tasks s) {job : Job} (hphase : s.phase i = .loaded job) :
    Coherent P id tasks (s.setPhase i ((tasks i).plan P s.chain job)) := by
  have hbefore : ∀ n row,s.phase i ≠ .confirmed n row := by simp [hphase]
  unfold JobTask.plan
  split
  · exact h.finish hbefore
  · cases hprepare : EvmAdapter.prepare P s.chain ((tasks i).envelope job) (tasks i).delivery with
    | error e => exact h.finish hbefore
    | ok tx =>
      refine h.setPhase hbefore (by simp) (by simp) ?_
      intro job' tx' hplan
      obtain ⟨rfl,rfl⟩ := Phase.planned.inj hplan
      exact ⟨h.loaded i job hphase,hprepare⟩

omit [DecidableEq ι] in
theorem Coherent.external (hinj : Function.Injective (keccak256 : Bytes → H))
    (h : Coherent P id tasks s) {tx : Tx} (htx : tx.call.jobId ≠ some (utf8 id)) :
    Coherent P id tasks { s with chain := attempt exec s.chain tx } := by
  have hkept := attempt_keepsWallets h.reachable tx
  refine ⟨h.reachable.attempt tx,h.loaded,?_,h.confirmed,h.distinct,?_⟩
  · intro i job t hi
    obtain ⟨hchecked,w₀,hw₀,hsince,hprepare⟩ := h.planned i job t hi
    exact ⟨hchecked,w₀,hw₀,hsince.trans hkept,hprepare⟩
  · rcases h.last with ⟨i,n,row,hi,hlast,hmatches⟩ | ⟨hnone,row,hfind,hmatches⟩
    · exact .inl ⟨i,n,row,hi,hlast,hmatches.attempt hinj h.reachable htx⟩
    · exact .inr ⟨hnone,row,hfind,hmatches.attempt hinj h.reachable htx⟩

/-- The row of a current request matches the chain its transaction leads to. -/
private theorem rowMatches_executed (hinj : Function.Injective (keccak256 : Bytes → H))
    (hid : Trimmed id) {t : JobTask} {job : Job} {tx : Tx} {w₀ w w' : World H} (hw : Reachable w)
    (hchecked : t.Checked id job) (hw₀ : Reachable w₀) (hsince : KeepsWallets w₀ w)
    (hprepare : EvmAdapter.prepare P w₀ (t.envelope job) t.delivery = .ok tx)
    (hcurrent : Current P w id job t.change) (hexec : exec w tx = .ok w') :
    (t.mutation.change job).jobId = id ∧ RowMatches w' id (t.mutation.change job) := by
  obtain ⟨hjob,hcheck⟩ := hchecked
  subst hjob
  have heffect := change_effect hinj hw.deployed hid hcheck hprepare hexec
  have hkept := exec_keepsWallets hw hexec
  refine ⟨heffect.jobId,heffect.status,?_⟩
  change Names w' _ ((t.change.mutation t.ctx t.actor).change job).assignedTo
  rcases heffect.technician with ⟨hassigned,-,hresolves⟩ | ⟨hother,hassignedTo,htechnician⟩
  · have hassign : ∃ ref,t.change = .assign ref := by
      cases hc : t.change with
      | assign ref => exact ⟨ref,rfl⟩
      | _ => simp [hc,JobChange.mutation,start,complete,approve,reject] at hassigned
    obtain ⟨ref,hc⟩ := hassign
    simp only [Current,hc] at hcurrent
    simp only [hc] at hresolves ⊢
    obtain ⟨hregistered,hdid⟩ := hresolves.identityOf_eq hinj hw₀.identity hcurrent.1 hcurrent.2
    have hhere := hsince.trans hkept _ hregistered
    exact names_registered (hw.step hexec) hhere.1 (hhere.2.trans hdid)
  · have hnames : Names w (JobManager.job w (utf8 job.jobId)).technician job.assignedTo := by
      cases hc : t.change with
      | assign ref => simp [hc,JobChange.mutation,assign] at hother
      | _ => simpa [Current,hc] using hcurrent
    rw [hassignedTo,htechnician]
    exact hnames.kept hkept (hw.technicians (utf8 job.jobId))

theorem Coherent.submit (hinj : Function.Injective (keccak256 : Bytes → H)) (hid : Trimmed id)
    (h : Coherent P id tasks s) {job : Job} {tx : Tx} (hphase : s.phase i = .planned job tx)
    (hreported : ¬(tasks i).delivery.fate.Lost)
    (hcurrent : (∃ w',exec s.chain tx = .ok w') → Current P s.chain id job (tasks i).change) :
    Coherent P id tasks (s.submit i (tasks i) job tx) := by
  have hbefore : ∀ n row,s.phase i ≠ .confirmed n row := by simp [hphase]
  obtain ⟨hchecked,w₀,hw₀,hsince,hprepare⟩ := h.planned i job tx hphase
  unfold Flight.submit
  split
  · exact h.finish hbefore
  · cases hexec : exec s.chain tx with
    | error e => exact h.finish hbefore
    | ok w' =>
      have hkept := exec_keepsWallets h.reachable hexec
      obtain ⟨hjobId,hmatches⟩ := rowMatches_executed hinj hid h.reachable hchecked hw₀ hsince
        hprepare (hcurrent ⟨w',hexec⟩) hexec
      -- every other confirmed request has an earlier position
      have hearlier : ∀ j n row,j ≠ i → s.phase j = .confirmed n row → n < s.executed :=
        fun j n row _ hj => (h.confirmed j n row hj).2
      refine ⟨h.reachable.step hexec,?_,?_,?_,?_,.inl ⟨i,s.executed,_,by simp,?_,hmatches⟩⟩
      · intro j job' hj
        by_cases hji : j = i
        · simp [hji] at hj
        · exact h.loaded j job' (by simpa [hji] using hj)
      · intro j job' t hj
        by_cases hji : j = i
        · simp [hji] at hj
        · obtain ⟨hchecked,w₁,hw₁,hsince,hprepare⟩ := h.planned j job' t (by simpa [hji] using hj)
          exact ⟨hchecked,w₁,hw₁,hsince.trans hkept,hprepare⟩
      · intro j n row hj
        by_cases hji : j = i
        · simp only [hji,Function.update_self,Phase.confirmed.injEq] at hj
          obtain ⟨rfl,rfl⟩ := hj
          exact ⟨hjobId,Nat.lt_succ_self _⟩
        · have hold := h.confirmed j n row (by simpa [hji] using hj)
          exact ⟨hold.1,Nat.lt_succ_of_lt hold.2⟩
      · intro j k n row row' hj hk
        by_cases hji : j = i
        · by_cases hki : k = i
          · rw [hji,hki]
          · simp only [hji,Function.update_self,Phase.confirmed.injEq] at hj
            have hlt := hearlier k n row' hki (by simpa [hki] using hk)
            omega
        · by_cases hki : k = i
          · simp only [hki,Function.update_self,Phase.confirmed.injEq] at hk
            have hlt := hearlier j n row hji (by simpa [hji] using hj)
            omega
          · exact h.distinct j k n row row' (by simpa [hji] using hj) (by simpa [hki] using hk)
      · intro j m r hj
        by_cases hji : j = i
        · simp only [hji,Function.update_self,Phase.confirmed.injEq] at hj
          exact hj.1.symm.le
        · exact (hearlier j m r hji (by simpa [hji] using hj)).le
  · rename_i e hfate
    rw [hfate] at hreported
    exact absurd trivial hreported

theorem Coherent.write (h : Coherent P id tasks s) {n : ℕ} {row : Job}
    (hphase : s.phase i = .confirmed n row)
    (hfirst : ∀ j m r,s.phase j = .confirmed m r → n ≤ m) :
    Coherent P id tasks { s.setPhase i .finished with jobs := s.jobs.save row } := by
  have hconfirmed : ∀ j m r,(s.setPhase i .finished).phase j = .confirmed m r →
      j ≠ i ∧ s.phase j = .confirmed m r := by
    intro j m r hj
    by_cases hji : j = i
    · simp [Flight.setPhase,hji] at hj
    · exact ⟨hji,by simpa [Flight.setPhase,hji] using hj⟩
  refine ⟨h.reachable,?_,?_,?_,?_,?_⟩
  · intro j job hj
    by_cases hji : j = i
    · simp [Flight.setPhase,hji] at hj
    · exact h.loaded j job (by simpa [Flight.setPhase,hji] using hj)
  · intro j job tx hj
    by_cases hji : j = i
    · simp [Flight.setPhase,hji] at hj
    · exact h.planned j job tx (by simpa [Flight.setPhase,hji] using hj)
  · exact fun j m r hj => h.confirmed j m r (hconfirmed j m r hj).2
  · exact fun j k m r r' hj hk => h.distinct j k m r r' (hconfirmed j m r hj).2 (hconfirmed k m r' hk).2
  · rcases h.last with ⟨j,m,r,hj,hlast,hmatches⟩ | ⟨hnone,-⟩
    swap
    · exact absurd hphase (hnone i n row)
    by_cases hji : j = i
    · -- the written row was the last one: nobody is left between submission and write
      subst hji
      obtain ⟨rfl,rfl⟩ := Phase.confirmed.inj (hphase.symm.trans hj)
      refine .inr ⟨?_,row,?_,hmatches⟩
      · intro k m r hk
        obtain ⟨hkj,hk⟩ := hconfirmed k m r hk
        have heq : m = n := Nat.le_antisymm (hlast k m r hk) (hfirst k m r hk)
        exact hkj (h.distinct k j n r row (heq ▸ hk) hphase)
      · simp [(h.confirmed j n row hphase).1]
    · refine .inl ⟨j,m,r,?_,?_,hmatches⟩
      · simpa [Flight.setPhase,hji] using hj
      · exact fun k m' r' hk => hlast k m' r' (hconfirmed k m' r' hk).2

theorem Coherent.step (hinj : Function.Injective (keccak256 : Bytes → H)) (hid : Trimmed id)
    (hreported : ∀ i,¬(tasks i).delivery.fate.Lost) (h : Coherent P id tasks s) {m : Move ι}
    (hforeign : m.Foreign id) (horderly : Orderly P id tasks s m) :
    Coherent P id tasks (s.step P id tasks m) := by
  cases m with
  | read i =>
    simp only [Flight.step]
    split
    · rename_i hphase
      exact h.read hphase
    · exact h
  | plan i =>
    simp only [Flight.step]
    split
    · rename_i job hphase
      exact h.plan hphase
    · exact h
  | submit i =>
    simp only [Flight.step]
    split
    · rename_i job tx hphase
      simp only [Orderly,SubmitsCurrent,hphase] at horderly
      refine h.submit hinj hid hphase (hreported i) ?_
      rintro ⟨w',hexec⟩
      exact horderly (by simp [hexec,Except.toOption])
    · exact h
  | write i =>
    simp only [Flight.step]
    split
    · rename_i n row hphase
      simp only [Orderly,WritesInOrder,hphase] at horderly
      refine h.write hphase ?_
      intro j m r hj
      exact horderly j m (by simp [hj,Phase.position])
    · exact h
  | external tx => exact h.external hinj hforeign

/-- Once nobody is in flight after an orderly run, the stored job is the job on chain. The requests are
those of the job service: by `Flight.run_alone`, one whose moves nobody interrupts is a call of it. -/
theorem no_lost_update (hinj : Function.Injective (keccak256 : Bytes → H)) (P : Platform)
    (id : String) (hid : Trimmed id) (tasks : ι → JobTask)
    (hreported : ∀ i,¬(tasks i).delivery.fate.Lost) (jobs : JobTable) {w : World H}
    (hw : Reachable w) (hstart : JobSettled id jobs w) (moves : List (Move ι))
    (hforeign : ∀ m ∈ moves,m.Foreign id)
    (horderly : Throughout (Flight.step P id tasks) (Orderly P id tasks)
      ⟨jobs,w,0,fun _ => .waiting⟩ moves)
    (hquiet : (Flight.run P id tasks ⟨jobs,w,0,fun _ => .waiting⟩ moves).Quiet) :
    JobSettled id (Flight.run P id tasks ⟨jobs,w,0,fun _ => .waiting⟩ moves).jobs
      (Flight.run P id tasks ⟨jobs,w,0,fun _ => .waiting⟩ moves).chain := by
  have hcoherent : Coherent P id tasks ⟨jobs,w,0,fun _ => .waiting⟩ :=
    ⟨hw,by simp,by simp,by simp,by simp,.inr ⟨by simp,hstart⟩⟩
  have hend : Coherent P id tasks (Flight.run P id tasks ⟨jobs,w,0,fun _ => .waiting⟩ moves) :=
    (horderly.and hforeign).invariant
      (fun s m hs hm => hs.step hinj hid hreported hm.2 hm.1) hcoherent
  rcases hend.last with ⟨i,n,row,hi,-⟩ | ⟨-,hsettled⟩
  · exact absurd (hi ▸ trivial) (hquiet i)
  · exact hsettled

end Invariant

section Prototype

/-- A second verifier. -/
def VER : JobActor :=
  ⟨"DID:BEL:VER","0x00000000000000000000000000000000000000e2",some "0x02f8"⟩

/-- The job after its first completion by the first technician, and the second verifier is onboarded. -/
def completedEvents : List JobEvent :=
  [.request (requestOf ENG 12 .mined (.create radarInput)),
   .request (requestOf ENG 13 .mined (.change "JOB-1" (.assign "DID:BEL:TECH-1"))),
   .request (requestOf TECH1 14 .mined (.change "JOB-1" .start)),
   .request (requestOf TECH1 15 .mined (.change "JOB-1" (.complete evidence))),
   .external (txOf 0xad 16 (.createIdentity 0xe2 (utf8 "DID:BEL:VER"))),
   .external (txOf 0xad 17 (.activateWallet 0xe2)),
   .external (txOf 0xad 18 (.assignRole 0xe2 .VERIFIER))]

def completed : JobSystem (Option Bytes) :=
  JobSystem.run prototypePlatform ⟨.empty,workshop⟩ completedEvents

def taskOf (actor : JobActor) (number : ℕ) (change : JobChange) : JobTask :=
  ⟨change,actor,workshopContext,⟨[],number,number,1,.mined⟩⟩

/-- The second verifier approves, and the first one rejects the work and reassigns the job, which is
completed again. -/
def reworkTasks : Fin 5 → JobTask
  | 0 => taskOf VER 23 .approve
  | 1 => taskOf ENG 19 (.reject "torque")
  | 2 => taskOf ENG 20 (.assign "DID:BEL:TECH-2")
  | 3 => taskOf TECH2 21 .start
  | 4 => taskOf TECH2 22 (.complete evidence)

def uninterrupted (i : Fin 5) : List (Move (Fin 5)) := [.read i,.plan i,.submit i,.write i]

/-- The approval reads the row first and is submitted last. -/
def slowApproval : List (Move (Fin 5)) :=
  .read 0::uninterrupted 1++uninterrupted 2++uninterrupted 3++uninterrupted 4++
    [.plan 0,.submit 0,.write 0]

def reworkRun (moves : List (Move (Fin 5))) : Flight (Fin 5) (Option Bytes) :=
  Flight.run prototypePlatform "JOB-1" reworkTasks
    ⟨completed.jobs,completed.chain,0,fun _ => .waiting⟩ moves

theorem completed_reachable : Reachable completed.chain := by
  have hsound : ∀ e ∈ completedEvents,e.Sound prototypePlatform := by
    intro e he
    simp only [completedEvents,List.mem_cons,List.not_mem_nil,or_false] at he
    rcases he with rfl | rfl | rfl | rfl | rfl | rfl | rfl
    · exact requestOf_sound ..
    · exact requestOf_sound ..
    · exact requestOf_sound ..
    · exact requestOf_sound ..
    · exact nofun
    · exact nofun
    · exact nofun
  have hstart := inStep_start workshop_reachable workshop_no_jobs
  exact (hstart.run prototype_keccak_injective hsound).reachable

theorem reworkTasks_reported : ∀ i,¬(reworkTasks i).delivery.fate.Lost := by
  intro i
  match i with
  | 0 | 1 | 2 | 3 | 4 => exact id

theorem completed_settled : JobSettled "JOB-1" completed.jobs completed.chain := by decide +kernel

/-- The approved row names the first technician, the chain the second. -/
theorem slow_approval_loses_assignment :
    Reachable completed.chain ∧ JobSettled "JOB-1" completed.jobs completed.chain ∧
    (∀ i,¬(reworkTasks i).delivery.fate.Lost) ∧
    ¬∀ moves,(∀ m ∈ moves,Move.Foreign "JOB-1" m) → (reworkRun moves).Quiet →
      JobSettled "JOB-1" (reworkRun moves).jobs (reworkRun moves).chain := by
  refine ⟨completed_reachable,completed_settled,reworkTasks_reported,?_⟩
  intro hclaim
  have hforeign : ∀ m ∈ slowApproval,Move.Foreign "JOB-1" m := by
    simp [slowApproval,uninterrupted,Move.Foreign]
  have hstale : (reworkRun slowApproval).Quiet ∧
      ¬JobSettled "JOB-1" (reworkRun slowApproval).jobs (reworkRun slowApproval).chain := by
    decide +kernel
  exact hstale.2 (hclaim slowApproval hforeign hstale.1)

/-- The approval is submitted while the job is rejected, and refused; the rework goes on. -/
def refusedApproval : List (Move (Fin 5)) :=
  .read 0::uninterrupted 1++[.plan 0,.submit 0,.write 0]++uninterrupted 2++[.read 4]++uninterrupted 3

private theorem refusedApproval_orderly :
    Throughout (Flight.step prototypePlatform "JOB-1" reworkTasks)
        (Orderly prototypePlatform "JOB-1" reworkTasks)
        ⟨completed.jobs,completed.chain,0,fun _ => .waiting⟩ refusedApproval ∧
      (reworkRun refusedApproval).Quiet ∧
      ((reworkRun refusedApproval).jobs.find "JOB-1").map (fun row => (row.status,row.assignedTo)) =
        some (.IN_PROGRESS,"DID:BEL:TECH-2") := by
  decide +kernel

theorem no_lost_update_refused_approval :
    ((reworkRun refusedApproval).jobs.find "JOB-1").map (fun row => (row.status,row.assignedTo)) =
        some (.IN_PROGRESS,"DID:BEL:TECH-2") ∧
      JobSettled "JOB-1" (reworkRun refusedApproval).jobs (reworkRun refusedApproval).chain :=
  ⟨refusedApproval_orderly.2.2,
    no_lost_update prototype_keccak_injective prototypePlatform "JOB-1" (by decide +kernel)
      reworkTasks reworkTasks_reported completed.jobs completed_reachable completed_settled
      refusedApproval (by simp [refusedApproval,uninterrupted,Move.Foreign])
      refusedApproval_orderly.1 refusedApproval_orderly.2.1⟩

end Prototype
end BelLedger
