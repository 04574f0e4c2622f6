import BelLedger.JobsService

/-!
# What a served job request can do

A request fails without an effect of its own, or its transaction is executed: then the row is
written, or the response is lost.
-/
namespace BelLedger
open CheckedCalls TransitionRuns KeyedTables JobsService

variable {H : Type} [Keccak H] [DecidableEq H]

/-- The chain at the moment the request's own transaction is executed. -/
def JobRequest.chainAt (q : JobRequest) (s : JobSystem H) : World H :=
  attemptAll exec s.chain q.delivery.interference

/-- The request has passed its checks and planned `tx`, in order to write `row`. -/
def Accepted (P : Platform) (s : JobSystem H) (q : JobRequest) (tx : Tx) (row : Job) : Prop :=
  match q.action with
  | .create input =>
    createCheck q.ctx s.jobs input = .ok () ∧ row = newJob q.ctx s.jobs input ∧
      EvmAdapter.prepare P s.chain ⟨.JOB_CREATE,q.actor.walletAddress,
        [("jobId",.string row.jobId),("assetId",.string row.assetId)]⟩ q.delivery = .ok tx
  | .change id change =>
    ∃ old,s.jobs.find id = some old ∧ (change.mutation q.ctx q.actor).check old = .ok () ∧
      row = (change.mutation q.ctx q.actor).change old ∧
      EvmAdapter.prepare P s.chain ⟨(change.mutation q.ctx q.actor).type,q.actor.walletAddress,
        (change.mutation q.ctx q.actor).payload old⟩ q.delivery = .ok tx

inductive ServeOutcome (P : Platform) (s : JobSystem H) (q : JobRequest) :
    JobSystem H → Except ServiceError Job → Prop
  | failed (e : ServiceError) (chain : World H)
      (hchain : chain = s.chain ∨ chain = q.chainAt s) : ServeOutcome P s q ⟨s.jobs,chain⟩ (.error e)
  | lost (e : ServiceError) (tx : Tx) (row : Job) (chain : World H) (hfate : q.delivery.fate.Lost)
      (hsigned : unsigned q.ctx q.actor = false) (haccepted : Accepted P s q tx row)
      (hexec : exec (q.chainAt s) tx = .ok chain) :
      ServeOutcome P s q ⟨s.jobs,chain⟩ (.error e)
  | done (tx : Tx) (row : Job) (chain : World H) (haccepted : Accepted P s q tx row)
      (hexec : exec (q.chainAt s) tx = .ok chain) :
      ServeOutcome P s q ⟨s.jobs.save row,chain⟩ (.ok row)

section Submission
variable {P : Platform} {ctx : JobsContext} {w w' : World H} {type : TransactionType}
  {actor : JobActor} {payload : Payload} {d : Delivery}

private theorem submit_ok (h : submit P ctx w type actor payload d = (w',.ok ())) :
    ∃ tx,EvmAdapter.prepare P w ⟨type,actor.walletAddress,payload⟩ d = .ok tx ∧
      exec (attemptAll exec w d.interference) tx = .ok w' := by
  unfold submit at h
  cases hsigned : unsigned ctx actor with
  | true => simp [hsigned] at h
  | false =>
    simp only [hsigned,Bool.false_eq_true,if_false] at h
    split at h
    · rename_i w'' hsubmit
      obtain rfl : w'' = w' := (Prod.mk.inj h).1
      obtain ⟨tx,-,hexecuted⟩ := EvmAdapter.submitTransaction_success hsubmit
      exact ⟨tx,hexecuted⟩
    · simp at h
    · simp at h

private theorem submit_error {e : ServiceError}
    (h : submit P ctx w type actor payload d = (w',.error e)) :
    (w' = w ∨ w' = attemptAll exec w d.interference) ∨
      ∃ tx,d.fate.Lost ∧ unsigned ctx actor = false ∧
        EvmAdapter.prepare P w ⟨type,actor.walletAddress,payload⟩ d = .ok tx ∧
        exec (attemptAll exec w d.interference) tx = .ok w' := by
  unfold submit at h
  cases hsigned : unsigned ctx actor with
  | true =>
    simp only [hsigned,if_true] at h
    exact .inl (.inl (Prod.mk.inj h).1.symm)
  | false =>
    simp only [hsigned,Bool.false_eq_true,if_false] at h
    split at h
    · simp at h
    · rename_i w'' revert hsubmit
      obtain rfl : w'' = w' := (Prod.mk.inj h).1
      refine (EvmAdapter.submitTransaction_failure hsubmit (by simp)).imp id ?_
      rintro ⟨tx,hfate,hprepare,hexec⟩
      exact ⟨tx,hfate,rfl,hprepare,hexec⟩
    · rename_i w'' error hsubmit
      obtain rfl : w'' = w' := (Prod.mk.inj h).1
      refine (EvmAdapter.submitTransaction_failure hsubmit (by simp)).imp id ?_
      rintro ⟨tx,hfate,hprepare,hexec⟩
      exact ⟨tx,hfate,rfl,hprepare,hexec⟩

end Submission

private theorem mutate_outcome (P : Platform) (s : JobSystem H) (q : JobRequest) {id : String}
    {change : JobChange} (haction : q.action = .change id change) :
    ServeOutcome P s q (mutate P q.ctx s id q.actor (change.mutation q.ctx q.actor) q.delivery).1
      (mutate P q.ctx s id q.actor (change.mutation q.ctx q.actor) q.delivery).2 := by
  unfold mutate
  cases hfind : s.jobs.find id with
  | none => exact .failed _ s.chain (.inl rfl)
  | some old =>
    dsimp only
    cases hcheck : (change.mutation q.ctx q.actor).check old with
    | error e => exact .failed _ s.chain (.inl rfl)
    | ok u =>
      dsimp only
      have haccepted : ∀ tx,EvmAdapter.prepare P s.chain
          ⟨(change.mutation q.ctx q.actor).type,q.actor.walletAddress,
            (change.mutation q.ctx q.actor).payload old⟩ q.delivery = .ok tx →
          Accepted P s q tx ((change.mutation q.ctx q.actor).change old) := by
        intro tx hprepare
        unfold Accepted
        rw [haction]
        exact ⟨old,hfind,hcheck,rfl,hprepare⟩
      cases hsubmit : submit P q.ctx s.chain (change.mutation q.ctx q.actor).type q.actor
          ((change.mutation q.ctx q.actor).payload old) q.delivery with
      | mk chain r =>
        cases r with
        | ok v =>
          obtain ⟨tx,hprepare,hexec⟩ := submit_ok hsubmit
          exact .done tx _ chain (haccepted tx hprepare) hexec
        | error e =>
          rcases submit_error hsubmit with hchain | ⟨tx,hfate,hsigned,hprepare,hexec⟩
          · exact .failed e chain hchain
          · exact .lost e tx _ chain hfate hsigned (haccepted tx hprepare) hexec

private theorem create_outcome (P : Platform) (s : JobSystem H) (q : JobRequest)
    {input : CreateInput} (haction : q.action = .create input) :
    ServeOutcome P s q (create P q.ctx s input q.actor q.delivery).1
      (create P q.ctx s input q.actor q.delivery).2 := by
  unfold create
  cases hcheck : createCheck q.ctx s.jobs input with
  | error e => exact .failed _ s.chain (.inl rfl)
  | ok u =>
    dsimp only
    have haccepted : ∀ tx,EvmAdapter.prepare P s.chain ⟨.JOB_CREATE,q.actor.walletAddress,
        [("jobId",.string (newJob q.ctx s.jobs input).jobId),
          ("assetId",.string (newJob q.ctx s.jobs input).assetId)]⟩ q.delivery = .ok tx →
        Accepted P s q tx (newJob q.ctx s.jobs input) := by
      intro tx hprepare
      unfold Accepted
      rw [haction]
      exact ⟨hcheck,rfl,hprepare⟩
    cases hsubmit : submit P q.ctx s.chain .JOB_CREATE q.actor
        [("jobId",.string (newJob q.ctx s.jobs input).jobId),
          ("assetId",.string (newJob q.ctx s.jobs input).assetId)] q.delivery with
    | mk chain r =>
      cases r with
      | ok v =>
        obtain ⟨tx,hprepare,hexec⟩ := submit_ok hsubmit
        exact .done tx _ chain (haccepted tx hprepare) hexec
      | error e =>
        rcases submit_error hsubmit with hchain | ⟨tx,hfate,hsigned,hprepare,hexec⟩
        · exact .failed e chain hchain
        · exact .lost e tx _ chain hfate hsigned (haccepted tx hprepare) hexec

theorem serve_outcome (P : Platform) (s : JobSystem H) (q : JobRequest) :
    ServeOutcome P s q (serve P s q).1 (serve P s q).2 := by
  unfold serve
  cases haction : q.action with
  | create input => exact create_outcome P s q haction
  | change id change => exact mutate_outcome P s q haction

/-- A request that succeeds has been executed. -/
theorem serve_ok {P : Platform} {s s' : JobSystem H} {q : JobRequest} {row : Job}
    (h : serve P s q = (s',.ok row)) :
    ∃ tx,Accepted P s q tx row ∧ exec (q.chainAt s) tx = .ok s'.chain := by
  have houtcome := serve_outcome P s q
  rw [h] at houtcome
  cases houtcome with
  | done tx row chain haccepted hexec => exact ⟨tx,haccepted,hexec⟩

/-- A lost response hides an effect that did take place. -/
theorem serve_lost {P : Platform} {s : JobSystem H} {q : JobRequest} {tx : Tx} {row : Job}
    {chain : World H} (hfate : q.delivery.fate.Lost) (hsigned : unsigned q.ctx q.actor = false)
    (haccepted : Accepted P s q tx row) (hexec : exec (q.chainAt s) tx = .ok chain) :
    (serve P s q).1 = ⟨s.jobs,chain⟩ := by
  have hsubmit : ∀ {type : TransactionType} {payload : Payload},
      EvmAdapter.prepare P s.chain ⟨type,q.actor.walletAddress,payload⟩ q.delivery = .ok tx →
      ∃ e,submit P q.ctx s.chain type q.actor payload q.delivery = (chain,.error e) := by
    intro type payload hprepare
    cases hf : q.delivery.fate with
    | dropped report => simp [hf,Fate.Lost] at hfate
    | mined => simp [hf,Fate.Lost] at hfate
    | lost e =>
      have hchain : attempt exec (attemptAll exec s.chain q.delivery.interference) tx = chain := by
        unfold attempt
        rw [show attemptAll exec s.chain q.delivery.interference = q.chainAt s from rfl,hexec]
      exact ⟨.Blockchain e,by
        simp [submit,hsigned,EvmAdapter.submitTransaction,hprepare,hf,hchain]⟩
  unfold Accepted at haccepted
  unfold serve
  cases haction : q.action with
  | create input =>
    simp only [haction] at haccepted
    obtain ⟨hcheck,rfl,hprepare⟩ := haccepted
    obtain ⟨e,hlost⟩ := hsubmit hprepare
    simp [create,hcheck,hlost]
  | change id change =>
    simp only [haction] at haccepted
    obtain ⟨old,hfind,hcheck,rfl,hprepare⟩ := haccepted
    obtain ⟨e,hlost⟩ := hsubmit hprepare
    simp [mutate,hfind,hcheck,hlost]

end BelLedger
