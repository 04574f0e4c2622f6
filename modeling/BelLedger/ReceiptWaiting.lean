import BelLedger.Submissions

/-!
# The end of a submission

The loop that waits for a receipt sleeps until its deadline and not beyond, and looks once more then.
Every answer of the node brings the adapter nearer to its result.
-/
namespace BelLedger.Submissions
open CheckedCalls TransitionRuns EffectPrograms

variable {H : Type} [Keccak H] [DecidableEq H]

/-- How many times the adapter may still go to sleep. -/
def sleeps (config : AdapterConfig) (ms : ℕ) : ℕ :=
  (ms + config.pollingIntervalMs - 1) / config.pollingIntervalMs

section Sleeps
variable {config : AdapterConfig} {deadline now : ℕ}

theorem interval_pos (config : AdapterConfig) : 0 < config.pollingIntervalMs := by
  have hten := config.ten_le_interval
  omega

theorem sleeps_mono {a b : ℕ} (h : a ≤ b) : sleeps config a ≤ sleeps config b := by
  apply Nat.div_le_div_right
  omega

@[simp] theorem sleeps_zero : sleeps config 0 = 0 := by
  have hpos := interval_pos config
  apply Nat.div_eq_of_lt
  omega

/-- A sleep is as long as the interval, or ends at the deadline. -/
theorem sleeps_wake (config : AdapterConfig) (h : now < deadline) :
    sleeps config (deadline - (now + min config.pollingIntervalMs (max 1 (deadline - now)))) + 1 ≤
      sleeps config (deadline - now) := by
  have hpos := interval_pos config
  by_cases hlast : deadline - now ≤ config.pollingIntervalMs
  · have hzero : deadline - (now + min config.pollingIntervalMs (max 1 (deadline - now))) = 0 := by
      omega
    rw [hzero,sleeps_zero]
    apply Nat.div_pos
    · omega
    · exact hpos
  · have hshort : deadline - now =
        deadline - (now + min config.pollingIntervalMs (max 1 (deadline - now))) +
          config.pollingIntervalMs := by
      omega
    unfold sleeps
    generalize deadline - (now + min config.pollingIntervalMs (max 1 (deadline - now))) = rest at hshort
    rw [hshort]
    have hsum : rest + config.pollingIntervalMs + config.pollingIntervalMs - 1 =
        rest + config.pollingIntervalMs - 1 + config.pollingIntervalMs := by
      omega
    rw [hsum,Nat.add_div_right _ hpos]

end Sleeps

/-- How many answers the adapter may still need, those to its lookups left aside. -/
def rank (config : AdapterConfig) (phase : Phase) (now : ℕ) : ℕ :=
  match phase with
  | .checkingNetwork _ => 3 * sleeps config config.txTimeoutMs + 12
  | .planning _ _ _ => 3 * sleeps config config.txTimeoutMs + 9
  | .sending .simulating _ _ => 3 * sleeps config config.txTimeoutMs + 9
  | .sending .queued _ _ => 3 * sleeps config config.txTimeoutMs + 8
  | .sending .readingNonce _ _ => 3 * sleeps config config.txTimeoutMs + 7
  | .sending .estimatingGas _ _ => 3 * sleeps config config.txTimeoutMs + 6
  | .sending .broadcasting _ _ => 3 * sleeps config config.txTimeoutMs + 5
  | .looking x => 3 * sleeps config (x.deadline - now) + 4
  | .counting x _ => 3 * sleeps config (x.deadline - now) + 3
  | .sleeping x wake => 3 * sleeps config (x.deadline - wake) + 5
  | .diagnosing _ => 2
  | .comparing _ _ => 1
  | .done _ => 0

section Ranks
variable {P : Platform} {config : AdapterConfig} {tx : Envelope} {signature : Signature}
  {s s' : State H}

theorem rank_le (phase : Phase) {now later : ℕ} (h : now ≤ later) :
    rank config phase later ≤ rank config phase now := by
  cases phase with
  | looking x | counting x _ =>
    have hmono : sleeps config (x.deadline - later) ≤ sleeps config (x.deadline - now) :=
      sleeps_mono (by omega)
    simp only [rank]
    omega
  | sending stage => cases stage <;> exact le_rfl
  | _ => exact le_rfl

theorem rank_wait (config : AdapterConfig) (x : Waiting) (now : ℕ) :
    rank config (wait config x now) now < 3 * sleeps config (x.deadline - now) + 3 := by
  unfold wait
  split
  · simp only [rank]
    omega
  · rename_i hlate
    have hsleep := sleeps_wake config (Nat.lt_of_not_le hlate)
    simp only [rank]
    omega

theorem rank_planned (config : AdapterConfig) (signature : Signature) (sender : Address)
    (rest : LookupProgram Call) (now : ℕ) :
    rank config (planned config signature sender rest) now ≤
      3 * sleeps config config.txTimeoutMs + 9 := by
  rcases planned_cases config signature sender rest with
    ⟨e,hphase⟩ | ⟨call,-,hphase⟩ | ⟨v,next,-,hphase⟩
  · rw [hphase]
    exact Nat.zero_le _
  · rw [hphase]
    exact le_rfl
  · rw [hphase]
    exact le_rfl

/-- Every answer brings the end nearer, and one to a lookup does not put it off. -/
theorem rank_proceed {a : Answer} (h : proceed P config tx signature s a = .ok s') :
    rank config s'.phase s'.node.clock ≤ rank config s.phase s.node.clock ∧
      ((∀ sender v next,s.phase ≠ .planning sender v next) →
        rank config s'.phase s'.node.clock < rank config s.phase s.node.clock) := by
  suffices hless : rank config s'.phase s'.node.clock < rank config s.phase s.node.clock ∨
      (∃ sender v next,s.phase = .planning sender v next) ∧
        rank config s'.phase s'.node.clock ≤ rank config s.phase s.node.clock by
    rcases hless with hless | ⟨⟨sender,v,next,hphase⟩,hle⟩
    · exact ⟨hless.le,fun _ => hless⟩
    · exact ⟨hle,fun hno => absurd hphase (hno sender v next)⟩
  cases proceed_cases h with
  | @throws phase node a e hphase =>
    refine .inl ?_
    cases phase with
    | done r => exact absurd rfl (hphase r)
    | sending stage => cases stage <;> simp [rank]
    | _ => simp [rank]
  | @connected node sender =>
    have hplanned := rank_planned config signature sender (LookupProgram.plan P tx) node.clock
    refine .inl (hplanned.trans_lt ?_)
    simp [rank]
  | viewed sender v next =>
    exact .inr ⟨⟨sender,v,next,rfl⟩,rank_planned config signature sender _ _⟩
  | simulated =>
    refine .inl ?_
    unfold firstStage
    cases signature <;> simp [rank]
  | rejects stage => exact .inl (by cases stage <;> simp [rank])
  | turned | counted | estimated | lost | received | found | confirmed | known =>
    exact .inl (by simp [rank])
  | accepted =>
    refine .inl ?_
    simp only [rank,Nat.add_sub_cancel_left]
    omega
  | @missing node x =>
    have hwait := rank_wait config x node.clock
    exact .inl (hwait.trans (Nat.lt_succ_self _))
  | @unconfirmed node receipt x => exact .inl (rank_wait config x node.clock)
  | @woken node wake x hwake =>
    have hmono : sleeps config (x.deadline - node.clock) ≤ sleeps config (x.deadline - wake) :=
      sleeps_mono (by omega)
    refine .inl ?_
    simp only [rank]
    omega

end Ranks

section Budgets
variable {P : Platform} {config : AdapterConfig} {tx : Envelope} {signature : Signature}
  {s s' : State H} {n : ℕ}

def Event.isAnswer : Event → Bool
  | .answer _ => true
  | _ => false

/-- How many wallets an answer lists. -/
def listed (s : State H) (event : Event) : ℕ :=
  match s.phase,event with
  | .planning _ v _,.answer .view => v.listed (v.answer s.node.chain)
  | _,_ => 0

/-- How many answers the adapter has processed. -/
def answers (hist : List (State H × Event)) : ℕ := hist.countP fun h => h.2.isAnswer

/-- How many wallets these answers have listed. -/
def walletsListed (hist : List (State H × Event)) : ℕ := hist.foldr (fun h n => listed h.1 h.2 + n) 0

/-- `n` answers are enough, and one for each wallet that they list. -/
def Within (config : AdapterConfig) (n : ℕ) (s : State H) : Prop :=
  match s.phase with
  | .planning _ v next => ∃ k,(Prog.call v next : LookupProgram Call).Affords LookupView.listed k ∧
      3 * sleeps config config.txTimeoutMs + 9 + k ≤ n
  | phase => rank config phase s.node.clock ≤ n

omit [Keccak H] [DecidableEq H] in
theorem Within.mono {m : ℕ} (hs : Within config n s) (hnm : n ≤ m) : Within config m s := by
  obtain ⟨phase,node⟩ := s
  cases phase with
  | planning sender v next =>
    obtain ⟨k,hnext,hk⟩ := hs
    exact ⟨k,hnext,hk.trans hnm⟩
  | _ => exact le_trans hs hnm

omit [Keccak H] [DecidableEq H] in
theorem within_of_rank (hphase : ∀ sender v next,s.phase ≠ .planning sender v next)
    (h : rank config s.phase s.node.clock ≤ n) : Within config n s := by
  obtain ⟨phase,node⟩ := s
  cases phase with
  | planning sender v next => exact absurd rfl (hphase sender v next)
  | _ => exact h

omit [Keccak H] [DecidableEq H] in
theorem within_planned {rest : LookupProgram Call} {k : ℕ} (hrest : rest.Affords LookupView.listed k)
    (sender : Address) (node : Node H) :
    Within config (3 * sleeps config config.txTimeoutMs + 9 + k)
      ⟨planned config signature sender rest,node⟩ := by
  have hrank := (rank_planned config signature sender rest node.clock).trans (Nat.le_add_right _ k)
  rcases planned_cases config signature sender rest with
    ⟨e,hphase⟩ | ⟨call,-,hphase⟩ | ⟨v,next,rfl,hphase⟩
  · exact within_of_rank (by simp [hphase]) hrank
  · exact within_of_rank (by simp [hphase]) hrank
  · exact ⟨k,hrest,le_rfl⟩

theorem Within.answer (hs : Within config n s) {a : Answer}
    (h : proceed P config tx signature s a = .ok s') :
    ∃ m,Within config m s' ∧ m + 1 ≤ n + listed s (.answer a) := by
  by_cases hplanning : ∃ sender v next,s.phase = .planning sender v next
  · obtain ⟨phase,node⟩ := s
    obtain ⟨sender,v,next,hphase⟩ := hplanning
    dsimp only at hphase
    subst hphase
    obtain ⟨k,⟨hpos,hnext⟩,hk⟩ := hs
    cases proceed_cases h with
    | throws a e => exact ⟨0,Nat.zero_le _,by omega⟩
    | viewed =>
      refine ⟨_,within_planned (hnext (v.answer node.chain)) sender node,?_⟩
      simp only [listed]
      omega
  · have hphase : ∀ sender v next,s.phase ≠ .planning sender v next :=
      fun sender v next he => hplanning ⟨sender,v,next,he⟩
    have hrank : rank config s.phase s.node.clock ≤ n := by
      obtain ⟨phase,node⟩ := s
      cases phase with
      | planning sender v next => exact absurd rfl (hphase sender v next)
      | _ => exact hs
    have hless := (rank_proceed h).2 hphase
    have hplanned : (∀ sender v next,s'.phase ≠ .planning sender v next) →
        ∃ m,Within config m s' ∧ m + 1 ≤ n + listed s (.answer a) :=
      fun hphase' => ⟨_,within_of_rank hphase' le_rfl,by omega⟩
    cases proceed_cases h with
    | connected sender =>
      refine ⟨_,within_planned (LookupProgram.affords_plan P tx) sender _,?_⟩
      simp only [rank] at hrank
      omega
    | viewed => exact absurd rfl (hphase _ _ _)
    | missing | unconfirmed =>
      refine hplanned ?_
      unfold wait
      split <;> simp
    | _ => exact hplanned (by simp)

theorem Within.step (hs : Within config n s) {event : Event}
    (h : Submissions.step P config tx signature s event = .ok s') :
    ∃ m,Within config m s' ∧ m + (if event.isAnswer then 1 else 0) ≤ n + listed s event := by
  have hquiet : s'.phase = s.phase → s.node.clock ≤ s'.node.clock → Within config n s' := by
    obtain ⟨phase,node⟩ := s
    obtain ⟨phase',node'⟩ := s'
    intro hphase hclock
    dsimp only at hphase hclock
    subst hphase
    cases phase' with
    | planning sender v next => exact hs
    | _ => exact (rank_le _ hclock).trans hs
  cases event with
  | answer a => exact hs.answer h
  | foreign | block =>
    obtain rfl := Except.ok.inj h
    exact ⟨n,hs,Nat.le_add_right _ _⟩
  | tick ms =>
    obtain rfl := Except.ok.inj h
    exact ⟨n,hquiet rfl (Nat.le_add_right _ _),Nat.le_add_right _ _⟩
  | mine | drop =>
    cases hours : s.node.ours with
    | pending =>
      simp only [Submissions.step,hours,Except.ok.injEq] at h
      subst h
      exact ⟨n,hquiet rfl le_rfl,Nat.le_add_right _ _⟩
    | _ => simp [Submissions.step,hours] at h

omit [Keccak H] [DecidableEq H] in
theorem within_start (P : Platform) (config : AdapterConfig) (tx : Envelope) (signature : Signature)
    (networkChecked : Bool) (node : Node H) :
    Within config (3 * sleeps config config.txTimeoutMs + 12)
      (start P config tx signature networkChecked node) := by
  unfold start
  split
  · exact Nat.zero_le _
  · split
    · exact (within_planned (LookupProgram.affords_plan P tx) _ node).mono (Nat.le_succ _)
    · exact le_rfl

end Budgets

section Deadlines
variable {P : Platform} {config : AdapterConfig} {tx : Envelope} {signature : Signature}
  {s s' : State H} {began : ℕ}

/-- The clock and the deadline of a submission that began at `began`. -/
def Timed (config : AdapterConfig) (began : ℕ) (s : State H) : Prop :=
  began ≤ s.node.clock ∧
  match s.phase with
  | .looking x | .counting x _ | .sleeping x _ => began + config.txTimeoutMs ≤ x.deadline
  | .diagnosing x | .comparing x _ =>
    began + config.txTimeoutMs ≤ x.deadline ∧ x.deadline ≤ s.node.clock
  | _ => True

omit [Keccak H] [DecidableEq H] in
private theorem timed_wait {node : Node H} {x : Waiting} (hbegan : began ≤ node.clock)
    (hdeadline : began + config.txTimeoutMs ≤ x.deadline) :
    Timed config began ⟨wait config x node.clock,node⟩ := by
  unfold wait
  split
  · rename_i hlate
    exact ⟨hbegan,hdeadline,hlate⟩
  · exact ⟨hbegan,hdeadline⟩

omit [Keccak H] [DecidableEq H] in
private theorem timed_planned {rest : LookupProgram Call} {node : Node H} (sender : Address)
    (hbegan : began ≤ node.clock) :
    Timed config began ⟨planned config signature sender rest,node⟩ := by
  rcases planned_cases config signature sender rest with
    ⟨e,hphase⟩ | ⟨call,-,hphase⟩ | ⟨v,next,-,hphase⟩
  · rw [hphase]
    exact ⟨hbegan,trivial⟩
  · rw [hphase]
    exact ⟨hbegan,trivial⟩
  · rw [hphase]
    exact ⟨hbegan,trivial⟩

private theorem Timed.answer (ht : Timed config began s) {a : Answer}
    (h : proceed P config tx signature s a = .ok s') : Timed config began s' := by
  obtain ⟨hbegan,hphase⟩ := ht
  cases proceed_cases h with
  | accepted =>
    refine ⟨hbegan,?_⟩
    dsimp only at hbegan ⊢
    omega
  | found | woken | known => exact ⟨hbegan,hphase⟩
  | connected sender | viewed sender => exact timed_planned sender hbegan
  | missing | unconfirmed => exact timed_wait hbegan hphase
  | _ => exact ⟨hbegan,trivial⟩

theorem Timed.step (ht : Timed config began s) {event : Event}
    (h : Submissions.step P config tx signature s event = .ok s') : Timed config began s' := by
  cases event with
  | answer a => exact ht.answer h
  | foreign | block =>
    obtain rfl := Except.ok.inj h
    exact ht
  | tick ms =>
    obtain rfl := Except.ok.inj h
    obtain ⟨phase,node⟩ := s
    obtain ⟨hbegan,hphase⟩ := ht
    refine ⟨Nat.le_add_right_of_le hbegan,?_⟩
    cases phase with
    | diagnosing x | comparing x t => exact ⟨hphase.1,Nat.le_add_right_of_le hphase.2⟩
    | _ => exact hphase
  | mine | drop =>
    cases hours : s.node.ours with
    | pending =>
      simp only [Submissions.step,hours,Except.ok.injEq] at h
      subst h
      exact ht
    | _ => simp [Submissions.step,hours] at h

end Deadlines

section Ends
variable {P : Platform} {config : AdapterConfig} {tx : Envelope} {signature : Signature}

/-- The answer for which the adapter waits, from a node that is there. -/
def due (config : AdapterConfig) : Phase → Answer
  | .checkingNetwork _ => .chainId config.chainId
  | .planning _ _ _ => .view
  | .sending .simulating _ _ => .simulated 0 0
  | .sending .queued _ _ => .turn
  | .sending .readingNonce _ _ => .nonce 0
  | .sending .estimatingGas _ _ => .gas 0
  | .sending .broadcasting _ _ => .accepted ""
  | .looking _ => .receipt
  | .counting _ _ => .head
  | .sleeping _ _ => .woken
  | .diagnosing _ => .transaction none
  | .comparing _ _ => .nonce 0
  | .done _ => .receipt

/-- Time passes, or the adapter gets the answer it waits for. -/
def Event.Prompt (config : AdapterConfig) : Event → Prop
  | .tick _ => True
  | .answer a => ∃ phase,a = due config phase
  | _ => False

private theorem due_proceeds {s : State H} (hopen : ∀ r,s.phase ≠ .done r)
    (hawake : ∀ x wake,s.phase = .sleeping x wake → wake ≤ s.node.clock) :
    ∃ s',proceed P config tx signature s (due config s.phase) = .ok s' := by
  obtain ⟨phase,node⟩ := s
  dsimp only at hopen hawake ⊢
  unfold proceed
  cases phase with
  | checkingNetwork sender => exact ⟨_,if_pos rfl⟩
  | planning sender v next => exact ⟨_,rfl⟩
  | sending stage sender call =>
    cases stage with
    | simulating =>
      dsimp only [due]
      split
      · exact ⟨_,rfl⟩
      · exact ⟨_,rfl⟩
    | _ => exact ⟨_,rfl⟩
  | looking x =>
    dsimp only [due]
    split
    · split
      · exact ⟨_,rfl⟩
      · exact ⟨_,rfl⟩
    · exact ⟨_,rfl⟩
  | counting x receipt =>
    dsimp only [due]
    split
    · exact ⟨_,rfl⟩
    · exact ⟨_,rfl⟩
  | sleeping x wake => exact ⟨_,if_pos (hawake x wake rfl)⟩
  | diagnosing x => exact ⟨_,rfl⟩
  | comparing x t => exact ⟨_,rfl⟩
  | done r => exact absurd rfl (hopen r)

/-- Once every lookup is answered, the adapter plans no more. -/
private theorem exists_planned (P : Platform) (config : AdapterConfig) (tx : Envelope)
    (signature : Signature) (sender : Address) (rest : LookupProgram Call) (node : Node H) :
    ∃ k,∃ s' : State H,attemptAll (step P config tx signature)
        ⟨planned config signature sender rest,node⟩ (List.replicate k (.answer .view)) = s' ∧
      (∀ sender' v next,s'.phase ≠ .planning sender' v next) ∧
      rank config s'.phase s'.node.clock ≤ 3 * sleeps config config.txTimeoutMs + 9 := by
  induction rest with
  | done result =>
    refine ⟨0,_,rfl,?_,rank_planned config signature sender _ _⟩
    rcases planned_cases config signature sender
      (.done result : LookupProgram Call) with ⟨e,hphase⟩ | ⟨call,-,hphase⟩ | ⟨v,next,hcall,-⟩
    · simp [attemptAll,hphase]
    · simp [attemptAll,hphase]
    · cases hcall
  | call v next ih =>
    obtain ⟨k,s',hs',hphase,hrank⟩ := ih (v.answer node.chain)
    exact ⟨k + 1,s',hs',hphase,hrank⟩

/-- The lookups of any state are answered. -/
private theorem exists_looked_up (P : Platform) (config : AdapterConfig) (tx : Envelope)
    (signature : Signature) (s : State H) :
    ∃ k,∃ s' : State H,attemptAll (step P config tx signature) s
        (List.replicate k (.answer .view)) = s' ∧
      (∀ sender v next,s'.phase ≠ .planning sender v next) ∧
      rank config s'.phase s'.node.clock ≤ rank config s.phase s.node.clock := by
  by_cases hplanning : ∃ sender v next,s.phase = .planning sender v next
  · obtain ⟨phase,node⟩ := s
    obtain ⟨sender,v,next,hphase⟩ := hplanning
    dsimp only at hphase
    subst hphase
    exact exists_planned P config tx signature sender (.call v next) node
  · exact ⟨0,s,rfl,fun sender v next he => hplanning ⟨sender,v,next,he⟩,le_rfl⟩

/-- From any state, answers and time are enough. -/
private theorem exists_end (P : Platform) (config : AdapterConfig) (tx : Envelope)
    (signature : Signature) (s : State H) :
    ∃ later : List Event,(∀ event ∈ later,event.Prompt config) ∧
      ∃ r,(attemptAll (step P config tx signature) s later).phase = .done r := by
  induction hrank : rank config s.phase s.node.clock using Nat.strong_induction_on generalizing s with
  | _ n ih =>
    subst hrank
    obtain ⟨k,u,hu,hlookedUp,hle⟩ := exists_looked_up P config tx signature s
    have hviews : ∀ event ∈ List.replicate k (Event.answer .view),event.Prompt config := by
      intro event hevent
      rw [List.eq_of_mem_replicate hevent]
      exact ⟨.planning 0 (.nftIdOf "") (fun n => .done (.ok (.mintAsset [] 0))),rfl⟩
    by_cases hdone : ∃ r,u.phase = .done r
    · obtain ⟨r,hr⟩ := hdone
      exact ⟨_,hviews,r,by rw [hu,hr]⟩
    have hopen : ∀ r,u.phase ≠ .done r := fun r hr => hdone ⟨r,hr⟩
    -- long enough for any sleep that the adapter is in
    obtain ⟨ms,hms⟩ : ∃ ms,∀ x wake,u.phase = .sleeping x wake → wake ≤ u.node.clock + ms := by
      cases hphase : u.phase with
      | sleeping x wake => exact ⟨wake,fun y wake' he => by injection he; omega⟩
      | _ => exact ⟨0,by simp⟩
    let t : State H := { u with node := { u.node with clock := u.node.clock + ms } }
    have hproceeds : ∃ s',proceed P config tx signature t (due config t.phase) = .ok s' :=
      due_proceeds hopen hms
    obtain ⟨s',hs'⟩ := hproceeds
    have hless : rank config s'.phase s'.node.clock < rank config s.phase s.node.clock :=
      ((rank_proceed hs').2 hlookedUp).trans_le
        ((rank_le u.phase (Nat.le_add_right _ _)).trans hle)
    obtain ⟨later,hprompt,r,hr⟩ := ih _ hless s' rfl
    refine ⟨List.replicate k (.answer .view)++.tick ms::.answer (due config u.phase)::later,?_,r,?_⟩
    · intro event hevent
      rcases List.mem_append.mp hevent with hevent | hevent
      · exact hviews event hevent
      rcases List.mem_cons.mp hevent with rfl | hevent
      · trivial
      rcases List.mem_cons.mp hevent with rfl | hevent
      · exact ⟨_,rfl⟩
      · exact hprompt event hevent
    · have htick : attempt (step P config tx signature) u (.tick ms) = t := rfl
      have hanswer : attempt (step P config tx signature) t (.answer (due config u.phase)) = s' := by
        unfold attempt
        rw [show step P config tx signature t (.answer (due config u.phase)) = .ok s' from hs']
      unfold attemptAll at hu ⊢
      rw [List.foldl_append,hu,List.foldl_cons,htick,List.foldl_cons,hanswer]
      exact hr

section Runs
variable (P : Platform) (config : AdapterConfig) (tx : Envelope) (signature : Signature)
  (networkChecked : Bool) (node : Node H) (events : List Event)

private theorem run_submission :
    Run (step P config tx signature) (start P config tx signature networkChecked node)
      (history (step P config tx signature) (start P config tx signature networkChecked node) events)
      (submission P config tx signature networkChecked node events) := Run.attemptAll _ events

/-- Every answer is paid for, at the start or by the wallets that the answers list. -/
theorem answers_le :
    answers (history (step P config tx signature) (start P config tx signature networkChecked node)
        events) ≤
      3 * sleeps config config.txTimeoutMs + 12 + walletsListed (history (step P config tx signature)
        (start P config tx signature networkChecked node) events) := by
  have hcount := (run_submission P config tx signature networkChecked node events).history_invariant
    (P := fun hist s => ∃ m,Within config m s ∧ answers hist + m ≤
      3 * sleeps config config.txTimeoutMs + 12 + walletsListed hist)
    ⟨_,within_start P config tx signature networkChecked node,by simp [answers]⟩ ?_
  · obtain ⟨m,-,hm⟩ := hcount
    omega
  · rintro hist s event s' - ⟨m,hs,hm⟩ hstep
    obtain ⟨m',hs',hm'⟩ := hs.step hstep
    have hanswers : answers ((s,event)::hist) = answers hist + if event.isAnswer then 1 else 0 := by
      simp [answers,List.countP_cons]
    have hlisted : walletsListed ((s,event)::hist) = listed s event + walletsListed hist := rfl
    refine ⟨m',hs',?_⟩
    omega

omit [Keccak H] [DecidableEq H] in
theorem timed_start :
    Timed config node.clock (start P config tx signature networkChecked node) := by
  unfold start
  split
  · exact ⟨le_rfl,trivial⟩
  · split
    · exact timed_planned _ le_rfl
    · exact ⟨le_rfl,trivial⟩

theorem timed_submission :
    Timed config node.clock (submission P config tx signature networkChecked node events) :=
  (run_submission P config tx signature networkChecked node events).invariant
    (fun _ _ _ h hstep => h.step hstep) (timed_start P config tx signature networkChecked node)

end Runs

end Ends
end BelLedger.Submissions
