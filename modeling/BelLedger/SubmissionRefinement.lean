import BelLedger.Submissions

/-!
# What a submission comes to

Whatever happens between two answers, the chain and the result are those of one transaction that was
planned by its lookups and had one fate. When nobody changes meanwhile what the lookups say, this is
the submission that the services see.
-/
namespace BelLedger.Submissions
open CheckedCalls TransitionRuns EffectPrograms

variable {H : Type} [Keccak H] [DecidableEq H]

section Knowledge

/-- Others have brought the chain from `w` to `w'`. -/
def Others (w w' : World H) : Prop := ∃ txs,w' = attemptAll exec w txs

theorem Others.refl (w : World H) : Others w w := ⟨[],rfl⟩

theorem Others.trans {u v w : World H} (huv : Others u v) (hvw : Others v w) : Others u w := by
  obtain ⟨before,rfl⟩ := huv
  obtain ⟨after,rfl⟩ := hvw
  exact ⟨before++after,by simp [attemptAll]⟩

theorem Others.foreign {w w' : World H} (h : Others w w') (other : Tx) :
    Others w (attempt exec w' other) := h.trans ⟨[other],rfl⟩

/-- What is known of the lookups that are left and of the planned call while others change the chain,
and which outcomes of a submission it stands for. -/
structure Knowledge (P : Platform) (tx : Envelope) (origin : World H) where
  /-- What others may do while the lookups are answered. -/
  allowed : World H → Tx → Prop
  asked : World H → LookupProgram Call → Prop
  planned : World H → Call → Prop
  submits : World H × Except BlockchainError SubmitStatus → Prop
  asked_start : ∀ w,Others origin w → asked w (LookupProgram.plan P tx)
  asked_foreign : ∀ w rest other,asked w rest → allowed w other → asked (attempt exec w other) rest
  asked_view : ∀ w v next,asked w (.call v next) → asked w (next (v.answer w))
  asked_done : ∀ w call,asked w (.done (.ok call)) → planned w call
  planned_foreign : ∀ w call other,planned w call → planned (attempt exec w other) call
  planned_others : ∀ w call,planned w call → Others origin w
  delivers : ∀ w sender call timestamp number chainid fate,EvmAdapter.actorWallet P tx = .ok sender →
    planned w call → submits (EvmAdapter.deliver w ⟨⟨sender,timestamp,number,chainid⟩,call⟩ fate)
  gives_up : ∃ e,submits (origin,.error e)

/-- A submission from `origin` on. -/
def Meanwhile (P : Platform) (tx : Envelope) (origin : World H)
    (outcome : World H × Except BlockchainError SubmitStatus) : Prop :=
  ∃ others d,outcome = EvmAdapter.submitMeanwhile P origin tx others d

/-- A submission that is planned in one state on the way from `origin`. -/
def AtOnce (P : Platform) (tx : Envelope) (origin : World H)
    (outcome : World H × Except BlockchainError SubmitStatus) : Prop :=
  ∃ before d,outcome = EvmAdapter.submitTransaction P (attemptAll exec origin before) tx d

private theorem submitTransaction_unreachable (P : Platform) (w : World H) (tx : Envelope) :
    ∃ e,EvmAdapter.submitTransaction P w tx ⟨[],0,0,0,.dropped (.error ⟨.NETWORK,""⟩)⟩ =
      (w,.error e) := by
  unfold EvmAdapter.submitTransaction
  split
  · exact ⟨_,rfl⟩
  · exact ⟨_,rfl⟩

/-- Nothing is asked of the others. -/
def meanwhile (P : Platform) (tx : Envelope) (origin : World H) : Knowledge P tx origin where
  allowed _ _ := True
  asked w rest := ∃ u,Others origin u ∧ Others u w ∧ ∀ t call,rest.Returns EvmAdapter.lookUp u t call →
    (LookupProgram.plan P tx).Returns EvmAdapter.lookUp origin t call
  planned w call := ∃ u,Others origin u ∧ Others u w ∧
    (LookupProgram.plan P tx).Returns EvmAdapter.lookUp origin u call
  submits := Meanwhile P tx origin
  asked_start w hw := ⟨origin,.refl origin,hw,fun t call h => h⟩
  asked_foreign w rest other h _ := by
    obtain ⟨u,hu,hw,hplan⟩ := h
    exact ⟨u,hu,hw.foreign other,hplan⟩
  asked_view w v next h := by
    obtain ⟨u,hu,⟨txs,rfl⟩,hplan⟩ := h
    refine ⟨attemptAll exec u txs,hu.trans ⟨txs,rfl⟩,.refl _,fun t call hnext => hplan t call ?_⟩
    exact Prog.returns_perform_bind.mpr ⟨txs,hnext⟩
  asked_done w call h := by
    obtain ⟨u,hu,hw,hplan⟩ := h
    exact ⟨u,hu,hw,hplan u call (Prog.returns_pure.mpr ⟨rfl,rfl⟩)⟩
  planned_foreign w call other h := by
    obtain ⟨u,hu,hw,hplan⟩ := h
    exact ⟨u,hu,hw.foreign other,hplan⟩
  planned_others w call h := by
    obtain ⟨u,hu,hw,-⟩ := h
    exact hu.trans hw
  delivers w sender call timestamp number chainid fate hsender h := by
    obtain ⟨u,-,⟨between,rfl⟩,env,hrun⟩ := h
    refine ⟨env,⟨between,timestamp,number,chainid,fate⟩,?_⟩
    unfold EvmAdapter.submitMeanwhile
    rw [hsender,hrun]
  gives_up := by
    obtain ⟨e,he⟩ := submitTransaction_unreachable P origin tx
    exact ⟨e,_,_,((EvmAdapter.submitMeanwhile_alone P origin tx _).trans he).symm⟩

/-- The others do not change what the lookups say. -/
def undisturbed (P : Platform) (tx : Envelope) (origin : World H) : Knowledge P tx origin where
  allowed w other := ∀ v : LookupView,v.answer (attempt exec w other) = v.answer w
  asked w rest := ∃ u,Others origin u ∧ Others u w ∧ (∀ v : LookupView,v.answer w = v.answer u) ∧
    rest.evaluate (LookupView.answer u) = EvmAdapter.plan P u tx
  planned w call := ∃ u,Others origin u ∧ Others u w ∧ EvmAdapter.plan P u tx = .ok call
  submits := AtOnce P tx origin
  asked_start w hw := ⟨w,hw,.refl w,fun v => rfl,LookupProgram.evaluate_plan P tx⟩
  asked_foreign w rest other h hallowed := by
    obtain ⟨u,hu,hw,halike,hplan⟩ := h
    exact ⟨u,hu,hw.foreign other,fun v => (hallowed v).trans (halike v),hplan⟩
  asked_view w v next h := by
    obtain ⟨u,hu,hw,halike,hplan⟩ := h
    refine ⟨u,hu,hw,halike,?_⟩
    rw [halike v]
    exact hplan
  asked_done w call h := by
    obtain ⟨u,hu,hw,-,hplan⟩ := h
    exact ⟨u,hu,hw,hplan.symm⟩
  planned_foreign w call other h := by
    obtain ⟨u,hu,hw,hplan⟩ := h
    exact ⟨u,hu,hw.foreign other,hplan⟩
  planned_others w call h := by
    obtain ⟨u,hu,hw,-⟩ := h
    exact hu.trans hw
  delivers w sender call timestamp number chainid fate hsender h := by
    obtain ⟨u,⟨before,rfl⟩,⟨between,rfl⟩,hplan⟩ := h
    have hprepare : EvmAdapter.prepare P (attemptAll exec origin before) tx
        ⟨between,timestamp,number,chainid,fate⟩ =
        .ok ⟨⟨sender,timestamp,number,chainid⟩,call⟩ := by
      unfold EvmAdapter.prepare
      rw [hsender,hplan]
      rfl
    exact ⟨before,_,(EvmAdapter.submitTransaction_of_prepared hprepare).symm⟩
  gives_up := by
    obtain ⟨e,he⟩ := submitTransaction_unreachable P origin tx
    exact ⟨e,[],_,he.symm⟩

end Knowledge

section Outcomes
variable {P : Platform} {config : AdapterConfig} {tx : Envelope} {origin : World H}

/-- The call of `sender` that is on its way. -/
def Planned (K : Knowledge P tx origin) (w : World H) (sender : Address) (call : Call) : Prop :=
  EvmAdapter.actorWallet P tx = .ok sender ∧ K.planned w call

/-- On a state in which the call was planned, our transaction was attempted, and others after it. -/
def Executed (K : Knowledge P tx origin) (config : AdapterConfig) (w : World H) (sender : Address)
    (call : Call) (receipt : Receipt) : Prop :=
  ∃ u timestamp,Planned K u sender call ∧
    receipt.status = (exec u (txIn config sender call timestamp receipt.blockNumber)).toOption.isSome ∧
    Others (attempt exec u (txIn config sender call timestamp receipt.blockNumber)) w

/-- What the node knows about our transaction is what has happened to the chain. -/
def Told (K : Knowledge P tx origin) (config : AdapterConfig) (node : Node H) : Prop :=
  match node.ours with
  | .absent => Others origin node.chain
  | .pending sender call | .dropped sender call => Planned K node.chain sender call
  | .mined sender call receipt =>
    Executed K config node.chain sender call receipt ∧ receipt.blockNumber ≤ node.head

/-- What the adapter relies on while it waits, and what its result says. -/
inductive Consistent (K : Knowledge P tx origin) (config : AdapterConfig) : Phase → Node H → Prop
  | checkingNetwork {sender : Address} {node : Node H} (hours : node.ours = .absent)
      (hsender : EvmAdapter.actorWallet P tx = .ok sender) :
      Consistent K config (.checkingNetwork sender) node
  | planning {sender : Address} {v : LookupView} {next : v.Answer → LookupProgram Call} {node : Node H}
      (hours : node.ours = .absent) (hsender : EvmAdapter.actorWallet P tx = .ok sender)
      (hasked : K.asked node.chain (.call v next)) :
      Consistent K config (.planning sender v next) node
  | sending {sender : Address} {call : Call} {node : Node H} (stage : Stage)
      (hours : node.ours = .absent) (hplanned : Planned K node.chain sender call) :
      Consistent K config (.sending stage sender call) node
  | looking {node : Node H} (x : Waiting) (hours : node.ours ≠ .absent) :
      Consistent K config (.looking x) node
  | sleeping {node : Node H} (x : Waiting) (wake : ℕ) (hours : node.ours ≠ .absent) :
      Consistent K config (.sleeping x wake) node
  | diagnosing {node : Node H} (x : Waiting) (hours : node.ours ≠ .absent) :
      Consistent K config (.diagnosing x) node
  | comparing {node : Node H} (x : Waiting) (t : TransactionResponse) :
      Consistent K config (.comparing x t) node
  | counting {node : Node H} {sender : Address} {call : Call} {receipt : Receipt} (x : Waiting)
      (hours : node.ours = .mined sender call receipt) : Consistent K config (.counting x receipt) node
  | succeeded {node : Node H} {sender : Address} {call : Call} {receipt : Receipt} (hash : String)
      (hours : node.ours = .mined sender call receipt) (hstatus : receipt.status = true)
      (hconfirmed : receipt.blockNumber + config.confirmations ≤ node.head + 1) :
      Consistent K config (.done (.ok (.SUCCESS hash receipt.blockNumber))) node
  | reverted {node : Node H} {sender : Address} {call : Call} {receipt : Receipt}
      (hours : node.ours = .mined sender call receipt) (hstatus : receipt.status = false) :
      Consistent K config (.done (.ok (.REJECTED .ExecutionReverted))) node
  | refused {node : Node H} {sender : Address} {call : Call} (revert : Revert)
      (hours : node.ours = .absent) (hplanned : Planned K node.chain sender call) :
      Consistent K config (.done (.ok (.REJECTED (.decoded revert)))) node
  | failed {node : Node H} (e : BlockchainError) : Consistent K config (.done (.error e)) node

/-- Both parts of the invariant. -/
structure Sound (K : Knowledge P tx origin) (config : AdapterConfig) (s : State H) : Prop where
  told : Told K config s.node
  consistent : Consistent K config s.phase s.node

variable {K : Knowledge P tx origin} {w : World H} {sender : Address} {call : Call} {receipt : Receipt}

theorem Planned.foreign (h : Planned K w sender call) (other : Tx) :
    Planned K (attempt exec w other) sender call := ⟨h.1,K.planned_foreign w call other h.2⟩

theorem Planned.others (h : Planned K w sender call) : Others origin w := K.planned_others w call h.2

theorem Executed.foreign (h : Executed K config w sender call receipt) (other : Tx) :
    Executed K config (attempt exec w other) sender call receipt := by
  obtain ⟨u,timestamp,hplanned,hstatus,hw⟩ := h
  exact ⟨u,timestamp,hplanned,hstatus,hw.foreign other⟩

section Surroundings
variable {phase : Phase} {node node' : Node H}

/-- What happens to others does not matter to the adapter. -/
private theorem Consistent.others (h : Consistent K config phase node)
    (hours : node'.ours = node.ours) (hhead : node.head ≤ node'.head)
    (hasked : ∀ sender v next,phase = .planning sender v next → K.asked node.chain (.call v next) →
      K.asked node'.chain (.call v next))
    (hplanned : ∀ sender call,Planned K node.chain sender call → Planned K node'.chain sender call) :
    Consistent K config phase node' := by
  cases h with
  | checkingNetwork h hsender => exact .checkingNetwork (hours.trans h) hsender
  | planning h hsender hleft => exact .planning (hours.trans h) hsender (hasked _ _ _ rfl hleft)
  | sending stage h hplan => exact .sending stage (hours.trans h) (hplanned _ _ hplan)
  | looking x h => exact .looking x (hours ▸ h)
  | sleeping x wake h => exact .sleeping x wake (hours ▸ h)
  | diagnosing x h => exact .diagnosing x (hours ▸ h)
  | comparing x t => exact .comparing x t
  | counting x h => exact .counting x (hours.trans h)
  | succeeded hash h hstatus hconfirmed =>
    exact .succeeded hash (hours.trans h) hstatus (by omega)
  | reverted h hstatus => exact .reverted (hours.trans h) hstatus
  | refused revert h hplan => exact .refused revert (hours.trans h) (hplanned _ _ hplan)
  | failed e => exact .failed e

/-- A pending transaction leaves the pool. -/
private theorem Consistent.leaves (h : Consistent K config phase node)
    (hpending : node.ours = .pending sender call) (hours : node'.ours ≠ .absent) :
    Consistent K config phase node' := by
  cases h with
  | checkingNetwork h | planning h | sending _ h | counting _ h | succeeded _ h | reverted h
  | refused _ h =>
    rw [hpending] at h
    cases h
  | looking x h => exact .looking x hours
  | sleeping x wake h => exact .sleeping x wake hours
  | diagnosing x h => exact .diagnosing x hours
  | comparing x t => exact .comparing x t
  | failed e => exact .failed e

private theorem Told.foreign (h : Told K config node) (other : Tx) :
    Told K config { node with chain := attempt exec node.chain other } := by
  unfold Told at h ⊢
  cases hours : node.ours with
  | absent =>
    simp only [hours] at h ⊢
    exact h.foreign other
  | pending sender call =>
    simp only [hours] at h ⊢
    exact h.foreign other
  | dropped sender call =>
    simp only [hours] at h ⊢
    exact h.foreign other
  | mined sender call receipt =>
    simp only [hours] at h ⊢
    exact ⟨h.1.foreign other,h.2⟩

private theorem Told.block (h : Told K config node) :
    Told K config { node with head := node.head + 1 } := by
  unfold Told at h ⊢
  cases hours : node.ours with
  | mined sender call receipt =>
    simp only [hours] at h ⊢
    exact ⟨h.1,by omega⟩
  | _ => simpa only [hours] using h

end Surroundings

variable {signature : Signature} {s s' : State H}

/-- What others may do in a state: anything, unless lookups are being answered. -/
def Allows (K : Knowledge P tx origin) (s : State H) (event : Event) : Prop :=
  ∀ other sender v next,event = .foreign other → s.phase = .planning sender v next →
    K.allowed s.node.chain other

private theorem Sound.event (h : Sound K config s) {event : Event} (hevent : ∀ a,event ≠ .answer a)
    (hallows : Allows K s event) (hstep : step P config tx signature s event = .ok s') :
    Sound K config s' := by
  obtain ⟨told,consistent⟩ := h
  cases event with
  | answer a => exact absurd rfl (hevent a)
  | foreign other =>
    obtain rfl := Except.ok.inj hstep
    refine ⟨told.foreign other,consistent.others rfl le_rfl ?_ (fun _ _ hp => hp.foreign other)⟩
    intro sender v next hphase hasked
    exact K.asked_foreign _ _ _ hasked (hallows other sender v next rfl hphase)
  | block =>
    obtain rfl := Except.ok.inj hstep
    exact ⟨told.block,consistent.others rfl (Nat.le_succ _) (fun _ _ _ _ ha => ha) (fun _ _ hp => hp)⟩
  | tick ms =>
    obtain rfl := Except.ok.inj hstep
    exact ⟨told,consistent.others rfl le_rfl (fun _ _ _ _ ha => ha) (fun _ _ hp => hp)⟩
  | drop =>
    cases hours : s.node.ours with
    | pending sender call =>
      simp only [step,hours,Except.ok.injEq] at hstep
      subst hstep
      simp only [Told,hours] at told
      exact ⟨told,consistent.leaves hours (by simp)⟩
    | _ => simp [step,hours] at hstep
  | mine timestamp =>
    cases hours : s.node.ours with
    | pending sender call =>
      simp only [step,hours,Except.ok.injEq] at hstep
      subst hstep
      simp only [Told,hours] at told
      refine ⟨⟨⟨s.node.chain,timestamp,told,rfl,.refl _⟩,le_rfl⟩,consistent.leaves hours (by simp)⟩
    | _ => simp [step,hours] at hstep

section Answers
variable {node : Node H} {x : Waiting}

/-- What the adapter does when it knows more about its lookups. -/
private theorem consistent_planned {rest : LookupProgram Call} (hours : node.ours = .absent)
    (hsender : EvmAdapter.actorWallet P tx = .ok sender) (hasked : K.asked node.chain rest) :
    Consistent K config (planned config signature sender rest) node := by
  rcases planned_cases config signature sender rest with
    ⟨e,hphase⟩ | ⟨call,rfl,hphase⟩ | ⟨v,next,rfl,hphase⟩
  · rw [hphase]
    exact .failed e
  · rw [hphase]
    exact .sending _ hours ⟨hsender,K.asked_done _ _ hasked⟩
  · exact .planning hours hsender hasked

private theorem consistent_wait (now : ℕ) (hours : node.ours ≠ .absent) :
    Consistent K config (wait config x now) node := by
  unfold wait
  split
  · exact .diagnosing x hours
  · exact .sleeping x _ hours

private theorem consistent_finish (hours : node.ours = .mined sender call receipt)
    (hconfirmed : receipt.blockNumber + config.confirmations ≤ node.head + 1) :
    Consistent K config (.done (.ok (finish x receipt))) node := by
  unfold finish
  cases hstatus : receipt.status with
  | true => exact .succeeded x.hash hours hstatus hconfirmed
  | false => exact .reverted hours hstatus

private theorem Sound.answer (h : Sound K config s) {a : Answer}
    (hstep : proceed P config tx signature s a = .ok s') : Sound K config s' := by
  obtain ⟨told,consistent⟩ := h
  cases proceed_cases hstep with
  | throws a e => exact ⟨told,.failed e⟩
  | @connected node sender =>
    cases consistent with
    | checkingNetwork hours hsender =>
      have habsent : node.ours = .absent := hours
      have hothers : Others origin node.chain := by simpa only [Told,habsent] using told
      exact ⟨told,consistent_planned hours hsender (K.asked_start _ hothers)⟩
  | viewed sender v next =>
    cases consistent with
    | planning hours hsender hasked =>
      exact ⟨told,consistent_planned hours hsender (K.asked_view _ _ _ hasked)⟩
  | simulated | turned | counted | estimated =>
    cases consistent with
    | sending stage hours hplanned => exact ⟨told,.sending _ hours hplanned⟩
  | rejects stage sender call a revert =>
    cases consistent with
    | sending stage hours hplanned => exact ⟨told,.refused revert hours hplanned⟩
  | accepted =>
    cases consistent with
    | sending stage hours hplanned => exact ⟨hplanned,.looking _ (by simp)⟩
  | lost =>
    cases consistent with
    | sending stage hours hplanned => exact ⟨hplanned,.failed _⟩
  | @received node sender call receipt x hours hone =>
    have hhead : receipt.blockNumber ≤ node.head := by
      simp only [Told,hours] at told
      exact told.2
    exact ⟨told,consistent_finish hours (by dsimp only; omega)⟩
  | found x hours => exact ⟨told,.counting x hours⟩
  | missing x =>
    cases consistent with
    | looking _ hours => exact ⟨told,consistent_wait _ hours⟩
  | confirmed x hconfirmed =>
    cases consistent with
    | counting _ hours => exact ⟨told,consistent_finish hours (by dsimp only; omega)⟩
  | unconfirmed x =>
    cases consistent with
    | counting _ hours => exact ⟨told,consistent_wait _ (fun he => (by cases hours.symm.trans he))⟩
  | woken x =>
    cases consistent with
    | sleeping _ _ hours => exact ⟨told,.looking x hours⟩
  | known x t => exact ⟨told,.comparing x t⟩

end Answers

theorem Sound.step (h : Sound K config s) {event : Event} (hallows : Allows K s event)
    (hstep : Submissions.step P config tx signature s event = .ok s') : Sound K config s' := by
  cases event with
  | answer a => exact h.answer hstep
  | foreign | block | mine | drop | tick => exact h.event (by simp) hallows hstep

theorem sound_start (K : Knowledge P tx origin) (config : AdapterConfig) (signature : Signature)
    (networkChecked : Bool) {node : Node H} (hnew : node.ours = .absent)
    (horigin : node.chain = origin) :
    Sound K config (start P config tx signature networkChecked node) := by
  have hothers : Others origin node.chain := horigin ▸ .refl _
  have htold : Told K config node := by
    simp only [Told,hnew]
    exact hothers
  unfold start
  cases hsender : EvmAdapter.actorWallet P tx with
  | error e => exact ⟨htold,.failed e⟩
  | ok sender =>
    cases networkChecked with
    | true => exact ⟨htold,consistent_planned hnew hsender (K.asked_start _ hothers)⟩
    | false => exact ⟨htold,.checkingNetwork hnew hsender⟩

/-- The invariant of a run in which the others do what they may. -/
theorem sound_submission (K : Knowledge P tx origin) (config : AdapterConfig) (signature : Signature)
    (networkChecked : Bool) {node : Node H} (hnew : node.ours = .absent)
    (horigin : node.chain = origin) {events : List Event}
    (hallows : ∀ s event,(s,event) ∈ history (step P config tx signature)
      (start P config tx signature networkChecked node) events → Allows K s event) :
    Sound K config (submission P config tx signature networkChecked node events) := by
  have hrun : Run (step P config tx signature) (start P config tx signature networkChecked node)
      (history (step P config tx signature) (start P config tx signature networkChecked node) events)
      (submission P config tx signature networkChecked node events) := Run.attemptAll _ events
  refine hrun.history_invariant (P := fun hist s =>
    (∀ t event,(t,event) ∈ hist → Allows K t event) → Sound K config s) ?_ ?_ hallows
  · exact fun _ => sound_start K config signature networkChecked hnew horigin
  · intro hist s event s' _ ih hstep hall
    have hs := ih (fun t e he => hall t e (List.mem_cons_of_mem _ he))
    exact hs.step (hall s event List.mem_cons_self) hstep

end Outcomes

section Refinement
variable {P : Platform} {config : AdapterConfig} {tx : Envelope} {origin w : World H}
  {K : Knowledge P tx origin}

/-- The two results tell the caller the same. -/
inductive Reports : Except BlockchainError SubmitResult → Except BlockchainError SubmitStatus → Prop
  | success (hash : String) (blockNumber : ℕ) :
      Reports (.ok (.SUCCESS hash blockNumber)) (.ok .SUCCESS)
  | decoded (revert : Revert) : Reports (.ok (.REJECTED (.decoded revert))) (.ok (.REJECTED revert))
  | reverted (revert : Revert) :
      Reports (.ok (.REJECTED .ExecutionReverted)) (.ok (.REJECTED revert))
  | thrown (e e' : BlockchainError) : Reports (.error e) (.error e')

/-- The chain is at `w` and the result is `r`, as after one of the submissions and others'
transactions. -/
def Refines (submits : World H × Except BlockchainError SubmitStatus → Prop) (w : World H)
    (r : Except BlockchainError SubmitResult) : Prop :=
  ∃ outcome,submits outcome ∧ Others outcome.1 w ∧ Reports r outcome.2

theorem Others.refines (h : Others origin w) (K : Knowledge P tx origin) (e : BlockchainError) :
    Refines K.submits w (.error e) := by
  obtain ⟨e',he'⟩ := K.gives_up
  exact ⟨_,he',h,.thrown e e'⟩

theorem Planned.refines {sender : Address} {call : Call} (h : Planned K w sender call)
    (revert : Revert) : Refines K.submits w (.ok (.REJECTED (.decoded revert))) :=
  ⟨_,K.delivers w sender call 0 0 0 (.dropped (.ok revert)) h.1 h.2,.refl w,.decoded revert⟩

theorem Executed.refines {sender : Address} {call : Call} {receipt : Receipt}
    (h : Executed K config w sender call receipt) :
    (receipt.status = true → ∀ hash blockNumber,
      Refines K.submits w (.ok (.SUCCESS hash blockNumber))) ∧
    (receipt.status = false → Refines K.submits w (.ok (.REJECTED .ExecutionReverted))) ∧
    ∀ e,Refines K.submits w (.error e) := by
  obtain ⟨u,timestamp,⟨hsender,hplanned⟩,hstatus,hw⟩ := h
  have hdelivers := fun fate => K.delivers u sender call timestamp receipt.blockNumber config.chainId
    fate hsender hplanned
  unfold attempt at hw
  refine ⟨?_,?_,?_⟩
  · intro htrue hash blockNumber
    cases hexec : exec u (txIn config sender call timestamp receipt.blockNumber) with
    | ok w' =>
      rw [hexec] at hw
      have hmined := hdelivers .mined
      unfold EvmAdapter.deliver at hmined
      rw [show exec u ⟨⟨sender,timestamp,receipt.blockNumber,config.chainId⟩,call⟩ = .ok w' from hexec]
        at hmined
      exact ⟨_,hmined,hw,.success hash blockNumber⟩
    | error revert =>
      rw [hexec,htrue] at hstatus
      cases hstatus
  · intro hfalse
    cases hexec : exec u (txIn config sender call timestamp receipt.blockNumber) with
    | ok w' =>
      rw [hexec,hfalse] at hstatus
      cases hstatus
    | error revert =>
      rw [hexec] at hw
      exact ⟨_,hdelivers (.dropped (.ok revert)),hw,.reverted revert⟩
  · intro e
    exact ⟨_,hdelivers (.lost e),hw,.thrown e e⟩

theorem Sound.refines {r : Except BlockchainError SubmitResult} {node : Node H}
    (h : Sound K config ⟨.done r,node⟩) :
    Refines K.submits node.chain r ∧
      ∀ result,r = .ok result → ∀ sender call,node.ours ≠ .pending sender call := by
  obtain ⟨told,consistent⟩ := h
  unfold Told at told
  dsimp only at told consistent
  cases consistent with
  | succeeded hash hours hstatus hconfirmed =>
    simp only [hours] at told ⊢
    exact ⟨told.1.refines.1 hstatus _ _,by simp⟩
  | reverted hours hstatus =>
    simp only [hours] at told ⊢
    exact ⟨told.1.refines.2.1 hstatus,by simp⟩
  | refused revert hours hplanned =>
    simp only [hours] at told ⊢
    exact ⟨hplanned.refines revert,by simp⟩
  | failed e =>
    refine ⟨?_,by simp⟩
    cases hours : node.ours with
    | absent =>
      simp only [hours] at told
      exact told.refines K e
    | pending | dropped =>
      simp only [hours] at told
      exact told.others.refines K e
    | mined =>
      simp only [hours] at told
      exact told.1.refines.2.2 e

/-- While the adapter waits for a lookup, no transaction of others changes what the lookups say. -/
def Undisturbed (hist : List (State H × Event)) : Prop :=
  ∀ s other sender v next,(s,Event.foreign other) ∈ hist → s.phase = .planning sender v next →
    ∀ lookup : LookupView,lookup.answer (attempt exec s.node.chain other) = lookup.answer s.node.chain

end Refinement

section Prototype

def engineerAddress : String := "0x00000000000000000000000000000000000000e1"

def prototypeConfig : AdapterConfig where
  contracts := fun name => BitVec.ofNat 160 name.length
  chainId := 1
  encodeFunctionData := fun call => utf8 call.method
  network := "local"
  checksum := fun _ => engineerAddress
  devSigner := fun a => decide (a = 0xe1)
  confirmations := 2
  txTimeoutMs := 30000
  pollingIntervalMs := 1000
  one_le_confirmations := by decide
  one_le_timeout := by decide
  ten_le_interval := by decide

def jobEnvelope : Envelope :=
  ⟨.JOB_CREATE,engineerAddress,[("jobId",.string "JOB-1"),("assetId",.string "RADAR-1")]⟩

def assignEnvelope : Envelope :=
  ⟨.JOB_ASSIGN,engineerAddress,[("jobId",.string "JOB-1"),("technicianId",.string "DID:BEL:TECH-3")]⟩

/-- A job, and a technician with two wallets that are not active yet. -/
def standbyTxs : List Tx :=
  [txOf 0xad 12 (.createIdentity 0xd1 (utf8 "DID:BEL:TECH-3")),
   txOf 0xad 13 (.createIdentity 0xd2 (utf8 "DID:BEL:TECH-3")),
   txOf 0xad 14 (.assignRole 0xd1 .TECHNICIAN),txOf 0xe1 15 (.createJob (utf8 "JOB-1") 1)]

def standby : World (Option Bytes) := attemptAll exec workshop standbyTxs

def activationTxs : List Tx := [txOf 0xad 16 (.activateWallet 0xd2),txOf 0xad 17 (.activateWallet 0xd1)]

/-- The transaction is mined after the first look, and it takes a third one to see the second
confirmation. -/
def sendEvents (number : ℕ) : List Event :=
  [.answer (.simulated number number),.answer .turn,.answer (.nonce 1),.answer (.gas 90000),
   .answer (.accepted "0x01"),.answer .receipt,.mine number,.tick 1000,.answer .woken,.answer .receipt,
   .answer .head,.block,.tick 1000,.answer .woken,.answer .receipt,.answer .head]

/-- The wallets are activated when the newer one has been found inactive. -/
def slowEvents : List Event :=
  [.answer (.chainId 1),.answer .view,.answer .view]++activationTxs.map .foreign++
    .answer .view::sendEvents 18

def quietEvents : List Event := [.answer (.chainId 1),.answer .view]++sendEvents 13

end Prototype
end BelLedger.Submissions
