import BelLedger.PlanLookups

/-!
# Submissions

`submitTransactionDetailed` waits for one answer after the other, and the chain goes on in between.
-/
namespace BelLedger.Submissions
open CheckedCalls TransitionRuns EffectPrograms

/-- What ethers throws when a request fails: its code and its message. -/
structure TransportError where
  code : String
  message : String

def classifyError (e : TransportError) (context : String) : BlockchainError :=
  if e.code = "TIMEOUT" then ⟨.TIMEOUT,context++": timed out"⟩
  else ⟨.NETWORK,context++": "++(e.message.splitOn "\n").headD ""⟩

/-- The rest of the configuration of the adapter, with the bounds that `loadChainConfigFromEnv` checks. -/
structure AdapterConfig extends EvmChainConfig where
  network : String
  checksum : Address → String
  devSigner : Address → Bool
  confirmations : ℕ
  txTimeoutMs : ℕ
  pollingIntervalMs : ℕ
  one_le_confirmations : 1 ≤ confirmations
  one_le_timeout : 1 ≤ txTimeoutMs
  ten_le_interval : 10 ≤ pollingIntervalMs

/-- The signature of an envelope; a raw transaction may not parse. -/
inductive Signature
  | development
  | raw (parsed : Option SignedTransaction)

/-- A revert that the adapter has decoded, or that it knows from the receipt only. -/
inductive DecodedRevert
  | decoded (revert : Revert)
  | ExecutionReverted
  deriving DecidableEq

inductive SubmitResult
  | SUCCESS (hash : String) (blockNumber : ℕ)
  | REJECTED (revert : DecodedRevert)
  deriving DecidableEq

structure Receipt where
  blockNumber : ℕ
  status : Bool

/-- What the node says about a transaction that it knows. -/
structure TransactionResponse where
  blockNumber : Option ℕ
  sender : Address
  nonce : ℕ

/-- What has become of the submitted transaction at the node. -/
inductive Ours
  | absent
  | pending (sender : Address) (call : Call)
  | dropped (sender : Address) (call : Call)
  | mined (sender : Address) (call : Call) (receipt : Receipt)

structure Node (H : Type) where
  chain : World H
  head : ℕ
  clock : ℕ
  ours : Ours

/-- The arguments of `waitForReceipt` that depend on the submission. -/
structure Waiting where
  hash : String
  deadline : ℕ

/-- What a transaction waits for before it is sent. The stages in the middle are those of `sendAs`. -/
inductive Stage
  | simulating
  | queued
  | readingNonce
  | estimatingGas
  | broadcasting

/-- What the adapter waits for. -/
inductive Phase
  | checkingNetwork (sender : Address)
  | planning (sender : Address) (v : LookupView) (next : v.Answer → LookupProgram Call)
  | sending (stage : Stage) (sender : Address) (call : Call)
  | looking (x : Waiting)
  | counting (x : Waiting) (receipt : Receipt)
  | sleeping (x : Waiting) (wake : ℕ)
  | diagnosing (x : Waiting)
  | comparing (x : Waiting) (t : TransactionResponse)
  | done (result : Except BlockchainError SubmitResult)

def Phase.result : Phase → Option (Except BlockchainError SubmitResult)
  | done result => some result
  | _ => none

theorem Phase.result_eq_some {phase : Phase} {r : Except BlockchainError SubmitResult} :
    phase.result = some r ↔ phase = .done r := by
  cases phase <;> simp [result]

structure State (H : Type) where
  phase : Phase
  node : Node H

inductive Answer
  | chainId (id : ℕ)
  /-- To the view call that the adapter waits for. -/
  | view
  /-- `eth_call` in a block of this time and number. -/
  | simulated (timestamp number : ℕ)
  /-- The queue of the wallet has come to this transaction. -/
  | turn
  | nonce (count : ℕ)
  | gas (estimate : ℕ)
  | accepted (hash : String)
  | refused (revert : Revert)
  /-- The node has the transaction, but its answer is lost. -/
  | lost (e : TransportError)
  | receipt
  | head
  | woken
  | transaction (found : Option TransactionResponse)
  | failed (e : TransportError)

inductive Event
  | answer (a : Answer)
  /-- Somebody else's transaction. -/
  | foreign (tx : Tx)
  | block
  | mine (timestamp : ℕ)
  | drop
  | tick (ms : ℕ)

variable {H : Type} [Keccak H] [DecidableEq H]

section Adapter
variable (P : Platform) (config : AdapterConfig) (tx : Envelope) (signature : Signature)

/-- `Signed transaction rejected` for a raw transaction, `signerFor` for the development path. -/
def authorise (prepared : PreparedTransaction) : Except BlockchainError Unit :=
  match signature with
  | .development =>
    revertIf (config.devSigner prepared.sender = false) ⟨.SIGNER,
      "No signature for "++config.checksum prepared.sender++
        ": submit a device-signed raw transaction in tx.signature (see prepareTransaction)"⟩
  | .raw none => .error ⟨.SIGNER,"Invalid device-signed raw transaction in tx.signature"⟩
  | .raw (some raw) => EvmAdapter.verifySignedTransaction raw prepared

/-- The next lookup, or after the last one the simulation of an authorised call. -/
def planned (sender : Address) : LookupProgram Call → Phase
  | .done (.error e) => .done (.error e)
  | .done (.ok call) =>
    match authorise config signature (EvmAdapter.fields config.toEvmChainConfig sender call) with
    | .error e => .done (.error e)
    | .ok _ => .sending .simulating sender call
  | .call v next => .planning sender v next

/-- Our transaction in a block. -/
def txIn (sender : Address) (call : Call) (timestamp number : ℕ) : Tx :=
  ⟨⟨sender,timestamp,number,config.chainId⟩,call⟩

/-- A raw transaction is broadcast at once. -/
def firstStage : Stage :=
  match signature with
  | .development => .queued
  | .raw _ => .broadcasting

/-- `awaitResult` with a receipt. -/
def finish (x : Waiting) (receipt : Receipt) : SubmitResult :=
  if receipt.status then .SUCCESS x.hash receipt.blockNumber else .REJECTED .ExecutionReverted

/-- `awaitResult` without a receipt. -/
def noReceipt (x : Waiting) (why : String) : BlockchainError :=
  ⟨.TIMEOUT,"No receipt for "++tx.type.name++" ("++x.hash++") within "++toString config.txTimeoutMs++
    "ms: "++why⟩

/-- The end of a turn of the loop in `waitForReceipt`. -/
def wait (x : Waiting) (now : ℕ) : Phase :=
  if x.deadline ≤ now then .diagnosing x
  else .sleeping x (now + min config.pollingIntervalMs (max 1 (x.deadline - now)))

/-- What `diagnoseMissingReceipt` says of a pending transaction. -/
def pendingSince (t : TransactionResponse) (next : ℕ) : String :=
  if next < t.nonce then
    "still pending with nonce "++toString t.nonce++", but "++config.checksum t.sender++
      " has only mined up to nonce "++toString ((next : ℤ) - 1)++
      " (nonce gap: an earlier transaction is missing)"
  else "still pending with nonce "++toString t.nonce++
    " (not yet included in a block; is the chain producing blocks?)"

/-- What the adapter does with an answer. One that it does not wait for cannot come. -/
def proceed (s : State H) (a : Answer) : Except Unit (State H) :=
  let next (phase : Phase) : Except Unit (State H) := .ok { s with phase }
  let throws (e : BlockchainError) : Except Unit (State H) := next (.done (.error e))
  let rejects (revert : Revert) : Except Unit (State H) :=
    next (.done (.ok (.REJECTED (.decoded revert))))
  let sent (sender : Address) (call : Call) (phase : Phase) : Except Unit (State H) :=
    .ok ⟨phase,{ s.node with ours := .pending sender call }⟩
  match s.phase,a with
  | .checkingNetwork sender,.chainId id =>
    if id = config.chainId then next (planned config signature sender (LookupProgram.plan P tx))
    else throws ⟨.CONFIG,"RPC chainId "++toString id++" does not match deployment \""++config.network++
      "\" (chainId "++toString config.chainId++")"⟩
  | .checkingNetwork _,.failed e => throws (classifyError e "Cannot reach blockchain RPC")
  | .planning sender v rest,.view =>
    next (planned config signature sender (rest (v.answer s.node.chain)))
  | .planning _ _ _,.failed e => throws (classifyError e "Blockchain read failed")
  | .sending .simulating sender call,.simulated timestamp number =>
    match exec s.node.chain (txIn config sender call timestamp number) with
    | .ok _ => next (.sending (firstStage signature) sender call)
    | .error revert => rejects revert
  | .sending .simulating _ call,.failed e =>
    throws (classifyError e ("Simulating "++call.method++" failed"))
  | .sending .queued sender call,.turn => next (.sending .readingNonce sender call)
  | .sending .readingNonce sender call,.nonce _ => next (.sending .estimatingGas sender call)
  | .sending .estimatingGas sender call,.gas _ => next (.sending .broadcasting sender call)
  | .sending .broadcasting sender call,.accepted hash =>
    sent sender call (.looking ⟨hash,s.node.clock + config.txTimeoutMs⟩)
  | .sending .broadcasting sender call,.lost e =>
    sent sender call (.done (.error (classifyError e (tx.type.name++" submission failed"))))
  | .sending .readingNonce _ _,.refused revert | .sending .estimatingGas _ _,.refused revert
  | .sending .broadcasting _ _,.refused revert => rejects revert
  | .sending .readingNonce _ _,.failed e | .sending .estimatingGas _ _,.failed e
  | .sending .broadcasting _ _,.failed e =>
    throws (classifyError e (tx.type.name++" submission failed"))
  | .looking x,.receipt =>
    match s.node.ours with
    | .mined _ _ receipt =>
      if config.confirmations ≤ 1 then next (.done (.ok (finish x receipt)))
      else next (.counting x receipt)
    | _ => next (wait config x s.node.clock)
  | .counting x receipt,.head =>
    if (config.confirmations : ℤ) ≤ s.node.head - receipt.blockNumber + 1 then
      next (.done (.ok (finish x receipt)))
    else next (wait config x s.node.clock)
  | .looking x,.failed e | .counting x _,.failed e =>
    throws (classifyError e ("Waiting for "++tx.type.name++" ("++x.hash++")"))
  | .sleeping x wake,.woken => if wake ≤ s.node.clock then next (.looking x) else .error ()
  | .diagnosing x,.transaction none => throws (noReceipt config tx x
      "the node does not know this transaction (dropped or never broadcast)")
  | .diagnosing x,.transaction (some t) =>
    match t.blockNumber with
    | some number => throws (noReceipt config tx x
        ("mined in block "++toString number++" but the receipt was not returned in time"))
    | none => next (.comparing x t)
  | .comparing x t,.nonce count => throws (noReceipt config tx x (pendingSince config t count))
  | .diagnosing x,.failed _ | .comparing x _,.failed _ =>
    throws (noReceipt config tx x "could not query the node for details")
  | _,_ => .error ()

def step (s : State H) (event : Event) : Except Unit (State H) :=
  match event,s.node.ours with
  | .answer a,_ => proceed P config tx signature s a
  | .foreign other,_ => .ok { s with node := { s.node with chain := attempt exec s.node.chain other } }
  | .block,_ => .ok { s with node := { s.node with head := s.node.head + 1 } }
  | .tick ms,_ => .ok { s with node := { s.node with clock := s.node.clock + ms } }
  | .drop,.pending sender call => .ok { s with node := { s.node with ours := .dropped sender call } }
  | .mine timestamp,.pending sender call =>
    let number := s.node.head + 1
    let outcome := exec s.node.chain (txIn config sender call timestamp number)
    .ok { s with node := { s.node with
      chain := attempt exec s.node.chain (txIn config sender call timestamp number)
      head := number
      ours := .mined sender call ⟨number,outcome.toOption.isSome⟩ } }
  | _,_ => .error ()

/-- Before any request to the node, the wallet of the envelope is checked. The network has to be
checked unless an earlier call has done so. -/
def start (networkChecked : Bool) (node : Node H) : State H :=
  match EvmAdapter.actorWallet P tx with
  | .error e => ⟨.done (.error e),node⟩
  | .ok sender =>
    if networkChecked then ⟨planned config signature sender (LookupProgram.plan P tx),node⟩
    else ⟨.checkingNetwork sender,node⟩

/-- The state after some events; those that cannot happen do not. -/
def submission (networkChecked : Bool) (node : Node H) (events : List Event) : State H :=
  attemptAll (step P config tx signature) (start P config tx signature networkChecked node) events

/-- What an answer can lead to. -/
inductive Proceeds : State H → Answer → State H → Prop
  | throws {phase : Phase} {node : Node H} (a : Answer) (e : BlockchainError)
      (hphase : ∀ r,phase ≠ .done r) : Proceeds ⟨phase,node⟩ a ⟨.done (.error e),node⟩
  | connected {node : Node H} (sender : Address) :
      Proceeds ⟨.checkingNetwork sender,node⟩ (.chainId config.chainId)
        ⟨planned config signature sender (LookupProgram.plan P tx),node⟩
  | viewed {node : Node H} (sender : Address) (v : LookupView) (next : v.Answer → LookupProgram Call) :
      Proceeds ⟨.planning sender v next,node⟩ .view
        ⟨planned config signature sender (next (v.answer node.chain)),node⟩
  | simulated {node : Node H} (sender : Address) (call : Call) (timestamp number : ℕ) :
      Proceeds ⟨.sending .simulating sender call,node⟩ (.simulated timestamp number)
        ⟨.sending (firstStage signature) sender call,node⟩
  | turned {node : Node H} (sender : Address) (call : Call) :
      Proceeds ⟨.sending .queued sender call,node⟩ .turn ⟨.sending .readingNonce sender call,node⟩
  | counted {node : Node H} (sender : Address) (call : Call) (count : ℕ) :
      Proceeds ⟨.sending .readingNonce sender call,node⟩ (.nonce count)
        ⟨.sending .estimatingGas sender call,node⟩
  | estimated {node : Node H} (sender : Address) (call : Call) (estimate : ℕ) :
      Proceeds ⟨.sending .estimatingGas sender call,node⟩ (.gas estimate)
        ⟨.sending .broadcasting sender call,node⟩
  | rejects {node : Node H} (stage : Stage) (sender : Address) (call : Call) (a : Answer)
      (revert : Revert) :
      Proceeds ⟨.sending stage sender call,node⟩ a ⟨.done (.ok (.REJECTED (.decoded revert))),node⟩
  | accepted {node : Node H} (sender : Address) (call : Call) (hash : String) :
      Proceeds ⟨.sending .broadcasting sender call,node⟩ (.accepted hash)
        ⟨.looking ⟨hash,node.clock + config.txTimeoutMs⟩,{ node with ours := .pending sender call }⟩
  | lost {node : Node H} (sender : Address) (call : Call) (e : TransportError) (e' : BlockchainError) :
      Proceeds ⟨.sending .broadcasting sender call,node⟩ (.lost e)
        ⟨.done (.error e'),{ node with ours := .pending sender call }⟩
  | received {node : Node H} {sender : Address} {call : Call} {receipt : Receipt} (x : Waiting)
      (hours : node.ours = .mined sender call receipt) (hone : config.confirmations ≤ 1) :
      Proceeds ⟨.looking x,node⟩ .receipt ⟨.done (.ok (finish x receipt)),node⟩
  | found {node : Node H} {sender : Address} {call : Call} {receipt : Receipt} (x : Waiting)
      (hours : node.ours = .mined sender call receipt) :
      Proceeds ⟨.looking x,node⟩ .receipt ⟨.counting x receipt,node⟩
  | missing {node : Node H} (x : Waiting) :
      Proceeds ⟨.looking x,node⟩ .receipt ⟨wait config x node.clock,node⟩
  | confirmed {node : Node H} {receipt : Receipt} (x : Waiting)
      (hconfirmed : (config.confirmations : ℤ) ≤ node.head - receipt.blockNumber + 1) :
      Proceeds ⟨.counting x receipt,node⟩ .head ⟨.done (.ok (finish x receipt)),node⟩
  | unconfirmed {node : Node H} {receipt : Receipt} (x : Waiting) :
      Proceeds ⟨.counting x receipt,node⟩ .head ⟨wait config x node.clock,node⟩
  | woken {node : Node H} {wake : ℕ} (x : Waiting) (hwake : wake ≤ node.clock) :
      Proceeds ⟨.sleeping x wake,node⟩ .woken ⟨.looking x,node⟩
  | known {node : Node H} (x : Waiting) (t : TransactionResponse) :
      Proceeds ⟨.diagnosing x,node⟩ (.transaction (some t)) ⟨.comparing x t,node⟩

theorem planned_cases (sender : Address) (rest : LookupProgram Call) :
    (∃ e,planned config signature sender rest = .done (.error e)) ∨
    (∃ call,rest = .done (.ok call) ∧
      planned config signature sender rest = .sending .simulating sender call) ∨
    ∃ v next,rest = .call v next ∧
      planned config signature sender rest = .planning sender v next := by
  cases rest with
  | done result =>
    cases result with
    | error e => exact .inl ⟨e,rfl⟩
    | ok call =>
      cases hauthorised : authorise config signature
          (EvmAdapter.fields config.toEvmChainConfig sender call) with
      | error e => exact .inl ⟨e,by simp only [planned,hauthorised]⟩
      | ok u => exact .inr (.inl ⟨call,rfl,by simp only [planned,hauthorised]⟩)
  | call v next => exact .inr (.inr ⟨v,next,rfl,rfl⟩)

variable {P config tx signature} in
theorem proceed_cases {s s' : State H} {a : Answer}
    (h : proceed P config tx signature s a = .ok s') : Proceeds P config tx signature s a s' := by
  obtain ⟨phase,node⟩ := s
  unfold proceed at h
  dsimp only at h
  split at h
  · split at h
    · rename_i hid
      obtain rfl := hid
      obtain rfl := Except.ok.inj h
      exact .connected _
    · obtain rfl := Except.ok.inj h
      exact .throws _ _ (by simp)
  · obtain rfl := Except.ok.inj h
    exact .throws _ _ (by simp)
  · obtain rfl := Except.ok.inj h
    exact .viewed _ _ _
  · obtain rfl := Except.ok.inj h
    exact .throws _ _ (by simp)
  · split at h
    · obtain rfl := Except.ok.inj h
      exact .simulated _ _ _ _
    · obtain rfl := Except.ok.inj h
      exact .rejects _ _ _ _ _
  · obtain rfl := Except.ok.inj h
    exact .throws _ _ (by simp)
  · obtain rfl := Except.ok.inj h
    exact .turned _ _
  · obtain rfl := Except.ok.inj h
    exact .counted _ _ _
  · obtain rfl := Except.ok.inj h
    exact .estimated _ _ _
  · obtain rfl := Except.ok.inj h
    exact .accepted _ _ _
  · obtain rfl := Except.ok.inj h
    exact .lost _ _ _ _
  · obtain rfl := Except.ok.inj h
    exact .rejects _ _ _ _ _
  · obtain rfl := Except.ok.inj h
    exact .rejects _ _ _ _ _
  · obtain rfl := Except.ok.inj h
    exact .rejects _ _ _ _ _
  · obtain rfl := Except.ok.inj h
    exact .throws _ _ (by simp)
  · obtain rfl := Except.ok.inj h
    exact .throws _ _ (by simp)
  · obtain rfl := Except.ok.inj h
    exact .throws _ _ (by simp)
  · split at h
    · rename_i hours
      split at h
      · rename_i hone
        obtain rfl := Except.ok.inj h
        exact .received _ hours hone
      · obtain rfl := Except.ok.inj h
        exact .found _ hours
    · obtain rfl := Except.ok.inj h
      exact .missing _
  · split at h
    · rename_i hconfirmed
      obtain rfl := Except.ok.inj h
      exact .confirmed _ hconfirmed
    · obtain rfl := Except.ok.inj h
      exact .unconfirmed _
  · obtain rfl := Except.ok.inj h
    exact .throws _ _ (by simp)
  · obtain rfl := Except.ok.inj h
    exact .throws _ _ (by simp)
  · split at h
    · rename_i hwake
      obtain rfl := Except.ok.inj h
      exact .woken _ hwake
    · cases h
  · obtain rfl := Except.ok.inj h
    exact .throws _ _ (by simp)
  · split at h
    · obtain rfl := Except.ok.inj h
      exact .throws _ _ (by simp)
    · obtain rfl := Except.ok.inj h
      exact .known _ _
  · obtain rfl := Except.ok.inj h
    exact .throws _ _ (by simp)
  · obtain rfl := Except.ok.inj h
    exact .throws _ _ (by simp)
  · obtain rfl := Except.ok.inj h
    exact .throws _ _ (by simp)
  · cases h

end Adapter
end BelLedger.Submissions
