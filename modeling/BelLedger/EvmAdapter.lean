import BelLedger.IdentityBindings
import BelLedger.Payloads

/-!
# The chain as the services see it

A submission is planned on the state at the time of its lookups and executed on a later one: other
transactions may be mined in between. What the network and the device signature can do to it is its
fate.
-/
namespace BelLedger
open CheckedCalls TransitionRuns

/-- What the backend takes from its libraries: address parsing and `Date.parse`. -/
structure Platform where
  parseAddress : String → Option Address
  dateParse : String → Option ℤ

/-- A text that is an address has no white space around it. -/
def Platform.Strict (P : Platform) : Prop :=
  ∀ text a,P.parseAddress text = some a → Trimmed text ∧ text ≠ ""

/-- The transaction envelope, without the identifiers and times that no modelled function reads. -/
structure Envelope where
  type : TransactionType
  actorWallet : String
  payload : Payload
  deriving DecidableEq

inductive Fate
  /-- Not executed: the node cannot be reached, refuses the signature or the simulation, or drops
  the transaction. The caller gets an exception or a rejection. -/
  | dropped (report : Except BlockchainError Revert)
  /-- Executed, and the outcome is reported. -/
  | mined
  /-- Executed, but the caller gets an exception. -/
  | lost (error : BlockchainError)

def Fate.Lost : Fate → Prop
  | .lost _ => True
  | _ => False

instance Fate.Lost.decidable : (fate : Fate) → Decidable fate.Lost
  | .lost _ => isTrue trivial
  | .dropped _ => isFalse id
  | .mined => isFalse id

structure Delivery where
  interference : List Tx
  timestamp : ℕ
  number : ℕ
  chainid : ℕ
  fate : Fate

inductive SubmitStatus
  | SUCCESS
  | REJECTED (revert : Revert)
  deriving DecidableEq

/-- What the services throw. `Rejected` stands for the message that quotes the decoded revert. -/
inductive ServiceError
  | ValidationError (errors : List String)
  | NotFoundError (message : String)
  | UnauthorizedError (message : String)
  | ForbiddenError (message : String)
  | ConflictError (message : String)
  | Error (message : String)
  | Blockchain (error : BlockchainError)
  | Rejected (type : TransactionType) (revert : Revert)
  deriving DecidableEq

namespace EvmAdapter

variable {H : Type} [Keccak H] [DecidableEq H]

/-- The lookups of `plan`; the newest wallet of an identity comes first. -/
def lookups (w : World H) : ChainLookups :=
  { nftIdOf := fun assetId => AssetRegistry.nftIdOf w.assets (utf8 assetId)
    walletOfIdentity := fun did requireActive =>
      (IdentityRegistry.walletsOf w.identity (utf8 did)).reverse.find?
        (fun wallet => !requireActive || IdentityRegistry.isActiveWallet w.identity wallet) }

/-- `encodeFunctionData` refuses a JavaScript number that is not a safe integer. -/
def encodable : Call → Bool
  | .setTransferGrant _ _ expiresAt _ _ => decide ((expiresAt : ℤ) ≤ Payloads.MAX_SAFE_INTEGER)
  | _ => true

def plan (P : Platform) (w : World H) (tx : Envelope) : Except BlockchainError Call := do
  let call ← Payloads.buildCallPlan P.parseAddress P.dateParse tx.type tx.payload (lookups w)
  if encodable call then pure call else .error ⟨.INVALID_PAYLOAD,"overflow"⟩

def actorWallet (P : Platform) (tx : Envelope) : Except BlockchainError Address :=
  match P.parseAddress tx.actorWallet with
  | some a => .ok a
  | none => .error ⟨.INVALID_PAYLOAD,tx.type.name++": actorWallet must be an EVM address"⟩

/-- The envelope as a transaction: from whom, and which call. -/
def prepare (P : Platform) (w : World H) (tx : Envelope) (d : Delivery) :
    Except BlockchainError Tx := do
  let sender ← actorWallet P tx
  let call ← plan P w tx
  pure ⟨⟨sender,d.timestamp,d.number,d.chainid⟩,call⟩

omit [DecidableEq H] in
theorem prepare_call {P : Platform} {w : World H} {e : Envelope} {d : Delivery} {tx : Tx}
    (h : prepare P w e d = .ok tx) :
    Payloads.buildCallPlan P.parseAddress P.dateParse e.type e.payload (lookups w) = .ok tx.call := by
  obtain ⟨sender,-,h⟩ := ok_bind_iff.mp h
  obtain ⟨call,hplan,h⟩ := ok_bind_iff.mp h
  obtain ⟨call',hbuild,hencode⟩ := ok_bind_iff.mp hplan
  obtain rfl := ok_pure_iff.mp h
  split at hencode
  · obtain rfl := ok_pure_iff.mp hencode
    exact hbuild
  · cases hencode

omit [DecidableEq H] in
theorem prepare_number {P : Platform} {w : World H} {e : Envelope} {d : Delivery} {tx : Tx}
    (h : prepare P w e d = .ok tx) : tx.env.number = d.number := by
  obtain ⟨sender,-,h⟩ := ok_bind_iff.mp h
  obtain ⟨call,-,h⟩ := ok_bind_iff.mp h
  obtain rfl := ok_pure_iff.mp h
  rfl

omit [DecidableEq H] in
theorem prepare_sender {P : Platform} {w : World H} {e : Envelope} {d : Delivery} {tx : Tx}
    (h : prepare P w e d = .ok tx) : P.parseAddress e.actorWallet = some tx.env.sender := by
  obtain ⟨sender,hsender,h⟩ := ok_bind_iff.mp h
  obtain ⟨call,-,h⟩ := ok_bind_iff.mp h
  obtain rfl := ok_pure_iff.mp h
  unfold actorWallet at hsender
  split at hsender
  · rename_i a ha
    rw [ha,Except.ok.inj hsender]
  · cases hsender

omit [DecidableEq H] in
theorem prepare_eq_ok {P : Platform} {w : World H} {e : Envelope} {a : Address} {call : Call}
    (hsender : P.parseAddress e.actorWallet = some a)
    (hbuild : Payloads.buildCallPlan P.parseAddress P.dateParse e.type e.payload (lookups w) =
      .ok call) (hencode : encodable call = true) (d : Delivery) :
    prepare P w e d = .ok ⟨⟨a,d.timestamp,d.number,d.chainid⟩,call⟩ := by
  have hactor : actorWallet P e = .ok a := by
    unfold actorWallet
    rw [hsender]
  have hplan : plan P w e = .ok call := by
    unfold plan
    rw [hbuild]
    exact if_pos hencode
  exact ok_bind_iff.mpr ⟨a,hactor,ok_bind_iff.mpr ⟨call,hplan,rfl⟩⟩

omit [DecidableEq H] in
/-- Resolving a DID to a wallet and looking the wallet's DID up again gives the DID back. -/
theorem lookups_did (hinj : Function.Injective (keccak256 : Bytes → H)) {w : World H}
    (hi : IdentityInvariant w.identity) {did : String} {requireActive : Bool} {wallet : Address}
    (h : (lookups w).walletOfIdentity did requireActive = some wallet) :
    (w.identity.wallets wallet).status ≠ .NONE ∧
      IdentityRegistry.identityOf w.identity wallet = utf8 did := by
  have hmem : wallet ∈ w.identity.walletsOfIdentity (keccak256 (utf8 did)) := by
    have hfound := List.mem_of_find?_eq_some h
    rwa [List.mem_reverse] at hfound
  obtain ⟨hregistered,hkey⟩ := hi.member _ wallet hmem
  refine ⟨hregistered,hinj ?_⟩
  have hlen := (hi.identityOf_length hregistered).1
  rw [← hkey]
  exact hi.did_key _ hlen

def submitTransaction (P : Platform) (w : World H) (tx : Envelope) (d : Delivery) :
    World H × Except BlockchainError SubmitStatus :=
  match prepare P w tx d with
  | .error e => (w,.error e)
  | .ok call =>
    let w' := attemptAll exec w d.interference
    match d.fate with
    | .dropped (.error e) => (w',.error e)
    | .dropped (.ok revert) => (w',.ok (.REJECTED revert))
    | .mined =>
      match exec w' call with
      | .ok w'' => (w'',.ok .SUCCESS)
      | .error revert => (w',.ok (.REJECTED revert))
    | .lost e => (attempt exec w' call,.error e)

/-- A planned transaction that is mined at once and does not revert. -/
theorem submitTransaction_mined {P : Platform} {w w' : World H} {e : Envelope} {d : Delivery}
    {tx : Tx} (hprepare : prepare P w e d = .ok tx) (hquiet : d.interference = [])
    (hfate : d.fate = .mined) (hexec : exec w tx = .ok w') :
    submitTransaction P w e d = (w',.ok .SUCCESS) := by
  unfold submitTransaction
  rw [hprepare]
  simp only [hquiet,hfate]
  rw [show attemptAll exec w [] = w from rfl,hexec]

/-- A submission that reports success has been executed. -/
theorem submitTransaction_success {P : Platform} {w w' : World H} {tx : Envelope} {d : Delivery}
    (h : submitTransaction P w tx d = (w',.ok .SUCCESS)) :
    ∃ call,d.fate = .mined ∧ prepare P w tx d = .ok call ∧
      exec (attemptAll exec w d.interference) call = .ok w' := by
  unfold submitTransaction at h
  cases hp : prepare P w tx d with
  | error e => simp [hp] at h
  | ok call =>
    simp only [hp] at h
    refine ⟨call,?_⟩
    split at h
    · simp at h
    · simp at h
    · rename_i hfate
      split at h
      · rename_i w'' hexec
        simp only [Prod.mk.injEq,and_true] at h
        exact ⟨hfate,rfl,by rw [hexec,h]⟩
      · simp at h
    · simp at h

/-- A submission that reports anything else leaves the chain to the others, unless it is lost. -/
theorem submitTransaction_failure {P : Platform} {w w' : World H} {tx : Envelope} {d : Delivery}
    {r : Except BlockchainError SubmitStatus} (h : submitTransaction P w tx d = (w',r))
    (hr : r ≠ .ok .SUCCESS) :
    (w' = w ∨ w' = attemptAll exec w d.interference) ∨
      ∃ call,d.fate.Lost ∧ prepare P w tx d = .ok call ∧
        exec (attemptAll exec w d.interference) call = .ok w' := by
  unfold submitTransaction at h
  cases hp : prepare P w tx d with
  | error e =>
    simp only [hp,Prod.mk.injEq] at h
    exact .inl (.inl h.1.symm)
  | ok call =>
    simp only [hp] at h
    split at h
    · exact .inl (.inr (Prod.mk.inj h).1.symm)
    · exact .inl (.inr (Prod.mk.inj h).1.symm)
    · split at h
      · exact absurd (Prod.mk.inj h).2.symm hr
      · exact .inl (.inr (Prod.mk.inj h).1.symm)
    · rename_i e hfate
      have hchain : attempt exec (attemptAll exec w d.interference) call = w' := (Prod.mk.inj h).1
      unfold attempt at hchain
      cases hexec : exec (attemptAll exec w d.interference) call with
      | ok t =>
        rw [hexec] at hchain
        exact .inr ⟨call,by rw [hfate]; trivial,rfl,by rw [hexec,← hchain]⟩
      | error e =>
        rw [hexec] at hchain
        exact .inl (.inr hchain.symm)

/-- Whatever comes of a submission, the chain has gone on from where it was. -/
theorem submitTransaction_run (P : Platform) (w : World H) (tx : Envelope) (d : Delivery) :
    ∃ hist,Run exec w hist (submitTransaction P w tx d).1 := by
  cases hsubmit : submitTransaction P w tx d with
  | mk w' result =>
    by_cases hr : result = .ok .SUCCESS
    · rw [hr] at hsubmit
      obtain ⟨call,-,-,hexec⟩ := submitTransaction_success hsubmit
      exact ⟨_,.step call (Run.attemptAll w d.interference) hexec⟩
    · rcases submitTransaction_failure hsubmit hr with (rfl | rfl) | ⟨call,-,-,hexec⟩
      · exact ⟨[],.refl⟩
      · exact ⟨_,Run.attemptAll w d.interference⟩
      · exact ⟨_,.step call (Run.attemptAll w d.interference) hexec⟩

end EvmAdapter

section Reachability
variable {H : Type} [Keccak H] [DecidableEq H]

theorem Reachable.attempt {w : World H} (h : Reachable w) (tx : Tx) :
    Reachable (attempt exec w tx) := by
  unfold TransitionRuns.attempt
  cases hs : exec w tx with
  | ok t => exact h.step hs
  | error e => exact h

theorem Reachable.attemptAll {w : World H} (h : Reachable w) (txs : List Tx) :
    Reachable (attemptAll exec w txs) := by
  induction txs generalizing w with
  | nil => exact h
  | cons tx txs ih => exact ih (h.attempt tx)

/-- A relation that one attempt respects holds between the ends of several attempts. -/
theorem Reachable.attemptAll_related {R : World H → World H → Prop}
    (hrefl : ∀ w,Reachable w → R w w) (htrans : ∀ u v w,R u v → R v w → R u w) {w : World H}
    (h : Reachable w) {txs : List Tx}
    (hstep : ∀ tx ∈ txs,∀ u,Reachable u → R u (TransitionRuns.attempt exec u tx)) :
    R w (TransitionRuns.attemptAll exec w txs) := by
  induction txs generalizing w with
  | nil => exact hrefl w h
  | cons tx txs ih =>
    have hfirst := hstep tx List.mem_cons_self w h
    have hrest := ih (h.attempt tx) (fun tx' htx' => hstep tx' (List.mem_cons_of_mem tx htx'))
    exact htrans _ _ _ hfirst hrest

/-- What every one of some successful transactions leaves alone, all of them leave alone. -/
theorem Reachable.attemptAll_eq {β : Type} {f : World H → β} {w : World H} (h : Reachable w)
    {txs : List Tx}
    (hkeep : ∀ tx ∈ txs,∀ u u' : World H,Reachable u → exec u tx = .ok u' → f u' = f u) :
    f (TransitionRuns.attemptAll exec w txs) = f w := by
  refine h.attemptAll_related (R := fun u v => f v = f u) (fun _ _ => rfl)
    (fun _ _ _ huv hvw => Eq.trans hvw huv) ?_
  intro tx htx u hu
  unfold TransitionRuns.attempt
  cases hs : exec u tx with
  | ok u' => exact hkeep tx htx u u' hu hs
  | error e => rfl

end Reachability

section Prototype

/-- The addresses in lower case, which carry no checksum. -/
def prototypePlatform : Platform :=
  { parseAddress := fun text =>
      match text.toList with
      | '0' :: 'x' :: digits =>
        if digits.length = 40 ∧ digits.all (fun c => isHexDigit c && !c.isUpper) then
          some (BitVec.ofNat 160 (hexValue digits))
        else none
      | _ => none
    dateParse := fun _ => none }

theorem prototypePlatform_strict : prototypePlatform.Strict := by
  intro text a ha
  simp only [prototypePlatform] at ha
  split at ha
  · rename_i digits htext
    split at ha
    · rename_i hdigits
      refine ⟨trimmed_of_no_space ?_,?_⟩
      · intro c hc
        rw [htext] at hc
        rcases List.mem_cons.mp hc with rfl | hc
        · decide
        rcases List.mem_cons.mp hc with rfl | hc
        · decide
        · have hdigit := List.all_eq_true.mp hdigits.2 c hc
          rw [Bool.and_eq_true] at hdigit
          exact isJsSpace_of_isHexDigit hdigit.1
      · rintro rfl
        cases htext
    · cases ha
  · cases ha

/-- An engineer, two technicians and an asset. -/
def workshopTxs : List Tx :=
  [txOf 0xad 2 (.createIdentity 0xe1 (utf8 "DID:BEL:ENG")),
   txOf 0xad 3 (.activateWallet 0xe1),
   txOf 0xad 4 (.assignRole 0xe1 .ENGINEER),
   txOf 0xad 5 (.createIdentity 0xc1 (utf8 "DID:BEL:TECH-1")),
   txOf 0xad 6 (.activateWallet 0xc1),
   txOf 0xad 7 (.assignRole 0xc1 .TECHNICIAN),
   txOf 0xad 8 (.createIdentity 0xc2 (utf8 "DID:BEL:TECH-2")),
   txOf 0xad 9 (.activateWallet 0xc2),
   txOf 0xad 10 (.assignRole 0xc2 .TECHNICIAN),
   txOf 0xad 11 (.mintAsset (utf8 "RADAR-1") 0xad)]

def workshop : World (Option Bytes) := attemptAll exec prototypeWorld workshopTxs

theorem workshop_reachable : Reachable workshop := prototype_reachable workshopTxs

end Prototype
end BelLedger
