import BelLedger.EffectPrograms
import BelLedger.SignedTransactions

/-!
# The lookups of a plan

`EvmBlockchainAdapter.plan` asks the contracts one view call after the other, and blocks are mined
while they are answered. When nothing that they say changes, it is the plan of one state.
-/
namespace BelLedger
open CheckedCalls TransitionRuns EffectPrograms Prog

/-- The view calls of the lookups; none of them reverts. -/
inductive LookupView
  | nftIdOf (assetId : String)
  | walletsOf (identityId : String)
  | isActiveWallet (wallet : Address)

namespace LookupView

abbrev Answer : LookupView → Type
  | nftIdOf _ => ℕ
  | walletsOf _ => List Address
  | isActiveWallet _ => Bool

def answer {H : Type} [Keccak H] (w : World H) : (v : LookupView) → v.Answer
  | nftIdOf assetId => AssetRegistry.nftIdOf w.assets (utf8 assetId)
  | walletsOf identityId => IdentityRegistry.walletsOf w.identity (utf8 identityId)
  | isActiveWallet wallet => IdentityRegistry.isActiveWallet w.identity wallet

/-- How many wallets the answer lists. -/
def listed : (v : LookupView) → v.Answer → ℕ
  | walletsOf _,wallets => wallets.length
  | _,_ => 0

end LookupView

abbrev LookupProgram (α : Type) := Prog LookupView.Answer BlockchainError α

namespace LookupProgram

/-- The first wallet that turns out to be active. -/
def firstActive : List Address → LookupProgram (Option Address)
  | [] => pure none
  | wallet::wallets => do
    if ← perform (LookupView.isActiveWallet wallet) then pure (some wallet) else firstActive wallets

/-- Newest first: replacements win. -/
def walletOfIdentity (did : String) (requireActive : Bool) : LookupProgram (Option Address) := do
  let wallets ← perform (LookupView.walletsOf did)
  if requireActive then firstActive wallets.reverse else pure wallets.reverse.head?

variable (parseAddress : String → Option Address)

def party (type : TransactionType) (p : Payload) (keys : List String) (requireActive : Bool) :
    LookupProgram Address := do
  let ref ← done (Payloads.str type p keys)
  match parseAddress ref with
  | some a => pure a
  | none =>
    match ← walletOfIdentity ref requireActive with
    | some a => pure a
    | none => done (.error ⟨.NOT_FOUND,type.name++": identity "++ref++" has no "++
        (if requireActive then "ACTIVE " else "")++"wallet on-chain"⟩)

def nftRef (type : TransactionType) (p : Payload) (idKeys nftKeys : List String) :
    LookupProgram ℕ :=
  match nftKeys.findSome? (fun k => Payloads.nftNumber (p.get k)) with
  | some n => pure n
  | none =>
    match Payloads.optionalStr p idKeys with
    | none => done (Payloads.invalid type
        (Payloads.«field» idKeys++" or "++Payloads.«field» nftKeys++" is required"))
    | some assetId => do
      let n ← perform (LookupView.nftIdOf assetId)
      if n = 0 then
        done (.error ⟨.NOT_FOUND,type.name++": asset "++assetId++" is not registered on-chain"⟩)
      else pure n

/-- Where nothing is looked up. -/
def nowhere : ChainLookups := ⟨fun _ => 0,fun _ _ => none⟩

def buildCallPlan (dateParse : String → Option ℤ) (type : TransactionType) (p : Payload) :
    LookupProgram Call :=
  match type with
  | .ROLE_ASSIGN | .ROLE_REVOKE => do
    let target ← match ← done (Payloads.optionalAddress parseAddress type p Payloads.walletKeys) with
      | some a => pure a
      | none => party parseAddress type p ["identityId"] false
    let role ← done (Payloads.roleIndex type p)
    pure (if type = .ROLE_ASSIGN then .assignRole target role else .revokeRole target role)
  | .ASSET_MINT => do
    let assetId ← done (Payloads.str type p ["assetId"])
    let owner ← party parseAddress type p ["ownerId","ownerWallet","owner"] true
    pure (.mintAsset (utf8 assetId) owner)
  | .ASSET_TRANSFER => do
    let newOwner ← done (Payloads.str type p Payloads.newOwnerKeys)
    match Payloads.optionalStr p ["newCustodianId"] with
    | some custodian =>
      if custodian ≠ newOwner then done (.error ⟨.UNSUPPORTED_TRANSACTION,
        "ASSET_TRANSFER: a custodian different from the new owner cannot be recorded on-chain "++
        "(IAssetRegistry.transferAsset moves both together)"⟩)
      else pure ()
    | none => pure ()
    let nftId ← nftRef type p ["assetId"] ["nftId"]
    let receiver ← party parseAddress type p Payloads.newOwnerKeys true
    pure (.transferAsset nftId receiver)
  | .GRANT_CREATE | .GRANT_REVOKE => do
    let _ ← done (Payloads.str type p ["actorIdentityId"])
    let grantId ← done (Payloads.str type p ["authorizationGrantId"])
    let nftId ← nftRef type p ["resourceId","assetId"] ["nftId"]
    let actor ← party parseAddress type p ["actorIdentityId"] true
    let expiresAt ← done (Payloads.grantExpiry dateParse type p)
    pure (.setTransferGrant nftId actor expiresAt (type = .GRANT_CREATE) (utf8 grantId))
  | .ASSET_STATE_CHANGE => do
    let state ← done (Payloads.str type p ["newState","status"])
    if state ∉ Payloads.ASSET_STATUSES then done (Payloads.invalid type ("unknown asset state "++state))
    else
      let nftId ← nftRef type p ["assetId"] ["nftId"]
      pure (.changeAssetState nftId (utf8 state))
  | .COMPONENT_ATTACH | .COMPONENT_REMOVE => do
    let parent ← nftRef type p ["parentAssetId"] ["parentNftId"]
    let component ← nftRef type p ["componentAssetId","componentId"] ["componentNftId"]
    pure (if type = .COMPONENT_ATTACH then .attachComponent parent component
      else .removeComponent parent component)
  | .JOB_CREATE => do
    let jobId ← done (Payloads.str type p ["jobId"])
    let assetNftId ← nftRef type p ["assetId"] ["assetNftId"]
    pure (.createJob (utf8 jobId) assetNftId)
  | .JOB_ASSIGN => do
    let jobId ← done (Payloads.str type p ["jobId"])
    let technician ←
      party parseAddress type p ["technicianId","technicianWallet","technician"] true
    pure (.assignJob (utf8 jobId) technician)
  -- the other types look nothing up
  | _ => done (Payloads.buildCallPlan parseAddress dateParse type p nowhere)

/-- `encodeFunctionData` comes after the lookups. -/
def plan (P : Platform) (tx : Envelope) : LookupProgram Call := do
  let call ← buildCallPlan P.parseAddress P.dateParse tx.type tx.payload
  if EvmAdapter.encodable call then pure call else done (.error ⟨.INVALID_PAYLOAD,"overflow"⟩)

section OneState
variable {H : Type} [Keccak H] {w : World H}

theorem evaluate_firstActive (wallets : List Address) :
    (firstActive wallets).evaluate (LookupView.answer w) =
      .ok (wallets.find? (fun wallet => IdentityRegistry.isActiveWallet w.identity wallet)) := by
  induction wallets with
  | nil => rfl
  | cons wallet wallets ih =>
    rw [firstActive,evaluate_bind,evaluate_perform,ok_bind,List.find?_cons]
    cases hactive : IdentityRegistry.isActiveWallet w.identity wallet with
    | true =>
      have hanswer : LookupView.answer w (.isActiveWallet wallet) = true := hactive
      rw [hanswer]
      rfl
    | false =>
      have hanswer : LookupView.answer w (.isActiveWallet wallet) = false := hactive
      rw [hanswer]
      exact ih

theorem evaluate_walletOfIdentity (did : String) (requireActive : Bool) :
    (walletOfIdentity did requireActive).evaluate (LookupView.answer w) =
      .ok ((EvmAdapter.lookups w).walletOfIdentity did requireActive) := by
  rw [walletOfIdentity,evaluate_bind,evaluate_perform,ok_bind]
  cases requireActive with
  | true => exact evaluate_firstActive _
  | false =>
    have hfirst : ∀ wallets : List Address,wallets.head? = wallets.find?
        (fun wallet => !false || IdentityRegistry.isActiveWallet w.identity wallet) := by
      intro wallets
      cases wallets <;> rfl
    exact congrArg Except.ok (hfirst _)

variable {parseAddress : String → Option Address} {type : TransactionType} {p : Payload}

@[simp] theorem evaluate_party (keys : List String) (requireActive : Bool) :
    (party parseAddress type p keys requireActive).evaluate (LookupView.answer w) =
      Payloads.party parseAddress type p keys (EvmAdapter.lookups w) requireActive := by
  unfold party Payloads.party
  rw [evaluate_bind,evaluate_done]
  refine bind_congr fun ref => ?_
  cases parseAddress ref with
  | some a => rfl
  | none =>
    dsimp only
    rw [evaluate_bind,evaluate_walletOfIdentity,ok_bind]
    cases (EvmAdapter.lookups w).walletOfIdentity ref requireActive <;> rfl

@[simp] theorem evaluate_nftRef (idKeys nftKeys : List String) :
    (nftRef type p idKeys nftKeys).evaluate (LookupView.answer w) =
      Payloads.nftRef type p idKeys nftKeys (EvmAdapter.lookups w) := by
  unfold nftRef Payloads.nftRef
  cases nftKeys.findSome? (fun k => Payloads.nftNumber (p.get k)) with
  | some n => rfl
  | none =>
    cases Payloads.optionalStr p idKeys with
    | none => rfl
    | some assetId =>
      dsimp only
      rw [evaluate_bind,evaluate_perform,ok_bind]
      have hanswer : LookupView.answer w (.nftIdOf assetId) =
        (EvmAdapter.lookups w).nftIdOf assetId := rfl
      rw [hanswer]
      split <;> rfl

theorem evaluate_buildCallPlan (dateParse : String → Option ℤ) :
    (buildCallPlan parseAddress dateParse type p).evaluate (LookupView.answer w) =
      Payloads.buildCallPlan parseAddress dateParse type p (EvmAdapter.lookups w) := by
  cases type with
  | ROLE_ASSIGN | ROLE_REVOKE =>
    unfold buildCallPlan Payloads.buildCallPlan
    simp only [evaluate_bind,evaluate_done]
    refine bind_congr fun target => ?_
    cases target with
    | some a =>
      simp only [evaluate_bind,evaluate_done]
      rfl
    | none =>
      simp only [evaluate_bind,evaluate_done,evaluate_party]
      rfl
  | ASSET_MINT | JOB_ASSIGN =>
    unfold buildCallPlan Payloads.buildCallPlan
    simp only [evaluate_bind,evaluate_done,evaluate_party]
    rfl
  | JOB_CREATE =>
    unfold buildCallPlan Payloads.buildCallPlan
    simp only [evaluate_bind,evaluate_done,evaluate_nftRef]
    rfl
  | COMPONENT_ATTACH | COMPONENT_REMOVE =>
    unfold buildCallPlan Payloads.buildCallPlan
    simp only [evaluate_bind,evaluate_nftRef]
    rfl
  | GRANT_CREATE | GRANT_REVOKE =>
    unfold buildCallPlan Payloads.buildCallPlan
    simp only [evaluate_bind,evaluate_done,evaluate_party,evaluate_nftRef]
    rfl
  | ASSET_TRANSFER =>
    unfold buildCallPlan Payloads.buildCallPlan
    rw [evaluate_bind,evaluate_done]
    refine bind_congr fun newOwner => ?_
    cases Payloads.optionalStr p ["newCustodianId"] with
    | none =>
      simp only [evaluate_bind,evaluate_party,evaluate_nftRef]
      rfl
    | some custodian =>
      dsimp only
      split
      · rfl
      · simp only [evaluate_bind,evaluate_party,evaluate_nftRef]
        rfl
  | ASSET_STATE_CHANGE =>
    unfold buildCallPlan Payloads.buildCallPlan
    rw [evaluate_bind,evaluate_done]
    refine bind_congr fun state => ?_
    split
    · rfl
    · rw [evaluate_bind,evaluate_nftRef]
      rfl
  | _ => rfl

/-- Answered in one state, the lookups give the plan of that state. -/
theorem evaluate_plan (P : Platform) (tx : Envelope) :
    (plan P tx).evaluate (LookupView.answer w) = EvmAdapter.plan P w tx := by
  unfold plan EvmAdapter.plan
  rw [evaluate_bind,evaluate_buildCallPlan]
  refine bind_congr fun call => ?_
  split <;> rfl

end OneState

section Bounds
variable {parseAddress : String → Option Address} {type : TransactionType} {p : Payload}

theorem affords_firstActive (wallets : List Address) :
    (firstActive wallets).Affords LookupView.listed wallets.length := by
  induction wallets with
  | nil => trivial
  | cons wallet wallets ih =>
    refine affords_perform_bind.mpr fun active => ?_
    cases active with
    | true => trivial
    | false => exact ih

theorem affords_walletOfIdentity (did : String) (requireActive : Bool) :
    (walletOfIdentity did requireActive).Affords LookupView.listed 1 := by
  refine (affords_perform_bind (n := 0)).mpr fun wallets => ?_
  cases requireActive with
  | true => exact (affords_firstActive wallets.reverse).mono (by simp [LookupView.listed])
  | false => trivial

theorem affords_party (keys : List String) (requireActive : Bool) :
    (party parseAddress type p keys requireActive).Affords LookupView.listed 1 := by
  refine affords_done_bind fun ref => ?_
  cases parseAddress ref with
  | some a => trivial
  | none =>
    refine (affords_walletOfIdentity ref requireActive).bind (n := 0) fun wallet => ?_
    cases wallet <;> trivial

theorem affords_nftRef (idKeys nftKeys : List String) :
    (nftRef type p idKeys nftKeys).Affords LookupView.listed 1 := by
  unfold nftRef
  split
  · trivial
  · split
    · trivial
    · refine (affords_perform_bind (n := 0)).mpr fun n => ?_
      split <;> trivial

/-- Two lookups, and one more for each wallet that is listed. -/
theorem affords_buildCallPlan (dateParse : String → Option ℤ) :
    (buildCallPlan parseAddress dateParse type p).Affords LookupView.listed 2 := by
  cases type with
  | ROLE_ASSIGN | ROLE_REVOKE =>
    refine affords_done_bind fun target => ?_
    cases target with
    | some a =>
      refine affords_done_bind (n := 2) fun target => affords_done_bind fun role => ?_
      trivial
    | none =>
      refine (affords_party ["identityId"] false).bind (n := 1) fun target => ?_
      refine affords_done_bind fun role => ?_
      trivial
  | ASSET_MINT | JOB_ASSIGN =>
    exact affords_done_bind fun id => (affords_party _ true).bind (n := 1) fun a => trivial
  | JOB_CREATE =>
    exact affords_done_bind fun id => (affords_nftRef _ _).bind (n := 1) fun nftId => trivial
  | COMPONENT_ATTACH | COMPONENT_REMOVE =>
    refine (affords_nftRef _ _).bind (n := 1) fun parent => ?_
    refine (affords_nftRef _ _).bind (n := 0) fun component => ?_
    trivial
  | GRANT_CREATE | GRANT_REVOKE =>
    refine affords_done_bind fun actorId => affords_done_bind fun grantId => ?_
    refine (affords_nftRef _ _).bind (n := 1) fun nftId => ?_
    refine (affords_party _ true).bind (n := 0) fun actor => ?_
    exact affords_done_bind fun expiresAt => trivial
  | ASSET_TRANSFER =>
    refine affords_done_bind fun newOwner => ?_
    split
    · split
      · trivial
      · refine (affords_nftRef _ _).bind (n := 1) fun nftId => ?_
        refine (affords_party _ true).bind (n := 0) fun receiver => ?_
        trivial
    · refine (affords_nftRef _ _).bind (n := 1) fun nftId => ?_
      refine (affords_party _ true).bind (n := 0) fun receiver => ?_
      trivial
  | ASSET_STATE_CHANGE =>
    refine affords_done_bind fun state => ?_
    split
    · trivial
    · exact (affords_nftRef _ _).bind (n := 1) fun nftId => trivial
  | _ => trivial

theorem affords_plan (P : Platform) (tx : Envelope) :
    (plan P tx).Affords LookupView.listed 2 := by
  refine (affords_buildCallPlan P.dateParse).bind (n := 0) fun call => ?_
  split <;> trivial

end Bounds
end LookupProgram

namespace EvmAdapter
variable {H : Type} [Keccak H] [DecidableEq H]

/-- What becomes of a transaction in the state that it meets. -/
def deliver (w : World H) (tx : Tx) : Fate → World H × Except BlockchainError SubmitStatus
  | .dropped (.error e) => (w,.error e)
  | .dropped (.ok revert) => (w,.ok (.REJECTED revert))
  | .mined =>
    match exec w tx with
    | .ok w' => (w',.ok .SUCCESS)
    | .error revert => (w,.ok (.REJECTED revert))
  | .lost e => (attempt exec w tx,.error e)

theorem submitTransaction_of_prepared {P : Platform} {w : World H} {e : Envelope} {d : Delivery}
    {tx : Tx} (h : prepare P w e d = .ok tx) :
    submitTransaction P w e d = deliver (attemptAll exec w d.interference) tx d.fate := by
  unfold submitTransaction
  rw [h]
  obtain ⟨interference,timestamp,number,chainid,fate⟩ := d
  cases fate with
  | dropped report => cases report <;> rfl
  | mined => rfl
  | lost e => rfl

/-- A lookup that is answered after some transactions of others. -/
def lookUp (others : List Tx) (w : World H) (v : LookupView) : World H × v.Answer :=
  (attemptAll exec w others,v.answer (attemptAll exec w others))

/-- `submitTransaction` when others have transactions mined between the lookups, too. -/
def submitMeanwhile (P : Platform) (w : World H) (tx : Envelope) (others : ℕ → List Tx)
    (d : Delivery) : World H × Except BlockchainError SubmitStatus :=
  match actorWallet P tx with
  | .error e => (w,.error e)
  | .ok sender =>
    match (LookupProgram.plan P tx).run lookUp others w with
    | (u,.error e) => (u,.error e)
    | (u,.ok planned) =>
      deliver (attemptAll exec u d.interference) ⟨⟨sender,d.timestamp,d.number,d.chainid⟩,planned⟩
        d.fate

/-- When nobody else is about, the lookups are answered in one state. -/
theorem submitMeanwhile_alone (P : Platform) (w : World H) (tx : Envelope) (d : Delivery) :
    submitMeanwhile P w tx (fun _ => []) d = submitTransaction P w tx d := by
  have hplan : (LookupProgram.plan P tx).run lookUp (fun _ => []) w = (w,plan P w tx) := by
    rw [← LookupProgram.evaluate_plan]
    exact run_evaluate (fun k v => rfl) _
  unfold submitMeanwhile
  rw [hplan]
  cases hsender : actorWallet P tx with
  | error e =>
    have hprepare : prepare P w tx d = .error e := by
      unfold prepare
      rw [hsender]
      rfl
    unfold submitTransaction
    rw [hprepare]
  | ok sender =>
    cases hcall : plan P w tx with
    | error e =>
      have hprepare : prepare P w tx d = .error e := by
        unfold prepare
        rw [hsender,hcall]
        rfl
      unfold submitTransaction
      rw [hprepare]
    | ok call =>
      have hprepare : prepare P w tx d = .ok ⟨⟨sender,d.timestamp,d.number,d.chainid⟩,call⟩ := by
        unfold prepare
        rw [hsender,hcall]
        rfl
      exact (submitTransaction_of_prepared hprepare).symm

end EvmAdapter
end BelLedger
