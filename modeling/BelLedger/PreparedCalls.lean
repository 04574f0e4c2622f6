import BelLedger.AssetValidation
import BelLedger.JobRefinement
import BelLedger.SignedTransactions

/-!
# Prepared and executed requests

A request is checked twice, once to prepare the call that the device signs and once to submit it. The
two copies accept the same arguments and plan the same call.
-/
namespace BelLedger
open CheckedCalls KeyedTables EffectPrograms Prog AssetsService

/-- The requests on an existing asset. -/
inductive AssetRequest
  | transfer (id newOwnerId : String) (newCustodianId : Option String)
  | changeAssetState (id newState : String)
  | attachComponent (parentAssetId componentId : String)
  | removeComponent (parentAssetId componentId : String)
  deriving DecidableEq

namespace AssetRequest

def type : AssetRequest → TransactionType
  | transfer _ _ _ => .ASSET_TRANSFER
  | changeAssetState _ _ => .ASSET_STATE_CHANGE
  | attachComponent _ _ => .COMPONENT_ATTACH
  | removeComponent _ _ => .COMPONENT_REMOVE

def ids : AssetRequest → List String
  | transfer id _ _ => [id]
  | changeAssetState id _ => [id]
  | attachComponent parentAssetId componentId => [parentAssetId,componentId]
  | removeComponent parentAssetId componentId => [parentAssetId,componentId]

/-- The method that executes the request, up to its submission. -/
def checked (ctx : AssetsContext) (actor : AssetActor) : AssetRequest → Program (Envelope × Asset)
  | transfer id newOwnerId newCustodianId =>
    transferChecked ctx (some actor) id newOwnerId newCustodianId
  | changeAssetState id newState => changeAssetStateChecked ctx (some actor) id newState
  | attachComponent parentAssetId componentId =>
    attachComponentChecked ctx (some actor) parentAssetId componentId
  | removeComponent parentAssetId componentId =>
    removeComponentChecked ctx (some actor) parentAssetId componentId

/-- What the route that prepares the request passes on. -/
def prepareInput : AssetRequest → Payload
  | transfer id newOwnerId newCustodianId =>
    [("assetId",.string id),("newOwnerId",.string newOwnerId)]++
      (newCustodianId.map (fun custodian => ("newCustodianId",Value.string custodian))).toList
  | changeAssetState id newState => [("assetId",.string id),("newState",.string newState)]
  | attachComponent parentAssetId componentId =>
    [("parentAssetId",.string parentAssetId),("componentId",.string componentId)]
  | removeComponent parentAssetId componentId =>
    [("parentAssetId",.string parentAssetId),("componentId",.string componentId)]

end AssetRequest

/-- What the route that prepares the request passes on. -/
def JobChange.prepareInput : JobChange → Payload
  | .assign technicianId => [("technicianId",.string technicianId)]
  | .start => []
  | .complete evidenceHash => [("evidenceHash",.string evidenceHash)]
  | .approve => []
  | .reject reason => [("reason",.string reason)]

section Assets
variable {H : Type} [Keccak H] [DecidableEq H] {P : Platform} {ctx : AssetsContext}
  {actor : AssetActor} {s v : AssetsSystem H} {tx : Envelope} {row : Asset} {id : String}

/-- What is said of an id: it is its own trimmed form and not empty. -/
def Spelled (id : String) : Prop := Trimmed id ∧ id ≠ ""

theorem Spelled.required (h : Spelled id) («field» : String) :
    requiredString (some id) «field» = pure id := by
  have htrim : jsTrim id = id := h.1
  have hblank : ¬jsTrim ((some id).getD "") = "" := by
    rw [Option.getD_some,htrim]
    exact h.2
  rw [requiredString,throwIf_bind_of_neg hblank,Option.getD_some,htrim]

/-- Two programs with the same beginning. -/
private theorem returns_bind_and {α β γ : Type} {p : Program β} {f : β → Program α}
    {g : β → Program γ} {a : α} {c : γ} {Q : Prop}
    (h : (p >>= f).Returns (AssetCall.handle P ctx) s v a)
    (hfg : ∀ u b,(f b).Returns (AssetCall.handle P ctx) u v a →
      (g b).Returns (AssetCall.handle P ctx) u v c ∧ Q) :
    (p >>= g).Returns (AssetCall.handle P ctx) s v c ∧ Q := by
  obtain ⟨u,b,hp,hf⟩ := returns_bind.mp h
  obtain ⟨hg,hQ⟩ := hfg u b hf
  exact ⟨returns_bind.mpr ⟨u,b,hp,hg⟩,hQ⟩

private theorem transaction_returns {α : Type} {type : TransactionType} {payload : Payload}
    {g : Envelope → Program α} {a : α}
    (h : (transaction ctx type (some actor) payload >>= g).Returns (AssetCall.handle P ctx) s v a) :
    (g ⟨type,jsTrim actor.walletAddress,payload⟩).Returns (AssetCall.handle P ctx) s v a := by
  simp only [transaction,requiredString,bind_assoc,returns_throwIf_bind,pure_bind] at h
  exact h.2.2.2

/-- Both programs end with the same payload. -/
private theorem planned_returns {type : TransactionType} {payload : Payload} {fallback : Asset}
    (h : (transaction ctx type (some actor) payload >>= fun tx => pure (tx,fallback)).Returns
      (AssetCall.handle P ctx) s v (tx,row)) :
    (pure payload : Program Payload).Returns (AssetCall.handle P ctx) s v tx.payload ∧
      tx = ⟨type,jsTrim actor.walletAddress,tx.payload⟩ := by
  have hend := transaction_returns h
  obtain ⟨rfl,heq⟩ := returns_pure.mp hend
  obtain ⟨rfl,-⟩ := Prod.mk.inj heq
  exact ⟨returns_pure.mpr ⟨rfl,rfl⟩,rfl⟩

theorem transfer_prepared (hid : Spelled id) {newOwnerId : String} {newCustodianId : Option String}
    (h : (transferChecked ctx (some actor) id newOwnerId newCustodianId).Returns
      (AssetCall.handle P ctx) s v (tx,row)) :
    (preparePayload ctx .ASSET_TRANSFER
        (AssetRequest.transfer id newOwnerId newCustodianId).prepareInput).Returns
      (AssetCall.handle P ctx) s v tx.payload ∧
        tx = ⟨.ASSET_TRANSFER,jsTrim actor.walletAddress,tx.payload⟩ := by
  have hasset : (AssetRequest.transfer id newOwnerId newCustodianId).prepareInput.text "assetId" =
      some id := by
    simp [AssetRequest.prepareInput,Payload.text,Payload.get_cons]
  have howner : (AssetRequest.transfer id newOwnerId newCustodianId).prepareInput.text "newOwnerId" =
      some newOwnerId := by
    simp [AssetRequest.prepareInput,Payload.text,Payload.get_cons]
  have hcustodian : ((AssetRequest.transfer id newOwnerId newCustodianId).prepareInput.lookup
      "newCustodianId").map (fun _ => ((AssetRequest.transfer id newOwnerId
        newCustodianId).prepareInput.text "newCustodianId").getD "") = newCustodianId := by
    cases newCustodianId with
    | none => rfl
    | some custodian => rfl
  unfold preparePayload
  simp only [hasset,howner,hcustodian,hid.required,pure_bind]
  refine returns_bind_and h (fun _ asset h => ?_)
  refine returns_bind_and h (fun _ ownerId h => ?_)
  refine returns_bind_and h (fun _ _ h => ?_)
  refine returns_bind_and h (fun _ custodianId h => ?_)
  refine returns_bind_and h (fun _ _ h => ?_)
  refine returns_bind_and h (fun _ _ h => ?_)
  refine returns_bind_and h (fun _ _ h => ?_)
  refine returns_bind_and h (fun _ _ h => ?_)
  exact planned_returns h

theorem changeAssetState_prepared (hid : Spelled id) {newState : String}
    (h : (changeAssetStateChecked ctx (some actor) id newState).Returns
      (AssetCall.handle P ctx) s v (tx,row)) :
    (preparePayload ctx .ASSET_STATE_CHANGE
        (AssetRequest.changeAssetState id newState).prepareInput).Returns
      (AssetCall.handle P ctx) s v tx.payload ∧
        tx = ⟨.ASSET_STATE_CHANGE,jsTrim actor.walletAddress,tx.payload⟩ := by
  have hasset : (AssetRequest.changeAssetState id newState).prepareInput.text "assetId" = some id := by
    simp [AssetRequest.prepareInput,Payload.text,Payload.get_cons]
  have hstate : (AssetRequest.changeAssetState id newState).prepareInput.text "newState" =
      some newState := by
    simp [AssetRequest.prepareInput,Payload.text,Payload.get_cons]
  unfold preparePayload
  simp only [hasset,hstate,hid.required,pure_bind,Option.some.injEq]
  refine returns_bind_and h (fun _ status h => ?_)
  refine returns_bind_and h (fun _ asset h => ?_)
  refine returns_bind_and h (fun _ _ h => ?_)
  exact planned_returns h

section Components
variable {parentAssetId componentId : String} (hparent : Spelled parentAssetId)
  (hcomponent : Spelled componentId)
include hparent hcomponent

theorem attachComponent_prepared
    (h : (attachComponentChecked ctx (some actor) parentAssetId componentId).Returns
      (AssetCall.handle P ctx) s v (tx,row)) :
    (preparePayload ctx .COMPONENT_ATTACH
        (AssetRequest.attachComponent parentAssetId componentId).prepareInput).Returns
      (AssetCall.handle P ctx) s v tx.payload ∧
        tx = ⟨.COMPONENT_ATTACH,jsTrim actor.walletAddress,tx.payload⟩ := by
  have hinput : (AssetRequest.attachComponent parentAssetId componentId).prepareInput.text
      "parentAssetId" = some parentAssetId ∧ (AssetRequest.attachComponent parentAssetId
        componentId).prepareInput.text "componentId" = some componentId := by
    simp [AssetRequest.prepareInput,Payload.text,Payload.get_cons]
  unfold preparePayload
  simp only [hinput.1,hinput.2,hparent.required,hcomponent.required,pure_bind,preparableComponent,
    if_true,bind_assoc]
  refine returns_bind_and h (fun _ parent h => ?_)
  refine returns_bind_and h (fun _ component h => ?_)
  refine returns_bind_and h (fun _ _ h => ?_)
  refine returns_bind_and h (fun _ _ h => ?_)
  refine returns_bind_and h (fun _ _ h => ?_)
  refine returns_bind_and h (fun _ _ h => ?_)
  exact planned_returns h

theorem removeComponent_prepared
    (h : (removeComponentChecked ctx (some actor) parentAssetId componentId).Returns
      (AssetCall.handle P ctx) s v (tx,row)) :
    (preparePayload ctx .COMPONENT_REMOVE
        (AssetRequest.removeComponent parentAssetId componentId).prepareInput).Returns
      (AssetCall.handle P ctx) s v tx.payload ∧
        tx = ⟨.COMPONENT_REMOVE,jsTrim actor.walletAddress,tx.payload⟩ := by
  have hinput : (AssetRequest.removeComponent parentAssetId componentId).prepareInput.text
      "parentAssetId" = some parentAssetId ∧ (AssetRequest.removeComponent parentAssetId
        componentId).prepareInput.text "componentId" = some componentId := by
    simp [AssetRequest.prepareInput,Payload.text,Payload.get_cons]
  have htype : ¬TransactionType.COMPONENT_REMOVE = .COMPONENT_ATTACH := by decide
  unfold preparePayload
  simp only [hinput.1,hinput.2,hparent.required,hcomponent.required,pure_bind,preparableComponent,
    if_neg htype]
  refine returns_bind_and h (fun _ parent h => ?_)
  refine returns_bind_and h (fun _ component h => ?_)
  refine returns_bind_and h (fun _ _ h => ?_)
  exact planned_returns h

end Components

/-- What is accepted for execution is accepted for preparation, with the same payload. -/
theorem AssetRequest.prepared (request : AssetRequest) (hids : ∀ id ∈ request.ids,Spelled id)
    (h : (request.checked ctx actor).Returns (AssetCall.handle P ctx) s v (tx,row)) :
    (AssetsService.prepare ctx request.type request.prepareInput actor).Returns
        (AssetCall.handle P ctx) s v { tx with actorWallet := actor.walletAddress } ∧
      tx.actorWallet = jsTrim actor.walletAddress := by
  have hpayload : (preparePayload ctx request.type request.prepareInput).Returns
      (AssetCall.handle P ctx) s v tx.payload ∧
        tx = ⟨request.type,jsTrim actor.walletAddress,tx.payload⟩ := by
    cases request with
    | transfer id newOwnerId newCustodianId =>
      exact transfer_prepared (hids id (List.mem_singleton_self id)) h
    | changeAssetState id newState =>
      exact changeAssetState_prepared (hids id (List.mem_singleton_self id)) h
    | attachComponent parentAssetId componentId =>
      exact attachComponent_prepared (hids _ (by simp [ids])) (hids _ (by simp [ids])) h
    | removeComponent parentAssetId componentId =>
      exact removeComponent_prepared (hids _ (by simp [ids])) (hids _ (by simp [ids])) h
  obtain ⟨hread,htx⟩ := hpayload
  refine ⟨returns_bind.mpr ⟨v,_,hread,returns_pure.mpr ⟨rfl,?_⟩⟩,by rw [htx]⟩
  rw [htx]

end Assets

section Jobs
variable {H : Type} [Keccak H] [DecidableEq H] {P : Platform} {ctx : JobsContext} {actor : JobActor}
  {jobs : JobTable} {id : String} {tx : Envelope} {job : Job}

namespace JobsService

/-- A request up to its submission: the envelope, and the row it is about. -/
def planned (ctx : JobsContext) (jobs : JobTable) (id : String) (actor : JobActor) (m : Mutation) :
    Except ServiceError (Envelope × Job) :=
  match jobs.find id with
  | none => .error (.NotFoundError ("No job "++id))
  | some job => do
    m.check job
    revertIf (unsigned ctx actor = true) (.Blockchain ⟨.SIGNER,
      "A device-signed raw transaction is required for EVM "++m.type.name⟩)
    pure (⟨m.type,actor.walletAddress,m.payload job⟩,job)

/-- The request submits what it has planned. -/
theorem mutate_eq (s : JobSystem H) (m : Mutation) (d : Delivery) :
    mutate P ctx s id actor m d =
      match planned ctx s.jobs id actor m with
      | .error e => (s,.error e)
      | .ok (tx,job) =>
        match EvmAdapter.submitTransaction P s.chain tx d with
        | (chain,.ok .SUCCESS) => (⟨s.jobs.save (m.change job),chain⟩,.ok (m.change job))
        | (chain,.ok (.REJECTED revert)) => ({ s with chain },.error (.Rejected m.type revert))
        | (chain,.error e) => ({ s with chain },.error (.Blockchain e)) := by
  unfold mutate planned submit
  cases s.jobs.find id with
  | none => rfl
  | some job =>
    simp only
    cases m.check job with
    | error e => rfl
    | ok u =>
      rw [ok_bind]
      cases unsigned ctx actor with
      | true => rfl
      | false =>
        simp only [revertIf,Bool.false_eq_true,if_false,ok_bind,pure,Except.pure]
        cases EvmAdapter.submitTransaction P s.chain
            ⟨m.type,actor.walletAddress,m.payload job⟩ d with
        | mk chain result =>
          cases result with
          | error e => rfl
          | ok status => cases status <;> rfl

theorem planned_eq_ok {m : Mutation} (h : planned ctx jobs id actor m = .ok (tx,job)) :
    jobs.find id = some job ∧ m.check job = .ok () ∧ tx = ⟨m.type,actor.walletAddress,m.payload job⟩ := by
  unfold planned at h
  split at h
  · cases h
  · rename_i found hfound
    obtain ⟨u,hcheck,h⟩ := ok_bind_iff.mp h
    obtain ⟨-,h⟩ := revertIf_bind_eq_ok.mp h
    obtain ⟨rfl,rfl⟩ := Prod.mk.inj (ok_pure_iff.mp h)
    exact ⟨hfound,hcheck,rfl⟩

/-- Both copies of the checks are the same. -/
theorem prepareCheck_eq (change : JobChange) :
    prepareCheck ctx actor (change.mutation ctx actor).type change.prepareInput job =
      (change.mutation ctx actor).check job := by
  cases change with
  | assign technicianId => rfl
  | start => rfl
  | complete evidenceHash => rfl
  | approve => rfl
  | reject reason => rfl

theorem preparePayload_eq (change : JobChange) :
    Payload.spread [("jobId",.string job.jobId)] change.prepareInput =
      (change.mutation ctx actor).payload job := by
  cases change with
  | assign technicianId => rfl
  | start => rfl
  | complete evidenceHash => rfl
  | approve => rfl
  | reject reason => rfl

end JobsService

open JobsService in
/-- What is accepted for execution is accepted for preparation, with the same envelope. -/
theorem JobChange.prepared (change : JobChange)
    (h : planned ctx jobs id actor (change.mutation ctx actor) = .ok (tx,job)) :
    JobsService.prepare ctx actor jobs (change.mutation ctx actor).type id change.prepareInput =
      .ok tx := by
  obtain ⟨hfind,hcheck,rfl⟩ := planned_eq_ok h
  have hid : job.jobId = id := Table.key_of_find hfind
  unfold JobsService.prepare
  rw [hfind]
  simp only [prepareCheck_eq,hcheck,ok_bind]
  rw [← hid,preparePayload_eq]
  rfl

end Jobs

section Device
variable {H : Type} [Keccak H] {P : Platform} {w : World H}
  {prepared executed : Envelope}

/-- Both envelopes stand for the same call, and what the device signs over the first one is accepted
for the second one for as long as the chain answers alike. -/
structure SignedForExecution (P : Platform) (w : World H) (prepared executed : Envelope) : Prop where
  plan : ∀ lookups,
    Payloads.buildCallPlan P.parseAddress P.dateParse prepared.type prepared.payload lookups =
      Payloads.buildCallPlan P.parseAddress P.dateParse executed.type executed.payload lookups
  accepted : ∀ config fields,
    EvmAdapter.buildPreparedTransaction P config w prepared = .ok fields →
    ∀ w' : World H,
      Payloads.AnswerAlike prepared.payload (EvmAdapter.lookups w) (EvmAdapter.lookups w') →
      ∃ fields',EvmAdapter.buildPreparedTransaction P config w' executed = .ok fields' ∧
        EvmAdapter.verifySignedTransaction fields.signed fields' = .ok ()

theorem signedForExecution (hstrict : P.Strict) (htype : prepared.type = executed.type)
    (hpayload : prepared.payload = executed.payload)
    (hwallet : executed.actorWallet = prepared.actorWallet ∨
      executed.actorWallet = jsTrim prepared.actorWallet) :
    SignedForExecution P w prepared executed := by
  refine ⟨fun lookups => by rw [htype,hpayload],?_⟩
  intro config fields hfields w' hanswers
  have hsender : EvmAdapter.actorWallet P prepared = EvmAdapter.actorWallet P executed := by
    obtain ⟨sender,hsender,-⟩ := ok_bind_iff.mp hfields
    unfold EvmAdapter.actorWallet at hsender ⊢
    cases haddress : P.parseAddress prepared.actorWallet with
    | none =>
      rw [haddress] at hsender
      cases hsender
    | some a =>
      -- an address has no white space around it, so trimming changes nothing
      have htrim : jsTrim prepared.actorWallet = prepared.actorWallet := (hstrict _ _ haddress).1
      have hsame : executed.actorWallet = prepared.actorWallet := by
        rcases hwallet with hwallet | hwallet
        · exact hwallet
        · rw [hwallet,htrim]
      rw [hsame,haddress]
  have hplan : EvmAdapter.plan P w prepared = EvmAdapter.plan P w' executed := by
    unfold EvmAdapter.plan
    rw [Payloads.buildCallPlan_congr hanswers,htype,hpayload]
  rw [EvmAdapter.buildPreparedTransaction_congr hsender hplan] at hfields
  exact ⟨fields,hfields,EvmAdapter.verifySignedTransaction_signed
    (EvmAdapter.buildPreparedTransaction_value hfields)⟩

variable [DecidableEq H]

/-- What an asset or a job request is accepted with, its preparation is accepted with, and the device
signs the call that the execution compares with. The call of a job request is the one that it submits
(`JobsService.mutate_eq`). -/
theorem prepared_requests_accepted (P : Platform) (hstrict : P.Strict) :
    (∀ (ctx : AssetsContext) (s v : AssetsSystem H) (actor : AssetActor) (request : AssetRequest)
      (tx : Envelope) (row : Asset),(∀ id ∈ request.ids,Spelled id) →
      (request.checked ctx actor).Returns (AssetCall.handle P ctx) s v (tx,row) →
      ∃ prepared,(AssetsService.prepare ctx request.type request.prepareInput actor).Returns
          (AssetCall.handle P ctx) s v prepared ∧
        SignedForExecution P s.chain prepared tx) ∧
    ∀ (ctx : JobsContext) (s : JobSystem H) (actor : JobActor) (id : String) (change : JobChange)
      (tx : Envelope) (job : Job),
      JobsService.planned ctx s.jobs id actor (change.mutation ctx actor) = .ok (tx,job) →
      ∃ prepared,JobsService.prepare ctx actor s.jobs (change.mutation ctx actor).type id
          change.prepareInput = .ok prepared ∧
        SignedForExecution P s.chain prepared tx := by
  constructor
  · intro ctx s v actor request tx row hids h
    obtain ⟨hread,hwallet⟩ := request.prepared hids h
    exact ⟨_,hread,signedForExecution hstrict rfl rfl (.inr hwallet)⟩
  · intro ctx s actor id change tx job h
    exact ⟨tx,change.prepared h,signedForExecution hstrict rfl rfl (.inl rfl)⟩

end Device

section Prototype

def decommission (id : String) : AssetRequest := .changeAssetState id "DECOMMISSIONED"

/-- The execution of the request, up to its submission. -/
def decommissionRun (s : AssetsSystem (Option Bytes)) (id : String) :
    AssetsSystem (Option Bytes) × Except ServiceError (Envelope × Asset) :=
  ((decommission id).checked assetsContext (assetActor "0x02f8")).run
    (AssetCall.handle prototypePlatform assetsContext) (fun _ => default) s

private theorem decommissionRun_returns {s : AssetsSystem (Option Bytes)} {id : String}
    {planned : Envelope × Asset} (h : (decommissionRun s id).2 = .ok planned) :
    ((decommission id).checked assetsContext (assetActor "0x02f8")).Returns
      (AssetCall.handle prototypePlatform assetsContext) s (decommissionRun s id).1 planned := by
  unfold decommissionRun at h ⊢
  exact returns_of_run h

def decommissionEnvelope (id : String) : Envelope :=
  ⟨.ASSET_STATE_CHANGE,"0x00000000000000000000000000000000000000ad",
    [("assetId",.string id),("nftId",.string "1"),("previousState",.string "ACTIVE"),
      ("newState",.string "DECOMMISSIONED")]⟩

def createdJobs : JobSystem (Option Bytes) :=
  ⟨Table.empty.save ⟨"JOB-1","RADAR-1","DID:BEL:ENG","",none,.CREATED,.LOW,
    "2025-11-18T09:00:00.000Z",none⟩,workshop⟩

theorem decommission_and_assignment_prepared :
    (∃ v prepared,(AssetsService.prepare assetsContext (decommission "RADAR-1").type
        (decommission "RADAR-1").prepareInput (assetActor "0x02f8")).Returns
          (AssetCall.handle prototypePlatform assetsContext) (assetsSystem hierarchyTxs) v prepared ∧
      SignedForExecution prototypePlatform (assetsSystem hierarchyTxs).chain prepared
        (decommissionEnvelope "RADAR-1")) ∧
    ∃ prepared,JobsService.prepare workshopContext ENG createdJobs.jobs .JOB_ASSIGN "JOB-1"
        [("technicianId",.string "DID:BEL:TECH-1")] = .ok prepared ∧
      SignedForExecution prototypePlatform createdJobs.chain prepared
        ⟨.JOB_ASSIGN,ENG.walletAddress,
          [("jobId",.string "JOB-1"),("technicianId",.string "DID:BEL:TECH-1")]⟩ := by
  have hrun : (decommissionRun (assetsSystem hierarchyTxs) "RADAR-1").2 =
      .ok (decommissionEnvelope "RADAR-1",⟨"RADAR-1","1","","DID:BEL:ADMIN","DID:BEL:ADMIN",some none,
        .DECOMMISSIONED⟩) := by
    decide +kernel
  have hspelled : ∀ id ∈ (decommission "RADAR-1").ids,Spelled id := by
    intro id hid
    obtain rfl := List.mem_singleton.mp hid
    exact ⟨by decide +kernel,by decide⟩
  have hplanned : JobsService.planned workshopContext createdJobs.jobs "JOB-1" ENG
      ((JobChange.assign "DID:BEL:TECH-1").mutation workshopContext ENG) = .ok
        (⟨.JOB_ASSIGN,ENG.walletAddress,
          [("jobId",.string "JOB-1"),("technicianId",.string "DID:BEL:TECH-1")]⟩,
        ⟨"JOB-1","RADAR-1","DID:BEL:ENG","",none,.CREATED,.LOW,"2025-11-18T09:00:00.000Z",none⟩) := by
    decide +kernel
  obtain ⟨hassets,hjobs⟩ := prepared_requests_accepted (H := Option Bytes) prototypePlatform
    prototypePlatform_strict
  exact ⟨⟨_,hassets assetsContext _ _ (assetActor "0x02f8") (decommission "RADAR-1") _ _ hspelled
    (decommissionRun_returns hrun)⟩,hjobs workshopContext createdJobs ENG "JOB-1"
      (.assign "DID:BEL:TECH-1") _ _ hplanned⟩

/-- A repository that holds a row under the empty id. -/
def blankRow : AssetsSystem (Option Bytes) :=
  { assetsSystem hierarchyTxs with
    repository := Table.empty.save
      ⟨"","1","","DID:BEL:ADMIN","DID:BEL:ADMIN",some none,.ACTIVE⟩ }

/-- The empty id is its own trimmed form. The execution submits with it, the preparation refuses it. -/
theorem empty_id_not_prepared :
    (∀ id ∈ (decommission "").ids,Trimmed id) ∧
    (∃ v tx row,((decommission "").checked assetsContext (assetActor "0x02f8")).Returns
      (AssetCall.handle prototypePlatform assetsContext) blankRow v (tx,row)) ∧
    ¬∃ v prepared,(AssetsService.prepare assetsContext (decommission "").type
      (decommission "").prepareInput (assetActor "0x02f8")).Returns
        (AssetCall.handle prototypePlatform assetsContext) blankRow v prepared := by
  have hrun : (decommissionRun blankRow "").2 =
      .ok (decommissionEnvelope "",⟨"","1","","DID:BEL:ADMIN","DID:BEL:ADMIN",some none,
        .DECOMMISSIONED⟩) := by
    decide +kernel
  refine ⟨?_,⟨_,_,_,decommissionRun_returns hrun⟩,?_⟩
  · intro id hid
    obtain rfl := List.mem_singleton.mp hid
    decide +kernel
  · rintro ⟨v,prepared,h⟩
    obtain ⟨u,payload,h,-⟩ := returns_bind.mp h
    obtain ⟨u',id,h,-⟩ := returns_bind.mp h
    exact (returns_throwIf_bind.mp h).1 (by decide +kernel)

end Prototype
end BelLedger
