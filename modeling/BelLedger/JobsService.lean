import BelLedger.EvmAdapter
import BelLedger.KeyedTables

/-!
# JobsServiceImpl

Each request reads a row, checks it, submits a transaction and writes the changed row back. The five
requests on an existing job are one schema with their own checks, payloads and changes.
-/
namespace BelLedger
open CheckedCalls TransitionRuns KeyedTables

inductive JobStatus
  | CREATED | ASSIGNED | IN_PROGRESS | COMPLETED | VERIFIED | REJECTED
  deriving DecidableEq, Repr

namespace JobStatus

def name : JobStatus → String
  | CREATED => "CREATED"
  | ASSIGNED => "ASSIGNED"
  | IN_PROGRESS => "IN_PROGRESS"
  | COMPLETED => "COMPLETED"
  | VERIFIED => "VERIFIED"
  | REJECTED => "REJECTED"

/-- The status of the same name in JobManager. -/
def onChain : JobStatus → ChainJobStatus
  | CREATED => .CREATED
  | ASSIGNED => .ASSIGNED
  | IN_PROGRESS => .IN_PROGRESS
  | COMPLETED => .COMPLETED
  | VERIFIED => .VERIFIED
  | REJECTED => .REJECTED

theorem onChain_ne_none (s : JobStatus) : s.onChain ≠ .NONE := by cases s <;> decide

theorem onChain_injective : Function.Injective onChain := by
  intro a b
  cases a <;> cases b <;> simp [onChain]

end JobStatus

inductive JobPriority
  | LOW | MEDIUM | HIGH | CRITICAL
  deriving DecidableEq, Repr

structure Job where
  jobId : String
  assetId : String
  createdBy : String
  assignedTo : String
  verifierId : Option String
  status : JobStatus
  priority : JobPriority
  createdAt : String
  completedAt : Option String
  deriving DecidableEq

structure JobActor where
  identityId : String
  walletAddress : String
  signature : Option String
  deriving DecidableEq

/-- What a request finds around it: the mode, the two optional lookups, and the clock. -/
structure JobsContext where
  evm : Bool
  assetExists : Option (String → Bool)
  identityExists : Option (String → Bool)
  now : String

abbrev JobTable := Table Job.jobId

structure JobSystem (H : Type) where
  jobs : JobTable
  chain : World H

namespace JobsService

def ALLOWED_TRANSITIONS : JobStatus → List JobStatus
  | .CREATED => [.ASSIGNED]
  | .ASSIGNED => [.IN_PROGRESS]
  | .IN_PROGRESS => [.COMPLETED]
  | .COMPLETED => [.VERIFIED,.REJECTED]
  | .VERIFIED => []
  | .REJECTED => [.ASSIGNED]

def assertTransition (current next : JobStatus) : Except ServiceError Unit :=
  revertIf (next ∉ ALLOWED_TRANSITIONS current)
    (.Error ("Invalid job transition: "++current.name++" -> "++next.name))

def requireAssignedTechnician (job : Job) (actor : JobActor) : Except ServiceError Unit :=
  revertIf (job.assignedTo = "" ∨ job.assignedTo ≠ actor.identityId)
    (.ForbiddenError "Only the assigned technician may perform maintenance")

def requireIndependentVerifier (job : Job) (actor : JobActor) : Except ServiceError Unit := do
  revertIf (job.assignedTo = actor.identityId)
    (.ForbiddenError "The assigned technician cannot verify their own work")
  let verifier := job.verifierId.getD ""
  revertIf (verifier ≠ "" ∧ verifier ≠ actor.identityId)
    (.ForbiddenError "Only the assigned verifier may verify this job")

/-- `if (this.identityExists && !(await this.identityExists(id))) throw …` -/
def requireIdentity (ctx : JobsContext) (id : String) : Except ServiceError Unit :=
  revertIf ((ctx.identityExists.map (fun f => f id)).getD true = false)
    (.NotFoundError ("No identity "++id))

variable {H : Type} [Keccak H] [DecidableEq H]

/-- In EVM mode a device signature is required. -/
def unsigned (ctx : JobsContext) (actor : JobActor) : Bool :=
  let signature := (actor.signature.map jsTrim).getD ""
  ctx.evm && (signature == "" || signature == "development")

/-- The private `submit`. -/
def submit (P : Platform) (ctx : JobsContext) (w : World H) (type : TransactionType)
    (actor : JobActor) (payload : Payload) (d : Delivery) : World H × Except ServiceError Unit :=
  if unsigned ctx actor then
    (w,.error (.Blockchain ⟨.SIGNER,
      "A device-signed raw transaction is required for EVM "++type.name⟩))
  else
    match EvmAdapter.submitTransaction P w ⟨type,actor.walletAddress,payload⟩ d with
    | (w',.ok .SUCCESS) => (w',.ok ())
    | (w',.ok (.REJECTED revert)) => (w',.error (.Rejected type revert))
    | (w',.error e) => (w',.error (.Blockchain e))

/-- What the five requests on an existing job differ in. -/
structure Mutation where
  type : TransactionType
  check : Job → Except ServiceError Unit
  payload : Job → Payload
  change : Job → Job

def assign (ctx : JobsContext) (technicianId : String) : Mutation :=
  { type := .JOB_ASSIGN
    check := fun job => do
      revertIf (jsTrim technicianId = "") (.ValidationError ["technicianId is required"])
      requireIdentity ctx technicianId
      assertTransition job.status .ASSIGNED
    payload := fun job => [("jobId",.string job.jobId),("technicianId",.string technicianId)]
    change := fun job => { job with assignedTo := technicianId, status := .ASSIGNED } }

def start (actor : JobActor) : Mutation :=
  { type := .JOB_START
    check := fun job => do
      assertTransition job.status .IN_PROGRESS
      requireAssignedTechnician job actor
    payload := fun job => [("jobId",.string job.jobId)]
    change := fun job => { job with status := .IN_PROGRESS } }

def complete (ctx : JobsContext) (actor : JobActor) (evidenceHash : String) : Mutation :=
  { type := .JOB_COMPLETE
    check := fun job => do
      revertIf (isHex64 evidenceHash = false)
        (.ValidationError ["evidenceHash must be a 64-character SHA-256 hex digest"])
      assertTransition job.status .COMPLETED
      requireAssignedTechnician job actor
    payload := fun job => [("jobId",.string job.jobId),("evidenceHash",.string evidenceHash)]
    change := fun job => { job with status := .COMPLETED, completedAt := some ctx.now } }

def approve (actor : JobActor) : Mutation :=
  { type := .JOB_APPROVE
    check := fun job => do
      assertTransition job.status .VERIFIED
      requireIndependentVerifier job actor
    payload := fun job => [("jobId",.string job.jobId)]
    change := fun job => { job with status := .VERIFIED, verifierId := some actor.identityId } }

def reject (actor : JobActor) (reason : String) : Mutation :=
  { type := .JOB_REJECT
    check := fun job => do
      revertIf (jsTrim reason = "") (.ValidationError ["reason is required"])
      assertTransition job.status .REJECTED
      requireIndependentVerifier job actor
    payload := fun job => [("jobId",.string job.jobId),("reason",.string reason)]
    change := fun job => { job with status := .REJECTED, verifierId := some actor.identityId } }

/-- Read, check, submit, write. -/
def mutate (P : Platform) (ctx : JobsContext) (s : JobSystem H) (id : String) (actor : JobActor)
    (m : Mutation) (d : Delivery) : JobSystem H × Except ServiceError Job :=
  match s.jobs.find id with
  | none => (s,.error (.NotFoundError ("No job "++id)))
  | some job =>
    match m.check job with
    | .error e => (s,.error e)
    | .ok () =>
      match submit P ctx s.chain m.type actor (m.payload job) d with
      | (chain,.error e) => ({ s with chain },.error e)
      | (chain,.ok ()) => (⟨s.jobs.save (m.change job),chain⟩,.ok (m.change job))

section Preparation
variable (ctx : JobsContext) (actor : JobActor)

/-- The checks of `prepare`, which are made a second time here. -/
def prepareCheck (type : TransactionType) (payload : Payload) (job : Job) :
    Except ServiceError Unit :=
  match type with
  | .JOB_ASSIGN => do
    let technicianId := (payload.text "technicianId").getD ""
    revertIf (jsTrim technicianId = "") (.ValidationError ["technicianId is required"])
    requireIdentity ctx technicianId
    assertTransition job.status .ASSIGNED
  | .JOB_START => do
    assertTransition job.status .IN_PROGRESS
    requireAssignedTechnician job actor
  | .JOB_COMPLETE => do
    revertIf (isHex64 ((payload.text "evidenceHash").getD "") = false)
      (.ValidationError ["evidenceHash must be a 64-character SHA-256 hex digest"])
    assertTransition job.status .COMPLETED
    requireAssignedTechnician job actor
  | .JOB_APPROVE => do
    assertTransition job.status .VERIFIED
    requireIndependentVerifier job actor
  | .JOB_REJECT => do
    revertIf (jsTrim ((payload.text "reason").getD "") = "")
      (.ValidationError ["reason is required"])
    assertTransition job.status .REJECTED
    requireIndependentVerifier job actor
  | _ => .ok ()

/-- The envelope whose call is prepared for the device. -/
def prepare (jobs : JobTable) (type : TransactionType) (id : String) (payload : Payload) :
    Except ServiceError Envelope :=
  match jobs.find id with
  | none => .error (.NotFoundError ("No job "++id))
  | some job => do
    prepareCheck ctx actor type payload job
    pure ⟨type,actor.walletAddress,Payload.spread [("jobId",.string id)] payload⟩

end Preparation

/-- The `Partial<Job>` that `create` takes, with the types that it declares. An id of another type counts
as absent; `create` would store a `verifierId` or `priority` of another type as it is, which is left out
here. -/
structure CreateInput where
  jobId : Option String
  assetId : Option String
  createdBy : Option String
  verifierId : Option String
  priority : Option JobPriority
  deriving DecidableEq

def createErrors (input : CreateInput) : List String :=
  (if jsTrim (input.assetId.getD "") = "" then ["assetId is required"] else [])++
  (if jsTrim (input.createdBy.getD "") = "" then ["createdBy is required"] else [])++
  (if input.priority = none then ["priority is required"] else [])

/-- The id asked for, or the next number. -/
def newJobId (jobs : JobTable) (input : CreateInput) : String :=
  let asked := jsTrim (input.jobId.getD "")
  if asked ≠ "" then asked else "JOB-"++toString (jobs.rows.length + 1)

def newJob (ctx : JobsContext) (jobs : JobTable) (input : CreateInput) : Job :=
  { jobId := newJobId jobs input
    assetId := input.assetId.getD ""
    createdBy := input.createdBy.getD ""
    assignedTo := ""
    verifierId := input.verifierId
    status := .CREATED
    priority := input.priority.getD .LOW
    createdAt := ctx.now
    completedAt := none }

def createCheck (ctx : JobsContext) (jobs : JobTable) (input : CreateInput) :
    Except ServiceError Unit := do
  revertIf (createErrors input ≠ []) (.ValidationError (createErrors input))
  let job := newJob ctx jobs input
  revertIf ((ctx.assetExists.map (fun f => f job.assetId)).getD true = false)
    (.NotFoundError ("No asset "++job.assetId))
  requireIdentity ctx job.createdBy
  revertIf ((jobs.find job.jobId).isSome = true)
    (.ValidationError ["jobId "++job.jobId++" already exists"])

def create (P : Platform) (ctx : JobsContext) (s : JobSystem H) (input : CreateInput)
    (actor : JobActor) (d : Delivery) : JobSystem H × Except ServiceError Job :=
  match createCheck ctx s.jobs input with
  | .error e => (s,.error e)
  | .ok () =>
    let job := newJob ctx s.jobs input
    match submit P ctx s.chain .JOB_CREATE actor
        [("jobId",.string job.jobId),("assetId",.string job.assetId)] d with
    | (chain,.error e) => ({ s with chain },.error e)
    | (chain,.ok ()) => (⟨s.jobs.save job,chain⟩,.ok job)

end JobsService

/-- The five requests on an existing job. -/
inductive JobChange
  | assign (technicianId : String)
  | start
  | complete (evidenceHash : String)
  | approve
  | reject (reason : String)
  deriving DecidableEq

def JobChange.mutation (ctx : JobsContext) (actor : JobActor) : JobChange → JobsService.Mutation
  | .assign technicianId => JobsService.assign ctx technicianId
  | .start => JobsService.start actor
  | .complete evidenceHash => JobsService.complete ctx actor evidenceHash
  | .approve => JobsService.approve actor
  | .reject reason => JobsService.reject actor reason

/-- The status a request leads to. -/
def JobChange.target : JobChange → JobStatus
  | .assign _ => .ASSIGNED
  | .start => .IN_PROGRESS
  | .complete _ => .COMPLETED
  | .approve => .VERIFIED
  | .reject _ => .REJECTED

inductive JobAction
  | create (input : JobsService.CreateInput)
  | change (id : String) (change : JobChange)
  deriving DecidableEq

structure JobRequest where
  action : JobAction
  actor : JobActor
  ctx : JobsContext
  delivery : Delivery

section Requests
variable {H : Type} [Keccak H] [DecidableEq H]
open JobsService

/-- One request, served to its end. -/
def serve (P : Platform) (s : JobSystem H) (q : JobRequest) : JobSystem H × Except ServiceError Job :=
  match q.action with
  | .create input => create P q.ctx s input q.actor q.delivery
  | .change id change => mutate P q.ctx s id q.actor (change.mutation q.ctx q.actor) q.delivery

/-- What happens to the service and the chain: a request, or a transaction of somebody else. -/
inductive JobEvent
  | request (q : JobRequest)
  | external (tx : Tx)

def JobSystem.step (P : Platform) (s : JobSystem H) : JobEvent → JobSystem H
  | .request q => (serve P s q).1
  | .external tx => { s with chain := attempt exec s.chain tx }

def JobSystem.run (P : Platform) (s : JobSystem H) (events : List JobEvent) : JobSystem H :=
  events.foldl (JobSystem.step P) s

end Requests
end BelLedger
