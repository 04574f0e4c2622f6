import BelLedger.HexTexts
import BelLedger.JobsService
import BelLedger.PermissionMatrix

/-!
# EvidenceServiceImpl and the completion of a job

The bytes of a piece of evidence go to a storage that may answer anything; the record keeps their
digest. The route that completes a job takes the digest from the record.
-/
namespace BelLedger
open CheckedCalls KeyedTables UsersService

structure Evidence where
  evidenceId : String
  jobId : String
  cid : String
  sha256 : String
  originalFilename : String
  contentType : String
  sizeBytes : ℕ
  uploadedBy : String
  createdAt : String
  updatedAt : String
  deriving DecidableEq

structure EvidenceActor where
  identityId : String
  walletAddress : String
  role : Role

structure EvidenceUpload where
  bytes : Bytes
  filename : String
  contentType : String

structure StoredEvidence where
  cid : String
  sizeBytes : ℕ

inductive StorageFailure
  | EvidenceStorageError
  | other (message : String)

/-- What the storage does at one time. -/
structure EvidenceStorage where
  upload : Bytes → String → Except StorageFailure StoredEvidence
  download : String → Except StorageFailure Bytes

/-- `createHash("sha256")` and `toLowerCase`. -/
structure NodeLibrary where
  sha256 : Bytes → Bytes32
  toLowerCase : String → String

/-- The options of the service, and the clock. -/
structure EvidenceContext where
  maxFileSizeBytes : ℕ
  allowedMimeTypes : List String
  now : String

inductive EvidenceError
  | Service (error : ServiceError)
  | PayloadTooLargeError (message : String)
  | UnsupportedMediaTypeError (message : String)
  | ServiceUnavailableError (message : String)
  | IntegrityError (message : String)
  deriving DecidableEq

structure EvidenceSystem (H : Type) where
  evidence : Table Evidence.evidenceId
  service : JobSystem H

namespace EvidenceService

def noContext : PermissionContext := ⟨none,none,none,none⟩

def requireJob (jobs : JobTable) (jobId : String) : Except EvidenceError Job :=
  match jobs.find jobId with
  | none => .error (.Service (.NotFoundError ("No job "++jobId)))
  | some job => .ok job

def assertCanUpload (job : Job) (actor : EvidenceActor) : Except EvidenceError Unit := do
  revertIf (can actor.role .PERFORM_MAINTENANCE noContext = false)
    (.Service (.ForbiddenError "Action not permitted for this role"))
  revertIf (job.assignedTo ≠ actor.identityId)
    (.Service (.ForbiddenError "Only the assigned technician may upload evidence"))
  revertIf (job.status ≠ .IN_PROGRESS)
    (.Service (.ValidationError ["Evidence may only be uploaded while the job is IN_PROGRESS"]))

def assertCanView (job : Job) (actor : EvidenceActor) : Except EvidenceError Unit :=
  revertIf (can actor.role .VIEW_AUDIT_HISTORY { noContext with
      actorId := some actor.identityId, resourceOwnerId := some job.assignedTo } = false)
    (.Service (.ForbiddenError "You may not view evidence for this job"))

def PNG_SIGNATURE : Bytes := [137,80,78,71,13,10,26,10]

def validateUpload (lib : NodeLibrary) (ctx : EvidenceContext) (input : EvidenceUpload) :
    Except EvidenceError Unit := do
  revertIf (input.bytes = []) (.Service (.ValidationError ["Evidence file must not be empty"]))
  revertIf (input.bytes.length > ctx.maxFileSizeBytes)
    (.PayloadTooLargeError "Uploaded file exceeds the configured size limit")
  let contentType := lib.toLowerCase input.contentType
  revertIf (contentType ∉ ctx.allowedMimeTypes)
    (.UnsupportedMediaTypeError "Unsupported evidence content type")
  revertIf (contentType = "application/pdf" ∧ input.bytes.take 5 ≠ utf8 "%PDF-")
    (.Service (.ValidationError ["PDF evidence has an invalid file signature"]))
  revertIf (contentType = "image/png" ∧ input.bytes.take 8 ≠ PNG_SIGNATURE)
    (.Service (.ValidationError ["PNG evidence has an invalid file signature"]))
  revertIf (contentType = "image/jpeg" ∧ ¬(input.bytes.take 2 = [0xff,0xd8] ∧
      input.bytes.drop (input.bytes.length - 2) = [0xff,0xd9]))
    (.Service (.ValidationError ["JPEG evidence has an invalid file signature"]))

/-- A character of a file name after both replacements, which take a surrogate pair for two. -/
def sanitizeChar (c : Char) : List Char :=
  if c.isAlphanum ∨ c ∈ ['_','.','(',')',' ','-'] then [c]
  else if c.toNat < 0x10000 then ['_'] else ['_','_']

def sanitizeFilename (filename : String) : String :=
  let normalized := jsTrim (String.ofList (filename.toList.flatMap sanitizeChar))
  if normalized = "" then "evidence" else String.ofList (normalized.toList.take 180)

section Requests
variable {H : Type} (lib : NodeLibrary) (ctx : EvidenceContext) (s : EvidenceSystem H)

/-- What `upload` saves, when the storage has taken the bytes. -/
def uploadChecked (jobId : String) (actor : EvidenceActor) (input : EvidenceUpload)
    (storage : EvidenceStorage) (uuid : String) : Except EvidenceError Evidence := do
  let job ← requireJob s.service.jobs jobId
  assertCanUpload job actor
  validateUpload lib ctx input
  let sha256 := hexText (lib.sha256 input.bytes)
  match storage.upload input.bytes input.contentType with
  | .error .EvidenceStorageError =>
    .error (.ServiceUnavailableError "Evidence storage is temporarily unavailable")
  | .error (.other message) => .error (.Service (.Error message))
  | .ok stored => do
    revertIf (stored.sizeBytes ≠ input.bytes.length)
      (.ServiceUnavailableError "Evidence storage rejected the uploaded object")
    pure
      { evidenceId := uuid, jobId, cid := stored.cid, sha256
        originalFilename := sanitizeFilename input.filename
        contentType := lib.toLowerCase input.contentType
        sizeBytes := input.bytes.length, uploadedBy := actor.identityId
        createdAt := ctx.now, updatedAt := ctx.now }

def upload (jobId : String) (actor : EvidenceActor) (input : EvidenceUpload)
    (storage : EvidenceStorage) (uuid : String) :
    EvidenceSystem H × Except EvidenceError Evidence :=
  match uploadChecked lib ctx s jobId actor input storage uuid with
  | .error e => (s,.error e)
  | .ok evidence => ({ s with evidence := s.evidence.save evidence },.ok evidence)

/-- The record of the job, for those who may view it. -/
def requireEvidence (jobId evidenceId : String) (actor : EvidenceActor) :
    Except EvidenceError Evidence := do
  let job ← requireJob s.service.jobs jobId
  assertCanView job actor
  match s.evidence.find evidenceId with
  | none => .error (.Service (.NotFoundError ("No evidence "++evidenceId)))
  | some evidence => do
    revertIf (evidence.jobId ≠ jobId) (.Service (.NotFoundError ("No evidence "++evidenceId)))
    pure evidence

def getHash (jobId evidenceId : String) (actor : EvidenceActor) : Except EvidenceError String := do
  let evidence ← requireEvidence s jobId evidenceId actor
  pure evidence.sha256

def download (jobId evidenceId : String) (actor : EvidenceActor) (storage : EvidenceStorage) :
    Except EvidenceError (Evidence × Bytes) := do
  let evidence ← requireEvidence s jobId evidenceId actor
  match storage.download evidence.cid with
  | .error .EvidenceStorageError =>
    .error (.ServiceUnavailableError "Evidence storage is temporarily unavailable")
  | .error (.other message) => .error (.Service (.Error message))
  | .ok bytes => do
    revertIf (hexText (lib.sha256 bytes) ≠ evidence.sha256 ∨ bytes.length ≠ evidence.sizeBytes)
      (.IntegrityError "Evidence integrity verification failed")
    pure (evidence,bytes)

end Requests
end EvidenceService

namespace JobsRoutes
open EvidenceService

/-- The body of `POST /jobs/:id/complete`. An evidence id or a signature that is no string counts as
absent; a hash may be absent, or something else than a string. -/
structure CompleteBody where
  evidenceHash : Option (Option String)
  evidenceId : Option String
  signature : Option String

/-- `s.replace(/^0x/, "")` -/
def withoutPrefix (s : String) : String :=
  if s.toList.take 2 = ['0','x'] then String.ofList (s.toList.drop 2) else s

section Completion
variable {H : Type} (lib : NodeLibrary) (s : EvidenceSystem H) (id : String) (user : User)
  (body : CompleteBody)

/-- The hash that accompanies an evidence id has to be that of the record. -/
def matchesStored (storedHash : String) : Option (Option String) → Bool
  | none => true
  | some none => false
  | some (some evidenceHash) => withoutPrefix (lib.toLowerCase evidenceHash) == storedHash

/-- The hash of the selected evidence, or else the one in the body. -/
def selectedHash : Except EvidenceError (Option String) :=
  match body.evidenceId.filter (fun evidenceId => jsTrim evidenceId ≠ "") with
  | none => .ok body.evidenceHash.join
  | some evidenceId => do
    let storedHash ← getHash s id evidenceId ⟨user.identityId,user.walletAddress,user.role⟩
    revertIf (matchesStored lib storedHash body.evidenceHash = false)
      (.Service (.ValidationError ["evidenceHash does not match the selected evidence"]))
    pure (some storedHash)

/-- What the route completes the job with. -/
def completionHash : Except EvidenceError String := do
  (requirePermission user .PERFORM_MAINTENANCE noContext).mapError .Service
  let evidenceHash ← selectedHash lib s id user body
  revertIf (jsTrim (evidenceHash.getD "") = "")
    (.Service (.ValidationError ["evidenceHash is required"]))
  pure (evidenceHash.getD "")

end Completion

variable {H : Type} [Keccak H] [DecidableEq H]

/-- `POST /jobs/:id/complete` -/
def complete (P : Platform) (lib : NodeLibrary) (ctx : JobsContext) (s : EvidenceSystem H)
    (id : String) (user : User) (body : CompleteBody) (d : Delivery) :
    EvidenceSystem H × Except EvidenceError Job :=
  match completionHash lib s id user body with
  | .error e => (s,.error e)
  | .ok evidenceHash =>
    let actor : JobActor := ⟨user.identityId,user.walletAddress,body.signature⟩
    let (service,result) := JobsService.mutate P ctx s.service id actor
      (JobsService.complete ctx actor evidenceHash) d
    ({ s with service },result.mapError .Service)

end JobsRoutes

/-- An upload, a completion, or whatever else happens to the jobs and the chain. -/
inductive EvidenceEvent
  | upload (ctx : EvidenceContext) (jobId : String) (actor : EvidenceActor) (input : EvidenceUpload)
      (storage : EvidenceStorage) (uuid : String)
  | complete (ctx : JobsContext) (id : String) (user : User) (body : JobsRoutes.CompleteBody)
      (d : Delivery)
  | service (event : JobEvent)

section Runs
variable {H : Type} [Keccak H] [DecidableEq H]

def EvidenceSystem.step (P : Platform) (lib : NodeLibrary) (s : EvidenceSystem H) :
    EvidenceEvent → EvidenceSystem H
  | .upload ctx jobId actor input storage uuid =>
    (EvidenceService.upload lib ctx s jobId actor input storage uuid).1
  | .complete ctx id user body d => (JobsRoutes.complete P lib ctx s id user body d).1
  | .service event => { s with service := s.service.step P event }

def EvidenceSystem.run (P : Platform) (lib : NodeLibrary) (s : EvidenceSystem H)
    (events : List EvidenceEvent) : EvidenceSystem H :=
  events.foldl (EvidenceSystem.step P lib) s

end Runs
end BelLedger
