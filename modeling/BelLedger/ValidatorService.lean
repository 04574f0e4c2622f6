import Mathlib.Data.List.Infix
import BelLedger.UsersService

/-!
# ValidatorServiceImpl

A row per validator. What a reader sees of its status is derived from the stored status and the
height of the chain at the time of reading.
-/
namespace BelLedger
open CheckedCalls TransitionRuns KeyedTables UsersService

inductive RegistrationStatus
  | PENDING | ACTIVE | REMOVAL_SCHEDULED | REMOVED
  deriving DecidableEq, Repr

structure ValidatorRegistration where
  registrationId : String
  validatorId : String
  identityId : String
  walletAddress : String
  nodeId : String
  nodeAddress : String
  publicKey : String
  signingPublicKey : String
  status : RegistrationStatus
  activationHeight : ℕ
  removalHeight : Option ℕ
  removalReason : Option String
  deriving DecidableEq

structure ValidatorSystem (H : Type) where
  validators : Table ValidatorRegistration.registrationId
  chain : World H
  head : ℕ

/-- `BEL_ENV`, the identities and users of the time, and the identifier that is drawn. -/
structure ValidatorContext where
  production : Bool
  repositories : Repositories
  uuid : String

namespace ValidatorService

section Validation

/-- `Number.isSafeInteger`, with the integer. -/
def safeInteger : Value → Option ℤ
  | .number q =>
    if q.den = 1 ∧ -Payloads.MAX_SAFE_INTEGER ≤ q.num ∧ q.num ≤ Payloads.MAX_SAFE_INTEGER then
      some q.num
    else none
  | _ => none

/-- `/private|secret|mnemonic|seed/i`. -/
def isSecret (key : String) : Bool :=
  ["private","secret","mnemonic","seed"].any
    (fun word => decide (word.toList <:+: key.toLower.toList))

/-- The trimmed text of a field; empty when it holds no string. -/
def text (input : Payload) (key : String) : String :=
  match input.get key with
  | .string s => jsTrim s
  | _ => ""

def metadataFields : List String := ["validatorId","nodeAddress","publicKey","signingPublicKey"]

/-- The errors that `assertMetadata` collects. -/
def metadataErrors (P : Platform) (input : Payload) : List String :=
  (metadataFields.filter (fun key => text input key = "")).map (fun key => key++" is required")++
  (match input.get "validatorId" with
    | .string s =>
      if P.parseAddress (jsTrim s) = none then ["validatorId must be a valid EVM address"] else []
    | _ => [])++
  (if input.any (fun entry => isSecret entry.1) then ["private key material must never be submitted"]
    else [])

def assertMetadata (P : Platform) (input : Payload) : Except ServiceError Unit :=
  revertIf (metadataErrors P input ≠ []) (.ValidationError (metadataErrors P input))

/-- `if (!input?.reason?.trim()) throw …`, and the trimmed reason. -/
def requireReason (input : Payload) : Except ServiceError String :=
  match input.get "reason" with
  | .null => .error (.ValidationError ["reason is required"])
  | .string s =>
    if jsTrim s = "" then .error (.ValidationError ["reason is required"]) else .ok (jsTrim s)
  | _ => .error (.Error "input.reason?.trim is not a function")

end Validation

section Rows

def effectiveRegistration (value : ValidatorRegistration) (head : ℕ) : ValidatorRegistration :=
  match value.status,value.removalHeight with
  | .PENDING,_ => if value.activationHeight ≤ head then { value with status := .ACTIVE } else value
  | .REMOVAL_SCHEDULED,some removalHeight =>
    if removalHeight ≤ head then { value with status := .REMOVED } else value
  | _,_ => value

variable {H : Type} (s : ValidatorSystem H)

def findByValidatorId (validatorId : String) : Option ValidatorRegistration :=
  s.validators.rows.find? (fun row => row.validatorId = validatorId)

def get (id : String) : Except ServiceError ValidatorRegistration :=
  match (s.validators.find id).orElse (fun _ => findByValidatorId s id) with
  | some value => .ok (effectiveRegistration value s.head)
  | none => .error (.NotFoundError ("Validator "++id++" was not found"))

def list : List ValidatorRegistration :=
  s.validators.rows.map (fun value => effectiveRegistration value s.head)

end Rows

section Operations
variable {H : Type}

def activeIdentity (r : Repositories) (id : String) : Except ServiceError Identity :=
  match r.identities.find id with
  | some value =>
    if value.status = .ACTIVE then .ok value
    else .error (.ForbiddenError "An active identity is required")
  | none => .error (.ForbiddenError "An active identity is required")

def admin (r : Repositories) (id : String) : Except ServiceError Identity := do
  let identity ← activeIdentity r id
  revertIf (identity.role ≠ some .ADMIN)
    (.ForbiddenError "Only an active admin may manage validators")
  pure identity

/-- `user?.walletAddress ?? SYSTEM_WALLET`. -/
def walletOf (r : Repositories) (actor : Identity) : String :=
  ((r.findByIdentityId actor.identityId).map User.walletAddress).getD "SYSTEM"

/-- A checked request: what is submitted about `registration`, and the row that is saved after. -/
structure Operation where
  type : TransactionType
  actor : Identity
  registration : ValidatorRegistration
  extra : Payload
  saved : ValidatorRegistration

def addValidator (P : Platform) (ctx : ValidatorContext) (s : ValidatorSystem H) (actorId : String)
    (input : Payload) : Except ServiceError Operation := do
  let actor ← admin ctx.repositories actorId
  assertMetadata P input
  let validatorId := text input "validatorId"
  let existing := findByValidatorId s validatorId
  revertIf (∃ row ∈ existing,row.status ≠ .REMOVED)
    (.ConflictError "Validator is already active or scheduled")
  match safeInteger (input.get "activationHeight") with
  | none => .error (.ValidationError
      ["activationHeight must be greater than current chain height "++toString s.head])
  | some activationHeight =>
    revertIf (activationHeight ≤ s.head) (.ValidationError
      ["activationHeight must be greater than current chain height "++toString s.head])
    let registration : ValidatorRegistration :=
      { registrationId := (existing.map ValidatorRegistration.registrationId).getD ("VREG:"++ctx.uuid)
        validatorId
        identityId := actor.identityId
        walletAddress := walletOf ctx.repositories actor
        nodeId := validatorId
        nodeAddress := text input "nodeAddress"
        publicKey := text input "publicKey"
        signingPublicKey := text input "signingPublicKey"
        status := if activationHeight > s.head then .PENDING else .ACTIVE
        activationHeight := activationHeight.toNat
        removalHeight := none
        removalReason := none }
    pure ⟨.VALIDATOR_ADD,actor,registration,[],registration⟩

def removeValidator (ctx : ValidatorContext) (s : ValidatorSystem H) (actorId id : String)
    (input : Payload) : Except ServiceError Operation := do
  let actor ← admin ctx.repositories actorId
  match safeInteger (input.get "removalHeight") with
  | none => .error (.ValidationError ["removalHeight must be a positive integer"])
  | some removalHeight =>
    revertIf (removalHeight < 1) (.ValidationError ["removalHeight must be a positive integer"])
    let reason ← requireReason input
    let registration ← get s id
    revertIf (registration.status ≠ .PENDING ∧ registration.status ≠ .ACTIVE)
      (.ConflictError "Validator is not removable in its current state")
    revertIf (removalHeight ≤ s.head ∨ removalHeight ≤ registration.activationHeight)
      (.ValidationError ["removalHeight must be greater than current chain height "++
        toString s.head++" and activation height"])
    pure ⟨.VALIDATOR_REMOVE,actor,registration,
      [("removalHeight",.number removalHeight),("reason",.string reason)],
      { registration with
        status := .REMOVAL_SCHEDULED
        removalHeight := some removalHeight.toNat
        removalReason := some reason }⟩

def restored (registration : ValidatorRegistration) : ValidatorRegistration :=
  { registration with status := .ACTIVE, removalHeight := none, removalReason := none }

def restoreValidator (ctx : ValidatorContext) (s : ValidatorSystem H) (actorId id : String)
    (input : Payload) : Except ServiceError Operation := do
  let actor ← admin ctx.repositories actorId
  let reason ← requireReason input
  let registration ← get s id
  -- `effectiveStatus` derives once more what `get` has derived from the same head
  let effective := effectiveRegistration registration s.head
  let removalHeight := registration.removalHeight.getD 0
  revertIf (effective.status ≠ .REMOVED ∨ removalHeight = 0 ∨ removalHeight > s.head)
    (.ConflictError ("Only a validator whose removal is effective can be restored; "++
      "cancel a scheduled removal instead"))
  pure ⟨.VALIDATOR_RESTORE,actor,registration,[("reason",.string reason)],restored registration⟩

def cancelScheduledRemoval (ctx : ValidatorContext) (s : ValidatorSystem H) (actorId id : String)
    (input : Payload) : Except ServiceError Operation := do
  let actor ← admin ctx.repositories actorId
  let reason ← requireReason input
  let registration ← get s id
  revertIf (registration.status ≠ .REMOVAL_SCHEDULED)
    (.ConflictError "Only a scheduled removal can be cancelled")
  pure ⟨.VALIDATOR_REMOVE_CANCEL,actor,registration,[("reason",.string reason)],
    restored registration⟩

end Operations

section Submission
variable {H : Type} [Keccak H] [DecidableEq H]

def envelope (ctx : ValidatorContext) (op : Operation) : Envelope :=
  { type := op.type
    actorWallet := walletOf ctx.repositories op.actor
    payload :=
      [("validatorId",.string op.registration.validatorId),
        ("nodeAddress",.string op.registration.nodeAddress),
        ("publicKey",.string op.registration.publicKey),
        ("signingPublicKey",.string op.registration.signingPublicKey),
        ("activationHeight",.number op.registration.activationHeight)]++op.extra }

/-- The event of a call that did not revert is the expected one. -/
def submit (P : Platform) (ctx : ValidatorContext) (w : World H) (op : Operation) (d : Delivery) :
    World H × Except ServiceError Unit :=
  if ctx.production then
    (w,.error (.ForbiddenError ("Production validator transactions require the configured "++
      "device-signed transaction provider")))
  else
    match EvmAdapter.submitTransaction P w (envelope ctx op) d with
    | (w',.ok .SUCCESS) => (w',.ok ())
    | (w',.ok (.REJECTED revert)) => (w',.error (.Rejected op.type revert))
    | (w',.error e) => (w',.error (.Blockchain e))

/-- The common end of the four operations: submit, then save. -/
def conclude (P : Platform) (ctx : ValidatorContext) (s : ValidatorSystem H)
    (checked : Except ServiceError Operation) (d : Delivery) :
    ValidatorSystem H × Except ServiceError ValidatorRegistration :=
  match checked with
  | .error e => (s,.error e)
  | .ok op =>
    match submit P ctx s.chain op d with
    | (chain,.error e) => ({ s with chain },.error e)
    | (chain,.ok ()) => ({ s with validators := s.validators.save op.saved, chain },.ok op.saved)

end Submission

end ValidatorService

inductive ValidatorRequest
  | addValidator (actorId : String) (input : Payload)
  | removeValidator (actorId id : String) (input : Payload)
  | restoreValidator (actorId id : String) (input : Payload)
  | cancelScheduledRemoval (actorId id : String) (input : Payload)

def ValidatorRequest.check {H : Type} (P : Platform) (ctx : ValidatorContext)
    (s : ValidatorSystem H) : ValidatorRequest → Except ServiceError ValidatorService.Operation
  | addValidator actorId input => ValidatorService.addValidator P ctx s actorId input
  | removeValidator actorId id input => ValidatorService.removeValidator ctx s actorId id input
  | restoreValidator actorId id input => ValidatorService.restoreValidator ctx s actorId id input
  | cancelScheduledRemoval actorId id input =>
    ValidatorService.cancelScheduledRemoval ctx s actorId id input

/-- Blocks pass, somebody else's transaction is mined, or a request is made whose transaction waits
for `delay` blocks. -/
inductive ValidatorEvent
  | advance (blocks : ℕ)
  | external (tx : Tx)
  | request (ctx : ValidatorContext) (request : ValidatorRequest) (delay : ℕ) (d : Delivery)

section Runs
variable {H : Type} [Keccak H] [DecidableEq H]

def Fate.mines : Fate → Bool
  | .dropped _ => false
  | .mined | .lost _ => true

/-- A transaction that waits for `delay` blocks is in the block of this delivery. -/
def ValidatorSystem.deliver (s : ValidatorSystem H) (delay : ℕ) (d : Delivery) : Delivery :=
  { d with number := s.head + 1 + delay }

def ValidatorSystem.step (P : Platform) (s : ValidatorSystem H) : ValidatorEvent → ValidatorSystem H
  | .advance blocks => { s with head := s.head + blocks }
  | .external tx => { s with chain := attempt exec s.chain tx }
  | .request ctx request delay d =>
    { (ValidatorService.conclude P ctx s (request.check P ctx s) (s.deliver delay d)).1 with
      head := if d.fate.mines then s.head + 1 + delay else s.head }

def ValidatorSystem.run (P : Platform) (s : ValidatorSystem H) (events : List ValidatorEvent) :
    ValidatorSystem H :=
  events.foldl (ValidatorSystem.step P) s

end Runs
end BelLedger
