import BelLedger.EffectPrograms
import BelLedger.EvmAdapter
import BelLedger.KeyedTables

/-!
# AssetsServiceImpl over the EVM adapter

The chain is authoritative for token, owner, custodian, parent and status; the index and the
repository supply what the chain does not store. A request is a program whose calls are the awaits,
cut in two where it submits.
-/
namespace BelLedger
open CheckedCalls KeyedTables EffectPrograms Prog

inductive AssetStatus
  | ACTIVE | IN_MAINTENANCE | DECOMMISSIONED
  deriving DecidableEq, Repr

namespace AssetStatus

def name : AssetStatus → String
  | ACTIVE => "ACTIVE"
  | IN_MAINTENANCE => "IN_MAINTENANCE"
  | DECOMMISSIONED => "DECOMMISSIONED"

/-- The state of the same name in AssetRegistry. -/
def onChain : AssetStatus → AssetState
  | ACTIVE => .ACTIVE
  | IN_MAINTENANCE => .IN_MAINTENANCE
  | DECOMMISSIONED => .DECOMMISSIONED

theorem onChain_ne_none (s : AssetStatus) : s.onChain ≠ .NONE := by cases s <;> decide

theorem onChain_injective : Function.Injective onChain := by
  intro a b
  cases a <;> cases b <;> simp [onChain]

end AssetStatus

/-- The members of `ASSET_STATUSES`. -/
def assetStatuses : List AssetStatus := [.ACTIVE,.IN_MAINTENANCE,.DECOMMISSIONED]

/-- A parent that is `none` is undefined, one that is `some none` is null. -/
structure Asset where
  assetId : String
  nftId : String
  assetType : String
  ownerId : String
  custodianId : String
  parentAssetId : Option (Option String)
  status : AssetStatus
  deriving DecidableEq

/-- The parent, when it is neither undefined nor null. -/
def Asset.parent (row : Asset) : Option String := row.parentAssetId.join

structure AssetActor where
  identityId : String
  walletAddress : String
  signature : Option String
  deriving DecidableEq

/-- The mode, the identity lookup, `getAddress`, the asset types that the metadata provider of the
adapter knows, and how many rounds of the cycle check are followed. -/
structure AssetsContext where
  evm : Bool
  identityExists : Option (String → Bool)
  checksum : Address → String
  assetType : String → Option String
  rounds : ℕ

/-- The index of the service, the repository and the chain. -/
structure AssetsSystem (H : Type) where
  assets : String → Option Asset
  repository : Table Asset.assetId
  chain : World H

namespace EvmAdapter

variable {H : Type} [Keccak H] [DecidableEq H]

/-- A view call; the message of its failure goes on with the decoded revert. -/
def read {α : Type} (r : Except Revert α) : Except ServiceError α :=
  r.mapError (fun _ => .Blockchain ⟨.NOT_FOUND,"On-chain read failed"⟩)

/-- A string result, which has to be well-formed UTF-8. -/
def decoded (bytes : Bytes) : Except ServiceError String :=
  match String.fromUTF8? ⟨bytes.toArray⟩ with
  | some text => .ok text
  | none => .error (.Blockchain ⟨.NETWORK,"Blockchain read failed: invalid codepoint"⟩)

def identityOrAddress (checksum : Address → String) (w : World H) (address : Address) :
    Except ServiceError String := do
  let did ← decoded (IdentityRegistry.identityOf w.identity address)
  pure (if did = "" then checksum address else did)

/-- The asset id of a parent token. -/
def parentAssetId (w : World H) (parent : ℕ) : Except ServiceError (Option String) :=
  if parent = 0 then .ok none
  else do
    let record ← read (AssetRegistry.existing w.assets parent)
    let text ← decoded record.assetId
    pure (some text)

/-- The cast of the state's name to a status. -/
def statusNamed (state : Bytes) : AssetStatus :=
  (assetStatuses.find? (fun s => utf8 s.name = state)).getD .ACTIVE

/-- The cast never meets another name. -/
theorem statusNamed_onChain (s : AssetStatus) : statusNamed (AssetRegistry.stateName s.onChain) = s := by
  cases s <;> decide +kernel

def getAsset (ctx : AssetsContext) (w : World H) (id : String) :
    Except ServiceError (Option Asset) :=
  let nftId := AssetRegistry.nftIdOf w.assets (utf8 id)
  if nftId = 0 then .ok none
  else do
    let record ← read (AssetRegistry.existing w.assets nftId)
    let owner ← read (AssetRegistry.ownerOfAsset w.assets nftId)
    let state ← read (AssetRegistry.stateOf w.assets nftId)
    let parent ← parentAssetId w record.parent
    let ownerId ← identityOrAddress ctx.checksum w owner
    let custodianId ← identityOrAddress ctx.checksum w record.custodian
    pure (some
      { assetId := id, nftId := toString nftId, assetType := (ctx.assetType id).getD "", ownerId,
        custodianId, parentAssetId := some parent, status := statusNamed state })

/-- The token number in the AssetMinted event of a transaction that led to this state. -/
def mintedNftId (type : TransactionType) (w : World H) : Option String :=
  if type = .ASSET_MINT then some (toString (w.assets.nextId - 1)) else none

end EvmAdapter

namespace AssetsService

inductive AssetCall
  /-- `this.assets.get(id) ?? await this.repository.findById(id)`: one call, since `findById` reads its
  table in the turn in which the index is read. -/
  | cached (id : String)
  | getAsset (id : String)
  | set (id : String) (row : Asset)
  | save (row : Asset)
  | submit (tx : Envelope)

namespace AssetCall

abbrev Answer : AssetCall → Type
  | cached _ => Option Asset
  | getAsset _ => Except ServiceError (Option Asset)
  | set _ _ => Unit
  | save _ => Unit
  | submit _ => Except ServiceError (Option String)

variable {H : Type} [Keccak H] [DecidableEq H]

/-- A submission meets the delivery `d`. -/
def handle (P : Platform) (ctx : AssetsContext) (d : Delivery) (s : AssetsSystem H) :
    (c : AssetCall) → AssetsSystem H × c.Answer
  | cached id => (s,(s.assets id).orElse (fun _ => s.repository.find id))
  | getAsset id => (s,EvmAdapter.getAsset ctx s.chain id)
  | set id row => ({ s with assets := Function.update s.assets id (some row) },())
  | save row => ({ s with repository := s.repository.save row },())
  | submit tx =>
    match EvmAdapter.submitTransaction P s.chain tx d with
    | (chain,.ok .SUCCESS) => ({ s with chain },.ok (EvmAdapter.mintedNftId tx.type chain))
    | (chain,.ok (.REJECTED _)) =>
      ({ s with chain },.error (.Error ("Blockchain rejected "++tx.type.name)))
    | (chain,.error e) => ({ s with chain },.error (.Blockchain e))

end AssetCall

abbrev Program (α : Type) := Prog AssetCall.Answer ServiceError α

instance : Inhabited Delivery := ⟨⟨[],0,0,0,.mined⟩⟩

def mergeAsset (onChain : Asset) (cached : Option Asset) : Asset :=
  { onChain with
    assetId := if onChain.assetId ≠ "" then onChain.assetId else (cached.map Asset.assetId).getD ""
    assetType :=
      if onChain.assetType ≠ "" then onChain.assetType else (cached.map Asset.assetType).getD ""
    parentAssetId :=
      match onChain.parentAssetId with
      | none => some (cached.bind Asset.parent)
      | some parent => some parent }

def getById (id : String) : Program (Option Asset) := do
  let cached ← perform (AssetCall.cached id)
  let answer ← perform (AssetCall.getAsset id)
  let onChain ← done answer
  match onChain with
  | none => pure cached
  | some onChain => do
    let reconciled := mergeAsset onChain cached
    perform (AssetCall.set id reconciled)
    pure (some reconciled)

def requireAsset (id «field» : String) : Program Asset := do
  let asset ← getById id
  orThrow asset (if «field» = "assetId" then .NotFoundError ("No asset "++id)
    else .ValidationError [«field»++" "++id++" does not exist"])

def requiredString (value : Option String) («field» : String) : Program String := do
  throwIf (jsTrim (value.getD "") = "") (.ValidationError [«field»++" is required"])
  pure (jsTrim (value.getD ""))

/-- The `Partial<Asset>` that `create` takes. -/
structure AssetInput where
  assetId : Option String
  assetType : Option String
  ownerId : Option String
  custodianId : Option String
  parentAssetId : Option (Option String)

/-- The id asked for, or a random one. -/
def newAssetId (input : AssetInput) (uuid : String) : String :=
  let asked := jsTrim (input.assetId.getD "")
  if asked ≠ "" then asked else "AST-"++uuid

def requireParent (parentAssetId : Option String) : Program Unit :=
  match parentAssetId with
  | none => pure ()
  | some parentAssetId => do
    let _ ← requireAsset parentAssetId "parentAssetId"
    pure ()

/-- The signature of `requireActor`, trimmed; an absent one is blank. -/
def signatureOf (actor : Option AssetActor) : String :=
  ((actor.bind AssetActor.signature).map jsTrim).getD ""

def transaction (ctx : AssetsContext) (type : TransactionType) (actor : Option AssetActor)
    (payload : Payload) : Program Envelope := do
  let _ ← requiredString (actor.map AssetActor.identityId) "actorIdentity"
  let walletAddress ← requiredString (actor.map AssetActor.walletAddress) "actorWallet"
  throwIf (ctx.evm = true ∧ (signatureOf actor = "" ∨ signatureOf actor = "development"))
    (.Blockchain ⟨.SIGNER,"A device-signed raw transaction is required for EVM "++type.name⟩)
  pure ⟨type,walletAddress,payload⟩

/-- `if (this.identityExists && !(await this.identityExists(id))) throw …` -/
def requireIdentity (ctx : AssetsContext) (id : String) (message : String) : Program Unit :=
  throwIf ((ctx.identityExists.map (fun f => f id)).getD true = false) (.NotFoundError message)

def allowed : AssetStatus → List AssetStatus
  | .ACTIVE => [.IN_MAINTENANCE,.DECOMMISSIONED]
  | .IN_MAINTENANCE => [.ACTIVE,.DECOMMISSIONED]
  | .DECOMMISSIONED => []

def assertStateTransition (current next : AssetStatus) : Program Unit :=
  throwIf (next ∉ allowed current)
    (.ValidationError ["Invalid asset state transition: "++current.name++" -> "++next.name])

/-- Not an error of the source: the loop has not ended within the rounds that are followed. -/
def stillRunning : ServiceError := .Error "the cycle check is still running"

/-- The loop of `assertNoCycle`; an empty parent id ends it as a missing one does. -/
def climb (componentId : String) : ℕ → Option Asset → List String → Program Unit
  | rounds,current,visited =>
    match ((current.bind Asset.parent).filter (· ≠ "")),rounds with
    | none,_ => pure ()
    | some _,0 => done (.error stillRunning)
    | some parent,rounds + 1 => do
      let assetId := (current.map Asset.assetId).getD ""
      throwIf (assetId ∈ visited) (.ValidationError ["Asset component hierarchy contains a cycle"])
      throwIf (parent = componentId)
        (.ValidationError ["Component attachment would create a cycle"])
      let next ← getById parent
      climb componentId rounds next (assetId::visited)

def assertNoCycle (ctx : AssetsContext) (parentAssetId componentId : String) : Program Unit := do
  let current ← getById parentAssetId
  climb componentId ctx.rounds current []

/-- A custodian that is not given is the owner. -/
def custodianOrOwner (ownerId : String) (newCustodianId : Option String) : Program String :=
  match newCustodianId with
  | none => pure ownerId
  | some _ => requiredString newCustodianId "newCustodianId"

section Requests
variable (ctx : AssetsContext) (actor : Option AssetActor)

/-- `create` up to its submission: the envelope, and the row in case the chain cannot be read. -/
def createChecked (input : AssetInput) (uuid : String) : Program (Envelope × Asset) := do
  let assetType ← requiredString input.assetType "assetType"
  let ownerId ← requiredString input.ownerId "ownerId"
  let custodianId ← requiredString input.custodianId "custodianId"
  requireIdentity ctx ownerId "Asset owner and custodian identities must exist"
  requireIdentity ctx custodianId "Asset owner and custodian identities must exist"
  throwIf (custodianId ≠ ownerId) (.ValidationError ["custodianId must equal ownerId because "++
    "the frozen mintAsset interface mints custody to the owner"])
  let existing ← getById (newAssetId input uuid)
  throwIf (existing.isSome = true)
    (.ValidationError ["assetId "++newAssetId input uuid++" already exists"])
  requireParent input.parentAssetId.join
  let tx ← transaction ctx .ASSET_MINT actor
    [("assetId",.string (newAssetId input uuid)),("assetType",.string assetType),
      ("ownerId",.string ownerId),("custodianId",.string custodianId),
      ("parentAssetId",match input.parentAssetId.join with
        | some parentAssetId => .string parentAssetId
        | none => .null)]
  pure (tx,
    { assetId := newAssetId input uuid, nftId := "", assetType, ownerId, custodianId,
      parentAssetId := some input.parentAssetId.join, status := .ACTIVE })

/-- `transfer` up to its submission. -/
def transferChecked (id newOwnerId : String) (newCustodianId : Option String) :
    Program (Envelope × Asset) := do
  let asset ← requireAsset id "assetId"
  let ownerId ← requiredString (some newOwnerId) "newOwnerId"
  requireIdentity ctx ownerId ("No identity "++ownerId)
  let custodianId ← custodianOrOwner ownerId newCustodianId
  throwIf (custodianId ≠ ownerId) (.ValidationError ["newCustodianId must equal newOwnerId because "++
    "the frozen transferAsset interface moves custody with ownership"])
  throwIf (asset.status = .DECOMMISSIONED)
    (.ValidationError ["Asset "++id++" is decommissioned and cannot be transferred"])
  throwIf (asset.parent ≠ none)
    (.ValidationError ["Component "++id++" must be detached before transfer"])
  throwIf (asset.ownerId = ownerId)
    (.ValidationError ["Asset "++id++" is already owned by "++ownerId])
  let tx ← transaction ctx .ASSET_TRANSFER actor
    [("assetId",.string asset.assetId),("nftId",.string asset.nftId),
      ("newOwnerId",.string ownerId),("newCustodianId",.string custodianId)]
  pure (tx,{ asset with ownerId, custodianId })

def changeAssetStateChecked (id newState : String) : Program (Envelope × Asset) := do
  let newState ← orThrow (assetStatuses.find? (fun s => s.name = newState))
    (.ValidationError ["newState must be one of ACTIVE, IN_MAINTENANCE, DECOMMISSIONED"])
  let asset ← requireAsset id "assetId"
  assertStateTransition asset.status newState
  let tx ← transaction ctx .ASSET_STATE_CHANGE actor
    [("assetId",.string asset.assetId),("nftId",.string asset.nftId),
      ("previousState",.string asset.status.name),("newState",.string newState.name)]
  pure (tx,{ asset with status := newState })

/-- The payload of `attachComponent` and of `removeComponent`. -/
def componentPayload (parentAssetId componentId : String) (parent component : Asset) : Payload :=
  [("parentAssetId",.string parentAssetId),("parentNftId",.string parent.nftId),
    ("componentId",.string componentId),("componentNftId",.string component.nftId)]

def attachComponentChecked (parentAssetId componentId : String) : Program (Envelope × Asset) := do
  let parent ← requireAsset parentAssetId "parentAssetId"
  let component ← requireAsset componentId "componentId"
  throwIf (parentAssetId = componentId) (.ValidationError ["An asset cannot be attached to itself"])
  throwIf (parent.status = .DECOMMISSIONED ∨ component.status = .DECOMMISSIONED)
    (.ValidationError ["Decommissioned assets cannot be attached"])
  throwIf (component.parent ≠ none)
    (.ValidationError ["Component "++componentId++" is already attached"])
  assertNoCycle ctx parentAssetId componentId
  let tx ← transaction ctx .COMPONENT_ATTACH actor
    (componentPayload parentAssetId componentId parent component)
  pure (tx,{ component with parentAssetId := some (some parentAssetId) })

def removeComponentChecked (parentAssetId componentId : String) : Program (Envelope × Asset) := do
  let parent ← requireAsset parentAssetId "parentAssetId"
  let component ← requireAsset componentId "componentId"
  throwIf (component.parent ≠ some parentAssetId)
    (.ValidationError ["Component "++componentId++" is not attached to "++parentAssetId])
  let tx ← transaction ctx .COMPONENT_REMOVE actor
    (componentPayload parentAssetId componentId parent component)
  pure (tx,{ component with parentAssetId := some none })

/-- What `prepare` checks of a component; every other type than COMPONENT_ATTACH removes it. -/
def preparableComponent (type : TransactionType) (parentAssetId componentId : String)
    (parent component : Asset) : Program Unit :=
  if type = .COMPONENT_ATTACH then do
    throwIf (parentAssetId = componentId) (.ValidationError ["An asset cannot be attached to itself"])
    throwIf (parent.status = .DECOMMISSIONED ∨ component.status = .DECOMMISSIONED)
      (.ValidationError ["Decommissioned assets cannot be attached"])
    throwIf (component.parent ≠ none)
      (.ValidationError ["Component "++componentId++" is already attached"])
    assertNoCycle ctx parentAssetId componentId
  else
    throwIf (component.parent ≠ some parentAssetId)
      (.ValidationError ["Component "++componentId++" is not attached to "++parentAssetId])

/-- What `prepare` checks, a second time, and the payload it builds. A custodian that is undefined is
the owner. -/
def preparePayload (type : TransactionType) (input : Payload) : Program Payload :=
  match type with
  | .ASSET_TRANSFER => do
    let id ← requiredString (input.text "assetId") "assetId"
    let asset ← requireAsset id "assetId"
    let ownerId ← requiredString (input.text "newOwnerId") "newOwnerId"
    requireIdentity ctx ownerId ("No identity "++ownerId)
    let custodianId ← custodianOrOwner ownerId
      ((input.lookup "newCustodianId").map (fun _ => (input.text "newCustodianId").getD ""))
    throwIf (custodianId ≠ ownerId) (.ValidationError ["newCustodianId must equal newOwnerId because "++
      "the frozen transferAsset interface moves custody with ownership"])
    throwIf (asset.status = .DECOMMISSIONED)
      (.ValidationError ["Asset "++id++" is decommissioned and cannot be transferred"])
    throwIf (asset.parent ≠ none)
      (.ValidationError ["Component "++id++" must be detached before transfer"])
    throwIf (asset.ownerId = ownerId)
      (.ValidationError ["Asset "++id++" is already owned by "++ownerId])
    pure [("assetId",.string asset.assetId),("nftId",.string asset.nftId),
      ("newOwnerId",.string ownerId),("newCustodianId",.string custodianId)]
  | .ASSET_STATE_CHANGE => do
    let id ← requiredString (input.text "assetId") "assetId"
    let newState ← orThrow (assetStatuses.find? (fun s => some s.name = input.text "newState"))
      (.ValidationError ["newState must be one of ACTIVE, IN_MAINTENANCE, DECOMMISSIONED"])
    let asset ← requireAsset id "assetId"
    assertStateTransition asset.status newState
    pure [("assetId",.string asset.assetId),("nftId",.string asset.nftId),
      ("previousState",.string asset.status.name),("newState",.string newState.name)]
  | _ => do
    let parentAssetId ← requiredString (input.text "parentAssetId") "parentAssetId"
    let componentId ← requiredString (input.text "componentId") "componentId"
    let parent ← requireAsset parentAssetId "parentAssetId"
    let component ← requireAsset componentId "componentId"
    preparableComponent ctx type parentAssetId componentId parent component
    pure (componentPayload parentAssetId componentId parent component)

/-- The envelope whose call is prepared for the device. -/
def prepare (type : TransactionType) (input : Payload) (actor : AssetActor) : Program Envelope := do
  let payload ← preparePayload ctx type input
  pure ⟨type,actor.walletAddress,payload⟩

def reconcileAfterWrite (assetId : String) (nftId : Option String) (fallback : Asset) :
    Program Asset := do
  let answer ← perform (AssetCall.getAsset assetId)
  let onChain ← done answer
  match onChain,nftId.filter (· ≠ "") with
  | some onChain,_ => pure (mergeAsset onChain (some fallback))
  | none,some nftId => pure { fallback with nftId }
  | none,none =>
    done (.error (.Error ("Blockchain accepted, but asset "++assetId++" is not queryable")))

/-- How every write goes on: submit, reconcile, and store the row. -/
def settle (id : String) (planned : Envelope × Asset) : Program Asset := do
  let answer ← perform (AssetCall.submit planned.1)
  let nftId ← done answer
  let reconciled ← reconcileAfterWrite id nftId planned.2
  perform (AssetCall.set id reconciled)
  perform (AssetCall.save reconciled)
  pure reconciled

def create (input : AssetInput) (uuid : String) : Program Asset :=
  createChecked ctx actor input uuid >>= settle (newAssetId input uuid)

def transfer (id newOwnerId : String) (newCustodianId : Option String) : Program Asset :=
  transferChecked ctx actor id newOwnerId newCustodianId >>= settle id

def changeAssetState (id newState : String) : Program Asset :=
  changeAssetStateChecked ctx actor id newState >>= settle id

def attachComponent (parentAssetId componentId : String) : Program Asset :=
  attachComponentChecked ctx actor parentAssetId componentId >>= settle componentId

def removeComponent (parentAssetId componentId : String) : Program Asset :=
  removeComponentChecked ctx actor parentAssetId componentId >>= settle componentId

end Requests

end AssetsService
end BelLedger
