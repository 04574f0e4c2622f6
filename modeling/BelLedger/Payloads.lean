import BelLedger.JsStrings
import BelLedger.RegistrySet
import Mathlib.Algebra.Group.Int.Defs

/-!
# The payload contract: which contract call a transaction envelope stands for

`isAddress` and `getAddress` of the EVM library are one parameter `parseAddress`, and `Date.parse`
is a parameter that returns milliseconds, or `none` for `NaN`.
-/
namespace BelLedger
open CheckedCalls

inductive TransactionType
  | IDENTITY_CREATE | IDENTITY_REGISTER | ROLE_ASSIGN | ROLE_REVOKE | WALLET_REGISTER
  | WALLET_ACTIVATE | WALLET_REVOKE | ASSET_MINT | ASSET_TRANSFER | ASSET_STATE_CHANGE | JOB_CREATE
  | JOB_ASSIGN | JOB_START | JOB_COMPLETE | JOB_APPROVE | JOB_REJECT | COMPONENT_ATTACH
  | COMPONENT_REMOVE | VALIDATOR_ADD | VALIDATOR_REMOVE | VALIDATOR_RESTORE
  | VALIDATOR_REMOVE_CANCEL | GRANT_CREATE | GRANT_REVOKE
  deriving DecidableEq, Repr

def TransactionType.name : TransactionType → String
  | IDENTITY_CREATE => "IDENTITY_CREATE"
  | IDENTITY_REGISTER => "IDENTITY_REGISTER"
  | ROLE_ASSIGN => "ROLE_ASSIGN"
  | ROLE_REVOKE => "ROLE_REVOKE"
  | WALLET_REGISTER => "WALLET_REGISTER"
  | WALLET_ACTIVATE => "WALLET_ACTIVATE"
  | WALLET_REVOKE => "WALLET_REVOKE"
  | ASSET_MINT => "ASSET_MINT"
  | ASSET_TRANSFER => "ASSET_TRANSFER"
  | ASSET_STATE_CHANGE => "ASSET_STATE_CHANGE"
  | JOB_CREATE => "JOB_CREATE"
  | JOB_ASSIGN => "JOB_ASSIGN"
  | JOB_START => "JOB_START"
  | JOB_COMPLETE => "JOB_COMPLETE"
  | JOB_APPROVE => "JOB_APPROVE"
  | JOB_REJECT => "JOB_REJECT"
  | COMPONENT_ATTACH => "COMPONENT_ATTACH"
  | COMPONENT_REMOVE => "COMPONENT_REMOVE"
  | VALIDATOR_ADD => "VALIDATOR_ADD"
  | VALIDATOR_REMOVE => "VALIDATOR_REMOVE"
  | VALIDATOR_RESTORE => "VALIDATOR_RESTORE"
  | VALIDATOR_REMOVE_CANCEL => "VALIDATOR_REMOVE_CANCEL"
  | GRANT_CREATE => "GRANT_CREATE"
  | GRANT_REVOKE => "GRANT_REVOKE"

/-- `ROLES`, in the order of `IRoleRegistry.Role`. -/
def ROLES : List Role := [.ADMIN,.MANAGER,.ENGINEER,.TECHNICIAN,.AUDITOR,.ISSUER,.VERIFIER]

def Role.name : Role → String
  | ADMIN => "ADMIN"
  | MANAGER => "MANAGER"
  | ENGINEER => "ENGINEER"
  | TECHNICIAN => "TECHNICIAN"
  | AUDITOR => "AUDITOR"
  | ISSUER => "ISSUER"
  | VERIFIER => "VERIFIER"

inductive BlockchainErrorKind
  | INVALID_PAYLOAD | UNSUPPORTED_TRANSACTION | NOT_FOUND | CONFIG | SIGNER | NETWORK | TIMEOUT
  | REVERTED
  deriving DecidableEq, Repr

structure BlockchainError where
  kind : BlockchainErrorKind
  message : String
  deriving DecidableEq, Repr

/-- A field of a payload. A number is finite; `other` carries the result of `String(value)`. -/
inductive Value
  | null
  | string (s : String)
  | number (q : Rat)
  | bigint (n : ℤ)
  | other (text : String)
  deriving DecidableEq

abbrev Payload := List (String × Value)

/-- `p[k]`, with an absent field as `null`. -/
def Payload.get (p : Payload) (k : String) : Value := (p.lookup k).getD .null

theorem Payload.get_nil (k : String) : Payload.get [] k = .null := rfl

theorem Payload.get_cons (key : String) (v : Value) (p : Payload) (k : String) :
    Payload.get ((key,v)::p) k = if k = key then v else p.get k := by
  by_cases hk : k = key
  · simp [Payload.get,hk]
  · have hbeq : (k == key) = false := by simpa using hk
    simp [Payload.get,List.lookup_cons,hbeq,hk]

/-- A field that is a string. -/
def Payload.text (p : Payload) (k : String) : Option String :=
  match p.get k with
  | .string s => some s
  | _ => none

/-- `{ ...p, ...q }` -/
def Payload.spread (p q : Payload) : Payload :=
  p.filter (fun entry => (q.lookup entry.1).isNone)++q

/-- The on-chain lookups needed to resolve references of a payload. -/
structure ChainLookups where
  /-- `0` when the asset was never minted. -/
  nftIdOf : String → ℕ
  walletOfIdentity : String → Bool → Option Address

namespace Payloads

def invalid {α : Type} (type : TransactionType) (message : String) : Except BlockchainError α :=
  .error ⟨.INVALID_PAYLOAD,type.name++": "++message⟩

def «field» (keys : List String) : String := "payload."++keys.headD ""

/-- `str` with `required = false`: the first key that holds a non-blank string, trimmed. -/
def optionalStr (p : Payload) (keys : List String) : Option String :=
  keys.findSome? (fun k =>
    match p.get k with
    | .string v => if jsTrim v ≠ "" then some (jsTrim v) else none
    | _ => none)

def str (type : TransactionType) (p : Payload) (keys : List String) :
    Except BlockchainError String :=
  match optionalStr p keys with
  | some v => .ok v
  | none => invalid type («field» keys++" is required")

/-- A string found in a payload is the trimmed text of one of the keys. -/
theorem optionalStr_eq_some {p : Payload} {keys : List String} {v : String}
    (h : optionalStr p keys = some v) :
    ∃ k ∈ keys,∃ text,p.get k = .string text ∧ jsTrim text ≠ "" ∧ v = jsTrim text := by
  obtain ⟨k,hk,hfound⟩ := List.exists_of_findSome?_eq_some h
  refine ⟨k,hk,?_⟩
  split at hfound
  · rename_i text htext
    split at hfound
    · rename_i hblank
      exact ⟨text,htext,hblank,(Option.some.inj hfound).symm⟩
    · cases hfound
  · cases hfound

theorem optionalStr_head {p : Payload} {k text : String} {keys : List String}
    (h : p.get k = .string text) (hblank : jsTrim text ≠ "") :
    optionalStr p (k::keys) = some (jsTrim text) := by
  simp [optionalStr,h,hblank]

theorem str_eq_ok {type : TransactionType} {p : Payload} {keys : List String} {v : String}
    (h : str type p keys = .ok v) : optionalStr p keys = some v := by
  unfold str at h
  split at h
  · rename_i u hu
    rw [hu,Except.ok.inj h]
  · cases h

/-- A field that only one of the keys carries. -/
theorem optionalStr_only {p : Payload} (key text : String) {keys : List String} {v : String}
    (hkey : p.get key = .string text) (honly : ∀ k ∈ keys,k = key ∨ p.get k = .null)
    (h : optionalStr p keys = some v) : v = jsTrim text ∧ jsTrim text ≠ "" := by
  obtain ⟨k,hk,found,hfound,hblank,rfl⟩ := optionalStr_eq_some h
  rcases honly k hk with rfl | hnull
  · obtain rfl := Value.string.inj (hkey.symm.trans hfound)
    exact ⟨rfl,hblank⟩
  · rw [hnull] at hfound
    cases hfound

variable (parseAddress : String → Option Address)

def optionalAddress (type : TransactionType) (p : Payload) (keys : List String) :
    Except BlockchainError (Option Address) :=
  match optionalStr p keys with
  | none => .ok none
  | some v =>
    match parseAddress v with
    | none => invalid type («field» keys++" is not a valid address")
    | some a => .ok (some a)

def requiredAddress (type : TransactionType) (p : Payload) (keys : List String) :
    Except BlockchainError Address := do
  match ← optionalAddress parseAddress type p keys with
  | some a => pure a
  | none => invalid type («field» keys++" is required")

theorem requiredAddress_eq_ok {parseAddress : String → Option Address} {type : TransactionType}
    {p : Payload} {keys : List String} {a : Address}
    (h : requiredAddress parseAddress type p keys = .ok a) :
    ∃ v,optionalStr p keys = some v ∧ parseAddress v = some a := by
  obtain ⟨found,hfound,h⟩ := ok_bind_iff.mp h
  cases found with
  | none => cases h
  | some b =>
    obtain rfl := ok_pure_iff.mp h
    unfold optionalAddress at hfound
    split at hfound
    · cases hfound
    · rename_i v hv
      split at hfound
      · cases hfound
      · rename_i c hc
        obtain rfl := Option.some.inj (Except.ok.inj hfound)
        exact ⟨v,hv,hc⟩

/-- A DID or an address; a DID is resolved to a wallet of the identity. -/
def party (type : TransactionType) (p : Payload) (keys : List String) (lookups : ChainLookups)
    (requireActive : Bool) : Except BlockchainError Address := do
  let ref ← str type p keys
  match parseAddress ref with
  | some a => pure a
  | none =>
    match lookups.walletOfIdentity ref requireActive with
    | some a => pure a
    | none => .error ⟨.NOT_FOUND,type.name++": identity "++ref++" has no "++
        (if requireActive then "ACTIVE " else "")++"wallet on-chain"⟩

def MAX_SAFE_INTEGER : ℤ := 2 ^ 53 - 1

/-- `Number.isSafeInteger(q) && q > 0`. -/
def positiveSafeInteger (q : Rat) : Bool := q.den == 1 && 0 < q.num && q.num ≤ MAX_SAFE_INTEGER

/-- The positive token number that a value of an `nftKeys` field denotes. -/
def nftNumber : Value → Option ℕ
  | .string v => if isDecimal v ∧ 0 < decimalValue v then some (decimalValue v) else none
  | .number q => if positiveSafeInteger q then some q.num.toNat else none
  | .bigint n => if 0 < n then some n.toNat else none
  | _ => none

theorem nftNumber_toString {n : ℕ} (hn : 0 < n) : nftNumber (.string (toString n)) = some n := by
  simp only [nftNumber,isDecimal_toString,decimalValue_toString,hn,and_self,if_true]

def nftRef (type : TransactionType) (p : Payload) (idKeys nftKeys : List String)
    (lookups : ChainLookups) : Except BlockchainError ℕ :=
  match nftKeys.findSome? (fun k => nftNumber (p.get k)) with
  | some n => .ok n
  | none =>
    match optionalStr p idKeys with
    | none => invalid type («field» idKeys++" or "++«field» nftKeys++" is required")
    | some assetId =>
      if lookups.nftIdOf assetId = 0 then
        .error ⟨.NOT_FOUND,type.name++": asset "++assetId++" is not registered on-chain"⟩
      else .ok (lookups.nftIdOf assetId)

/-- A token number goes before the asset id. -/
theorem nftRef_of_number {type : TransactionType} {p : Payload} {idKeys nftKeys : List String}
    {key : String} {lookups : ChainLookups} {n : ℕ} (h : p.get key = .string (toString n))
    (hn : 0 < n) : nftRef type p idKeys (key::nftKeys) lookups = .ok n := by
  simp only [nftRef,List.findSome?_cons,h,nftNumber_toString hn]

def roleIndex (type : TransactionType) (p : Payload) : Except BlockchainError Role := do
  let role ← str type p ["role"]
  match ROLES.find? (fun r => r.name = role) with
  | some r => pure r
  | none => invalid type ("unknown role "++role)

def normalizeBytes32 (type : TransactionType) (value : String) : Except BlockchainError Bytes32 :=
  let hex := if value.toList.take 2 = ['0','x'] ∨ value.toList.take 2 = ['0','X']
    then String.ofList (value.toList.drop 2) else value
  if isHex64 hex = false then
    invalid type "evidenceHash must be a 32-byte hex string (e.g. a SHA-256 digest)"
  else if hex.toList.all (· == '0') then invalid type "evidenceHash must not be zero"
  else .ok (BitVec.ofNat 256 (hexValue hex.toList))

def grantExpiry (dateParse : String → Option ℤ) (type : TransactionType) (p : Payload) :
    Except BlockchainError ℕ :=
  let seconds : Option ℤ :=
    match p.get "expiresAt" with
    | .null => some 0
    | .string s => if s = "" then some 0 else (dateParse s).map (fun ms => ms / 1000)
    | .number q => some q.floor
    | .bigint n => (dateParse (toString n)).map (fun ms => ms / 1000)
    | .other text => (dateParse text).map (fun ms => ms / 1000)
  match seconds with
  | some s => if s < 0 ∨ 2 ^ 64 < s then invalid type "payload.expiresAt is invalid" else .ok s.toNat
  | none => invalid type "payload.expiresAt is invalid"

/-- A positive integer height given as a number. -/
def height (type : TransactionType) (p : Payload) (key : String) : Except BlockchainError ℕ :=
  match p.get key with
  | .number q =>
    if positiveSafeInteger q then .ok q.num.toNat
    else invalid type ("payload."++key++" must be a positive integer")
  | _ => invalid type ("payload."++key++" must be a positive integer")

def ASSET_STATUSES : List String := ["ACTIVE","IN_MAINTENANCE","DECOMMISSIONED"]

def walletKeys : List String := ["walletAddress","address","wallet"]
def validatorKeys : List String := ["validatorId","validator","address"]
def newOwnerKeys : List String := ["newOwnerId","newOwnerWallet","newOwner"]

def buildCallPlan (dateParse : String → Option ℤ) (type : TransactionType) (p : Payload)
    (lookups : ChainLookups) : Except BlockchainError Call :=
  match type with
  | .VALIDATOR_ADD => do
    let validator ← requiredAddress parseAddress type p validatorKeys
    let publicKey ← str type p ["publicKey"]
    let signingPublicKey ← str type p ["signingPublicKey"]
    let activationHeight ← height type p "activationHeight"
    pure (.addValidator validator (utf8 publicKey) (utf8 signingPublicKey) activationHeight)
  | .VALIDATOR_REMOVE => do
    let validator ← requiredAddress parseAddress type p validatorKeys
    let removalHeight ← height type p "removalHeight"
    let reason ← str type p ["reason"]
    pure (.removeValidator validator removalHeight (utf8 reason))
  | .VALIDATOR_RESTORE => do
    let validator ← requiredAddress parseAddress type p validatorKeys
    let reason ← str type p ["reason"]
    pure (.restoreValidator validator (utf8 reason))
  | .VALIDATOR_REMOVE_CANCEL => do
    let validator ← requiredAddress parseAddress type p validatorKeys
    let reason ← str type p ["reason"]
    pure (.cancelScheduledRemoval validator (utf8 reason))
  | .IDENTITY_CREATE | .IDENTITY_REGISTER | .WALLET_REGISTER => do
    let wallet ← requiredAddress parseAddress type p walletKeys
    let did ← str type p ["identityId","did"]
    pure (.createIdentity wallet (utf8 did))
  | .WALLET_ACTIVATE => do
    let wallet ← requiredAddress parseAddress type p walletKeys
    pure (.activateWallet wallet)
  | .WALLET_REVOKE => do
    let wallet ← requiredAddress parseAddress type p walletKeys
    let reason ← str type p ["reason"]
    pure (.revokeWallet wallet (utf8 reason))
  | .ROLE_ASSIGN | .ROLE_REVOKE => do
    -- any linked wallet, even a PENDING one, identifies the identity
    let target ← match ← optionalAddress parseAddress type p walletKeys with
      | some a => pure a
      | none => party parseAddress type p ["identityId"] lookups false
    let role ← roleIndex type p
    pure (if type = .ROLE_ASSIGN then .assignRole target role else .revokeRole target role)
  | .ASSET_MINT => do
    let assetId ← str type p ["assetId"]
    let owner ← party parseAddress type p ["ownerId","ownerWallet","owner"] lookups true
    pure (.mintAsset (utf8 assetId) owner)
  | .ASSET_TRANSFER => do
    let newOwner ← str type p newOwnerKeys
    match optionalStr p ["newCustodianId"] with
    | some custodian =>
      if custodian ≠ newOwner then .error ⟨.UNSUPPORTED_TRANSACTION,
        "ASSET_TRANSFER: a custodian different from the new owner cannot be recorded on-chain "++
        "(IAssetRegistry.transferAsset moves both together)"⟩
      else pure ()
    | none => pure ()
    let nftId ← nftRef type p ["assetId"] ["nftId"] lookups
    let receiver ← party parseAddress type p newOwnerKeys lookups true
    pure (.transferAsset nftId receiver)
  | .GRANT_CREATE | .GRANT_REVOKE => do
    let _ ← str type p ["actorIdentityId"]
    let grantId ← str type p ["authorizationGrantId"]
    let nftId ← nftRef type p ["resourceId","assetId"] ["nftId"] lookups
    let actor ← party parseAddress type p ["actorIdentityId"] lookups true
    let expiresAt ← grantExpiry dateParse type p
    pure (.setTransferGrant nftId actor expiresAt (type = .GRANT_CREATE) (utf8 grantId))
  | .ASSET_STATE_CHANGE => do
    let state ← str type p ["newState","status"]
    if state ∉ ASSET_STATUSES then invalid type ("unknown asset state "++state)
    else
      let nftId ← nftRef type p ["assetId"] ["nftId"] lookups
      pure (.changeAssetState nftId (utf8 state))
  | .COMPONENT_ATTACH | .COMPONENT_REMOVE => do
    let parent ← nftRef type p ["parentAssetId"] ["parentNftId"] lookups
    let component ← nftRef type p ["componentAssetId","componentId"] ["componentNftId"] lookups
    pure (if type = .COMPONENT_ATTACH then .attachComponent parent component
      else .removeComponent parent component)
  | .JOB_CREATE => do
    let jobId ← str type p ["jobId"]
    let assetNftId ← nftRef type p ["assetId"] ["assetNftId"] lookups
    pure (.createJob (utf8 jobId) assetNftId)
  | .JOB_ASSIGN => do
    let jobId ← str type p ["jobId"]
    let technician ← party parseAddress type p ["technicianId","technicianWallet","technician"]
      lookups true
    pure (.assignJob (utf8 jobId) technician)
  | .JOB_START => do
    let jobId ← str type p ["jobId"]
    pure (.startJob (utf8 jobId))
  | .JOB_COMPLETE => do
    let jobId ← str type p ["jobId"]
    let evidence ← str type p ["evidenceHash"]
    let evidenceHash ← normalizeBytes32 type evidence
    pure (.completeJob (utf8 jobId) evidenceHash)
  | .JOB_APPROVE => do
    let jobId ← str type p ["jobId"]
    pure (.approveJob (utf8 jobId))
  | .JOB_REJECT => do
    let jobId ← str type p ["jobId"]
    let reason ← str type p ["reason"]
    pure (.rejectJob (utf8 jobId) (utf8 reason))

end Payloads
end BelLedger
