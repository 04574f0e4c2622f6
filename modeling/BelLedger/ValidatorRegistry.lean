import BelLedger.AccessControl

/-! # ValidatorRegistry: height-bound validator set with ADD, REMOVE, RESTORE and CANCEL -/
namespace BelLedger
open CheckedCalls

variable {H : Type} [Keccak H] [DecidableEq H]

namespace ValidatorRegistry

/-- The constructor's loop over the bootstrap validators. -/
def addBootstrap : List Address → List Address × (Address → Bool) →
    Except Revert (List Address × (Address → Bool))
  | [], done => .ok done
  | v :: vs, (bootstrap, isBootstrap) => do
    revertIf (v = 0) .InvalidValidator
    revertIf (isBootstrap v = true) .InvalidValidator
    addBootstrap vs (bootstrap ++ [v], Function.update isBootstrap v true)

/-- The constructor. -/
def deploy (env : Env) (minimumPopulation : ℕ) (bootstrapValidators : List Address) :
    Except Revert Storage := do
  revertIf (minimumPopulation = 0 ∨ bootstrapValidators.length < minimumPopulation) .InvalidHeight
  let (bootstrapValidators, isBootstrap) ← addBootstrap bootstrapValidators ([], fun _ => false)
  pure { access := { deployer := env.sender }
         minimumPopulation
         records := fun _ => ⟨false, 0, [], [], 0, 0, 0⟩
         validators := []
         bootstrapValidators
         isBootstrap }

/-- `_isActive`. -/
def isActive (record : ValidatorRecord) (height : ℕ) : Bool :=
  record.registered && decide (record.activationHeight ≤ height) &&
    (decide (record.removalHeight = 0) || decide (height < record.removalHeight))

/-- The counting pass. -/
def validatorCountAt (s : Storage) (height : ℕ) : ℕ :=
  s.validators.foldl (fun count v => if isActive (s.records v) height then count + 1 else count)
    s.bootstrapValidators.length

/-- `if (keep(v)) result[j++] = v;` for every `v` of a list, with the bounds check of each write. -/
def fillLoop (keep : Address → Bool) : List Address → List Address × ℕ →
    Except Revert (List Address × ℕ)
  | [], done => .ok done
  | v :: vs, (result, j) =>
    if keep v then do
      let result ← writeAt (.Panic .indexOutOfBounds) result j v
      fillLoop keep vs (result, j + 1)
    else fillLoop keep vs (result, j)

/-- `_activeAt`: the filling pass over an array of the counted length. -/
def activeAt (s : Storage) (height : ℕ) : Except Revert (List Address) := do
  let result := List.replicate (validatorCountAt s height) 0
  let filled ← fillLoop (fun _ => true) s.bootstrapValidators (result, 0)
  let filled ← fillLoop (fun v => isActive (s.records v) height) s.validators filled
  pure filled.1

def getValidatorsAt (s : Storage) (height : ℕ) : Except Revert (List Address) := activeAt s height

def getValidators (s : Storage) (env : Env) : Except Revert (List Address) := activeAt s env.number

/-- `symbols[nibble]` of `vmHex`. -/
def symbol (nibble : Address) : UInt8 := (utf8 "0123456789abcdef").getD nibble.toNat 0

/-- `vmHex`, one byte of the address per round. -/
def vmHex (value : Address) : Bytes :=
  (List.range 20).foldl (fun buffer i =>
    (buffer.set (2 + i * 2) (symbol ((value >>> (8 * (19 - i) + 4)) &&& 0xf))).set (3 + i * 2)
      (symbol ((value >>> (8 * (19 - i))) &&& 0xf)))
    (utf8 "0x" ++ List.replicate 40 0)

/-- `_audit("VALIDATOR", _id(validator), action)`. -/
def auditValidator (w : World H) (env : Env) (validator : Address) (action : String) :
    Except Revert (World H) :=
  audit w .validators env (utf8 "VALIDATOR") (vmHex validator) (utf8 action)

def setRecord (w : World H) (validator : Address) (record : ValidatorRecord) : World H :=
  { w with validators := { w.validators with
      records := Function.update w.validators.records validator record } }

def addValidator (w : World H) (env : Env) (validator : Address)
    (publicKey signingPublicKey : Bytes) (activationHeight : ℕ) : Except Revert (World H) := do
  BelAccess.checkRoles w .validators env.sender BelRoles.ADMIN
  revertIf (validator = 0 ∨ w.validators.isBootstrap validator = true ∨ publicKey.length = 0 ∨
    signingPublicKey.length = 0) .InvalidValidator
  revertIf (publicKey.length > 256 ∨ signingPublicKey.length > 256) .InvalidKeyMaterial
  revertIf (activationHeight ≤ env.number) .InvalidHeight
  let current := w.validators.records validator
  revertIf (current.registered = true) (.AlreadyRegistered validator)
  let current := { current with
    registered := true, validator, publicKey, signingPublicKey, activationHeight,
    removalHeight := 0, registeredAt := uint64 env.number }
  let w := setRecord w validator current
  let w := { w with validators := { w.validators with
    validators := w.validators.validators ++ [validator] } }
  auditValidator w env validator "VALIDATOR_ADD"

def removeValidator (w : World H) (env : Env) (validator : Address) (removalHeight : ℕ)
    (_reason : Bytes) : Except Revert (World H) := do
  BelAccess.checkRoles w .validators env.sender BelRoles.ADMIN
  revertIf (w.validators.isBootstrap validator = true) .InvalidValidator
  let current := w.validators.records validator
  revertIf (current.registered = false) (.NotRegistered validator)
  revertIf (removalHeight ≤ env.number ∨ removalHeight ≤ current.activationHeight) .InvalidHeight
  revertIf (current.removalHeight ≠ 0) (.RemovalAlreadyScheduled validator)
  let projectedPopulation ←
    checkedSub (.Panic .arithmetic) (validatorCountAt w.validators removalHeight) 1
  revertIf (projectedPopulation < w.validators.minimumPopulation)
    (.PopulationBelowMinimum removalHeight projectedPopulation)
  auditValidator (setRecord w validator { current with removalHeight }) env validator
    "VALIDATOR_REMOVE"

def restoreValidator (w : World H) (env : Env) (validator : Address) (_reason : Bytes) :
    Except Revert (World H) := do
  BelAccess.checkRoles w .validators env.sender BelRoles.ADMIN
  let current := w.validators.records validator
  revertIf (current.registered = false) (.NotRegistered validator)
  revertIf (w.validators.isBootstrap validator = true) .InvalidValidator
  revertIf (current.removalHeight = 0) (.AlreadyRegistered validator)
  revertIf (current.removalHeight > env.number) (.RemovalNotEffective validator)
  auditValidator (setRecord w validator { current with removalHeight := 0 }) env validator
    "VALIDATOR_RESTORE"

def cancelScheduledRemoval (w : World H) (env : Env) (validator : Address) (_reason : Bytes) :
    Except Revert (World H) := do
  BelAccess.checkRoles w .validators env.sender BelRoles.ADMIN
  let current := w.validators.records validator
  revertIf (current.registered = false) (.NotRegistered validator)
  revertIf (current.removalHeight = 0 ∨ current.removalHeight ≤ env.number)
    (.RemovalNotEffective validator)
  auditValidator (setRecord w validator { current with removalHeight := 0 }) env validator
    "VALIDATOR_REMOVE_CANCEL"

end ValidatorRegistry

section Specifications
open ValidatorRegistry

/-- The world after a validator operation: new validator storage and a longer audit log. -/
def ValidatorStep (w w' : World H) (validators : Storage) : Prop :=
  ∃ log, w' = { w with validators, audit := log } ∧ log.isRecorder = w.audit.isRecorder

/-- The storage after a validator's removal height has been replaced. -/
def setRemovalHeight (s : Storage) (validator : Address) (removalHeight : ℕ) : Storage :=
  { s with
    records := Function.update s.records validator { s.records validator with removalHeight } }

/-- The storage after a validator has been added. -/
def added (s : Storage) (env : Env) (validator : Address) (publicKey signingPublicKey : Bytes)
    (activationHeight : ℕ) : Storage :=
  { s with
    records := Function.update s.records validator
      { registered := true, validator, publicKey, signingPublicKey, activationHeight,
        removalHeight := 0, registeredAt := uint64 env.number }
    validators := s.validators ++ [validator] }

theorem addValidator_cases {w w' : World H} {env : Env} {validator : Address}
    {publicKey signingPublicKey : Bytes} {activationHeight : ℕ}
    (h : addValidator w env validator publicKey signingPublicKey activationHeight = .ok w') :
    Authorised w .validators env.sender BelRoles.ADMIN ∧
    validator ≠ 0 ∧ w.validators.isBootstrap validator = false ∧
    env.number < activationHeight ∧ (w.validators.records validator).registered = false ∧
    ValidatorStep w w'
      (added w.validators env validator publicKey signingPublicKey activationHeight) := by
  simp only [addValidator,checkRoles_bind_eq_ok,revertIf_bind_eq_ok,not_or,Nat.not_le,
    Bool.not_eq_true] at h
  obtain ⟨hauth,⟨hzero,hboot,-,-⟩,-,hheight,hnew,h⟩ := h
  exact ⟨hauth,hzero,hboot,hheight,hnew,audit_frame h⟩

theorem removeValidator_cases {w w' : World H} {env : Env} {validator : Address}
    {removalHeight : ℕ} (reason : Bytes)
    (h : removeValidator w env validator removalHeight reason = .ok w') :
    Authorised w .validators env.sender BelRoles.ADMIN ∧
    w.validators.isBootstrap validator = false ∧
    (w.validators.records validator).registered = true ∧
    env.number < removalHeight ∧
    (w.validators.records validator).activationHeight < removalHeight ∧
    (w.validators.records validator).removalHeight = 0 ∧
    ValidatorStep w w' (setRemovalHeight w.validators validator removalHeight) := by
  simp only [removeValidator,checkRoles_bind_eq_ok,revertIf_bind_eq_ok,not_or,Nat.not_le,
    Bool.not_eq_true,Bool.not_eq_false,not_not,ne_eq] at h
  obtain ⟨hauth,hboot,hreg,⟨hblock,hact⟩,hnone,h⟩ := h
  obtain ⟨projected,-,h⟩ := ok_bind_iff.mp h
  rw [revertIf_bind_eq_ok] at h
  exact ⟨hauth,hboot,hreg,hblock,hact,hnone,audit_frame h.2⟩

theorem restoreValidator_cases {w w' : World H} {env : Env} {validator : Address} (reason : Bytes)
    (h : restoreValidator w env validator reason = .ok w') :
    Authorised w .validators env.sender BelRoles.ADMIN ∧
    (w.validators.records validator).registered = true ∧
    (w.validators.records validator).removalHeight ≠ 0 ∧
    (w.validators.records validator).removalHeight ≤ env.number ∧
    ValidatorStep w w' (setRemovalHeight w.validators validator 0) := by
  simp only [restoreValidator,checkRoles_bind_eq_ok,revertIf_bind_eq_ok,Nat.not_lt,gt_iff_lt,
    Bool.not_eq_true,Bool.not_eq_false] at h
  obtain ⟨hauth,hreg,-,hne,hle,h⟩ := h
  exact ⟨hauth,hreg,hne,hle,audit_frame h⟩

theorem cancelScheduledRemoval_cases {w w' : World H} {env : Env} {validator : Address}
    (reason : Bytes) (h : cancelScheduledRemoval w env validator reason = .ok w') :
    Authorised w .validators env.sender BelRoles.ADMIN ∧
    (w.validators.records validator).registered = true ∧
    env.number < (w.validators.records validator).removalHeight ∧
    ValidatorStep w w' (setRemovalHeight w.validators validator 0) := by
  simp only [cancelScheduledRemoval,checkRoles_bind_eq_ok,revertIf_bind_eq_ok,not_or,Nat.not_le,
    Bool.not_eq_false] at h
  obtain ⟨hauth,hreg,⟨-,hlt⟩,h⟩ := h
  exact ⟨hauth,hreg,hlt,audit_frame h⟩

end Specifications
end BelLedger
