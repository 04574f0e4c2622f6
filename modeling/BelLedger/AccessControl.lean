import BelLedger.RegistryStorage

/-! # Wallet and role lookups, the access check, and the audit log -/
namespace BelLedger
open CheckedCalls

variable {H : Type}

namespace IdentityRegistry

def isActiveWallet (s : Storage H) (wallet : Address) : Bool :=
  decide ((s.wallets wallet).status = .ACTIVE)

/-- The DID behind a wallet; an unknown wallet has the zero key. -/
def identityOf (s : Storage H) (wallet : Address) : Bytes := s.dids (s.wallets wallet).identityKey

def walletsOf [Keccak H] (s : Storage H) (did : Bytes) : List Address :=
  s.walletsOfIdentity (keccak256 did)

end IdentityRegistry

namespace RoleRegistry

variable [Keccak H]

/-- `_keyOf`: the digest of the wallet's DID, or zero for an unknown wallet. -/
def keyOf (identity : IdentityRegistry.Storage H) (wallet : Address) : H :=
  let did := IdentityRegistry.identityOf identity wallet
  if did.length = 0 then 0 else keccak256 did

def rolesOf (w : World H) (wallet : Address) : Mask := w.roles.roles (keyOf w.identity wallet)

def rolesOfIdentity (w : World H) (did : Bytes) : Mask := w.roles.roles (keccak256 did)

def hasRole (w : World H) (identity : Address) (role : Role) : Bool :=
  decide (w.roles.roles (keyOf w.identity identity) &&& role.bit ≠ 0)

end RoleRegistry

namespace BelAccess

def wire (a : Access) (env : Env) (identity_ roles_ audit_ : Address) : Except Revert Access := do
  revertIf (env.sender ≠ a.deployer) .NotDeployer
  revertIf (a.wired = true) .AlreadyWired
  revertIf (identity_ = 0 ∨ roles_ = 0 ∨ audit_ = 0) .ZeroAddress
  pure { a with
    identityRegistry := identity_, roleRegistry := roles_, auditRegistry := audit_, wired := true }

variable [Keccak H]

def hasAnyRole (w : World H) (wallet : Address) (mask : Mask) : Bool :=
  decide (RoleRegistry.rolesOf w wallet &&& mask ≠ 0)

/-- `_checkRoles`. The overrides of `_isActive` in IdentityRegistry and of `_rolesOf` in
RoleRegistry read the storage that the external lookup of the other registries reads. -/
def checkRoles (w : World H) (r : Registry) (caller : Address) (requiredRoles : Mask) :
    Except Revert Unit := do
  revertIf ((w.access r).wired = false) .NotWired
  revertIf (IdentityRegistry.isActiveWallet w.identity caller = false) (.InactiveWallet caller)
  revertIf (RoleRegistry.rolesOf w caller &&& requiredRoles = 0)
    (.Unauthorized caller requiredRoles)

end BelAccess

namespace AuditRegistry

variable [Keccak H]

/-- A 32-byte big-endian word of `abi.encode`. -/
def word (n : ℕ) : Bytes := (List.range 32).map (fun i => UInt8.ofNat (n / 256 ^ (31 - i)))

def recordId (env : Env) (self : Address) (count : ℕ) : H :=
  keccak256 (word env.chainid ++ word self.toNat ++ word count)

variable [DecidableEq H]

def validEntityType (t : Bytes) : Bool :=
  let h : H := keccak256 t
  h = keccak256 (utf8 "ASSET") || h = keccak256 (utf8 "JOB") || h = keccak256 (utf8 "IDENTITY") ||
    h = keccak256 (utf8 "DEVICE") || h = keccak256 (utf8 "WALLET") ||
    h = keccak256 (utf8 "GRANT") || h = keccak256 (utf8 "VALIDATOR")

/-- `_record`, with the caller of the audit registry as recorder. -/
def record (w : World H) (env : Env) (recorder actor : Address)
    (entityType entityId action : Bytes) : Except Revert (World H) := do
  revertIf (validEntityType (H := H) entityType = false) (.InvalidEntityType entityType)
  revertIf (entityId.length = 0 ∨ entityId.length > MAX_FIELD_LENGTH) .InvalidEntityId
  revertIf (action.length = 0 ∨ action.length > MAX_FIELD_LENGTH) .InvalidAction
  let recordCount := w.audit.recordCount + 1
  let txId : H := recordId env w.addr.audit recordCount
  let entry : AuditRecord :=
    { entityType, entityId, action, actor, recorder,
      timestamp := uint64 env.timestamp, blockNumber := uint64 env.number }
  let trail := keccak256 entityId
  pure { w with audit := { w.audit with
    recordCount
    records := Function.update w.audit.records txId entry
    trails := Function.update w.audit.trails trail (w.audit.trails trail ++ [txId]) } }

def recordAudit (w : World H) (env : Env) (entityType entityId action : Bytes) :
    Except Revert (World H) := do
  let admin := IdentityRegistry.isActiveWallet w.identity env.sender &&
    RoleRegistry.hasRole w env.sender .ADMIN
  revertIf (w.audit.isRecorder env.sender = false ∧ admin = false) (.NotRecorder env.sender)
  record w env env.sender env.sender entityType entityId action

/-- `caller` is the account that calls the audit registry: a registry, for a nested call. -/
def recordAuditFor (w : World H) (env : Env) (caller actor : Address)
    (entityType entityId action : Bytes) : Except Revert (World H) := do
  revertIf (w.audit.isRecorder caller = false) (.NotRecorder caller)
  record w env caller actor entityType entityId action

end AuditRegistry

/-- `BelAccess._audit`, called by registry `r`. -/
def audit [Keccak H] [DecidableEq H] (w : World H) (r : Registry) (env : Env)
    (entityType entityId action : Bytes) : Except Revert (World H) :=
  AuditRegistry.recordAuditFor w env (w.addr.of r) env.sender entityType entityId action

/-- What a caller that passed `_checkRoles` is known to be. -/
structure Authorised [Keccak H] (w : World H) (r : Registry) (caller : Address) (mask : Mask) :
    Prop where
  wired : (w.access r).wired = true
  active : (w.identity.wallets caller).status = .ACTIVE
  roles : RoleRegistry.rolesOf w caller &&& mask ≠ 0

section Specifications

@[simp] theorem isActiveWallet_iff (s : IdentityRegistry.Storage H) (wallet : Address) :
    IdentityRegistry.isActiveWallet s wallet = true ↔ (s.wallets wallet).status = .ACTIVE := by
  simp [IdentityRegistry.isActiveWallet]

@[simp] theorem isActiveWallet_false_iff (s : IdentityRegistry.Storage H) (wallet : Address) :
    IdentityRegistry.isActiveWallet s wallet = false ↔ (s.wallets wallet).status ≠ .ACTIVE := by
  simp [IdentityRegistry.isActiveWallet]

variable [Keccak H]

theorem checkRoles_eq_ok {w : World H} {r : Registry} {caller : Address} {mask : Mask} {u : Unit} :
    BelAccess.checkRoles w r caller mask = .ok u ↔ Authorised w r caller mask := by
  simp only [BelAccess.checkRoles,revertIf_bind_eq_ok,revertIf_eq_ok]
  constructor
  · rintro ⟨hw,ha,hr⟩
    exact ⟨by simpa using hw,by simpa using ha,hr⟩
  · rintro ⟨hw,ha,hr⟩
    exact ⟨by simp [hw],by simpa using ha,hr⟩

theorem checkRoles_bind_eq_ok {w : World H} {r : Registry} {caller : Address} {mask : Mask}
    {β : Type} {f : Unit → Except Revert β} {v : β} :
    (BelAccess.checkRoles w r caller mask >>= f) = .ok v ↔
      Authorised w r caller mask ∧ f () = .ok v := by
  rw [ok_bind_iff]
  simp only [checkRoles_eq_ok]
  exact ⟨fun ⟨_,ha,hf⟩ => ⟨ha,hf⟩,fun ⟨ha,hf⟩ => ⟨(),ha,hf⟩⟩

variable [DecidableEq H]

/-- The fields of an audit entry that the audit registry accepts. -/
structure AuditEntry.Valid (w : World H) (recorder : Address) (entityType entityId action : Bytes) :
    Prop where
  recorder : w.audit.isRecorder recorder = true
  entityType : AuditRegistry.validEntityType (H := H) entityType = true
  entityId : entityId.length ≠ 0 ∧ entityId.length ≤ AuditRegistry.MAX_FIELD_LENGTH
  action : action.length ≠ 0 ∧ action.length ≤ AuditRegistry.MAX_FIELD_LENGTH

private theorem record_eq_ok {w w' : World H} {env : Env} {recorder actor : Address}
    {entityType entityId action : Bytes}
    (h : AuditRegistry.record w env recorder actor entityType entityId action = .ok w') :
    ∃ log, w' = { w with audit := log } ∧ log.isRecorder = w.audit.isRecorder := by
  simp only [AuditRegistry.record,revertIf_bind_eq_ok,ok_pure_iff] at h
  obtain ⟨-,-,-,rfl⟩ := h
  exact ⟨_,rfl,rfl⟩

/-- A successful audit entry changes the audit registry only, and never its recorders. -/
theorem audit_frame {w w' : World H} {r : Registry} {env : Env} {entityType entityId action : Bytes}
    (h : audit w r env entityType entityId action = .ok w') :
    ∃ log, w' = { w with audit := log } ∧ log.isRecorder = w.audit.isRecorder := by
  simp only [audit,AuditRegistry.recordAuditFor,revertIf_bind_eq_ok] at h
  exact record_eq_ok h.2

theorem audit_succeeds {w : World H} {r : Registry} (env : Env)
    {entityType entityId action : Bytes}
    (hv : AuditEntry.Valid w (w.addr.of r) entityType entityId action) :
    ∃ log, audit w r env entityType entityId action = .ok { w with audit := log } ∧
      log.isRecorder = w.audit.isRecorder := by
  obtain ⟨hrec,htype,⟨hid,hidLen⟩,hact,hactLen⟩ := hv
  have hid' : ¬(entityId.length = 0 ∨ entityId.length > AuditRegistry.MAX_FIELD_LENGTH) := by omega
  have hact' : ¬(action.length = 0 ∨ action.length > AuditRegistry.MAX_FIELD_LENGTH) := by omega
  simp only [audit,AuditRegistry.recordAuditFor,AuditRegistry.record,revertIf_bind_eq_ok,
    ok_pure_iff,hrec,htype,hid',hact',Bool.true_eq_false,not_false_eq_true,true_and]
  exact ⟨_,rfl,rfl⟩

theorem recordAudit_frame {w w' : World H} {env : Env} {entityType entityId action : Bytes}
    (h : AuditRegistry.recordAudit w env entityType entityId action = .ok w') :
    ∃ log, w' = { w with audit := log } ∧ log.isRecorder = w.audit.isRecorder := by
  simp only [AuditRegistry.recordAudit,revertIf_bind_eq_ok] at h
  exact record_eq_ok h.2

theorem recordAuditFor_frame {w w' : World H} {env : Env} {caller actor : Address}
    {entityType entityId action : Bytes}
    (h : AuditRegistry.recordAuditFor w env caller actor entityType entityId action = .ok w') :
    ∃ log, w' = { w with audit := log } ∧ log.isRecorder = w.audit.isRecorder := by
  simp only [AuditRegistry.recordAuditFor,revertIf_bind_eq_ok] at h
  exact record_eq_ok h.2

end Specifications
end BelLedger
