import BelLedger.AccessControl

/-! # IdentityRegistry and RoleRegistry: state-changing entry points and what each can do -/
namespace BelLedger
open CheckedCalls

variable {H : Type} [Keccak H] [DecidableEq H]

/-- `Strings.toHexString(address)` of OpenZeppelin 4.9.6, which is set up beside the contracts: that its
digits are small letters is an assumption here. -/
def toHexString (a : Address) : Bytes :=
  utf8 "0x" ++ (List.range 40).map (fun k =>
    (utf8 "0123456789abcdef").getD (a.toNat / 16 ^ (39 - k) % 16) 0)

namespace IdentityRegistry

/-- `_register`: links `wallet` to `did` as a PENDING wallet. -/
def register (s : Storage H) (env : Env) (wallet : Address) (did : Bytes) :
    Except Revert (Storage H) := do
  revertIf (wallet = 0) .InvalidWallet
  revertIf (did.length = 0 ∨ did.length > MAX_DID_LENGTH) .InvalidDid
  revertIf ((s.wallets wallet).status ≠ .NONE) (.WalletAlreadyRegistered wallet)
  let key : H := keccak256 did
  let dids := if (s.walletsOfIdentity key).length = 0 then Function.update s.dids key did else s.dids
  pure { s with
    dids
    walletsOfIdentity :=
      Function.update s.walletsOfIdentity key (s.walletsOfIdentity key ++ [wallet])
    wallets := Function.update s.wallets wallet
      { identityKey := key, status := .PENDING, registeredAt := uint64 env.timestamp,
        activatedAt := 0, revokedAt := 0, revokedReason := [] } }

/-- The constructor: the bootstrap wallet is registered and ACTIVE at once. -/
def deploy (env : Env) (bootstrapAdminWallet : Address) (bootstrapAdminDid : Bytes) :
    Except Revert (Storage H) := do
  let empty : Storage H :=
    { access := { deployer := env.sender }
      wallets := fun _ => ⟨0, .NONE, 0, 0, 0, []⟩
      dids := fun _ => []
      walletsOfIdentity := fun _ => [] }
  let s ← register empty env bootstrapAdminWallet bootstrapAdminDid
  pure { s with
    wallets := Function.update s.wallets bootstrapAdminWallet
      { s.wallets bootstrapAdminWallet with
        status := .ACTIVE, activatedAt := uint64 env.timestamp } }

def createIdentity (w : World H) (env : Env) (wallet : Address) (did : Bytes) :
    Except Revert (World H) := do
  BelAccess.checkRoles w .identity env.sender BelRoles.CREATE_EMPLOYEE
  let identity ← register w.identity env wallet did
  audit { w with identity } .identity env (utf8 "IDENTITY") did (utf8 "IDENTITY_CREATE")

def activateWallet (w : World H) (env : Env) (wallet : Address) : Except Revert (World H) := do
  BelAccess.checkRoles w .identity env.sender BelRoles.ACTIVATE_WALLET
  let record := w.identity.wallets wallet
  revertIf (record.status = .NONE) (.WalletNotFound wallet)
  revertIf (record.status ≠ .PENDING) (.InvalidWalletStatus wallet record.status)
  let wallets := Function.update w.identity.wallets wallet
    { record with status := .ACTIVE, activatedAt := uint64 env.timestamp }
  audit { w with identity := { w.identity with wallets } } .identity env
    (utf8 "WALLET") (toHexString wallet) (utf8 "WALLET_ACTIVATE")

def revokeWallet (w : World H) (env : Env) (wallet : Address) (reason : Bytes) :
    Except Revert (World H) := do
  BelAccess.checkRoles w .identity env.sender BelRoles.REVOKE_WALLET
  revertIf (reason.length = 0 ∨ reason.length > MAX_REASON_LENGTH) .InvalidReason
  let record := w.identity.wallets wallet
  revertIf (record.status = .NONE) (.WalletNotFound wallet)
  revertIf (record.status = .REVOKED) (.InvalidWalletStatus wallet record.status)
  let wallets := Function.update w.identity.wallets wallet
    { record with status := .REVOKED, revokedAt := uint64 env.timestamp, revokedReason := reason }
  audit { w with identity := { w.identity with wallets } } .identity env
    (utf8 "WALLET") (toHexString wallet) (utf8 "WALLET_REVOKE")

end IdentityRegistry

namespace RoleRegistry

/-- The constructor, on the IdentityRegistry that is already deployed at `identity_`. -/
def deploy (env : Env) (identity_ : Address) (identity : IdentityRegistry.Storage H)
    (bootstrapAdminWallet : Address) : Except Revert (Storage H) := do
  revertIf (identity_ = 0) .ZeroAddress
  let key := keyOf identity bootstrapAdminWallet
  revertIf (key = 0) (.UnknownIdentity bootstrapAdminWallet)
  pure { access := { deployer := env.sender }
         roles := Function.update (fun _ => 0) key BelRoles.ADMIN
         adminCount := 1 }

def assignRole (w : World H) (env : Env) (identity : Address) (role : Role) :
    Except Revert (World H) := do
  BelAccess.checkRoles w .roles env.sender BelRoles.MANAGE_ROLES
  let key := keyOf w.identity identity
  revertIf (key = 0) (.UnknownIdentity identity)
  revertIf (w.roles.roles key &&& role.bit ≠ 0) (.RoleAlreadyAssigned identity role)
  let roles := Function.update w.roles.roles key (w.roles.roles key ||| role.bit)
  let adminCount := if role = .ADMIN then w.roles.adminCount + 1 else w.roles.adminCount
  audit { w with roles := { w.roles with roles, adminCount } } .roles env
    (utf8 "IDENTITY") (IdentityRegistry.identityOf w.identity identity) (utf8 "ROLE_ASSIGN")

/-- The guarded decrement of `adminCount` in `revokeRole`. -/
def adminCountAfterRevoke (adminCount : ℕ) (role : Role) : Except Revert ℕ :=
  if role = .ADMIN then do
    revertIf (adminCount = 1) .LastAdmin
    checkedSub (.Panic .arithmetic) adminCount 1
  else pure adminCount

def revokeRole (w : World H) (env : Env) (identity : Address) (role : Role) :
    Except Revert (World H) := do
  BelAccess.checkRoles w .roles env.sender BelRoles.MANAGE_ROLES
  let key := keyOf w.identity identity
  revertIf (key = 0) (.UnknownIdentity identity)
  revertIf (w.roles.roles key &&& role.bit = 0) (.RoleNotAssigned identity role)
  let adminCount ← adminCountAfterRevoke w.roles.adminCount role
  let roles := Function.update w.roles.roles key (w.roles.roles key &&& ~~~ role.bit)
  audit { w with roles := { w.roles with roles, adminCount } } .roles env
    (utf8 "IDENTITY") (IdentityRegistry.identityOf w.identity identity) (utf8 "ROLE_REVOKE")

end RoleRegistry

section Specifications

/-- What `_register` stores once its checks have passed. -/
def registered (s : IdentityRegistry.Storage H) (env : Env) (wallet : Address) (did : Bytes) :
    IdentityRegistry.Storage H :=
  { s with
    dids := if (s.walletsOfIdentity (keccak256 did)).length = 0
      then Function.update s.dids (keccak256 did) did else s.dids
    walletsOfIdentity := Function.update s.walletsOfIdentity (keccak256 did)
      (s.walletsOfIdentity (keccak256 did) ++ [wallet])
    wallets := Function.update s.wallets wallet
      { identityKey := keccak256 did, status := .PENDING, registeredAt := uint64 env.timestamp,
        activatedAt := 0, revokedAt := 0, revokedReason := [] } }

theorem register_eq_ok {s s' : IdentityRegistry.Storage H} {env : Env} {wallet : Address}
    {did : Bytes} :
    IdentityRegistry.register s env wallet did = .ok s' ↔
      wallet ≠ 0 ∧ (did.length ≠ 0 ∧ did.length ≤ IdentityRegistry.MAX_DID_LENGTH) ∧
      (s.wallets wallet).status = .NONE ∧ registered s env wallet did = s' := by
  simp only [IdentityRegistry.register,revertIf_bind_eq_ok,ok_pure_iff,registered,not_or,Nat.not_lt,
    not_not,gt_iff_lt,ne_eq]

/-- The storage after a wallet's record has been replaced. -/
def setWallet (s : IdentityRegistry.Storage H) (wallet : Address)
    (record : IdentityRegistry.WalletRecord H) : IdentityRegistry.Storage H :=
  { s with wallets := Function.update s.wallets wallet record }

theorem createIdentity_cases {w w' : World H} {env : Env} {wallet : Address} {did : Bytes}
    (h : IdentityRegistry.createIdentity w env wallet did = .ok w') :
    Authorised w .identity env.sender BelRoles.CREATE_EMPLOYEE ∧
    wallet ≠ 0 ∧ (did.length ≠ 0 ∧ did.length ≤ IdentityRegistry.MAX_DID_LENGTH) ∧
    (w.identity.wallets wallet).status = .NONE ∧
    ∃ log, w' = { w with identity := registered w.identity env wallet did, audit := log } ∧
      log.isRecorder = w.audit.isRecorder := by
  simp only [IdentityRegistry.createIdentity,checkRoles_bind_eq_ok] at h
  obtain ⟨hauth,h⟩ := h
  obtain ⟨s,hregister,haudit⟩ := ok_bind_iff.mp h
  obtain ⟨hwallet,hdid,hstatus,rfl⟩ := register_eq_ok.mp hregister
  obtain ⟨log,rfl,hlog⟩ := audit_frame haudit
  exact ⟨hauth,hwallet,hdid,hstatus,log,rfl,hlog⟩

theorem activateWallet_cases {w w' : World H} {env : Env} {wallet : Address}
    (h : IdentityRegistry.activateWallet w env wallet = .ok w') :
    Authorised w .identity env.sender BelRoles.ACTIVATE_WALLET ∧
    (w.identity.wallets wallet).status = .PENDING ∧
    ∃ log, w' = { w with
      identity := setWallet w.identity wallet
        { w.identity.wallets wallet with status := .ACTIVE, activatedAt := uint64 env.timestamp }
      audit := log } ∧ log.isRecorder = w.audit.isRecorder := by
  simp only [IdentityRegistry.activateWallet,checkRoles_bind_eq_ok,revertIf_bind_eq_ok] at h
  obtain ⟨hauth,-,hpending,haudit⟩ := h
  obtain ⟨log,rfl,hlog⟩ := audit_frame haudit
  exact ⟨hauth,not_not.mp hpending,log,rfl,hlog⟩

theorem revokeWallet_cases {w w' : World H} {env : Env} {wallet : Address} {reason : Bytes}
    (h : IdentityRegistry.revokeWallet w env wallet reason = .ok w') :
    Authorised w .identity env.sender BelRoles.REVOKE_WALLET ∧
    (reason.length ≠ 0 ∧ reason.length ≤ IdentityRegistry.MAX_REASON_LENGTH) ∧
    (w.identity.wallets wallet).status ≠ .NONE ∧
    (w.identity.wallets wallet).status ≠ .REVOKED ∧
    ∃ log, w' = { w with
      identity := setWallet w.identity wallet
        { w.identity.wallets wallet with
          status := .REVOKED, revokedAt := uint64 env.timestamp, revokedReason := reason }
      audit := log } ∧ log.isRecorder = w.audit.isRecorder := by
  simp only [IdentityRegistry.revokeWallet,checkRoles_bind_eq_ok,revertIf_bind_eq_ok,
    not_or,Nat.not_lt,gt_iff_lt] at h
  obtain ⟨hauth,hreason,hnone,hrevoked,haudit⟩ := h
  obtain ⟨log,rfl,hlog⟩ := audit_frame haudit
  exact ⟨hauth,hreason,hnone,hrevoked,log,rfl,hlog⟩

theorem assignRole_cases {w w' : World H} {env : Env} {identity : Address} {role : Role}
    (h : RoleRegistry.assignRole w env identity role = .ok w') :
    Authorised w .roles env.sender BelRoles.MANAGE_ROLES ∧
    RoleRegistry.keyOf w.identity identity ≠ 0 ∧
    (RoleRegistry.rolesOf w identity).has role = false ∧
    ∃ log, w' = { w with
      roles := { w.roles with
        roles := Function.update w.roles.roles (RoleRegistry.keyOf w.identity identity)
          (RoleRegistry.rolesOf w identity ||| role.bit)
        adminCount := if role = .ADMIN then w.roles.adminCount + 1 else w.roles.adminCount }
      audit := log } ∧ log.isRecorder = w.audit.isRecorder := by
  simp only [RoleRegistry.assignRole,checkRoles_bind_eq_ok,revertIf_bind_eq_ok,ne_eq,
    not_not,Mask.and_bit_eq_zero] at h
  obtain ⟨hauth,hkey,hbit,haudit⟩ := h
  obtain ⟨log,rfl,hlog⟩ := audit_frame haudit
  exact ⟨hauth,hkey,hbit,log,rfl,hlog⟩

theorem adminCountAfterRevoke_eq_ok {adminCount n : ℕ} {role : Role} :
    RoleRegistry.adminCountAfterRevoke adminCount role = .ok n ↔
      (role = .ADMIN → adminCount ≠ 1 ∧ 1 ≤ adminCount) ∧
      (if role = .ADMIN then adminCount - 1 else adminCount) = n := by
  by_cases hrole : role = .ADMIN
  · simp [RoleRegistry.adminCountAfterRevoke,hrole,and_assoc]
  · simp [RoleRegistry.adminCountAfterRevoke,hrole]

theorem revokeRole_cases {w w' : World H} {env : Env} {identity : Address} {role : Role}
    (h : RoleRegistry.revokeRole w env identity role = .ok w') :
    Authorised w .roles env.sender BelRoles.MANAGE_ROLES ∧
    RoleRegistry.keyOf w.identity identity ≠ 0 ∧
    (RoleRegistry.rolesOf w identity).has role = true ∧
    (role = .ADMIN → w.roles.adminCount ≠ 1 ∧ 1 ≤ w.roles.adminCount) ∧
    ∃ log, w' = { w with
      roles := { w.roles with
        roles := Function.update w.roles.roles (RoleRegistry.keyOf w.identity identity)
          (RoleRegistry.rolesOf w identity &&& ~~~ role.bit)
        adminCount := if role = .ADMIN then w.roles.adminCount - 1 else w.roles.adminCount }
      audit := log } ∧ log.isRecorder = w.audit.isRecorder := by
  simp only [RoleRegistry.revokeRole,checkRoles_bind_eq_ok,revertIf_bind_eq_ok,
    Mask.and_bit_eq_zero] at h
  obtain ⟨hauth,hkey,hbit,h⟩ := h
  obtain ⟨count,hcount,haudit⟩ := ok_bind_iff.mp h
  obtain ⟨log,rfl,hlog⟩ := audit_frame haudit
  obtain ⟨hlast,rfl⟩ := adminCountAfterRevoke_eq_ok.mp hcount
  exact ⟨hauth,hkey,by simpa [RoleRegistry.rolesOf] using hbit,hlast,log,rfl,hlog⟩

end Specifications
end BelLedger
