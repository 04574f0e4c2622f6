import BelLedger.EffectPrograms
import BelLedger.UsersService

/-!
# The repositories as AuthServiceImpl and the provisioning of UsersServiceImpl call them

Between two awaits other requests run, so these functions are programs whose calls are the awaits.
Reading the clock is a call as well: each reading is whatever the clock says at that moment.
-/
namespace BelLedger
open KeyedTables EffectPrograms Prog

namespace UsersService

/-- The decision of the device-trust provider. Its evidence is stored and never read. -/
structure DeviceAttestationResult where
  verified : Bool
  managedDevice : Bool
  networkApproved : Bool
  deriving DecidableEq,Inhabited

/-- What is outside the repositories: `Date.now()` in milliseconds, and the device-trust provider. -/
structure Surroundings where
  now : ℤ
  attestation : DeviceAttestationResult
  deriving Inhabited

inductive RepositoryCall
  | findIdentity (identityId : String)
  | findIdentityByEmployeeId (employeeId : String)
  | saveIdentity (row : Identity)
  | findUserByIdentityId (identityId : String)
  | findDevice (deviceId : String)
  | saveDevice (row : Device)
  | findWallet (address : String)
  | listWallets (identityId : String)
  | saveWallet (row : Wallet)
  | findDeviceId (verifier : String)
  | findSession (token : String)
  | saveSession (row : Session)
  | deleteSession (token : String)
  | findChallenge (challengeId : String)
  | saveChallenge (row : Challenge)
  | consumeIfUnused (challengeId : String) (usedAt : ℤ)
  | attest (deviceId : String)
  | now

namespace RepositoryCall

abbrev Answer : RepositoryCall → Type
  | findIdentity _ => Option Identity
  | findIdentityByEmployeeId _ => Option Identity
  | saveIdentity _ => Unit
  | findUserByIdentityId _ => Option User
  | findDevice _ => Option Device
  | saveDevice _ => Unit
  | findWallet _ => Option Wallet
  | listWallets _ => List Wallet
  | saveWallet _ => Unit
  | findDeviceId _ => Option String
  | findSession _ => Option Session
  | saveSession _ => Unit
  | deleteSession _ => Unit
  | findChallenge _ => Option Challenge
  | saveChallenge _ => Unit
  | consumeIfUnused _ _ => Bool
  | attest _ => DeviceAttestationResult
  | now => ℤ

/-- Marks an unused challenge as used, in one step. -/
def consume (challenges : Table Challenge.challengeId) (challengeId : String) (usedAt : ℤ) :
    Table Challenge.challengeId × Bool :=
  match challenges.find challengeId with
  | none => (challenges,false)
  | some row =>
    if row.usedAt = none then (challenges.save { row with usedAt := some usedAt },true)
    else (challenges,false)

def handle (ctx : Context) (env : Surroundings) (r : Repositories) :
    (c : RepositoryCall) → Repositories × c.Answer
  | findIdentity identityId => (r,r.identities.find identityId)
  | findIdentityByEmployeeId employeeId => (r,r.findByEmployeeId employeeId)
  | saveIdentity row => ({ r with identities := r.identities.save row },())
  | findUserByIdentityId identityId => (r,r.findByIdentityId identityId)
  | findDevice deviceId => (r,r.devices.find deviceId)
  | saveDevice row => ({ r with devices := r.devices.save row },())
  | findWallet address => (r,r.wallets.find address)
  | listWallets identityId => (r,r.listWallets ctx identityId)
  | saveWallet row => ({ r with wallets := r.wallets.save row },())
  | findDeviceId verifier => (r,(r.credentials.find verifier).map Credential.deviceId)
  | findSession token => (r,r.sessions.find token)
  | saveSession row => ({ r with sessions := r.sessions.save row },())
  | deleteSession token => ({ r with sessions := r.sessions.remove token },())
  | findChallenge challengeId => (r,r.challenges.find challengeId)
  | saveChallenge row => ({ r with challenges := r.challenges.save row },())
  | consumeIfUnused challengeId usedAt =>
    ({ r with challenges := (consume r.challenges challengeId usedAt).1 },
      (consume r.challenges challengeId usedAt).2)
  | attest _ => (r,env.attestation)
  | now => (r,env.now)

end RepositoryCall

abbrev Program (α : Type) := Prog RepositoryCall.Answer ServiceError α

namespace Repository

abbrev findIdentity (identityId : String) : Program (Option Identity) :=
  perform (RepositoryCall.findIdentity identityId)

abbrev findIdentityByEmployeeId (employeeId : String) : Program (Option Identity) :=
  perform (RepositoryCall.findIdentityByEmployeeId employeeId)

abbrev saveIdentity (row : Identity) : Program Unit := perform (RepositoryCall.saveIdentity row)

abbrev findUserByIdentityId (identityId : String) : Program (Option User) :=
  perform (RepositoryCall.findUserByIdentityId identityId)

abbrev findDevice (deviceId : String) : Program (Option Device) :=
  perform (RepositoryCall.findDevice deviceId)

abbrev saveDevice (row : Device) : Program Unit := perform (RepositoryCall.saveDevice row)

abbrev findWallet (address : String) : Program (Option Wallet) :=
  perform (RepositoryCall.findWallet address)

abbrev listWallets (identityId : String) : Program (List Wallet) :=
  perform (RepositoryCall.listWallets identityId)

abbrev saveWallet (row : Wallet) : Program Unit := perform (RepositoryCall.saveWallet row)

abbrev findDeviceId (verifier : String) : Program (Option String) :=
  perform (RepositoryCall.findDeviceId verifier)

abbrev findSession (token : String) : Program (Option Session) :=
  perform (RepositoryCall.findSession token)

abbrev saveSession (row : Session) : Program Unit := perform (RepositoryCall.saveSession row)

abbrev deleteSession (token : String) : Program Unit := perform (RepositoryCall.deleteSession token)

abbrev findChallenge (challengeId : String) : Program (Option Challenge) :=
  perform (RepositoryCall.findChallenge challengeId)

abbrev saveChallenge (row : Challenge) : Program Unit := perform (RepositoryCall.saveChallenge row)

abbrev consumeIfUnused (challengeId : String) (usedAt : ℤ) : Program Bool :=
  perform (RepositoryCall.consumeIfUnused challengeId usedAt)

abbrev attest (deviceId : String) : Program DeviceAttestationResult :=
  perform (RepositoryCall.attest deviceId)

abbrev dateNow : Program ℤ := perform RepositoryCall.now

end Repository

/-- A lookup that is made only when an earlier one has found something. -/
def andThen {α β : Type} (found : Option α) (next : α → Program (Option β)) : Program (Option β) :=
  match found with
  | none => pure none
  | some a => next a

section AndThen
variable {α β γ : Type} {found : Option α} {next : α → Program (Option β)} {f : Option β → Program γ}

@[simp] theorem calls_andThen_bind {allowed : RepositoryCall → Prop} :
    (andThen found next >>= f).Calls allowed ↔
      (found = none → (f none).Calls allowed) ∧
        ∀ a,found = some a → (next a >>= f).Calls allowed := by
  cases found <;> simp [andThen]

@[simp] theorem atMostOne_andThen_bind {P : RepositoryCall → Prop} :
    (andThen found next >>= f).AtMostOne P ↔
      (found = none → (f none).AtMostOne P) ∧
        ∀ a,found = some a → (next a >>= f).AtMostOne P := by
  cases found <;> simp [andThen]

theorem follows_andThen_bind {tr : List (Event RepositoryCall.Answer)} {result : Except ServiceError γ} :
    Follows (andThen found next >>= f) tr (.done result) ↔
      (found = none ∧ Follows (f none) tr (.done result)) ∨
        ∃ a,found = some a ∧ Follows (next a >>= f) tr (.done result) := by
  cases found <;> simp [andThen]

@[simp] theorem failsBefore_andThen_bind {P : RepositoryCall → Prop} :
    (andThen found next >>= f).FailsBefore P ↔
      (found = none → (f none).FailsBefore P) ∧
        ∀ a,found = some a → (next a >>= f).FailsBefore P := by
  cases found <;> simp [andThen]

theorem returns_andThen_bind {ctx : Context} {r r' : Repositories} {c : γ} :
    (andThen found next >>= f).Returns (RepositoryCall.handle ctx) r r' c ↔
      (found = none ∧ (f none).Returns (RepositoryCall.handle ctx) r r' c) ∨
        ∃ a,found = some a ∧ (next a >>= f).Returns (RepositoryCall.handle ctx) r r' c := by
  cases found <;> simp [andThen]

end AndThen

end UsersService
end BelLedger
