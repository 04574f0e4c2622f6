import BelLedger.SessionRevocation

/-!
# What an initialization adds

`initializeAccount` looks its device and its wallet up as they are spelt and saves them trimmed. A
row that is stored under the trimmed spelling only is overwritten.
-/
namespace BelLedger
open CheckedCalls KeyedTables EffectPrograms UsersService AuthService

/-- One pending identity with its device and its wallet is added, and nothing else changes. -/
structure AddsRegistration (r r' : Repositories) (identityId : String) : Prop where
  identities : ∃ row,r.identities.Adds r'.identities row ∧ row.identityId = identityId ∧
    row.status = .PENDING
  users : r'.users = r.users
  devices : ∃ row,r.devices.Adds r'.devices row ∧ row.identityId = identityId ∧
    row.status = .PENDING
  wallets : ∃ row,r.wallets.Adds r'.wallets row ∧ row.identityId = identityId ∧
    row.status = .PENDING

/-- No device and no wallet is stored under the keys that the registration will be saved under. -/
structure NewKeys (r : Repositories) (input : InitializeAccountRequest) : Prop where
  device : r.devices.find (jsTrim input.deviceId) = none
  wallet : r.wallets.find (jsTrim input.walletAddress) = none

section Additions
variable {ctx : AuthContext} {r r' : Repositories} {input : InitializeAccountRequest} {uuid : String}

private theorem RegistrationSaved.adds_iff (h : RegistrationSaved ctx r r' input uuid)
    (hfresh : r.identities.find ("DID:BEL:"++uuid) = none) :
    AddsRegistration r r' ("DID:BEL:"++uuid) ↔ NewKeys r input := by
  constructor
  · intro hadds
    obtain ⟨device,hdevice,-⟩ := hadds.devices
    obtain ⟨wallet,hwallet,-⟩ := hadds.wallets
    rw [h.devices] at hdevice
    rw [h.wallets] at hwallet
    exact ⟨hdevice.find_eq_none,hwallet.find_eq_none⟩
  · intro hnew
    refine ⟨?_,h.users,?_,?_⟩
    · refine ⟨(newRegistration ctx.now input uuid).identity,?_,rfl,rfl⟩
      rw [h.identities]
      exact Table.adds_save hfresh
    · refine ⟨(newRegistration ctx.now input uuid).device,?_,rfl,rfl⟩
      rw [h.devices]
      exact Table.adds_save hnew.device
    · refine ⟨(newRegistration ctx.now input uuid).wallet,?_,rfl,rfl⟩
      rw [h.wallets]
      exact Table.adds_save hnew.wallet

/-- A successful initialization adds one registration and changes nothing else exactly when its
trimmed device id and wallet address are new. `hfresh` says that the random id is. -/
theorem initialization_adds_iff (env : ℕ → Surroundings) (reply : AuthReply)
    (hfresh : r.identities.find ("DID:BEL:"++uuid) = none)
    (hok : (serveAuth ctx r (.initializeAccount input uuid) env).2 = .ok reply) :
    AddsRegistration r (serveAuth ctx r (.initializeAccount input uuid) env).1 ("DID:BEL:"++uuid) ↔
      NewKeys r input := by
  have h : ((AuthRequest.initializeAccount input uuid).prog ctx).Returns
      (RepositoryCall.handle ctx.toContext) r
      (serveAuth ctx r (.initializeAccount input uuid) env).1 reply := ⟨env,by rw [← hok]; rfl⟩
  exact (initializeAccount_returns h).1.adds_iff hfresh

end Additions
section Prototype

/-- The request of a trainee to be registered with a device. -/
def traineeInput (deviceId : String) : InitializeAccountRequest :=
  { hasPrivateKey := false, fullName := "Trainee", deviceId, publicKey := "key-2",
    walletAddress := "0xe2", challengeId := "challenge-2", signature := "nonce-2/key-2",
    deviceMetadata := some .leaf, employeeId := none, department := none }

/-- The staff after a challenge for a device has been issued. -/
def traineeStore (deviceId : String) : Repositories :=
  (accountRun prototypePlatform staffUsers
    [request (.requestProvisioningChallenge ⟨deviceId,some .leaf⟩ ⟨"challenge-2","nonce-2"⟩)
      3000]).repositories

def traineeRegistered (deviceId : String) : Repositories × Except ServiceError AuthReply :=
  serveAuth prototypeAuth (traineeStore deviceId)
    (.initializeAccount (traineeInput deviceId) "uuid-2") (clock 4000)

theorem initialization_adds_trainee :
    AddsRegistration (traineeStore "DEV-9") (traineeRegistered "DEV-9").1 "DID:BEL:uuid-2" := by
  obtain ⟨reply,hok⟩ : ∃ reply,(traineeRegistered "DEV-9").2 = .ok reply :=
    exists_eq_ok (by decide +kernel)
  exact (initialization_adds_iff (clock 4000) reply (by decide +kernel) hok).mpr
    ⟨by decide +kernel,by decide +kernel⟩

/-- The device of the engineer is spelt with blanks: the registration succeeds and takes its row. -/
theorem padded_device_overwrites :
    (∃ reply,(traineeRegistered " DEV-1 ").2 = .ok reply) ∧
    (traineeStore " DEV-1 ").identities.find "DID:BEL:uuid-2" = none ∧
    ((traineeStore " DEV-1 ").devices.find "DEV-1").map Device.identityId = some "DID:BEL:ENG" ∧
    ((traineeRegistered " DEV-1 ").1.devices.find "DEV-1").map Device.identityId =
      some "DID:BEL:uuid-2" ∧
    ¬AddsRegistration (traineeStore " DEV-1 ") (traineeRegistered " DEV-1 ").1
      "DID:BEL:uuid-2" := by
  refine ⟨exists_eq_ok (by decide +kernel),by decide +kernel,by decide +kernel,by decide +kernel,?_⟩
  intro hadds
  obtain ⟨row,⟨-,hrows⟩,-⟩ := hadds.devices
  have hkept : ∀ x ∈ (traineeStore " DEV-1 ").devices.rows,
      x ∈ (traineeRegistered " DEV-1 ").1.devices.rows := fun x hx => (hrows x).mpr (.inl hx)
  exact absurd hkept (by decide +kernel)

end Prototype
end BelLedger
