import BelLedger.SessionRevocation

/-!
# The lifecycle of device rows and wallet rows

PENDING → ACTIVE → REVOKED. A device that is registered again after its revocation leaves the
lifecycle, and so does a row that a registration overwrites.
-/
namespace BelLedger
open TransitionRuns KeyedTables UsersService AuthService

/-- What the lifecycle of a row is about. -/
structure Binding where
  status : BindingStatus
  identityId : String
  revokedAt : Option String
  deriving DecidableEq

def UsersService.Device.binding (row : Device) : Binding := ⟨row.status,row.identityId,row.revokedAt⟩

def UsersService.Wallet.binding (row : Wallet) : Binding := ⟨row.status,row.identityId,row.revokedAt⟩

namespace Binding

/-- The status moves on, and the owner and the time of the revocation stay. -/
structure Advances (b b' : Binding) : Prop where
  status : b.status.rank ≤ b'.status.rank
  owner : b'.identityId = b.identityId
  revokedAt : b.revokedAt ≠ none → b'.revokedAt = b.revokedAt

/-- Only a revoked row has a time of revocation. -/
def Tidy (b : Binding) : Prop := b.revokedAt ≠ none → b.status = .REVOKED

/-- What a tidy row turns into. -/
def TidyAdvances (b b' : Binding) : Prop := b.Tidy → b'.Tidy ∧ b.Advances b'

theorem TidyAdvances.refl (b : Binding) : b.TidyAdvances b :=
  fun htidy => ⟨htidy,Nat.le_refl _,rfl,fun _ => rfl⟩

theorem TidyAdvances.trans {b₁ b₂ b₃ : Binding} (h : b₁.TidyAdvances b₂) (h' : b₂.TidyAdvances b₃) :
    b₁.TidyAdvances b₃ := by
  intro htidy
  obtain ⟨htidy₂,hadvances⟩ := h htidy
  obtain ⟨htidy₃,hadvances'⟩ := h' htidy₂
  refine ⟨htidy₃,hadvances.status.trans hadvances'.status,hadvances'.owner.trans hadvances.owner,?_⟩
  intro hset
  have hkept := hadvances.revokedAt hset
  rw [hadvances'.revokedAt (by rw [hkept]; exact hset),hkept]

/-- A row that was not revoked changes its status. -/
theorem tidyAdvances_of_unrevoked {b b' : Binding} (hstatus : b.status ≠ .REVOKED)
    (howner : b'.identityId = b.identityId) (hrank : b.status.rank ≤ b'.status.rank)
    (htidy' : b.revokedAt = none → b'.Tidy) : b.TidyAdvances b' := by
  intro htidy
  have hnone : b.revokedAt = none := by
    by_contra hset
    exact hstatus (htidy hset)
  exact ⟨htidy' hnone,hrank,howner,fun hset => absurd hnone hset⟩

end Binding

section Changes

theorem WalletChange.tidyAdvances {row row' : Wallet} (h : WalletChange row row') :
    row.binding.TidyAdvances row'.binding := by
  have hadvances := h.advances
  cases h with
  | register now hpending =>
    refine Binding.tidyAdvances_of_unrevoked ?_ hadvances.owner hadvances.status ?_
    · rw [Wallet.binding,hpending]
      nofun
    · exact fun hnone hset => absurd hnone hset
  | activate now hpending =>
    refine Binding.tidyAdvances_of_unrevoked ?_ hadvances.owner hadvances.status ?_
    · rw [Wallet.binding,hpending]
      nofun
    · exact fun _ hset => absurd rfl hset
  | revoke now reason hactive =>
    refine Binding.tidyAdvances_of_unrevoked ?_ hadvances.owner hadvances.status ?_
    · rw [Wallet.binding,hactive]
      nofun
    · exact fun _ _ => rfl

theorem DeviceChange.tidyAdvances {row row' : Device} (h : DeviceChange False row row') :
    row.binding.TidyAdvances row'.binding := by
  have howner := h.owner
  cases h with
  | activate now hpending =>
    refine Binding.tidyAdvances_of_unrevoked ?_ howner ?_ ?_
    · rw [Device.binding,hpending]
      nofun
    · rw [Device.binding,hpending]
      exact Nat.zero_le _
    · exact fun hnone hset => absurd hnone hset
  | register hbefore hactive _ hrevokedAt =>
    have hpending : row.status = .PENDING := hbefore.resolve_right (fun h => h.2)
    refine Binding.tidyAdvances_of_unrevoked ?_ howner ?_ ?_
    · rw [Device.binding,hpending]
      nofun
    · rw [Device.binding,hpending]
      exact Nat.zero_le _
    · exact fun _ hset => absurd hrevokedAt hset
  | revoke now =>
    by_cases hrevoked : row.status = .REVOKED
    · rw [revokedDevice,if_pos hrevoked]
      exact .refl _
    · refine Binding.tidyAdvances_of_unrevoked hrevoked howner ?_ ?_
      · rw [revokedDevice,if_neg hrevoked]
        cases hstatus : row.status with
        | PENDING => simp [Device.binding,hstatus,UsersService.BindingStatus.rank]
        | ACTIVE => simp [Device.binding,hstatus,UsersService.BindingStatus.rank]
        | REVOKED => exact absurd hstatus hrevoked
      · rw [revokedDevice,if_neg hrevoked]
        exact fun _ _ => rfl

end Changes

variable {H : Type} [Keccak H] [DecidableEq H] {P : Platform} {s : UsersSystem H}

structure TidyRows (r : Repositories) : Prop where
  devices : ∀ row ∈ r.devices.rows,row.binding.Tidy
  wallets : ∀ row ∈ r.wallets.rows,row.binding.Tidy

/-- No row is overwritten and no revoked device comes back. -/
def KeepsLifecycle (s : UsersSystem H) (e : AccountEvent) : Prop :=
  KeepsRows s e ∧ ¬e.Revives s.repositories

/-- The rows after a run in terms of those before it. -/
structure RowsAdvance (r r' : Repositories) : Prop where
  devices : ∀ deviceId device,r.devices.find deviceId = some device →
    ∃ device',r'.devices.find deviceId = some device' ∧ device.binding.Advances device'.binding
  wallets : ∀ address wallet,r.wallets.find address = some wallet →
    ∃ wallet',r'.wallets.find address = some wallet' ∧ wallet.binding.Advances wallet'.binding

section Runs

/-- The changes of a whole run, in which no revoked device comes back. -/
private theorem run_writes {events : List AccountEvent}
    (hkeeps : Throughout (AccountEvent.step P) KeepsLifecycle s events) :
    RowWrites False s.repositories (accountRun P s events).repositories := by
  induction events generalizing s with
  | nil => exact .refl _ _
  | cons e events ih =>
    obtain ⟨⟨hrows,hrevives⟩,hrest⟩ := hkeeps
    have hstep := step_writes (P := P) hrows.1 hrows.2
    rw [eq_false hrevives] at hstep
    exact hstep.trans (ih hrest)

omit [Keccak H] [DecidableEq H] in
private theorem TidyRows.writes {r r' : Repositories} (h : TidyRows r)
    (hwrites : RowWrites False r r') : TidyRows r' := by
  constructor
  · refine hwrites.devices.invariant (I := fun row => row.binding.Tidy) ?_ ?_ h.devices
    · exact fun row hnew hset => absurd hnew.2 hset
    · exact fun row row' htidy hchange => (hchange.tidyAdvances htidy).1
  · refine hwrites.wallets.invariant (I := fun row => row.binding.Tidy) ?_ ?_ h.wallets
    · exact fun row hnew hset => absurd hnew.2 hset
    · exact fun row row' htidy hchange => (hchange.tidyAdvances htidy).1

omit [Keccak H] [DecidableEq H] in
private theorem RowWrites.rowsAdvance {r r' : Repositories} (hwrites : RowWrites False r r')
    (htidy : TidyRows r) : RowsAdvance r r' := by
  constructor
  · intro deviceId device hdevice
    obtain ⟨device',hdevice',hadvances⟩ := hwrites.devices.related
      (R := fun row row' : Device => row.binding.TidyAdvances row'.binding) (fun _ => .refl _)
      (fun _ _ _ => .trans) (fun _ _ => DeviceChange.tidyAdvances) hdevice
    exact ⟨device',hdevice',(hadvances (htidy.devices device (Table.mem_of_find hdevice))).2⟩
  · intro address wallet hwallet
    obtain ⟨wallet',hwallet',hadvances⟩ := hwrites.wallets.related
      (R := fun row row' : Wallet => row.binding.TidyAdvances row'.binding) (fun _ => .refl _)
      (fun _ _ _ => .trans) (fun _ _ => WalletChange.tidyAdvances) hwallet
    exact ⟨wallet',hwallet',(hadvances (htidy.wallets wallet (Table.mem_of_find hwallet))).2⟩

end Runs

/-- From any point of a run on, every row there is keeps to its lifecycle. -/
theorem rows_follow_lifecycle (htidy : TidyRows s.repositories) {before after : List AccountEvent}
    (hkeeps : Throughout (AccountEvent.step P) KeepsLifecycle s (before++after)) :
    RowsAdvance (accountRun P s before).repositories (accountRun P s (before++after)).repositories := by
  obtain ⟨hbefore,hafter⟩ := throughout_append.mp hkeeps
  rw [accountRun_append]
  exact (run_writes hafter).rowsAdvance (htidy.writes (run_writes hbefore))

section Prototype

theorem staffUsers_tidy : TidyRows staffUsers.repositories := by
  constructor
  · intro row hrow hset
    obtain rfl := List.mem_singleton.mp hrow
    exact absurd rfl hset
  · intro row hrow hset
    obtain rfl := List.mem_singleton.mp hrow
    exact absurd rfl hset

/-- A second wallet takes the place of the first one, and the device is revoked. -/
def replacement : List AccountEvent :=
  [.registerWallet prototypeAuth.toContext "E-1" "DEV-1" "0xe2",
   .activateWallet prototypeAuth.toContext "E-1" "DEV-1" "0xe2" none (fun _ => accepted)
     ⟨[],accepted⟩ ⟨[],accepted⟩,
   .revokeDevice prototypeAuth.toContext "DEV-1" none (fun _ => ⟨[],accepted⟩)]

theorem rows_follow_lifecycle_replacement :
    RowsAdvance (accountRun prototypePlatform staffUsers []).repositories
      (accountRun prototypePlatform staffUsers replacement).repositories ∧
    ((accountRun prototypePlatform staffUsers replacement).repositories.devices.find "DEV-1").map
      Device.status = some .REVOKED := by
  have hkeeps : Throughout (AccountEvent.step prototypePlatform) KeepsLifecycle staffUsers
      ([]++replacement) := by
    refine ⟨⟨⟨trivial,?_⟩,id⟩,⟨⟨prototypeAuth_faithful,trivial⟩,id⟩,
      ⟨⟨prototypeAuth_faithful,trivial⟩,id⟩,trivial⟩
    unfold AccountEvent.KeepsRows
    decide +kernel
  exact ⟨rows_follow_lifecycle staffUsers_tidy hkeeps,by decide +kernel⟩

def deviceRevocation : AccountEvent :=
  .revokeDevice prototypeAuth.toContext "DEV-1" none (fun _ => ⟨[],accepted⟩)

def deviceAgain : AccountEvent := .registerDevice prototypeAuth "E-1" "DEV-1" none (some "key-1")

/-- Registering it again makes a revoked device ACTIVE and forgets the revocation. -/
theorem registerDevice_leaves_revoked :
    TidyRows staffUsers.repositories ∧
    ((accountRun prototypePlatform staffUsers [deviceRevocation]).repositories.devices.find
      "DEV-1").map Device.binding =
        some ⟨.REVOKED,"DID:BEL:ENG",some "2025-11-18T09:00:00.000Z"⟩ ∧
    ((accountRun prototypePlatform staffUsers [deviceRevocation,deviceAgain]).repositories.devices.find
      "DEV-1").map Device.binding = some ⟨.ACTIVE,"DID:BEL:ENG",none⟩ ∧
    ¬RowsAdvance (accountRun prototypePlatform staffUsers [deviceRevocation]).repositories
      (accountRun prototypePlatform staffUsers [deviceRevocation,deviceAgain]).repositories := by
  have hbefore : ((accountRun prototypePlatform staffUsers
      [deviceRevocation]).repositories.devices.find "DEV-1").map Device.binding =
      some ⟨.REVOKED,"DID:BEL:ENG",some "2025-11-18T09:00:00.000Z"⟩ := by decide +kernel
  have hafter : ((accountRun prototypePlatform staffUsers
      [deviceRevocation,deviceAgain]).repositories.devices.find "DEV-1").map Device.binding =
      some ⟨.ACTIVE,"DID:BEL:ENG",none⟩ := by decide +kernel
  refine ⟨staffUsers_tidy,hbefore,hafter,?_⟩
  intro hadvance
  obtain ⟨device,hdevice,hbinding⟩ := Option.map_eq_some_iff.mp hbefore
  obtain ⟨device',hdevice',hadvances⟩ := hadvance.devices "DEV-1" device hdevice
  rw [hdevice',Option.map_some,Option.some.injEq] at hafter
  have hrank := hadvances.status
  rw [hbinding,hafter] at hrank
  exact absurd hrank (by decide)

end Prototype

end BelLedger
