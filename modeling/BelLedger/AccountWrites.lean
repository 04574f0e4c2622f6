import BelLedger.AccountRuns

/-!
# What a call can do to the rows of devices and wallets

Rows are added, activated and revoked. The lookups of `initializeAccount` and `registerWallet` use the
ids as they are given and the rows are stored under the trimmed ones, so these two calls can also
overwrite a row, which is excluded here.
-/
namespace BelLedger
open CheckedCalls TransitionRuns KeyedTables UsersService AuthService

/-- The repository lists every row once. -/
structure UsersService.Context.Faithful (ctx : Context) : Prop where
  devices : ∀ rows,(ctx.deviceOrder rows).Perm rows
  wallets : ∀ rows,(ctx.walletOrder rows).Perm rows

def NewWallet (row : Wallet) : Prop := row.status = .PENDING ∧ row.revokedAt = none

def NewDevice (row : Device) : Prop := row.status ≠ .REVOKED ∧ row.revokedAt = none

inductive WalletChange : Wallet → Wallet → Prop
  | register (now : String) {row : Wallet} (hpending : row.status = .PENDING) :
      WalletChange row { row with status := .ACTIVE, activatedAt := some now }
  | activate (now : String) {row : Wallet} (hpending : row.status = .PENDING) :
      WalletChange row (activatedWallet now row)
  | revoke (now reason : String) {row : Wallet} (hactive : row.status = .ACTIVE) :
      WalletChange row (revokedWallet now reason row)

/-- A revoked device becomes ACTIVE again only if `Revives` holds. -/
inductive DeviceChange (Revives : Prop) : Device → Device → Prop
  | activate (now : String) {row : Device} (hpending : row.status = .PENDING) :
      DeviceChange Revives row { row with status := .ACTIVE, activatedAt := some now }
  | register {row row' : Device}
      (hbefore : row.status = .PENDING ∨ (row.status = .REVOKED ∧ Revives))
      (hactive : row'.status = .ACTIVE) (howner : row'.identityId = row.identityId)
      (hrevokedAt : row'.revokedAt = none) : DeviceChange Revives row row'
  | revoke (now : String) (row : Device) : DeviceChange Revives row (revokedDevice now row)

/-- The call registers a device that is revoked. -/
def AccountEvent.Revives (r : Repositories) : AccountEvent → Prop
  | .registerDevice _ _ deviceId _ _ => (r.devices.find deviceId).map Device.status = some .REVOKED
  | _ => False

/-- The call does not store a row in the place of another one. -/
def AccountEvent.KeepsRows (r : Repositories) : AccountEvent → Prop
  | .auth _ (.initializeAccount input _) _ =>
    (r.wallets.find input.walletAddress = none → r.wallets.find (jsTrim input.walletAddress) = none) ∧
      (r.devices.find input.deviceId = none → r.devices.find (jsTrim input.deviceId) = none)
  | .registerWallet _ _ _ address =>
    r.wallets.find address = none → r.wallets.find (jsTrim address) = none
  | _ => True

/-- The listings that the call uses. -/
def AccountEvent.Faithful : AccountEvent → Prop
  | .auth ctx _ _ => ctx.toContext.Faithful
  | .users (.activateRegistration ctx _ _ _ _ _) => ctx.Faithful
  | .revokeDevice ctx _ _ _ => ctx.Faithful
  | .revokeWallet ctx _ _ _ _ => ctx.Faithful
  | .activateWallet ctx _ _ _ _ _ _ _ => ctx.Faithful
  | _ => True

section Lists
variable {ctx : Context} (hctx : ctx.Faithful) {r : Repositories} {identityId : String}
include hctx

theorem mem_listWallets {row : Wallet} :
    row ∈ r.listWallets ctx identityId ↔ row ∈ r.wallets.rows ∧ row.identityId = identityId := by
  unfold Repositories.listWallets
  rw [(hctx.wallets _).mem_iff]
  simp

theorem mem_listDevices {row : Device} :
    row ∈ r.listDevices ctx identityId ↔ row ∈ r.devices.rows ∧ row.identityId = identityId := by
  unfold Repositories.listDevices
  rw [(hctx.devices _).mem_iff]
  simp

theorem listWallets_distinct : ((r.listWallets ctx identityId).map Wallet.address).Nodup := by
  unfold Repositories.listWallets
  rw [((hctx.wallets _).map Wallet.address).nodup_iff]
  exact r.wallets.distinct.sublist (List.filter_sublist.map Wallet.address)

end Lists

variable {H : Type} [Keccak H] [DecidableEq H] {P : Platform} {s : UsersSystem H}

/-- The device rows and the wallet rows after a call. -/
structure RowWrites (Revives : Prop) (r r' : Repositories) : Prop where
  devices : Table.Writes NewDevice (DeviceChange Revives) r.devices r'.devices
  wallets : Table.Writes NewWallet WalletChange r.wallets r'.wallets

theorem RowWrites.refl (Revives : Prop) (r : Repositories) : RowWrites Revives r r := ⟨.refl,.refl⟩

theorem RowWrites.trans {Revives : Prop} {r₁ r₂ r₃ : Repositories} (h : RowWrites Revives r₁ r₂)
    (h' : RowWrites Revives r₂ r₃) : RowWrites Revives r₁ r₃ :=
  ⟨h.devices.trans h'.devices,h.wallets.trans h'.wallets⟩

/-- The same where no wallet row is added and no revoked device comes back. -/
structure RowUpdates (r r' : Repositories) : Prop where
  devices : Table.Writes NewDevice (DeviceChange False) r.devices r'.devices
  wallets : Table.Writes (fun _ => False) WalletChange r.wallets r'.wallets

theorem RowUpdates.refl (r : Repositories) : RowUpdates r r := ⟨.refl,.refl⟩

theorem RowUpdates.trans {r₁ r₂ r₃ : Repositories} (h : RowUpdates r₁ r₂) (h' : RowUpdates r₂ r₃) :
    RowUpdates r₁ r₃ :=
  ⟨h.devices.trans h'.devices,h.wallets.trans h'.wallets⟩

theorem DeviceChange.mono {Revives : Prop} {row row' : Device} (h : DeviceChange False row row') :
    DeviceChange Revives row row' := by
  cases h with
  | activate now hpending => exact .activate now hpending
  | register hbefore hactive howner hrevokedAt =>
    exact .register (.inl (hbefore.resolve_right (fun h => h.2))) hactive howner hrevokedAt
  | revoke now => exact .revoke now row

theorem RowUpdates.writes {Revives : Prop} {r r' : Repositories} (h : RowUpdates r r') :
    RowWrites Revives r r' :=
  ⟨h.devices.mono (fun _ _ => DeviceChange.mono) (fun _ => id),
    h.wallets.mono (fun _ _ => id) (fun _ => False.elim)⟩

theorem SameRows.updates {r r' : Repositories} (h : SameRows r r') : RowUpdates r r' := by
  constructor
  · rw [h.devices]
    exact .refl
  · rw [h.wallets]
    exact .refl

section Advances

def UsersService.BindingStatus.rank : BindingStatus → ℕ
  | .PENDING => 0
  | .ACTIVE => 1
  | .REVOKED => 2

/-- A wallet row only moves on. -/
structure WalletAdvances (row row' : Wallet) : Prop where
  owner : row'.identityId = row.identityId
  device : row'.deviceId = row.deviceId
  status : row.status.rank ≤ row'.status.rank

theorem WalletAdvances.refl (row : Wallet) : WalletAdvances row row := ⟨rfl,rfl,Nat.le_refl _⟩

theorem WalletAdvances.trans {row₁ row₂ row₃ : Wallet} (h : WalletAdvances row₁ row₂)
    (h' : WalletAdvances row₂ row₃) : WalletAdvances row₁ row₃ :=
  ⟨h'.owner.trans h.owner,h'.device.trans h.device,h.status.trans h'.status⟩

theorem WalletAdvances.settled {row row' : Wallet} (h : WalletAdvances row row')
    (hsettled : row.status ≠ .PENDING) : row'.status ≠ .PENDING := by
  intro hpending
  have hrank := h.status
  rw [hpending] at hrank
  cases hstatus : row.status with
  | PENDING => exact hsettled hstatus
  | ACTIVE =>
    rw [hstatus] at hrank
    cases hrank
  | REVOKED =>
    rw [hstatus] at hrank
    cases hrank

theorem WalletAdvances.stays_revoked {row row' : Wallet} (h : WalletAdvances row row')
    (hrevoked : row.status = .REVOKED) : row'.status = .REVOKED := by
  have hrank := h.status
  rw [hrevoked] at hrank
  cases hstatus : row'.status with
  | PENDING =>
    rw [hstatus] at hrank
    cases hrank
  | ACTIVE =>
    rw [hstatus] at hrank
    exact absurd hrank (by decide)
  | REVOKED => rfl

theorem WalletChange.advances {row row' : Wallet} (h : WalletChange row row') :
    WalletAdvances row row' := by
  cases h with
  | register _ hpending => exact ⟨rfl,rfl,by simp [hpending,UsersService.BindingStatus.rank]⟩
  | activate _ hpending => exact ⟨rfl,rfl,by simp [hpending,UsersService.BindingStatus.rank]⟩
  | revoke _ _ hactive =>
    exact ⟨rfl,rfl,by simp [hactive,revokedWallet,UsersService.BindingStatus.rank]⟩

theorem DeviceChange.owner {Revives : Prop} {row row' : Device} (h : DeviceChange Revives row row') :
    row'.identityId = row.identityId := by
  cases h with
  | activate => rfl
  | register _ _ howner _ => exact howner
  | revoke =>
    unfold revokedDevice
    split
    · rfl
    · rfl

variable {Revives : Prop} {r r' : Repositories}

theorem RowWrites.wallet_advances (h : RowWrites Revives r r') {address : String} {row : Wallet}
    (hrow : r.wallets.find address = some row) :
    ∃ row',r'.wallets.find address = some row' ∧ WalletAdvances row row' :=
  h.wallets.related .refl (fun _ _ _ => .trans) (fun _ _ => WalletChange.advances) hrow

theorem RowWrites.device_owner (h : RowWrites Revives r r') {deviceId : String} {row : Device}
    (hrow : r.devices.find deviceId = some row) :
    ∃ row',r'.devices.find deviceId = some row' ∧ row'.identityId = row.identityId :=
  h.devices.related (R := fun d d' : Device => d'.identityId = d.identityId) (fun _ => rfl)
    (fun _ _ _ hd hd' => hd'.trans hd)
    (fun _ _ => DeviceChange.owner) hrow

end Advances

section Calls

private theorem assignRole_updates (ctx : Context) (actorId userId role : String) (d : Delivery) :
    RowUpdates s.repositories (assignRole P ctx s actorId userId role d).1.repositories := by
  unfold assignRole
  split
  · exact .refl _
  · dsimp only
    split
    · split
      · exact .refl _
      · exact ⟨.refl,.refl⟩
    · split
      · exact .refl _
      · exact ⟨.refl,.refl⟩

omit [Keccak H] [DecidableEq H] in
/-- The PENDING rows that are activated. -/
theorem activateCheck_rows {ctx : Context} (hctx : ctx.Faithful) {r : Repositories}
    {actorId userId : String} {actor : Identity} {g : Registration}
    (h : activateCheck ctx r actorId userId = .ok (actor,g)) :
    (g.device ∈ r.devices.rows ∧ g.device.status = .PENDING) ∧
      (g.wallet ∈ r.wallets.rows ∧ g.wallet.status = .PENDING) ∧
      g.wallet.identityId = g.identity.identityId ∧
      (ctx.evm = true → ctx.walletMatches g.wallet.address (g.wallet.publicKey.getD "") = true) := by
  obtain ⟨actor',-,h⟩ := ok_bind_iff.mp h
  obtain ⟨u,-,h⟩ := ok_bind_iff.mp h
  obtain ⟨identity,-,h⟩ := ok_bind_iff.mp h
  rw [revertIf_bind_eq_ok] at h
  obtain ⟨-,h⟩ := h
  split at h
  · rename_i device wallet hdevice hwallet
    simp only [revertIf_bind_eq_ok,ok_pure_iff] at h
    obtain ⟨-,hmatch,h⟩ := h
    obtain ⟨-,rfl⟩ := Prod.mk.inj h
    have hd := (mem_listDevices hctx).mp (List.mem_of_find?_eq_some hdevice)
    have hw := (mem_listWallets hctx).mp (List.mem_of_find?_eq_some hwallet)
    refine ⟨⟨hd.1,by simpa using List.find?_some hdevice⟩,
      ⟨hw.1,by simpa using List.find?_some hwallet⟩,hw.2,fun hevm => ?_⟩
    by_contra hfalse
    exact hmatch ⟨hevm,Bool.not_eq_true _ ▸ hfalse⟩
  · cases h

private theorem activateRegistration_updates {ctx : Context} (hctx : ctx.Faithful)
    (actorId userId : String) (created roleAssigned walletActivated : Stage) :
    RowUpdates s.repositories (activateRegistration P ctx s actorId userId created roleAssigned
      walletActivated).1.repositories := by
  unfold activateRegistration
  split
  · exact .refl _
  · rename_i actor g hcheck
    obtain ⟨⟨hdevice,hdevicePending⟩,⟨hwallet,hwalletPending⟩,-⟩ := activateCheck_rows hctx hcheck
    have hfindDevice : s.repositories.devices.find g.device.deviceId = some g.device :=
      Table.find_of_mem hdevice
    have hfindWallet : s.repositories.wallets.find g.wallet.address = some g.wallet :=
      Table.find_of_mem hwallet
    split
    · exact .refl _
    · refine ⟨?_,?_⟩
      · exact .update .refl hfindDevice (.activate ctx.now hdevicePending)
      · exact .update .refl hfindWallet (.register ctx.now hwalletPending)

private theorem createUser_updates (ctx : Context) (input : CreateIdentityInput)
    (actorId : Option String) (uuid : String) (aligned created assigned : Delivery) :
    RowUpdates s.repositories
      (createUser P ctx s input actorId uuid aligned created assigned).1.repositories := by
  rcases createUser_repositories (P := P) (s := s) ctx input actorId uuid aligned created assigned
    with h | ⟨identity,role,-,-,h⟩
  · rw [h]
    exact .refl _
  · rw [h]
    exact ⟨.refl,.refl⟩

omit [Keccak H] [DecidableEq H] in
private theorem registerDevice_writes (ctx : AuthContext) (userId deviceId : String)
    (credential publicKey : Option String) :
    RowWrites ((s.repositories.devices.find deviceId).map Device.status = some .REVOKED)
      s.repositories (registerDevice ctx s userId deviceId credential publicKey).1.repositories := by
  unfold registerDevice
  dsimp only
  split
  · exact .refl _ _
  · rename_i device hcheck
    refine ⟨?_,.refl⟩
    simp only [registerDeviceCheck,revertIf_bind_eq_ok] at hcheck
    obtain ⟨-,-,-,hcheck⟩ := hcheck
    obtain ⟨identity,-,hcheck⟩ := ok_bind_iff.mp hcheck
    simp only [revertIf_bind_eq_ok,ok_pure_iff] at hcheck
    obtain ⟨howner,hinactive,rfl⟩ := hcheck
    cases hfind : s.repositories.devices.find deviceId with
    | none => exact .insert .refl hfind ⟨by simp,rfl⟩
    | some row =>
      rw [hfind] at howner hinactive
      simp only [Option.map_some,Option.getD_some,not_not,Option.some.injEq] at howner hinactive
      refine .update .refl hfind (.register ?_ rfl howner.symm rfl)
      cases hstatus : row.status with
      | PENDING => exact .inl rfl
      | ACTIVE => exact absurd hstatus hinactive
      | REVOKED => exact .inr ⟨rfl,by simp [hstatus]⟩

omit [Keccak H] [DecidableEq H] in
/-- What `revokeDevice` is about. -/
theorem revokeDeviceCheck_rows {ctx : Context} {r : Repositories} {deviceId : String}
    {actorId : Option String} {device : Device} {actor : Identity} {wallets : List Wallet}
    (h : revokeDeviceCheck ctx r deviceId actorId = .ok (device,actor,wallets)) :
    r.devices.find deviceId = some device ∧
      requireIdentity (r.resolveIdentity (actorId.getD device.identityId)) = .ok actor ∧
      wallets = (r.listWallets ctx device.identityId).filter
        (fun wallet => wallet.deviceId = deviceId ∧ wallet.status = .ACTIVE) := by
  unfold revokeDeviceCheck at h
  split at h
  · cases h
  · rename_i found hfind
    obtain ⟨actor',hactor,h⟩ := ok_bind_iff.mp h
    obtain ⟨rfl,hpair⟩ := Prod.mk.inj (ok_pure_iff.mp h)
    obtain ⟨rfl,rfl⟩ := Prod.mk.inj hpair
    exact ⟨hfind,hactor,rfl⟩

private theorem revokeDevice_updates {ctx : Context} (hctx : ctx.Faithful) (deviceId : String)
    (actorId : Option String) (stages : ℕ → Stage) :
    RowUpdates s.repositories
      (revokeDevice P ctx s deviceId actorId stages).1.repositories := by
  unfold revokeDevice
  split
  · exact .refl _
  · rename_i device actor wallets hcheck
    split
    · exact .refl _
    · obtain ⟨hfind,-,rfl⟩ := revokeDeviceCheck_rows hcheck
      refine ⟨?_,?_⟩
      · have hkey : device.deviceId = deviceId := Table.key_of_find hfind
        have hsame : (revokedDevice ctx.now device).deviceId = deviceId := by
          unfold revokedDevice
          split
          · exact hkey
          · exact hkey
        exact .update .refl (by rw [hsame]; exact hfind) (.revoke ctx.now device)
      · have hstart : Table.Writes (fun _ => False) WalletChange s.repositories.wallets
            s.repositories.wallets := .refl
        refine hstart.updateAll (f := revokedWallet ctx.now "Device revoked") (fun _ => rfl) ?_ ?_ ?_
        · exact (listWallets_distinct hctx).sublist (List.filter_sublist.map Wallet.address)
        · intro row hrow
          have hmem := (mem_listWallets hctx).mp (List.mem_filter.mp hrow).1
          exact Table.find_of_mem hmem.1
        · intro row hrow
          have hrow' := (List.mem_filter.mp hrow).2
          rw [decide_eq_true_eq] at hrow'
          exact .revoke ctx.now "Device revoked" hrow'.2

omit [Keccak H] [DecidableEq H] in
/-- The new row belongs to an address that has no row as it is given. -/
theorem registerWalletCheck_rows {ctx : Context} {r : Repositories}
    {userId deviceId address : String} {wallet : Wallet}
    (h : registerWalletCheck ctx r userId deviceId address = .ok wallet) :
    r.wallets.find address = none ∧ wallet.address = jsTrim address ∧ wallet.status = .PENDING ∧
      wallet.revokedAt = none ∧
      (ctx.evm = true → ctx.walletMatches address (wallet.publicKey.getD "") = true) := by
  simp only [registerWalletCheck,revertIf_bind_eq_ok] at h
  obtain ⟨-,h⟩ := h
  obtain ⟨⟨identity,device⟩,-,h⟩ := ok_bind_iff.mp h
  simp only [revertIf_bind_eq_ok] at h
  obtain ⟨-,h⟩ := h
  obtain ⟨u,hmatch,h⟩ := ok_bind_iff.mp h
  simp only [revertIf_bind_eq_ok,ok_pure_iff] at h
  obtain ⟨hnew,rfl⟩ := h
  refine ⟨Option.not_isSome_iff_eq_none.mp hnew,rfl,rfl,rfl,?_⟩
  intro hevm
  by_contra hfalse
  exact revertIf_eq_ok.mp hmatch ⟨hevm,Bool.not_eq_true _ ▸ hfalse⟩

omit [Keccak H] [DecidableEq H] in
/-- The completed identity is that of the user, with an employee id that no other identity has. -/
theorem verifyCheck_rows {r : Repositories} {actorId userId employeeId department : String}
    {row : Identity} (h : verifyCheck r actorId userId employeeId department = .ok row) :
    ∃ target,requireIdentity (r.resolveIdentity userId) = .ok target ∧
      ((r.findByEmployeeId employeeId).map Identity.identityId).getD target.identityId =
        target.identityId ∧
      row = { target with
        employeeId := some (jsTrim employeeId), department := some (jsTrim department) } := by
  obtain ⟨actor,-,h⟩ := ok_bind_iff.mp h
  obtain ⟨u,-,h⟩ := ok_bind_iff.mp h
  rw [revertIf_bind_eq_ok] at h
  obtain ⟨-,h⟩ := h
  obtain ⟨target,htarget,h⟩ := ok_bind_iff.mp h
  simp only [revertIf_bind_eq_ok,ok_pure_iff,not_not] at h
  obtain ⟨-,hfree,rfl⟩ := h
  exact ⟨target,htarget,hfree,rfl⟩

omit [Keccak H] [DecidableEq H] in
private theorem registerWallet_writes {ctx : Context} {userId deviceId address : String}
    (hkeeps : s.repositories.wallets.find address = none →
      s.repositories.wallets.find (jsTrim address) = none) :
    RowWrites False s.repositories
      (registerWallet ctx s userId deviceId address).1.repositories := by
  unfold registerWallet
  split
  · exact .refl _ _
  · rename_i wallet hcheck
    refine ⟨.refl,?_⟩
    obtain ⟨hnew,haddress,hstatus,hrevoked,-⟩ := registerWalletCheck_rows hcheck
    exact .insert .refl (by rw [haddress]; exact hkeeps hnew) ⟨hstatus,hrevoked⟩

private theorem revokeRow_updates (ctx : Context) (actor : Identity) {wallet : Wallet}
    (reason : String) (d : Delivery) (hfind : s.repositories.wallets.find wallet.address = some wallet)
    (hactive : wallet.status = .ACTIVE) :
    RowUpdates s.repositories (revokeRow P ctx s actor wallet reason d).1.repositories := by
  unfold revokeRow
  split
  · exact .refl _
  · exact ⟨.refl,.update .refl hfind (.revoke ctx.now reason hactive)⟩

omit [Keccak H] [DecidableEq H] in
theorem revokeWalletCheck_rows {ctx : Context} {r : Repositories} {userId reason actorId : String}
    {actor : Identity} {wallet : Wallet}
    (h : revokeWalletCheck ctx r userId reason actorId = .ok (actor,wallet)) :
    requireIdentity (r.resolveIdentity actorId) = .ok actor ∧ wallet.status = .ACTIVE ∧
      ∃ identity,requireIdentity (r.resolveIdentity userId) = .ok identity ∧
        wallet ∈ r.listWallets ctx identity.identityId := by
  simp only [revokeWalletCheck,revertIf_bind_eq_ok] at h
  obtain ⟨-,h⟩ := h
  obtain ⟨identity,hidentity,h⟩ := ok_bind_iff.mp h
  split at h
  · cases h
  · rename_i row hrow
    obtain ⟨actor',hactor,h⟩ := ok_bind_iff.mp h
    obtain ⟨rfl,rfl⟩ := Prod.mk.inj (ok_pure_iff.mp h)
    exact ⟨hactor,by simpa using List.find?_some hrow,identity,hidentity,
      List.mem_of_find?_eq_some hrow⟩

private theorem revokeWallet_updates {ctx : Context} (hctx : ctx.Faithful) (userId reason : String)
    (actorId : Option String) (d : Delivery) :
    RowUpdates s.repositories
      (revokeWallet P ctx s userId reason actorId d).1.repositories := by
  unfold revokeWallet
  split
  · exact .refl _
  · rename_i actor wallet hcheck
    obtain ⟨-,hactive,identity,-,hlisted⟩ := revokeWalletCheck_rows hcheck
    have hfind := Table.find_of_mem ((mem_listWallets hctx).mp hlisted).1
    have hwrites := revokeRow_updates (P := P) ctx actor reason d hfind hactive
    split
    · rename_i s' e hrevoke
      rw [hrevoke] at hwrites
      exact hwrites
    · rename_i s' hrevoke
      rw [hrevoke] at hwrites
      exact hwrites

/-- The loop leaves the new wallet alone. -/
theorem revokeReplaced_updates (ctx : Context) (actor : Identity) (wallet : Wallet)
    {rows : List Wallet} (hdistinct : (rows.map Wallet.address).Nodup)
    (hrows : ∀ row ∈ rows,s.repositories.wallets.find row.address = some row)
    (deliveries : ℕ → Delivery) :
    RowUpdates s.repositories
        (revokeReplaced P ctx actor wallet s rows deliveries).1.repositories ∧
      (revokeReplaced P ctx actor wallet s rows deliveries).1.repositories.wallets.find
        wallet.address = s.repositories.wallets.find wallet.address := by
  induction rows generalizing s deliveries with
  | nil => exact ⟨.refl _,rfl⟩
  | cons current rest ih =>
    rw [List.map_cons,List.nodup_cons] at hdistinct
    have hrest : ∀ row ∈ rest,s.repositories.wallets.find row.address = some row :=
      fun row hrow => hrows row (List.mem_cons_of_mem current hrow)
    unfold revokeReplaced
    split
    · rename_i hreplaced
      have hwrites := revokeRow_updates (P := P) ctx actor "Replaced by wallet activation"
        (deliveries 0) (hrows current List.mem_cons_self) hreplaced.1
      have hfind : ∀ address,address ≠ current.address →
          (revokeRow P ctx s actor current "Replaced by wallet activation"
            (deliveries 0)).1.repositories.wallets.find address =
          s.repositories.wallets.find address := by
        intro address hne
        unfold revokeRow
        split
        · rfl
        · have hkey : (revokedWallet ctx.now "Replaced by wallet activation" current).address ≠
              address := fun he => hne he.symm
          rw [Table.find_save,if_neg hkey]
      split
      · rename_i s' e hrevoke
        rw [hrevoke] at hwrites hfind
        exact ⟨hwrites,hfind _ hreplaced.2.symm⟩
      · rename_i s' hrevoke
        rw [hrevoke] at hwrites hfind
        obtain ⟨hwrites',hsame⟩ := ih (s := s') hdistinct.2 (fun row hrow => by
          rw [hfind row.address (fun he => hdistinct.1 (he ▸ List.mem_map_of_mem hrow))]
          exact hrest row hrow) (fun k => deliveries (k + 1))
        exact ⟨hwrites.trans hwrites',hsame.trans (hfind _ hreplaced.2.symm)⟩
    · exact ih hdistinct.2 hrest _

omit [Keccak H] [DecidableEq H] in
/-- The PENDING wallet that is activated. -/
theorem activateWalletCheck_rows {ctx : Context} {r : Repositories}
    {userId deviceId address actorId : String} {actor identity : Identity} {wallet : Wallet}
    (h : activateWalletCheck ctx r userId deviceId address actorId = .ok (actor,identity,wallet)) :
    requireIdentity (r.resolveIdentity actorId) = .ok actor ∧
      requireIdentity (r.resolveIdentity userId) = .ok identity ∧ identity.status = .ACTIVE ∧
      r.wallets.find (jsTrim address) = some wallet ∧ wallet.identityId = identity.identityId ∧
      wallet.deviceId = deviceId ∧ wallet.status = .PENDING ∧
      (ctx.evm = true → ctx.walletMatches address (wallet.publicKey.getD "") = true) := by
  simp only [activateWalletCheck,revertIf_bind_eq_ok] at h
  obtain ⟨-,h⟩ := h
  obtain ⟨⟨identity',device⟩,hdevice,h⟩ := ok_bind_iff.mp h
  obtain ⟨found,hfound,hdevice⟩ := ok_bind_iff.mp hdevice
  rw [revertIf_bind_eq_ok] at hdevice
  obtain ⟨hactive,hdevice⟩ := hdevice
  split at hdevice
  · cases hdevice
  simp only [revertIf_bind_eq_ok,ok_pure_iff] at hdevice
  obtain ⟨rfl,-⟩ := Prod.mk.inj hdevice.2
  split at h
  · cases h
  · rename_i row hrow
    simp only [revertIf_bind_eq_ok] at h
    obtain ⟨howner,hstatus,-,h⟩ := h
    obtain ⟨u,hmatch,h⟩ := ok_bind_iff.mp h
    obtain ⟨actor',hactor,h⟩ := ok_bind_iff.mp h
    obtain ⟨rfl,hpair⟩ := Prod.mk.inj (ok_pure_iff.mp h)
    obtain ⟨rfl,rfl⟩ := Prod.mk.inj hpair
    rw [not_or,not_not,not_not] at hstatus
    refine ⟨hactor,hfound,not_not.mp hactive,hrow,not_not.mp howner,hstatus.1,hstatus.2,?_⟩
    intro hevm
    by_contra hfalse
    exact revertIf_eq_ok.mp hmatch ⟨hevm,Bool.not_eq_true _ ▸ hfalse⟩

private theorem activateWallet_updates {ctx : Context} (hctx : ctx.Faithful)
    (userId deviceId address : String) (actorId : Option String) (revocations : ℕ → Delivery)
    (created activated : Stage) :
    RowUpdates s.repositories (activateWallet P ctx s userId deviceId address actorId revocations
      created activated).1.repositories := by
  unfold activateWallet
  split
  · exact .refl _
  · rename_i actor identity wallet hcheck
    obtain ⟨-,-,-,hfind,-,-,hpending,-⟩ := activateWalletCheck_rows hcheck
    have hkey : wallet.address = jsTrim address := Table.key_of_find hfind
    have hdistinct : ((s.repositories.listWallets ctx identity.identityId).map
        Wallet.address).Nodup := listWallets_distinct hctx
    obtain ⟨hwrites,hsame⟩ := revokeReplaced_updates (P := P) (s := s) ctx actor wallet hdistinct
      (fun row hrow => Table.find_of_mem ((mem_listWallets hctx).mp hrow).1) revocations
    split
    · rename_i s' e hloop
      rw [hloop] at hwrites
      exact hwrites
    · rename_i s' hloop
      rw [hloop] at hwrites hsame
      split
      · exact hwrites
      · have hthere : s'.repositories.wallets.find wallet.address = some wallet := by
          rw [hsame,hkey]
          exact hfind
        refine hwrites.trans ⟨.refl,?_⟩
        exact .update .refl hthere (.activate ctx.now hpending)

private theorem initializeAccount_writes {ctx : AuthContext} {input : InitializeAccountRequest}
    {uuid : String} {r r' : Repositories} (h : RegistrationSaved ctx r r' input uuid)
    (hkeeps : (r.wallets.find input.walletAddress = none →
        r.wallets.find (jsTrim input.walletAddress) = none) ∧
      (r.devices.find input.deviceId = none → r.devices.find (jsTrim input.deviceId) = none)) :
    RowWrites False r r' := by
  constructor
  · rw [h.devices]
    exact .insert .refl (hkeeps.2 h.newDevice) ⟨by simp [newRegistration],rfl⟩
  · rw [h.wallets]
    exact .insert .refl (hkeeps.1 h.newWallet) ⟨rfl,rfl⟩

end Calls

/-- The call may add a device or a wallet, or bring a device back. -/
def AccountEvent.AddsRows : AccountEvent → Prop
  | .auth _ (.initializeAccount _ _) _ => True
  | .registerDevice .. => True
  | .registerWallet .. => True
  | _ => False

/-- Every other call changes rows in place. -/
theorem step_updates {e : AccountEvent} (hfaithful : e.Faithful) (hadds : ¬e.AddsRows) :
    RowUpdates s.repositories (e.step P s).repositories := by
  cases e with
  | auth ctx q env =>
    apply SameRows.updates
    apply serveAuth_sameRows
    rintro input uuid rfl
    exact hadds trivial
  | users e =>
    cases e with
    | assignRole ctx actorId userId role d => exact assignRole_updates ctx actorId userId role d
    | activateRegistration ctx actorId userId created roleAssigned walletActivated =>
      exact activateRegistration_updates hfaithful actorId userId created roleAssigned walletActivated
    | external tx => exact .refl _
  | createUser ctx input actorId uuid aligned created assigned =>
    exact createUser_updates ctx input actorId uuid aligned created assigned
  | verifyRegistration actorId userId employeeId department =>
    simp only [AccountEvent.step,verifyRegistration]
    split
    · exact .refl _
    · exact ⟨.refl,.refl⟩
  | registerDevice => exact absurd trivial hadds
  | revokeDevice ctx deviceId actorId stages =>
    exact revokeDevice_updates hfaithful deviceId actorId stages
  | registerWallet => exact absurd trivial hadds
  | revokeWallet ctx userId reason actorId d =>
    exact revokeWallet_updates hfaithful userId reason actorId d
  | activateWallet ctx userId deviceId address actorId revocations created activated =>
    exact activateWallet_updates hfaithful userId deviceId address actorId revocations created activated

/-- What one call does to the device rows and wallet rows. -/
theorem step_writes {e : AccountEvent} (hfaithful : e.Faithful) (hkeeps : e.KeepsRows s.repositories) :
    RowWrites (e.Revives s.repositories) s.repositories (e.step P s).repositories := by
  by_cases hadds : e.AddsRows
  · cases e with
    | auth ctx q env =>
      cases q with
      | initializeAccount input uuid =>
        rcases initializeAccount_effect ctx s.repositories input uuid env with hsame | hsaved
        · exact hsame.updates.writes
        · exact initializeAccount_writes hsaved hkeeps
      | _ => exact hadds.elim
    | registerDevice ctx userId deviceId credential publicKey =>
      exact registerDevice_writes ctx userId deviceId credential publicKey
    | registerWallet ctx userId deviceId address => exact registerWallet_writes hkeeps
    | _ => exact hadds.elim
  · exact (step_updates hfaithful hadds).writes

end BelLedger
