import BelLedger.AccountRequests

/-! # What a request to AuthServiceImpl does when it runs alone -/
namespace BelLedger
open KeyedTables EffectPrograms Prog UsersService AuthService

/-- The rows of identities, users, devices and wallets are the same. -/
structure SameRows (r r' : Repositories) : Prop where
  identities : r'.identities = r.identities
  users : r'.users = r.users
  devices : r'.devices = r.devices
  wallets : r'.wallets = r.wallets

theorem SameRows.refl (r : Repositories) : SameRows r r := ⟨rfl,rfl,rfl,rfl⟩

theorem SameRows.trans {r₁ r₂ r₃ : Repositories} (h : SameRows r₁ r₂) (h' : SameRows r₂ r₃) :
    SameRows r₁ r₃ :=
  ⟨h'.identities.trans h.identities,h'.users.trans h.users,h'.devices.trans h.devices,
    h'.wallets.trans h.wallets⟩

section Effects
variable {ctx : AuthContext} {r : Repositories}

/-- Only `initializeAccount` writes rows. -/
theorem serveAuth_sameRows {q : AuthRequest} (hq : ∀ input uuid,q ≠ .initializeAccount input uuid)
    (env : ℕ → Surroundings) : SameRows r (serveAuth ctx r q env).1 := by
  refine Prog.run_frame SameRows.refl SameRows.trans ?_ (AuthRequest.prog_calls q)
  intro env r c hc
  cases c with
  | saveIdentity row =>
    obtain ⟨input,uuid,rfl,-⟩ := hc
    exact absurd rfl (hq input uuid)
  | saveDevice row =>
    obtain ⟨input,uuid,rfl,-⟩ := hc
    exact absurd rfl (hq input uuid)
  | saveWallet row =>
    obtain ⟨input,uuid,rfl,-⟩ := hc
    exact absurd rfl (hq input uuid)
  | _ => exact ⟨rfl,rfl,rfl,rfl⟩

/-- Only a login writes sessions, and only `validateSession` and `logout` delete them. -/
theorem serveAuth_sameSessions {q : AuthRequest} (hlogin : q.tokenOf = none)
    (hdelete : ∀ token,q ≠ .validateSession token ∧ q ≠ .logout token) (env : ℕ → Surroundings) :
    (serveAuth ctx r q env).1.sessions = r.sessions := by
  refine Prog.run_frame (R := fun r r' : Repositories => r'.sessions = r.sessions) (fun _ => rfl)
    (fun h h' => h'.trans h) ?_ (AuthRequest.prog_calls q)
  intro env r c hc
  cases c with
  | saveSession row => cases hlogin.symm.trans hc
  | deleteSession token =>
    rcases hc with hc | hc
    · exact absurd hc (hdelete token).1
    · exact absurd hc (hdelete token).2
  | _ => rfl

/-- The call writes or deletes a session. -/
private def WritesSession : RepositoryCall → Prop
  | .saveSession _ => True
  | .deleteSession _ => True
  | _ => False

/-- A login that fails has opened no session. -/
theorem login_failed {q : AuthRequest} {token : String} (hlogin : q.tokenOf = some token)
    {env : ℕ → Surroundings} {e : ServiceError} (hfailed : (serveAuth ctx r q env).2 = .error e) :
    (serveAuth ctx r q env).1.sessions = r.sessions := by
  have hbefore : (q.prog ctx).FailsBefore WritesSession := by
    cases q with
    | loginWithProof input uuid =>
      simp [-bind_pure_comp,AuthRequest.prog,AuthService.loginWithProof,openSession,WritesSession]
    | login deviceCredential uuid =>
      simp [-bind_pure_comp,AuthRequest.prog,AuthService.login,openSession,WritesSession]
    | _ => cases hlogin
  refine Prog.run_failed (R := fun r r' : Repositories => r'.sessions = r.sessions) (fun _ => rfl)
    (fun h h' => h'.trans h) ?_ hbefore hfailed
  intro env r c hc
  cases c with
  | saveSession row => exact absurd trivial hc
  | deleteSession token => exact absurd trivial hc
  | _ => rfl

/-- The rows behind a session at its login. -/
structure SessionOpened (ctx : Context) (r : Repositories) (row : Session) : Prop where
  device : ∃ device,r.devices.find row.deviceId = some device ∧ device.identityId = row.identityId
  wallet : ∃ wallet ∈ r.listWallets ctx row.identityId,wallet.address = row.walletAddress ∧
    wallet.status = .ACTIVE ∧ wallet.deviceId = row.deviceId

private theorem sessionOpened_of_found {found : Parties} {deviceId : String} {row : Session}
    (hdevice : r.devices.find deviceId = some found.device)
    (hidentity : r.identities.find found.device.identityId = some found.identity)
    (hwallet : found.wallet ∈ r.listWallets ctx.toContext found.identity.identityId)
    (hactive : found.wallet.status = .ACTIVE) (hbound : found.wallet.deviceId = found.device.deviceId)
    (hrow : row.identityId = found.identity.identityId ∧ row.deviceId = found.device.deviceId ∧
      row.walletAddress = found.wallet.address) : SessionOpened ctx.toContext r row := by
  obtain ⟨hid,hdeviceId,haddress⟩ := hrow
  have hkey : found.device.deviceId = deviceId := Table.key_of_find hdevice
  have howner : found.identity.identityId = found.device.identityId := Table.key_of_find hidentity
  constructor
  · exact ⟨found.device,by rw [hdeviceId,hkey]; exact hdevice,howner.symm.trans hid.symm⟩
  · exact ⟨found.wallet,by rw [hid]; exact hwallet,haddress.symm,hactive,hbound.trans hdeviceId.symm⟩

/-- A login opens a session for a device and an ACTIVE wallet of one identity. -/
theorem login_returns {q : AuthRequest} {token : String} (hlogin : q.tokenOf = some token)
    {r' : Repositories} {reply : AuthReply}
    (h : (q.prog ctx).Returns (RepositoryCall.handle ctx.toContext) r r' reply) :
    ∃ user row,reply = .signedIn user token ∧ row.token = token ∧
      r'.sessions = r.sessions.save row ∧ SessionOpened ctx.toContext r row := by
  cases q with
  | loginWithProof input uuid =>
    obtain rfl : "bel_"++uuid = token := Option.some.inj hlogin
    simp only [AuthRequest.prog,AuthService.loginWithProof,openSession,bind_assoc,pure_bind,
      returns_perform_bind,returns_throwIf_bind,returns_orThrow_bind,returns_andThen_bind,
      returns_pure,parties_eq_some] at h
    simp only [RepositoryCall.handle,reduceCtorEq,and_self,and_false,false_and,exists_false,or_self,
      false_or,exists_and_left,exists_and_right] at h
    obtain ⟨-,row,-,-,-,-,device,hdevice,-,identity,-,-,identity',hidentity,-,found,
      ⟨hfound,hfoundIdentity,hwallet⟩,user,-,-,-,-,-,-,⟨now,rfl⟩,-,-,rfl⟩ := h
    obtain rfl := Option.some.inj (hdevice.symm.trans hfound)
    obtain rfl := Option.some.inj (hidentity.symm.trans hfoundIdentity)
    have hpicked := List.find?_some hwallet
    rw [decide_eq_true_eq] at hpicked
    have hkey : found.device.deviceId = input.deviceId := Table.key_of_find hdevice
    exact ⟨_,_,rfl,rfl,rfl,sessionOpened_of_found hdevice hidentity
      (List.mem_of_find?_eq_some hwallet) hpicked.1 (hpicked.2.trans hkey.symm) ⟨rfl,rfl,rfl⟩⟩
  | login deviceCredential uuid =>
    obtain rfl : "bel_"++uuid = token := Option.some.inj hlogin
    simp only [AuthRequest.prog,AuthService.login,openSession,bind_assoc,pure_bind,
      returns_perform_bind,returns_throwIf_bind,returns_orThrow_bind,returns_andThen_bind,
      returns_pure,parties_eq_some] at h
    simp only [RepositoryCall.handle,reduceCtorEq,and_self,and_false,false_and,exists_false,or_self,
      false_or,exists_and_left,exists_and_right,ne_eq,not_or,not_not] at h
    obtain ⟨-,-,-,deviceId,-,-,-,device,hdevice,-,identity,-,-,identity',hidentity,-,found,
      ⟨hfound,hfoundIdentity,hwallet⟩,user,-,⟨-,-,hbound⟩,-,⟨now,rfl⟩,-,rfl⟩ := h
    obtain rfl := Option.some.inj (hdevice.symm.trans hfound)
    obtain rfl := Option.some.inj (hidentity.symm.trans hfoundIdentity)
    have hpicked := List.find?_some hwallet
    rw [decide_eq_true_eq] at hpicked
    exact ⟨_,_,rfl,rfl,rfl,sessionOpened_of_found hdevice hidentity
      (List.mem_of_find?_eq_some hwallet) hpicked hbound ⟨rfl,rfl,rfl⟩⟩
  | _ => cases hlogin

/-- `validateSession` alone. -/
theorem serveAuth_validateSession (token : String) (env : ℕ → Surroundings) :
    serveAuth ctx r (.validateSession token) env =
      match r.sessions.find token with
      | none => (r,.ok (.session none))
      | some row =>
        if row.expiresAt ≤ (env 1).now then
          ({ r with sessions := r.sessions.remove token },.ok (.session none))
        else
          match sessionUser ctx (r.identities.find row.identityId) (r.devices.find row.deviceId)
              (r.wallets.find row.walletAddress) ((r.identities.find row.identityId).bind
                (fun identity => r.findByIdentityId identity.identityId)) with
          | some user => (r,.ok (.session (some user)))
          | none => ({ r with sessions := r.sessions.remove token },.ok (.session none)) := by
  simp only [serveAuth,AuthRequest.prog,AuthService.validateSession,bind_assoc,run_perform_bind]
  simp only [RepositoryCall.handle]
  cases r.sessions.find token with
  | none => rfl
  | some row =>
    simp only [bind_assoc,run_perform_bind]
    by_cases hexpired : row.expiresAt ≤ (env 1).now
    · simp only [RepositoryCall.handle,Nat.zero_add,if_pos hexpired]
      rfl
    · simp only [RepositoryCall.handle,Nat.zero_add,if_neg hexpired,bind_assoc,run_perform_bind]
      cases r.identities.find row.identityId with
      | none =>
        simp only [andThen,pure_bind,Option.bind_none]
        cases sessionUser ctx none (r.devices.find row.deviceId) (r.wallets.find row.walletAddress)
            none with
        | some user => rfl
        | none => rfl
      | some identity =>
        simp only [andThen,run_perform_bind,Option.bind_some]
        simp only [RepositoryCall.handle]
        cases sessionUser ctx (some identity) (r.devices.find row.deviceId)
            (r.wallets.find row.walletAddress) (r.findByIdentityId identity.identityId) with
        | some user => rfl
        | none => rfl

/-- Fresh authentication needs a session all of whose rows are ACTIVE and belong together. -/
theorem verifyFreshAuthentication_returns {token operation : String} {input : FreshAuthProofInput}
    {resourceId : Option String} {r' : Repositories} {reply : AuthReply}
    (h : ((AuthRequest.verifyFreshAuthentication token input operation resourceId).prog ctx).Returns
      (RepositoryCall.handle ctx.toContext) r r' reply) :
    ∃ row,r.sessions.find token = some row ∧ rowsActive (r.identities.find row.identityId)
      (r.devices.find row.deviceId) (r.wallets.find row.walletAddress) = true := by
  simp only [AuthRequest.prog,AuthService.verifyFreshAuthentication,requireSession,activeSession,
    bind_assoc,pure_bind,returns_perform_bind,returns_throwIf_bind,returns_orThrow_bind] at h
  simp only [RepositoryCall.handle] at h
  obtain ⟨-,row,hrow,-,-,-,-,-,hactive,-⟩ := h
  exact ⟨row,hrow,Bool.not_eq_false _ ▸ hactive⟩

/-- The call writes the row of an identity, a device or a wallet. -/
private def WritesRow : RepositoryCall → Prop
  | .saveIdentity _ => True
  | .saveDevice _ => True
  | .saveWallet _ => True
  | _ => False

/-- The rows of a new registration are stored. -/
structure RegistrationSaved (ctx : AuthContext) (r r' : Repositories)
    (input : InitializeAccountRequest) (uuid : String) : Prop where
  newWallet : r.wallets.find input.walletAddress = none
  newDevice : r.devices.find input.deviceId = none
  matching : ctx.evm = true → ctx.walletMatches input.walletAddress input.publicKey = true
  identities : r'.identities = r.identities.save (newRegistration ctx.now input uuid).identity
  users : r'.users = r.users
  devices : r'.devices = r.devices.save (newRegistration ctx.now input uuid).device
  wallets : r'.wallets = r.wallets.save (newRegistration ctx.now input uuid).wallet

/-- No row has the employee id as it is given. -/
def NewEmployee (r : Repositories) (employeeId : Option String) : Prop :=
  ∀ id,employeeId = some id → id ≠ "" → r.findByEmployeeId id = none

private theorem returns_requireUnknownEmployee_bind {employeeId : Option String}
    {f : Unit → Program AuthReply} {r' : Repositories} {reply : AuthReply}
    (h : (requireUnknownEmployee employeeId >>= f).Returns (RepositoryCall.handle ctx.toContext) r r'
      reply) :
    NewEmployee r employeeId ∧
      (f ()).Returns (RepositoryCall.handle ctx.toContext) r r' reply := by
  cases employeeId with
  | none => exact ⟨nofun,h⟩
  | some id =>
    by_cases hid : id = ""
    · rw [requireUnknownEmployee,if_pos hid] at h
      exact ⟨fun id' heq hne => absurd ((Option.some.inj heq).symm.trans hid) hne,h⟩
    · simp only [requireUnknownEmployee,if_neg hid,bind_assoc,returns_perform_bind,
        returns_throwIf_bind] at h
      obtain ⟨env,hnew,h⟩ := h
      refine ⟨?_,h⟩
      rintro id' heq -
      rw [← Option.some.inj heq]
      exact Option.not_isSome_iff_eq_none.mp hnew

private theorem failsBefore_requireUnknownEmployee_bind {employeeId : Option String}
    {f : Unit → Program AuthReply} :
    (requireUnknownEmployee employeeId >>= f).FailsBefore WritesRow ↔
      (f ()).FailsBefore WritesRow := by
  cases employeeId with
  | none => exact Iff.rfl
  | some id =>
    by_cases hid : id = ""
    · rw [requireUnknownEmployee,if_pos hid]
      exact Iff.rfl
    · simp only [requireUnknownEmployee,if_neg hid,bind_assoc,failsBefore_perform_bind,
        failsBefore_throwIf_bind]
      exact ⟨fun h => (h none).1 (by simp),fun h existing => ⟨fun _ => h,fun hwrites => hwrites.elim⟩⟩

/-- An initialization that succeeds has stored all rows of its registration, of an employee who is new
as spelt. -/
theorem initializeAccount_returns {input : InitializeAccountRequest} {uuid : String}
    {r' : Repositories} {reply : AuthReply}
    (h : ((AuthRequest.initializeAccount input uuid).prog ctx).Returns
      (RepositoryCall.handle ctx.toContext) r r' reply) :
    RegistrationSaved ctx r r' input uuid ∧ NewEmployee r input.employeeId ∧
      reply = .registration (newRegistration ctx.now input uuid) := by
  simp only [AuthRequest.prog,UsersService.initializeAccount,attestDevice,bind_assoc,pure_bind,
    returns_perform_bind,returns_throwIf_bind,returns_orThrow_bind] at h
  simp only [RepositoryCall.handle] at h
  obtain ⟨-,-,-,row,-,-,-,-,-,-,hmatch,-,-,-,-,-,hwallet,-,hdevice,h⟩ := h
  obtain ⟨hemployee,hrest⟩ := returns_requireUnknownEmployee_bind h
  simp only [returns_perform_bind,returns_throwIf_bind,returns_pure] at hrest
  simp only [RepositoryCall.handle] at hrest
  obtain ⟨-,-,-,-,-,-,rfl,hreply⟩ := hrest
  refine ⟨⟨?_,?_,?_,rfl,rfl,rfl,rfl⟩,hemployee,hreply.symm⟩
  · simpa using hwallet
  · simpa using hdevice
  · intro hevm
    by_contra hfalse
    exact hmatch ⟨hevm,Bool.not_eq_true _ ▸ hfalse⟩

/-- An initialization that fails has stored none of its rows. -/
theorem initializeAccount_failed {input : InitializeAccountRequest} {uuid : String}
    {env : ℕ → Surroundings} {e : ServiceError}
    (hfailed : (serveAuth ctx r (.initializeAccount input uuid) env).2 = .error e) :
    SameRows r (serveAuth ctx r (.initializeAccount input uuid) env).1 := by
  refine Prog.run_failed (P := WritesRow) SameRows.refl SameRows.trans ?_ ?_ hfailed
  · intro env r c hc
    cases c with
    | saveIdentity row => exact absurd trivial hc
    | saveDevice row => exact absurd trivial hc
    | saveWallet row => exact absurd trivial hc
    | _ => exact ⟨rfl,rfl,rfl,rfl⟩
  · simp only [AuthRequest.prog,UsersService.initializeAccount,attestDevice,bind_assoc,pure_bind,
      failsBefore_perform_bind,failsBefore_throwIf_bind,failsBefore_orThrow_bind,
      failsBefore_requireUnknownEmployee_bind]
    simp [-bind_pure_comp,WritesRow]

/-- An initialization stores all rows of its registration, of an employee who is new as spelt, or none
of them. -/
theorem initializeAccount_cases (ctx : AuthContext) (r : Repositories)
    (input : InitializeAccountRequest) (uuid : String) (env : ℕ → Surroundings) :
    SameRows r (serveAuth ctx r (.initializeAccount input uuid) env).1 ∨
      RegistrationSaved ctx r (serveAuth ctx r (.initializeAccount input uuid) env).1 input uuid ∧
        NewEmployee r input.employeeId := by
  cases hresult : (serveAuth ctx r (.initializeAccount input uuid) env).2 with
  | error e => exact .inl (initializeAccount_failed hresult)
  | ok reply =>
    have h : ((AuthRequest.initializeAccount input uuid).prog ctx).Returns
        (RepositoryCall.handle ctx.toContext) r
        (serveAuth ctx r (.initializeAccount input uuid) env).1 reply := ⟨env,by rw [← hresult]; rfl⟩
    obtain ⟨hsaved,hemployee,-⟩ := initializeAccount_returns h
    exact .inr ⟨hsaved,hemployee⟩

theorem initializeAccount_effect (ctx : AuthContext) (r : Repositories)
    (input : InitializeAccountRequest) (uuid : String) (env : ℕ → Surroundings) :
    SameRows r (serveAuth ctx r (.initializeAccount input uuid) env).1 ∨
      RegistrationSaved ctx r (serveAuth ctx r (.initializeAccount input uuid) env).1 input uuid :=
  (initializeAccount_cases ctx r input uuid env).imp id And.left

end Effects
end BelLedger
