import BelLedger.SessionValidity
import BelLedger.AccountWrites

/-!
# Sessions and the rows behind them

Revoking a device or a wallet leaves the sessions alone; they are rejected because of the REVOKED row.
So the rows of a session must stay what they were, and they do as long as no registration stores a row
in the place of another one.
-/
namespace BelLedger
open TransitionRuns KeyedTables UsersService AuthService

variable {H : Type} [Keccak H] [DecidableEq H] {P : Platform} {s : UsersSystem H}
variable {events : List AccountEvent}

/-- Device and wallet of a session belong to its identity. -/
structure SessionBound (r : Repositories) (row : Session) : Prop where
  device : ∃ device,r.devices.find row.deviceId = some device ∧ device.identityId = row.identityId
  wallet : ∃ wallet,r.wallets.find row.walletAddress = some wallet ∧
    wallet.identityId = row.identityId ∧ wallet.deviceId = row.deviceId ∧ wallet.status ≠ .PENDING

def SessionsBound (r : Repositories) : Prop :=
  ∀ token row,r.sessions.find token = some row → SessionBound r row

/-- The wallet of a session is revoked. -/
def SessionDead (r : Repositories) (row : Session) : Prop :=
  (r.wallets.find row.walletAddress).map Wallet.status = some .REVOKED

section Rows
variable {Revives : Prop} {r r' : Repositories} {row : Session}

private theorem SessionBound.writes (h : SessionBound r row) (hwrites : RowWrites Revives r r') : SessionBound r' row := by
  obtain ⟨⟨device,hdevice,howner⟩,wallet,hwallet,hwalletOwner,hbound,hstatus⟩ := h
  constructor
  · obtain ⟨device',hdevice',hsame⟩ := hwrites.device_owner hdevice
    exact ⟨device',hdevice',hsame.trans howner⟩
  · obtain ⟨wallet',hwallet',hadvances⟩ := hwrites.wallet_advances hwallet
    refine ⟨wallet',hwallet',hadvances.owner.trans hwalletOwner,hadvances.device.trans hbound,?_⟩
    exact hadvances.settled hstatus

private theorem SessionDead.writes (h : SessionDead r row) (hwrites : RowWrites Revives r r') : SessionDead r' row := by
  obtain ⟨wallet,hwallet,hstatus⟩ := Option.map_eq_some_iff.mp h
  obtain ⟨wallet',hwallet',hadvances⟩ := hwrites.wallet_advances hwallet
  rw [SessionDead,hwallet',Option.map_some,hadvances.stays_revoked hstatus]

end Rows

/-- The repository lists every row, and no registration overwrites one. -/
def KeepsRows (s : UsersSystem H) (e : AccountEvent) : Prop :=
  e.Faithful ∧ e.KeepsRows s.repositories

omit [Keccak H] [DecidableEq H] in
/-- A login finds the rows of its session in order. -/
private theorem OpensSession.bound {e : AccountEvent} {row : Session} (hfaithful : e.Faithful)
    (h : OpensSession s e row) : SessionBound s.repositories row := by
  obtain ⟨ctx,q,env,user,rfl,hlogin,hreply,hrow⟩ := h
  obtain ⟨user',row',-,htoken,hsessions,hopened⟩ := login_returns hlogin (serveAuth_returns hreply)
  rw [hsessions,← htoken,Table.find_save,if_pos rfl] at hrow
  obtain rfl := Option.some.inj hrow
  obtain ⟨wallet,hlisted,haddress,hactive,hdevice⟩ := hopened.wallet
  obtain ⟨hmem,howner⟩ := (mem_listWallets hfaithful).mp hlisted
  refine ⟨hopened.device,wallet,?_,howner,hdevice,by simp [hactive]⟩
  rw [← haddress]
  exact Table.find_of_mem hmem

private theorem SessionsBound.step (h : SessionsBound s.repositories) {e : AccountEvent}
    (he : KeepsRows s e) : SessionsBound (e.step P s).repositories := by
  intro token row hrow
  have hwrites := step_writes (P := P) he.1 he.2
  have hstep := step_sessionStep (P := P) (s := s) e token
  rw [hrow] at hstep
  generalize hfound : some row = found at hstep
  cases hstep with
  | kept => exact (h token row hfound.symm).writes hwrites
  | deleted => cases hfound
  | opened row' _ hopens =>
    obtain rfl := Option.some.inj hfound
    exact (hopens.bound he.1).writes hwrites

theorem SessionsBound.run (h : SessionsBound s.repositories)
    (hkeeps : Throughout (AccountEvent.step P) KeepsRows s events) :
    SessionsBound (accountRun P s events).repositories :=
  hkeeps.invariant (I := fun s => SessionsBound s.repositories) (fun _ _ hs he => hs.step he) h

/-- The device of the session is revoked, or its wallet, in whatever way. -/
def RevokesSession (P : Platform) (s : UsersSystem H) (e : AccountEvent) (row : Session) : Prop :=
  (∃ ctx actorId stages device,e = .revokeDevice ctx row.deviceId actorId stages ∧
      (revokeDevice P ctx s row.deviceId actorId stages).2 = .ok device) ∨
    SessionDead (e.step P s).repositories row

section Revocation

/-- The revocation of a device revokes its ACTIVE wallets. -/
private theorem revokeDevice_revokes {ctx : Context} (hctx : ctx.Faithful) {deviceId : String}
    {actorId : Option String} {stages : ℕ → Stage} {device : Device}
    (hok : (revokeDevice P ctx s deviceId actorId stages).2 = .ok device) {found : Device}
    (hfound : s.repositories.devices.find deviceId = some found) {wallet : Wallet}
    (hwallet : wallet ∈ s.repositories.wallets.rows) (howner : wallet.identityId = found.identityId)
    (hdevice : wallet.deviceId = deviceId) (hactive : wallet.status = .ACTIVE) :
    ((revokeDevice P ctx s deviceId actorId stages).1.repositories.wallets.find
      wallet.address).map Wallet.status = some .REVOKED := by
  unfold revokeDevice at hok ⊢
  split
  · rename_i e hcheck
    rw [hcheck] at hok
    cases hok
  · rename_i device' actor wallets hcheck
    rw [hcheck] at hok
    dsimp only at hok
    obtain ⟨hfind,-,hwallets⟩ := revokeDeviceCheck_rows hcheck
    obtain rfl := Option.some.inj (hfound.symm.trans hfind)
    split
    · rename_i chain e hchain
      rw [hchain] at hok
      cases hok
    · have hmem : wallet ∈ wallets := by
        rw [hwallets,List.mem_filter,mem_listWallets hctx,decide_eq_true_eq]
        exact ⟨⟨hwallet,howner⟩,hdevice,hactive⟩
      have hdistinct : ((wallets.map (revokedWallet ctx.now "Device revoked")).map
          Wallet.address).Nodup := by
        rw [List.map_map,hwallets]
        exact (listWallets_distinct hctx).sublist (List.filter_sublist.map Wallet.address)
      have hsaved := Table.find_saveAll_of_mem (t := s.repositories.wallets) hdistinct
        (List.mem_map_of_mem hmem)
      have haddress : (revokedWallet ctx.now "Device revoked" wallet).address = wallet.address := rfl
      rw [haddress] at hsaved
      rw [saveRevokedDevice,hsaved]
      rfl

/-- After the revocation the wallet of the session is REVOKED. -/
private theorem RevokesSession.dead {e : AccountEvent} {row : Session}
    (h : RevokesSession P s e row) (he : KeepsRows s e) (hbound : SessionBound s.repositories row) :
    SessionDead (e.step P s).repositories row := by
  rcases h with ⟨ctx,actorId,stages,device,rfl,hok⟩ | hdead
  · obtain ⟨⟨found,hfound,howner⟩,wallet,hwallet,hwalletOwner,hwalletDevice,hsettled⟩ := hbound
    cases hstatus : wallet.status with
    | PENDING => exact absurd hstatus hsettled
    | ACTIVE =>
      have hrevoked := revokeDevice_revokes he.1 hok hfound (Table.mem_of_find hwallet)
        (hwalletOwner.trans howner.symm) hwalletDevice hstatus
      rw [show wallet.address = row.walletAddress from Table.key_of_find hwallet] at hrevoked
      exact hrevoked
    | REVOKED =>
      have hbefore : SessionDead s.repositories row := by
        rw [SessionDead,hwallet,Option.map_some,hstatus]
      exact hbefore.writes (step_writes (P := P) he.1 he.2)
  · exact hdead

private theorem SessionBound.run {row : Session} (h : SessionBound s.repositories row)
    (hkeeps : Throughout (AccountEvent.step P) KeepsRows s events) :
    SessionBound (accountRun P s events).repositories row :=
  hkeeps.invariant (I := fun s => SessionBound s.repositories row)
    (fun _ _ hs he => hs.writes (step_writes (P := P) he.1 he.2)) h

private theorem SessionDead.run {row : Session} (h : SessionDead s.repositories row)
    (hkeeps : Throughout (AccountEvent.step P) KeepsRows s events) :
    SessionDead (accountRun P s events).repositories row :=
  hkeeps.invariant (I := fun s => SessionDead s.repositories row)
    (fun _ _ hs he => hs.writes (step_writes (P := P) he.1 he.2)) h

/-- The session of a token stays the same as long as the token is not drawn again. -/
private theorem session_run {row : Session}
    (h : ∀ row',s.repositories.sessions.find row.token = some row' → row' = row)
    (hdraws : ∀ e ∈ events,e.draws ≠ some row.token) :
    ∀ row',(accountRun P s events).repositories.sessions.find row.token = some row' → row' = row := by
  induction events using List.reverseRecOn with
  | nil => exact h
  | append_singleton events e ih =>
    intro row' hrow'
    rw [accountRun_snoc] at hrow'
    have hstep := step_sessionStep (P := P) (s := accountRun P s events) e row.token
    rw [hrow'] at hstep
    generalize hfound : some row' = found at hstep
    cases hstep with
    | kept => exact ih (fun e' he' => hdraws e' (List.mem_append_left _ he')) row' hfound.symm
    | deleted => cases hfound
    | opened opened htoken hopens =>
      exact absurd (htoken ▸ hopens.draws) (hdraws e (List.mem_append_right _ (by simp)))

/-- A session whose wallet is REVOKED is not accepted. -/
private theorem rejected_of_dead {r : Repositories} {row : Session}
    (hsession : ∀ row',r.sessions.find row.token = some row' → row' = row) (hdead : SessionDead r row)
    (ctx : AuthContext) (env : ℕ → Surroundings) :
    Validates ctx r row.token env none ∧ ∀ input operation resourceId reply,
      (serveAuth ctx r (.verifyFreshAuthentication row.token input operation resourceId) env).2 ≠
        .ok reply := by
  obtain ⟨wallet,hwallet,hrevoked⟩ := Option.map_eq_some_iff.mp hdead
  constructor
  · rw [validates_none_iff,← Bool.not_eq_true,acceptsToken_eq_true]
    rintro ⟨user,haccepted⟩
    obtain ⟨row',hrow',-,hforce⟩ := validates_some haccepted
    obtain rfl := hsession row' hrow'
    obtain ⟨device,wallet',-,hwallet',-,hactive,-⟩ := hforce.bound
    obtain rfl := Option.some.inj (hwallet.symm.trans hwallet')
    cases hrevoked.symm.trans hactive
  · intro input operation resourceId reply hreply
    obtain ⟨row',hrow',hactive⟩ := verifyFreshAuthentication_returns (serveAuth_returns hreply)
    obtain rfl := hsession row' hrow'
    rw [hwallet] at hactive
    unfold rowsActive at hactive
    split at hactive
    · rename_i identity device wallet' hwallet'
      obtain rfl := Option.some.inj hwallet'
      rw [decide_eq_true_eq,hrevoked] at hactive
      cases hactive.2.2.1
    · cases hactive

end Revocation

/-- Once the device or the wallet of a session is revoked its token is never accepted again, if no
registration stores a row in the place of another one. -/
theorem revocation_ends_session {login revocation : AccountEvent} {between after : List AccountEvent}
    {row : Session} (hopens : OpensSession s login row)
    (hkeeps : Throughout (AccountEvent.step P) KeepsRows s (login::between++revocation::after))
    (hdraws : ∀ e ∈ between++revocation::after,e.draws ≠ some row.token)
    (hrevokes : RevokesSession P (accountRun P s (login::between)) revocation row)
    (ctx : AuthContext) (env : ℕ → Surroundings) :
    Validates ctx (accountRun P s (login::between++revocation::after)).repositories row.token env
      none ∧
    ∀ input operation resourceId reply,
      (serveAuth ctx (accountRun P s (login::between++revocation::after)).repositories
        (.verifyFreshAuthentication row.token input operation resourceId) env).2 ≠ .ok reply := by
  obtain ⟨hfirst,hlast,hafter⟩ := throughout_append.mp hkeeps
  have hbound := (hopens.bound hfirst.1.1).run hfirst
  have hdead := (hrevokes.dead hlast hbound).run hafter
  have hrow : (login.step P s).repositories.sessions.find row.token = some row := by
    obtain ⟨ctx',q,env',user,rfl,-,-,hrow⟩ := hopens
    exact hrow
  have honly : ∀ row',(login.step P s).repositories.sessions.find row.token = some row' →
      row' = row := fun row' hrow' => Option.some.inj (hrow'.symm.trans hrow)
  have hsession := session_run (P := P) honly hdraws
  have hrun : accountRun P s (login::between++revocation::after) =
      accountRun P (revocation.step P (accountRun P s (login::between))) after :=
    accountRun_append P s (login::between) (revocation::after)
  refine rejected_of_dead hsession ?_ ctx env
  rw [← hrun] at hdead
  exact hdead

/-- The answer of `activeSession`. -/
theorem activeSession_run (ctx : Context) (r : Repositories) (row : Session) (env : ℕ → Surroundings) :
    (activeSession row).run (RepositoryCall.handle ctx) env r =
      (r,.ok (rowsActive (r.identities.find row.identityId) (r.devices.find row.deviceId)
        (r.wallets.find row.walletAddress))) := rfl

/-- The device and the wallet of an accepted session belong to its identity, and the stricter check
of fresh authentication accepts it too, if no registration stores a row in the place of another. -/
theorem session_of_one_identity (hempty : s.repositories.sessions = .empty)
    (hkeeps : Throughout (AccountEvent.step P) KeepsRows s events) {ctx : AuthContext}
    {token : String} {env : ℕ → Surroundings} {user : User}
    (haccepted : Validates ctx (accountRun P s events).repositories token env (some user)) :
    ∃ row device wallet,(accountRun P s events).repositories.sessions.find token = some row ∧
      (accountRun P s events).repositories.devices.find row.deviceId = some device ∧
      (accountRun P s events).repositories.wallets.find row.walletAddress = some wallet ∧
      device.identityId = row.identityId ∧ wallet.identityId = row.identityId ∧
      ∀ env,((activeSession row).run (RepositoryCall.handle ctx.toContext) env
        (accountRun P s events).repositories).2 = .ok true := by
  have hbound : SessionsBound s.repositories := by
    intro token row hrow
    rw [hempty] at hrow
    cases hrow
  obtain ⟨row,hrow,-,hforce⟩ := validates_some haccepted
  obtain ⟨⟨device,hdevice,howner⟩,wallet,hwallet,hwalletOwner,-,-⟩ := hbound.run hkeeps token row hrow
  refine ⟨row,device,wallet,hrow,hdevice,hwallet,howner,hwalletOwner,?_⟩
  intro env
  obtain ⟨identity,hidentity,hactive,-⟩ := hforce.identity
  obtain ⟨device',wallet',hdevice',hwallet',hdeviceActive,hwalletActive,hsame,-⟩ := hforce.bound
  obtain rfl := Option.some.inj (hdevice.symm.trans hdevice')
  obtain rfl := Option.some.inj (hwallet.symm.trans hwallet')
  have hid : identity.identityId = row.identityId := Table.key_of_find hidentity
  rw [activeSession_run,hidentity,hdevice,hwallet]
  simp [rowsActive,hactive,hdeviceActive,hwalletActive,hsame,hid,hwalletOwner]

section Prototype

theorem prototypeAuth_faithful : prototypeAuth.toContext.Faithful :=
  ⟨fun rows => List.Perm.refl rows,fun rows => List.Perm.refl rows⟩

def engineerSession : Session := ⟨"bel_uuid-1","DID:BEL:ENG","DEV-1","0xe1",3602000⟩

/-- The engineer before the login. -/
def challengedUsers : UsersSystem (Option Bytes) :=
  accountRun prototypePlatform engineerUsers (signIn.take 1)

def engineerLogin : AccountEvent :=
  request (.loginWithProof ⟨"DEV-1","challenge-1","key-1","nonce-1/key-1"⟩ "uuid-1") 2000

theorem engineerLogin_opens : OpensSession challengedUsers engineerLogin engineerSession :=
  ⟨prototypeAuth,_,clock 2000,⟨"E-1","DID:BEL:ENG","0xe1",.ENGINEER,"RADAR",.ACTIVE⟩,rfl,rfl,
    by decide +kernel,by decide +kernel⟩

theorem deviceReturns_keeps : Throughout (AccountEvent.step prototypePlatform) KeepsRows
    challengedUsers (engineerLogin::[]++deviceReturns) := by
  refine ⟨⟨prototypeAuth_faithful,trivial⟩,⟨prototypeAuth_faithful,trivial⟩,
    ⟨prototypeAuth_faithful,trivial⟩,⟨trivial,trivial⟩,⟨trivial,?_⟩,
    ⟨prototypeAuth_faithful,trivial⟩,trivial⟩
  unfold AccountEvent.KeepsRows
  decide +kernel

theorem revocation_ends_session_device_returns :
    Validates prototypeAuth (accountRun prototypePlatform challengedUsers
      (engineerLogin::[]++deviceReturns)).repositories "bel_uuid-1" (clock 4000) none :=
  (revocation_ends_session engineerLogin_opens deviceReturns_keeps
    (by simp [request,AccountEvent.draws,AuthRequest.tokenOf])
    (.inl ⟨prototypeAuth.toContext,none,fun _ => ⟨[],accepted⟩,
      ⟨"DEV-1","DID:BEL:ENG",.REVOKED,"2025-11-17T09:00:00.000Z",none,
        some "2025-11-18T09:00:00.000Z",some "key-1"⟩,rfl,by decide +kernel⟩)
    prototypeAuth (clock 4000)).1

def walletRevocation : AccountEvent :=
  .revokeWallet prototypeAuth.toContext "E-1" "Lost" none accepted

/-- The revoked wallet is registered again with a blank before and after its address. -/
def walletReturns : List AccountEvent :=
  [.registerWallet prototypeAuth.toContext "E-1" "DEV-1" " 0xe1 ",
   .activateWallet prototypeAuth.toContext "E-1" "DEV-1" "0xe1" none (fun _ => accepted)
     ⟨[],accepted⟩ ⟨[],accepted⟩]

theorem revoked_wallet_revives_session :
    OpensSession challengedUsers engineerLogin engineerSession ∧
    (∀ e ∈ walletRevocation::walletReturns,e.draws ≠ some "bel_uuid-1") ∧
    RevokesSession prototypePlatform (accountRun prototypePlatform challengedUsers [engineerLogin])
      walletRevocation engineerSession ∧
    acceptsToken prototypeAuth (accountRun prototypePlatform challengedUsers
      (engineerLogin::[]++walletRevocation::walletReturns)).repositories "bel_uuid-1" (clock 4000) =
        true := by
  refine ⟨engineerLogin_opens,?_,.inr ?_,by decide +kernel⟩
  · simp [walletRevocation,walletReturns,AccountEvent.draws]
  · unfold SessionDead
    decide +kernel

/-- The engineer and an administrator. -/
def staffUsers : UsersSystem (Option Bytes) :=
  ⟨{ engineerRepositories with
      identities := engineerRepositories.identities.save
        ⟨"DID:BEL:ADMIN",some "ADMIN",some .ADMIN,some "SECURITY",.ACTIVE⟩ },workshop⟩

theorem session_of_one_identity_engineer :
    ∃ row device wallet,
      (accountRun prototypePlatform staffUsers signIn).repositories.sessions.find "bel_uuid-1" =
        some row ∧
      (accountRun prototypePlatform staffUsers signIn).repositories.devices.find row.deviceId =
        some device ∧
      (accountRun prototypePlatform staffUsers signIn).repositories.wallets.find row.walletAddress =
        some wallet ∧
      device.identityId = row.identityId ∧ wallet.identityId = row.identityId ∧
      ∀ env,((activeSession row).run (RepositoryCall.handle prototypeAuth.toContext) env
        (accountRun prototypePlatform staffUsers signIn).repositories).2 = .ok true := by
  have hkeeps : Throughout (AccountEvent.step prototypePlatform) KeepsRows staffUsers signIn :=
    ⟨⟨prototypeAuth_faithful,trivial⟩,⟨prototypeAuth_faithful,trivial⟩,trivial⟩
  obtain ⟨user,haccepted⟩ := acceptsToken_eq_true.mp (show acceptsToken prototypeAuth
    (accountRun prototypePlatform staffUsers signIn).repositories "bel_uuid-1" (clock 3000) = true
    by decide +kernel)
  exact session_of_one_identity rfl hkeeps haccepted

/-- Somebody else registers the device and the wallet of the engineer with blanks around their ids. -/
def takeover : List AccountEvent :=
  [request (.requestProvisioningChallenge ⟨" DEV-1 ",some .leaf⟩ ⟨"challenge-2","nonce-2"⟩) 3000,
   request (.initializeAccount
     { hasPrivateKey := false, fullName := "Trainee", deviceId := " DEV-1 ", publicKey := "key-2",
       walletAddress := " 0xe1 ", challengeId := "challenge-2", signature := "nonce-2/key-2",
       deviceMetadata := some .leaf, employeeId := none, department := none } "uuid-2") 4000,
   .verifyRegistration "ADMIN" "DID:BEL:uuid-2" "E-2" "RADAR",
   .users (.assignRole prototypeAuth.toContext "ADMIN" "E-2" "TECHNICIAN" accepted),
   .users (.activateRegistration prototypeAuth.toContext "ADMIN" "E-2" ⟨[],accepted⟩ ⟨[],accepted⟩
     ⟨[],accepted⟩)]

/-- The token of the engineer is still accepted, with the rows of the other one. -/
theorem takeover_keeps_session :
    staffUsers.repositories.sessions.rows = [] ∧
    acceptsToken prototypeAuth
      (accountRun prototypePlatform staffUsers (signIn++takeover)).repositories "bel_uuid-1"
      (clock 5000) = true ∧
    (accountRun prototypePlatform staffUsers (signIn++takeover)).repositories.sessions.find
      "bel_uuid-1" = some engineerSession ∧
    ((accountRun prototypePlatform staffUsers (signIn++takeover)).repositories.devices.find
      "DEV-1").map Device.identityId = some "DID:BEL:uuid-2" ∧
    ((accountRun prototypePlatform staffUsers (signIn++takeover)).repositories.wallets.find
      "0xe1").map Wallet.identityId = some "DID:BEL:uuid-2" ∧
    ((activeSession engineerSession).run (RepositoryCall.handle prototypeAuth.toContext) (clock 5000)
      (accountRun prototypePlatform staffUsers (signIn++takeover)).repositories).2 = .ok false := by
  decide +kernel

end Prototype

end BelLedger
