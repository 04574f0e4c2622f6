import BelLedger.ChallengeUse
import BelLedger.AccountRuns

/-!
# Sessions

A session is opened by a login and accepted while its rows are ACTIVE. Every rejection deletes it, so
a token that was rejected or logged out stays without a session.
-/
namespace BelLedger
open TransitionRuns KeyedTables UsersService AuthService

variable {H : Type} [Keccak H] [DecidableEq H] {P : Platform} {s : UsersSystem H}
variable {events : List AccountEvent} {token : String}

/-- The answer of `validateSession`. -/
def Validates (ctx : AuthContext) (r : Repositories) (token : String) (env : ℕ → Surroundings)
    (user : Option User) : Prop :=
  (serveAuth ctx r (.validateSession token) env).2 = .ok (.session user)

/-- The rows that a session names are in force, and the user is the one they describe. -/
structure SessionInForce (ctx : AuthContext) (r : Repositories) (row : Session) (user : User) :
    Prop where
  identity : ∃ identity,r.identities.find row.identityId = some identity ∧
    identity.status = .ACTIVE ∧ identity.role = some user.role ∧ user.status = identity.status
  bound : ∃ device wallet,r.devices.find row.deviceId = some device ∧
    r.wallets.find row.walletAddress = some wallet ∧ device.status = .ACTIVE ∧
    wallet.status = .ACTIVE ∧ wallet.deviceId = device.deviceId ∧
    (ctx.evm = true → ctx.walletMatches wallet.address (device.publicKey.getD "") = true)

section Validation
variable {ctx : AuthContext} {r : Repositories} {env : ℕ → Surroundings}

/-- An accepted token has a session that is in force. The clock is read after the session. -/
theorem validates_some {user : User} (h : Validates ctx r token env (some user)) :
    ∃ row,r.sessions.find token = some row ∧ (env 1).now < row.expiresAt ∧
      SessionInForce ctx r row user := by
  unfold Validates at h
  rw [serveAuth_validateSession] at h
  split at h
  · cases h
  · rename_i row hrow
    split at h
    · cases h
    · rename_i hexpired
      refine ⟨row,hrow,Int.not_le.mp hexpired,?_⟩
      split at h
      · rename_i found hfound
        obtain rfl : found = user := by simpa using h
        unfold sessionUser at hfound
        split at hfound
        · rename_i rows known hrows hknown
          obtain ⟨hdevice,hidentity,hwallet⟩ := parties_eq_some.mp hrows
          split at hfound
          · rename_i hactive
            obtain ⟨hcomplete,hdeviceActive,hidentityActive,hwalletActive,hbound,-,hmatches⟩ := hactive
            obtain rfl := Option.some.inj hfound
            obtain ⟨role,hrole⟩ := Option.ne_none_iff_exists'.mp hcomplete.2.1
            constructor
            · exact ⟨rows.identity,hidentity,hidentityActive,by simp [signedIn,hrole],rfl⟩
            · exact ⟨rows.device,rows.wallet,hdevice,hwallet,hdeviceActive,hwalletActive,hbound,
                hmatches⟩
          · cases hfound
        · cases hfound
      · cases h

theorem validates_none_of_absent (h : r.sessions.find token = none) :
    Validates ctx r token env none := by
  unfold Validates
  rw [serveAuth_validateSession,h]

/-- A rejected token has no session any more. -/
theorem absent_of_validates_none (h : Validates ctx r token env none) :
    (serveAuth ctx r (.validateSession token) env).1.sessions.find token = none := by
  unfold Validates at h
  rw [serveAuth_validateSession] at h ⊢
  split
  · rename_i hrow
    exact hrow
  · rename_i row hrow
    rw [hrow] at h
    dsimp only at h
    split at h
    · rename_i hexpired
      rw [if_pos hexpired,Table.find_remove,if_pos rfl]
    · rename_i hexpired
      rw [if_neg hexpired]
      split at h
      · simp at h
      · rename_i hnone
        rw [Table.find_remove,if_pos rfl]

def acceptsToken (ctx : AuthContext) (r : Repositories) (token : String) (env : ℕ → Surroundings) :
    Bool :=
  match (serveAuth ctx r (.validateSession token) env).2 with
  | .ok (.session (some _)) => true
  | _ => false

theorem acceptsToken_eq_true :
    acceptsToken ctx r token env = true ↔ ∃ user,Validates ctx r token env (some user) := by
  unfold acceptsToken Validates
  constructor
  · intro h
    split at h
    · rename_i user huser
      exact ⟨user,huser⟩
    · cases h
  · rintro ⟨user,huser⟩
    rw [huser]

/-- `validateSession` always answers. -/
theorem validates_none_iff :
    Validates ctx r token env none ↔ acceptsToken ctx r token env = false := by
  unfold acceptsToken Validates
  rw [serveAuth_validateSession]
  cases r.sessions.find token with
  | none => simp
  | some row =>
    dsimp only
    split
    · simp
    · split
      · simp
      · simp

end Validation

/-- The session was opened by a login of the run, and not logged out since. -/
def Live (P : Platform) (s : UsersSystem H) (events : List AccountEvent) (row : Session) : Prop :=
  ∃ before login after,events = before++login::after ∧ OpensSession (accountRun P s before) login row ∧
    ∀ e ∈ after,∀ ctx env,e ≠ .auth ctx (.logout row.token) env

theorem live_of_session (hempty : s.repositories.sessions = .empty) {row : Session}
    (hrow : (accountRun P s events).repositories.sessions.find token = some row) :
    row.token = token ∧ Live P s events row := by
  induction events using List.reverseRecOn generalizing row with
  | nil =>
    rw [show accountRun P s [] = s from rfl,hempty] at hrow
    cases hrow
  | append_singleton events e ih =>
    have htoken : row.token = token := Table.key_of_find hrow
    refine ⟨htoken,?_⟩
    rw [accountRun_snoc] at hrow
    have hstep := step_sessionStep (P := P) (s := accountRun P s events) e token
    rw [hrow] at hstep
    generalize hfound : some row = found at hstep
    cases hstep with
    | kept hlogout =>
      obtain ⟨-,before,login,after,rfl,hopens,hafter⟩ := ih hfound.symm
      refine ⟨before,login,after++[e],by simp,hopens,?_⟩
      intro e' he'
      rcases List.mem_append.mp he' with hold | hlast
      · exact hafter e' hold
      · rw [List.mem_singleton.mp hlast,htoken]
        exact hlogout
    | deleted => cases hfound
    | opened row' _ hopens =>
      obtain rfl := Option.some.inj hfound
      exact ⟨events,e,[],rfl,hopens,by simp⟩

/-- The call logs the token out, or finds it invalid. -/
def EndsSession (s : UsersSystem H) (e : AccountEvent) (token : String) : Prop :=
  ∃ ctx env,e = .auth ctx (.logout token) env ∨
    (e = .auth ctx (.validateSession token) env ∧ Validates ctx s.repositories token env none)

section Loss

omit [Keccak H] [DecidableEq H] in
private theorem EndsSession.presents {e : AccountEvent} (h : EndsSession s e token) :
    e.presents = some token := by
  obtain ⟨ctx,env,rfl | ⟨rfl,-⟩⟩ := h
  · rfl
  · rfl

private theorem EndsSession.absent {e : AccountEvent} (h : EndsSession s e token) :
    (e.step P s).repositories.sessions.find token = none := by
  obtain ⟨ctx,env,rfl | ⟨rfl,hnone⟩⟩ := h
  · change (s.repositories.sessions.remove token).find token = none
    rw [Table.find_remove,if_pos rfl]
  · exact absent_of_validates_none hnone

omit [Keccak H] [DecidableEq H] in
/-- A login hands out the token it draws. -/
theorem OpensSession.draws {e : AccountEvent} {row : Session} (h : OpensSession s e row) :
    e.draws = some row.token := by
  obtain ⟨ctx,q,env,user,rfl,hdraws,-⟩ := h
  exact hdraws

/-- A token that nobody draws gets no session. -/
theorem absent_run (habsent : s.repositories.sessions.find token = none)
    (hdraws : ∀ e ∈ events,e.draws ≠ some token) :
    (accountRun P s events).repositories.sessions.find token = none := by
  induction events using List.reverseRecOn with
  | nil => exact habsent
  | append_singleton events e ih =>
    have hbefore := ih (fun e' he' => hdraws e' (List.mem_append_left _ he'))
    rw [accountRun_snoc]
    have hstep := step_sessionStep (P := P) (s := accountRun P s events) e token
    generalize hfound : (e.step P (accountRun P s events)).repositories.sessions.find token = found
      at hstep ⊢
    cases hstep with
    | kept => exact hbefore
    | deleted => rfl
    | opened row htoken hopens =>
      exact absurd (htoken ▸ hopens.draws) (hdraws e (List.mem_append_right _ (by simp)))

/-- Whatever happens later, the token is rejected. -/
private theorem loss_is_permanent (hfresh : FreshTokens events) {before after : List AccountEvent}
    {last : AccountEvent} (hevents : events = before++last::after)
    (hends : EndsSession (accountRun P s before) last token) :
    (accountRun P s events).repositories.sessions.find token = none := by
  have hrun : accountRun P s events =
      accountRun P (last.step P (accountRun P s before)) after := by
    rw [hevents,accountRun_append]
    rfl
  rw [hrun]
  refine absent_run hends.absent ?_
  intro e he hdraws
  rw [FreshTokens,hevents,List.pairwise_append] at hfresh
  exact ((List.pairwise_cons.mp hfresh.2.1).1 e he token hdraws).2 hends.presents

end Loss

/-- A token is accepted only for the session of an earlier login that was not logged out and is in
force; once it was rejected or logged out it is rejected for good. -/
theorem session_validity (hempty : s.repositories.sessions = .empty) (hfresh : FreshTokens events)
    (ctx : AuthContext) (token : String) (env : ℕ → Surroundings) :
    (∀ user,Validates ctx (accountRun P s events).repositories token env (some user) →
      ∃ row,row.token = token ∧ Live P s events row ∧ (env 1).now < row.expiresAt ∧
        SessionInForce ctx (accountRun P s events).repositories row user) ∧
    ∀ before last after,events = before++last::after →
      EndsSession (accountRun P s before) last token →
      Validates ctx (accountRun P s events).repositories token env none := by
  constructor
  · intro user haccepted
    obtain ⟨row,hrow,hexpiry,hforce⟩ := validates_some haccepted
    obtain ⟨htoken,hlive⟩ := live_of_session hempty hrow
    exact ⟨row,htoken,hlive,hexpiry,hforce⟩
  · intro before last after hevents hends
    exact validates_none_of_absent (loss_is_permanent hfresh hevents hends)

section Prototype

def engineerUsers : UsersSystem (Option Bytes) := ⟨engineerRepositories,workshop⟩

def clock (now : ℤ) : ℕ → Surroundings := fun _ => ⟨now,⟨true,true,true⟩⟩

def request (q : AuthRequest) (now : ℤ) : AccountEvent := .auth prototypeAuth q (clock now)

def signIn : List AccountEvent :=
  [request (.requestAuthenticationChallenge "DEV-1" ⟨"challenge-1","nonce-1"⟩) 1000,
   request (.loginWithProof ⟨"DEV-1","challenge-1","key-1","nonce-1/key-1"⟩ "uuid-1") 2000]

/-- A transaction of the mock chain. -/
def accepted : Delivery := ⟨[],0,0,0,.mined⟩

/-- The device is revoked, the token presented, and the device put back into service. -/
def deviceReturns : List AccountEvent :=
  [.revokeDevice prototypeAuth.toContext "DEV-1" none (fun _ => ⟨[],accepted⟩),
   request (.validateSession "bel_uuid-1") 3000,
   .registerDevice prototypeAuth "E-1" "DEV-1" none (some "key-1"),
   .registerWallet prototypeAuth.toContext "E-1" "DEV-1" "0xe2",
   .activateWallet prototypeAuth.toContext "E-1" "DEV-1" "0xe2" none (fun _ => accepted)
     ⟨[],accepted⟩ ⟨[],accepted⟩]

theorem deviceReturns_fresh : FreshTokens (signIn++deviceReturns) := by
  simp [FreshTokens,signIn,deviceReturns,request,AccountEvent.draws,AccountEvent.presents,
    AuthRequest.tokenOf]

theorem session_validity_device_returns :
    (∃ row user,row.token = "bel_uuid-1" ∧ Live prototypePlatform engineerUsers signIn row ∧
      2500 < row.expiresAt ∧ SessionInForce prototypeAuth
        (accountRun prototypePlatform engineerUsers signIn).repositories row user) ∧
    Validates prototypeAuth
      (accountRun prototypePlatform engineerUsers (signIn++deviceReturns)).repositories "bel_uuid-1"
      (clock 4000) none := by
  constructor
  · obtain ⟨user,haccepted⟩ := acceptsToken_eq_true.mp (show acceptsToken prototypeAuth
      (accountRun prototypePlatform engineerUsers signIn).repositories "bel_uuid-1" (clock 2500) =
        true by decide +kernel)
    have hfresh : FreshTokens signIn := deviceReturns_fresh.sublist (by simp)
    obtain ⟨row,htoken,hlive,hexpiry,hforce⟩ := (session_validity (P := prototypePlatform)
      (s := engineerUsers) rfl hfresh prototypeAuth "bel_uuid-1" (clock 2500)).1 user haccepted
    exact ⟨row,user,htoken,hlive,hexpiry,hforce⟩
  · refine (session_validity (P := prototypePlatform) (s := engineerUsers) rfl deviceReturns_fresh
      prototypeAuth "bel_uuid-1" (clock 4000)).2
      (signIn++deviceReturns.take 1) (request (.validateSession "bel_uuid-1") 3000)
      (deviceReturns.drop 2) rfl ?_
    exact ⟨prototypeAuth,clock 3000,.inr ⟨rfl,validates_none_iff.mpr (by decide +kernel)⟩⟩

end Prototype

end BelLedger
