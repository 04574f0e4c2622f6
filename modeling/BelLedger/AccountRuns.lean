import BelLedger.AuthEffects

/-!
# Runs of UsersServiceImpl and AuthServiceImpl

One call after another, any of which may fail, and transactions of others on the chain.
-/
namespace BelLedger
open TransitionRuns UsersService AuthService

inductive AccountEvent
  | auth (ctx : AuthContext) (q : AuthRequest) (env : ℕ → Surroundings)
  | users (e : UsersEvent)
  | createUser (ctx : Context) (input : CreateIdentityInput) (actorId : Option String)
      (uuid : String) (aligned created assigned : Delivery)
  | verifyRegistration (actorId userId employeeId department : String)
  | registerDevice (ctx : AuthContext) (userId deviceId : String)
      (credential publicKey : Option String)
  | revokeDevice (ctx : Context) (deviceId : String) (actorId : Option String) (stages : ℕ → Stage)
  | registerWallet (ctx : Context) (userId deviceId address : String)
  | revokeWallet (ctx : Context) (userId reason : String) (actorId : Option String) (d : Delivery)
  | activateWallet (ctx : Context) (userId deviceId address : String) (actorId : Option String)
      (revocations : ℕ → Delivery) (created activated : Stage)

variable {H : Type} [Keccak H] [DecidableEq H]

namespace AccountEvent

def step (P : Platform) (s : UsersSystem H) : AccountEvent → UsersSystem H
  | auth ctx q env => { s with repositories := (serveAuth ctx s.repositories q env).1 }
  | users e => UsersSystem.step P s e
  | createUser ctx input actorId uuid aligned created assigned =>
    (UsersService.createUser P ctx s input actorId uuid aligned created assigned).1
  | verifyRegistration actorId userId employeeId department =>
    (UsersService.verifyRegistration s actorId userId employeeId department).1
  | registerDevice ctx userId deviceId credential publicKey =>
    (UsersService.registerDevice ctx s userId deviceId credential publicKey).1
  | revokeDevice ctx deviceId actorId stages =>
    (UsersService.revokeDevice P ctx s deviceId actorId stages).1
  | registerWallet ctx userId deviceId address =>
    (UsersService.registerWallet ctx s userId deviceId address).1
  | revokeWallet ctx userId reason actorId d =>
    (UsersService.revokeWallet P ctx s userId reason actorId d).1
  | activateWallet ctx userId deviceId address actorId revocations created activated =>
    (UsersService.activateWallet P ctx s userId deviceId address actorId revocations created
      activated).1

end AccountEvent

def accountRun (P : Platform) (s : UsersSystem H) (events : List AccountEvent) : UsersSystem H :=
  events.foldl (AccountEvent.step P) s

theorem accountRun_append (P : Platform) (s : UsersSystem H) (events later : List AccountEvent) :
    accountRun P s (events++later) = accountRun P (accountRun P s events) later :=
  List.foldl_append

theorem accountRun_snoc (P : Platform) (s : UsersSystem H) (events : List AccountEvent)
    (e : AccountEvent) :
    accountRun P s (events++[e]) = AccountEvent.step P (accountRun P s events) e :=
  accountRun_append P s events [e]

section Tokens

/-- The token that a call presents. -/
def AccountEvent.presents : AccountEvent → Option String
  | .auth _ (.requestFreshAuthenticationChallenge token _ _ _) _ => some token
  | .auth _ (.verifyFreshAuthentication token _ _ _) _ => some token
  | .auth _ (.validateSession token) _ => some token
  | .auth _ (.logout token) _ => some token
  | _ => none

/-- The token that a call draws. -/
def AccountEvent.draws : AccountEvent → Option String
  | .auth _ q _ => q.tokenOf
  | _ => none

/-- A token is drawn once, and not presented before. -/
def FreshTokens (events : List AccountEvent) : Prop :=
  events.Pairwise (fun e e' => ∀ token,e'.draws = some token →
    e.draws ≠ some token ∧ e.presents ≠ some token)

end Tokens

section Sessions
variable {P : Platform} {s : UsersSystem H}

/-- The call is a login that succeeds, and this is the session it opens. -/
def OpensSession (s : UsersSystem H) (e : AccountEvent) (row : Session) : Prop :=
  ∃ ctx q env user,e = .auth ctx q env ∧ q.tokenOf = some row.token ∧
    (serveAuth ctx s.repositories q env).2 = .ok (.signedIn user row.token) ∧
    (serveAuth ctx s.repositories q env).1.sessions.find row.token = some row

theorem serveAuth_returns {ctx : AuthContext} {q : AuthRequest} {env : ℕ → Surroundings}
    {r : Repositories} {reply : AuthReply} (h : (serveAuth ctx r q env).2 = .ok reply) :
    (q.prog ctx).Returns (RepositoryCall.handle ctx.toContext) r (serveAuth ctx r q env).1 reply :=
  ⟨env,by rw [← h]; rfl⟩

/-- What a call can do to the session of a token. -/
inductive SessionStep (s : UsersSystem H) (e : AccountEvent) (token : String) :
    Option Session → Prop
  | kept (hlogout : ∀ ctx env,e ≠ .auth ctx (.logout token) env) :
      SessionStep s e token (s.repositories.sessions.find token)
  | deleted (hpresents : e.presents = some token) : SessionStep s e token none
  | opened (row : Session) (htoken : row.token = token) (hopens : OpensSession s e row) :
      SessionStep s e token (some row)

omit [Keccak H] [DecidableEq H] in
private theorem serveAuth_sessionStep (ctx : AuthContext) (q : AuthRequest) (env : ℕ → Surroundings)
    (token : String) :
    SessionStep s (.auth ctx q env) token
      ((serveAuth ctx s.repositories q env).1.sessions.find token) := by
  cases hlogin : q.tokenOf with
  | some drawn =>
    have hlogout : ∀ ctx' env',AccountEvent.auth ctx q env ≠ .auth ctx' (.logout token) env' := by
      rintro ctx' env' heq
      obtain ⟨-,rfl,-⟩ := AccountEvent.auth.inj heq
      cases hlogin
    cases hresult : (serveAuth ctx s.repositories q env).2 with
    | error e =>
      rw [login_failed hlogin hresult]
      exact .kept hlogout
    | ok reply =>
      obtain ⟨user,row,rfl,rfl,hsessions,-⟩ := login_returns hlogin (serveAuth_returns hresult)
      have hfind : ∀ token,(serveAuth ctx s.repositories q env).1.sessions.find token =
          if row.token = token then some row else s.repositories.sessions.find token := by
        intro token
        rw [hsessions,KeyedTables.Table.find_save]
      by_cases htoken : row.token = token
      · rw [hfind,if_pos htoken]
        exact .opened row htoken ⟨ctx,q,env,user,rfl,hlogin,hresult,by rw [hfind,if_pos rfl]⟩
      · rw [hfind,if_neg htoken]
        exact .kept hlogout
  | none =>
    cases q with
    | validateSession presented =>
      rw [serveAuth_validateSession]
      have hdeleted : SessionStep s (.auth ctx (.validateSession presented) env) token
          ((s.repositories.sessions.remove presented).find token) := by
        rw [KeyedTables.Table.find_remove]
        split
        · rename_i htoken
          exact .deleted (by rw [htoken]; rfl)
        · exact .kept (fun _ _ heq => by cases heq)
      split
      · exact .kept (fun _ _ heq => by cases heq)
      · split
        · exact hdeleted
        · split
          · exact .kept (fun _ _ heq => by cases heq)
          · exact hdeleted
    | logout presented =>
      change SessionStep s _ token ((s.repositories.sessions.remove presented).find token)
      rw [KeyedTables.Table.find_remove]
      split
      · rename_i htoken
        exact .deleted (by rw [htoken]; rfl)
      · rename_i htoken
        refine .kept (fun ctx' env' heq => htoken ?_)
        obtain ⟨-,hq,-⟩ := AccountEvent.auth.inj heq
        exact (AuthRequest.logout.inj hq).symm
    | _ =>
      rw [serveAuth_sameSessions hlogin (fun _ => ⟨nofun,nofun⟩)]
      exact .kept (fun _ _ heq => by cases heq)

/-- The rows of a user that is created directly. -/
theorem createUser_repositories (ctx : Context) (input : CreateIdentityInput)
    (actorId : Option String) (uuid : String) (aligned created assigned : Delivery) :
    (createUser P ctx s input actorId uuid aligned created assigned).1.repositories =
        s.repositories ∨
      ∃ identity role,createUserCheck ctx s input uuid = .ok (identity,role) ∧
        (alignRole P ctx s identity role actorId aligned).2 = .ok () ∧
        (createUser P ctx s input actorId uuid aligned created assigned).1.repositories =
          { s.repositories with
            identities := s.repositories.identities.save identity
            users := s.repositories.users.save (toUser identity "") } := by
  have halign : ∀ identity role,(alignRole P ctx s identity role actorId aligned).1.repositories =
      s.repositories := by
    intro identity role
    unfold alignRole
    split
    · split
      · rfl
      · rfl
    · rfl
  unfold createUser
  split
  · exact .inl rfl
  · rename_i identity role hcheck
    have hsame := halign identity role
    split
    · rename_i s' e hstep
      rw [hstep] at hsame
      exact .inl hsame
    · rename_i s' hstep
      rw [hstep] at hsame
      refine .inr ⟨identity,role,hcheck,by rw [hstep],?_⟩
      dsimp only at hsame ⊢
      rw [← hsame]
      split
      · rfl
      · split
        · rfl
        · split
          · rfl
          · rfl

private theorem users_sessions (e : UsersEvent) :
    (UsersSystem.step P s e).repositories.sessions = s.repositories.sessions := by
  cases e with
  | assignRole ctx actorId userId role d =>
    simp only [UsersSystem.step,assignRole]
    split
    · rfl
    · split
      · split
        · rfl
        · rfl
      · split
        · rfl
        · rfl
  | activateRegistration ctx actorId userId created roleAssigned walletActivated =>
    simp only [UsersSystem.step,activateRegistration]
    split
    · rfl
    · split
      · rfl
      · rfl
  | external tx => rfl

/-- The rows that a call about a device or a wallet leaves alone. -/
structure SameAccounts (r r' : Repositories) : Prop where
  identities : r'.identities = r.identities
  sessions : r'.sessions = r.sessions

/-- What a call about a device or a wallet can store: rows of devices, wallets and credentials, or the
new address of a user along with the rows of wallets. -/
inductive BindingsStored (r : Repositories) : Repositories → Prop
  | rows (devices : KeyedTables.Table Device.deviceId) (wallets : KeyedTables.Table Wallet.address)
      (credentials : KeyedTables.Table Credential.verifier) :
      BindingsStored r { r with devices, wallets, credentials }
  | address (wallets : KeyedTables.Table Wallet.address) (user : User) (huser : user ∈ r.users.rows)
      (walletAddress : String) :
      BindingsStored r { r with wallets, users := r.users.save { user with walletAddress } }

omit [Keccak H] [DecidableEq H] in
private theorem BindingsStored.refl (r : Repositories) : BindingsStored r r :=
  .rows r.devices r.wallets r.credentials

omit [Keccak H] [DecidableEq H] in
theorem BindingsStored.accounts {r r' : Repositories} (h : BindingsStored r r') :
    SameAccounts r r' := by
  cases h with
  | rows => exact ⟨rfl,rfl⟩
  | address => exact ⟨rfl,rfl⟩

/-- Revoking a wallet changes nothing but the wallet rows. -/
theorem revokeRow_wallets (ctx : Context) (actor : Identity) (wallet : Wallet) (reason : String)
    (d : Delivery) :
    ∃ wallets,(revokeRow P ctx s actor wallet reason d).1.repositories =
      { s.repositories with wallets } := by
  unfold revokeRow
  split
  · exact ⟨_,rfl⟩
  · exact ⟨_,rfl⟩

theorem revokeReplaced_wallets (ctx : Context) (actor : Identity) (wallet : Wallet)
    (rows : List Wallet) (deliveries : ℕ → Delivery) :
    ∃ wallets,(revokeReplaced P ctx actor wallet s rows deliveries).1.repositories =
      { s.repositories with wallets } := by
  induction rows generalizing s deliveries with
  | nil => exact ⟨_,rfl⟩
  | cons current rest ih =>
    unfold revokeReplaced
    split
    · obtain ⟨wallets,hrow⟩ := revokeRow_wallets (P := P) (s := s) ctx actor current
        "Replaced by wallet activation" (deliveries 0)
      split
      · rename_i s' e hrevoke
        rw [hrevoke] at hrow
        exact ⟨wallets,hrow⟩
      · rename_i s' hrevoke
        rw [hrevoke] at hrow
        obtain ⟨wallets',hrest⟩ := ih (s := s') (fun k => deliveries (k + 1))
        dsimp only at hrow
        rw [hrow] at hrest
        exact ⟨wallets',hrest⟩
    · exact ih _

omit [Keccak H] [DecidableEq H] in
private theorem saveActivatedWallet_bindings (r : Repositories) (wallets : KeyedTables.Table Wallet.address)
    (identityId : String) (wallet : Wallet) :
    BindingsStored r (saveActivatedWallet { r with wallets } identityId wallet) := by
  unfold saveActivatedWallet
  split
  · exact .rows _ _ _
  · rename_i user hfind
    have huser : user ∈ r.users.rows := List.mem_of_find?_eq_some hfind
    exact .address _ user huser _

private theorem activateWallet_bindings (ctx : Context) (userId deviceId address : String)
    (actorId : Option String) (revocations : ℕ → Delivery) (created activated : Stage) :
    BindingsStored s.repositories (activateWallet P ctx s userId deviceId address actorId revocations
      created activated).1.repositories := by
  unfold activateWallet
  split
  · exact .refl _
  · rename_i actor identity wallet hcheck
    obtain ⟨wallets,hloop⟩ := revokeReplaced_wallets (P := P) (s := s) ctx actor wallet
      (s.repositories.listWallets ctx identity.identityId) revocations
    split
    · rename_i s' e hrevoked
      rw [hrevoked] at hloop
      dsimp only at hloop ⊢
      rw [hloop]
      exact .rows _ _ _
    · rename_i s' hrevoked
      rw [hrevoked] at hloop
      dsimp only at hloop
      split
      · dsimp only
        rw [hloop]
        exact .rows _ _ _
      · dsimp only
        rw [hloop]
        exact saveActivatedWallet_bindings _ _ _ _

/-- The call is about a device or a wallet of an identity that is there. -/
def AccountEvent.OnBindings : AccountEvent → Prop
  | .registerDevice .. => True
  | .revokeDevice .. => True
  | .registerWallet .. => True
  | .revokeWallet .. => True
  | .activateWallet .. => True
  | _ => False

theorem step_bindings {e : AccountEvent} (he : e.OnBindings) :
    BindingsStored s.repositories (e.step P s).repositories := by
  cases e with
  | auth => exact he.elim
  | users => exact he.elim
  | createUser => exact he.elim
  | verifyRegistration => exact he.elim
  | registerDevice ctx userId deviceId credential publicKey =>
    simp only [AccountEvent.step,registerDevice]
    split
    · exact .refl _
    · exact .rows _ _ _
  | revokeDevice ctx deviceId actorId stages =>
    simp only [AccountEvent.step,revokeDevice]
    split
    · exact .refl _
    · split
      · exact .refl _
      · exact .rows _ _ _
  | registerWallet ctx userId deviceId address =>
    simp only [AccountEvent.step,registerWallet]
    split
    · exact .refl _
    · exact .rows _ _ _
  | revokeWallet ctx userId reason actorId d =>
    simp only [AccountEvent.step,revokeWallet]
    split
    · exact .refl _
    · rename_i actor wallet hcheck
      obtain ⟨wallets,hrow⟩ := revokeRow_wallets (P := P) (s := s) ctx actor wallet reason d
      split
      · rename_i s' e hrevoke
        rw [hrevoke] at hrow
        dsimp only at hrow ⊢
        rw [hrow]
        exact .rows _ _ _
      · rename_i s' hrevoke
        rw [hrevoke] at hrow
        dsimp only at hrow ⊢
        rw [hrow]
        exact .rows _ _ _
  | activateWallet ctx userId deviceId address actorId revocations created activated =>
    exact activateWallet_bindings ctx userId deviceId address actorId revocations created activated

theorem step_accounts {e : AccountEvent} (he : e.OnBindings) :
    SameAccounts s.repositories (e.step P s).repositories := (step_bindings he).accounts

/-- Only AuthServiceImpl touches the sessions. -/
theorem step_sessions {e : AccountEvent} (he : ∀ ctx q env,e ≠ .auth ctx q env) :
    (e.step P s).repositories.sessions = s.repositories.sessions := by
  cases e with
  | auth ctx q env => exact absurd rfl (he ctx q env)
  | users e => exact users_sessions e
  | createUser ctx input actorId uuid aligned created assigned =>
    rcases createUser_repositories (P := P) (s := s) ctx input actorId uuid aligned created assigned
      with h | ⟨identity,role,-,-,h⟩
    · simp only [AccountEvent.step,h]
    · simp only [AccountEvent.step,h]
  | verifyRegistration actorId userId employeeId department =>
    simp only [AccountEvent.step,verifyRegistration]
    split
    · rfl
    · rfl
  | registerDevice =>
    apply SameAccounts.sessions
    exact step_accounts trivial
  | revokeDevice =>
    apply SameAccounts.sessions
    exact step_accounts trivial
  | registerWallet =>
    apply SameAccounts.sessions
    exact step_accounts trivial
  | revokeWallet =>
    apply SameAccounts.sessions
    exact step_accounts trivial
  | activateWallet =>
    apply SameAccounts.sessions
    exact step_accounts trivial

/-- Every call does one of these things to the session of a token. -/
theorem step_sessionStep (e : AccountEvent) (token : String) :
    SessionStep s e token ((e.step P s).repositories.sessions.find token) := by
  by_cases he : ∀ ctx q env,e ≠ .auth ctx q env
  · rw [step_sessions he]
    exact .kept (fun ctx env => he ctx _ env)
  · simp only [not_forall,not_not] at he
    obtain ⟨ctx,q,env,rfl⟩ := he
    exact serveAuth_sessionStep ctx q env token

end Sessions
end BelLedger
