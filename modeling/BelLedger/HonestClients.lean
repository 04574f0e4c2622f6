import BelLedger.ChallengeUse
import BelLedger.RelyingPrograms
import BelLedger.RouteGuards

/-!
# A client that follows the protocol is admitted

The client asks for a challenge, signs it, logs in, and signs a second challenge for the operation that
it is after. Whatever other requests do between any two awaits of its own, its last request reaches the
handler: nobody can use up its challenges, end its session or replace its rows.
-/
namespace BelLedger
open KeyedTables EffectPrograms Prog UsersService AuthService

/-- The rows of a client, the signer in its device, and the random strings of its requests. -/
structure Client where
  identity : Identity
  device : Device
  wallet : Wallet
  user : User
  publicKey : String
  sign : String → String
  login : FreshChallenge
  fresh : FreshChallenge
  uuid : String

namespace Client

def token (c : Client) : String := "bel_"++c.uuid

/-- The user that the client is signed in as. -/
def signedUser (c : Client) : User := signedIn c.user c.identity c.wallet

def headers (c : Client) (freshAuth : FreshAuthHeader) : RequestHeaders :=
  ⟨some ("Bearer "++c.token),freshAuth⟩

/-- The four requests of the client, up to the handler of the last one. -/
def conversation (c : Client) (ctx : AuthContext) (settings : GuardSettings) (operation : String)
    (resourceId : Option String) (route : Route) : Program AuthReply := do
  let given ← requestAuthenticationChallenge c.device.deviceId c.login
  let reply ← loginWithProof ctx
    ⟨c.device.deviceId,given.challengeId,c.publicKey,c.sign given.challenge⟩ c.uuid
  let _ ← RouteGuards.reachHandler ctx settings ⟨some ("Bearer "++reply.2),.missing⟩
    Route.freshChallenge.guards
  let asked ← requestFreshAuthenticationChallenge ctx reply.2 operation resourceId c.fresh
  let user ← RouteGuards.reachHandler ctx settings ⟨some ("Bearer "++reply.2),
    .proof ⟨asked.challengeId,c.publicKey,c.sign asked.challenge⟩⟩ route.guards
  pure (.session user)

/-- The rows of the client are in order, among the wallets `own` of its identity. -/
structure Rows (c : Client) (ctx : AuthContext) (own : List Wallet) (r : Repositories) : Prop where
  device : r.devices.find c.device.deviceId = some c.device
  identity : r.identities.find c.identity.identityId = some c.identity
  user : r.findByIdentityId c.identity.identityId = some c.user
  wallet : r.wallets.find c.wallet.address = some c.wallet
  wallets : r.wallets.rows.filter (fun row => row.identityId = c.identity.identityId) = own
  listed : (ctx.walletOrder own).find? (fun item =>
    item.status = .ACTIVE ∧ item.deviceId = c.device.deviceId) = some c.wallet

/-- The client may sign in, and its strings are new. -/
structure Enrolled (c : Client) (ctx : AuthContext) : Prop where
  owner : c.device.identityId = c.identity.identityId
  bound : c.wallet.identityId = c.identity.identityId ∧ c.wallet.deviceId = c.device.deviceId
  active : c.identity.status = .ACTIVE ∧ c.device.status = .ACTIVE ∧ c.wallet.status = .ACTIVE
  complete : Complete c.identity
  key : c.device.publicKey = some c.publicKey ∧ c.publicKey ≠ ""
  matching : walletMatchesKey ctx c.wallet c.publicKey
  signs : ∀ text,ctx.verifyProof text c.publicKey (c.sign text) = true
  apart : c.login.challengeId ≠ c.fresh.challengeId
  trimmed : Trimmed c.token

/-- Nobody has the strings of the client yet. -/
structure Unknown (c : Client) (r : Repositories) : Prop where
  login : r.challenges.find c.login.challengeId = none
  fresh : r.challenges.find c.fresh.challengeId = none
  session : r.sessions.find c.token = none

/-- The session lives for a minute from `start` on. -/
structure OwnSession (c : Client) (start : ℤ) (row : Session) : Prop where
  identityId : row.identityId = c.identity.identityId
  deviceId : row.deviceId = c.device.deviceId
  walletAddress : row.walletAddress = c.wallet.address
  expiresAt : start + 60000 ≤ row.expiresAt

/-- What the others leave in order. -/
structure Undisturbed (c : Client) (ctx : AuthContext) (own : List Wallet) (start : ℤ)
    (r : Repositories) : Prop where
  rows : c.Rows ctx own r
  login : ∀ row,r.challenges.find c.login.challengeId = some row →
    row.challenge = c.login.challenge ∧ row.purpose = .AUTHENTICATION ∧
      row.deviceId = c.device.deviceId
  fresh : ∀ row,r.challenges.find c.fresh.challengeId = some row →
    row.challenge = c.fresh.challenge ∧ row.purpose = .FRESH_AUTHENTICATION ∧
      row.deviceId = c.device.deviceId
  session : ∀ row,r.sessions.find c.token = some row → c.OwnSession start row

/-- The challenges and the session of the client stay as they are. -/
structure Spared (c : Client) (r r' : Repositories) : Prop where
  login : ∀ row,r.challenges.find c.login.challengeId = some row →
    r'.challenges.find c.login.challengeId = some row
  fresh : ∀ row,r.challenges.find c.fresh.challengeId = some row →
    r'.challenges.find c.fresh.challengeId = some row
  session : ∀ row,r.sessions.find c.token = some row → r'.sessions.find c.token = some row

theorem Spared.refl (c : Client) (r : Repositories) : c.Spared r r :=
  ⟨fun _ h => h,fun _ h => h,fun _ h => h⟩

theorem Spared.trans {c : Client} {r₁ r₂ r₃ : Repositories} (h : c.Spared r₁ r₂)
    (h' : c.Spared r₂ r₃) : c.Spared r₁ r₃ :=
  ⟨fun row hrow => h'.login row (h.login row hrow),fun row hrow => h'.fresh row (h.fresh row hrow),
    fun row hrow => h'.session row (h.session row hrow)⟩

/-- What the client relies on, in the minute that starts at `start`. -/
def rely (c : Client) (ctx : AuthContext) (own : List Wallet) (start : ℤ) :
    Rely Surroundings Repositories :=
  { admits := fun env => start ≤ env.now ∧ env.now < start + 60000
    holds := c.Undisturbed ctx own start
    moves := c.Spared
    refl := Spared.refl c
    trans := Spared.trans }

/-- A request of somebody else: it draws other strings, presents no signature of the client, does not
log the client out, and does not spell the device or a wallet of the client with white space. -/
def Spares (c : Client) (ctx : AuthContext) (own : List Wallet) : AuthRequest → Prop
  | .requestProvisioningChallenge _ fresh | .requestAuthenticationChallenge _ fresh
  | .requestFreshAuthenticationChallenge _ _ _ fresh =>
    fresh.challengeId ≠ c.login.challengeId ∧ fresh.challengeId ≠ c.fresh.challengeId
  | .initializeAccount input uuid =>
    "DID:BEL:"++uuid ≠ c.identity.identityId ∧
      (jsTrim input.deviceId = c.device.deviceId → Trimmed input.deviceId) ∧
      ∀ row ∈ own,jsTrim input.walletAddress = row.address → Trimmed input.walletAddress
  | .loginWithProof input uuid => "bel_"++uuid ≠ c.token ∧
      (input.challengeId = c.login.challengeId →
        ctx.verifyProof c.login.challenge c.publicKey input.signature = false)
  | .verifyFreshAuthentication _ input _ _ => input.challengeId = c.fresh.challengeId →
      ctx.verifyProof c.fresh.challenge c.publicKey input.signature = false
  | .login _ uuid => "bel_"++uuid ≠ c.token
  | .validateSession _ => True
  | .logout token => token ≠ c.token

/-- The call neither writes a row of the client nor touches its challenges or its session. -/
def Harmless (c : Client) (own : List Wallet) : RepositoryCall → Prop
  | .saveIdentity row => row.identityId ≠ c.identity.identityId
  | .saveDevice row => row.deviceId ≠ c.device.deviceId
  | .saveWallet row => row.identityId ≠ c.identity.identityId ∧ ∀ w ∈ own,row.address ≠ w.address
  | .saveSession row => row.token ≠ c.token
  | .deleteSession token => token ≠ c.token
  | .saveChallenge row =>
    row.challengeId ≠ c.login.challengeId ∧ row.challengeId ≠ c.fresh.challengeId
  | .consumeIfUnused id _ => id ≠ c.login.challengeId ∧ id ≠ c.fresh.challengeId
  | _ => True

end Client

namespace Guard

/-- The guard lets the user pass, apart from a proof. -/
def Permits (user : User) : Guard → Prop
  | requireSession | requireFreshAuthentication _ _ => True
  | requireActiveIdentity => user.status = .ACTIVE
  | requireRole allowed => user.role ∈ allowed
  | requirePermission action context => BelLedger.requirePermission user action context = .ok ()

/-- A proof is asked for this operation and this resource. -/
def Asks (operation : String) (resource : Option String) : Guard → Prop
  | requireFreshAuthentication operation' resource' => operation' = operation ∧ resource' = resource
  | _ => True

end Guard

private theorem consume_find_other {challenges : Table Challenge.challengeId} {id id' : String}
    {usedAt : ℤ} (hne : id ≠ id') :
    (RepositoryCall.consume challenges id usedAt).1.find id' = challenges.find id' := by
  unfold RepositoryCall.consume
  cases hfind : challenges.find id with
  | none => rfl
  | some row =>
    have hid : row.challengeId ≠ id' := by
      rw [Table.key_of_find hfind]
      exact hne
    by_cases hunused : row.usedAt = none
    · simp only [hunused,if_true]
      exact (Table.find_save ..).trans (if_neg hid)
    · simp only [hunused,if_false]

section Others
variable {c : Client} {ctx : AuthContext} {own : List Wallet} {start : ℤ} {r : Repositories}

private theorem filter_saveRow {rows : List Wallet} {row : Wallet} {p : Wallet → Bool}
    (hrow : p row = false) (hother : ∀ w ∈ rows,p w = true → w.address ≠ row.address) :
    (saveRow Wallet.address rows row).filter p = rows.filter p := by
  induction rows with
  | nil => simp [saveRow,hrow]
  | cons x xs ih =>
    have hrest := ih (fun w hw => hother w (List.mem_cons_of_mem x hw))
    by_cases hx : x.address = row.address
    · have hpx : p x = false := by
        rw [← Bool.not_eq_true]
        exact fun hp => hother x List.mem_cons_self hp hx
      rw [saveRow,if_pos hx,List.filter_cons_of_neg (by simp [hrow]),
        List.filter_cons_of_neg (by simp [hpx])]
    · rw [saveRow,if_neg hx,List.filter_cons,List.filter_cons,hrest]

private theorem Client.Rows.mem_own (h : c.Rows ctx own r) (hbound : c.Enrolled ctx) :
    c.wallet ∈ own := by
  rw [← h.wallets,List.mem_filter]
  exact ⟨Table.mem_of_find h.wallet,by simpa using hbound.bound.1⟩

/-- A call that spares the client keeps everything that the client relies on. -/
private theorem harmless_keeps (hc : c.Enrolled ctx) (env : Surroundings)
    (h : c.Undisturbed ctx own start r) {call : RepositoryCall} (hcall : c.Harmless own call) :
    c.Undisturbed ctx own start (RepositoryCall.handle ctx.toContext env r call).1 ∧
      c.Spared r (RepositoryCall.handle ctx.toContext env r call).1 := by
  obtain ⟨hdevice,hidentity,huser,hwallet,hwallets,hlisted⟩ := h.rows
  cases call with
  | saveIdentity row =>
    refine ⟨⟨⟨hdevice,?_,huser,hwallet,hwallets,hlisted⟩,h.login,h.fresh,h.session⟩,
      fun _ hf => hf,fun _ hf => hf,fun _ hf => hf⟩
    exact (Table.find_save ..).trans ((if_neg hcall).trans hidentity)
  | saveDevice row =>
    refine ⟨⟨⟨?_,hidentity,huser,hwallet,hwallets,hlisted⟩,h.login,h.fresh,h.session⟩,
      fun _ hf => hf,fun _ hf => hf,fun _ hf => hf⟩
    exact (Table.find_save ..).trans ((if_neg hcall).trans hdevice)
  | saveWallet row =>
    obtain ⟨hdid,haddress⟩ := hcall
    refine ⟨⟨⟨hdevice,hidentity,huser,?_,?_,hlisted⟩,h.login,h.fresh,h.session⟩,
      fun _ hf => hf,fun _ hf => hf,fun _ hf => hf⟩
    · have hne := haddress c.wallet (h.rows.mem_own hc)
      exact (Table.find_save ..).trans ((if_neg hne).trans hwallet)
    · refine (filter_saveRow (by simpa using hdid) ?_).trans hwallets
      intro w hw hown hsame
      refine haddress w ?_ hsame.symm
      rw [← hwallets]
      exact List.mem_filter.mpr ⟨hw,hown⟩
  | saveSession row =>
    have hfind : (r.sessions.save row).find c.token = r.sessions.find c.token :=
      (Table.find_save ..).trans (if_neg hcall)
    refine ⟨⟨⟨hdevice,hidentity,huser,hwallet,hwallets,hlisted⟩,h.login,h.fresh,fun found hfound => ?_⟩,fun _ hf => hf,fun _ hf => hf,
      fun found hfound => hfind.trans hfound⟩
    exact h.session found (hfind.symm.trans hfound)
  | deleteSession token =>
    have hfind : (r.sessions.remove token).find c.token = r.sessions.find c.token :=
      (Table.find_remove ..).trans (if_neg (fun he => hcall he.symm))
    refine ⟨⟨⟨hdevice,hidentity,huser,hwallet,hwallets,hlisted⟩,h.login,h.fresh,fun found hfound => ?_⟩,fun _ hf => hf,fun _ hf => hf,
      fun found hfound => hfind.trans hfound⟩
    exact h.session found (hfind.symm.trans hfound)
  | saveChallenge row =>
    have hlogin : (r.challenges.save row).find c.login.challengeId =
        r.challenges.find c.login.challengeId := (Table.find_save ..).trans (if_neg hcall.1)
    have hfresh : (r.challenges.save row).find c.fresh.challengeId =
        r.challenges.find c.fresh.challengeId := (Table.find_save ..).trans (if_neg hcall.2)
    refine ⟨⟨⟨hdevice,hidentity,huser,hwallet,hwallets,hlisted⟩,fun found hfound => ?_,fun found hfound => ?_,h.session⟩,
      fun found hfound => hlogin.trans hfound,fun found hfound => hfresh.trans hfound,
      fun _ hf => hf⟩
    · exact h.login found (hlogin.symm.trans hfound)
    · exact h.fresh found (hfresh.symm.trans hfound)
  | consumeIfUnused id usedAt =>
    have hkept : ∀ {id'},id ≠ id' → (RepositoryCall.consume r.challenges id usedAt).1.find id' =
        r.challenges.find id' := fun hne => consume_find_other hne
    refine ⟨⟨⟨hdevice,hidentity,huser,hwallet,hwallets,hlisted⟩,fun found hfound => ?_,fun found hfound => ?_,h.session⟩,
      fun found hfound => (hkept hcall.1).trans hfound,
      fun found hfound => (hkept hcall.2).trans hfound,fun _ hf => hf⟩
    · exact h.login found ((hkept hcall.1).symm.trans hfound)
    · exact h.fresh found ((hkept hcall.2).symm.trans hfound)
  | _ => exact ⟨h,Client.Spared.refl c r⟩

private theorem keeps_of_calls (hc : c.Enrolled ctx) {α : Type} {p : Program α}
    (hp : p.Calls (c.Harmless own)) :
    p.Keeps (c.rely ctx own start) (RepositoryCall.handle ctx.toContext) :=
  hp.keeps (fun env _ _ _ hr hcall => harmless_keeps hc env hr hcall)

/-- Whoever draws other strings, and presents no challenge, does no harm. -/
private theorem keeps_of_mayCall (hc : c.Enrolled ctx) {q : AuthRequest}
    (hmay : ∀ call,q.MayCall ctx call → c.Harmless own call) :
    (q.prog ctx).Keeps (c.rely ctx own start) (RepositoryCall.handle ctx.toContext) :=
  keeps_of_calls hc ((AuthRequest.prog_calls q).mono hmay)

private theorem mayCall_issuing {q : AuthRequest} {fresh : FreshChallenge}
    (hissues : ∀ row,q.Issued ctx row → row.challengeId = fresh.challengeId)
    (hapart : fresh.challengeId ≠ c.login.challengeId ∧ fresh.challengeId ≠ c.fresh.challengeId)
    (hother : q.presents = none ∧ q.tokenOf = none ∧ (∀ input uuid,q ≠ .initializeAccount input uuid) ∧
      (∀ token,q ≠ .validateSession token) ∧ ∀ token,q ≠ .logout token)
    (call : RepositoryCall) (hcall : q.MayCall ctx call) : c.Harmless own call := by
  obtain ⟨hpresents,htoken,hregisters,hvalidate,hlogout⟩ := hother
  cases call with
  | saveIdentity row | saveDevice row | saveWallet row =>
    obtain ⟨input,uuid,hq,-⟩ := hcall
    exact absurd hq (hregisters input uuid)
  | saveSession row => cases htoken.symm.trans hcall
  | deleteSession token =>
    rcases hcall with hq | hq
    · exact absurd hq (hvalidate token)
    · exact absurd hq (hlogout token)
  | saveChallenge row =>
    have hid := hissues row hcall
    exact ⟨by rw [hid]; exact hapart.1,by rw [hid]; exact hapart.2⟩
  | consumeIfUnused id usedAt => exact absurd hpresents hcall
  | _ => trivial

/-- The key that a program finds with a device of the client is the client's. -/
private theorem publicKey_eq (hc : c.Enrolled ctx) (h : c.Undisturbed ctx own start r)
    {deviceId : String} {device : Device} (hid : deviceId = c.device.deviceId)
    (hfind : r.devices.find deviceId = some device) : device.publicKey.getD "" = c.publicKey := by
  rw [hid,h.rows.device] at hfind
  rw [← Option.some.inj hfind,hc.key.1]
  rfl

private theorem keeps_lookups (hc : c.Enrolled ctx) {α β : Type} {found : Option α}
    {next : α → Program (Option β)} (hnext : ∀ a,(next a).Calls (c.Harmless own)) :
    (andThen found next).Keeps (c.rely ctx own start) (RepositoryCall.handle ctx.toContext) := by
  cases found with
  | none => trivial
  | some a => exact keeps_of_calls hc (hnext a)

private theorem loginWithProof_keeps (hc : c.Enrolled ctx) {input : LoginProofInput} {uuid : String}
    (hq : c.Spares ctx own (.loginWithProof input uuid)) :
    (loginWithProof ctx input uuid).Keeps (c.rely ctx own start)
      (RepositoryCall.handle ctx.toContext) := by
  obtain ⟨htoken,hforged⟩ := hq
  unfold loginWithProof
  refine keeps_read (fun _ _ => rfl) fun env₁ r₁ _ h₁ => ?_
  rw [keeps_orThrow_bind]
  intro row hrow
  rw [keeps_throwIf_bind]
  intro hmatch
  simp only [ne_eq,not_or,not_not] at hmatch
  obtain ⟨hpurpose,-,hdevice⟩ := hmatch
  refine keeps_read (fun _ _ => rfl) fun _ _ _ _ => keeps_throwIf_bind.mpr fun _ => ?_
  refine keeps_read (fun _ _ => rfl) fun env₂ r₂ _ h₂ => ?_
  refine Keeps.bind (keeps_lookups hc (fun _ => ⟨trivial,fun _ => trivial⟩)) fun identity => ?_
  refine Keeps.bind (keeps_lookups hc (fun _ => ⟨trivial,fun _ => trivial⟩)) fun user => ?_
  refine Keeps.bind (keeps_lookups hc (fun _ => ⟨trivial,fun _ => trivial⟩)) fun wallet => ?_
  rw [keeps_orThrow_bind]
  intro found hfound
  rw [keeps_orThrow_bind]
  intro user hfoundUser
  dsimp only
  rw [keeps_throwIf_bind]
  intro _
  rw [keeps_throwIf_bind]
  intro _
  rw [keeps_throwIf_bind]
  intro hsigned
  have hid : row.challengeId = input.challengeId := Table.key_of_find hrow
  apply keeps_of_calls hc
  simp only [openSession,calls_perform_bind,calls_throwIf_bind,calls_pure]
  refine ⟨trivial,fun usedAt => ⟨⟨fun he => hsigned ?_,fun he => ?_⟩,fun _ _ => ⟨trivial,fun _ => ?_⟩⟩⟩
  · -- The challenge of the client, but not its signature.
    have hlogin := hid.symm.trans he
    obtain ⟨htext,-,hown⟩ := h₁.login row (hlogin ▸ hrow)
    rw [htext,publicKey_eq hc h₂ (hdevice.symm.trans hown) (parties_eq_some.mp hfound).1]
    exact hforged hlogin
  · obtain ⟨-,hfresh,-⟩ := h₁.fresh row ((hid.symm.trans he) ▸ hrow)
    cases hpurpose.symm.trans hfresh
  · exact ⟨htoken,fun _ => trivial⟩

private theorem verifyFreshAuthentication_keeps (hc : c.Enrolled ctx) {token operation : String}
    {input : FreshAuthProofInput} {resourceId : Option String}
    (hq : c.Spares ctx own (.verifyFreshAuthentication token input operation resourceId)) :
    (verifyFreshAuthentication ctx token input operation resourceId).Keeps (c.rely ctx own start)
      (RepositoryCall.handle ctx.toContext) := by
  unfold verifyFreshAuthentication
  have hsession : (AuthService.requireSession token).Keeps (c.rely ctx own start)
      (RepositoryCall.handle ctx.toContext) := by
    apply keeps_of_calls hc
    simp [-bind_pure_comp,AuthService.requireSession,activeSession,Client.Harmless]
  refine Keeps.bind hsession fun session => ?_
  refine keeps_read (fun _ _ => rfl) fun env₁ r₁ _ h₁ => ?_
  rw [keeps_orThrow_bind]
  intro row hrow
  rw [keeps_throwIf_bind]
  intro hmatch
  obtain ⟨hpurpose,-,hdevice,-⟩ := not_not.mp hmatch
  refine keeps_read (fun _ _ => rfl) fun _ _ _ _ => keeps_throwIf_bind.mpr fun _ => ?_
  refine keeps_read (fun _ _ => rfl) fun env₂ r₂ _ h₂ => ?_
  refine Keeps.bind (keeps_lookups hc (fun _ => ⟨trivial,fun _ => trivial⟩)) fun identity => ?_
  refine Keeps.bind (keeps_lookups hc (fun _ => ⟨trivial,fun _ => trivial⟩)) fun wallet => ?_
  rw [keeps_orThrow_bind]
  intro found hfound
  dsimp only
  rw [keeps_throwIf_bind]
  intro _
  rw [keeps_throwIf_bind]
  intro _
  rw [keeps_throwIf_bind]
  intro hsigned
  have hid : row.challengeId = input.challengeId := Table.key_of_find hrow
  apply keeps_of_calls hc
  simp only [calls_perform_bind,calls_throwIf_bind,calls_pure]
  refine ⟨trivial,fun usedAt => ⟨⟨fun he => ?_,fun he => hsigned ?_⟩,fun _ _ => trivial⟩⟩
  · obtain ⟨-,hlogin,-⟩ := h₁.login row ((hid.symm.trans he) ▸ hrow)
    cases hpurpose.symm.trans hlogin
  · have hfresh := hid.symm.trans he
    obtain ⟨htext,-,hown⟩ := h₁.fresh row (hfresh ▸ hrow)
    rw [htext,publicKey_eq hc h₂ (hdevice.symm.trans hown) (parties_eq_some.mp hfound).1]
    exact hq hfresh

private theorem calls_throwIf {allowed : RepositoryCall → Prop} {p : Prop} [Decidable p]
    {e : ServiceError} : (throwIf p e : Program Unit).Calls allowed := by
  unfold throwIf
  split
  · trivial
  · trivial

private theorem calls_requireUnknownEmployee {allowed : RepositoryCall → Prop}
    (hallowed : ∀ id,allowed (.findIdentityByEmployeeId id)) {employeeId : Option String} :
    (requireUnknownEmployee employeeId).Calls allowed := by
  unfold requireUnknownEmployee
  split
  · trivial
  · split
    · trivial
    · exact ⟨hallowed _,fun _ => calls_throwIf⟩

private theorem initializeAccount_keeps (hc : c.Enrolled ctx) {input : InitializeAccountRequest}
    {uuid : String} (hq : c.Spares ctx own (.initializeAccount input uuid)) :
    (initializeAccount ctx input uuid).Keeps (c.rely ctx own start)
      (RepositoryCall.handle ctx.toContext) := by
  obtain ⟨hdid,hdevice,hwallets⟩ := hq
  unfold initializeAccount
  rw [keeps_throwIf_bind]
  intro _
  rw [keeps_throwIf_bind]
  intro _
  refine keeps_read (fun _ _ => rfl) fun env₁ r₁ _ h₁ => ?_
  rw [keeps_orThrow_bind]
  intro row hrow
  rw [keeps_throwIf_bind]
  intro hpurpose
  have hprovisioning : row.purpose = .WALLET_INITIALIZATION := not_not.mp hpurpose
  rw [keeps_throwIf_bind]
  intro _
  refine keeps_read (fun _ _ => rfl) fun _ _ _ _ => keeps_throwIf_bind.mpr fun _ => ?_
  rw [keeps_throwIf_bind]
  intro _
  rw [keeps_throwIf_bind]
  intro _
  rw [keeps_throwIf_bind]
  intro _
  refine Keeps.bind (keeps_of_calls hc ?_) fun _ => ?_
  · simp only [attestDevice,calls_throwIf_bind,calls_perform_bind]
    exact fun _ => ⟨trivial,fun _ => calls_throwIf⟩
  refine keeps_read (fun _ _ => rfl) fun env₂ r₂ _ h₂ => keeps_throwIf_bind.mpr fun hwallet => ?_
  refine keeps_read (fun _ _ => rfl) fun env₃ r₃ _ h₃ => keeps_throwIf_bind.mpr fun hnew => ?_
  refine Keeps.bind (keeps_of_calls hc ?_) fun _ => keeps_of_calls hc ?_
  · exact calls_requireUnknownEmployee (fun _ => trivial)
  simp only [calls_perform_bind,calls_throwIf_bind,calls_pure]
  refine ⟨trivial,fun usedAt => ⟨⟨fun he => ?_,fun he => ?_⟩,fun _ _ => ⟨hdid,fun _ => ⟨?_,fun _ =>
    ⟨⟨hdid,?_⟩,fun _ => trivial⟩⟩⟩⟩⟩
  · obtain ⟨-,hlogin,-⟩ := h₁.login row (he ▸ hrow)
    cases hprovisioning.symm.trans hlogin
  · obtain ⟨-,hfresh,-⟩ := h₁.fresh row (he ▸ hrow)
    cases hprovisioning.symm.trans hfresh
  · intro he
    have hsame : input.deviceId = c.device.deviceId := (hdevice he).symm.trans he
    apply hnew
    change (r₃.devices.find input.deviceId).isSome = true
    rw [hsame,h₃.rows.device]
    rfl
  · intro w hw he
    have hsame : input.walletAddress = w.address := (hwallets w hw he).symm.trans he
    apply hwallet
    change (r₂.wallets.find input.walletAddress).isSome = true
    rw [← h₂.rows.wallets,List.mem_filter] at hw
    rw [hsame,Table.find_of_mem hw.1]
    rfl

/-- The rows of the client are those of a live session. -/
private theorem sessionUser_eq (hc : c.Enrolled ctx) :
    sessionUser ctx (some c.identity) (some c.device) (some c.wallet) (some c.user) =
      some c.signedUser := by
  have hkey : c.device.publicKey.getD "" = c.publicKey := by
    rw [hc.key.1]
    rfl
  have hrows : SessionRows ctx ⟨c.device,c.identity,c.wallet⟩ := by
    refine ⟨hc.complete,hc.active.2.1,hc.active.1,hc.active.2.2,hc.bound.2,fun _ => ?_,?_⟩
    · rw [hkey]
      exact hc.key.2
    · rw [hkey]
      exact hc.matching
  exact if_pos hrows

/-- A request with the token of the client finds its session alive, and leaves it. -/
private theorem validateSession_keeps (hc : c.Enrolled ctx) :
    (validateSession ctx c.token).Keeps (c.rely ctx own start)
      (RepositoryCall.handle ctx.toContext) := by
  unfold validateSession
  refine keeps_read (fun _ _ => rfl) fun env₁ r₁ _ h₁ => ?_
  generalize hfound : (RepositoryCall.handle ctx.toContext env₁ r₁ (.findSession c.token)).2 = found
  cases found with
  | none => trivial
  | some session =>
    obtain ⟨hidentity,hdevice,hwallet,hexpires⟩ := h₁.session session hfound
    refine keeps_read (fun _ _ => rfl) fun env₂ r₂ hnow _ => ?_
    have hlive : ¬session.expiresAt ≤ env₂.now := Int.not_le.mpr (Int.lt_of_lt_of_le hnow.2 hexpires)
    split
    · rename_i hexpired
      exact absurd hexpired hlive
    · rw [hidentity,hdevice,hwallet]
      refine keeps_read (fun _ _ => rfl) fun _ r₃ _ h₃ => ?_
      refine keeps_read (fun _ _ => rfl) fun _ r₄ _ h₄ => ?_
      refine keeps_read (fun _ _ => rfl) fun _ r₅ _ h₅ => ?_
      dsimp only [RepositoryCall.handle]
      rw [h₃.rows.identity,h₄.rows.device,h₅.rows.wallet]
      refine keeps_read (fun _ _ => rfl) fun _ r₆ _ h₆ => ?_
      dsimp only [RepositoryCall.handle]
      rw [h₆.rows.user,sessionUser_eq hc]
      trivial

/-- Whatever somebody else asks for, the client can rely on it. -/
private theorem spares_keeps (hc : c.Enrolled ctx) {q : AuthRequest} (hq : c.Spares ctx own q) :
    (q.prog ctx).Keeps (c.rely ctx own start) (RepositoryCall.handle ctx.toContext) := by
  cases q with
  | requestProvisioningChallenge input fresh =>
    refine keeps_of_mayCall hc (mayCall_issuing (fun row hrow => hrow.1) hq ⟨rfl,rfl,?_,?_,?_⟩)
    · exact fun _ _ he => by cases he
    · exact fun _ he => by cases he
    · exact fun _ he => by cases he
  | requestAuthenticationChallenge deviceId fresh =>
    refine keeps_of_mayCall hc (mayCall_issuing (fun row hrow => hrow.1) hq ⟨rfl,rfl,?_,?_,?_⟩)
    · exact fun _ _ he => by cases he
    · exact fun _ he => by cases he
    · exact fun _ he => by cases he
  | requestFreshAuthenticationChallenge token operation resourceId fresh =>
    refine keeps_of_mayCall hc (mayCall_issuing (fun row hrow => hrow.1) hq ⟨rfl,rfl,?_,?_,?_⟩)
    · exact fun _ _ he => by cases he
    · exact fun _ he => by cases he
    · exact fun _ he => by cases he
  | initializeAccount input uuid =>
    exact Keeps.bind (initializeAccount_keeps hc hq) (fun _ => trivial)
  | loginWithProof input uuid => exact Keeps.bind (loginWithProof_keeps hc hq) (fun _ => trivial)
  | verifyFreshAuthentication token input operation resourceId =>
    exact Keeps.bind (verifyFreshAuthentication_keeps hc hq) (fun _ => trivial)
  | login deviceCredential uuid =>
    refine keeps_of_mayCall hc fun call hcall => ?_
    cases call with
    | saveIdentity row | saveDevice row | saveWallet row =>
      obtain ⟨input,uuid,he,-⟩ := hcall
      cases he
    | saveSession row =>
      have htoken : "bel_"++uuid = row.token := Option.some.inj hcall
      exact fun he => hq (htoken.trans he)
    | deleteSession token => rcases hcall with he | he <;> cases he
    | saveChallenge row => exact hcall.elim
    | consumeIfUnused id usedAt => exact absurd rfl hcall
    | _ => trivial
  | validateSession token =>
    by_cases htoken : token = c.token
    · rw [htoken]
      exact Keeps.bind (validateSession_keeps hc) (fun _ => trivial)
    · refine keeps_of_mayCall hc fun call hcall => ?_
      cases call with
      | saveIdentity row | saveDevice row | saveWallet row =>
        obtain ⟨input,uuid,he,-⟩ := hcall
        cases he
      | saveSession row => cases hcall
      | deleteSession token' =>
        rcases hcall with he | he
        · exact fun hown => htoken ((AuthRequest.validateSession.inj he).trans hown)
        · cases he
      | saveChallenge row => exact hcall.elim
      | consumeIfUnused id usedAt => exact absurd rfl hcall
      | _ => trivial
  | logout token =>
    apply keeps_of_calls hc
    exact ⟨hq,fun _ => trivial⟩

end Others

section Conversation
variable {c : Client} {ctx : AuthContext} {own : List Wallet} {start : ℤ} {r : Repositories} {n : ℕ}

/-- The challenge is there and unused, for the time that the client needs. -/
structure Ready (start : ℤ) (fresh : FreshChallenge) (row : Challenge) (r : Repositories) : Prop where
  stored : r.challenges.find fresh.challengeId = some row
  challengeId : row.challengeId = fresh.challengeId
  challenge : row.challenge = fresh.challenge
  unused : row.usedAt = none
  expiresAt : start + 60000 ≤ row.expiresAt

/-- The client is signed in. -/
structure SignedIn (c : Client) (start : ℤ) (session : Session) (r : Repositories) : Prop where
  stored : r.sessions.find c.token = some session
  own : c.OwnSession start session

private theorem SignedIn.spared {session : Session} {r' : Repositories}
    (h : SignedIn c start session r) (hspared : c.Spared r r') : SignedIn c start session r' :=
  { h with stored := hspared.session session h.stored }

/-- A call of the client that only reads: others may have moved before it. -/
private theorem meets_lookup {α : Type} {K : Repositories → Prop} {Q : α → Repositories → Prop}
    {call : RepositoryCall} {f : call.Answer → Program α}
    (hstable : ∀ {r r'},K r → c.Spared r r' → K r') (hr : K r)
    (hreads : ∀ env r,(RepositoryCall.handle ctx.toContext env r call).1 = r)
    (hf : ∀ env r,start ≤ env.now ∧ env.now < start + 60000 → c.Undisturbed ctx own start r → K r →
      (f (RepositoryCall.handle ctx.toContext env r call).2).Meets (c.rely ctx own start)
        (RepositoryCall.handle ctx.toContext) Q n r) :
    (perform call >>= f).Meets (c.rely ctx own start) (RepositoryCall.handle ctx.toContext) Q (n + 1)
      r := by
  intro env r' henv hr' hmoves
  have hnext := hf env r' henv hr' (hstable hr hmoves)
  rw [hreads]
  exact ⟨hr',hnext⟩

private theorem Client.Rows.find_listed (h : c.Rows ctx own r) :
    (r.listWallets ctx.toContext c.identity.identityId).find? (fun item =>
      item.status = .ACTIVE ∧ item.deviceId = c.device.deviceId) = some c.wallet := by
  unfold Repositories.listWallets
  rw [h.wallets]
  exact h.listed

/-- The client may write its own challenges. -/
private theorem undisturbed_saveChallenge (h : c.Undisturbed ctx own start r) {row : Challenge}
    (hlogin : row.challengeId = c.login.challengeId → row.challenge = c.login.challenge ∧
      row.purpose = .AUTHENTICATION ∧ row.deviceId = c.device.deviceId)
    (hfresh : row.challengeId = c.fresh.challengeId → row.challenge = c.fresh.challenge ∧
      row.purpose = .FRESH_AUTHENTICATION ∧ row.deviceId = c.device.deviceId) :
    c.Undisturbed ctx own start { r with challenges := r.challenges.save row } := by
  obtain ⟨hdevice,hidentity,huser,hwallet,hwallets,hlisted⟩ := h.rows
  refine ⟨⟨hdevice,hidentity,huser,hwallet,hwallets,hlisted⟩,?_,?_,h.session⟩
  · intro found hfound
    rw [Table.find_save] at hfound
    split at hfound
    · rename_i hid
      obtain rfl := Option.some.inj hfound
      exact hlogin hid
    · exact h.login found hfound
  · intro found hfound
    rw [Table.find_save] at hfound
    split at hfound
    · rename_i hid
      obtain rfl := Option.some.inj hfound
      exact hfresh hid
    · exact h.fresh found hfound

/-- And it may use them. -/
private theorem undisturbed_consume (h : c.Undisturbed ctx own start r) {row : Challenge}
    (hrow : r.challenges.find row.challengeId = some row) (hunused : row.usedAt = none)
    (usedAt : ℤ) : RepositoryCall.consume r.challenges row.challengeId usedAt =
        (r.challenges.save { row with usedAt := some usedAt },true) ∧
      c.Undisturbed ctx own start
        { r with challenges := r.challenges.save { row with usedAt := some usedAt } } := by
  constructor
  · unfold RepositoryCall.consume
    rw [hrow]
    exact if_pos hunused
  · apply undisturbed_saveChallenge h
    · intro hid
      exact h.login row (hid ▸ hrow)
    · intro hid
      exact h.fresh row (hid ▸ hrow)

private theorem undisturbed_saveSession (h : c.Undisturbed ctx own start r) {row : Session}
    (hrow : c.OwnSession start row) :
    c.Undisturbed ctx own start { r with sessions := r.sessions.save row } := by
  obtain ⟨hdevice,hidentity,huser,hwallet,hwallets,hlisted⟩ := h.rows
  refine ⟨⟨hdevice,hidentity,huser,hwallet,hwallets,hlisted⟩,h.login,h.fresh,?_⟩
  intro found hfound
  rw [Table.find_save] at hfound
  split at hfound
  · obtain rfl := Option.some.inj hfound
    exact hrow
  · exact h.session found hfound

private theorem requestAuthenticationChallenge_meets (hc : c.Enrolled ctx) :
    (requestAuthenticationChallenge c.device.deviceId c.login).Meets (c.rely ctx own start)
      (RepositoryCall.handle ctx.toContext)
      (fun row r => Ready start c.login row r ∧ row.purpose = .AUTHENTICATION ∧
        row.deviceId = c.device.deviceId) 5 r := by
  have hany : ∀ {r r'},True → c.Spared r r' → True := fun h _ => h
  unfold requestAuthenticationChallenge
  refine meets_lookup hany trivial (fun _ _ => rfl) fun _ r₁ _ h₁ _ => ?_
  dsimp only [RepositoryCall.handle]
  rw [h₁.rows.device]
  refine meets_lookup hany trivial (fun _ _ => rfl) fun _ r₂ _ h₂ _ => ?_
  dsimp only [RepositoryCall.handle]
  rw [hc.owner,h₂.rows.identity]
  refine meets_lookup hany trivial (fun _ _ => rfl) fun _ r₃ _ h₃ _ => ?_
  dsimp only [RepositoryCall.handle]
  rw [h₃.rows.find_listed]
  dsimp only [parties]
  have hactive : ¬(c.device.status ≠ .ACTIVE ∨ c.identity.status ≠ .ACTIVE) :=
    not_or.mpr ⟨not_not.mpr hc.active.2.1,not_not.mpr hc.active.1⟩
  rw [meets_orThrow_bind,meets_throwIf_bind hactive]
  refine meets_lookup hany trivial (fun _ _ => rfl) fun env r₄ hnow _ _ => ?_
  intro _ r₅ _ h₅ _
  refine ⟨undisturbed_saveChallenge h₅ (fun _ => ⟨rfl,rfl,rfl⟩) (fun he => absurd he hc.apart),?_⟩
  refine meets_pure.mpr ⟨⟨?_,rfl,rfl,rfl,?_⟩,rfl,rfl⟩
  · exact (Table.find_save ..).trans (if_pos rfl)
  · have hstart := hnow.1
    change start + 60000 ≤ env.now + 5 * 60 * 1000
    omega

private theorem key_getD (hc : c.Enrolled ctx) : c.device.publicKey.getD "" = c.publicKey := by
  rw [hc.key.1]
  rfl

private theorem loginWithProof_meets (hc : c.Enrolled ctx) {row : Challenge}
    (hready : Ready start c.login row r) (hpurpose : row.purpose = .AUTHENTICATION)
    (hdevice : row.deviceId = c.device.deviceId) :
    (loginWithProof ctx ⟨c.device.deviceId,row.challengeId,c.publicKey,c.sign row.challenge⟩
      c.uuid).Meets (c.rely ctx own start) (RepositoryCall.handle ctx.toContext)
      (fun reply r => reply = (c.signedUser,c.token) ∧ ∃ session,SignedIn c start session r) 10 r := by
  have hstable : ∀ {r r'},Ready start c.login row r → c.Spared r r' → Ready start c.login row r' :=
    fun h hspared => { h with stored := hspared.login row h.stored }
  unfold loginWithProof
  refine meets_lookup hstable hready (fun _ _ => rfl) fun _ r₁ _ _ h₁ => ?_
  dsimp only [RepositoryCall.handle]
  rw [hready.challengeId,h₁.stored,meets_orThrow_bind,meets_throwIf_bind
    (by simp [hpurpose,hready.unused,hdevice])]
  refine meets_lookup hstable h₁ (fun _ _ => rfl) fun env r₂ hnow _ h₂ => ?_
  refine (meets_throwIf_bind ?_).mpr ?_
  · exact Int.not_le.mpr (Int.lt_of_lt_of_le hnow.2 hready.expiresAt)
  refine meets_lookup hstable h₂ (fun _ _ => rfl) fun _ r₃ _ hr₃ h₃ => ?_
  dsimp only [RepositoryCall.handle]
  rw [hr₃.rows.device]
  refine meets_lookup hstable h₃ (fun _ _ => rfl) fun _ r₄ _ hr₄ h₄ => ?_
  dsimp only [RepositoryCall.handle]
  rw [hc.owner,hr₄.rows.identity]
  refine meets_lookup hstable h₄ (fun _ _ => rfl) fun _ r₅ _ hr₅ h₅ => ?_
  dsimp only [RepositoryCall.handle]
  rw [hr₅.rows.user]
  refine meets_lookup hstable h₅ (fun _ _ => rfl) fun _ r₆ _ hr₆ h₆ => ?_
  dsimp only [RepositoryCall.handle]
  rw [hr₆.rows.find_listed]
  dsimp only [parties]
  rw [meets_orThrow_bind,meets_orThrow_bind,key_getD hc,meets_throwIf_bind
      (by simp [hc.active.1,hc.active.2.1,hc.complete,hc.key.2]),
    meets_throwIf_bind (not_not.mpr hc.matching),
    meets_throwIf_bind (by simp [hc.signs])]
  refine meets_lookup hstable h₆ (fun _ _ => rfl) fun env r₇ _ _ h₇ => ?_
  intro _ r₈ _ hr₈ hspared
  have hused := hstable h₇ hspared
  obtain ⟨hconsume,hkept⟩ := undisturbed_consume hr₈ (hready.challengeId ▸ hused.stored)
    hready.unused env.now
  dsimp only [RepositoryCall.handle]
  rw [hconsume]
  refine ⟨hkept,(meets_throwIf_bind (by simp)).mpr ?_⟩
  have hany : ∀ {r r'},True → c.Spared r r' → True := fun h _ => h
  refine meets_lookup hany trivial (fun _ _ => rfl) fun env r₉ hnow _ _ => ?_
  intro _ r₁₀ _ hr₁₀ _
  have hown : c.OwnSession start ⟨"bel_"++c.uuid,c.identity.identityId,c.device.deviceId,
      c.wallet.address,env.now + max 60 ctx.ttl * 1000⟩ := by
    refine ⟨rfl,rfl,rfl,?_⟩
    have hstart := hnow.1
    dsimp only
    omega
  refine ⟨undisturbed_saveSession hr₁₀ hown,meets_pure.mpr ⟨rfl,_,?_,hown⟩⟩
  exact (Table.find_save ..).trans (if_pos rfl)

private theorem validateSession_meets (hc : c.Enrolled ctx) {session : Session}
    {K : Repositories → Prop} (hstable : ∀ {r r'},K r → c.Spared r r' → K r')
    (hsession : ∀ {r},K r → SignedIn c start session r) (h : K r) :
    (validateSession ctx c.token).Meets (c.rely ctx own start) (RepositoryCall.handle ctx.toContext)
      (fun user r => user = some c.signedUser ∧ K r) 6 r := by
  unfold validateSession
  refine meets_lookup hstable h (fun _ _ => rfl) fun _ r₁ _ _ h₁ => ?_
  obtain ⟨hstored,hown⟩ := hsession h₁
  dsimp only [RepositoryCall.handle]
  rw [hstored]
  refine meets_lookup hstable h₁ (fun _ _ => rfl) fun env r₂ hnow _ h₂ => ?_
  split
  · rename_i hexpired
    exact absurd hexpired (Int.not_le.mpr (Int.lt_of_lt_of_le hnow.2 hown.expiresAt))
  · rw [hown.identityId,hown.deviceId,hown.walletAddress]
    refine meets_lookup hstable h₂ (fun _ _ => rfl) fun _ r₃ _ hr₃ h₃ => ?_
    refine meets_lookup hstable h₃ (fun _ _ => rfl) fun _ r₄ _ hr₄ h₄ => ?_
    refine meets_lookup hstable h₄ (fun _ _ => rfl) fun _ r₅ _ hr₅ h₅ => ?_
    dsimp only [RepositoryCall.handle]
    rw [hr₃.rows.identity,hr₄.rows.device,hr₅.rows.wallet]
    refine meets_lookup hstable h₅ (fun _ _ => rfl) fun _ r₆ _ hr₆ h₆ => ?_
    dsimp only [RepositoryCall.handle]
    rw [hr₆.rows.user,sessionUser_eq hc]
    exact meets_pure.mpr ⟨rfl,h₆⟩

private theorem requireSession_meets (hc : c.Enrolled ctx) {session : Session}
    {K : Repositories → Prop} (hstable : ∀ {r r'},K r → c.Spared r r' → K r')
    (hsession : ∀ {r},K r → SignedIn c start session r) (h : K r) :
    (AuthService.requireSession c.token).Meets (c.rely ctx own start)
      (RepositoryCall.handle ctx.toContext) (fun found r => found = session ∧ K r) 5 r := by
  unfold AuthService.requireSession activeSession
  refine meets_lookup hstable h (fun _ _ => rfl) fun _ r₁ _ _ h₁ => ?_
  obtain ⟨hstored,hown⟩ := hsession h₁
  dsimp only [RepositoryCall.handle]
  rw [hstored,meets_orThrow_bind]
  refine meets_lookup hstable h₁ (fun _ _ => rfl) fun env r₂ hnow _ h₂ => ?_
  refine (meets_throwIf_bind ?_).mpr ?_
  · exact Int.not_le.mpr (Int.lt_of_lt_of_le hnow.2 hown.expiresAt)
  simp only [bind_assoc,pure_bind]
  rw [hown.identityId,hown.deviceId,hown.walletAddress]
  refine meets_lookup hstable h₂ (fun _ _ => rfl) fun _ r₃ _ hr₃ h₃ => ?_
  refine meets_lookup hstable h₃ (fun _ _ => rfl) fun _ r₄ _ hr₄ h₄ => ?_
  refine meets_lookup hstable h₄ (fun _ _ => rfl) fun _ r₅ _ hr₅ h₅ => ?_
  have hactive : rowsActive (r₃.identities.find c.identity.identityId)
      (r₄.devices.find c.device.deviceId) (r₅.wallets.find c.wallet.address) = true := by
    rw [hr₃.rows.identity,hr₄.rows.device,hr₅.rows.wallet]
    exact decide_eq_true ⟨hc.active.1,hc.active.2.1,hc.active.2.2,hc.bound.2,hc.bound.1⟩
  refine (meets_throwIf_bind ?_).mpr (meets_pure.mpr ⟨rfl,h₅⟩)
  exact fun he => Bool.noConfusion (hactive.symm.trans he)

private theorem requestFreshAuthenticationChallenge_meets (hc : c.Enrolled ctx) {session : Session}
    (h : SignedIn c start session r) {operation : String} {resourceId : Option String}
    (hoperation : jsTrim operation ≠ "") :
    (requestFreshAuthenticationChallenge ctx c.token operation resourceId c.fresh).Meets
      (c.rely ctx own start) (RepositoryCall.handle ctx.toContext)
      (fun row r => SignedIn c start session r ∧ Ready start c.fresh row r ∧
        FreshAuthMatches ctx row session c.token (jsTrim operation) (trimmedOrNull resourceId))
      7 r := by
  have hstable : ∀ {r r'},SignedIn c start session r → c.Spared r r' → SignedIn c start session r' :=
    fun h hspared => h.spared hspared
  unfold requestFreshAuthenticationChallenge
  refine Meets.bind (n := 5) (m := 2) (requireSession_meets hc hstable id h) ?_
  rintro _ r₁ ⟨rfl,h₁⟩
  rw [meets_throwIf_bind hoperation]
  refine meets_lookup hstable h₁ (fun _ _ => rfl) fun env r₂ hnow _ h₂ => ?_
  intro _ r₃ _ hr₃ hspared
  have h₃ := h₂.spared hspared
  refine ⟨undisturbed_saveChallenge hr₃ (fun he => absurd he.symm hc.apart)
    (fun _ => ⟨rfl,rfl,h.own.deviceId⟩),meets_pure.mpr ⟨⟨h₃.stored,h₃.own⟩,⟨?_,rfl,rfl,rfl,?_⟩,
      rfl,rfl,rfl,rfl⟩⟩
  · exact (Table.find_save ..).trans (if_pos rfl)
  · have hstart := hnow.1
    change start + 60000 ≤ env.now + 2 * 60 * 1000
    omega

private theorem Client.Rows.find_addressed (h : c.Rows ctx own r) : ∃ wallet,
    (r.listWallets ctx.toContext c.identity.identityId).find? (fun item =>
      item.address = c.wallet.address ∧ item.status = .ACTIVE ∧
        item.deviceId = c.device.deviceId) = some wallet ∧ wallet.address = c.wallet.address := by
  have hlisted := h.find_listed
  have hmem := List.mem_of_find?_eq_some hlisted
  have hbinding : c.wallet.status = .ACTIVE ∧ c.wallet.deviceId = c.device.deviceId := by
    simpa using List.find?_some hlisted
  cases hfind : (r.listWallets ctx.toContext c.identity.identityId).find? (fun item =>
      item.address = c.wallet.address ∧ item.status = .ACTIVE ∧
        item.deviceId = c.device.deviceId) with
  | none =>
    have hnone := List.find?_eq_none.mp hfind c.wallet hmem
    simp [hbinding] at hnone
  | some wallet =>
    have hsome := List.find?_some hfind
    simp only [decide_eq_true_eq] at hsome
    exact ⟨wallet,rfl,hsome.1⟩

private theorem verifyFreshAuthentication_meets (hc : c.Enrolled ctx) {session : Session}
    {row : Challenge} {operation : String} {resourceId : Option String}
    (h : SignedIn c start session r) (hready : Ready start c.fresh row r)
    (hmatch : FreshAuthMatches ctx row session c.token operation resourceId) :
    (verifyFreshAuthentication ctx c.token ⟨row.challengeId,c.publicKey,c.sign row.challenge⟩
      operation resourceId).Meets (c.rely ctx own start) (RepositoryCall.handle ctx.toContext)
      (fun _ _ => True) 12 r := by
  have hstable : ∀ {r r'},SignedIn c start session r ∧ Ready start c.fresh row r → c.Spared r r' →
      SignedIn c start session r' ∧ Ready start c.fresh row r' := fun h hspared =>
    ⟨h.1.spared hspared,{ h.2 with stored := hspared.fresh row h.2.stored }⟩
  unfold verifyFreshAuthentication
  refine Meets.bind (n := 5) (m := 7) (requireSession_meets hc hstable And.left ⟨h,hready⟩) ?_
  rintro _ r₁ ⟨rfl,h₁⟩
  refine meets_lookup hstable h₁ (fun _ _ => rfl) fun _ r₂ _ _ h₂ => ?_
  dsimp only [RepositoryCall.handle]
  rw [hready.challengeId,h₂.2.stored,meets_orThrow_bind,meets_throwIf_bind (not_not.mpr hmatch)]
  refine meets_lookup hstable h₂ (fun _ _ => rfl) fun env r₃ hnow _ h₃ => ?_
  refine (meets_throwIf_bind ?_).mpr ?_
  · exact Int.not_le.mpr (Int.lt_of_lt_of_le hnow.2 hready.expiresAt)
  rw [h.own.deviceId,h.own.walletAddress]
  refine meets_lookup hstable h₃ (fun _ _ => rfl) fun _ r₄ _ hr₄ h₄ => ?_
  dsimp only [RepositoryCall.handle]
  rw [hr₄.rows.device]
  refine meets_lookup hstable h₄ (fun _ _ => rfl) fun _ r₅ _ hr₅ h₅ => ?_
  dsimp only [RepositoryCall.handle]
  rw [hc.owner,hr₅.rows.identity]
  refine meets_lookup hstable h₅ (fun _ _ => rfl) fun _ r₆ _ hr₆ h₆ => ?_
  obtain ⟨wallet,hfind,haddress⟩ := hr₆.rows.find_addressed
  dsimp only [RepositoryCall.handle]
  rw [hfind]
  dsimp only [parties]
  rw [meets_orThrow_bind,key_getD hc,meets_throwIf_bind (by simp [hc.active.1,hc.active.2.1,hc.key.2])]
  have hmatching : walletMatchesKey ctx wallet c.publicKey := by
    intro hevm
    rw [haddress]
    exact hc.matching hevm
  rw [meets_throwIf_bind (not_not.mpr hmatching),meets_throwIf_bind (by simp [hc.signs])]
  refine meets_lookup hstable h₆ (fun _ _ => rfl) fun env r₇ _ _ h₇ => ?_
  intro _ r₈ _ hr₈ hspared
  have hused := (hstable h₇ hspared).2
  obtain ⟨hconsume,hkept⟩ := undisturbed_consume hr₈ (hready.challengeId ▸ hused.stored)
    hready.unused env.now
  dsimp only [RepositoryCall.handle]
  rw [hconsume]
  exact ⟨hkept,(meets_throwIf_bind (by simp)).mpr (meets_pure.mpr trivial)⟩

private theorem bearer (hc : c.Enrolled ctx) :
    "Bearer ".toList.isPrefixOf ("Bearer "++c.token).toList = true ∧
      RouteGuards.tokenOf ("Bearer "++c.token) = c.token := by
  constructor
  · rw [String.toList_append,List.isPrefixOf_iff_prefix]
    exact List.prefix_append _ _
  · have hdrop : ("Bearer "++c.token).toList.drop 7 = c.token.toList := by
      rw [String.toList_append]
      rfl
    unfold RouteGuards.tokenOf
    rw [hdrop,String.ofList_toList]
    exact hc.trimmed

private theorem resolveUser_meets (hc : c.Enrolled ctx) {session : Session}
    {K : Repositories → Prop} (hstable : ∀ {r r'},K r → c.Spared r r' → K r')
    (hsession : ∀ {r},K r → SignedIn c start session r) (h : K r) :
    (RouteGuards.resolveUser ctx (some ("Bearer "++c.token))).Meets (c.rely ctx own start)
      (RepositoryCall.handle ctx.toContext) (fun user r => user = some c.signedUser ∧ K r) 6 r := by
  obtain ⟨hstarts,htoken⟩ := bearer hc
  unfold RouteGuards.resolveUser
  dsimp only
  rw [if_pos hstarts,htoken]
  exact validateSession_meets hc hstable hsession h

variable {settings : GuardSettings} {headers : RequestHeaders} {user : User}

private theorem check_permitted {guard : Guard} (hfresh : guard.isFresh = false)
    (hpermits : guard.Permits user) :
    RouteGuards.check ctx settings headers (some user) guard = pure () := by
  cases guard with
  | requireSession => rfl
  | requireActiveIdentity =>
    have hactive : user.status = .ACTIVE := hpermits
    exact if_neg (not_not.mpr hactive)
  | requireRole allowed =>
    have hallowed : user.role ∈ allowed := hpermits
    exact if_neg (not_not.mpr hallowed)
  | requirePermission action context => exact congrArg Prog.done hpermits
  | requireFreshAuthentication operation resource => cases hfresh

private theorem checkAll_permitted {guards : List Guard} (hpermits : ∀ g ∈ guards,g.Permits user)
    (hfresh : ∀ g ∈ guards,g.isFresh = false) :
    RouteGuards.checkAll ctx settings headers (some user) guards = pure () := by
  induction guards with
  | nil => rfl
  | cons g guards ih =>
    rw [RouteGuards.checkAll,check_permitted (hfresh g List.mem_cons_self)
      (hpermits g List.mem_cons_self),pure_bind]
    exact ih (fun g' hg => hpermits g' (List.mem_cons_of_mem g hg))
      (fun g' hg => hfresh g' (List.mem_cons_of_mem g hg))

/-- The guards let a permitted user pass who has one proof to give. -/
private theorem checkAll_meets {guards : List Guard} (hpermits : ∀ g ∈ guards,g.Permits user)
    (honce : guards.countP Guard.isFresh ≤ 1)
    (hproof : ∀ operation resource,.requireFreshAuthentication operation resource ∈ guards →
      (RouteGuards.requireFreshAuthentication ctx settings headers operation resource).Meets
        (c.rely ctx own start) (RepositoryCall.handle ctx.toContext) (fun _ _ => True) n r) :
    (RouteGuards.checkAll ctx settings headers (some user) guards).Meets (c.rely ctx own start)
      (RepositoryCall.handle ctx.toContext) (fun _ _ => True) n r := by
  induction guards with
  | nil => exact meets_pure.mpr trivial
  | cons g guards ih =>
    have hrest := fun g' hg => hpermits g' (List.mem_cons_of_mem g hg)
    rw [RouteGuards.checkAll]
    by_cases hg : g.isFresh = true
    · rw [List.countP_cons_of_pos hg] at honce
      have hnone : ∀ g' ∈ guards,g'.isFresh = false := by
        intro g' hg'
        have hzero := List.countP_eq_zero.mp (Nat.le_zero.mp (Nat.le_of_succ_le_succ honce)) g' hg'
        exact Bool.not_eq_true _ ▸ hzero
      cases g with
      | requireFreshAuthentication operation resource =>
        refine Meets.bind (m := 0) (hproof operation resource List.mem_cons_self) fun _ r' _ => ?_
        rw [checkAll_permitted hrest hnone]
        exact meets_pure.mpr trivial
      | _ => cases hg
    · rw [List.countP_cons_of_neg hg] at honce
      rw [check_permitted (Bool.not_eq_true _ ▸ hg) (hpermits g List.mem_cons_self),pure_bind]
      exact ih hrest honce (fun operation resource hmem =>
        hproof operation resource (List.mem_cons_of_mem g hmem))

private theorem requireFreshAuthentication_meets (hc : c.Enrolled ctx) {session : Session}
    {row : Challenge} {operation : String} {resourceId : Option String}
    (h : SignedIn c start session r) (hready : Ready start c.fresh row r)
    (hmatch : FreshAuthMatches ctx row session c.token operation resourceId) :
    (RouteGuards.requireFreshAuthentication ctx settings ⟨some ("Bearer "++c.token),
      .proof ⟨row.challengeId,c.publicKey,c.sign row.challenge⟩⟩ operation resourceId).Meets
      (c.rely ctx own start) (RepositoryCall.handle ctx.toContext) (fun _ _ => True) 12 r := by
  unfold RouteGuards.requireFreshAuthentication
  split
  · have hne : ¬c.token = "" := by
      intro he
      have hlength := congrArg String.length he
      simp [Client.token] at hlength
    dsimp only [Option.map_some,Option.getD_some]
    rw [(bearer hc).2,meets_throwIf_bind hne]
    exact verifyFreshAuthentication_meets hc h hready hmatch
  · exact meets_pure.mpr trivial

/-- The whole conversation takes at most 46 awaits, whatever others do between them. -/
private theorem conversation_meets (hc : c.Enrolled ctx) {operation : String}
    {resourceId : Option String} (hoperation : jsTrim operation ≠ "") {route : Route}
    (hroute : ∀ g ∈ route.guards,g.Permits c.signedUser ∧
      g.Asks (jsTrim operation) (trimmedOrNull resourceId)) :
    (c.conversation ctx settings operation resourceId route).Meets (c.rely ctx own start)
      (RepositoryCall.handle ctx.toContext)
      (fun reply _ => reply = .session (some c.signedUser)) 46 r := by
  unfold Client.conversation
  refine Meets.bind (n := 5) (m := 41) (requestAuthenticationChallenge_meets hc) ?_
  rintro given r₁ ⟨hready,hpurpose,hdevice⟩
  refine Meets.bind (n := 10) (m := 31) (loginWithProof_meets hc hready hpurpose hdevice) ?_
  rintro reply r₂ ⟨rfl,session,hsigned⟩
  have hstable : ∀ {r r'},SignedIn c start session r → c.Spared r r' → SignedIn c start session r' :=
    fun h hspared => h.spared hspared
  refine Meets.bind (n := 6) (m := 25) (Q := fun _ r => SignedIn c start session r) ?_ ?_
  · refine Meets.bind (n := 6) (m := 0) (resolveUser_meets hc hstable id hsigned) ?_
    rintro _ r₃ ⟨rfl,h₃⟩
    exact meets_pure.mpr h₃
  intro _ r₃ h₃
  refine Meets.bind (n := 7) (m := 18) (requestFreshAuthenticationChallenge_meets hc h₃ hoperation) ?_
  rintro asked r₄ ⟨hsigned₄,hready₄,hmatch⟩
  have hstable' : ∀ {r r'},SignedIn c start session r ∧ Ready start c.fresh asked r → c.Spared r r' →
      SignedIn c start session r' ∧ Ready start c.fresh asked r' := fun h hspared =>
    ⟨h.1.spared hspared,{ h.2 with stored := hspared.fresh asked h.2.stored }⟩
  refine Meets.bind (n := 18) (m := 0) (Q := fun user _ => user = some c.signedUser) ?_ ?_
  · refine Meets.bind (n := 6) (m := 12) (resolveUser_meets hc hstable' And.left
      ⟨hsigned₄,hready₄⟩) ?_
    rintro _ r₅ ⟨rfl,hsigned₅,hready₅⟩
    refine Meets.bind (n := 12) (m := 0) (checkAll_meets (fun g hg => (hroute g hg).1)
      route.freshOnce ?_) (fun _ _ _ => meets_pure.mpr rfl)
    intro operation' resource' hmem
    obtain ⟨rfl,rfl⟩ := (hroute _ hmem).2
    exact requireFreshAuthentication_meets hc hsigned₅ hready₅ hmatch
  · rintro _ r₅ rfl
    exact meets_pure.mpr rfl

end Conversation

/-- The client and whoever else, after some of their calls. -/
def Client.among {ι : Type} [DecidableEq ι] (ctx : AuthContext) (r : Repositories) (i : ι)
    (conversation : Program AuthReply) (others : ι → AuthRequest)
    (schedule : List (ι × Surroundings)) :
    Pool RepositoryCall.Answer ServiceError AuthReply ι Repositories :=
  Pool.run (RepositoryCall.handle ctx.toContext)
    (Function.update (fun j => (others j).prog ctx) i conversation) r schedule

section Prototype

/-- The engineer, after whose device and wallet the rows are named. -/
def engineerClient : Client :=
  { identity := ⟨"DID:BEL:ENG",some "E-1",some .ENGINEER,some "RADAR",.ACTIVE⟩
    device := ⟨"DEV-1","DID:BEL:ENG",.ACTIVE,"2025-11-17T09:00:00.000Z",none,none,some "key-1"⟩
    wallet := ⟨"0xe1","DID:BEL:ENG","DEV-1",.ACTIVE,none,none,none,some "key-1"⟩
    user := ⟨"E-1","DID:BEL:ENG","0xe1",.ENGINEER,"RADAR",.ACTIVE⟩
    publicKey := "key-1"
    sign := fun text => text++"/key-1"
    login := ⟨"challenge-1","nonce-1"⟩
    fresh := ⟨"challenge-2","nonce-2"⟩
    uuid := "uuid-1" }

/-- Somebody presents the challenges of the engineer with a signature of their own, and somebody uses
the session at the same time. -/
def crowd : Fin 4 → AuthRequest
  | 0 => .validateSession "bel_uuid-1"
  | 1 => .loginWithProof ⟨"DEV-1","challenge-1","key-1","forged"⟩ "uuid-2"
  | 2 => .verifyFreshAuthentication "bel_uuid-1" ⟨"challenge-2","key-1","forged"⟩ "JOB_VERIFY"
      (some "JOB-1")
  | 3 => .requestAuthenticationChallenge "DEV-1" ⟨"challenge-3","nonce-3"⟩

/-- Everybody makes one call after the other. -/
def crowdSchedule : List (Fin 4 × Surroundings) :=
  (List.replicate 46 [(0,⟨2000,⟨true,true,true⟩⟩),(1,⟨2000,⟨true,true,true⟩⟩),
    (2,⟨2000,⟨true,true,true⟩⟩),(3,⟨2000,⟨true,true,true⟩⟩)]).flatten

theorem engineerClient_enrolled : engineerClient.Enrolled prototypeAuth := by
  refine ⟨rfl,⟨rfl,rfl⟩,⟨rfl,rfl,rfl⟩,by decide,⟨rfl,by decide⟩,fun h => Bool.noConfusion h,
    fun text => ?_,by decide,by decide +kernel⟩
  simp [prototypeAuth,engineerClient,String.append_assoc]

theorem engineerClient_rows :
    engineerClient.Rows prototypeAuth [engineerClient.wallet] engineerRepositories :=
  ⟨rfl,rfl,rfl,rfl,rfl,rfl⟩

theorem crowd_spares (j : Fin 4) (hj : j ≠ 0) :
    engineerClient.Spares prototypeAuth [engineerClient.wallet] (crowd j) := by
  match j with
  | 0 => exact absurd rfl hj
  | 1 => exact ⟨by decide,fun _ => by decide⟩
  | 2 => exact fun _ => by decide
  | 3 => exact ⟨by decide,by decide⟩

end Prototype
end BelLedger
