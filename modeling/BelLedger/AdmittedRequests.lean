import BelLedger.ChallengeUse
import BelLedger.HonestClients

/-!
# What an admitted request has shown

A handler runs only after the guards of its route. Whatever other requests do meanwhile, the request
has then shown a session in order, the role and permission of its user, and for a route that asks for
fresh authentication a challenge of its own, issued to that session for that operation and resource.
-/
namespace BelLedger
open KeyedTables EffectPrograms Prog UsersService AuthService Repository

/-- A request to the services of accounts, or to a route behind its guards. A route ends here when its
handler is reached: what the handlers write afterwards is not among the calls of the pool. -/
inductive WebRequest
  | account (q : AuthRequest)
  | route (headers : RequestHeaders) (target : Route)

namespace WebRequest

def prog (ctx : AuthContext) (settings : GuardSettings) : WebRequest → Program AuthReply
  | account q => q.prog ctx
  | route headers target =>
    RouteGuards.reachHandler ctx settings headers target.guards >>= fun user => pure (.session user)

/-- The request of the account services, if it is one. -/
def accountRequest : WebRequest → Option AuthRequest
  | account q => some q
  | route _ _ => none

/-- The proof that a request gives to the guards. -/
def presents : WebRequest → Option String
  | account q => q.presents
  | route headers _ =>
    match headers.freshAuth with
    | .proof input => some input.challengeId
    | _ => none

end WebRequest

/-- The token of the header, as `requireFreshAuthentication` reads it. -/
def RequestHeaders.bearer (headers : RequestHeaders) : String :=
  (headers.authorization.map RouteGuards.tokenOf).getD ""

/-- The request has found the session in time, with rows in order, and is that of their user. -/
def SessionShown (ctx : AuthContext) (tr : List RepositoryEvent) (token : String) (user : User) :
    Prop :=
  ∃ session now found row,⟨.findSession token,some session⟩ ∈ tr ∧ ⟨.now,now⟩ ∈ tr ∧
    now < session.expiresAt ∧ ⟨.findIdentity session.identityId,some found.identity⟩ ∈ tr ∧
    ⟨.findDevice session.deviceId,some found.device⟩ ∈ tr ∧
    ⟨.findWallet session.walletAddress,some found.wallet⟩ ∈ tr ∧
    ⟨.findUserByIdentityId found.identity.identityId,some row⟩ ∈ tr ∧ SessionRows ctx found ∧
    user = signedIn row found.identity found.wallet

/-- The challenge that a request for fresh authentication has stored, as it was used by the transcript. -/
def FreshlyShown (ctx : AuthContext) (tr : List RepositoryEvent) (headers : RequestHeaders)
    (input : FreshAuthProofInput) (operation : String) (resource : Option String) : WebRequest →
    Challenge → Prop
  | .account (.requestFreshAuthenticationChallenge token operation' resource' fresh),row =>
    token = headers.bearer ∧ jsTrim operation' = operation ∧ trimmedOrNull resource' = resource ∧
      row.challengeId = fresh.challengeId ∧ row.challenge = fresh.challenge ∧
      ∃ session,⟨.findSession token,some session⟩ ∈ tr ∧
        RegisteredKey tr session.deviceId input.publicKey ∧
        ChallengeAccepted ctx row tr .FRESH_AUTHENTICATION session.deviceId input.publicKey
          input.signature
  | _,_ => False

section Transcripts
variable {ctx : AuthContext} {settings : GuardSettings} {tr tr' : List RepositoryEvent}
  {headers : RequestHeaders} {user : User}

private theorem SessionShown.mono {token : String} (h : SessionShown ctx tr token user)
    (hmem : ∀ e ∈ tr,e ∈ tr') : SessionShown ctx tr' token user := by
  obtain ⟨session,now,found,row,h₁,h₂,htime,h₃,h₄,h₅,h₆,hrows,huser⟩ := h
  exact ⟨session,now,found,row,hmem _ h₁,hmem _ h₂,htime,hmem _ h₃,hmem _ h₄,hmem _ h₅,hmem _ h₆,
    hrows,huser⟩

private theorem uses_mono {q : AuthRequest} {row : Challenge} (h : q.Uses ctx row tr)
    (hmem : ∀ e ∈ tr,e ∈ tr') : q.Uses ctx row tr' := by
  have haccepted : ∀ {purpose deviceId publicKey signature},
      ChallengeAccepted ctx row tr purpose deviceId publicKey signature →
      ChallengeAccepted ctx row tr' purpose deviceId publicKey signature := by
    intro purpose deviceId publicKey signature h
    obtain ⟨now,hnow,htime⟩ := h.inTime
    obtain ⟨e,he,huse⟩ := h.used
    exact ⟨h.purpose,h.device,⟨now,hmem _ hnow,htime⟩,h.signed,e,hmem e he,huse⟩
  have hkey : ∀ {deviceId publicKey},RegisteredKey tr deviceId publicKey →
      RegisteredKey tr' deviceId publicKey := by
    rintro deviceId publicKey ⟨device,hdevice,hkey⟩
    exact ⟨device,hmem _ hdevice,hkey⟩
  cases q with
  | initializeAccount input uuid => exact haccepted h
  | loginWithProof input uuid => exact ⟨haccepted h.1,hkey h.2⟩
  | verifyFreshAuthentication token input operation resourceId =>
    obtain ⟨session,hsession,hused,hregistered,hmetadata⟩ := h
    exact ⟨session,hmem _ hsession,haccepted hused,hkey hregistered,hmetadata⟩
  | _ => cases h

private theorem sessionUser_eq_some {identity : Option Identity} {device : Option Device}
    {wallet : Option Wallet} {row : Option User} (h : sessionUser ctx identity device wallet row = some user) :
    ∃ found u,identity = some found.identity ∧ device = some found.device ∧
      wallet = some found.wallet ∧ row = some u ∧ SessionRows ctx found ∧
      user = signedIn u found.identity found.wallet := by
  unfold sessionUser at h
  split at h
  · rename_i found u hparties
    split at h
    · rename_i hrows
      obtain ⟨hdevice,hidentity,hwallet⟩ := parties_eq_some.mp hparties
      exact ⟨found,u,hidentity,hdevice,hwallet,rfl,hrows,(Option.some.inj h).symm⟩
    · cases h
  · cases h

private theorem not_follows_deleted {token : String} :
    ¬Follows (deleteSession token >>= fun _ => pure none : Program (Option User)) tr
      (.done (.ok (some user))) := by
  intro h
  rw [follows_perform_bind] at h
  obtain ⟨_,_,-,h⟩ := h
  cases (follows_done.mp h).2

/-- A session that is accepted has been looked up, with all its rows. -/
private theorem follows_validateSession {token : String}
    (h : Follows (validateSession ctx token) tr (.done (.ok (some user)))) :
    SessionShown ctx tr token user := by
  simp only [validateSession,follows_perform_bind] at h
  obtain ⟨found,tr₁,rfl,h⟩ := h
  cases found with
  | none => cases (follows_done.mp h).2
  | some session =>
    simp only [follows_perform_bind] at h
    obtain ⟨now,tr₂,rfl,h⟩ := h
    by_cases hexpired : session.expiresAt ≤ now
    · rw [if_pos hexpired,follows_perform_bind] at h
      obtain ⟨_,_,-,h⟩ := h
      cases (follows_done.mp h).2
    · rw [if_neg hexpired] at h
      simp only [follows_perform_bind,follows_andThen_bind] at h
      obtain ⟨identity,tr₃,rfl,device,tr₄,rfl,wallet,tr₅,rfl,h⟩ := h
      rcases h with ⟨rfl,h⟩ | ⟨a,rfl,h⟩
      · split at h
        · rename_i u hu
          obtain ⟨_,_,hidentity,-⟩ := sessionUser_eq_some hu
          cases hidentity
        · exact absurd h not_follows_deleted
      · obtain ⟨row,tr₆,rfl,h⟩ := h
        split at h
        · rename_i u hu
          obtain rfl := Option.some.inj (Except.ok.inj (follows_done.mp h).2)
          obtain ⟨found,u,hidentity,rfl,rfl,rfl,hrows,rfl⟩ := sessionUser_eq_some hu
          obtain rfl := Option.some.inj hidentity
          exact ⟨session,now,found,u,by simp,by simp,Int.not_le.mp hexpired,by simp,by simp,by simp,
            by simp,hrows,rfl⟩
        · exact absurd h not_follows_deleted

private theorem follows_resolveUser {authorization : Option String}
    (h : Follows (RouteGuards.resolveUser ctx authorization) tr (.done (.ok (some user)))) :
    SessionShown ctx tr ((authorization.map RouteGuards.tokenOf).getD "") user := by
  unfold RouteGuards.resolveUser at h
  cases authorization with
  | none => cases (follows_done.mp h).2
  | some header =>
    dsimp only at h
    split at h
    · exact follows_validateSession h
    · cases (follows_done.mp h).2

/-- A proof is accepted for this operation and this resource. -/
def ProofAccepted (ctx : AuthContext) (tr : List RepositoryEvent) (headers : RequestHeaders)
    (operation : String) (resource : Option String) : Prop :=
  ∃ input,headers.freshAuth = .proof input ∧ ∃ tr',(∀ e ∈ tr',e ∈ tr) ∧
    Follows ((AuthRequest.verifyFreshAuthentication headers.bearer input operation resource).prog ctx)
      tr' (.done (.ok .done))

/-- What a guard that lets a request pass has seen. -/
def Guard.Passed (ctx : AuthContext) (settings : GuardSettings) (tr : List RepositoryEvent)
    (headers : RequestHeaders) (user : User) (g : Guard) : Prop :=
  g.Permits user ∧ ∀ operation resource,g = .requireFreshAuthentication operation resource →
    RouteGuards.freshAuthRequired settings operation = true →
    ProofAccepted ctx tr headers operation resource

private theorem Guard.passed_of_permits {g : Guard} (hfresh : g.isFresh = false)
    (h : g.Permits user) : g.Passed ctx settings tr headers user := by
  refine ⟨h,?_⟩
  rintro operation resource rfl
  cases hfresh

private theorem follows_throwIf {c : Prop} [Decidable c] {e : ServiceError}
    (h : Follows (throwIf c e : Program Unit) tr (.done (.ok ()))) : ¬c := by
  unfold throwIf at h
  split at h
  · cases (follows_done.mp h).2
  · assumption

private theorem follows_check {g : Guard}
    (h : Follows (RouteGuards.check ctx settings headers (some user) g) tr (.done (.ok ()))) :
    g.Passed ctx settings tr headers user := by
  cases g with
  | requireSession => exact Guard.passed_of_permits rfl trivial
  | requireActiveIdentity =>
    obtain ⟨u,hu,h⟩ := follows_orThrow_bind.mp h
    obtain rfl := Option.some.inj hu
    have hstatus := follows_throwIf h
    exact Guard.passed_of_permits rfl (not_not.mp hstatus)
  | requireRole allowed =>
    obtain ⟨u,hu,h⟩ := follows_orThrow_bind.mp h
    obtain rfl := Option.some.inj hu
    have hrole := follows_throwIf h
    exact Guard.passed_of_permits rfl (not_not.mp hrole)
  | requirePermission action context =>
    obtain ⟨u,hu,h⟩ := follows_orThrow_bind.mp h
    obtain rfl := Option.some.inj hu
    exact Guard.passed_of_permits rfl (follows_done.mp h).2
  | requireFreshAuthentication operation resource =>
    refine ⟨trivial,?_⟩
    rintro operation' resource' heq hrequired
    obtain ⟨rfl,rfl⟩ := Guard.requireFreshAuthentication.inj heq
    simp only [RouteGuards.check,RouteGuards.requireFreshAuthentication,if_pos hrequired] at h
    cases hproof : headers.freshAuth with
    | proof input =>
      rw [hproof] at h
      have hverified := (follows_throwIf_bind.mp h).2
      refine ⟨input,hproof,tr,fun _ he => he,?_⟩
      exact follows_bind.mpr ⟨tr,[],(),(List.append_nil tr).symm,hverified,.refl _⟩
    | _ =>
      rw [hproof] at h
      cases (follows_done.mp h).2

private theorem Guard.Passed.mono {g : Guard} (h : g.Passed ctx settings tr headers user)
    (hmem : ∀ e ∈ tr,e ∈ tr') : g.Passed ctx settings tr' headers user := by
  refine ⟨h.1,fun operation resource hg hrequired => ?_⟩
  obtain ⟨input,hproof,part,hpart,hfollows⟩ := h.2 operation resource hg hrequired
  exact ⟨input,hproof,part,fun e he => hmem e (hpart e he),hfollows⟩

private theorem follows_checkAll {guards : List Guard}
    (h : Follows (RouteGuards.checkAll ctx settings headers (some user) guards) tr (.done (.ok ()))) :
    ∀ g ∈ guards,g.Passed ctx settings tr headers user := by
  induction guards generalizing tr with
  | nil => exact fun g hg => absurd hg List.not_mem_nil
  | cons guard guards ih =>
    rw [RouteGuards.checkAll] at h
    obtain ⟨before,after,_,rfl,hcheck,hrest⟩ := follows_bind.mp h
    intro g hg
    rcases List.mem_cons.mp hg with rfl | hg
    · exact (follows_check hcheck).mono (fun e he => List.mem_append_left after he)
    · exact (ih hrest g hg).mono (fun e he => List.mem_append_right before he)

/-- A request that reaches the handler of a route has a user, and has passed every guard. -/
private theorem follows_reachHandler {target : Route} {found : Option User}
    (h : Follows (RouteGuards.reachHandler ctx settings headers target.guards) tr (.done (.ok found))) :
    ∃ user,found = some user ∧ SessionShown ctx tr headers.bearer user ∧
      ∀ g ∈ target.guards,g.Passed ctx settings tr headers user := by
  obtain ⟨before,after,resolved,rfl,hresolve,h⟩ := follows_bind.mp h
  obtain ⟨during,last,_,rfl,hcheck,h⟩ := follows_bind.mp h
  obtain ⟨rfl,hfound⟩ := follows_pure.mp h
  obtain rfl := Except.ok.inj hfound
  cases resolved with
  | none =>
    -- the first guard of every route asks for the session
    obtain ⟨rest,hrest⟩ : ∃ rest,target.guards = .requireSession::rest := by
      have hfirst := target.session_first
      cases hguards : target.guards with
      | nil =>
        rw [hguards] at hfirst
        cases hfirst
      | cons g rest =>
        rw [hguards] at hfirst
        exact ⟨rest,by rw [Option.some.inj hfirst]⟩
    rw [hrest,RouteGuards.checkAll] at hcheck
    obtain ⟨_,_,_,-,hsession,-⟩ := follows_bind.mp hcheck
    have hsome := follows_throwIf (c := (none : Option User).isNone = true) hsession
    exact absurd rfl hsome
  | some user =>
    refine ⟨user,rfl,(follows_resolveUser hresolve).mono (fun e he => List.mem_append_left _ he),?_⟩
    intro g hg
    refine (follows_checkAll hcheck g hg).mono (fun e he => ?_)
    exact List.mem_append_right before (List.mem_append_left [] he)

end Transcripts

section Calls
variable {ctx : AuthContext} {settings : GuardSettings} {headers : RequestHeaders}

private theorem issuesNothing {α : Type} {q : AuthRequest} {p : Program α} {f : α → Program AuthReply}
    (hprog : q.prog ctx = p >>= f) (hissued : ∀ row,¬q.Issued ctx row) :
    p.Calls (fun c => ¬WritesAnyChallenge c) := by
  have hcalls : (q.prog ctx).Calls (q.MayCall ctx) := AuthRequest.prog_calls q
  rw [hprog] at hcalls
  refine hcalls.of_bind.mono ?_
  rintro c hc ⟨row,rfl⟩
  exact hissued row hc

private theorem throwIf_calls {allowed : RepositoryCall → Prop} {c : Prop} [Decidable c]
    {e : ServiceError} : (throwIf c e : Program Unit).Calls allowed := by
  unfold throwIf
  split <;> trivial

private theorem check_calls (user : Option User) (g : Guard) :
    (RouteGuards.check ctx settings headers user g).Calls (fun c => ¬WritesAnyChallenge c) := by
  cases g with
  | requireSession => exact throwIf_calls
  | requireActiveIdentity => exact calls_orThrow_bind.mpr (fun _ _ => throwIf_calls)
  | requireRole allowed => exact calls_orThrow_bind.mpr (fun _ _ => throwIf_calls)
  | requirePermission action context => exact calls_orThrow_bind.mpr (fun _ _ => trivial)
  | requireFreshAuthentication operation resource =>
    change (RouteGuards.requireFreshAuthentication ctx settings headers operation resource).Calls _
    unfold RouteGuards.requireFreshAuthentication
    split
    · cases headers.freshAuth with
      | proof input =>
        dsimp only
        rw [calls_throwIf_bind]
        intro _
        exact issuesNothing (q := .verifyFreshAuthentication _ input operation resource) rfl
          (fun _ => id)
      | _ => trivial
    · trivial

private theorem reachHandler_calls (guards : List Guard) :
    (RouteGuards.reachHandler ctx settings headers guards).Calls (fun c => ¬WritesAnyChallenge c) := by
  have hresolve : (RouteGuards.resolveUser ctx headers.authorization).Calls
      (fun c => ¬WritesAnyChallenge c) := by
    unfold RouteGuards.resolveUser
    split
    · trivial
    · split
      · exact issuesNothing (q := .validateSession _) rfl (fun _ => id)
      · trivial
  refine hresolve.bind (fun user => Calls.bind ?_ (fun _ => trivial))
  induction guards with
  | nil => trivial
  | cons g guards ih => exact (check_calls user g).bind (fun _ => ih)

private theorem route_calls (target : Route) :
    ((WebRequest.route headers target).prog ctx settings).Calls (fun c => ¬WritesAnyChallenge c) :=
  (reachHandler_calls target.guards).bind (fun _ => trivial)

/-- Only the requests of the account services issue challenges. -/
private theorem WebRequest.prog_calls (q : WebRequest) :
    (q.prog ctx settings).Calls (fun c => ∀ row,c = .saveChallenge row →
      ∃ a,q.accountRequest = some a ∧ a.Issued ctx row) := by
  cases q with
  | account a =>
    refine (AuthRequest.prog_calls a).mono ?_
    rintro c hc row rfl
    exact ⟨a,rfl,hc⟩
  | route headers target =>
    refine (route_calls target).mono ?_
    rintro c hc row rfl
    exact absurd ⟨row,rfl⟩ hc

private theorem WebRequest.prog_atMostOne (q : WebRequest) :
    (q.prog ctx settings).AtMostOne WritesAnyChallenge := by
  cases q with
  | account a => exact BelLedger.prog_atMostOne a
  | route headers target => exact (route_calls target).atMostOne

end Calls

section Pools
variable {ι : Type} [DecidableEq ι] {ctx : AuthContext} {settings : GuardSettings}
  {requests : ι → WebRequest} {r : Repositories}
  {c : Pool RepositoryCall.Answer ServiceError AuthReply ι Repositories}

/-- No two requests draw the same challenge id. -/
def FreshIds (requests : ι → WebRequest) : Prop :=
  ∀ i j a b fresh fresh',(requests i).accountRequest = some a → (requests j).accountRequest = some b →
    a.issues = some fresh → b.issues = some fresh' → fresh.challengeId = fresh'.challengeId → i = j

/-- The requests after some of their calls. -/
def served (ctx : AuthContext) (settings : GuardSettings) (requests : ι → WebRequest)
    (r : Repositories) (schedule : List (ι × Surroundings)) :
    Pool RepositoryCall.Answer ServiceError AuthReply ι Repositories :=
  Pool.run (RepositoryCall.handle ctx.toContext) (fun i => (requests i).prog ctx settings) r schedule

private theorem web_issued
    (hc : Pool.Sound (RepositoryCall.handle ctx.toContext)
      (fun i => (requests i).prog ctx settings) r c)
    {j : ι} {row : Challenge} {u : Unit} (hmem : (j,⟨.saveChallenge row,u⟩) ∈ c.transcript) :
    ∃ a,(requests j).accountRequest = some a ∧ a.Issued ctx row :=
  (hc.follows j).calls (WebRequest.prog_calls _) _ (Pool.mem_projection.mpr hmem) row rfl

private theorem web_written_once (hfresh : FreshIds requests)
    (hc : Pool.Sound (RepositoryCall.handle ctx.toContext)
      (fun i => (requests i).prog ctx settings) r c) :
    (c.transcript.map Prod.snd).Pairwise
      (fun e e' => ∀ id,WritesChallenge id e → ¬WritesChallenge id e') := by
  apply Pool.pairwise_of_projections
  · intro i
    refine ((hc.follows i).atMostOne (WebRequest.prog_atMostOne _)).imp ?_
    rintro e e' hone id ⟨row,u,rfl,-⟩ ⟨row',u',rfl,-⟩
    exact hone ⟨row,rfl⟩ ⟨row',rfl⟩
  · rintro i j e e' hne hi hj id ⟨row,u,rfl,hid⟩ ⟨row',u',rfl,hid'⟩
    obtain ⟨a,ha,hissued⟩ := web_issued hc hi
    obtain ⟨b,hb,hissued'⟩ := web_issued hc hj
    obtain ⟨fresh,hissues,hrow⟩ := issued_id hissued
    obtain ⟨fresh',hissues',hrow'⟩ := issued_id hissued'
    refine hne (hfresh i j a b fresh fresh' ha hb hissues hissues' ?_)
    rw [← hrow,← hrow',hid,hid']

/-- The route asks for a proof under these settings. -/
def Route.AsksProof (settings : GuardSettings) (target : Route) : Prop :=
  ∃ operation resource,.requireFreshAuthentication operation resource ∈ target.guards ∧
    RouteGuards.freshAuthRequired settings operation = true

private theorem freshlyShown_of_usedFor {tr : List RepositoryEvent} {headers : RequestHeaders}
    {input : FreshAuthProofInput} {operation : String} {resource : Option String} {row : Challenge}
    {q : WebRequest} {a : AuthRequest} (ha : q.accountRequest = some a) (hissued : a.Issued ctx row)
    (hused : UsedFor ctx row tr a
      (.verifyFreshAuthentication headers.bearer input operation resource)) :
    FreshlyShown ctx tr headers input operation resource q row := by
  cases q with
  | route headers target => cases ha
  | account a' =>
    obtain rfl := Option.some.inj ha
    cases a' with
    | requestFreshAuthenticationChallenge token operation' resource' fresh =>
      obtain ⟨htoken,hoperation,hresource,session,hsession,hkey,haccepted⟩ := hused
      exact ⟨htoken.symm,hoperation.symm,hresource.symm,hissued.1,hissued.2.1,session,hsession,hkey,
        haccepted⟩
    | _ => cases hused

private theorem mem_of_projection {i : ι} {e : RepositoryEvent}
    (he : e ∈ Pool.projection i c.transcript) : e ∈ c.transcript.map Prod.snd :=
  List.mem_map_of_mem (f := Prod.snd) (Pool.mem_projection.mp he)

/-- An accepted proof is for a challenge that was found, and uses it. -/
private theorem uses_of_proofAccepted {stored : Repositories}
    (hkept : ChallengesKept (c.transcript.map Prod.snd) stored) {i : ι} {headers : RequestHeaders}
    {operation : String} {resource : Option String}
    (h : ProofAccepted ctx (Pool.projection i c.transcript) headers operation resource) :
    ∃ input row,headers.freshAuth = .proof input ∧ row.challengeId = input.challengeId ∧
      ⟨.findChallenge input.challengeId,some row⟩ ∈ Pool.projection i c.transcript ∧
      (AuthRequest.verifyFreshAuthentication headers.bearer input operation resource).Uses ctx row
        (Pool.projection i c.transcript) := by
  obtain ⟨input,hinput,part,hpart,hfollows⟩ := h
  have hfound : ∀ row,⟨.findChallenge input.challengeId,some row⟩ ∈ part →
      row.challengeId = input.challengeId :=
    fun row hmem => (hkept.found _ row (mem_of_projection (hpart _ hmem))).1
  obtain ⟨row,hmem,huses⟩ := follows_presents rfl hfound hfollows
  exact ⟨input,row,hinput,hfound row hmem,hpart _ hmem,uses_mono huses hpart⟩

section Sound
variable (hc : Pool.Sound (RepositoryCall.handle ctx.toContext)
  (fun i => (requests i).prog ctx settings) r c)
include hc

/-- A route that has ended well has a user, whose session was shown and whom its guards let pass. -/
private theorem reached_of_done {i : ι} {headers : RequestHeaders} {target : Route} {reply : AuthReply}
    (hrequest : requests i = .route headers target) (hdone : c.progs i = .done (.ok reply)) :
    ∃ user,reply = .session (some user) ∧
      SessionShown ctx (Pool.projection i c.transcript) headers.bearer user ∧
      ∀ g ∈ target.guards,g.Passed ctx settings (Pool.projection i c.transcript) headers user := by
  have hfollows := hc.follows i
  rw [hdone] at hfollows
  simp only [hrequest] at hfollows
  obtain ⟨before,after,found,htr,hbefore,hafter⟩ := follows_bind.mp hfollows
  obtain ⟨rfl,hreply⟩ := follows_pure.mp hafter
  obtain ⟨user,rfl,hshown,hguards⟩ := follows_reachHandler hbefore
  rw [htr,List.append_nil]
  exact ⟨user,(Except.ok.inj hreply).symm,hshown,hguards⟩

/-- A route that asks for a proof has used the challenge that its request presents. -/
private theorem used_of_done {stored : Repositories}
    (hkept : ChallengesKept (c.transcript.map Prod.snd) stored) {i : ι} {headers : RequestHeaders}
    {target : Route} {reply : AuthReply} {id : String} (hrequest : requests i = .route headers target)
    (hasks : target.AsksProof settings) (hdone : c.progs i = .done (.ok reply))
    (hpresents : (requests i).presents = some id) :
    ∃ e,(i,e) ∈ c.transcript ∧ UsesChallenge id e := by
  obtain ⟨operation,resource,hguard,hrequired⟩ := hasks
  obtain ⟨user,-,-,hguards⟩ := reached_of_done hc hrequest hdone
  obtain ⟨input,row,hinput,hid,-,huses⟩ :=
    uses_of_proofAccepted hkept ((hguards _ hguard).2 operation resource rfl hrequired)
  obtain ⟨e,he,huse⟩ := uses_event huses
  simp only [hrequest,WebRequest.presents,hinput] at hpresents
  rw [hid,Option.some.inj hpresents] at huse
  exact ⟨e,Pool.mem_projection.mp he,huse⟩

end Sound

/-- In every interleaving of requests, a handler is reached with the user of a session that was found
in order, whom every guard permits; where its route asks for fresh authentication, with a challenge
that this session has been issued for this operation and resource, signed with the key of its device
and used by this request. No challenge takes two requests to a handler. -/
theorem admitted_requests (hhash : Function.Injective ctx.sessionHash) (settings : GuardSettings)
    (hfresh : FreshIds requests) (hempty : r.challenges = .empty)
    (schedule : List (ι × Surroundings)) :
    (∀ i headers target reply,requests i = .route headers target →
      (served ctx settings requests r schedule).progs i = .done (.ok reply) →
      ∃ user,reply = .session (some user) ∧
        SessionShown ctx (Pool.projection i (served ctx settings requests r schedule).transcript)
          headers.bearer user ∧
        (∀ g ∈ target.guards,g.Permits user) ∧
        ∀ operation resource,.requireFreshAuthentication operation resource ∈ target.guards →
          RouteGuards.freshAuthRequired settings operation = true →
          ∃ input j row,headers.freshAuth = .proof input ∧ row.challengeId = input.challengeId ∧
            FreshlyShown ctx
              (Pool.projection i (served ctx settings requests r schedule).transcript)
              headers input operation resource (requests j) row ∧
            (j,⟨.saveChallenge row,()⟩) ∈ (served ctx settings requests r schedule).transcript) ∧
    (∀ i i' headers headers' target target' reply reply' id,
      requests i = .route headers target → requests i' = .route headers' target' →
      target.AsksProof settings → target'.AsksProof settings →
      (served ctx settings requests r schedule).progs i = .done (.ok reply) →
      (served ctx settings requests r schedule).progs i' = .done (.ok reply') →
      (requests i).presents = some id → (requests i').presents = some id → i = i') := by
  have hc := Pool.sound_run (h := RepositoryCall.handle ctx.toContext)
    (fun i => (requests i).prog ctx settings) r schedule
  change Pool.Sound _ _ _ (served ctx settings requests r schedule) at hc
  generalize served ctx settings requests r schedule = c at hc ⊢
  have hkept := replays_challenges hc.replays hempty (web_written_once hfresh hc)
  constructor
  · intro i headers target reply hrequest hdone
    obtain ⟨user,hreply,hshown,hguards⟩ := reached_of_done hc hrequest hdone
    refine ⟨user,hreply,hshown,fun g hg => (hguards g hg).1,?_⟩
    intro operation resource hguard hrequired
    obtain ⟨input,row,hinput,hid,hmem,huses⟩ :=
      uses_of_proofAccepted hkept ((hguards _ hguard).2 operation resource rfl hrequired)
    obtain ⟨-,row₀,u,hwritten,hsame⟩ := hkept.found _ row (mem_of_projection hmem)
    obtain ⟨⟨j,e⟩,hj,rfl⟩ := List.mem_map.mp hwritten
    obtain ⟨a,ha,hissued⟩ := web_issued hc hj
    exact ⟨input,j,row₀,hinput,hsame.id_eq.trans hid,freshlyShown_of_usedFor ha hissued
      (usedFor_of_issued hhash hissued (uses_same hsame huses)),hj⟩
  · -- the two requests would have left two uses of one challenge
    intro i i' headers headers' target target' reply reply' id hi hi' hasks hasks' hdone hdone' hid hid'
    obtain ⟨e,he,hused⟩ := used_of_done hc hkept hi hasks hdone hid
    obtain ⟨e',he',hused'⟩ := used_of_done hc hkept hi' hasks' hdone' hid'
    by_contra hne
    have hsymm : Std.Symm (fun a b : ι × RepositoryEvent =>
        ∀ id,UsesChallenge id a.2 → ¬UsesChallenge id b.2) :=
      ⟨fun a b hab id hb ha => hab id ha hb⟩
    have hpairs := (List.pairwise_map.mp hkept.once).forall he he' (fun heq => hne (Prod.mk.inj heq).1)
    exact hpairs id hused hused'

end Pools

section Prototype

def approval : WebRequest :=
  .route ⟨some "Bearer bel_uuid-1",.proof ⟨"challenge-2","key-1","nonce-2/key-1"⟩⟩ (.approve "JOB-1")

/-- The engineer logs in and approves a job, and the approval is sent twice. -/
def approvals : Fin 5 → WebRequest
  | 0 => .account (.requestAuthenticationChallenge "DEV-1" ⟨"challenge-1","nonce-1"⟩)
  | 1 => .account (.loginWithProof ⟨"DEV-1","challenge-1","key-1","nonce-1/key-1"⟩ "uuid-1")
  | 2 => .account (.requestFreshAuthenticationChallenge "bel_uuid-1" "JOB_VERIFY" (some "JOB-1")
      ⟨"challenge-2","nonce-2"⟩)
  | 3 => approval
  | 4 => approval

def approvalTurn (i : Fin 5) : Fin 5 × Surroundings := (i,⟨2000,⟨true,true,true⟩⟩)

/-- The others come first, then the two approvals take turns. -/
def approvalSchedule : List (Fin 5 × Surroundings) :=
  let others := (List.finRange 5).filter (fun i => i.val < 3)
  let both := (List.finRange 5).filter (fun i => 3 ≤ i.val)
  [others.flatMap (fun i => List.replicate 20 (approvalTurn i)),
    (List.replicate 30 (both.map approvalTurn)).flatten].flatten

private theorem approvals_issue {i : Fin 5} {a : AuthRequest} {fresh : FreshChallenge}
    (ha : (approvals i).accountRequest = some a) (hissues : a.issues = some fresh) :
    (i = 0 ∧ fresh.challengeId = "challenge-1") ∨ (i = 2 ∧ fresh.challengeId = "challenge-2") := by
  match i with
  | 0 =>
    cases ha
    cases hissues
    exact .inl ⟨rfl,rfl⟩
  | 1 =>
    cases ha
    cases hissues
  | 2 =>
    cases ha
    cases hissues
    exact .inr ⟨rfl,rfl⟩
  | 3 => cases ha
  | 4 => cases ha

theorem approvals_fresh : FreshIds approvals := by
  intro i j a b fresh fresh' ha hb hissues hissues' hid
  rcases approvals_issue ha hissues with ⟨rfl,hfirst⟩ | ⟨rfl,hfirst⟩
  · rcases approvals_issue hb hissues' with ⟨rfl,-⟩ | ⟨-,hsecond⟩
    · rfl
    · rw [hfirst,hsecond] at hid
      exact absurd hid (by decide)
  · rcases approvals_issue hb hissues' with ⟨-,hsecond⟩ | ⟨rfl,-⟩
    · rw [hfirst,hsecond] at hid
      exact absurd hid (by decide)
    · rfl

theorem admitted_requests_twice :
    ∃ user,(served prototypeAuth ⟨none,true⟩ approvals engineerRepositories approvalSchedule).progs 3 =
        .done (.ok (.session (some user))) ∧
      ((served prototypeAuth ⟨none,true⟩ approvals engineerRepositories approvalSchedule).progs
        4).ended = some false ∧
      ∃ input j row,row.challengeId = "challenge-2" ∧
        FreshlyShown prototypeAuth (Pool.projection 3 (served prototypeAuth ⟨none,true⟩ approvals
          engineerRepositories approvalSchedule).transcript)
          ⟨some "Bearer bel_uuid-1",.proof ⟨"challenge-2","key-1","nonce-2/key-1"⟩⟩ input
          "JOB_VERIFY" (some "JOB-1") (approvals j) row := by
  obtain ⟨reply,hreply⟩ := ended_of_true (p := (served prototypeAuth ⟨none,true⟩ approvals
    engineerRepositories approvalSchedule).progs 3) (by decide +kernel)
  obtain ⟨user,rfl,-,-,hproof⟩ := (admitted_requests prototypeAuth_sessionHash ⟨none,true⟩
    approvals_fresh (r := engineerRepositories) rfl approvalSchedule).1 3 _ _ reply rfl hreply
  obtain ⟨input,j,row,hinput,hid,hshown,-⟩ := hproof "JOB_VERIFY" (some "JOB-1")
    (by decide) (by decide +kernel)
  obtain rfl := FreshAuthHeader.proof.inj hinput
  exact ⟨user,hreply,by decide +kernel,_,j,row,hid,hshown⟩

end Prototype
end BelLedger
