import Mathlib.Data.List.Pairwise
import BelLedger.AccountRequests

/-!
# A challenge is used once, and for what it was issued

The requests run together and are interleaved at their awaits. The store decides which of them uses a
challenge: `consumeIfUnused` marks it in one step, and no request writes a challenge of another one.
-/
namespace BelLedger
open KeyedTables EffectPrograms Prog UsersService AuthService Repository

abbrev RepositoryEvent := Event RepositoryCall.Answer

/-- The event writes a challenge of this id. -/
def WritesChallenge (id : String) (e : RepositoryEvent) : Prop :=
  ∃ row u,e = ⟨.saveChallenge row,u⟩ ∧ row.challengeId = id

/-- The event marks the challenge of this id as used. -/
def UsesChallenge (id : String) (e : RepositoryEvent) : Prop :=
  ∃ usedAt,e = ⟨.consumeIfUnused id usedAt,true⟩

/-- The rows of one challenge before and after its use. -/
def SameChallenge (row row' : Challenge) : Prop := { row' with usedAt := row.usedAt } = row

section Store
variable {ctx : Context} {r r' : Repositories} {tr : List RepositoryEvent}

/-- What the transcript says about the challenges in the store. -/
structure ChallengesKept (tr : List RepositoryEvent) (r : Repositories) : Prop where
  written : ∀ row ∈ r.challenges.rows,∃ row₀ u,⟨.saveChallenge row₀,u⟩ ∈ tr ∧ SameChallenge row₀ row
  found : ∀ id row,⟨.findChallenge id,some row⟩ ∈ tr →
    row.challengeId = id ∧ ∃ row₀ u,⟨.saveChallenge row₀,u⟩ ∈ tr ∧ SameChallenge row₀ row
  used : ∀ id,(∃ e ∈ tr,UsesChallenge id e) →
    (∃ e ∈ tr,WritesChallenge id e) ∧ ∃ row,r.challenges.find id = some row ∧ row.usedAt ≠ none
  once : tr.Pairwise (fun e e' => ∀ id,UsesChallenge id e → ¬UsesChallenge id e')

theorem SameChallenge.trans {row row' row'' : Challenge} (h : SameChallenge row row')
    (h' : SameChallenge row'' row') : SameChallenge row row'' := by
  unfold SameChallenge at h h' ⊢
  rw [← h,← h']

theorem SameChallenge.id_eq {row row' : Challenge} (h : SameChallenge row row') :
    row.challengeId = row'.challengeId := by
  rw [← h]

/-- What one more call has to do to the store. -/
structure NextCall (tr : List RepositoryEvent) (r r' : Repositories) (e : RepositoryEvent) : Prop where
  written : ∀ row ∈ r'.challenges.rows,
    (∃ old ∈ r.challenges.rows,SameChallenge row old) ∨ e = ⟨.saveChallenge row,()⟩
  found : ∀ id row,e = ⟨.findChallenge id,some row⟩ → r.challenges.find id = some row
  kept : ∀ id row,(∃ e ∈ tr,WritesChallenge id e) → r.challenges.find id = some row →
    row.usedAt ≠ none → ∃ row',r'.challenges.find id = some row' ∧ row'.usedAt ≠ none
  used : ∀ id,UsesChallenge id e → (∃ row,r.challenges.find id = some row ∧ row.usedAt = none) ∧
    ∃ row',r'.challenges.find id = some row' ∧ row'.usedAt ≠ none

private theorem ChallengesKept.next (h : ChallengesKept tr r) {e : RepositoryEvent}
    (hnext : NextCall tr r r' e) : ChallengesKept (tr++[e]) r' := by
  have hgrows : ∀ {e'},e' ∈ tr → e' ∈ tr++[e] := fun hmem => List.mem_append_left _ hmem
  have hlast : ∀ {e'},e' ∈ tr++[e] → e' ∈ tr ∨ e' = e := by simp
  constructor
  · intro row hrow
    rcases hnext.written row hrow with ⟨old,hold,hsame⟩ | rfl
    · obtain ⟨row₀,u,hmem,hrow₀⟩ := h.written old hold
      exact ⟨row₀,u,hgrows hmem,hrow₀.trans hsame⟩
    · exact ⟨row,(),by simp,rfl⟩
  · intro id row hmem
    rcases hlast hmem with hmem | heq
    · obtain ⟨hid,row₀,u,hmem,hrow₀⟩ := h.found id row hmem
      exact ⟨hid,row₀,u,hgrows hmem,hrow₀⟩
    · have hfind := hnext.found id row heq.symm
      obtain ⟨row₀,u,hmem,hrow₀⟩ := h.written row (Table.mem_of_find hfind)
      exact ⟨Table.key_of_find hfind,row₀,u,hgrows hmem,hrow₀⟩
  · rintro id ⟨e',hmem,huse⟩
    rcases hlast hmem with hmem | rfl
    · obtain ⟨⟨e₀,hmem₀,hwrite⟩,row,hrow,hused⟩ := h.used id ⟨e',hmem,huse⟩
      exact ⟨⟨e₀,hgrows hmem₀,hwrite⟩,hnext.kept id row ⟨e₀,hmem₀,hwrite⟩ hrow hused⟩
    · obtain ⟨⟨row,hrow,-⟩,hafter⟩ := hnext.used id huse
      obtain ⟨row₀,u,hmem₀,hrow₀⟩ := h.written row (Table.mem_of_find hrow)
      have hid : row₀.challengeId = id := hrow₀.id_eq.trans (Table.key_of_find hrow)
      exact ⟨⟨_,hgrows hmem₀,row₀,u,rfl,hid⟩,hafter⟩
  · refine List.pairwise_append.mpr ⟨h.once,List.pairwise_singleton _ _,?_⟩
    intro e₀ hmem₀ e' he' id hbefore huse
    obtain rfl := List.mem_singleton.mp he'
    -- The store has just said that the challenge was unused.
    obtain ⟨⟨row,hrow,hunused⟩,-⟩ := hnext.used id huse
    obtain ⟨-,row',hrow',hused⟩ := h.used id ⟨e₀,hmem₀,hbefore⟩
    rw [hrow] at hrow'
    exact hused (Option.some.inj hrow' ▸ hunused)

private theorem nextCall_save (row : Challenge)
    (hnew : ∀ e ∈ tr,¬WritesChallenge row.challengeId e) :
    NextCall tr r { r with challenges := r.challenges.save row } ⟨.saveChallenge row,()⟩ := by
  constructor
  · intro row' hrow'
    rcases Table.mem_save.mp hrow' with rfl | ⟨hold,-⟩
    · exact .inr rfl
    · exact .inl ⟨row',hold,rfl⟩
  · intro id row' heq
    cases heq
  · rintro id row' ⟨e₀,hmem₀,hwrite⟩ hrow' hused
    have hid : row.challengeId ≠ id := by
      rintro rfl
      exact hnew e₀ hmem₀ hwrite
    exact ⟨row',by rw [Table.find_save,if_neg hid]; exact hrow',hused⟩
  · rintro id ⟨usedAt,heq⟩
    cases heq

private theorem nextCall_same {e : RepositoryEvent} (hsame : r'.challenges = r.challenges)
    (hfound : ∀ id row,e = ⟨.findChallenge id,some row⟩ → r.challenges.find id = some row)
    (hused : ∀ id,¬UsesChallenge id e) : NextCall tr r r' e := by
  constructor
  · intro row hrow
    rw [hsame] at hrow
    exact .inl ⟨row,hrow,rfl⟩
  · exact hfound
  · intro id row _ hrow hrowUsed
    exact ⟨row,by rw [hsame]; exact hrow,hrowUsed⟩
  · intro id huse
    exact absurd huse (hused id)

private theorem nextCall_consume (id : String) (usedAt : ℤ) :
    NextCall tr r { r with challenges := (RepositoryCall.consume r.challenges id usedAt).1 }
      ⟨.consumeIfUnused id usedAt,(RepositoryCall.consume r.challenges id usedAt).2⟩ := by
  have hrefused : ∀ {id' : String},
      ¬UsesChallenge id' (⟨.consumeIfUnused id usedAt,false⟩ : RepositoryEvent) := by
    rintro id' ⟨usedAt',heq⟩
    cases heq
  unfold RepositoryCall.consume
  cases hfind : r.challenges.find id with
  | none => exact nextCall_same rfl (fun _ _ heq => by cases heq) (fun _ => hrefused)
  | some row =>
    by_cases hunused : row.usedAt = none
    · simp only [hunused,if_true]
      have hid : row.challengeId = id := Table.key_of_find hfind
      constructor
      · intro row' hrow'
        rcases Table.mem_save.mp hrow' with rfl | ⟨hold,-⟩
        · exact .inl ⟨row,Table.mem_of_find hfind,rfl⟩
        · exact .inl ⟨row',hold,rfl⟩
      · intro id' row' heq
        cases heq
      · intro id' row' _ hrow' hused
        by_cases hsame : row.challengeId = id'
        · exact ⟨{ row with usedAt := some usedAt },by simp [hsame],by simp⟩
        · exact ⟨row',by simpa [hsame] using hrow',hused⟩
      · rintro id' ⟨usedAt',heq⟩
        obtain ⟨hcall,-⟩ := Sigma.mk.inj heq
        obtain rfl : id = id' := (RepositoryCall.consumeIfUnused.inj hcall).1
        exact ⟨⟨row,hfind,hunused⟩,{ row with usedAt := some usedAt },by simp [hid],by simp⟩
    · simp only [hunused,if_false]
      exact nextCall_same rfl (fun _ _ heq => by cases heq) (fun _ => hrefused)

private theorem handle_next (env : Surroundings) (c : RepositoryCall)
    (hnew : ∀ row,c = .saveChallenge row → ∀ e ∈ tr,¬WritesChallenge row.challengeId e) :
    NextCall tr r (RepositoryCall.handle ctx env r c).1
      ⟨c,(RepositoryCall.handle ctx env r c).2⟩ := by
  cases c with
  | saveChallenge row => exact nextCall_save row (hnew row rfl)
  | consumeIfUnused id usedAt => exact nextCall_consume id usedAt
  | findChallenge id =>
    refine nextCall_same rfl (fun id' row heq => ?_) (fun id' huse => ?_)
    · obtain ⟨hcall,hrow⟩ := Sigma.mk.inj heq
      obtain rfl : id = id' := RepositoryCall.findChallenge.inj hcall
      exact eq_of_heq hrow
    · obtain ⟨usedAt,heq⟩ := huse
      cases heq
  | _ =>
    refine nextCall_same rfl (fun id' row heq => ?_) (fun id' huse => ?_)
    · cases heq
    · obtain ⟨usedAt,heq⟩ := huse
      cases heq

/-- As long as no challenge is written twice, the transcript and the store keep together. -/
theorem replays_challenges (hr : Replays (RepositoryCall.handle ctx) r tr r')
    (hempty : r.challenges = .empty)
    (honce : tr.Pairwise (fun e e' => ∀ id,WritesChallenge id e → ¬WritesChallenge id e')) :
    ChallengesKept tr r' := by
  induction hr with
  | nil =>
    constructor
    · intro row hrow
      rw [hempty] at hrow
      cases hrow
    · intro id row hmem
      cases hmem
    · rintro id ⟨e,hmem,-⟩
      cases hmem
    · exact .nil
  | snoc env c hr ih =>
    obtain ⟨hbefore,-,hlast⟩ := List.pairwise_append.mp honce
    refine (ih hbefore).next (handle_next env c fun row hc e hmem hwrite => ?_)
    subst hc
    exact hlast e hmem _ (List.mem_singleton.mpr rfl) row.challengeId hwrite ⟨row,(),rfl,rfl⟩

end Store
/-- The program saw the challenge, found it in time and properly signed, and used it. -/
structure ChallengeAccepted (ctx : AuthContext) (row : Challenge) (tr : List RepositoryEvent)
    (purpose : ChallengePurpose) (deviceId publicKey signature : String) : Prop where
  purpose : row.purpose = purpose
  device : row.deviceId = deviceId
  inTime : ∃ now,⟨.now,now⟩ ∈ tr ∧ now < row.expiresAt
  signed : ctx.verifyProof row.challenge publicKey signature = true
  used : ∃ e ∈ tr,UsesChallenge row.challengeId e

/-- The program found the key with the device. -/
def RegisteredKey (tr : List RepositoryEvent) (deviceId publicKey : String) : Prop :=
  ∃ device,⟨.findDevice deviceId,some device⟩ ∈ tr ∧ device.publicKey = some publicKey

/-- What a request that succeeds has done with the challenge it presents. -/
def AuthRequest.Uses (ctx : AuthContext) (row : Challenge) (tr : List RepositoryEvent) :
    AuthRequest → Prop
  | .initializeAccount input _ =>
    ChallengeAccepted ctx row tr .WALLET_INITIALIZATION input.deviceId input.publicKey input.signature
  | .loginWithProof input _ =>
    ChallengeAccepted ctx row tr .AUTHENTICATION input.deviceId input.publicKey input.signature ∧
      RegisteredKey tr input.deviceId input.publicKey
  | .verifyFreshAuthentication token input operation resourceId =>
    ∃ session,⟨.findSession token,some session⟩ ∈ tr ∧
      ChallengeAccepted ctx row tr .FRESH_AUTHENTICATION session.deviceId input.publicKey input.signature ∧
      RegisteredKey tr session.deviceId input.publicKey ∧
      row.metadata = some ⟨operation,resourceId,ctx.sessionHash token⟩
  | _ => False

/-- The second request has used the challenge of the first one, and for what it was issued. -/
def UsedFor (ctx : AuthContext) (row : Challenge) (tr : List RepositoryEvent) :
    AuthRequest → AuthRequest → Prop
  | .requestProvisioningChallenge given _,.initializeAccount input _ =>
    given.deviceId = input.deviceId ∧
      ChallengeAccepted ctx row tr .WALLET_INITIALIZATION input.deviceId input.publicKey
        input.signature
  | .requestAuthenticationChallenge deviceId _,.loginWithProof input _ =>
    deviceId = input.deviceId ∧ RegisteredKey tr input.deviceId input.publicKey ∧
      ChallengeAccepted ctx row tr .AUTHENTICATION input.deviceId input.publicKey input.signature
  | .requestFreshAuthenticationChallenge token operation resourceId _,
      .verifyFreshAuthentication token' input operation' resourceId' =>
    token' = token ∧ operation' = jsTrim operation ∧ resourceId' = trimmedOrNull resourceId ∧
      ∃ session,⟨.findSession token,some session⟩ ∈ tr ∧
        RegisteredKey tr session.deviceId input.publicKey ∧
        ChallengeAccepted ctx row tr .FRESH_AUTHENTICATION session.deviceId input.publicKey
          input.signature
  | _,_ => False

section Programs
variable {ctx : AuthContext} {tr : List RepositoryEvent} {reply : AuthReply}

private theorem ChallengeAccepted.same {row row' : Challenge} {purpose : ChallengePurpose}
    {deviceId publicKey signature : String} (hsame : SameChallenge row row')
    (h : ChallengeAccepted ctx row' tr purpose deviceId publicKey signature) :
    ChallengeAccepted ctx row tr purpose deviceId publicKey signature := by
  rw [← hsame]
  exact ⟨h.purpose,h.device,h.inTime,h.signed,h.used⟩

theorem uses_same {row row' : Challenge} {q : AuthRequest} (hsame : SameChallenge row row')
    (h : q.Uses ctx row' tr) : q.Uses ctx row tr := by
  cases q with
  | initializeAccount input uuid => exact ChallengeAccepted.same hsame h
  | loginWithProof input uuid => exact ⟨ChallengeAccepted.same hsame h.1,h.2⟩
  | verifyFreshAuthentication token input operation resourceId =>
    obtain ⟨session,hsession,haccepted,hkey,hmetadata⟩ := h
    refine ⟨session,hsession,haccepted.same hsame,hkey,?_⟩
    rw [← hsame]
    exact hmetadata
  | _ => cases h

theorem uses_event {row : Challenge} {q : AuthRequest} (h : q.Uses ctx row tr) :
    ∃ e ∈ tr,UsesChallenge row.challengeId e := by
  cases q with
  | initializeAccount input uuid => exact ChallengeAccepted.used h
  | loginWithProof input uuid => exact h.1.used
  | verifyFreshAuthentication token input operation resourceId =>
    obtain ⟨session,-,haccepted,-⟩ := h
    exact haccepted.used
  | _ => cases h

/-- The purpose decides which request can have issued the challenge. -/
theorem usedFor_of_issued (hhash : Function.Injective ctx.sessionHash) {row : Challenge}
    {q q' : AuthRequest} (hissued : q.Issued ctx row) (huses : q'.Uses ctx row tr) :
    UsedFor ctx row tr q q' := by
  cases q' with
  | initializeAccount input uuid =>
    cases q with
    | requestProvisioningChallenge given fresh =>
      exact ⟨hissued.2.2.2.symm.trans huses.device,huses⟩
    | requestAuthenticationChallenge deviceId fresh =>
      cases hissued.2.2.1.symm.trans huses.purpose
    | requestFreshAuthenticationChallenge token operation resourceId fresh =>
      cases hissued.2.2.1.symm.trans huses.purpose
    | _ => cases hissued
  | loginWithProof input uuid =>
    obtain ⟨haccepted,hkey⟩ := huses
    cases q with
    | requestProvisioningChallenge given fresh =>
      cases hissued.2.2.1.symm.trans haccepted.purpose
    | requestAuthenticationChallenge deviceId fresh =>
      exact ⟨hissued.2.2.2.symm.trans haccepted.device,hkey,haccepted⟩
    | requestFreshAuthenticationChallenge token operation resourceId fresh =>
      cases hissued.2.2.1.symm.trans haccepted.purpose
    | _ => cases hissued
  | verifyFreshAuthentication token input operation resourceId =>
    obtain ⟨session,hsession,haccepted,hkey,hmetadata⟩ := huses
    cases q with
    | requestProvisioningChallenge given fresh =>
      cases hissued.2.2.1.symm.trans haccepted.purpose
    | requestAuthenticationChallenge deviceId fresh =>
      cases hissued.2.2.1.symm.trans haccepted.purpose
    | requestFreshAuthenticationChallenge token' operation' resourceId' fresh =>
      have hsame := Option.some.inj (hmetadata.symm.trans hissued.2.2.2)
      obtain ⟨hoperation,hresource,htoken⟩ := FreshMetadata.mk.inj hsame
      obtain rfl := hhash htoken
      exact ⟨rfl,hoperation,hresource,session,hsession,hkey,haccepted⟩
    | _ => cases hissued
  | _ => cases huses

private theorem eq_some_of_getD {key : Option String} {text : String} (hne : key.getD "" ≠ "")
    (heq : key.getD "" = text) : key = some text := by
  cases key with
  | none => exact absurd rfl hne
  | some key => exact congrArg some heq

private theorem follows_requireUnknownEmployee_bind {employeeId : Option String}
    {f : Unit → Program AuthReply}
    (h : Follows (requireUnknownEmployee employeeId >>= f) tr (.done (.ok reply))) :
    ∃ before after,tr = before++after ∧ Follows (f ()) after (.done (.ok reply)) := by
  cases employeeId with
  | none => exact ⟨[],tr,rfl,h⟩
  | some id =>
    by_cases hid : id = ""
    · rw [requireUnknownEmployee,if_pos hid] at h
      exact ⟨[],tr,rfl,h⟩
    · simp only [requireUnknownEmployee,if_neg hid,bind_assoc,follows_perform_bind,
        follows_throwIf_bind] at h
      obtain ⟨existing,tr',rfl,-,h⟩ := h
      exact ⟨[_],tr',rfl,h⟩

private theorem follows_initializeAccount {input : InitializeAccountRequest} {uuid : String}
    (hfound : ∀ row,⟨.findChallenge input.challengeId,some row⟩ ∈ tr →
      row.challengeId = input.challengeId)
    (h : Follows ((AuthRequest.initializeAccount input uuid).prog ctx) tr (.done (.ok reply))) :
    ∃ row,⟨.findChallenge input.challengeId,some row⟩ ∈ tr ∧
      (AuthRequest.initializeAccount input uuid).Uses ctx row tr := by
  simp only [AuthRequest.prog,UsersService.initializeAccount,attestDevice,bind_assoc,pure_bind,
    follows_perform_bind,follows_throwIf_bind,follows_orThrow_bind,ne_eq,not_not] at h
  obtain ⟨-,-,found,tr₁,rfl,row,rfl,hpurpose,-,now,tr₂,rfl,htime,hdevice,-,hsigned,-,result,tr₃,rfl,
    -,wallet,tr₄,rfl,-,device,tr₅,rfl,-,h⟩ := h
  obtain ⟨before,after,rfl,hrest⟩ := follows_requireUnknownEmployee_bind h
  simp only [follows_perform_bind,follows_throwIf_bind,Bool.not_eq_false] at hrest
  obtain ⟨usedAt,tr₆,rfl,consumed,tr₇,rfl,rfl,-⟩ := hrest
  have hid : row.challengeId = input.challengeId := hfound row (by simp)
  refine ⟨row,by simp,hpurpose,hdevice,⟨now,by simp,Int.not_le.mp htime⟩,?_,?_⟩
  · exact Bool.not_eq_false _ ▸ hsigned
  · exact ⟨⟨.consumeIfUnused input.challengeId usedAt,true⟩,by simp,usedAt,by rw [hid]⟩

private theorem follows_loginWithProof {input : LoginProofInput} {uuid : String}
    (h : Follows ((AuthRequest.loginWithProof input uuid).prog ctx) tr (.done (.ok reply))) :
    ∃ row,⟨.findChallenge input.challengeId,some row⟩ ∈ tr ∧
      (AuthRequest.loginWithProof input uuid).Uses ctx row tr := by
  simp only [AuthRequest.prog,AuthService.loginWithProof,openSession,bind_assoc,pure_bind,
    follows_perform_bind,follows_throwIf_bind,follows_orThrow_bind,follows_andThen_bind,
    follows_pure,parties_eq_some,ne_eq,not_or,not_not,Bool.not_eq_false,Int.not_le] at h
  simp only [↓existsAndEq,reduceCtorEq,and_self,and_false,false_and,exists_false,
    or_self,false_or,exists_and_left,exists_and_right,Option.some.injEq,true_and] at h
  obtain ⟨row,now,identity,wallets,rows,user,⟨usedAt,now',u,rfl⟩,⟨hpurpose,-,hdevice⟩,htime,-,
    ⟨-,-,-,hkey,hsame⟩,-,hsigned,-⟩ := h
  have hpublicKey := eq_some_of_getD hkey hsame
  rw [hsame] at hsigned
  refine ⟨row,by simp,⟨hpurpose,hdevice,⟨now,by simp,htime⟩,hsigned,?_⟩,rows.device,by simp,hpublicKey⟩
  exact ⟨⟨.consumeIfUnused row.challengeId usedAt,true⟩,by simp,usedAt,rfl⟩

private theorem follows_verifyFreshAuthentication {token operation : String}
    {input : FreshAuthProofInput} {resourceId : Option String}
    (h : Follows ((AuthRequest.verifyFreshAuthentication token input operation resourceId).prog ctx)
      tr (.done (.ok reply))) :
    ∃ row,⟨.findChallenge input.challengeId,some row⟩ ∈ tr ∧
      (AuthRequest.verifyFreshAuthentication token input operation resourceId).Uses ctx row tr := by
  simp only [AuthRequest.prog,AuthService.verifyFreshAuthentication,requireSession,activeSession,
    bind_assoc,pure_bind,follows_perform_bind,follows_throwIf_bind,follows_orThrow_bind,
    follows_andThen_bind,follows_pure,parties_eq_some,ne_eq,not_or,not_not,Bool.not_eq_false,
    Int.not_le] at h
  simp only [↓existsAndEq,reduceCtorEq,and_self,and_false,false_and,exists_false,
    or_self,false_or,exists_and_left,exists_and_right,Option.some.injEq,true_and] at h
  obtain ⟨session,now₁,identity,device,wallet,row,now,identity',wallets,rows,⟨usedAt,rfl⟩,-,-,
    ⟨hpurpose,-,hdevice,hmetadata⟩,htime,-,⟨-,-,hkey,hsame⟩,-,hsigned,-⟩ := h
  have hpublicKey := eq_some_of_getD hkey hsame.symm
  rw [← hsame] at hsigned
  refine ⟨row,by simp,session,by simp,⟨hpurpose,hdevice,⟨now,by simp,htime⟩,hsigned,?_⟩,
    ⟨rows.device,by simp,hpublicKey⟩,hmetadata⟩
  exact ⟨⟨.consumeIfUnused row.challengeId usedAt,true⟩,by simp,usedAt,rfl⟩

/-- A request that presents a challenge and succeeds has found it and used it. -/
theorem follows_presents {q : AuthRequest} {id : String} (hq : q.presents = some id)
    (hfound : ∀ row,⟨.findChallenge id,some row⟩ ∈ tr → row.challengeId = id)
    (h : Follows (q.prog ctx) tr (.done (.ok reply))) :
    ∃ row,⟨.findChallenge id,some row⟩ ∈ tr ∧ q.Uses ctx row tr := by
  cases q with
  | initializeAccount input uuid =>
    obtain rfl : input.challengeId = id := Option.some.inj hq
    exact follows_initializeAccount hfound h
  | loginWithProof input uuid =>
    obtain rfl : input.challengeId = id := Option.some.inj hq
    exact follows_loginWithProof h
  | verifyFreshAuthentication token input operation resourceId =>
    obtain rfl : input.challengeId = id := Option.some.inj hq
    exact follows_verifyFreshAuthentication h
  | _ => cases hq

def WritesAnyChallenge (c : RepositoryCall) : Prop := ∃ row,c = .saveChallenge row

/-- A request issues at most one challenge. -/
theorem prog_atMostOne (q : AuthRequest) : (q.prog ctx).AtMostOne WritesAnyChallenge := by
  cases q with
  | requestProvisioningChallenge input fresh =>
    simp [-bind_pure_comp,AuthRequest.prog,UsersService.requestProvisioningChallenge,attestDevice,
      WritesAnyChallenge]
  | requestAuthenticationChallenge deviceId fresh =>
    simp [-bind_pure_comp,AuthRequest.prog,AuthService.requestAuthenticationChallenge,
      WritesAnyChallenge]
  | requestFreshAuthenticationChallenge token operation resourceId fresh =>
    simp [-bind_pure_comp,AuthRequest.prog,AuthService.requestFreshAuthenticationChallenge,
      requireSession,activeSession,WritesAnyChallenge]
  | _ =>
    refine Calls.atMostOne ((AuthRequest.prog_calls _).mono ?_)
    rintro c hc ⟨row,rfl⟩
    exact hc

end Programs

section Pools
variable {ι : Type} [DecidableEq ι] {ctx : AuthContext} {requests : ι → AuthRequest}

/-- No two requests draw the same challenge id. -/
def FreshChallenges (requests : ι → AuthRequest) : Prop :=
  ∀ i j fresh fresh',(requests i).issues = some fresh → (requests j).issues = some fresh' →
    fresh.challengeId = fresh'.challengeId → i = j

/-- The requests after some of their calls. -/
def interleaved (ctx : AuthContext) (requests : ι → AuthRequest) (r : Repositories)
    (schedule : List (ι × Surroundings)) :
    Pool RepositoryCall.Answer ServiceError AuthReply ι Repositories :=
  Pool.run (RepositoryCall.handle ctx.toContext) (fun i => (requests i).prog ctx) r schedule

theorem issued_id {q : AuthRequest} {row : Challenge} (h : q.Issued ctx row) :
    ∃ fresh,q.issues = some fresh ∧ row.challengeId = fresh.challengeId := by
  cases q with
  | requestProvisioningChallenge input fresh => exact ⟨fresh,rfl,h.1⟩
  | requestAuthenticationChallenge deviceId fresh => exact ⟨fresh,rfl,h.1⟩
  | requestFreshAuthenticationChallenge token operation resourceId fresh => exact ⟨fresh,rfl,h.1⟩
  | _ => cases h

variable {r : Repositories} {c : Pool RepositoryCall.Answer ServiceError AuthReply ι Repositories}

private theorem issued_of_mem
    (hc : Pool.Sound (RepositoryCall.handle ctx.toContext) (fun i => (requests i).prog ctx) r c)
    {j : ι} {row : Challenge} {u : Unit} (hmem : (j,⟨.saveChallenge row,u⟩) ∈ c.transcript) :
    (requests j).Issued ctx row :=
  (hc.follows j).calls (AuthRequest.prog_calls _) _ (Pool.mem_projection.mpr hmem)

/-- No challenge is written twice, neither by one request nor by two. -/
private theorem written_once (hfresh : FreshChallenges requests)
    (hc : Pool.Sound (RepositoryCall.handle ctx.toContext) (fun i => (requests i).prog ctx) r c) :
    (c.transcript.map Prod.snd).Pairwise
      (fun e e' => ∀ id,WritesChallenge id e → ¬WritesChallenge id e') := by
  apply Pool.pairwise_of_projections
  · intro i
    refine ((hc.follows i).atMostOne (prog_atMostOne _)).imp ?_
    rintro e e' hone id ⟨row,u,rfl,-⟩ ⟨row',u',rfl,-⟩
    exact hone ⟨row,rfl⟩ ⟨row',rfl⟩
  · rintro i j e e' hne hi hj id ⟨row,u,rfl,hid⟩ ⟨row',u',rfl,hid'⟩
    obtain ⟨fresh,hissues,hrow⟩ := issued_id (issued_of_mem hc hi)
    obtain ⟨fresh',hissues',hrow'⟩ := issued_id (issued_of_mem hc hj)
    refine hne (hfresh i j fresh fresh' hissues hissues' ?_)
    rw [← hrow,← hrow',hid,hid']

/-- A request that presents a challenge and succeeds used one that another request had issued, and
for what it was issued. No challenge is used twice. -/
theorem challenge_used_once (hhash : Function.Injective ctx.sessionHash)
    (hfresh : FreshChallenges requests) (hempty : r.challenges = .empty)
    (schedule : List (ι × Surroundings)) :
    (∀ i id reply,(requests i).presents = some id →
      (interleaved ctx requests r schedule).progs i = .done (.ok reply) →
      ∃ j row,row.challengeId = id ∧ (requests j).Issued ctx row ∧
        (j,⟨.saveChallenge row,()⟩) ∈ (interleaved ctx requests r schedule).transcript ∧
        UsedFor ctx row (Pool.projection i (interleaved ctx requests r schedule).transcript)
          (requests j) (requests i)) ∧
    (∀ i i' id reply reply',(requests i).presents = some id → (requests i').presents = some id →
      (interleaved ctx requests r schedule).progs i = .done (.ok reply) →
      (interleaved ctx requests r schedule).progs i' = .done (.ok reply') → i = i') := by
  have hc := Pool.sound_run (h := RepositoryCall.handle ctx.toContext)
    (fun i => (requests i).prog ctx) r schedule
  change Pool.Sound _ _ _ (interleaved ctx requests r schedule) at hc
  generalize interleaved ctx requests r schedule = c at hc ⊢
  have hkept := replays_challenges hc.replays hempty (written_once hfresh hc)
  have hevent : ∀ {i e},e ∈ Pool.projection i c.transcript → e ∈ c.transcript.map Prod.snd :=
    fun hmem => List.mem_map_of_mem (f := Prod.snd) (Pool.mem_projection.mp hmem)
  have huses : ∀ i id reply,(requests i).presents = some id → c.progs i = .done (.ok reply) →
      ∃ row,⟨.findChallenge id,some row⟩ ∈ Pool.projection i c.transcript ∧
        (requests i).Uses ctx row (Pool.projection i c.transcript) := by
    intro i id reply hpresents hdone
    have hfollows := hc.follows i
    rw [hdone] at hfollows
    exact follows_presents hpresents (fun row hmem => (hkept.found id row (hevent hmem)).1) hfollows
  constructor
  · intro i id reply hpresents hdone
    obtain ⟨row,hmem,hrow⟩ := huses i id reply hpresents hdone
    obtain ⟨hid,row₀,u,hwritten,hsame⟩ := hkept.found id row (hevent hmem)
    obtain ⟨⟨j,e⟩,hj,rfl⟩ := List.mem_map.mp hwritten
    have hissued := issued_of_mem hc hj
    exact ⟨j,row₀,hsame.id_eq.trans hid,hissued,hj,
      usedFor_of_issued hhash hissued (uses_same hsame hrow)⟩
  · intro i i' id reply reply' hpresents hpresents' hdone hdone'
    obtain ⟨row,hmem,hrow⟩ := huses i id reply hpresents hdone
    obtain ⟨row',hmem',hrow'⟩ := huses i' id reply' hpresents' hdone'
    obtain ⟨e,he,huse⟩ := uses_event hrow
    obtain ⟨e',he',huse'⟩ := uses_event hrow'
    rw [(hkept.found id row (hevent hmem)).1] at huse
    rw [(hkept.found id row' (hevent hmem')).1] at huse'
    by_contra hne
    -- Two uses of the challenge would be two events of the transcript.
    have honce := List.pairwise_map.mp hkept.once
    have hsymm : Std.Symm (fun a b : ι × RepositoryEvent =>
        ∀ id,UsesChallenge id a.2 → ¬UsesChallenge id b.2) :=
      ⟨fun a b hab id hb ha => hab id ha hb⟩
    have hpairs := honce.forall (Pool.mem_projection.mp he) (Pool.mem_projection.mp he')
      (fun heq => hne (Prod.mk.inj heq).1)
    exact hpairs id huse huse'

end Pools
section Prototype

/-- The signature of the prototype quotes the text and the key. -/
def prototypeAuth : AuthContext :=
  { evm := false
    walletMatches := fun _ _ => false
    deviceOrder := id
    walletOrder := id
    now := "2025-11-18T09:00:00.000Z"
    canonicalKey := fun key => key.length == 128
    verifyProof := fun text key signature => signature == text++"/"++key
    hashCredential := fun credential => "sha256:"++credential
    sessionHash := fun token => "sha256:"++token
    ttl := 3600
    production := false }

theorem prototypeAuth_sessionHash : Function.Injective prototypeAuth.sessionHash :=
  fun _ _ h => String.append_right_inj _ |>.mp h

/-- An engineer with a managed device. -/
def engineerRepositories : Repositories :=
  { identities := ⟨[⟨"DID:BEL:ENG",some "E-1",some .ENGINEER,some "RADAR",.ACTIVE⟩],by decide⟩
    users := ⟨[⟨"E-1","DID:BEL:ENG","0xe1",.ENGINEER,"RADAR",.ACTIVE⟩],by decide⟩
    devices := ⟨[⟨"DEV-1","DID:BEL:ENG",.ACTIVE,"2025-11-17T09:00:00.000Z",none,none,some "key-1"⟩],
      by decide⟩
    wallets := ⟨[⟨"0xe1","DID:BEL:ENG","DEV-1",.ACTIVE,none,none,none,some "key-1"⟩],by decide⟩ }

/-- Two logins with the answer to one challenge. -/
def raceRequests : Fin 3 → AuthRequest
  | 0 => .requestAuthenticationChallenge "DEV-1" ⟨"challenge-1","nonce-1"⟩
  | 1 => .loginWithProof ⟨"DEV-1","challenge-1","key-1","nonce-1/key-1"⟩ "uuid-1"
  | 2 => .loginWithProof ⟨"DEV-1","challenge-1","key-1","nonce-1/key-1"⟩ "uuid-2"

def turn (i : Fin 3) (now : ℤ) : Fin 3 × Surroundings := (i,⟨now,⟨true,true,true⟩⟩)

/-- The logins take turns and read the challenge before either of them uses it. -/
def raceSchedule : List (Fin 3 × Surroundings) :=
  (List.replicate 5 (turn 0 1000))++(List.replicate 10 [turn 1 2000,turn 2 2000]).flatten

theorem raceRequests_fresh : FreshChallenges raceRequests := by
  intro i j fresh fresh' hi hj _
  match i,j with
  | 0,0 => rfl
  | 0,1 => cases hj
  | 0,2 => cases hj
  | 1,_ => cases hi
  | 2,_ => cases hi

/-- One login succeeds and the other one is told that the challenge has been used. -/
theorem challenge_used_once_race :
    ∃ reply,(interleaved prototypeAuth raceRequests engineerRepositories raceSchedule).progs 1 =
        .done (.ok reply) ∧
      ((interleaved prototypeAuth raceRequests engineerRepositories raceSchedule).progs 2).ended =
        some false ∧
      ∃ j row,row.challengeId = "challenge-1" ∧ (raceRequests j).Issued prototypeAuth row ∧
        UsedFor prototypeAuth row (Pool.projection 1
          (interleaved prototypeAuth raceRequests engineerRepositories raceSchedule).transcript)
          (raceRequests j) (raceRequests 1) := by
  obtain ⟨reply,hreply⟩ := ended_of_true (p :=
    (interleaved prototypeAuth raceRequests engineerRepositories raceSchedule).progs 1)
    (by decide +kernel)
  obtain ⟨j,row,hid,hissued,-,hused⟩ := (challenge_used_once prototypeAuth_sessionHash
    raceRequests_fresh (r := engineerRepositories) rfl raceSchedule).1 1 "challenge-1" reply rfl hreply
  exact ⟨reply,hreply,by decide +kernel,j,row,hid,hissued,hused⟩

end Prototype

end BelLedger
