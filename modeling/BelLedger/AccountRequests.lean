import BelLedger.AccountsService

/-! # Requests to AuthServiceImpl and UsersServiceImpl, alone and one after another -/
namespace BelLedger
open TransitionRuns EffectPrograms Prog UsersService AuthService

/-- A request that only the repositories take part in, with the random strings it will draw. -/
inductive AuthRequest
  | requestProvisioningChallenge (input : ProvisioningChallengeRequest) (fresh : FreshChallenge)
  | requestAuthenticationChallenge (deviceId : String) (fresh : FreshChallenge)
  | requestFreshAuthenticationChallenge (token operation : String) (resourceId : Option String)
      (fresh : FreshChallenge)
  | initializeAccount (input : InitializeAccountRequest) (uuid : String)
  | loginWithProof (input : LoginProofInput) (uuid : String)
  | verifyFreshAuthentication (token : String) (input : FreshAuthProofInput) (operation : String)
      (resourceId : Option String)
  | login (deviceCredential : String) (uuid : String)
  | validateSession (token : String)
  | logout (token : String)

inductive AuthReply
  | challenge (row : Challenge)
  | registration (rows : Registration)
  | signedIn (user : User) (token : String)
  | session (user : Option User)
  | done
  deriving DecidableEq

namespace AuthRequest

def prog (ctx : AuthContext) : AuthRequest → Program AuthReply
  | requestProvisioningChallenge input fresh =>
    UsersService.requestProvisioningChallenge input fresh >>= fun row => pure (.challenge row)
  | requestAuthenticationChallenge deviceId fresh =>
    AuthService.requestAuthenticationChallenge deviceId fresh >>= fun row => pure (.challenge row)
  | requestFreshAuthenticationChallenge token operation resourceId fresh =>
    AuthService.requestFreshAuthenticationChallenge ctx token operation resourceId fresh >>=
      fun row => pure (.challenge row)
  | initializeAccount input uuid =>
    UsersService.initializeAccount ctx input uuid >>= fun rows => pure (.registration rows)
  | loginWithProof input uuid =>
    AuthService.loginWithProof ctx input uuid >>= fun reply => pure (.signedIn reply.1 reply.2)
  | verifyFreshAuthentication token input operation resourceId =>
    AuthService.verifyFreshAuthentication ctx token input operation resourceId >>=
      fun _ => pure .done
  | login deviceCredential uuid =>
    AuthService.login ctx deviceCredential uuid >>= fun reply => pure (.signedIn reply.1 reply.2)
  | validateSession token =>
    AuthService.validateSession ctx token >>= fun user => pure (.session user)
  | logout token => AuthService.logout token >>= fun _ => pure .done

/-- The challenge that a request may issue. -/
def issues : AuthRequest → Option FreshChallenge
  | requestProvisioningChallenge _ fresh => some fresh
  | requestAuthenticationChallenge _ fresh => some fresh
  | requestFreshAuthenticationChallenge _ _ _ fresh => some fresh
  | _ => none

/-- The challenge that a request presents. -/
def presents : AuthRequest → Option String
  | initializeAccount input _ => some input.challengeId
  | loginWithProof input _ => some input.challengeId
  | verifyFreshAuthentication _ input _ _ => some input.challengeId
  | _ => none

/-- The rows that a request may write as new challenges. -/
def Issued (ctx : AuthContext) : AuthRequest → Challenge → Prop
  | requestProvisioningChallenge input fresh,row =>
    row.challengeId = fresh.challengeId ∧ row.challenge = fresh.challenge ∧
      row.purpose = .WALLET_INITIALIZATION ∧ row.deviceId = input.deviceId
  | requestAuthenticationChallenge deviceId fresh,row =>
    row.challengeId = fresh.challengeId ∧ row.challenge = fresh.challenge ∧
      row.purpose = .AUTHENTICATION ∧ row.deviceId = deviceId
  | requestFreshAuthenticationChallenge token operation resourceId fresh,row =>
    row.challengeId = fresh.challengeId ∧ row.challenge = fresh.challenge ∧
      row.purpose = .FRESH_AUTHENTICATION ∧
      row.metadata = some ⟨jsTrim operation,trimmedOrNull resourceId,ctx.sessionHash token⟩
  | _,_ => False

/-- The token that a request hands out when it succeeds. -/
def tokenOf : AuthRequest → Option String
  | loginWithProof _ uuid => some ("bel_"++uuid)
  | login _ uuid => some ("bel_"++uuid)
  | _ => none

/-- What a request may do to the repositories; reading is always allowed. -/
def MayCall (ctx : AuthContext) (q : AuthRequest) : RepositoryCall → Prop
  | .saveIdentity row =>
    ∃ input uuid,q = initializeAccount input uuid ∧ row = (newRegistration ctx.now input uuid).identity
  | .saveDevice row =>
    ∃ input uuid,q = initializeAccount input uuid ∧ row = (newRegistration ctx.now input uuid).device
  | .saveWallet row =>
    ∃ input uuid,q = initializeAccount input uuid ∧ row = (newRegistration ctx.now input uuid).wallet
  | .saveSession row => q.tokenOf = some row.token
  | .deleteSession token => q = validateSession token ∨ q = logout token
  | .saveChallenge row => q.Issued ctx row
  | .consumeIfUnused _ _ => q.presents ≠ none
  | _ => True

section Calls
variable {ctx : AuthContext}

private theorem calls_requireUnknownEmployee_bind {α : Type} (allowed : RepositoryCall → Prop)
    {employeeId : Option String} {f : Unit → Program α}
    (hallowed : ∀ id,allowed (.findIdentityByEmployeeId id)) :
    (requireUnknownEmployee employeeId >>= f).Calls allowed ↔ (f ()).Calls allowed := by
  cases employeeId with
  | none => exact Iff.rfl
  | some id =>
    by_cases hid : id = ""
    · simp [requireUnknownEmployee,hid]
    · simp only [requireUnknownEmployee,if_neg hid,bind_assoc,calls_perform_bind,
        calls_throwIf_bind]
      exact ⟨fun h => h.2 none (by simp),fun h => ⟨hallowed id,fun _ _ => h⟩⟩

/-- A session without its user is deleted. -/
private theorem sessionEnd_calls {token : String} (found : Option User) :
    Prog.Calls (MayCall ctx (validateSession token))
      ((match found with
        | some user => pure (some user)
        | none => do
          Repository.deleteSession token
          pure none) >>= fun user => pure (AuthReply.session user) : Program AuthReply) := by
  cases found with
  | some user => trivial
  | none => simp [-bind_pure_comp,MayCall]

private theorem validateSession_calls (token : String) :
    ((validateSession token).prog ctx).Calls ((validateSession token).MayCall ctx) := by
  simp only [prog,AuthService.validateSession,bind_assoc,calls_perform_bind]
  refine ⟨trivial,fun session => ?_⟩
  cases session with
  | none => trivial
  | some session =>
    simp only [bind_assoc,calls_perform_bind]
    refine ⟨trivial,fun now => ?_⟩
    by_cases hexpired : session.expiresAt ≤ now
    · simp [-bind_pure_comp,hexpired,MayCall]
    · simp only [hexpired,if_false,bind_assoc,calls_perform_bind,calls_andThen_bind]
      refine ⟨trivial,fun identity => ⟨trivial,fun device => ⟨trivial,fun wallet => ?_⟩⟩⟩
      exact ⟨fun _ => sessionEnd_calls _,fun a _ => ⟨trivial,fun user => sessionEnd_calls _⟩⟩

/-- No request does anything else to the repositories. -/
theorem prog_calls (q : AuthRequest) : (q.prog ctx).Calls (q.MayCall ctx) := by
  cases q with
  | requestProvisioningChallenge input fresh =>
    simp [-bind_pure_comp,prog,UsersService.requestProvisioningChallenge,attestDevice,MayCall,Issued]
  | requestAuthenticationChallenge deviceId fresh =>
    simp [-bind_pure_comp,prog,AuthService.requestAuthenticationChallenge,MayCall,Issued]
  | requestFreshAuthenticationChallenge token operation resourceId fresh =>
    simp [-bind_pure_comp,prog,AuthService.requestFreshAuthenticationChallenge,requireSession,
      activeSession,MayCall,Issued]
  | initializeAccount input uuid =>
    simp only [prog,UsersService.initializeAccount,attestDevice,bind_assoc,pure_bind,
      calls_perform_bind,calls_throwIf_bind,calls_orThrow_bind,
      calls_requireUnknownEmployee_bind (MayCall ctx _) (fun _ => trivial)]
    simp [MayCall,presents]
  | loginWithProof input uuid =>
    simp [-bind_pure_comp,prog,AuthService.loginWithProof,openSession,MayCall,tokenOf,presents]
  | verifyFreshAuthentication token input operation resourceId =>
    simp [-bind_pure_comp,prog,AuthService.verifyFreshAuthentication,requireSession,activeSession,
      MayCall,presents]
  | login deviceCredential uuid =>
    simp [-bind_pure_comp,prog,AuthService.login,openSession,MayCall,tokenOf]
  | validateSession token => exact validateSession_calls token
  | logout token => simp [-bind_pure_comp,prog,AuthService.logout,MayCall]

end Calls
end AuthRequest

/-- A request that meets no other one. -/
def serveAuth (ctx : AuthContext) (r : Repositories) (q : AuthRequest) (env : ℕ → Surroundings) :
    Repositories × Except ServiceError AuthReply :=
  (q.prog ctx).run (RepositoryCall.handle ctx.toContext) env r

end BelLedger
