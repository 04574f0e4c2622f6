import BelLedger.AccessSoundness
import BelLedger.RoleEffects

/-!
# The stored role and the roles on chain

The service stores one role for an identity, RoleRegistry a set of them. A new role for an ACTIVE
identity is added on chain and the old one is never taken away, so the two agree only as long as
RoleRegistry executes no such assignment.
-/
namespace BelLedger
open CheckedCalls TransitionRuns KeyedTables UsersService

variable {H : Type} [Keccak H] [DecidableEq H]

/-- On chain the identity holds its role and no other. -/
def RoleMatches (w : World H) (identity : Identity) : Prop :=
  ∃ role,identity.role = some role ∧
    RoleRegistry.rolesOfIdentity w (utf8 identity.identityId) = role.bit

def RolesAgree (identities : Table Identity.identityId) (w : World H) : Prop :=
  ∀ row ∈ identities.rows,row.status = .ACTIVE → RoleMatches w row

/-- An ACTIVE admin whose wallet is ACTIVE on chain can give any ACTIVE identity any role it does not
have: RoleRegistry does not reject the call. -/
def Reassignable (identities : Table Identity.identityId) (w : World H) : Prop :=
  ∀ (env : Env) (actor target : Identity) (wallet : Address) (role : Role),
    actor ∈ identities.rows → actor.status = .ACTIVE → actor.role = some .ADMIN →
    (w.identity.wallets env.sender).status = .ACTIVE →
    IdentityRegistry.identityOf w.identity env.sender = utf8 actor.identityId →
    target ∈ identities.rows → target.status = .ACTIVE → target.role ≠ some role →
    (w.identity.wallets wallet).status ≠ .NONE →
    IdentityRegistry.identityOf w.identity wallet = utf8 target.identityId →
    ∃ w',exec w ⟨env,.assignRole wallet role⟩ = .ok w'

/-- Identity ids are spelled as DIDs: trimmed, and not addresses. -/
def NamedByDids (P : Platform) (identities : Table Identity.identityId) : Prop :=
  ∀ row ∈ identities.rows,Trimmed row.identityId ∧ P.parseAddress row.identityId = none

/-- The planned transaction is mined and succeeds. -/
def executes (P : Platform) (w : World H) (e : Envelope) (d : Delivery) : Bool :=
  match EvmAdapter.prepare P w e d,d.fate with
  | .ok tx,.mined => (exec (attemptAll exec w d.interference) tx).toOption.isSome
  | _,_ => false

/-- RoleRegistry executes no assignment for an ACTIVE identity, and an identity that is activated
holds no role on chain, or exactly its own. -/
def UsersEvent.KeepsSingleRole (P : Platform) (s : UsersSystem H) : UsersEvent → Prop
  | .assignRole _ actorId userId role d =>
    match assignRoleCheck s.repositories actorId userId role with
    | .ok (actor,target,role) =>
      target.status = .ACTIVE → s.repositories.findByIdentityId target.identityId ≠ none →
        executes P s.chain
          (envelope s.repositories .ROLE_ASSIGN actor (assignRolePayload target role)) d = false
    | .error _ => True
  | .activateRegistration ctx actorId userId _ _ _ =>
    match activateCheck ctx s.repositories actorId userId with
    | .ok (_,g) =>
      RoleRegistry.rolesOfIdentity s.chain (utf8 g.identity.identityId) = 0 ∨
        some (RoleRegistry.rolesOfIdentity s.chain (utf8 g.identity.identityId)) =
          g.identity.role.map Role.bit
    | .error _ => True
  | .external _ => True

/-- The service runs on a chain, roles change there only through it, and every submission learns its outcome. -/
def UsersEvent.Fair : UsersEvent → Prop
  | .assignRole ctx _ _ _ d => ctx.evm = true ∧ d.Fair
  | .activateRegistration ctx _ _ created roleAssigned walletActivated =>
    ctx.evm = true ∧ created.Fair ∧ roleAssigned.Fair ∧ walletActivated.Fair
  | .external tx => tx.call.target ≠ some .roles

section Agreement
variable {identities : Table Identity.identityId} {w w' : World H} {row : Identity}

/-- A row of one identity is written while the roles of that identity change on chain. -/
theorem RolesAgree.save (h : RolesAgree identities w)
    (hchange : RoleChange (utf8 row.identityId) w w')
    (hrow : row.status = .ACTIVE → RoleMatches w' row) : RolesAgree (identities.save row) w' := by
  intro x hx hactive
  rcases Table.mem_save.mp hx with rfl | ⟨hold,hid⟩
  · exact hrow hactive
  · obtain ⟨role,hrole,hmask⟩ := h x hold hactive
    refine ⟨role,hrole,?_⟩
    rw [hchange.others _ (fun he => hid (utf8_injective he))]
    exact hmask

/-- The roles of an identity that is not ACTIVE do not matter. -/
theorem RolesAgree.inactive (h : RolesAgree identities w) (hmem : row ∈ identities.rows)
    (hrow : row.status ≠ .ACTIVE) (hchange : RoleChange (utf8 row.identityId) w w') :
    RolesAgree identities w' := by
  intro x hx hactive
  obtain ⟨role,hrole,hmask⟩ := h x hx hactive
  refine ⟨role,hrole,?_⟩
  have hid : x.identityId ≠ row.identityId := by
    intro he
    have hsame := Table.find_of_mem hx
    rw [he,Table.find_of_mem hmem] at hsame
    exact hrow (Option.some.inj hsame ▸ hactive)
  rw [hchange.others _ (fun he => hid (utf8_injective he))]
  exact hmask

theorem RolesAgree.kept (h : RolesAgree identities w) (hkeeps : KeepsRoles w w') :
    RolesAgree identities w' := by
  intro x hx hactive
  obtain ⟨role,hrole,hmask⟩ := h x hx hactive
  exact ⟨role,hrole,(hkeeps.mask _).trans hmask⟩

theorem NamedByDids.save {P : Platform} (h : NamedByDids P identities) (hmem : row ∈ identities.rows)
    {row' : Identity} (hid : row'.identityId = row.identityId) :
    NamedByDids P (identities.save row') := by
  intro x hx
  rcases Table.mem_save.mp hx with rfl | ⟨hold,-⟩
  · rw [hid]
    exact h row hmem
  · exact h x hold

end Agreement

/-- What every step that meets the condition keeps. -/
structure Agreement (P : Platform) (s : UsersSystem H) : Prop where
  reachable : Reachable s.chain
  named : NamedByDids P s.repositories.identities
  agree : RolesAgree s.repositories.identities s.chain

section Steps
variable {P : Platform} {s : UsersSystem H} {ctx : Context} {actorId userId : String}

/-- A successful assignment was executed, and added a role that the identity did not hold. -/
private theorem submit_assignment (hinj : Function.Injective (keccak256 : Bytes → H))
    {r : Repositories} {w w' : World H} (hevm : ctx.evm = true) (hw : Reachable w)
    {actor target : Identity} (hdid : Trimmed target.identityId ∧ P.parseAddress target.identityId = none) {role : Role}
    {d : Delivery} (hd : d.Fair)
    (h : submit P ctx r w .ROLE_ASSIGN actor (assignRolePayload target role) d = (w',.ok ())) :
    executes P w (envelope r .ROLE_ASSIGN actor (assignRolePayload target role)) d = true ∧
    RoleChange (utf8 target.identityId) w w' ∧
    (RoleRegistry.rolesOfIdentity w (utf8 target.identityId)).has role = false ∧
    RoleRegistry.rolesOfIdentity w' (utf8 target.identityId) =
      RoleRegistry.rolesOfIdentity w (utf8 target.identityId) ||| role.bit := by
  obtain ⟨⟨env,call⟩,hmined,hprepare,hexec⟩ := submit_succeeds hevm h
  have hexecutes : executes P w
      (envelope r .ROLE_ASSIGN actor (assignRolePayload target role)) d = true := by
    simp only [executes,hprepare,hmined,hexec]
    rfl
  obtain ⟨a,hlookup,hcall⟩ := plan_assignRole_identity hdid.1 hdid.2 hprepare
  obtain rfl : call = .assignRole a role := hcall
  have hbefore := attemptAll_keepsRoles hw hd.foreign
  obtain ⟨hregistered,hsame⟩ := EvmAdapter.lookups_did hinj hw.identity hlookup
  have hhere := hbefore.wallets a hregistered
  obtain ⟨hchange,hbit,hmask⟩ :=
    exec_assignRole hinj hbefore.reachable hexec hhere.1 (hhere.2.trans hsame)
  rw [hbefore.mask] at hbit hmask
  exact ⟨hexecutes,(hbefore.change _).trans hchange,hbit,hmask⟩

private theorem Agreement.assignRole (hinj : Function.Injective (keccak256 : Bytes → H))
    (h : Agreement P s) (hevm : ctx.evm = true) {role : String} {d : Delivery} (hd : d.Fair)
    (hkeeps : (UsersEvent.assignRole ctx actorId userId role d).KeepsSingleRole P s) :
    Agreement P (UsersService.assignRole P ctx s actorId userId role d).1 := by
  simp only [UsersEvent.KeepsSingleRole] at hkeeps
  unfold UsersService.assignRole
  split
  · exact h
  · rename_i actor target found hcheck
    rw [hcheck] at hkeeps
    have hmem := assignRoleCheck_target hcheck
    dsimp only
    split
    · split
      · exact h
      · rename_i hpending
        have hstatus : target.status = .PENDING := not_not.mp hpending
        refine ⟨h.reachable,h.named.save hmem rfl,
          h.agree.save ((KeepsRoles.refl h.reachable).change _) fun hactive => ?_⟩
        rw [show target.status = .ACTIVE from hactive] at hstatus
        cases hstatus
    · rename_i user huser
      split
      · rename_i chain e hsubmit
        have hsame := submit_fails h.reachable hd hsubmit
        exact ⟨hsame.reachable,h.named,h.agree.kept hsame⟩
      · rename_i chain hsubmit
        obtain ⟨hexecutes,hchange,-⟩ :=
          submit_assignment hinj hevm h.reachable (h.named target hmem) hd hsubmit
        refine ⟨hchange.reachable,h.named.save hmem rfl,h.agree.save hchange fun hactive => ?_⟩
        have hnot := hkeeps hactive (by rw [huser]; simp)
        rw [hexecutes] at hnot
        cases hnot

private theorem Agreement.activateRegistration (hinj : Function.Injective (keccak256 : Bytes → H))
    (hstrict : P.Strict) (h : Agreement P s) (hevm : ctx.evm = true)
    {created roleAssigned walletActivated : Stage}
    (hcreated : created.Fair) (hassigned : roleAssigned.Fair) (hactivated : walletActivated.Fair)
    (hkeeps : (UsersEvent.activateRegistration ctx actorId userId created roleAssigned
      walletActivated).KeepsSingleRole P s) :
    Agreement P (UsersService.activateRegistration P ctx s actorId userId created roleAssigned
      walletActivated).1 := by
  simp only [UsersEvent.KeepsSingleRole] at hkeeps
  unfold UsersService.activateRegistration
  split
  · exact h
  · rename_i actor g hcheck
    simp only [hcheck] at hkeeps
    obtain ⟨hmem,hpending,role,hrole⟩ := activateCheck_registration hcheck
    have htrim := (h.named g.identity hmem).1
    split
    · rename_i chain e hchain
      have hchange := (activateOnChain_spec hinj hstrict hevm h.reachable htrim hrole hcreated hassigned
        hactivated hchain).1
      exact ⟨hchange.reachable,h.named,h.agree.inactive hmem (by rw [hpending]; decide) hchange⟩
    · rename_i chain hchain
      obtain ⟨hchange,hmask⟩ := activateOnChain_spec hinj hstrict hevm h.reachable htrim hrole hcreated
        hassigned hactivated hchain
      refine ⟨hchange.reachable,h.named.save hmem rfl,
        h.agree.save hchange fun _ => ⟨role,hrole,hmask rfl ?_⟩⟩
      rw [hrole] at hkeeps
      exact hkeeps.imp_right Option.some.inj

private theorem Agreement.step (hinj : Function.Injective (keccak256 : Bytes → H))
    (hstrict : P.Strict) (h : Agreement P s) (e : UsersEvent) (hkeeps : e.KeepsSingleRole P s)
    (hfair : e.Fair) : Agreement P (UsersSystem.step P s e) := by
  cases e with
  | assignRole ctx actorId userId role d => exact h.assignRole hinj hfair.1 hfair.2 hkeeps
  | activateRegistration ctx actorId userId created roleAssigned walletActivated =>
    obtain ⟨hevm,hcreated,hassigned,hactivated⟩ := hfair
    exact h.activateRegistration hinj hstrict hevm hcreated hassigned hactivated hkeeps
  | external tx =>
    have hsame := attempt_keepsRoles h.reachable hfair
    exact ⟨hsame.reachable,h.named,h.agree.kept hsame⟩

/-- An assignment that succeeds for an ACTIVE identity leaves it with two roles on chain. -/
private theorem assignRole_disagrees (hinj : Function.Injective (keccak256 : Bytes → H))
    (h : Agreement P s) (hevm : ctx.evm = true) {role : String} {d : Delivery} (hd : d.Fair) {actor target : Identity}
    {found : Role} (hcheck : assignRoleCheck s.repositories actorId userId role =
      .ok (actor,target,found)) (hactive : target.status = .ACTIVE) {user : User}
    (hok : (UsersService.assignRole P ctx s actorId userId role d).2 = .ok user) :
    ¬RolesAgree (UsersService.assignRole P ctx s actorId userId role d).1.repositories.identities
      (UsersService.assignRole P ctx s actorId userId role d).1.chain := by
  have hmem := assignRoleCheck_target hcheck
  unfold UsersService.assignRole at hok ⊢
  simp only [hcheck] at hok ⊢
  cases hfind : s.repositories.findByIdentityId target.identityId with
  | none => simp [hfind,hactive] at hok
  | some row =>
    simp only [hfind] at hok ⊢
    cases hsubmit : submit P ctx s.repositories s.chain .ROLE_ASSIGN actor
        (assignRolePayload target found) d with
    | mk chain result =>
      rw [hsubmit] at hok
      cases result with
      | error e => cases hok
      | ok u =>
        obtain ⟨-,-,hbit,hmask⟩ :=
          submit_assignment hinj hevm h.reachable (h.named target hmem) hd hsubmit
        obtain ⟨old,-,hold⟩ := h.agree target hmem hactive
        intro hagree
        obtain ⟨new,hnew,hsingle⟩ := hagree _ (Table.mem_save.mpr (.inl rfl)) hactive
        obtain rfl : found = new := Option.some.inj hnew
        -- Both the old role and the new one are bits of a mask that has one bit.
        have hheld := congrArg (fun m : Mask => m.has old) (hmask.symm.trans hsingle)
        simp only [hold,Mask.or_bit_has,Mask.bit_has,decide_true,Bool.true_or] at hheld
        obtain rfl : found = old := of_decide_eq_true hheld.symm
        rw [hold,Mask.bit_has,decide_eq_true rfl] at hbit
        cases hbit

end Steps

section Reassignment
variable {w w' : World H}

private theorem roles_zero_step {tx : Tx} (hd : Deployed w) (hzero : w.roles.roles 0 = 0)
    (hs : exec w tx = .ok w') : w'.roles.roles 0 = 0 := by
  by_cases htx : tx.call.target = some .roles
  · obtain ⟨env,call⟩ := tx
    cases call with
    | wire r a b c => exact absurd hs (exec_wire_ne_ok hd)
    | assignRole identity role =>
      obtain ⟨-,hkey,-,log,rfl,-⟩ := assignRole_cases hs
      simpa [Function.update_of_ne hkey.symm] using hzero
    | revokeRole identity role =>
      obtain ⟨-,hkey,-,-,log,rfl,-⟩ := revokeRole_cases hs
      simpa [Function.update_of_ne hkey.symm] using hzero
    | _ => simp [Call.target] at htx
  · rw [(exec_frame hd hs).roles htx]
    exact hzero

/-- Nobody holds a role under the key zero, which stands for no identity. -/
private theorem roles_zero (h : Reachable w) : w.roles.roles 0 = 0 := by
  obtain ⟨hist,h⟩ := h
  refine (h.invariant (I := fun w => w.roles.roles 0 = 0) ?_ ?_).2
  · intro d w hgen
    rw [hgen.roles,Function.update_of_ne hgen.key_ne_zero.symm]
  · exact fun w tx w' hd hzero hs => roles_zero_step hd hzero hs

theorem RolesAgree.reassignable {identities : Table Identity.identityId}
    (h : RolesAgree identities w) (hw : Reachable w) : Reassignable identities w := by
  intro env actor target wallet role hactor hactorActive hadmin hsender hsenderDid htarget
    htargetActive hother hregistered hwalletDid
  obtain ⟨held,hheld,hmask⟩ := h target htarget htargetActive
  have hkey := hw.identity.keyOf_registered hregistered
  rw [hwalletDid] at hkey
  have hauth : Authorised w .roles env.sender BelRoles.MANAGE_ROLES := by
    refine ⟨hw.deployed.wired .roles,hsender,?_⟩
    obtain ⟨admin,hrole,hbits⟩ := h actor hactor hactorActive
    obtain rfl : admin = .ADMIN := Option.some.inj (hrole.symm.trans hadmin)
    rw [rolesOf_active hw.identity hsender,hsenderDid,hbits]
    decide
  have hnonzero : (keccak256 (utf8 target.identityId) : H) ≠ 0 := by
    intro he
    unfold RoleRegistry.rolesOfIdentity at hmask
    rw [he,roles_zero hw] at hmask
    have hbit := congrArg (fun m : Mask => m.has held) hmask
    simp only [Mask.zero_has,Mask.bit_has,decide_true] at hbit
    cases hbit
  have hnew : w.roles.roles (keccak256 (utf8 target.identityId)) &&& role.bit = 0 := by
    rw [Mask.and_bit_eq_zero]
    unfold RoleRegistry.rolesOfIdentity at hmask
    rw [hmask,Mask.bit_has]
    exact decide_eq_false fun he => hother (he ▸ hheld)
  exact assignRole_succeeds hw.deployed hauth (hkey ▸ hnonzero) (by rw [hkey]; exact hnew)
    (hw.identity.identityOf_length hregistered)

end Reassignment

/-- Every assignment that succeeds for an ACTIVE identity makes the store and the chain disagree. -/
def ReassignmentDisagrees (P : Platform) (s : UsersSystem H) : Prop :=
  ∀ (ctx : Context) (actorId userId role : String) (d : Delivery) (actor target : Identity)
    (found : Role) (user : User),ctx.evm = true → d.Fair →
    assignRoleCheck s.repositories actorId userId role = .ok (actor,target,found) →
    target.status = .ACTIVE → (assignRole P ctx s actorId userId role d).2 = .ok user →
    ¬RolesAgree (assignRole P ctx s actorId userId role d).1.repositories.identities
      (assignRole P ctx s actorId userId role d).1.chain

/-- As long as no ACTIVE identity is given another role, and no identity is activated over one, an
ACTIVE identity has on chain exactly the role that is stored for it, and could be given any other.
The first such assignment ends the agreement. -/
theorem roles_agree_without_reassignment (hinj : Function.Injective (keccak256 : Bytes → H))
    {P : Platform} (hstrict : P.Strict) {s : UsersSystem H} (hs : Reachable s.chain)
    (hnamed : NamedByDids P s.repositories.identities)
    (hagree : RolesAgree s.repositories.identities s.chain) (events : List UsersEvent)
    (hfair : ∀ e ∈ events,e.Fair)
    (hkeeps : Throughout (UsersSystem.step P) (fun s e => e.KeepsSingleRole P s) s events) :
    RolesAgree (UsersSystem.run P s events).repositories.identities
      (UsersSystem.run P s events).chain ∧
    Reassignable (UsersSystem.run P s events).repositories.identities
      (UsersSystem.run P s events).chain ∧
    ReassignmentDisagrees P (UsersSystem.run P s events) := by
  have hend : Agreement P (UsersSystem.run P s events) := by
    refine (hkeeps.and hfair).invariant (I := Agreement P) ?_ ⟨hs,hnamed,hagree⟩
    exact fun t e ht he => ht.step hinj hstrict e he.1 he.2
  refine ⟨hend.agree,hend.agree.reassignable hend.reachable,?_⟩
  intro ctx actorId userId role d actor target found user hevm hd hcheck hactive hok
  exact assignRole_disagrees hinj hend hevm hd hcheck hactive hok

section Prototype

def adminWallet : String := "0x00000000000000000000000000000000000000ad"
def engineerWallet : String := "0x00000000000000000000000000000000000000e1"
def auditorWallet : String := "0x7e5f4552091a69125d5dfcb7b8c2659029395bdf"

/-- The public key of the private key one, whose address is `auditorWallet`. -/
def auditorKey : String :=
  "0x79be667ef9dcbbac55a06295ce870b07029bfcdb2dce28d959f2815b16f81798"++
    "483ada7726a3c4655da4fbfc0e1108a8fd17b448a68554199c47d08ffb10d4b8"

/-- The administrator, an engineer and a registration that waits for its activation. -/
def workshopRepositories : Repositories :=
  { identities := ⟨[⟨"DID:BEL:ADMIN",some "ADMIN",some .ADMIN,some "IT",.ACTIVE⟩,
      ⟨"DID:BEL:ENG",some "E-1",some .ENGINEER,some "RADAR",.ACTIVE⟩,
      ⟨"DID:BEL:AUD",some "E-2",some .TECHNICIAN,some "QA",.PENDING⟩],by decide⟩
    users := ⟨[⟨"ADMIN","DID:BEL:ADMIN",adminWallet,.ADMIN,"IT",.ACTIVE⟩,
      ⟨"E-1","DID:BEL:ENG",engineerWallet,.ENGINEER,"RADAR",.ACTIVE⟩],by decide⟩
    devices := ⟨[⟨"DEV-0","DID:BEL:ADMIN",.ACTIVE,"2025-11-17T09:00:00.000Z",none,none,none⟩,
      ⟨"DEV-1","DID:BEL:ENG",.ACTIVE,"2025-11-17T09:00:00.000Z",none,none,none⟩,
      ⟨"DEV-2","DID:BEL:AUD",.PENDING,"2025-11-17T09:00:00.000Z",none,none,some auditorKey⟩],by decide⟩
    wallets := ⟨[⟨adminWallet,"DID:BEL:ADMIN","DEV-0",.ACTIVE,none,none,none,none⟩,
      ⟨engineerWallet,"DID:BEL:ENG","DEV-1",.ACTIVE,none,none,none,none⟩,
      ⟨auditorWallet,"DID:BEL:AUD","DEV-2",.PENDING,none,none,none,some auditorKey⟩],by decide⟩ }

def workshopUsers : UsersSystem (Option Bytes) := ⟨workshopRepositories,workshop⟩

def usersContext : Context :=
  { evm := true
    walletMatches := fun address key => address == auditorWallet && key == auditorKey
    deviceOrder := id
    walletOrder := id
    now := "2025-11-18T09:00:00.000Z" }

def deliveryOf (number : ℕ) (fate : Fate) : Delivery := ⟨[],number,number,1,fate⟩

theorem workshopUsers_named : NamedByDids prototypePlatform workshopRepositories.identities := by
  unfold NamedByDids
  decide +kernel

theorem workshopUsers_agree : RolesAgree workshopRepositories.identities workshop := by
  intro row hrow hactive
  simp only [workshopRepositories,List.mem_cons,List.not_mem_nil,or_false] at hrow
  rcases hrow with rfl | rfl | rfl
  · exact ⟨.ADMIN,rfl,by decide +kernel⟩
  · exact ⟨.ENGINEER,rfl,by decide +kernel⟩
  · cases hactive

instance KeepsSingleRole.decidable (P : Platform) (s : UsersSystem H) :
    (e : UsersEvent) → Decidable (e.KeepsSingleRole P s)
  | .assignRole _ actorId userId role d =>
    match hcheck : assignRoleCheck s.repositories actorId userId role with
    | .ok (actor,target,role) =>
      decidable_of_iff (target.status = .ACTIVE →
          s.repositories.findByIdentityId target.identityId ≠ none → executes P s.chain
            (envelope s.repositories .ROLE_ASSIGN actor (assignRolePayload target role)) d = false)
        (by simp only [UsersEvent.KeepsSingleRole,hcheck])
    | .error _ => isTrue (by simp only [UsersEvent.KeepsSingleRole,hcheck])
  | .activateRegistration ctx actorId userId _ _ _ =>
    match hcheck : activateCheck ctx s.repositories actorId userId with
    | .ok (_,g) =>
      decidable_of_iff (RoleRegistry.rolesOfIdentity s.chain (utf8 g.identity.identityId) = 0 ∨
          some (RoleRegistry.rolesOfIdentity s.chain (utf8 g.identity.identityId)) =
            g.identity.role.map Role.bit)
        (by simp only [UsersEvent.KeepsSingleRole,hcheck])
    | .error _ => isTrue (by simp only [UsersEvent.KeepsSingleRole,hcheck])
  | .external _ => isTrue trivial

/-- A first activation gets as far as the registration of the wallet. The engineer's new role never
reaches the chain. -/
def auditorEvents : List UsersEvent :=
  [.assignRole usersContext "ADMIN" "E-2" "AUDITOR" (deliveryOf 12 .mined),
   .activateRegistration usersContext "ADMIN" "E-2" ⟨[],deliveryOf 13 .mined⟩
     ⟨[],deliveryOf 14 (.dropped (.error ⟨.NETWORK,"unreachable"⟩))⟩ ⟨[],deliveryOf 15 .mined⟩,
   .external (txOf 0xad 16 (.mintAsset (utf8 "RADAR-2") 0xad)),
   .activateRegistration usersContext "ADMIN" "E-2" ⟨[],deliveryOf 17 .mined⟩
     ⟨[],deliveryOf 18 .mined⟩ ⟨[],deliveryOf 19 .mined⟩,
   .assignRole usersContext "ADMIN" "E-1" "MANAGER"
     (deliveryOf 20 (.dropped (.error ⟨.NETWORK,"unreachable"⟩)))]

theorem deliveryOf_fair (number : ℕ) {fate : Fate} (hfate : ¬fate.Lost) :
    (deliveryOf number fate).Fair :=
  ⟨fun _ h => absurd h List.not_mem_nil,hfate⟩

theorem stage_fair (number : ℕ) {fate : Fate} (hfate : ¬fate.Lost) :
    (Stage.mk [] (deliveryOf number fate)).Fair :=
  ⟨fun _ h => absurd h List.not_mem_nil,deliveryOf_fair number hfate⟩

theorem auditorEvents_fair : ∀ e ∈ auditorEvents,e.Fair := by
  intro e he
  simp only [auditorEvents,List.mem_cons,List.not_mem_nil,or_false] at he
  rcases he with rfl | rfl | rfl | rfl | rfl
  · exact ⟨rfl,deliveryOf_fair 12 id⟩
  · exact ⟨rfl,stage_fair 13 id,stage_fair 14 id,stage_fair 15 id⟩
  · exact fun h => by cases h
  · exact ⟨rfl,stage_fair 17 id,stage_fair 18 id,stage_fair 19 id⟩
  · exact ⟨rfl,deliveryOf_fair 20 id⟩

theorem roles_agree_without_reassignment_auditor :
    ((UsersSystem.run prototypePlatform workshopUsers auditorEvents).repositories.identities.find
        "DID:BEL:AUD").map (fun row => (row.status,row.role)) = some (.ACTIVE,some .AUDITOR) ∧
      RolesAgree
        (UsersSystem.run prototypePlatform workshopUsers auditorEvents).repositories.identities
        (UsersSystem.run prototypePlatform workshopUsers auditorEvents).chain :=
  ⟨by decide +kernel,
    (roles_agree_without_reassignment prototype_keccak_injective prototypePlatform_strict
      (s := workshopUsers) workshop_reachable workshopUsers_named workshopUsers_agree auditorEvents
      auditorEvents_fair (by decide +kernel)).1⟩

/-- The engineer becomes a manager. -/
def promotion : UsersEvent :=
  .assignRole usersContext "ADMIN" "E-1" "MANAGER" (deliveryOf 12 .mined)

/-- On chain the manager is still an engineer, so the way back is refused. -/
theorem promotion_accumulates_roles :
    (Reachable workshopUsers.chain ∧
      NamedByDids prototypePlatform workshopUsers.repositories.identities ∧
      RolesAgree workshopUsers.repositories.identities workshopUsers.chain ∧ promotion.Fair) ∧
    (assignRole prototypePlatform usersContext workshopUsers "ADMIN" "E-1" "MANAGER"
      (deliveryOf 12 .mined)).2.toOption.map User.role = some .MANAGER ∧
    ¬RolesAgree (UsersSystem.step prototypePlatform workshopUsers promotion).repositories.identities
      (UsersSystem.step prototypePlatform workshopUsers promotion).chain ∧
    (assignRole prototypePlatform usersContext
      (UsersSystem.step prototypePlatform workshopUsers promotion) "ADMIN" "E-1" "ENGINEER"
      (deliveryOf 13 .mined)).2 =
        .error (.Blockchain ⟨.REVERTED,"Blockchain rejected ROLE_ASSIGN"⟩) := by
  refine ⟨⟨workshop_reachable,workshopUsers_named,workshopUsers_agree,rfl,deliveryOf_fair 12 id⟩,
    by decide +kernel,?_,by decide +kernel⟩
  intro hagree
  obtain ⟨role,hrole,hmask⟩ := hagree ⟨"DID:BEL:ENG",some "E-1",some .MANAGER,some "RADAR",.ACTIVE⟩
    (by decide +kernel) rfl
  obtain rfl : Role.MANAGER = role := Option.some.inj hrole
  exact absurd hmask (by decide +kernel)

end Prototype

end BelLedger
