import BelLedger.UniqueRows

/-!
# Two lookups of one id

`getById` tries an id as the employee id of a user row first, `getIdentity` and the calls that
change something try it as an identity id first. The callers choose both kinds of ids freely, so the
employee id of one person may be the identity id of another.
-/
namespace BelLedger
open CheckedCalls TransitionRuns KeyedTables UsersService AuthService

namespace UsersService.Repositories

def getById (r : Repositories) (id : String) : Option User :=
  match r.users.find id with
  | some direct => some direct
  | none => (r.resolveIdentity id).bind (fun identity => r.findByIdentityId identity.identityId)

def getIdentity (r : Repositories) (id : String) : Option Identity := r.resolveIdentity id

end UsersService.Repositories

/-- An id that both lookups know denotes one person. -/
def LookupsAgree (r : Repositories) : Prop :=
  ∀ id user identity,r.getById id = some user → r.getIdentity id = some identity →
    user.identityId = identity.identityId

/-- The id denotes the identity, as its identity id or as its employee id. -/
def Named (row : Identity) (id : String) : Prop := row.identityId = id ∨ row.employeeId = some id

/-- No user row of another identity has an employee id that denotes the identity. -/
def IdentityApart (users : Table User.employeeId) (row : Identity) : Prop :=
  ∀ user ∈ users.rows,Named row user.employeeId → user.identityId = row.identityId

/-- The employee id of the user row denotes no identity but its own. -/
def UserApart (identities : Table Identity.identityId) (user : User) : Prop :=
  ∀ row ∈ identities.rows,Named row user.employeeId → user.identityId = row.identityId

/-- No employee id of a user row denotes the identity of another. -/
def NamesApart (r : Repositories) : Prop := ∀ user ∈ r.users.rows,UserApart r.identities user

instance (row : Identity) (id : String) : Decidable (Named row id) :=
  inferInstanceAs (Decidable (_ ∨ _))

instance (users : Table User.employeeId) (row : Identity) : Decidable (IdentityApart users row) :=
  inferInstanceAs (Decidable (∀ user ∈ users.rows,Named row user.employeeId → _))

instance (identities : Table Identity.identityId) (user : User) :
    Decidable (UserApart identities user) :=
  inferInstanceAs (Decidable (∀ row ∈ identities.rows,Named row user.employeeId → _))

/-- The rows that a call stores share no id with a row of another person. -/
def AccountEvent.StoresApart {H : Type} [Keccak H] [DecidableEq H] (P : Platform)
    (s : UsersSystem H) : AccountEvent → Prop
  | .auth ctx (.initializeAccount input uuid) env =>
    ∀ reply,(serveAuth ctx s.repositories (.initializeAccount input uuid) env).2 = .ok reply →
      IdentityApart s.repositories.users (newRegistration ctx.now input uuid).identity
  | .createUser ctx input actorId uuid aligned _ _ =>
    ∀ identity role,createUserCheck ctx s input uuid = .ok (identity,role) →
      (alignRole P ctx s identity role actorId aligned).2 = .ok () →
        UserApart s.repositories.identities (toUser identity "") ∧
          IdentityApart (s.repositories.users.save (toUser identity "")) identity
  | .verifyRegistration actorId userId employeeId department =>
    ∀ row,verifyCheck s.repositories actorId userId employeeId department = .ok row →
      IdentityApart s.repositories.users row
  | .users (.activateRegistration ctx actorId userId created roleAssigned walletActivated) =>
    ∀ g,(UsersService.activateRegistration P ctx s actorId userId created roleAssigned
        walletActivated).2 = .ok g →
      UserApart s.repositories.identities (toUser g.identity g.wallet.address)
  | _ => True

section Lookups
variable {r r' : Repositories}

theorem resolveIdentity_named {id : String} {row : Identity} (h : r.resolveIdentity id = some row) :
    Named row id := by
  unfold Repositories.resolveIdentity at h
  cases hfind : r.identities.find id with
  | some found =>
    rw [hfind,Option.orElse_some] at h
    obtain rfl := Option.some.inj h
    exact .inl (Table.key_of_find hfind)
  | none =>
    rw [hfind,Option.orElse_none] at h
    exact .inr (by simpa using List.find?_some h)

/-- Where the ids of different persons are apart, the two lookups agree. -/
theorem NamesApart.lookupsAgree (h : NamesApart r) : LookupsAgree r := by
  intro id user identity huser hidentity
  unfold Repositories.getIdentity at hidentity
  unfold Repositories.getById at huser
  cases hdirect : r.users.find id with
  | some direct =>
    rw [hdirect] at huser
    obtain rfl := Option.some.inj huser
    apply h direct (Table.mem_of_find hdirect) identity (resolveIdentity_mem hidentity)
    rw [Table.key_of_find hdirect]
    exact resolveIdentity_named hidentity
  | none =>
    -- the user row is looked up through the identity itself
    rw [hdirect,hidentity] at huser
    simpa using List.find?_some huser

theorem NamesApart.saveIdentity (h : NamesApart r) {row : Identity} (hrow : IdentityApart r.users row)
    {user : User} (huser : user ∈ r.users.rows) : UserApart (r.identities.save row) user := by
  intro x hx hnamed
  rcases Table.mem_save.mp hx with rfl | ⟨hold,-⟩
  · exact hrow user huser hnamed
  · exact h user huser x hold hnamed

theorem NamesApart.saveUser (h : NamesApart r) {user : User} (huser : UserApart r.identities user) :
    ∀ x ∈ (r.users.save user).rows,UserApart r.identities x := by
  intro x hx
  rcases Table.mem_save.mp hx with rfl | ⟨hold,-⟩
  · exact huser
  · exact h x hold

end Lookups

/-- The ids of the identities and of the user rows are the same. -/
structure SameNames (r r' : Repositories) : Prop where
  identities : r'.identities.rows.map (fun row => (row.identityId,row.employeeId)) =
    r.identities.rows.map (fun row => (row.identityId,row.employeeId))
  users : r'.users.rows.map (fun user => (user.identityId,user.employeeId)) =
    r.users.rows.map (fun user => (user.identityId,user.employeeId))

section SameNames
variable {r r' : Repositories}

theorem SameNames.refl (r : Repositories) : SameNames r r := ⟨rfl,rfl⟩

theorem SameRows.names (h : SameRows r r') : SameNames r r' :=
  ⟨by rw [h.identities],by rw [h.users]⟩

theorem NamesApart.of_sameNames (h : NamesApart r) (hsame : SameNames r r') : NamesApart r' := by
  intro user huser row hrow hnamed
  have hmemUser : (user.identityId,user.employeeId) ∈
      r'.users.rows.map (fun user => (user.identityId,user.employeeId)) :=
    List.mem_map_of_mem huser
  have hmemRow : (row.identityId,row.employeeId) ∈
      r'.identities.rows.map (fun row => (row.identityId,row.employeeId)) :=
    List.mem_map_of_mem hrow
  rw [hsame.users] at hmemUser
  rw [hsame.identities] at hmemRow
  obtain ⟨oldUser,holdUser,huserIds⟩ := List.mem_map.mp hmemUser
  obtain ⟨oldRow,holdRow,hrowIds⟩ := List.mem_map.mp hmemRow
  obtain ⟨hid,hemployee⟩ := Prod.mk.inj huserIds
  obtain ⟨hrowId,hrowEmployee⟩ := Prod.mk.inj hrowIds
  rw [← hid,← hrowId]
  apply h oldUser holdUser oldRow holdRow
  unfold Named
  rw [hemployee,hrowId,hrowEmployee]
  exact hnamed

/-- A row that is saved again under its ids. -/
theorem sameNames_saveIdentity {row row' : Identity} (hrow : row ∈ r.identities.rows)
    (hid : row'.identityId = row.identityId) (hemployee : row'.employeeId = row.employeeId) :
    SameNames r { r with identities := r.identities.save row' } := by
  refine ⟨?_,rfl⟩
  apply Table.map_save_of_find (r := row)
  · rw [hid]
    exact Table.find_of_mem hrow
  · rw [hid,hemployee]

theorem sameNames_saveUser {user user' : User} (huser : user ∈ r.users.rows)
    (hid : user'.identityId = user.identityId) (hemployee : user'.employeeId = user.employeeId) :
    SameNames r { r with users := r.users.save user' } := by
  refine ⟨rfl,?_⟩
  apply Table.map_save_of_find (r := user)
  · rw [hemployee]
    exact Table.find_of_mem huser
  · rw [hid,hemployee]

theorem findByIdentityId_mem {identityId : String} {user : User}
    (h : r.findByIdentityId identityId = some user) : user ∈ r.users.rows :=
  List.mem_of_find?_eq_some h

end SameNames

section Steps
variable {H : Type} [Keccak H] [DecidableEq H] {P : Platform} {s : UsersSystem H}

private theorem assignRole_names (ctx : Context) (actorId userId role : String) (d : Delivery) :
    SameNames s.repositories
      (UsersService.assignRole P ctx s actorId userId role d).1.repositories := by
  unfold UsersService.assignRole
  split
  · exact .refl _
  · rename_i actor target role hcheck
    have htarget := assignRoleCheck_target hcheck
    have hidentities : SameNames s.repositories { s.repositories with
        identities := s.repositories.identities.save { target with role := some role } } :=
      sameNames_saveIdentity htarget rfl rfl
    split
    · split
      · exact .refl _
      · exact hidentities
    · rename_i user hfind
      split
      · exact .refl _
      · have husers : SameNames s.repositories { s.repositories with
            users := s.repositories.users.save { user with role } } :=
          sameNames_saveUser (findByIdentityId_mem hfind) rfl rfl
        exact ⟨hidentities.identities,husers.users⟩

omit [Keccak H] [DecidableEq H] in
theorem BindingsStored.names {r r' : Repositories} (h : BindingsStored r r') : SameNames r r' := by
  cases h with
  | rows => exact ⟨rfl,rfl⟩
  | address wallets user huser walletAddress =>
    have husers : SameNames r { r with users := r.users.save { user with walletAddress } } :=
      sameNames_saveUser huser rfl rfl
    exact ⟨rfl,husers.users⟩

/-- A call about a device or a wallet renames nobody. -/
theorem step_names {e : AccountEvent} (he : e.OnBindings) :
    SameNames s.repositories (e.step P s).repositories := (step_bindings he).names

omit [Keccak H] [DecidableEq H] in
private theorem NamesApart.initializeAccount (h : NamesApart s.repositories) {ctx : AuthContext}
    {input : InitializeAccountRequest} {uuid : String} {env : ℕ → Surroundings}
    (hapart : ∀ reply,(serveAuth ctx s.repositories (.initializeAccount input uuid) env).2 =
        .ok reply →
      IdentityApart s.repositories.users (newRegistration ctx.now input uuid).identity) :
    NamesApart (serveAuth ctx s.repositories (.initializeAccount input uuid) env).1 := by
  cases hresult : (serveAuth ctx s.repositories (.initializeAccount input uuid) env).2 with
  | error e => exact h.of_sameNames (initializeAccount_failed hresult).names
  | ok reply =>
    rcases initializeAccount_effect ctx s.repositories input uuid env with hsame | hsaved
    · exact h.of_sameNames hsame.names
    · unfold NamesApart
      rw [hsaved.users,hsaved.identities]
      intro user huser
      exact h.saveIdentity (hapart reply hresult) huser

private theorem NamesApart.createUser (h : NamesApart s.repositories) {ctx : Context}
    {input : CreateIdentityInput} {actorId : Option String} {uuid : String}
    {aligned created assigned : Delivery}
    (hapart : (AccountEvent.createUser ctx input actorId uuid aligned created assigned).StoresApart
      P s) :
    NamesApart (UsersService.createUser P ctx s input actorId uuid aligned created
      assigned).1.repositories := by
  rcases createUser_repositories (P := P) (s := s) ctx input actorId uuid aligned created assigned
    with hsame | ⟨identity,role,hcheck,halign,hsaved⟩
  · rw [hsame]
    exact h
  · rw [hsaved]
    obtain ⟨huser,hidentity⟩ := hapart identity role hcheck halign
    -- the user row goes in first: it takes the place of any row with the employee id
    have husers : NamesApart { s.repositories with
        users := s.repositories.users.save (toUser identity "") } := h.saveUser huser
    intro user hmem
    exact husers.saveIdentity hidentity hmem

omit [Keccak H] [DecidableEq H] in
private theorem NamesApart.verifyRegistration (h : NamesApart s.repositories)
    {actorId userId employeeId department : String}
    (hapart : ∀ row,verifyCheck s.repositories actorId userId employeeId department = .ok row →
      IdentityApart s.repositories.users row) :
    NamesApart
      (UsersService.verifyRegistration s actorId userId employeeId department).1.repositories := by
  unfold UsersService.verifyRegistration
  split
  · exact h
  · rename_i row hcheck
    intro user hmem
    exact h.saveIdentity (hapart row hcheck) hmem

private theorem NamesApart.users (h : NamesApart s.repositories) {e : UsersEvent}
    (hapart : (AccountEvent.users e).StoresApart P s) :
    NamesApart (UsersSystem.step P s e).repositories := by
  cases e with
  | assignRole ctx actorId userId role d =>
    exact h.of_sameNames (assignRole_names ctx actorId userId role d)
  | activateRegistration ctx actorId userId created roleAssigned walletActivated =>
    simp only [AccountEvent.StoresApart,UsersService.activateRegistration] at hapart
    simp only [UsersSystem.step,UsersService.activateRegistration]
    split
    · exact h
    · rename_i actor g hcheck
      rw [hcheck] at hapart
      dsimp only at hapart
      split
      · exact h
      · rename_i chain hchain
        rw [hchain] at hapart
        have huser : UserApart s.repositories.identities
            (toUser (activated ctx.now g).identity (activated ctx.now g).wallet.address) :=
          hapart _ rfl
        have hkept : SameNames s.repositories { s.repositories with
            identities := s.repositories.identities.save (activated ctx.now g).identity } :=
          sameNames_saveIdentity (activateCheck_registration hcheck).1 rfl rfl
        have hsaved : NamesApart { s.repositories with
            users := s.repositories.users.save
              (toUser (activated ctx.now g).identity (activated ctx.now g).wallet.address) } :=
          h.saveUser huser
        exact hsaved.of_sameNames ⟨hkept.identities,rfl⟩
  | external tx => exact h

/-- Calls that store their rows apart keep the ids of different persons apart. -/
theorem NamesApart.step (h : NamesApart s.repositories) {e : AccountEvent}
    (hapart : e.StoresApart P s) : NamesApart (e.step P s).repositories := by
  cases e with
  | auth ctx q env =>
    by_cases hq : ∀ input uuid,q ≠ .initializeAccount input uuid
    · exact h.of_sameNames (serveAuth_sameRows hq env).names
    · simp only [not_forall,not_not] at hq
      obtain ⟨input,uuid,rfl⟩ := hq
      exact h.initializeAccount hapart
  | users e => exact h.users hapart
  | createUser => exact h.createUser hapart
  | verifyRegistration actorId userId employeeId department => exact h.verifyRegistration hapart
  | _ => exact h.of_sameNames (step_names trivial)

/-- From a store without users on, as long as no call stores a row under an id of another person, an id
that both lookups know denotes one person. -/
theorem lookups_agree (husers : s.repositories.users = .empty) {events : List AccountEvent}
    (hapart : Throughout (AccountEvent.step P) (fun s e => e.StoresApart P s) s events) (n : ℕ) :
    LookupsAgree (accountRun P s (events.take n)).repositories := by
  apply NamesApart.lookupsAgree
  refine (hapart.take n).invariant (I := fun s => NamesApart s.repositories) ?_ ?_
  · exact fun s e h he => h.step he
  · rw [NamesApart,husers]
    exact fun user huser => absurd huser List.not_mem_nil

end Steps

section Prototype

/-- A user is created directly, without a chain. -/
def engineerCreation (identityId employeeId : String) : AccountEvent :=
  .createUser prototypeAuth.toContext ⟨some identityId,employeeId,"ENGINEER",none,none⟩ none "1"
    accepted accepted accepted

def engineer (identityId employeeId : String) : Identity :=
  ⟨identityId,some employeeId,some .ENGINEER,some "UNSPECIFIED",.ACTIVE⟩

private theorem engineerCreation_storesApart {s : UsersSystem (Option Bytes)}
    {identityId employeeId : String}
    (hidentities : UserApart s.repositories.identities (toUser (engineer identityId employeeId) ""))
    (husers : IdentityApart (s.repositories.users.save (toUser (engineer identityId employeeId) ""))
      (engineer identityId employeeId)) :
    (engineerCreation identityId employeeId).StoresApart prototypePlatform s := by
  intro identity role hcheck _
  unfold createUserCheck at hcheck
  split at hcheck
  · cases hcheck
  · rename_i found hfound
    obtain rfl : Role.ENGINEER = found := Option.some.inj hfound
    simp only [revertIf_bind_eq_ok,ok_pure_iff] at hcheck
    obtain ⟨-,-,-,-,hpair⟩ := hcheck
    obtain ⟨rfl,-⟩ := Prod.mk.inj hpair
    exact ⟨hidentities,husers⟩

def twoCreations : List AccountEvent :=
  [engineerCreation "DID:1" "E-1",engineerCreation "DID:2" "E-2"]

theorem lookups_agree_two_creations :
    LookupsAgree (accountRun prototypePlatform emptyStore (twoCreations.take 2)).repositories ∧
    ((accountRun prototypePlatform emptyStore twoCreations).repositories.getById "E-2").map
      User.identityId = some "DID:2" := by
  have hapart : Throughout (AccountEvent.step prototypePlatform)
      (fun s e => e.StoresApart prototypePlatform s) emptyStore twoCreations := by
    refine ⟨?_,?_,trivial⟩
    · apply engineerCreation_storesApart
      · exact fun _ hrow => absurd hrow List.not_mem_nil
      · decide +kernel
    · apply engineerCreation_storesApart
      · decide +kernel
      · decide +kernel
  exact ⟨lookups_agree rfl hapart 2,by decide +kernel⟩

/-- The second employee has the identity id of the first as employee id. -/
def borrowedId : List AccountEvent :=
  [engineerCreation "DID:1" "E-1",engineerCreation "DID:2" "DID:1"]

theorem lookups_disagree :
    ¬∀ n,LookupsAgree
      (accountRun prototypePlatform emptyStore (borrowedId.take n)).repositories := by
  intro h
  have huser : (accountRun prototypePlatform emptyStore borrowedId).repositories.getById "DID:1" =
      some (toUser (engineer "DID:2" "DID:1") "") := by
    decide +kernel
  have hidentity :
      (accountRun prototypePlatform emptyStore borrowedId).repositories.getIdentity "DID:1" =
        some (engineer "DID:1" "E-1") := by
    decide +kernel
  exact absurd (h 2 "DID:1" _ _ huser hidentity) (by decide)

end Prototype

end BelLedger
