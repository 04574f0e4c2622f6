import BelLedger.WalletAgreement

/-!
# One identity for each employee, one wallet row for each address

The services look an employee id or an address up as it is given. The id is stored without the white
space around it, and one address has several spellings, so a second row appears unless what is given is
spelt as it is stored.
-/
namespace BelLedger
open CheckedCalls TransitionRuns KeyedTables UsersService AuthService

/-- No two identities have the same employee id. -/
def EmployeesUnique (r : Repositories) : Prop := r.identities.Identifies Identity.employeeId

/-- No two wallet rows stand for the same address. -/
def AddressesUnique (P : Platform) (r : Repositories) : Prop :=
  r.wallets.Identifies (fun row => P.parseAddress row.address)

/-- An identity other than this one has the employee id. -/
def Taken (r : Repositories) (identityId employeeId : String) : Prop :=
  ∃ row ∈ r.identities.rows,row.identityId ≠ identityId ∧ row.employeeId = some employeeId

/-- An employee id whose trimmed text is taken is taken as it is spelt. -/
def AccountEvent.EmployeeSpelt (r : Repositories) : AccountEvent → Prop
  | .auth _ (.initializeAccount input uuid) _ => ∀ employeeId,input.employeeId = some employeeId →
    Taken r ("DID:BEL:"++uuid) (jsTrim employeeId) → Taken r ("DID:BEL:"++uuid) employeeId
  | .verifyRegistration _ userId employeeId _ => ∀ target,r.resolveIdentity userId = some target →
    Taken r target.identityId (jsTrim employeeId) → Taken r target.identityId employeeId
  | _ => True

/-- The rows that stand for the address spell it this way. -/
def SpeltAs (P : Platform) (r : Repositories) (address : String) : Prop :=
  ∀ a,P.parseAddress address = some a →
    ∀ row ∈ r.wallets.rows,P.parseAddress row.address = some a → row.address = address

def AccountEvent.AddressSpelt (P : Platform) (r : Repositories) : AccountEvent → Prop
  | .auth _ (.initializeAccount input _) _ => SpeltAs P r input.walletAddress
  | .registerWallet _ _ _ address => SpeltAs P r address
  | _ => True

/-- The call is made to a service that runs against the chain. -/
def AccountEvent.InEvmMode (P : Platform) : AccountEvent → Prop
  | .auth ctx _ _ => ctx.toContext.OnChain P
  | .users (.assignRole ctx _ _ _ _) => ctx.OnChain P
  | .users (.activateRegistration ctx _ _ _ _ _) => ctx.OnChain P
  | .users (.external _) => True
  | .createUser ctx _ _ _ _ _ _ => ctx.OnChain P
  | .verifyRegistration .. => True
  | .registerDevice ctx _ _ _ _ => ctx.toContext.OnChain P
  | .revokeDevice ctx _ _ _ => ctx.OnChain P
  | .registerWallet ctx _ _ _ => ctx.OnChain P
  | .revokeWallet ctx _ _ _ _ => ctx.OnChain P
  | .activateWallet ctx _ _ _ _ _ _ _ => ctx.OnChain P

theorem AccountEvent.InEvmMode.faithful {P : Platform} {e : AccountEvent} (h : e.InEvmMode P) :
    e.Faithful := by
  cases e with
  | auth => exact UsersService.Context.OnChain.faithful h
  | users e =>
    cases e with
    | activateRegistration => exact UsersService.Context.OnChain.faithful h
    | _ => trivial
  | revokeDevice => exact UsersService.Context.OnChain.faithful h
  | revokeWallet => exact UsersService.Context.OnChain.faithful h
  | activateWallet => exact UsersService.Context.OnChain.faithful h
  | _ => trivial

section Employees
variable {r : Repositories} {H : Type} [Keccak H] [DecidableEq H] {P : Platform} {s : UsersSystem H}

theorem findByEmployeeId_eq_none {employeeId : String} :
    r.findByEmployeeId employeeId = none ↔
      ∀ row ∈ r.identities.rows,row.employeeId ≠ some employeeId := by
  unfold Repositories.findByEmployeeId
  rw [List.find?_eq_none]
  simp

/-- The lookup finds the only identity with the employee id. -/
theorem EmployeesUnique.find (h : EmployeesUnique r) {row : Identity} {employeeId : String}
    (hrow : row ∈ r.identities.rows) (hid : row.employeeId = some employeeId) :
    r.findByEmployeeId employeeId = some row := by
  cases hfind : r.findByEmployeeId employeeId with
  | none => exact absurd hid (findByEmployeeId_eq_none.mp hfind row hrow)
  | some found =>
    have hfound : found.employeeId = some employeeId := by simpa using List.find?_some hfind
    rw [h found (List.mem_of_find?_eq_some hfind) row hrow employeeId hfound hid]

/-- A row may be saved under an employee id that no other identity has. -/
theorem EmployeesUnique.save (h : EmployeesUnique r) {row : Identity}
    (hfree : ∀ employeeId,row.employeeId = some employeeId → ¬Taken r row.identityId employeeId) :
    (r.identities.save row).Identifies Identity.employeeId := by
  apply Table.Identifies.save h
  intro x hx hkey employeeId hid hxid
  exact hfree employeeId hid ⟨x,hx,hkey,hxid⟩

omit [Keccak H] [DecidableEq H] in
private theorem EmployeesUnique.initializeAccount (h : EmployeesUnique s.repositories)
    {ctx : AuthContext} {input : InitializeAccountRequest} {uuid : String} {env : ℕ → Surroundings}
    (hspelt : (AccountEvent.auth ctx (.initializeAccount input uuid) env).EmployeeSpelt
      s.repositories) :
    EmployeesUnique (serveAuth ctx s.repositories (.initializeAccount input uuid) env).1 := by
  unfold EmployeesUnique
  rcases initializeAccount_cases ctx s.repositories input uuid env with hsame | ⟨hsaved,hnew⟩
  · rw [hsame.identities]
    exact h
  · rw [hsaved.identities]
    apply h.save
    intro trimmed htrimmed htaken
    change trimmedOrNull input.employeeId = some trimmed at htrimmed
    cases hgiven : input.employeeId with
    | none =>
      rw [hgiven] at htrimmed
      cases htrimmed
    | some employeeId =>
      rw [hgiven,trimmedOrNull] at htrimmed
      split at htrimmed
      · cases htrimmed
      · rename_i hblank
        obtain rfl := Option.some.inj htrimmed
        have hne : employeeId ≠ "" := by
          rintro rfl
          exact hblank rfl
        obtain ⟨row,hrow,-,hid⟩ := hspelt employeeId hgiven htaken
        exact findByEmployeeId_eq_none.mp (hnew employeeId hgiven hne) row hrow hid

omit [Keccak H] [DecidableEq H] in
private theorem EmployeesUnique.verifyRegistration (h : EmployeesUnique s.repositories)
    {actorId userId employeeId department : String}
    (hspelt : (AccountEvent.verifyRegistration actorId userId employeeId department).EmployeeSpelt
      s.repositories) :
    EmployeesUnique
      (UsersService.verifyRegistration s actorId userId employeeId department).1.repositories := by
  unfold UsersService.verifyRegistration
  split
  · exact h
  · rename_i row hcheck
    obtain ⟨target,htarget,hfree,rfl⟩ := verifyCheck_rows hcheck
    apply h.save
    intro trimmed htrimmed htaken
    obtain rfl := Option.some.inj htrimmed
    obtain ⟨row,hrow,hother,hid⟩ := hspelt target (requireIdentity_eq_ok htarget) htaken
    rw [h.find hrow hid] at hfree
    exact hother hfree

private theorem EmployeesUnique.createUser (h : EmployeesUnique s.repositories) (ctx : Context)
    (input : CreateIdentityInput) (actorId : Option String) (uuid : String)
    (aligned created assigned : Delivery) :
    EmployeesUnique
      (UsersService.createUser P ctx s input actorId uuid aligned created assigned).1.repositories := by
  rcases createUser_repositories (P := P) (s := s) ctx input actorId uuid aligned created assigned
    with hsame | ⟨identity,role,hcheck,-,hsaved⟩
  · rw [hsame]
    exact h
  · rw [hsaved]
    unfold createUserCheck at hcheck
    split at hcheck
    · cases hcheck
    · simp only [revertIf_bind_eq_ok,ok_pure_iff] at hcheck
      obtain ⟨-,hnew,-,-,hpair⟩ := hcheck
      obtain ⟨rfl,-⟩ := Prod.mk.inj hpair
      apply h.save
      intro employeeId hid htaken
      obtain rfl := Option.some.inj hid
      obtain ⟨row,hrow,-,hrowId⟩ := htaken
      exact findByEmployeeId_eq_none.mp (Option.not_isSome_iff_eq_none.mp hnew) row hrow hrowId

private theorem EmployeesUnique.users (h : EmployeesUnique s.repositories) (e : UsersEvent) :
    EmployeesUnique (UsersSystem.step P s e).repositories := by
  cases e with
  | assignRole ctx actorId userId role d =>
    simp only [UsersSystem.step,UsersService.assignRole]
    split
    · exact h
    · rename_i actor target found hcheck
      have htarget := assignRoleCheck_target hcheck
      split
      · split
        · exact h
        · exact Table.Identifies.save_same h htarget rfl rfl
      · split
        · exact h
        · exact Table.Identifies.save_same h htarget rfl rfl
  | activateRegistration ctx actorId userId created roleAssigned walletActivated =>
    simp only [UsersSystem.step,UsersService.activateRegistration]
    split
    · exact h
    · rename_i actor g hcheck
      split
      · exact h
      · exact Table.Identifies.save_same h (activateCheck_registration hcheck).1 rfl rfl
  | external tx => exact h

theorem EmployeesUnique.step (h : EmployeesUnique s.repositories) {e : AccountEvent}
    (hspelt : e.EmployeeSpelt s.repositories) : EmployeesUnique (e.step P s).repositories := by
  cases e with
  | auth ctx q env =>
    by_cases hq : ∀ input uuid,q ≠ .initializeAccount input uuid
    · unfold EmployeesUnique
      change (serveAuth ctx s.repositories q env).1.identities.Identifies _
      rw [(serveAuth_sameRows hq env).identities]
      exact h
    · simp only [not_forall,not_not] at hq
      obtain ⟨input,uuid,rfl⟩ := hq
      exact h.initializeAccount hspelt
  | users e => exact h.users e
  | createUser ctx input actorId uuid aligned created assigned =>
    exact h.createUser ctx input actorId uuid aligned created assigned
  | verifyRegistration actorId userId employeeId department => exact h.verifyRegistration hspelt
  | _ =>
    unfold EmployeesUnique
    rw [SameAccounts.identities (step_accounts (by trivial))]
    exact h

end Employees

section Addresses
variable {r : Repositories} {H : Type} [Keccak H] [DecidableEq H] {P : Platform} {s : UsersSystem H}

/-- A row may be saved under an address that is spelt as it is stored and is not there. -/
theorem AddressesUnique.save (hstrict : P.Strict) (h : AddressesUnique P r) {address : String}
    {row : Wallet} (hrow : row.address = jsTrim address) {a : Address}
    (ha : P.parseAddress address = some a) (hspelt : SpeltAs P r address)
    (hnew : r.wallets.find address = none) :
    (r.wallets.save row).Identifies (fun row => P.parseAddress row.address) := by
  have htrim : jsTrim address = address := (hstrict address a ha).1
  apply Table.Identifies.save h
  intro x hx _ b hb hxb
  rw [hrow,htrim,ha] at hb
  obtain rfl := Option.some.inj hb
  have hfind := Table.find_of_mem hx
  rw [hspelt a ha x hx hxb,hnew] at hfind
  cases hfind

omit [Keccak H] [DecidableEq H] in
private theorem AddressesUnique.initializeAccount (hstrict : P.Strict)
    (h : AddressesUnique P s.repositories) {ctx : AuthContext} (hctx : ctx.toContext.OnChain P)
    {input : InitializeAccountRequest} {uuid : String} {env : ℕ → Surroundings}
    (hspelt : SpeltAs P s.repositories input.walletAddress) :
    AddressesUnique P (serveAuth ctx s.repositories (.initializeAccount input uuid) env).1 := by
  unfold AddressesUnique
  rcases initializeAccount_effect ctx s.repositories input uuid env with hsame | hsaved
  · rw [hsame.wallets]
    exact h
  · rw [hsaved.wallets]
    obtain ⟨a,ha⟩ := hctx.matching _ _ (hsaved.matching hctx.evm)
    exact h.save hstrict rfl ha hspelt hsaved.newWallet

omit [Keccak H] [DecidableEq H] in
private theorem AddressesUnique.registerWallet (hstrict : P.Strict)
    (h : AddressesUnique P s.repositories) {ctx : Context} (hctx : ctx.OnChain P)
    {userId deviceId address : String} (hspelt : SpeltAs P s.repositories address) :
    AddressesUnique P (UsersService.registerWallet ctx s userId deviceId address).1.repositories := by
  unfold UsersService.registerWallet
  split
  · exact h
  · rename_i wallet hcheck
    obtain ⟨hnew,haddress,-,-,hmatch⟩ := registerWalletCheck_rows hcheck
    obtain ⟨a,ha⟩ := hctx.matching _ _ (hmatch hctx.evm)
    exact h.save hstrict haddress ha hspelt hnew

theorem AddressesUnique.step (hstrict : P.Strict) (h : AddressesUnique P s.repositories)
    {e : AccountEvent} (hevm : e.InEvmMode P) (hspelt : e.AddressSpelt P s.repositories) :
    AddressesUnique P (e.step P s).repositories := by
  by_cases hadds : e.AddsRows
  · cases e with
    | auth ctx q env =>
      cases q with
      | initializeAccount input uuid => exact h.initializeAccount hstrict hevm hspelt
      | _ => exact hadds.elim
    | registerDevice ctx userId deviceId credential publicKey =>
      simp only [AccountEvent.step,UsersService.registerDevice]
      split
      · exact h
      · exact h
    | registerWallet ctx userId deviceId address => exact h.registerWallet hstrict hevm hspelt
    | _ => exact hadds.elim
  · apply Table.Identifies.of_keys h
    exact (step_updates hevm.faithful hadds).wallets.keys

end Addresses

variable {H : Type} [Keccak H] [DecidableEq H] {P : Platform} {s : UsersSystem H}

/-- From an empty store on, as long as ids and addresses are spelt as they are stored, there is one
identity for each employee and, against the chain, one wallet row for each address. -/
theorem rows_unique (hidentities : s.repositories.identities = .empty)
    (hwallets : s.repositories.wallets = .empty) (events : List AccountEvent) :
    (Throughout (AccountEvent.step P) (fun s e => e.EmployeeSpelt s.repositories) s events →
      ∀ n,EmployeesUnique (accountRun P s (events.take n)).repositories) ∧
    (P.Strict → (∀ e ∈ events,e.InEvmMode P) →
      Throughout (AccountEvent.step P) (fun s e => e.AddressSpelt P s.repositories) s events →
      ∀ n,AddressesUnique P (accountRun P s (events.take n)).repositories) := by
  constructor
  · intro hspelt n
    refine (hspelt.take n).invariant (I := fun s => EmployeesUnique s.repositories) ?_ ?_
    · exact fun s e h he => h.step he
    · rw [EmployeesUnique,hidentities]
      exact Table.identifies_empty
  · intro hstrict hevm hspelt n
    refine ((hspelt.and hevm).take n).invariant (I := fun s => AddressesUnique P s.repositories) ?_ ?_
    · exact fun s e h he => h.step hstrict he.2 he.1
    · rw [AddressesUnique,hwallets]
      exact Table.identifies_empty

section Prototype

/-- The addresses in which all letters have the same case, which carry no checksum. -/
def casePlatform : Platform :=
  { parseAddress := fun text =>
      match text.toList with
      | '0' :: 'x' :: digits =>
        if digits.length = 40 ∧ digits.all isHexDigit ∧
            (digits.all (fun c => !c.isUpper) ∨ digits.all (fun c => !c.isLower)) then
          some (BitVec.ofNat 160 (hexValue digits))
        else none
      | _ => none
    dateParse := fun _ => none }

def auditorWalletUpper : String := "0x7E5F4552091A69125D5DFCB7B8C2659029395BDF"

def signedAuth : AuthContext :=
  { chainAuth with verifyProof := fun text _ signature => signature == "signed "++text }

/-- The wallet of the key may be spelt in lower or in upper case. -/
def caseAuth : AuthContext :=
  { signedAuth with
    walletMatches := fun address key =>
      casePlatform.parseAddress address == casePlatform.parseAddress auditorWallet &&
        key == auditorKey }

theorem caseAuth_onChain : caseAuth.toContext.OnChain casePlatform := by
  refine ⟨rfl,⟨fun rows => List.Perm.refl rows,fun rows => List.Perm.refl rows⟩,?_⟩
  intro address key hmatches
  simp only [caseAuth,Bool.and_eq_true,beq_iff_eq] at hmatches
  rw [hmatches.1]
  exact Option.isSome_iff_exists.mp (by decide +kernel)

def emptyStore : UsersSystem (Option Bytes) :=
  ⟨{ identities := .empty, users := .empty, devices := .empty, wallets := .empty },prototypeWorld⟩

/-- The request of the auditor to be registered with a device. -/
def auditorRegistration (deviceId number walletAddress employeeId : String) : AuthRequest :=
  .initializeAccount
    { hasPrivateKey := false, fullName := "Auditor", deviceId, publicKey := auditorKey, walletAddress,
      challengeId := "challenge-"++number, signature := "signed nonce-"++number,
      deviceMetadata := some .leaf, employeeId := some employeeId, department := none } number

def provisioning (deviceId number : String) : AuthRequest :=
  .requestProvisioningChallenge ⟨deviceId,some .leaf⟩ ⟨"challenge-"++number,"nonce-"++number⟩

def firstRegistration : List AccountEvent :=
  [.auth signedAuth (provisioning "DEV-2" "2") (clock 1000),
   .auth signedAuth (auditorRegistration "DEV-2" "2" auditorWallet "E-2") (clock 2000)]

theorem rows_unique_registration :
    EmployeesUnique
      (accountRun prototypePlatform emptyStore (firstRegistration.take 2)).repositories ∧
    AddressesUnique prototypePlatform
      (accountRun prototypePlatform emptyStore (firstRegistration.take 2)).repositories ∧
    (accountRun prototypePlatform emptyStore (firstRegistration.take 2)).repositories.wallets.rows ≠
      [] := by
  refine ⟨?_,?_,by decide +kernel⟩
  · refine (rows_unique rfl rfl firstRegistration).1 ⟨trivial,?_,trivial⟩ 2
    intro employeeId hgiven htaken
    obtain rfl := Option.some.inj hgiven
    have htrim : jsTrim "E-2" = "E-2" := by decide +kernel
    rw [htrim] at htaken
    exact htaken
  · refine (rows_unique rfl rfl firstRegistration).2 prototypePlatform_strict ?_ ⟨trivial,?_,trivial⟩ 2
    · intro e he
      rcases List.mem_cons.mp he with rfl | he
      · exact usersContext_onChain
      · obtain rfl := List.mem_singleton.mp he
        exact usersContext_onChain
    · exact fun _ _ _ hrow => absurd hrow List.not_mem_nil

/-- The auditor registers twice, the second time with a space behind the employee id and the wallet
address in upper case. -/
def secondRegistration : List AccountEvent :=
  [.auth caseAuth (provisioning "DEV-2" "2") (clock 1000),
   .auth caseAuth (auditorRegistration "DEV-2" "2" auditorWallet "E-2") (clock 2000),
   .auth caseAuth (provisioning "DEV-3" "3") (clock 3000),
   .auth caseAuth (auditorRegistration "DEV-3" "3" auditorWalletUpper "E-2 ") (clock 4000)]

/-- The registrations of one run are both stored. -/
private theorem secondRegistration_rows :
    ((accountRun casePlatform emptyStore secondRegistration).repositories.identities.find
        "DID:BEL:2").bind Identity.employeeId = some "E-2" ∧
    ((accountRun casePlatform emptyStore secondRegistration).repositories.identities.find
        "DID:BEL:3").bind Identity.employeeId = some "E-2" ∧
    ((accountRun casePlatform emptyStore secondRegistration).repositories.wallets.find
        auditorWallet).bind (fun row => casePlatform.parseAddress row.address) =
      some 0x7e5f4552091a69125d5dfcb7b8c2659029395bdf ∧
    ((accountRun casePlatform emptyStore secondRegistration).repositories.wallets.find
        auditorWalletUpper).bind (fun row => casePlatform.parseAddress row.address) =
      some 0x7e5f4552091a69125d5dfcb7b8c2659029395bdf := by
  decide +kernel

/-- Then there are two identities of one employee and two rows of one wallet. -/
theorem second_spelling_duplicates :
    (∀ e ∈ secondRegistration,e.InEvmMode casePlatform) ∧
    ¬EmployeesUnique (accountRun casePlatform emptyStore secondRegistration).repositories ∧
    ¬AddressesUnique casePlatform
      (accountRun casePlatform emptyStore secondRegistration).repositories := by
  obtain ⟨hfirst,hsecond,hlower,hupper⟩ := secondRegistration_rows
  refine ⟨?_,?_,?_⟩
  · intro e he
    simp only [secondRegistration,List.mem_cons,List.not_mem_nil,or_false] at he
    rcases he with rfl | rfl | rfl | rfl
    · exact caseAuth_onChain
    · exact caseAuth_onChain
    · exact caseAuth_onChain
    · exact caseAuth_onChain
  · intro h
    have hsame : "DID:BEL:2" = "DID:BEL:3" := Table.Identifies.key_eq h hfirst hsecond
    exact absurd hsame (by decide)
  · intro h
    have hsame : auditorWallet = auditorWalletUpper := Table.Identifies.key_eq h hlower hupper
    exact absurd hsame (by decide)

end Prototype

end BelLedger
