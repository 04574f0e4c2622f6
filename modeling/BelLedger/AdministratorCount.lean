import BelLedger.AdminSurvival
import BelLedger.AuditRecords
import Mathlib.Data.Finset.Card

/-!
# Counting administrators

RoleRegistry keeps a counter beside the role masks. The calls name wallets while the masks belong to
DIDs; the counter is the number of DIDs that hold ADMIN all the same.
-/
namespace BelLedger
open CheckedCalls TransitionRuns RoleRegistry

variable {H : Type} [Keccak H] [DecidableEq H]

/-- The DID holds the ADMIN bit. -/
def HoldsAdmin (w : World H) (did : Bytes) : Prop := (rolesOfIdentity w did).has .ADMIN = true

structure AdminInvariant (w : World H) : Prop where
  zero_key : w.roles.roles 0 = 0
  positive : 1 ≤ w.roles.adminCount
  counted : ∃ admins : Finset Bytes,(∀ did,did ∈ admins ↔ HoldsAdmin w did) ∧
    admins.card = w.roles.adminCount

section Steps
variable {w w' : World H} {did : Bytes} {mask : Mask}

/-- A write under the digest of one DID, seen by DID. -/
private theorem holdsAdmin_update (hinj : Function.Injective (keccak256 : Bytes → H))
    (hroles : w'.roles.roles = Function.update w.roles.roles (keccak256 did) mask) (other : Bytes) :
    HoldsAdmin w' other ↔ if other = did then mask.has .ADMIN = true else HoldsAdmin w other := by
  unfold HoldsAdmin rolesOfIdentity
  rw [hroles]
  by_cases hother : other = did
  · subst hother
    simp
  · have hkey : (keccak256 other : H) ≠ keccak256 did := fun he => hother (hinj he)
    simp [hkey,hother]

private theorem AdminInvariant.keep (h : AdminInvariant w)
    (hinj : Function.Injective (keccak256 : Bytes → H)) (hkey : (keccak256 did : H) ≠ 0)
    (hroles : w'.roles.roles = Function.update w.roles.roles (keccak256 did) mask)
    (hmask : mask.has .ADMIN = true ↔ HoldsAdmin w did)
    (hcount : w'.roles.adminCount = w.roles.adminCount) : AdminInvariant w' := by
  obtain ⟨admins,hmem,hcard⟩ := h.counted
  refine ⟨?_,hcount ▸ h.positive,admins,?_,hcount ▸ hcard⟩
  · rw [hroles,Function.update_of_ne hkey.symm]
    exact h.zero_key
  · intro other
    rw [hmem,holdsAdmin_update hinj hroles]
    split
    · rename_i hother
      rw [hother]
      exact hmask.symm
    · exact Iff.rfl

private theorem AdminInvariant.grant (h : AdminInvariant w)
    (hinj : Function.Injective (keccak256 : Bytes → H)) (hkey : (keccak256 did : H) ≠ 0)
    (hroles : w'.roles.roles = Function.update w.roles.roles (keccak256 did) mask)
    (hmask : mask.has .ADMIN = true) (hnot : ¬HoldsAdmin w did)
    (hcount : w'.roles.adminCount = w.roles.adminCount + 1) : AdminInvariant w' := by
  obtain ⟨admins,hmem,hcard⟩ := h.counted
  have hdid : did ∉ admins := fun hin => hnot ((hmem did).mp hin)
  refine ⟨?_,?_,insert did admins,?_,?_⟩
  · rw [hroles,Function.update_of_ne hkey.symm]
    exact h.zero_key
  · omega
  · intro other
    rw [holdsAdmin_update hinj hroles,Finset.mem_insert]
    by_cases hother : other = did
    · simp [hother,hmask]
    · simp [hother,hmem]
  · rw [Finset.card_insert_of_notMem hdid,hcard,hcount]

private theorem AdminInvariant.withdraw (h : AdminInvariant w)
    (hinj : Function.Injective (keccak256 : Bytes → H)) (hkey : (keccak256 did : H) ≠ 0)
    (hroles : w'.roles.roles = Function.update w.roles.roles (keccak256 did) mask)
    (hmask : mask.has .ADMIN = false) (hholds : HoldsAdmin w did) (hlast : w.roles.adminCount ≠ 1)
    (hcount : w'.roles.adminCount = w.roles.adminCount - 1) : AdminInvariant w' := by
  obtain ⟨admins,hmem,hcard⟩ := h.counted
  have hpositive := h.positive
  refine ⟨?_,?_,admins.erase did,?_,?_⟩
  · rw [hroles,Function.update_of_ne hkey.symm]
    exact h.zero_key
  · omega
  · intro other
    rw [holdsAdmin_update hinj hroles,Finset.mem_erase]
    by_cases hother : other = did
    · simp [hother,hmask]
    · simp [hother,hmem]
  · rw [Finset.card_erase_of_mem ((hmem did).mpr hholds),hcard,hcount]

end Steps

section Runs
variable {w w' : World H} {env : Env} {a : Address}

omit [DecidableEq H] in
/-- A nonzero key is the digest of the wallet's DID. -/
private theorem keyOf_of_ne_zero {s : IdentityRegistry.Storage H} (h : keyOf s a ≠ 0) :
    keyOf s a = keccak256 (IdentityRegistry.identityOf s a) := by
  have hlen : (IdentityRegistry.identityOf s a).length ≠ 0 := by
    intro hlen
    exact h (by simp [keyOf,hlen])
  simp only [keyOf,if_neg hlen]

private theorem admin_genesis (hinj : Function.Injective (keccak256 : Bytes → H)) (d : Deployment)
    (w : World H) (h : Genesis d w) : AdminInvariant w := by
  refine ⟨?_,?_,{d.bootstrapDid},?_,?_⟩
  · rw [h.roles,Function.update_of_ne h.key_ne_zero.symm]
  · rw [h.adminCount]
  · intro did
    unfold HoldsAdmin rolesOfIdentity
    rw [h.roles,Finset.mem_singleton]
    by_cases hdid : did = d.bootstrapDid
    · subst hdid
      rw [Function.update_self]
      simp [BelRoles.ADMIN]
    · have hkey : (keccak256 did : H) ≠ keccak256 d.bootstrapDid := fun he => hdid (hinj he)
      rw [Function.update_of_ne hkey,Mask.zero_has]
      simp [hdid]
  · rw [h.adminCount,Finset.card_singleton]

private theorem admin_step (hinj : Function.Injective (keccak256 : Bytes → H)) (w : World H)
    (tx : Tx) (w' : World H) (hd : Deployed w) (h : AdminInvariant w) (hs : exec w tx = .ok w') :
    AdminInvariant w' := by
  by_cases htarget : tx.call.target = some .roles
  swap
  · have hroles := (exec_frame hd hs).roles htarget
    obtain ⟨hzero,hpositive,admins,hmem,hcard⟩ := h
    refine ⟨hroles ▸ hzero,hroles ▸ hpositive,admins,?_,hroles ▸ hcard⟩
    intro did
    rw [hmem]
    unfold HoldsAdmin rolesOfIdentity
    rw [hroles]
  rcases tx with ⟨env,call⟩
  cases call with
  | wire r a b c => exact absurd hs (exec_wire_ne_ok hd)
  | assignRole identity role =>
    obtain ⟨-,hkey,hbit,log,rfl,-⟩ := assignRole_cases hs
    have hkeyOf := keyOf_of_ne_zero hkey
    have hmaskOf : rolesOf w identity =
        rolesOfIdentity w (IdentityRegistry.identityOf w.identity identity) :=
      congrArg w.roles.roles hkeyOf
    rw [hkeyOf] at hkey
    by_cases hrole : role = .ADMIN
    · subst hrole
      refine h.grant hinj hkey (congrArg (Function.update _ · _) hkeyOf) (by simp) ?_ (by simp)
      unfold HoldsAdmin
      rw [← hmaskOf,hbit]
      decide
    · refine h.keep hinj hkey (congrArg (Function.update _ · _) hkeyOf) ?_ (by simp [hrole])
      unfold HoldsAdmin
      rw [← hmaskOf]
      simp [hrole]
  | revokeRole identity role =>
    obtain ⟨-,hkey,hbit,hlast,log,rfl,-⟩ := revokeRole_cases hs
    have hkeyOf := keyOf_of_ne_zero hkey
    have hmaskOf : rolesOf w identity =
        rolesOfIdentity w (IdentityRegistry.identityOf w.identity identity) :=
      congrArg w.roles.roles hkeyOf
    rw [hkeyOf] at hkey
    by_cases hrole : role = .ADMIN
    · subst hrole
      refine h.withdraw hinj hkey (congrArg (Function.update _ · _) hkeyOf) (by simp) ?_
        (hlast rfl).1 (by simp)
      unfold HoldsAdmin
      rw [← hmaskOf,hbit]
    · refine h.keep hinj hkey (congrArg (Function.update _ · _) hkeyOf) ?_ (by simp [hrole])
      unfold HoldsAdmin
      rw [← hmaskOf]
      simp [hrole]
  | _ => simp [Call.target] at htarget

theorem Reachable.admins (hinj : Function.Injective (keccak256 : Bytes → H)) (hw : Reachable w) :
    AdminInvariant w := by
  obtain ⟨hist,h⟩ := hw
  exact (h.invariant (I := AdminInvariant) (admin_genesis hinj) (admin_step hinj)).2

/-- The wallet's DID is the only one that holds ADMIN. -/
def OnlyAdmin (w : World H) (a : Address) : Prop :=
  ∀ did,HoldsAdmin w did → did = IdentityRegistry.identityOf w.identity a

omit [DecidableEq H] in
private theorem AdminInvariant.adminCount_eq_one_iff (h : AdminInvariant w)
    (ha : HoldsAdmin w (IdentityRegistry.identityOf w.identity a)) :
    w.roles.adminCount = 1 ↔ OnlyAdmin w a := by
  obtain ⟨admins,hmem,hcard⟩ := h.counted
  have hin := (hmem _).mpr ha
  constructor
  · intro hone did hdid
    rw [← hcard] at hone
    exact Finset.card_le_one.mp (Nat.le_of_eq hone) did ((hmem did).mpr hdid) _ hin
  · intro honly
    rw [← hcard,Finset.card_eq_one]
    refine ⟨_,Finset.eq_singleton_iff_unique_mem.mpr ⟨hin,?_⟩⟩
    intro did hdid
    exact honly did ((hmem did).mp hdid)

/-- For an authorised caller a revocation of ADMIN fails on the last administrator only. -/
private theorem revokeRole_admin (hw : Reachable w) (h : AdminInvariant w)
    (hauth : Authorised w .roles env.sender BelRoles.MANAGE_ROLES)
    (hregistered : (w.identity.wallets a).status ≠ .NONE)
    (hbit : (rolesOf w a).has .ADMIN = true) :
    (w.roles.adminCount = 1 → revokeRole w env a .ADMIN = .error .LastAdmin) ∧
      (w.roles.adminCount ≠ 1 → ∃ w',revokeRole w env a .ADMIN = .ok w') := by
  have hkey : keyOf w.identity a ≠ 0 := by
    intro hzero
    rw [rolesOf,hzero,h.zero_key,Mask.zero_has] at hbit
    cases hbit
  have hset : ¬(w.roles.roles (keyOf w.identity a) &&& Role.ADMIN.bit = 0) := by
    rw [Mask.and_bit_eq_zero]
    simpa [rolesOf] using hbit
  have hcheck : BelAccess.checkRoles w .roles env.sender BelRoles.MANAGE_ROLES = .ok () :=
    checkRoles_eq_ok.mpr hauth
  constructor
  · intro hone
    rw [revokeRole,hcheck]
    simp only [revertIf,hkey,hset,adminCountAfterRevoke,hone,if_true,if_false]
    rfl
  · intro hmore
    have hcount : adminCountAfterRevoke w.roles.adminCount .ADMIN = .ok (w.roles.adminCount - 1) :=
      adminCountAfterRevoke_eq_ok.mpr ⟨fun _ => ⟨hmore,h.positive⟩,by simp⟩
    have hvalid : AuditEntry.Valid { w with roles := { w.roles with
        roles := Function.update w.roles.roles (keyOf w.identity a)
          (w.roles.roles (keyOf w.identity a) &&& ~~~ Role.ADMIN.bit)
        adminCount := w.roles.adminCount - 1 } } (w.addr.of .roles) (utf8 "IDENTITY")
        (IdentityRegistry.identityOf w.identity a) (utf8 "ROLE_REVOKE") :=
      ⟨(hw.deployed.recorder _).mpr ⟨.roles,rfl⟩,by simp [AuditRegistry.validEntityType],
        hw.identity.identityOf_length hregistered,by decide,by decide⟩
    obtain ⟨log,haudit,-⟩ := audit_succeeds env hvalid
    rw [revokeRole,hcheck]
    simp only [revertIf,hkey,hset,hcount,if_false]
    exact ⟨_,haudit⟩

end Runs

section Panics
variable {w : World H} {env : Env}

/-- Not a panic of the compiler's checks. -/
def NotPanic (e : Revert) : Prop := ∀ code,e ≠ .Panic code

omit [DecidableEq H] in
private theorem checkRoles_notPanic {r : Registry} {caller : Address} {mask : Mask} :
    Outcome NotPanic (fun _ => True) (BelAccess.checkRoles w r caller mask) := by
  refine (outcome_revertIf fun _ => nofun).bind fun _ _ => ?_
  refine (outcome_revertIf fun _ => nofun).bind fun _ _ => ?_
  exact ⟨(outcome_revertIf fun _ => nofun).error,fun _ _ => trivial⟩

private theorem audit_notPanic {r : Registry} {entityType entityId action : Bytes} :
    Outcome NotPanic (fun _ => True) (audit w r env entityType entityId action) := by
  refine audit_outcome ?_
  rintro _ haudit code rfl
  cases haudit

private theorem revokeRole_notPanic (h : 1 ≤ w.roles.adminCount) {a : Address} {role : Role} :
    Outcome NotPanic (fun _ => True) (revokeRole w env a role) := by
  refine checkRoles_notPanic.bind fun _ _ => ?_
  refine (outcome_revertIf fun _ => nofun).bind fun _ _ => ?_
  refine (outcome_revertIf fun _ => nofun).bind fun _ _ => ?_
  refine Outcome.bind (adminCountAfterRevoke_outcome nofun ?_) fun _ _ => audit_notPanic
  intro hlt
  omega

end Panics

/-- The counter, its guard, and the roles that the wallets of one DID share. -/
structure AdministratorCount (w : World H) : Prop where
  counted : ∃ admins : Finset Bytes,(∀ did,did ∈ admins ↔ HoldsAdmin w did) ∧
    admins.card = w.roles.adminCount
  positive : 1 ≤ w.roles.adminCount
  no_panic : ∀ env a role code,revokeRole w env a role ≠ .error (.Panic code)
  last_admin : ∀ env a,Authorised w .roles env.sender BelRoles.MANAGE_ROLES →
    (w.identity.wallets a).status ≠ .NONE → (rolesOf w a).has .ADMIN = true →
    (revokeRole w env a .ADMIN = .error .LastAdmin ↔ OnlyAdmin w a) ∧
    ((∃ w',revokeRole w env a .ADMIN = .ok w') ↔ ¬OnlyAdmin w a)
  shared : ∀ a b,(w.identity.wallets a).status ≠ .NONE → (w.identity.wallets b).status ≠ .NONE →
    IdentityRegistry.identityOf w.identity a = IdentityRegistry.identityOf w.identity b →
    rolesOf w a = rolesOf w b
  linked_later : ∀ env wallet did w',exec w ⟨env,.createIdentity wallet did⟩ = .ok w' →
    rolesOf w' wallet = rolesOfIdentity w did ∧
    ∀ b,(w.identity.wallets b).status ≠ .NONE →
      IdentityRegistry.identityOf w.identity b = did → rolesOf w' wallet = rolesOf w b

section Counting
variable {w : World H}

omit [DecidableEq H] in
private theorem IdentityInvariant.rolesOf_registered (h : IdentityInvariant w.identity)
    {a : Address} (ha : (w.identity.wallets a).status ≠ .NONE) :
    rolesOf w a = rolesOfIdentity w (IdentityRegistry.identityOf w.identity a) :=
  congrArg w.roles.roles (h.keyOf_registered ha)

/-- In every reachable state the counter is the number of administrators and the guard on it stops
exactly the revocation that would leave none; the wallets of a DID carry the same roles. -/
theorem administrators_counted (hinj : Function.Injective (keccak256 : Bytes → H)) (w : World H)
    (hw : Reachable w) : AdministratorCount w := by
  have h := hw.admins hinj
  have hi := hw.identity
  refine ⟨h.counted,h.positive,?_,?_,?_,?_⟩
  · intro env a role code he
    exact (revokeRole_notPanic h.positive).error _ he code rfl
  · intro env a hauth hregistered hbit
    have hholds : HoldsAdmin w (IdentityRegistry.identityOf w.identity a) := by
      unfold HoldsAdmin
      rwa [← hi.rolesOf_registered hregistered]
    obtain ⟨hlast,hmore⟩ := revokeRole_admin hw h hauth hregistered hbit
    rw [← h.adminCount_eq_one_iff hholds]
    refine ⟨⟨?_,hlast⟩,⟨?_,hmore⟩⟩
    · intro he
      by_contra hne
      obtain ⟨w',hok⟩ := hmore hne
      rw [hok] at he
      cases he
    · rintro ⟨w',hok⟩ hone
      rw [hlast hone] at hok
      cases hok
  · intro a b ha hb hdid
    rw [hi.rolesOf_registered ha,hi.rolesOf_registered hb,hdid]
  · intro env wallet did w' hs
    obtain ⟨hregistered,hdid⟩ := exec_createIdentity hinj hw hs
    have hroles := (exec_frame hw.deployed hs).roles (by simp [Call.target])
    have hlinked : rolesOf w' wallet = rolesOfIdentity w did := by
      rw [(hw.step hs).identity.rolesOf_registered hregistered,hdid]
      unfold rolesOfIdentity
      rw [hroles]
    refine ⟨hlinked,?_⟩
    intro b hb hsame
    rw [hlinked,hi.rolesOf_registered hb,hsame]

end Counting

section Prototype

/-- A second administrator with two wallets; the first one's role is then taken away. -/
def administratorTxs : List Tx :=
  handoverTxs.take 3++[txOf 0xae 5 (.revokeRole 0xad .ADMIN),
    txOf 0xae 6 (.createIdentity 0xaf (utf8 "DID:BEL:ADMIN2")),
    txOf 0xae 7 (.revokeRole 0xaf .ADMIN)]

theorem administrators_counted_prototype :
    ((attemptAll exec prototypeWorld administratorTxs).roles.adminCount = 1 ∧
      rolesOf (attemptAll exec prototypeWorld administratorTxs) 0xaf = BelRoles.ADMIN) ∧
      AdministratorCount (attemptAll exec prototypeWorld administratorTxs) :=
  ⟨by decide +kernel,administrators_counted prototype_keccak_injective _
    (prototype_reachable administratorTxs)⟩

end Prototype
end BelLedger
