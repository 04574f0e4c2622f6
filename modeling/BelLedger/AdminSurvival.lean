import BelLedger.AccessSoundness

/-!
# Whether the set can still be administered

RoleRegistry counts identities that hold ADMIN; administering needs one of them to have an ACTIVE
wallet. The two agree only as long as every revocation leaves such a wallet behind.
-/
namespace BelLedger
open CheckedCalls TransitionRuns IdentityRegistry

variable {H : Type} [Keccak H]

/-- An ACTIVE wallet whose DID holds ADMIN. -/
def AdminWallet (w : World H) (a : Address) : Prop :=
  Active w.identity a ∧ DidHolds w a BelRoles.ADMIN

def Administrable (w : World H) : Prop := ∃ a,AdminWallet w a

/-- A revocation is asked to leave an administrator's wallet other than the one it takes away. -/
def KeepsAdmin (w : World H) (tx : Tx) : Prop :=
  match tx.call with
  | .revokeWallet wallet _ => ∃ a,a ≠ wallet ∧ AdminWallet w a
  | .revokeRole identity .ADMIN =>
    ∃ a,AdminWallet w a ∧ identityOf w.identity a ≠ identityOf w.identity identity
  | _ => True

section Steps
variable {w w' : World H}

theorem didHolds_admin {a : Address} : DidHolds w a BelRoles.ADMIN ↔
    (RoleRegistry.rolesOfIdentity w (identityOf w.identity a)).has .ADMIN = true := by
  unfold DidHolds BelRoles.ADMIN
  rw [ne_eq,Mask.and_bit_eq_zero,Bool.not_eq_false]

variable [DecidableEq H]

/-- An administrator's wallet that stays ACTIVE keeps its DID, so it only depends on the roles. -/
private theorem adminWallet_of_roles_eq (hi : IdentityInvariant w.identity)
    (hstep : IdentityStep w.identity w'.identity) (hroles : w'.roles = w.roles) {a : Address}
    (ha : AdminWallet w a) (hactive : Active w'.identity a) : AdminWallet w' a := by
  have hne : (w.identity.wallets a).status ≠ .NONE := by
    rw [show (w.identity.wallets a).status = .ACTIVE from ha.1]
    decide
  refine ⟨hactive,?_⟩
  have hholds := ha.2
  unfold DidHolds RoleRegistry.rolesOfIdentity at hholds ⊢
  rwa [hstep.identityOf_eq hi hne,hroles]

private theorem administrable_createIdentity (hi : IdentityInvariant w.identity) {env : Env}
    {wallet : Address} {did : Bytes} (hd : Deployed w)
    (hs : exec w ⟨env,.createIdentity wallet did⟩ = .ok w') (h : Administrable w) :
    Administrable w' := by
  obtain ⟨a,ha⟩ := h
  refine ⟨a,adminWallet_of_roles_eq hi (exec_identityStep hd hs)
    ((exec_frame hd hs).roles (by simp [Call.target])) ha ?_⟩
  obtain ⟨-,-,-,hnew,log,rfl,-⟩ := createIdentity_cases hs
  have hactive : (w.identity.wallets a).status = .ACTIVE := ha.1
  have haw : a ≠ wallet := by
    rintro rfl
    simp [hactive] at hnew
  simpa [Active,registered,haw] using hactive

private theorem administrable_activateWallet (hi : IdentityInvariant w.identity) {env : Env}
    {wallet : Address} (hd : Deployed w) (hs : exec w ⟨env,.activateWallet wallet⟩ = .ok w')
    (h : Administrable w) : Administrable w' := by
  obtain ⟨a,ha⟩ := h
  refine ⟨a,adminWallet_of_roles_eq hi (exec_identityStep hd hs)
    ((exec_frame hd hs).roles (by simp [Call.target])) ha ?_⟩
  obtain ⟨-,-,log,rfl,-⟩ := activateWallet_cases hs
  by_cases haw : a = wallet
  · simp [Active,setWallet,haw]
  · simpa [Active,setWallet,haw] using ha.1

private theorem administrable_revokeWallet (hi : IdentityInvariant w.identity) {env : Env}
    {wallet : Address} {reason : Bytes} (hd : Deployed w)
    (hs : exec w ⟨env,.revokeWallet wallet reason⟩ = .ok w') :
    Administrable w' ↔ ∃ a,a ≠ wallet ∧ AdminWallet w a := by
  have hroles := (exec_frame hd hs).roles (by simp [Call.target])
  have hstep := exec_identityStep hd hs
  have hstatus : ∀ a,Active w'.identity a ↔ a ≠ wallet ∧ Active w.identity a := by
    intro a
    obtain ⟨-,-,-,-,log,rfl,-⟩ := revokeWallet_cases hs
    by_cases haw : a = wallet
    · simp [Active,setWallet,haw]
    · simp [Active,setWallet,haw]
  constructor
  · rintro ⟨a,ha⟩
    obtain ⟨haw,hactive⟩ := (hstatus a).mp ha.1
    have hne : (w.identity.wallets a).status ≠ .NONE := by
      rw [show (w.identity.wallets a).status = .ACTIVE from hactive]
      decide
    refine ⟨a,haw,hactive,?_⟩
    have hholds := ha.2
    unfold DidHolds RoleRegistry.rolesOfIdentity at hholds ⊢
    rwa [hstep.identityOf_eq hi hne,hroles] at hholds
  · rintro ⟨a,haw,ha⟩
    exact ⟨a,adminWallet_of_roles_eq hi hstep hroles ha ((hstatus a).mpr ⟨haw,ha.1⟩)⟩

private theorem administrable_assignRole {env : Env} {identity : Address} {role : Role}
    (hs : exec w ⟨env,.assignRole identity role⟩ = .ok w') (h : Administrable w) :
    Administrable w' := by
  obtain ⟨a,hactive,hholds⟩ := h
  obtain ⟨-,-,-,log,rfl,-⟩ := assignRole_cases hs
  refine ⟨a,hactive,?_⟩
  rw [didHolds_admin] at hholds ⊢
  unfold RoleRegistry.rolesOfIdentity at hholds ⊢
  by_cases hkey : keccak256 (identityOf w.identity a) = RoleRegistry.keyOf w.identity identity
  · rw [hkey] at hholds
    simp [hkey,RoleRegistry.rolesOf,hholds]
  · simpa [Function.update_of_ne hkey] using hholds

private theorem administrable_revokeRole_other {env : Env} {identity : Address} {role : Role}
    (hrole : role ≠ .ADMIN) (hs : exec w ⟨env,.revokeRole identity role⟩ = .ok w')
    (h : Administrable w) : Administrable w' := by
  obtain ⟨a,hactive,hholds⟩ := h
  obtain ⟨-,-,-,-,log,rfl,-⟩ := revokeRole_cases hs
  refine ⟨a,hactive,?_⟩
  rw [didHolds_admin] at hholds ⊢
  unfold RoleRegistry.rolesOfIdentity at hholds ⊢
  by_cases hkey : keccak256 (identityOf w.identity a) = RoleRegistry.keyOf w.identity identity
  · rw [hkey] at hholds
    simp [hkey,RoleRegistry.rolesOf,hholds,hrole]
  · simpa [Function.update_of_ne hkey] using hholds

omit [DecidableEq H] in
private theorem identityOf_length_of_keyOf {s : Storage H} {a : Address}
    (h : RoleRegistry.keyOf s a ≠ 0) : (identityOf s a).length ≠ 0 := by
  intro hlen
  exact h (by simp [RoleRegistry.keyOf,hlen])

private theorem administrable_revokeRole_admin (hi : IdentityInvariant w.identity) {env : Env}
    {identity : Address} (hs : exec w ⟨env,.revokeRole identity .ADMIN⟩ = .ok w') :
    Administrable w' ↔
      ∃ a,AdminWallet w a ∧ identityOf w.identity a ≠ identityOf w.identity identity := by
  obtain ⟨-,hkey,-,-,log,rfl,-⟩ := revokeRole_cases hs
  have hlen := identityOf_length_of_keyOf hkey
  have hkeyOf : RoleRegistry.keyOf w.identity identity =
      keccak256 (identityOf w.identity identity) := by
    simp [RoleRegistry.keyOf,hlen]
  constructor
  · rintro ⟨a,hactive,hholds⟩
    rw [didHolds_admin] at hholds
    unfold RoleRegistry.rolesOfIdentity at hholds
    by_cases hsame : keccak256 (identityOf w.identity a) = RoleRegistry.keyOf w.identity identity
    · simp [hsame] at hholds
    · refine ⟨a,⟨hactive,didHolds_admin.mpr ?_⟩,?_⟩
      · simpa [Function.update_of_ne hsame,RoleRegistry.rolesOfIdentity] using hholds
      · intro hdid
        exact hsame (by rw [hdid,hkeyOf])
  · rintro ⟨a,⟨hactive,hholds⟩,hdid⟩
    have hactive' : Active w.identity a := hactive
    have hne : (w.identity.wallets a).status ≠ .NONE := by
      rw [show (w.identity.wallets a).status = .ACTIVE from hactive]
      decide
    have hsame : keccak256 (identityOf w.identity a) ≠ RoleRegistry.keyOf w.identity identity := by
      intro he
      rw [← hi.keyOf_active hactive'] at he
      exact hdid (hi.identityOf_eq_of_keyOf_eq (hi.identityOf_length hne).1 hlen he)
    refine ⟨a,hactive,?_⟩
    rw [didHolds_admin] at hholds ⊢
    unfold RoleRegistry.rolesOfIdentity at hholds ⊢
    simpa [Function.update_of_ne hsame] using hholds

/-- One transaction keeps the set administrable exactly when it keeps an administrator. -/
theorem exec_administrable (hd : Deployed w) (hi : IdentityInvariant w.identity) {tx : Tx}
    (hs : exec w tx = .ok w') (h : Administrable w) : Administrable w' ↔ KeepsAdmin w tx := by
  rcases tx with ⟨env,call⟩
  -- a call on another registry leaves wallets, DIDs and roles alone
  have hframe : call.target ≠ some .identity → call.target ≠ some .roles → Administrable w' := by
    intro hidentity hroles
    obtain ⟨a,ha⟩ := h
    have hf := exec_frame hd hs
    refine ⟨a,?_⟩
    unfold AdminWallet DidHolds RoleRegistry.rolesOfIdentity at ha ⊢
    rwa [hf.identity hidentity,hf.roles hroles]
  cases call with
  | wire r a b c => exact absurd hs (exec_wire_ne_ok hd)
  | createIdentity wallet did =>
    exact iff_of_true (administrable_createIdentity hi hd hs h) trivial
  | activateWallet wallet => exact iff_of_true (administrable_activateWallet hi hd hs h) trivial
  | revokeWallet wallet reason => exact administrable_revokeWallet hi hd hs
  | assignRole identity role => exact iff_of_true (administrable_assignRole hs h) trivial
  | revokeRole identity role =>
    cases role with
    | ADMIN => exact administrable_revokeRole_admin hi hs
    | _ => exact iff_of_true (administrable_revokeRole_other (by decide) hs h) trivial
  | _ => exact iff_of_true (hframe (by simp [Call.target]) (by simp [Call.target])) trivial

end Steps

section Runs
variable [DecidableEq H]

private theorem genesis_administrable (d : Deployment) (w : World H) (h : Genesis d w) :
    Administrable w := by
  refine ⟨d.bootstrapAdmin,?_,didHolds_admin.mpr ?_⟩
  · simp [Active,h.wallets,Deployment.adminWallet]
  · simp [RoleRegistry.rolesOfIdentity,identityOf,h.wallets,h.dids,h.roles,Deployment.adminWallet,
      BelRoles.ADMIN]

/-- A run is administrable throughout exactly when each of its revocations keeps an administrator. -/
theorem administrable_iff_keepsAdmin (hist : List (World H × Tx)) (w : World H)
    (h : ReachedBy hist w) :
    (Administrable w ∧ ∀ s tx,(s,tx) ∈ hist → Administrable s) ↔
      ∀ s tx,(s,tx) ∈ hist → KeepsAdmin s tx := by
  refine h.history_invariant (I := fun hist w =>
    (Administrable w ∧ ∀ s tx,(s,tx) ∈ hist → Administrable s) ↔
      ∀ s tx,(s,tx) ∈ hist → KeepsAdmin s tx) ?_ ?_
  · intro d w hgen
    simp [genesis_administrable d w hgen]
  · intro hist w tx w' hreached hd ih hs
    have hi := Reachable.identity ⟨hist,hreached⟩
    constructor
    · rintro ⟨hw',hall⟩
      have hw : Administrable w := hall w tx (List.mem_cons_self ..)
      have hearlier := ih.mp ⟨hw,fun s t hmem => hall s t (List.mem_cons_of_mem _ hmem)⟩
      intro s t hmem
      rcases List.mem_cons.mp hmem with heq | hmem
      · obtain ⟨rfl,rfl⟩ := Prod.mk.inj heq
        exact (exec_administrable hd hi hs hw).mp hw'
      · exact hearlier s t hmem
    · intro hkeeps
      obtain ⟨hw,hearlier⟩ := ih.mpr (fun s t hmem => hkeeps s t (List.mem_cons_of_mem _ hmem))
      refine ⟨(exec_administrable hd hi hs hw).mpr (hkeeps w tx (List.mem_cons_self ..)),?_⟩
      intro s t hmem
      rcases List.mem_cons.mp hmem with heq | hmem
      · obtain ⟨rfl,rfl⟩ := Prod.mk.inj heq
        exact hw
      · exact hearlier s t hmem

end Runs

section Prototype

def onboardingTxs : List Tx :=
  [txOf 0xad 2 (.createIdentity 0xae (utf8 "DID:BEL:ADMIN2")),
   txOf 0xad 3 (.activateWallet 0xae),
   txOf 0xad 4 (.assignRole 0xae .ADMIN)]

/-- A second administrator is onboarded before the first one's wallet is revoked. -/
def handoverTxs : List Tx := onboardingTxs++[txOf 0xae 5 (.revokeWallet 0xad (utf8 "left"))]

private theorem handover_keepsAdmin (s : World (Option Bytes)) (tx : Tx)
    (hmem : (s,tx) ∈ history exec prototypeWorld handoverTxs) : KeepsAdmin s tx := by
  have hsecond : AdminWallet (attemptAll exec prototypeWorld onboardingTxs) 0xae := by
    unfold AdminWallet Active DidHolds
    decide +kernel
  rw [handoverTxs,history_append,List.mem_append] at hmem
  rcases hmem with hlast | hearlier
  · rw [history] at hlast
    split at hlast
    · obtain ⟨rfl,rfl⟩ := Prod.mk.inj (List.mem_singleton.mp hlast)
      exact ⟨0xae,by decide,hsecond⟩
    · cases hlast
  · have htx := mem_of_mem_history hearlier
    simp only [onboardingTxs,List.mem_cons,List.not_mem_nil,or_false] at htx
    rcases htx with rfl | rfl | rfl
    · trivial
    · trivial
    · trivial

theorem administrable_handover :
    (history exec prototypeWorld handoverTxs).length = 4 ∧
      Administrable (attemptAll exec prototypeWorld handoverTxs) ∧
      ∀ s tx,(s,tx) ∈ history exec prototypeWorld handoverTxs → Administrable s :=
  ⟨by decide +kernel,
    (administrable_iff_keepsAdmin _ _ (prototype_reachedBy handoverTxs)).mpr handover_keepsAdmin⟩

/-- The only administrator revokes their only wallet. -/
def lockoutTx : Tx := txOf 0xad 2 (.revokeWallet 0xad (utf8 "lost"))

private theorem lockout_inactive (a : Address) :
    ¬Active (attempt exec prototypeWorld lockoutTx).identity a := by
  have hgen := deploy_genesis deploy_prototype
  have hrevoked : ((attempt exec prototypeWorld lockoutTx).identity.wallets 0xad).status =
      .REVOKED := by decide +kernel
  have hother : ∀ b : Address,b ≠ 0xad → (prototypeWorld.identity.wallets b).status = .NONE := by
    intro b hb
    rw [hgen.wallets,Function.update_of_ne (show b ≠ prototype.bootstrapAdmin from hb)]
  intro hactive
  unfold Active at hactive
  by_cases ha : a = 0xad
  · subst ha
    rw [hrevoked] at hactive
    cases hactive
  unfold attempt at hactive
  cases hs : exec prototypeWorld lockoutTx with
  | error e =>
    rw [hs] at hactive
    simp [hother a ha] at hactive
  | ok t =>
    rw [hs] at hactive
    obtain ⟨-,-,-,-,log,rfl,-⟩ := revokeWallet_cases hs
    simp only [setWallet,Function.update_of_ne ha,hother a ha] at hactive
    cases hactive

theorem not_always_administrable :
    ¬∀ w : World (Option Bytes),Reachable w → Administrable w := by
  intro hall
  obtain ⟨a,hactive,-⟩ := hall _ (prototype_reachable [lockoutTx])
  exact lockout_inactive a hactive

end Prototype
end BelLedger
