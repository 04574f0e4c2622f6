import BelLedger.RegistryFrames

/-! # The state a successful deployment starts from -/
namespace BelLedger
open CheckedCalls TransitionRuns

variable {H : Type} [Keccak H] [DecidableEq H]

/-- `BelAccess` storage after construction and wiring. -/
def Deployment.access (d : Deployment) : Access :=
  { deployer := d.env.sender, wired := true, identityRegistry := d.addr.identity,
    roleRegistry := d.addr.roles, auditRegistry := d.addr.audit }

/-- The record of the bootstrap administrator's wallet. -/
def Deployment.adminWallet (d : Deployment) : IdentityRegistry.WalletRecord H :=
  { identityKey := keccak256 d.bootstrapDid, status := .ACTIVE,
    registeredAt := uint64 d.env.timestamp, activatedAt := uint64 d.env.timestamp,
    revokedAt := 0, revokedReason := [] }

/-- The storages of a fresh deployment. -/
structure Genesis (d : Deployment) (w : World H) : Prop where
  addr : w.addr = d.addr
  access : ∀ r,w.access r = d.access
  admin_ne_zero : d.bootstrapAdmin ≠ 0
  did_length : d.bootstrapDid.length ≠ 0 ∧ d.bootstrapDid.length ≤ IdentityRegistry.MAX_DID_LENGTH
  key_ne_zero : (keccak256 d.bootstrapDid : H) ≠ 0
  wallets : w.identity.wallets =
    Function.update (fun _ => ⟨0,.NONE,0,0,0,[]⟩) d.bootstrapAdmin d.adminWallet
  dids : w.identity.dids = Function.update (fun _ => []) (keccak256 d.bootstrapDid) d.bootstrapDid
  walletsOfIdentity : w.identity.walletsOfIdentity =
    Function.update (fun _ => []) (keccak256 d.bootstrapDid) [d.bootstrapAdmin]
  roles : w.roles.roles = Function.update (fun _ => 0) (keccak256 d.bootstrapDid) BelRoles.ADMIN
  adminCount : w.roles.adminCount = 1
  assets : w.assets = { AssetRegistry.deploy d.env with access := d.access }
  jobs : w.jobs.jobs = fun _ => ⟨[],0,0,0,0,0,.NONE,0,0,0,0,0,[]⟩
  minimumPopulation : w.validators.minimumPopulation = d.minimumPopulation
  population : d.minimumPopulation ≠ 0 ∧ d.minimumPopulation ≤ d.bootstrap.length
  records : w.validators.records = fun _ => ⟨false,0,[],[],0,0,0⟩
  validators : w.validators.validators = []
  bootstrapValidators : w.validators.bootstrapValidators = d.bootstrap
  bootstrap_nodup : d.bootstrap.Nodup
  isBootstrap : ∀ a,w.validators.isBootstrap a = true ↔ a ∈ d.bootstrap
  bootstrap_ne_zero : ∀ a ∈ d.bootstrap,a ≠ 0
  recorder : ∀ a,w.audit.isRecorder a = true ↔ ∃ r,a = d.addr.of r

private theorem addBootstrap_eq_ok {vs : List Address} {acc : List Address × (Address → Bool)}
    {r : List Address × (Address → Bool)} (h : ValidatorRegistry.addBootstrap vs acc = .ok r) :
    r.1 = acc.1++vs ∧ (∀ a,r.2 a = true ↔ acc.2 a = true ∨ a ∈ vs) ∧ vs.Nodup ∧
      ∀ v ∈ vs,v ≠ 0 ∧ acc.2 v = false := by
  induction vs generalizing acc with
  | nil =>
    cases h
    simp
  | cons v vs ih =>
    simp only [ValidatorRegistry.addBootstrap,revertIf_bind_eq_ok,Bool.not_eq_true] at h
    obtain ⟨hzero,hnew,h⟩ := h
    obtain ⟨hlist,hmem,hnodup,hne⟩ := ih h
    have hv : v ∉ vs := by
      intro hv
      have hbad := (hne v hv).2
      simp at hbad
    refine ⟨by simp [hlist],?_,List.nodup_cons.mpr ⟨hv,hnodup⟩,?_⟩
    · intro a
      rw [hmem a]
      by_cases ha : a = v
      · subst ha
        simp
      · simp [ha]
    · intro a ha
      rcases List.mem_cons.mp ha with rfl | ha
      · exact ⟨hzero,hnew⟩
      · have hav : a ≠ v := fun he => hv (he ▸ ha)
        simpa [Function.update_of_ne hav] using hne a ha

private theorem addRecorders_eq_ok {rs : List Address} {f g : Address → Bool}
    (h : AuditRegistry.addRecorders rs f = .ok g) (a : Address) :
    g a = true ↔ f a = true ∨ a ∈ rs := by
  induction rs generalizing f with
  | nil =>
    cases h
    simp
  | cons r rs ih =>
    simp only [AuditRegistry.addRecorders,revertIf_bind_eq_ok] at h
    rw [ih h.2]
    by_cases ha : a = r
    · subst ha
      simp
    · simp [ha]

private theorem wire_eq_ok {d : Deployment} {a a' : Access} (h : d.wire a = .ok a')
    (hfresh : a = { deployer := d.env.sender }) : a' = d.access := by
  subst hfresh
  simp only [Deployment.wire,BelAccess.wire,revertIf_bind_eq_ok,ok_pure_iff] at h
  obtain ⟨-,-,-,rfl⟩ := h
  rfl

private theorem identity_deploy_eq_ok {env : Env} {wallet : Address} {did : Bytes}
    {s : IdentityRegistry.Storage H} (h : IdentityRegistry.deploy env wallet did = .ok s) :
    wallet ≠ 0 ∧ (did.length ≠ 0 ∧ did.length ≤ IdentityRegistry.MAX_DID_LENGTH) ∧
    s.access = { deployer := env.sender } ∧
    s.wallets = Function.update (fun _ => ⟨0,.NONE,0,0,0,[]⟩) wallet
      ⟨keccak256 did,.ACTIVE,uint64 env.timestamp,uint64 env.timestamp,0,[]⟩ ∧
    s.dids = Function.update (fun _ => []) (keccak256 did) did ∧
    s.walletsOfIdentity = Function.update (fun _ => []) (keccak256 did) [wallet] := by
  obtain ⟨s₀,hregister,h⟩ := ok_bind_iff.mp h
  obtain ⟨hwallet,hdid,-,rfl⟩ := register_eq_ok.mp hregister
  obtain rfl := ok_pure_iff.mp h
  refine ⟨hwallet,hdid,rfl,?_,?_,?_⟩
  · simp [registered]
  · simp [registered]
  · simp [registered]

theorem deploy_genesis {d : Deployment} {w : World H} (h : deploy d = .ok w) : Genesis d w := by
  simp only [deploy,revertIf_bind_eq_ok] at h
  obtain ⟨-,-,h⟩ := h
  obtain ⟨identity,hidentity,h⟩ := ok_bind_iff.mp h
  obtain ⟨hwallet,hdid,hiaccess,hwallets,hdids,hwalletsOf⟩ := identity_deploy_eq_ok hidentity
  obtain ⟨roles,hroles,h⟩ := ok_bind_iff.mp h
  have hdidOf : IdentityRegistry.identityOf identity d.bootstrapAdmin = d.bootstrapDid := by
    simp [IdentityRegistry.identityOf,hwallets,hdids]
  have hkeyOf : RoleRegistry.keyOf identity d.bootstrapAdmin = keccak256 d.bootstrapDid := by
    simp only [RoleRegistry.keyOf,hdidOf,if_neg hdid.1]
  simp only [RoleRegistry.deploy,revertIf_bind_eq_ok,ok_pure_iff,hkeyOf] at hroles
  obtain ⟨-,hkey,rfl⟩ := hroles
  obtain ⟨jobs,hjobs,h⟩ := ok_bind_iff.mp h
  simp only [JobManager.deploy,revertIf_bind_eq_ok,ok_pure_iff] at hjobs
  obtain ⟨-,rfl⟩ := hjobs
  obtain ⟨validators,hvalidators,h⟩ := ok_bind_iff.mp h
  simp only [ValidatorRegistry.deploy,revertIf_bind_eq_ok,not_or,Nat.not_lt] at hvalidators
  obtain ⟨hpopulation,hvalidators⟩ := hvalidators
  obtain ⟨boot,hboot,hvalidators⟩ := ok_bind_iff.mp hvalidators
  obtain ⟨hblist,hbmem,hbnodup,hbzero⟩ := addBootstrap_eq_ok hboot
  obtain rfl := ok_pure_iff.mp hvalidators
  obtain ⟨log,hlog,h⟩ := ok_bind_iff.mp h
  simp only [AuditRegistry.deploy,revertIf_bind_eq_ok] at hlog
  obtain ⟨-,hlog⟩ := hlog
  obtain ⟨recorders,hrecorders,hlog⟩ := ok_bind_iff.mp hlog
  obtain rfl := ok_pure_iff.mp hlog
  obtain ⟨a₁,ha₁,h⟩ := ok_bind_iff.mp h
  obtain ⟨a₂,ha₂,h⟩ := ok_bind_iff.mp h
  obtain ⟨a₃,ha₃,h⟩ := ok_bind_iff.mp h
  obtain ⟨a₄,ha₄,h⟩ := ok_bind_iff.mp h
  obtain ⟨a₅,ha₅,h⟩ := ok_bind_iff.mp h
  obtain rfl := wire_eq_ok ha₁ hiaccess
  obtain rfl := wire_eq_ok ha₂ rfl
  obtain rfl := wire_eq_ok ha₃ rfl
  obtain rfl := wire_eq_ok ha₄ rfl
  obtain rfl := wire_eq_ok ha₅ rfl
  obtain rfl := ok_pure_iff.mp h
  refine ⟨rfl,fun r => by cases r <;> rfl,hwallet,hdid,hkey,hwallets,hdids,hwalletsOf,rfl,rfl,rfl,
    rfl,rfl,hpopulation,rfl,rfl,by simpa using hblist,hbnodup,?_,fun a ha => (hbzero a ha).1,?_⟩
  · intro a
    simpa using hbmem a
  · intro a
    rw [addRecorders_eq_ok hrecorders a]
    constructor
    · intro ha
      simp only [Bool.false_eq_true,List.mem_cons,List.not_mem_nil,or_false,false_or] at ha
      rcases ha with rfl | rfl | rfl | rfl | rfl
      · exact ⟨.identity,rfl⟩
      · exact ⟨.roles,rfl⟩
      · exact ⟨.assets,rfl⟩
      · exact ⟨.jobs,rfl⟩
      · exact ⟨.validators,rfl⟩
    · rintro ⟨r,rfl⟩
      cases r <;> simp [Addresses.of]

theorem Genesis.deployed {d : Deployment} {w : World H} (h : Genesis d w) : Deployed w := by
  refine ⟨?_,?_,?_,?_,?_⟩
  · intro r
    rw [h.access]
    rfl
  · intro r
    rw [h.access,h.addr]
    rfl
  · intro r
    rw [h.access,h.addr]
    rfl
  · intro r
    rw [h.access,h.addr]
    rfl
  · intro a
    rw [h.addr]
    exact h.recorder a

/-- An invariant of every fresh deployment that every transaction of a deployed set keeps holds in
every reachable state. -/
theorem ReachedBy.invariant {I : World H → Prop} {w : World H} {hist : List (World H × Tx)}
    (h0 : ∀ d w,Genesis d w → I w)
    (hstep : ∀ w tx w',Deployed w → I w → exec w tx = .ok w' → I w')
    (h : ReachedBy hist w) : Deployed w ∧ I w := by
  obtain ⟨d,w₀,hdeploy,hrun⟩ := h
  have hgen := deploy_genesis hdeploy
  refine hrun.invariant (P := fun w => Deployed w ∧ I w) ?_ ⟨hgen.deployed,h0 d w₀ hgen⟩
  rintro s tx t ⟨hd,hp⟩ hs
  exact ⟨(exec_frame hd hs).deployed hd,hstep s tx t hd hp hs⟩

theorem Reachable.deployed {w : World H} (h : Reachable w) : Deployed w := by
  obtain ⟨hist,h⟩ := h
  exact (h.invariant (I := fun _ => True) (fun _ _ _ => trivial)
    (fun _ _ _ _ _ _ => trivial)).1

/-- The same rule for a property of a state together with the transactions that led there. -/
theorem ReachedBy.history_invariant {I : List (World H × Tx) → World H → Prop} {w : World H}
    {hist : List (World H × Tx)} (h0 : ∀ d w,Genesis d w → I [] w)
    (hstep : ∀ hist w tx w',ReachedBy hist w → Deployed w → I hist w → exec w tx = .ok w' →
      I ((w,tx)::hist) w')
    (h : ReachedBy hist w) : I hist w := by
  obtain ⟨d,w₀,hdeploy,hrun⟩ := h
  refine hrun.history_invariant (h0 d w₀ (deploy_genesis hdeploy)) ?_
  intro earlier s tx t hearlier hi hs
  have hreached : ReachedBy earlier s := ⟨d,w₀,hdeploy,hearlier⟩
  exact hstep earlier s tx t hreached (Reachable.deployed ⟨earlier,hreached⟩) hi hs

/-- Every recorded transaction was executed in its recorded state, reached by the earlier ones. -/
theorem ReachedBy.split {w s : World H} {tx : Tx} {later earlier : List (World H × Tx)}
    (h : ReachedBy (later++(s,tx)::earlier) w) :
    ∃ t,ReachedBy earlier s ∧ exec s tx = .ok t ∧ Run exec t later w := by
  obtain ⟨d,w₀,hdeploy,hrun⟩ := h
  obtain ⟨t,hearlier,hs,hlater⟩ := hrun.split
  exact ⟨t,⟨d,w₀,hdeploy,hearlier⟩,hs,hlater⟩

theorem Reachable.step {w w' : World H} {tx : Tx} (h : Reachable w) (hs : exec w tx = .ok w') :
    Reachable w' := by
  obtain ⟨hist,d,w₀,hdeploy,hrun⟩ := h
  exact ⟨_,d,w₀,hdeploy,.step tx hrun hs⟩

section Prototype

/-- The identity on byte strings as a digest, with a zero that no string has. -/
instance : Keccak (Option Bytes) where
  zero := none
  keccak256 := some

theorem prototype_keccak_injective : Function.Injective (keccak256 : Bytes → Option Bytes) :=
  fun _ _ h => Option.some.inj h

/-- The four-validator profile of the deployment script. -/
def prototype : Deployment :=
  { env := ⟨0xde,1,1,1⟩
    addr := ⟨0xa1,0xa2,0xa3,0xa4,0xa5,0xa6⟩
    bootstrapAdmin := 0xad
    bootstrapDid := utf8 "DID:BEL:ADMIN"
    bootstrap := [0xb1,0xb2,0xb3,0xb4]
    minimumPopulation := 4 }

theorem prototype_deploys : (deploy (H := Option Bytes) prototype).toOption.isSome = true := by
  decide +kernel

def prototypeWorld : World (Option Bytes) := (deploy prototype).toOption.get prototype_deploys

theorem deploy_prototype : deploy prototype = .ok prototypeWorld := by
  have hget : ∀ (r : Except Revert (World (Option Bytes))) (h : r.toOption.isSome = true),
      r = .ok (r.toOption.get h) := by
    intro r h
    cases r with
    | ok w => rfl
    | error e => cases h
  exact hget _ prototype_deploys

theorem prototype_reachedBy (txs : List Tx) :
    ReachedBy (history exec prototypeWorld txs) (attemptAll exec prototypeWorld txs) :=
  ⟨prototype,prototypeWorld,deploy_prototype,Run.attemptAll prototypeWorld txs⟩

theorem prototype_reachable (txs : List Tx) : Reachable (attemptAll exec prototypeWorld txs) :=
  ⟨_,prototype_reachedBy txs⟩

/-- A transaction of the wallet `sender` in block `number`. -/
def txOf (sender : Address) (number : ℕ) (call : Call) : Tx := ⟨⟨sender,number,number,1⟩,call⟩

end Prototype
end BelLedger
