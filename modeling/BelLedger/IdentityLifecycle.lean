import BelLedger.IdentityBindings
import Mathlib.Data.List.Infix

/-!
# The lifecycle of wallets

Each registered wallet stands once in the list of one DID, the lists only grow, a wallet's status
follows the edges of its lifecycle, and its three time stamps are ordered when block times are.
-/
namespace BelLedger
open CheckedCalls TransitionRuns IdentityRegistry

variable {H : Type} [Keccak H] [DecidableEq H]

/-- The edges of a wallet's lifecycle. -/
inductive StatusChange : WalletStatus → WalletStatus → Prop
  | register : StatusChange .NONE .PENDING
  | activate : StatusChange .PENDING .ACTIVE
  | withdraw : StatusChange .PENDING .REVOKED
  | revoke : StatusChange .ACTIVE .REVOKED

/-- What one transaction at time `now` can do to one wallet's record. -/
inductive RecordStep (now : ℕ) (r : WalletRecord H) : WalletRecord H → Prop
  | same : RecordStep now r r
  | register (key : H) (hnew : r.status = .NONE) :
      RecordStep now r ⟨key,.PENDING,uint64 now,0,0,[]⟩
  | activate (hpending : r.status = .PENDING) :
      RecordStep now r { r with status := .ACTIVE, activatedAt := uint64 now }
  | revoke (reason : Bytes) (hold : r.status ≠ .NONE) (hlive : r.status ≠ .REVOKED) :
      RecordStep now r
        { r with status := .REVOKED, revokedAt := uint64 now, revokedReason := reason }

section Steps
variable {w w' : World H} {tx : Tx}

theorem exec_recordStep (hd : Deployed w) (hs : exec w tx = .ok w') (a : Address) :
    RecordStep tx.env.timestamp (w.identity.wallets a) (w'.identity.wallets a) := by
  by_cases htarget : tx.call.target = some .identity
  swap
  · rw [(exec_frame hd hs).identity htarget]
    exact .same
  rcases tx with ⟨env,call⟩
  cases call with
  | wire r a b c => exact absurd hs (exec_wire_ne_ok hd)
  | createIdentity wallet did =>
    obtain ⟨-,-,-,hnew,log,rfl,-⟩ := createIdentity_cases hs
    by_cases ha : a = wallet
    · subst ha
      have hstep : RecordStep env.timestamp (w.identity.wallets a) _ :=
        .register (keccak256 did) hnew
      simpa [registered] using hstep
    · simpa [registered,ha] using RecordStep.same
  | activateWallet wallet =>
    obtain ⟨-,hpending,log,rfl,-⟩ := activateWallet_cases hs
    by_cases ha : a = wallet
    · subst ha
      have hstep : RecordStep env.timestamp (w.identity.wallets a) _ := .activate hpending
      simpa [setWallet] using hstep
    · simpa [setWallet,ha] using RecordStep.same
  | revokeWallet wallet reason =>
    obtain ⟨-,-,hold,hlive,log,rfl,-⟩ := revokeWallet_cases hs
    by_cases ha : a = wallet
    · subst ha
      have hstep : RecordStep env.timestamp (w.identity.wallets a) _ := .revoke reason hold hlive
      simpa [setWallet] using hstep
    · simpa [setWallet,ha] using RecordStep.same
  | _ => simp [Call.target] at htarget

omit [Keccak H] [DecidableEq H] in
theorem RecordStep.status {now : ℕ} {r r' : WalletRecord H} (h : RecordStep now r r') :
    r'.status = r.status ∨ StatusChange r.status r'.status := by
  cases h with
  | same => exact .inl rfl
  | register key hnew =>
    rw [hnew]
    exact .inr .register
  | activate hpending =>
    rw [hpending]
    exact .inr .activate
  | revoke reason hold hlive =>
    refine .inr ?_
    show StatusChange r.status .REVOKED
    cases hstatus : r.status with
    | NONE => exact absurd hstatus hold
    | PENDING => exact .withdraw
    | ACTIVE => exact .revoke
    | REVOKED => exact absurd hstatus hlive

/-- The wallet lists only grow at the end. -/
theorem IdentityStep.walletsOf_prefix {s s' : Storage H} (h : IdentityStep s s') (did : Bytes) :
    walletsOf s did <+: walletsOf s' did := by
  cases h with
  | same => exact List.prefix_rfl
  | register env wallet did' hwallet hdid hnew =>
    by_cases hk : (keccak256 did : H) = keccak256 did'
    · simp [walletsOf,registered,hk]
    · simp [walletsOf,registered,hk]
  | activate wallet record hpending hactive hkey => exact List.prefix_rfl
  | revoke wallet record hold hrevoked hkey => exact List.prefix_rfl

end Steps

section Clock

/-- The block times of a history, latest first. -/
def blockTimes (hist : List (World H × Tx)) : List ℕ := hist.map (fun entry => entry.2.env.timestamp)

/-- The time of the last block of a history that started at `start`. -/
def clockOf (start : ℕ) (hist : List (World H × Tx)) : ℕ := (blockTimes hist).headD start

/-- Block times, latest first, are positive, never decrease and fit 64 bits. -/
def Clocked (start : ℕ) : List ℕ → Prop
  | [] => 0 < start ∧ start < 2 ^ 64
  | now::earlier => Clocked start earlier ∧ earlier.headD start ≤ now ∧ now < 2 ^ 64

theorem Clocked.bounds {start : ℕ} {times : List ℕ} (h : Clocked start times) :
    0 < times.headD start ∧ times.headD start < 2 ^ 64 := by
  induction times with
  | nil => exact h
  | cons now earlier ih =>
    obtain ⟨hearlier,hle,hlt⟩ := h
    exact ⟨Nat.lt_of_lt_of_le (ih hearlier).1 hle,hlt⟩

/-- The time stamps of one wallet's record, none later than `now`. -/
structure RecordTimes (now : ℕ) (r : WalletRecord H) : Prop where
  registered : r.status ≠ .NONE → r.registeredAt ≠ 0
  registered_le : r.registeredAt ≤ now
  active : r.status = .ACTIVE → r.activatedAt ≠ 0
  inactive : r.status = .NONE ∨ r.status = .PENDING → r.activatedAt = 0
  activated_le : r.activatedAt ≤ now
  revoked : r.revokedAt ≠ 0 ↔ r.status = .REVOKED
  register_activate : r.activatedAt ≠ 0 → r.registeredAt ≤ r.activatedAt
  register_revoke : r.revokedAt ≠ 0 → r.registeredAt ≤ r.revokedAt
  activate_revoke : r.revokedAt ≠ 0 → r.activatedAt ≤ r.revokedAt

omit [Keccak H] [DecidableEq H] in
theorem RecordStep.times {before now : ℕ} {r r' : WalletRecord H} (h : RecordStep now r r')
    (hr : RecordTimes before r) (hpos : 0 < before) (hle : before ≤ now) (hlt : now < 2 ^ 64) :
    RecordTimes now r' := by
  have hnow : uint64 now = now := Nat.mod_eq_of_lt hlt
  have hregistered := hr.registered_le
  have hactivated := hr.activated_le
  cases h with
  | same =>
    exact ⟨hr.registered,by omega,hr.active,hr.inactive,by omega,hr.revoked,hr.register_activate,
      hr.register_revoke,hr.activate_revoke⟩
  | register key hnew =>
    simp only [hnow]
    exact ⟨fun _ => by simp only; omega,Nat.le_refl _,nofun,fun _ => rfl,Nat.zero_le _,by simp,
      fun hne => absurd rfl hne,fun hne => absurd rfl hne,fun hne => absurd rfl hne⟩
  | activate hpending =>
    have hlive : r.revokedAt = 0 := by
      by_contra hne
      have hrevoked := hr.revoked.mp hne
      rw [hpending] at hrevoked
      cases hrevoked
    simp only [hnow]
    refine ⟨fun _ => hr.registered (by rw [hpending]; decide),by simp only; omega,
      fun _ => by simp only; omega,nofun,Nat.le_refl _,by simp [hlive],fun _ => by simp only; omega,
      fun hne => absurd hlive hne,fun hne => absurd hlive hne⟩
  | revoke reason hold hlive =>
    simp only [hnow]
    exact ⟨fun _ => hr.registered hold,by simp only; omega,nofun,nofun,by simp only; omega,
      by simp only [ne_eq,iff_true]; omega,hr.register_activate,fun _ => by simp only; omega,
      fun _ => by simp only; omega⟩

end Clock

section Runs
variable {w w' s : World H}

/-- The wallet records and the wallet lists of one state. -/
structure WalletsListed (w : World H) : Prop where
  registered_iff : ∀ a,(w.identity.wallets a).status ≠ .NONE ↔
    ∃ did,a ∈ walletsOf w.identity did
  once : ∀ a,(w.identity.wallets a).status ≠ .NONE →
    (walletsOf w.identity (identityOf w.identity a)).count a = 1
  only : ∀ a did,a ∈ walletsOf w.identity did → did = identityOf w.identity a

/-- What a run from `s` to `w` does to the wallets. -/
structure WalletsKept (s : World H) (later : List (World H × Tx)) (w : World H) : Prop where
  binding : ∀ a,(s.identity.wallets a).status ≠ .NONE →
    (w.identity.wallets a).status ≠ .NONE ∧
    identityOf w.identity a = identityOf s.identity a
  grows : ∀ did,walletsOf s.identity did <+: walletsOf w.identity did
  status : ∀ p tx q a,(p,tx) ∈ later → exec p tx = .ok q →
    (q.identity.wallets a).status = (p.identity.wallets a).status ∨
      StatusChange (p.identity.wallets a).status (q.identity.wallets a).status

private theorem Reachable.walletsListed (hinj : Function.Injective (keccak256 : Bytes → H))
    (hw : Reachable w) : WalletsListed w := by
  have hi := hw.identity
  have hmem : ∀ a,(w.identity.wallets a).status ≠ .NONE →
      a ∈ walletsOf w.identity (identityOf w.identity a) := by
    intro a ha
    unfold walletsOf
    rw [← hi.keyOf_registered ha,hi.keyOf_eq (hi.identityOf_length ha).1]
    exact hi.listed a ha
  refine ⟨?_,?_,?_⟩
  · intro a
    constructor
    · intro ha
      exact ⟨_,hmem a ha⟩
    · rintro ⟨did,hdid⟩
      exact (hi.member _ a hdid).1
  · intro a ha
    exact List.count_eq_one_of_mem (hi.nodup _) (hmem a ha)
  · intro a did hdid
    obtain ⟨ha,hkey⟩ := hi.member _ a hdid
    apply hinj
    rw [← hkey,← hi.keyOf_registered ha,hi.keyOf_eq (hi.identityOf_length ha).1]

private theorem Run.walletsKept (hs : Reachable s) {later : List (World H × Tx)}
    (hrun : Run exec s later w) : WalletsKept s later w := by
  have hinv := hrun.history_invariant (P := fun later w => Reachable w ∧ WalletsKept s later w)
    ⟨hs,⟨fun _ ha => ⟨ha,rfl⟩,fun _ => List.prefix_rfl,by simp⟩⟩ ?_
  · exact hinv.2
  rintro later p tx q - ⟨hreach,hkept⟩ hstep
  have hidentity := exec_identityStep hreach.deployed hstep
  refine ⟨hreach.step hstep,?_,?_,?_⟩
  · intro a ha
    obtain ⟨hp,hbinding⟩ := hkept.binding a ha
    exact ⟨hidentity.stays_registered hp,(hidentity.identityOf_eq hreach.identity hp).trans hbinding⟩
  · intro did
    exact (hkept.grows did).trans (hidentity.walletsOf_prefix did)
  · intro p' tx' q' a hmem hq
    rcases List.mem_cons.mp hmem with heq | hmem
    · obtain ⟨rfl,rfl⟩ := Prod.mk.inj heq
      exact (exec_recordStep hreach.deployed hq a).status
    · exact hkept.status p' tx' q' a hmem hq

private theorem recordTimes_genesis {d : Deployment} (hgen : Genesis d s) {now : ℕ}
    (hpos : 0 < d.env.timestamp) (hle : d.env.timestamp ≤ now) (hlt : d.env.timestamp < 2 ^ 64)
    (a : Address) : RecordTimes now (s.identity.wallets a) := by
  have hstart : uint64 d.env.timestamp = d.env.timestamp := Nat.mod_eq_of_lt hlt
  rw [hgen.wallets]
  by_cases ha : a = d.bootstrapAdmin
  · subst ha
    rw [Function.update_self]
    simp only [Deployment.adminWallet,hstart]
    exact ⟨fun _ => by simp only; omega,hle,fun _ => by simp only; omega,by simp,hle,by simp,
      fun _ => Nat.le_refl _,fun hne => absurd rfl hne,fun hne => absurd rfl hne⟩
  · rw [Function.update_of_ne ha]
    exact ⟨fun hne => absurd rfl hne,Nat.zero_le _,(fun hactive => by cases hactive),fun _ => rfl,
      Nat.zero_le _,by simp,fun hne => absurd rfl hne,fun hne => absurd rfl hne,
      fun hne => absurd rfl hne⟩

private theorem Run.recordTimes {d : Deployment} {w₀ : World H} (hdeploy : deploy d = .ok w₀)
    {hist : List (World H × Tx)} (hrun : Run exec w₀ hist w)
    (hclock : Clocked d.env.timestamp (blockTimes hist)) (a : Address) :
    RecordTimes (clockOf d.env.timestamp hist) (w.identity.wallets a) := by
  have hgen := deploy_genesis hdeploy
  have hinv := hrun.history_invariant (P := fun hist w => Reachable w ∧
    (Clocked d.env.timestamp (blockTimes hist) →
      RecordTimes (clockOf d.env.timestamp hist) (w.identity.wallets a)))
    ⟨⟨[],d,w₀,hdeploy,.refl⟩,fun h => recordTimes_genesis hgen h.1 (Nat.le_refl _) h.2 a⟩ ?_
  · exact hinv.2 hclock
  rintro hist p tx q - ⟨hreach,htimes⟩ hstep
  refine ⟨hreach.step hstep,?_⟩
  rintro ⟨hearlier,hle,hlt⟩
  exact (exec_recordStep hreach.deployed hstep a).times (htimes hearlier) hearlier.bounds.1 hle hlt

/-- Every registered wallet stands once in one list, that of its DID, and its time stamps follow its
status; along every run bindings stay, lists grow at the end and statuses follow the lifecycle. -/
theorem identity_lifecycle (hinj : Function.Injective (keccak256 : Bytes → H)) (d : Deployment)
    (w₀ s : World H) (hist : List (World H × Tx)) (hdeploy : deploy d = .ok w₀)
    (hrun : Run exec w₀ hist s) (hclock : Clocked d.env.timestamp (blockTimes hist)) :
    WalletsListed s ∧
    (∀ a,RecordTimes (clockOf d.env.timestamp hist) (s.identity.wallets a)) ∧
    ∀ later w,Run exec s later w → WalletsKept s later w := by
  have hs : Reachable s := ⟨hist,d,w₀,hdeploy,hrun⟩
  exact ⟨hs.walletsListed hinj,Run.recordTimes hdeploy hrun hclock,
    fun later w hlater => Run.walletsKept hs hlater⟩

end Runs

section Prototype

/-- Two wallets of one employee; the first is activated and revoked, the second withdrawn. -/
def walletTxs : List Tx :=
  [txOf 0xad 2 (.createIdentity 0xe1 (utf8 "DID:BEL:EMP1")),
   txOf 0xad 3 (.activateWallet 0xe1),
   txOf 0xad 3 (.createIdentity 0xe2 (utf8 "DID:BEL:EMP1")),
   txOf 0xad 5 (.revokeWallet 0xe1 (utf8 "lost")),
   txOf 0xad 6 (.revokeWallet 0xe2 (utf8 "unused"))]

private theorem walletTxs_clocked :
    Clocked prototype.env.timestamp (blockTimes (history exec prototypeWorld walletTxs)) := by
  have htimes : blockTimes (history exec prototypeWorld walletTxs) = [6,5,3,3,2] := by
    decide +kernel
  rw [htimes]
  simp [Clocked,prototype]

theorem identity_lifecycle_prototype :
    walletsOf (attemptAll exec prototypeWorld walletTxs).identity (utf8 "DID:BEL:EMP1") =
        [0xe1,0xe2] ∧
      WalletsListed (attemptAll exec prototypeWorld walletTxs) ∧
      ∀ a,RecordTimes (clockOf prototype.env.timestamp (history exec prototypeWorld walletTxs))
        ((attemptAll exec prototypeWorld walletTxs).identity.wallets a) := by
  have hall := identity_lifecycle prototype_keccak_injective prototype prototypeWorld _ _
    deploy_prototype (Run.attemptAll prototypeWorld walletTxs) walletTxs_clocked
  exact ⟨by decide +kernel,hall.1,hall.2.1⟩

end Prototype
end BelLedger
