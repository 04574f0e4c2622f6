import BelLedger.DeploymentFacts
import Mathlib.Data.List.Nodup

/-!
# The binding of wallets to identities

A registered wallet stands in the wallet list of its identity's key, and that key is the digest of
the DID stored for it. The binding is never changed afterwards: wallets change their status only,
and a revoked wallet stays revoked.
-/
namespace BelLedger
open CheckedCalls TransitionRuns IdentityRegistry

variable {H : Type} [Keccak H] [DecidableEq H]

def Active (s : Storage H) (a : Address) : Prop := (s.wallets a).status = .ACTIVE

structure IdentityInvariant (s : Storage H) : Prop where
  zero_unregistered : (s.wallets 0).status = .NONE
  listed : ∀ a,(s.wallets a).status ≠ .NONE → a ∈ s.walletsOfIdentity (s.wallets a).identityKey
  member : ∀ k a,a ∈ s.walletsOfIdentity k →
    (s.wallets a).status ≠ .NONE ∧ (s.wallets a).identityKey = k
  nodup : ∀ k,(s.walletsOfIdentity k).Nodup
  did_length : ∀ k,s.walletsOfIdentity k ≠ [] →
    (s.dids k).length ≠ 0 ∧ (s.dids k).length ≤ MAX_DID_LENGTH
  did_key : ∀ k,(s.dids k).length ≠ 0 → keccak256 (s.dids k) = k

namespace IdentityInvariant

variable {s : Storage H} (h : IdentityInvariant s)
include h

omit [DecidableEq H] in
theorem identityOf_length {a : Address} (ha : (s.wallets a).status ≠ .NONE) :
    (identityOf s a).length ≠ 0 ∧ (identityOf s a).length ≤ MAX_DID_LENGTH :=
  h.did_length _ (List.ne_nil_of_mem (h.listed a ha))

omit [DecidableEq H] in
/-- The lookup of RoleRegistry finds the key the wallet was registered under. -/
theorem keyOf_eq {a : Address} (ha : (identityOf s a).length ≠ 0) :
    RoleRegistry.keyOf s a = (s.wallets a).identityKey := by
  simp only [RoleRegistry.keyOf,if_neg ha]
  exact h.did_key _ ha

omit [DecidableEq H] in
theorem keyOf_registered {a : Address} (ha : (s.wallets a).status ≠ .NONE) :
    RoleRegistry.keyOf s a = keccak256 (identityOf s a) := by
  simp only [RoleRegistry.keyOf,if_neg (h.identityOf_length ha).1]

omit [DecidableEq H] in
theorem keyOf_active {a : Address} (ha : Active s a) :
    RoleRegistry.keyOf s a = keccak256 (identityOf s a) := by
  apply h.keyOf_registered
  rw [show (s.wallets a).status = .ACTIVE from ha]
  decide

omit [DecidableEq H] in
/-- Two wallets with one nonzero key have one DID. -/
theorem identityOf_eq_of_keyOf_eq {a b : Address} (ha : (identityOf s a).length ≠ 0)
    (hb : (identityOf s b).length ≠ 0)
    (hkey : RoleRegistry.keyOf s a = RoleRegistry.keyOf s b) : identityOf s a = identityOf s b := by
  rw [h.keyOf_eq ha,h.keyOf_eq hb] at hkey
  unfold identityOf
  rw [hkey]

end IdentityInvariant

section Steps
variable {s : Storage H}

private theorem walletsOf_register (env : Env) (wallet : Address) (did : Bytes) (k : H) :
    (registered s env wallet did).walletsOfIdentity k =
      if k = keccak256 did then s.walletsOfIdentity k++[wallet] else s.walletsOfIdentity k := by
  by_cases hk : k = keccak256 did
  · subst hk
    simp [registered]
  · simp [registered,hk]

private theorem dids_register (env : Env) (wallet : Address) (did : Bytes) (k : H) :
    (registered s env wallet did).dids k =
      if k = keccak256 did ∧ s.walletsOfIdentity k = [] then did else s.dids k := by
  by_cases hk : k = keccak256 did
  · subst hk
    by_cases hnil : s.walletsOfIdentity (keccak256 did) = []
    · simp [registered,hnil]
    · have hlen : (s.walletsOfIdentity (keccak256 did)).length ≠ 0 := by
        rwa [ne_eq,List.length_eq_zero_iff]
      simp [registered,hnil]
  · unfold registered
    split
    · simp [hk]
    · simp [hk]

theorem IdentityInvariant.register (h : IdentityInvariant s) {env : Env} {wallet : Address}
    {did : Bytes} (hwallet : wallet ≠ 0)
    (hdid : did.length ≠ 0 ∧ did.length ≤ MAX_DID_LENGTH)
    (hnew : (s.wallets wallet).status = .NONE) :
    IdentityInvariant (registered s env wallet did) := by
  have hfresh : ∀ k,wallet ∉ s.walletsOfIdentity k := by
    intro k hk
    exact (h.member k wallet hk).1 hnew
  have hwallets : (registered s env wallet did).wallets = Function.update s.wallets wallet
      ⟨keccak256 did,.PENDING,uint64 env.timestamp,0,0,[]⟩ := rfl
  refine ⟨?_,?_,?_,?_,?_,?_⟩
  · rw [hwallets,Function.update_of_ne hwallet.symm]
    exact h.zero_unregistered
  · intro a ha
    rw [walletsOf_register]
    by_cases haw : a = wallet
    · subst haw
      simp [hwallets]
    · rw [hwallets,Function.update_of_ne haw] at ha ⊢
      have hmem := h.listed a ha
      split
      · exact List.mem_append_left _ hmem
      · exact hmem
  · intro k a ha
    rw [walletsOf_register] at ha
    by_cases haw : a = wallet
    · subst haw
      by_cases hk : k = keccak256 did
      · simp [hwallets,hk]
      · rw [if_neg hk] at ha
        exact absurd ha (hfresh k)
    · have hmem : a ∈ s.walletsOfIdentity k := by
        by_cases hk : k = keccak256 did
        · rw [if_pos hk] at ha
          simpa [haw] using ha
        · rwa [if_neg hk] at ha
      rw [hwallets,Function.update_of_ne haw]
      exact h.member k a hmem
  · intro k
    rw [walletsOf_register]
    split
    · rw [← List.concat_eq_append]
      exact List.Nodup.concat (hfresh k) (h.nodup k)
    · exact h.nodup k
  · intro k hk
    rw [dids_register]
    split
    · exact hdid
    · rename_i hcase
      apply h.did_length k
      intro hnil
      apply hk
      rw [walletsOf_register,if_neg (fun he => hcase ⟨he,hnil⟩)]
      exact hnil
  · intro k hk
    rw [dids_register] at hk ⊢
    split
    · rename_i hcase
      exact hcase.1.symm
    · rename_i hcase
      rw [if_neg hcase] at hk
      exact h.did_key k hk

omit [DecidableEq H] in
/-- A change of a registered wallet's status and times keeps every binding. -/
theorem IdentityInvariant.setStatus (h : IdentityInvariant s) {wallet : Address}
    {record : WalletRecord H} (hold : (s.wallets wallet).status ≠ .NONE)
    (hnew : record.status ≠ .NONE) (hkey : record.identityKey = (s.wallets wallet).identityKey) :
    IdentityInvariant (setWallet s wallet record) := by
  have hstatus : ∀ a,((setWallet s wallet record).wallets a).status ≠ .NONE ↔
      (s.wallets a).status ≠ .NONE := by
    intro a
    by_cases ha : a = wallet
    · subst ha
      simp [setWallet,hnew,hold]
    · simp [setWallet,ha]
  have hkeys : ∀ a,((setWallet s wallet record).wallets a).identityKey =
      (s.wallets a).identityKey := by
    intro a
    by_cases ha : a = wallet
    · subst ha
      simp [setWallet,hkey]
    · simp [setWallet,ha]
  refine ⟨?_,?_,?_,h.nodup,h.did_length,h.did_key⟩
  · by_contra hne
    exact (hstatus 0).mp hne h.zero_unregistered
  · intro a ha
    rw [hkeys]
    exact h.listed a ((hstatus a).mp ha)
  · intro k a ha
    rw [hkeys,hstatus]
    exact h.member k a ha

end Steps

section Runs
variable {w w' : World H} {tx : Tx}

/-- What a successful transaction can do to the identity storage. -/
inductive IdentityStep (s : Storage H) : Storage H → Prop
  | same : IdentityStep s s
  | register (env : Env) (wallet : Address) (did : Bytes) (hwallet : wallet ≠ 0)
      (hdid : did.length ≠ 0 ∧ did.length ≤ MAX_DID_LENGTH)
      (hnew : (s.wallets wallet).status = .NONE) : IdentityStep s (registered s env wallet did)
  | activate (wallet : Address) (record : WalletRecord H)
      (hpending : (s.wallets wallet).status = .PENDING) (hactive : record.status = .ACTIVE)
      (hkey : record.identityKey = (s.wallets wallet).identityKey) :
      IdentityStep s (setWallet s wallet record)
  | revoke (wallet : Address) (record : WalletRecord H) (hold : (s.wallets wallet).status ≠ .NONE)
      (hrevoked : record.status = .REVOKED)
      (hkey : record.identityKey = (s.wallets wallet).identityKey) :
      IdentityStep s (setWallet s wallet record)

theorem exec_identityStep (hd : Deployed w) (hs : exec w tx = .ok w') :
    IdentityStep w.identity w'.identity := by
  by_cases htarget : tx.call.target = some .identity
  swap
  · rw [(exec_frame hd hs).identity htarget]
    exact .same
  rcases tx with ⟨env,call⟩
  cases call with
  | wire r a b c => exact absurd hs (exec_wire_ne_ok hd)
  | createIdentity wallet did =>
    obtain ⟨-,hwallet,hdid,hnew,log,rfl,-⟩ := createIdentity_cases hs
    exact .register env wallet did hwallet hdid hnew
  | activateWallet wallet =>
    obtain ⟨-,hpending,log,rfl,-⟩ := activateWallet_cases hs
    exact .activate wallet _ hpending rfl rfl
  | revokeWallet wallet reason =>
    obtain ⟨-,-,hold,-,log,rfl,-⟩ := revokeWallet_cases hs
    exact .revoke wallet _ hold rfl rfl
  | _ => simp [Call.target] at htarget

theorem IdentityStep.invariant {s s' : Storage H} (hstep : IdentityStep s s')
    (h : IdentityInvariant s) : IdentityInvariant s' := by
  cases hstep with
  | same => exact h
  | register env wallet did hwallet hdid hnew => exact h.register hwallet hdid hnew
  | activate wallet record hpending hactive hkey =>
    exact h.setStatus (by rw [hpending]; decide) (by rw [hactive]; decide) hkey
  | revoke wallet record hold hrevoked hkey =>
    exact h.setStatus hold (by rw [hrevoked]; decide) hkey

omit [Keccak H] [DecidableEq H] in
private theorem setWallet_identityOf {s : Storage H} {wallet : Address} {record : WalletRecord H}
    (hkey : record.identityKey = (s.wallets wallet).identityKey) (a : Address) :
    identityOf (setWallet s wallet record) a = identityOf s a := by
  by_cases ha : a = wallet
  · subst ha
    simp [identityOf,setWallet,hkey]
  · simp [identityOf,setWallet,ha]

/-- A registered wallet keeps its DID forever. -/
theorem IdentityStep.identityOf_eq {s s' : Storage H} (hstep : IdentityStep s s')
    (h : IdentityInvariant s) {a : Address} (ha : (s.wallets a).status ≠ .NONE) :
    identityOf s' a = identityOf s a := by
  cases hstep with
  | same => rfl
  | register env wallet did hwallet hdid hnew =>
    have haw : a ≠ wallet := fun he => ha (he ▸ hnew)
    have hlisted := List.ne_nil_of_mem (h.listed a ha)
    have hkey : ((registered s env wallet did).wallets a).identityKey =
        (s.wallets a).identityKey := by
      simp [registered,haw]
    unfold identityOf
    rw [hkey,dids_register,if_neg (fun hc => hlisted hc.2)]
  | activate wallet record hpending hactive hkey => exact setWallet_identityOf hkey a
  | revoke wallet record hold hrevoked hkey => exact setWallet_identityOf hkey a

theorem IdentityStep.stays_registered {s s' : Storage H} (hstep : IdentityStep s s') {a : Address}
    (ha : (s.wallets a).status ≠ .NONE) : (s'.wallets a).status ≠ .NONE := by
  cases hstep with
  | same => exact ha
  | register env wallet did hwallet hdid hnew =>
    have haw : a ≠ wallet := fun he => ha (he ▸ hnew)
    simpa [registered,haw] using ha
  | activate wallet record hpending hactive hkey =>
    by_cases haw : a = wallet
    · simp [setWallet,haw,hactive]
    · simpa [setWallet,haw] using ha
  | revoke wallet record hold hrevoked hkey =>
    by_cases haw : a = wallet
    · simp [setWallet,haw,hrevoked]
    · simpa [setWallet,haw] using ha

theorem IdentityStep.stays_revoked {s s' : Storage H} (hstep : IdentityStep s s') {a : Address}
    (ha : (s.wallets a).status = .REVOKED) : (s'.wallets a).status = .REVOKED := by
  cases hstep with
  | same => exact ha
  | register env wallet did hwallet hdid hnew =>
    have haw : a ≠ wallet := by
      rintro rfl
      simp [ha] at hnew
    simpa [registered,haw] using ha
  | activate wallet record hpending hactive hkey =>
    have haw : a ≠ wallet := by
      rintro rfl
      simp [ha] at hpending
    simpa [setWallet,haw] using ha
  | revoke wallet record hold hrevoked hkey =>
    by_cases haw : a = wallet
    · simp [setWallet,haw,hrevoked]
    · simpa [setWallet,haw] using ha

private theorem identity_genesis (d : Deployment) (w : World H) (h : Genesis d w) :
    IdentityInvariant w.identity := by
  have hlist : ∀ k,w.identity.walletsOfIdentity k =
      if k = keccak256 d.bootstrapDid then [d.bootstrapAdmin] else [] := by
    intro k
    rw [h.walletsOfIdentity]
    by_cases hk : k = keccak256 d.bootstrapDid
    · simp [hk]
    · simp [hk]
  have hdids : ∀ k,w.identity.dids k =
      if k = keccak256 d.bootstrapDid then d.bootstrapDid else [] := by
    intro k
    rw [h.dids]
    by_cases hk : k = keccak256 d.bootstrapDid
    · simp [hk]
    · simp [hk]
  refine ⟨?_,?_,?_,?_,?_,?_⟩
  · rw [h.wallets,Function.update_of_ne h.admin_ne_zero.symm]
  · intro a ha
    by_cases haw : a = d.bootstrapAdmin
    · subst haw
      simp [hlist,h.wallets,Deployment.adminWallet]
    · simp [h.wallets,haw] at ha
  · intro k a ha
    by_cases hk : k = keccak256 d.bootstrapDid
    · simp only [hlist,if_pos hk,List.mem_singleton] at ha
      simp [h.wallets,ha,hk,Deployment.adminWallet]
    · simp [hlist,hk] at ha
  · intro k
    rw [hlist]
    split
    · exact List.nodup_singleton _
    · exact List.nodup_nil
  · intro k hk
    by_cases hkey : k = keccak256 d.bootstrapDid
    · rw [hdids,if_pos hkey]
      exact h.did_length
    · simp [hlist,hkey] at hk
  · intro k hk
    by_cases hkey : k = keccak256 d.bootstrapDid
    · rw [hdids,if_pos hkey,hkey]
    · simp [hdids,hkey] at hk

theorem Reachable.identity {w : World H} (h : Reachable w) : IdentityInvariant w.identity := by
  obtain ⟨hist,h⟩ := h
  refine (h.invariant (I := fun w => IdentityInvariant w.identity) identity_genesis ?_).2
  intro w tx w' hd hi hs
  exact (exec_identityStep hd hs).invariant hi

end Runs

section Wallets
variable {w₀ w w' : World H}

/-- The registered wallets of `w` are registered under the same DID in `w'`. -/
def KeepsWallets (w w' : World H) : Prop :=
  ∀ a,(w.identity.wallets a).status ≠ .NONE → (w'.identity.wallets a).status ≠ .NONE ∧
    IdentityRegistry.identityOf w'.identity a = IdentityRegistry.identityOf w.identity a

omit [Keccak H] [DecidableEq H] in
theorem KeepsWallets.refl (w : World H) : KeepsWallets w w := fun _ ha => ⟨ha,rfl⟩

omit [Keccak H] [DecidableEq H] in
theorem KeepsWallets.trans (h : KeepsWallets w₀ w) (h' : KeepsWallets w w') :
    KeepsWallets w₀ w' := by
  intro a ha
  have hfirst := h a ha
  have hsecond := h' a hfirst.1
  exact ⟨hsecond.1,hsecond.2.trans hfirst.2⟩

theorem exec_keepsWallets {tx : Tx} (hw : Reachable w) (hs : exec w tx = .ok w') :
    KeepsWallets w w' := by
  intro a ha
  have hstep := exec_identityStep hw.deployed hs
  exact ⟨hstep.stays_registered ha,hstep.identityOf_eq hw.identity ha⟩

theorem attempt_keepsWallets (hw : Reachable w) (tx : Tx) : KeepsWallets w (attempt exec w tx) := by
  unfold attempt
  cases hs : exec w tx with
  | ok w' => exact exec_keepsWallets hw hs
  | error e => exact .refl w

/-- A registered wallet carries the DID it was registered under. -/
theorem exec_createIdentity (hinj : Function.Injective (keccak256 : Bytes → H)) (hw : Reachable w)
    {env : Env} {wallet : Address} {did : Bytes}
    (hs : exec w ⟨env,.createIdentity wallet did⟩ = .ok w') :
    (w'.identity.wallets wallet).status ≠ .NONE ∧
      identityOf w'.identity wallet = did := by
  have hi := (hw.step hs).identity
  obtain ⟨-,-,-,-,log,rfl,-⟩ := createIdentity_cases hs
  have hregistered : ((registered w.identity env wallet did).wallets wallet).status ≠ .NONE := by
    simp [registered]
  have hidentityKey : ((registered w.identity env wallet did).wallets wallet).identityKey =
      keccak256 did := by
    simp [registered]
  refine ⟨hregistered,hinj ?_⟩
  have hlen := (hi.identityOf_length hregistered).1
  rw [← hidentityKey]
  exact hi.did_key _ hlen

end Wallets
end BelLedger
