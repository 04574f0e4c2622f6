import BelLedger.ValidatorSets

/-!
# What the validator registry says about past heights

A record keeps one activation and one removal height. A restoration erases the removal height, and
with it the removed window; the other operations only touch heights from their own block on.
-/
namespace BelLedger
open CheckedCalls TransitionRuns ValidatorRegistry

/-- Both queries answer the same at this height. -/
def SameAt (height : ℕ) (s t : Storage) : Prop :=
  getValidatorsAt t height = getValidatorsAt s height ∧
    validatorCountAt t height = validatorCountAt s height

/-- Both queries answer the same at every height before block `number`. -/
def KeepsPast (number : ℕ) (s t : Storage) : Prop := ∀ height,height < number → SameAt height s t

section Storage
variable {s t : Storage}

/-- The answers depend on the two lists and on who is active. -/
private theorem sameAt_of_active {height : ℕ} (hboot : t.bootstrapValidators = s.bootstrapValidators)
    (hlist : t.validators.filter (fun v => isActive (t.records v) height) =
      s.validators.filter (fun v => isActive (s.records v) height)) : SameAt height s t := by
  refine ⟨?_,?_⟩
  · rw [getValidatorsAt_eq,getValidatorsAt_eq,hboot,hlist]
  · rw [validatorCountAt_eq,validatorCountAt_eq,hboot,hlist]

private theorem filter_active_congr {height : ℕ}
    (h : ∀ v,isActive (t.records v) height = isActive (s.records v) height) :
    s.validators.filter (fun v => isActive (t.records v) height) =
      s.validators.filter (fun v => isActive (s.records v) height) := by
  apply List.filter_congr
  intro v _
  exact h v

/-- A new validator is inactive before its activation, which lies ahead. -/
private theorem added_keepsPast {env : Env} {v : Address} {publicKey signingPublicKey : Bytes}
    {activationHeight : ℕ} (hact : env.number < activationHeight)
    (hnew : (s.records v).registered = false) :
    KeepsPast env.number s (added s env v publicKey signingPublicKey activationHeight) := by
  intro height hheight
  have hactive : ∀ u,isActive ((added s env v publicKey signingPublicKey activationHeight).records u)
      height = isActive (s.records u) height := by
    intro u
    by_cases hu : u = v
    · have hlate : ¬activationHeight ≤ height := by omega
      simp [added,hu,isActive,hnew,hlate]
    · simp [added,hu]
  refine sameAt_of_active rfl ?_
  rw [show (added s env v publicKey signingPublicKey activationHeight).validators =
    s.validators++[v] from rfl,List.filter_append,filter_active_congr hactive]
  have hv := hactive v
  rw [show isActive (s.records v) height = false by simp [isActive,hnew]] at hv
  simp [hv]

/-- Changing a removal height that lies at or after `number`, or none, to another such one. -/
private theorem setRemovalHeight_keepsPast {v : Address} {number removal : ℕ}
    (hold : (s.records v).removalHeight = 0 ∨ number ≤ (s.records v).removalHeight)
    (hnew : removal = 0 ∨ number ≤ removal) :
    KeepsPast number s (setRemovalHeight s v removal) := by
  intro height hheight
  have hactive : ∀ u,isActive ((setRemovalHeight s v removal).records u) height =
      isActive (s.records u) height := by
    intro u
    by_cases hu : u = v
    · subst hu
      have hbefore : (s.records u).removalHeight = 0 ∨ height < (s.records u).removalHeight := by
        omega
      have hafter : removal = 0 ∨ height < removal := by omega
      rw [Bool.eq_iff_iff,mem_active_iff,mem_active_iff]
      simp only [setRemovalHeight,Function.update_self]
      simp only [hbefore,hafter]
    · simp [setRemovalHeight,hu]
  exact sameAt_of_active rfl (filter_active_congr hactive)

/-- A restoration after the removal height brings the validator back at that height. -/
private theorem restored_not_keepsPast (h : ValidatorInvariant s) {v : Address} {number : ℕ}
    (hreg : (s.records v).registered = true) (hne : (s.records v).removalHeight ≠ 0)
    (hlt : (s.records v).removalHeight < number) :
    ¬KeepsPast number s (setRemovalHeight s v 0) := by
  intro hkeeps
  obtain ⟨hsame,-⟩ := hkeeps _ hlt
  rw [getValidatorsAt_eq,getValidatorsAt_eq] at hsame
  have hact := h.removal_after_activation v hne
  have hmem : v ∈ s.validators := (h.mem_iff v).mpr hreg
  have hactive : isActive ((setRemovalHeight s v 0).records v) (s.records v).removalHeight = true := by
    have hle : (s.records v).activationHeight ≤ (s.records v).removalHeight := Nat.le_of_lt hact
    simp [setRemovalHeight,isActive,hreg,hle]
  have hinactive : isActive (s.records v) (s.records v).removalHeight = false := by
    simp [isActive,hne]
  have hafter : v ∈ s.bootstrapValidators++s.validators.filter
      (fun u => isActive ((setRemovalHeight s v 0).records u) (s.records v).removalHeight) :=
    List.mem_append_right _ (List.mem_filter.mpr ⟨hmem,hactive⟩)
  have hbefore : v ∈ s.bootstrapValidators++s.validators.filter
      (fun u => isActive (s.records u) (s.records v).removalHeight) :=
    (Except.ok.inj hsame) ▸ hafter
  rcases List.mem_append.mp hbefore with hboot | hfilter
  · exact (h.not_bootstrap v hmem).2 hboot
  · have hbad := (List.mem_filter.mp hfilter).2
    rw [hinactive] at hbad
    cases hbad

end Storage

variable {H : Type} [Keccak H] [DecidableEq H]

/-- A restoration is asked to come in the very block in which the removal takes effect. -/
def SparesPast (w : World H) (tx : Tx) : Prop :=
  match tx.call with
  | .restoreValidator v _ => (w.validators.records v).removalHeight = tx.env.number
  | _ => True

/-- One transaction leaves the past alone exactly when it is not a late restoration. -/
theorem exec_keepsPast {w w' : World H} {tx : Tx} (hd : Deployed w)
    (h : ValidatorInvariant w.validators) (hs : exec w tx = .ok w') :
    KeepsPast tx.env.number w.validators w'.validators ↔ SparesPast w tx := by
  rcases tx with ⟨env,call⟩
  have hframe : call.target ≠ some .validators →
      KeepsPast env.number w.validators w'.validators := by
    intro htarget height _
    rw [(exec_frame hd hs).validators htarget]
    exact ⟨rfl,rfl⟩
  cases call with
  | wire r a b c => exact absurd hs (exec_wire_ne_ok hd)
  | addValidator v publicKey signingPublicKey activationHeight =>
    obtain ⟨-,-,-,hact,hnew,log,rfl,-⟩ := addValidator_cases hs
    exact iff_of_true (added_keepsPast hact hnew) trivial
  | removeValidator v removalHeight reason =>
    obtain ⟨-,-,-,hblock,-,hnone,log,rfl,-⟩ := removeValidator_cases reason hs
    exact iff_of_true
      (setRemovalHeight_keepsPast (.inl hnone) (.inr (Nat.le_of_lt hblock))) trivial
  | restoreValidator v reason =>
    obtain ⟨-,hreg,hne,hle,log,rfl,-⟩ := restoreValidator_cases reason hs
    constructor
    · intro hkeeps
      by_contra hdiff
      exact restored_not_keepsPast h hreg hne (Nat.lt_of_le_of_ne hle hdiff) hkeeps
    · intro heq
      exact setRemovalHeight_keepsPast (.inr (Nat.le_of_eq heq.symm)) (.inl rfl)
  | cancelScheduledRemoval v reason =>
    obtain ⟨-,-,hlt,log,rfl,-⟩ := cancelScheduledRemoval_cases reason hs
    exact iff_of_true
      (setRemovalHeight_keepsPast (.inr (Nat.le_of_lt hlt)) (.inl rfl)) trivial
  | _ => exact iff_of_true (hframe (by simp [Call.target])) trivial

omit [Keccak H] [DecidableEq H] in
private theorem SameAt.trans {height : ℕ} {s t u : Storage} (h : SameAt height s t)
    (h' : SameAt height t u) : SameAt height s u := ⟨h'.1.trans h.1,h'.2.trans h.2⟩

/-- Along a run from a reachable state, each transaction leaves the heights before its block alone
exactly when it is not a late restoration; so without late restorations the answer for a height
that lies in the past throughout never changes. -/
theorem validator_past_kept (s : World H) (later : List (World H × Tx)) (w : World H)
    (hs : Reachable s) (hrun : Run exec s later w) :
    (∀ p tx t,(p,tx) ∈ later → exec p tx = .ok t →
      (KeepsPast tx.env.number p.validators t.validators ↔ SparesPast p tx)) ∧
    ((∀ p tx,(p,tx) ∈ later → SparesPast p tx) →
      ∀ height,(∀ p tx,(p,tx) ∈ later → height < tx.env.number) →
        SameAt height s.validators w.validators) := by
  have hinv := hrun.history_invariant (P := fun later w => Reachable w ∧
    (∀ p tx t,(p,tx) ∈ later → exec p tx = .ok t →
      (KeepsPast tx.env.number p.validators t.validators ↔ SparesPast p tx)) ∧
    ((∀ p tx,(p,tx) ∈ later → SparesPast p tx) →
      ∀ height,(∀ p tx,(p,tx) ∈ later → height < tx.env.number) →
        SameAt height s.validators w.validators))
    ⟨hs,by simp,fun _ _ _ => ⟨rfl,rfl⟩⟩ ?_
  · exact hinv.2
  intro later p tx t _ ⟨hreach,hsteps,hsame⟩ hstep
  have hiff := exec_keepsPast hreach.deployed hreach.validators hstep
  refine ⟨hreach.step hstep,?_,?_⟩
  · intro q tx' u hmem hu
    rcases List.mem_cons.mp hmem with heq | hmem
    · obtain ⟨rfl,rfl⟩ := Prod.mk.inj heq
      obtain rfl : t = u := Except.ok.inj (hstep.symm.trans hu)
      exact hiff
    · exact hsteps q tx' u hmem hu
  · intro hspares height hpast
    have hearlier := hsame (fun q tx' hmem => hspares q tx' (List.mem_cons_of_mem _ hmem)) height
      (fun q tx' hmem => hpast q tx' (List.mem_cons_of_mem _ hmem))
    have hlast := hiff.mpr (hspares p tx (List.mem_cons_self ..)) height
      (hpast p tx (List.mem_cons_self ..))
    exact hearlier.trans hlast

section Prototype

/-- A removal takes effect in block 10 and is undone in that block. -/
def promptRestoreTxs : List Tx :=
  [txOf 0xad 2 (.addValidator 0xc1 (utf8 "pk1") (utf8 "spk1") 5),
   txOf 0xad 3 (.removeValidator 0xc1 10 (utf8 "rotation")),
   txOf 0xad 10 (.restoreValidator 0xc1 (utf8 "back"))]

theorem validator_past_kept_prototype :
    (history exec prototypeWorld promptRestoreTxs).length = 3 ∧
      ∀ p tx t,(p,tx) ∈ history exec prototypeWorld promptRestoreTxs → exec p tx = .ok t →
        (KeepsPast tx.env.number p.validators t.validators ↔ SparesPast p tx) :=
  ⟨by decide +kernel,(validator_past_kept _ _ _ (prototype_reachable [])
    (Run.attemptAll prototypeWorld promptRestoreTxs)).1⟩

def lateRestoreTx : Tx := txOf 0xad 20 (.restoreValidator 0xc1 (utf8 "back"))

/-- The same removal, undone in block 20: at height 12 the validator was out, and then was not. -/
theorem restore_rewrites_past :
    ¬∀ (w w' : World (Option Bytes)) (tx : Tx) (height : ℕ),Reachable w → exec w tx = .ok w' →
      height < tx.env.number → SameAt height w.validators w'.validators := by
  intro hall
  have hsame := hall (attemptAll exec prototypeWorld validatorTxs)
    (attempt exec (attemptAll exec prototypeWorld validatorTxs) lateRestoreTx) lateRestoreTx 12
    (prototype_reachable validatorTxs) ?_ (by decide)
  · have hdiff : validatorCountAt
        (attempt exec (attemptAll exec prototypeWorld validatorTxs) lateRestoreTx).validators 12 ≠
        validatorCountAt (attemptAll exec prototypeWorld validatorTxs).validators 12 := by
      decide +kernel
    exact hdiff hsame.2
  · have hok : (exec (attemptAll exec prototypeWorld validatorTxs) lateRestoreTx).toOption.isSome =
        true := by decide +kernel
    unfold attempt
    cases hs : exec (attemptAll exec prototypeWorld validatorTxs) lateRestoreTx with
    | ok t => rfl
    | error e =>
      rw [hs] at hok
      cases hok

end Prototype
end BelLedger
