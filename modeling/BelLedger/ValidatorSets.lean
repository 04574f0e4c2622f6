import BelLedger.DeploymentFacts
import Mathlib.Data.List.Nodup

/-!
# The validator sets that ValidatorRegistry reports

The counting pass and the filling pass agree on every storage, so the reported set is the bootstrap
list followed by the validators active at the height. The invariant that ties the array to the
record flags and to the bootstrap set makes it duplicate-free, and bounds its size from below.
-/
namespace BelLedger
open CheckedCalls TransitionRuns ValidatorRegistry

section Passes

theorem validatorCountAt_eq (s : Storage) (height : ℕ) :
    validatorCountAt s height = s.bootstrapValidators.length +
      (s.validators.filter (fun v => isActive (s.records v) height)).length := by
  have hfold : ∀ (vs : List Address) (count : ℕ),
      vs.foldl (fun count v => if isActive (s.records v) height then count + 1 else count) count =
        count + (vs.filter (fun v => isActive (s.records v) height)).length := by
    intro vs
    induction vs with
    | nil => simp
    | cons v vs ih =>
      intro count
      rw [List.foldl_cons,ih,List.filter_cons]
      cases isActive (s.records v) height with
      | false => simp
      | true =>
        simp only [if_true,List.length_cons]
        omega
  exact hfold s.validators _

/-- The filling loop, after `pre` has been written and while there is room for the rest. -/
theorem fillLoop_eq (keep : Address → Bool) (vs pre rest : List Address)
    (h : (vs.filter keep).length ≤ rest.length) :
    fillLoop keep vs (pre++rest,pre.length) =
      .ok (pre++vs.filter keep++rest.drop (vs.filter keep).length,
        pre.length + (vs.filter keep).length) := by
  induction vs generalizing pre rest with
  | nil => simp [fillLoop]
  | cons v vs ih =>
    cases hv : keep v with
    | false =>
      simp only [List.filter_cons,hv] at h ⊢
      simpa [fillLoop,hv] using ih pre rest h
    | true =>
      simp only [List.filter_cons,hv,if_true,List.length_cons] at h ⊢
      cases rest with
      | nil => simp at h
      | cons r rest =>
        have hroom : (vs.filter keep).length ≤ rest.length := by
          simp only [List.length_cons] at h
          omega
        have hwrite : writeAt (Revert.Panic .indexOutOfBounds) (pre++r::rest) pre.length v =
            .ok (pre++[v]++rest) := by
          simp [writeAt]
        have hnext := ih (pre++[v]) rest hroom
        rw [List.length_append,List.length_singleton] at hnext
        simp only [fillLoop,hv,if_true,hwrite]
        refine hnext.trans ?_
        simp only [List.append_assoc,List.singleton_append,List.drop_succ_cons,Nat.add_assoc,
          Nat.add_comm 1]

/-- The reported set, for any storage and any height. -/
theorem getValidatorsAt_eq (s : Storage) (height : ℕ) :
    getValidatorsAt s height =
      .ok (s.bootstrapValidators++s.validators.filter (fun v => isActive (s.records v) height)) := by
  have hcount := validatorCountAt_eq s height
  have hall : s.bootstrapValidators.filter (fun _ => true) = s.bootstrapValidators := by simp
  have hfirst := fillLoop_eq (fun _ => true) s.bootstrapValidators []
    (List.replicate (validatorCountAt s height) 0) (by rw [hall,List.length_replicate]; omega)
  rw [hall] at hfirst
  have hsecond := fillLoop_eq (fun v => isActive (s.records v) height) s.validators
    s.bootstrapValidators
    ((List.replicate (validatorCountAt s height) 0).drop s.bootstrapValidators.length)
    (by rw [List.length_drop,List.length_replicate]; omega)
  simp only [List.nil_append,List.length_nil,Nat.zero_add] at hfirst
  unfold getValidatorsAt activeAt
  refine ok_bind_iff.mpr ⟨_,hfirst,ok_bind_iff.mpr ⟨_,hsecond,?_⟩⟩
  have hdrop : ((List.replicate (validatorCountAt s height) (0 : Address)).drop
      s.bootstrapValidators.length).drop
      (s.validators.filter (fun v => isActive (s.records v) height)).length = [] := by
    rw [List.drop_drop]
    apply List.drop_eq_nil_of_le
    rw [List.length_replicate]
    omega
  rw [hdrop,List.append_nil]
  rfl

theorem mem_active_iff (s : Storage) (height : ℕ) (v : Address) :
    isActive (s.records v) height = true ↔ (s.records v).registered = true ∧
      (s.records v).activationHeight ≤ height ∧
      ((s.records v).removalHeight = 0 ∨ height < (s.records v).removalHeight) := by
  simp [isActive,and_assoc]

end Passes

structure ValidatorInvariant (s : Storage) : Prop where
  nodup : s.validators.Nodup
  mem_iff : ∀ v,v ∈ s.validators ↔ (s.records v).registered = true
  not_bootstrap : ∀ v ∈ s.validators,v ≠ 0 ∧ v ∉ s.bootstrapValidators
  isBootstrap_iff : ∀ a,s.isBootstrap a = true ↔ a ∈ s.bootstrapValidators
  bootstrap_nodup : s.bootstrapValidators.Nodup
  bootstrap_ne_zero : ∀ a ∈ s.bootstrapValidators,a ≠ 0
  population : s.minimumPopulation ≤ s.bootstrapValidators.length
  removal_after_activation : ∀ v,(s.records v).removalHeight ≠ 0 →
    (s.records v).activationHeight < (s.records v).removalHeight

section Steps
variable {s : Storage}

private theorem ValidatorInvariant.added (h : ValidatorInvariant s) {env : Env} {v : Address}
    {publicKey signingPublicKey : Bytes} {activationHeight : ℕ} (hzero : v ≠ 0)
    (hboot : s.isBootstrap v = false) (hnew : (s.records v).registered = false) :
    ValidatorInvariant (added s env v publicKey signingPublicKey activationHeight) := by
  have hfresh : v ∉ s.validators := by
    rw [h.mem_iff,hnew]
    decide
  have hnotboot : v ∉ s.bootstrapValidators := by
    rw [← h.isBootstrap_iff,hboot]
    decide
  refine ⟨?_,?_,?_,h.isBootstrap_iff,h.bootstrap_nodup,h.bootstrap_ne_zero,h.population,?_⟩
  · show (s.validators++[v]).Nodup
    rw [← List.concat_eq_append]
    exact List.Nodup.concat hfresh h.nodup
  · intro u
    by_cases hu : u = v
    · simp [BelLedger.added,hu]
    · simpa [BelLedger.added,hu] using h.mem_iff u
  · intro u hu
    rcases List.mem_append.mp hu with hu | hu
    · exact h.not_bootstrap u hu
    · obtain rfl := List.mem_singleton.mp hu
      exact ⟨hzero,hnotboot⟩
  · intro u hu
    by_cases huv : u = v
    · simp [BelLedger.added,huv] at hu
    · simp only [BelLedger.added,Function.update_of_ne huv] at hu ⊢
      exact h.removal_after_activation u hu

private theorem ValidatorInvariant.setRemovalHeight (h : ValidatorInvariant s) {v : Address}
    {height : ℕ} (hheight : height ≠ 0 → (s.records v).activationHeight < height) :
    ValidatorInvariant (setRemovalHeight s v height) := by
  refine ⟨h.nodup,?_,h.not_bootstrap,h.isBootstrap_iff,h.bootstrap_nodup,h.bootstrap_ne_zero,
    h.population,?_⟩
  · intro u
    by_cases hu : u = v
    · subst hu
      simpa [BelLedger.setRemovalHeight] using h.mem_iff u
    · simpa [BelLedger.setRemovalHeight,hu] using h.mem_iff u
  · intro u hu
    by_cases huv : u = v
    · subst huv
      simp only [BelLedger.setRemovalHeight,Function.update_self] at hu ⊢
      exact hheight hu
    · simp only [BelLedger.setRemovalHeight,Function.update_of_ne huv] at hu ⊢
      exact h.removal_after_activation u hu

variable {H : Type} [Keccak H] [DecidableEq H]

private theorem validator_genesis (d : Deployment) (w : World H) (h : Genesis d w) :
    ValidatorInvariant w.validators := by
  refine ⟨?_,?_,?_,?_,?_,?_,?_,?_⟩
  · simp [h.validators]
  · simp [h.validators,h.records]
  · simp [h.validators]
  · rw [h.bootstrapValidators]
    exact h.isBootstrap
  · rw [h.bootstrapValidators]
    exact h.bootstrap_nodup
  · rw [h.bootstrapValidators]
    exact h.bootstrap_ne_zero
  · rw [h.bootstrapValidators,h.minimumPopulation]
    exact h.population.2
  · simp [h.records]

private theorem validator_step (w : World H) (tx : Tx) (w' : World H) (hd : Deployed w)
    (h : ValidatorInvariant w.validators) (hs : exec w tx = .ok w') :
    ValidatorInvariant w'.validators := by
  by_cases htarget : tx.call.target = some .validators
  swap
  · rw [(exec_frame hd hs).validators htarget]
    exact h
  rcases tx with ⟨env,call⟩
  cases call with
  | wire r a b c => exact absurd hs (exec_wire_ne_ok hd)
  | addValidator validator publicKey signingPublicKey activationHeight =>
    obtain ⟨-,hzero,hboot,-,hnew,log,rfl,-⟩ := addValidator_cases hs
    exact h.added hzero hboot hnew
  | removeValidator validator removalHeight reason =>
    obtain ⟨-,-,-,-,hact,-,log,rfl,-⟩ := removeValidator_cases reason hs
    exact h.setRemovalHeight (fun _ => hact)
  | restoreValidator validator reason =>
    obtain ⟨-,-,-,-,log,rfl,-⟩ := restoreValidator_cases reason hs
    exact h.setRemovalHeight (fun hne => absurd rfl hne)
  | cancelScheduledRemoval validator reason =>
    obtain ⟨-,-,-,log,rfl,-⟩ := cancelScheduledRemoval_cases reason hs
    exact h.setRemovalHeight (fun hne => absurd rfl hne)
  | _ => simp [Call.target] at htarget

private theorem removal_registered_step (w : World H) (tx : Tx) (w' : World H) (hd : Deployed w)
    (h : ∀ v,(w.validators.records v).removalHeight ≠ 0 → (w.validators.records v).registered = true)
    (hs : exec w tx = .ok w') :
    ∀ v,(w'.validators.records v).removalHeight ≠ 0 → (w'.validators.records v).registered = true := by
  by_cases htarget : tx.call.target = some .validators
  swap
  · rw [(exec_frame hd hs).validators htarget]
    exact h
  have hset : ∀ {v : Address} {height : ℕ},(w.validators.records v).registered = true →
      ∀ u,((BelLedger.setRemovalHeight w.validators v height).records u).removalHeight ≠ 0 →
        ((BelLedger.setRemovalHeight w.validators v height).records u).registered = true := by
    intro v height hreg u
    by_cases hu : u = v
    · simp [BelLedger.setRemovalHeight,hu,hreg]
    · simpa [BelLedger.setRemovalHeight,hu] using h u
  rcases tx with ⟨env,call⟩
  cases call with
  | wire r a b c => exact absurd hs (exec_wire_ne_ok hd)
  | addValidator validator publicKey signingPublicKey activationHeight =>
    obtain ⟨-,-,-,-,-,log,rfl,-⟩ := addValidator_cases hs
    intro u
    by_cases hu : u = validator
    · simp [BelLedger.added,hu]
    · simpa [BelLedger.added,hu] using h u
  | removeValidator validator removalHeight reason =>
    obtain ⟨-,-,hreg,-,-,-,log,rfl,-⟩ := removeValidator_cases reason hs
    exact hset hreg
  | restoreValidator validator reason =>
    obtain ⟨-,hreg,-,-,log,rfl,-⟩ := restoreValidator_cases reason hs
    exact hset hreg
  | cancelScheduledRemoval validator reason =>
    obtain ⟨-,hreg,-,log,rfl,-⟩ := cancelScheduledRemoval_cases reason hs
    exact hset hreg
  | _ => simp [Call.target] at htarget

/-- Only a registered validator has a removal height. -/
theorem Reachable.removal_registered {w : World H} (h : Reachable w) {v : Address}
    (hset : (w.validators.records v).removalHeight ≠ 0) :
    (w.validators.records v).registered = true := by
  obtain ⟨hist,h⟩ := h
  refine (h.invariant (I := fun w => ∀ v,(w.validators.records v).removalHeight ≠ 0 →
    (w.validators.records v).registered = true) ?_ removal_registered_step).2 v hset
  intro d w hw v
  simp [hw.records]

theorem Reachable.validators {w : World H} (h : Reachable w) : ValidatorInvariant w.validators := by
  obtain ⟨hist,h⟩ := h
  exact (h.invariant (I := fun w => ValidatorInvariant w.validators) validator_genesis
    validator_step).2

end Steps

section SetCorrectness
variable {H : Type} [Keccak H] [DecidableEq H]

/-- A validator without a scheduled removal is counted at every height after its activation. -/
private theorem ValidatorInvariant.population_at {s : Storage} (h : ValidatorInvariant s)
    {v : Address} {height : ℕ} (hreg : (s.records v).registered = true)
    (hact : (s.records v).activationHeight < height) (hrem : (s.records v).removalHeight = 0) :
    s.minimumPopulation + 1 ≤ validatorCountAt s height := by
  have hactive : isActive (s.records v) height = true :=
    (mem_active_iff s height v).mpr ⟨hreg,Nat.le_of_lt hact,.inl hrem⟩
  have hmem : v ∈ s.validators.filter (fun v => isActive (s.records v) height) :=
    List.mem_filter.mpr ⟨(h.mem_iff v).mpr hreg,hactive⟩
  have hpos := List.length_pos_of_mem hmem
  have hpop := h.population
  rw [validatorCountAt_eq]
  omega

private theorem audit_error {w : World H} {r : Registry} {env : Env}
    {entityType entityId action : Bytes} {e : Revert}
    (h : audit w r env entityType entityId action = .error e) :
    e = .NotRecorder (w.addr.of r) ∨ e = .InvalidEntityType entityType ∨ e = .InvalidEntityId ∨
      e = .InvalidAction := by
  simp only [audit,AuditRegistry.recordAuditFor,AuditRegistry.record,revertIf_bind_eq_error] at h
  rcases h with ⟨-,rfl⟩ | ⟨-,⟨-,rfl⟩ | ⟨-,⟨-,rfl⟩ | ⟨-,⟨-,rfl⟩ | ⟨-,h⟩⟩⟩⟩
  · exact .inl rfl
  · exact .inr (.inl rfl)
  · exact .inr (.inr (.inl rfl))
  · exact .inr (.inr (.inr rfl))
  · cases h

/-- The population guard of `removeValidator` and the subtraction before it never fail. -/
private theorem removeValidator_error {w : World H} (h : ValidatorInvariant w.validators) {env : Env}
    {v : Address} {height : ℕ} (reason : Bytes) {e : Revert}
    (he : removeValidator w env v height reason = .error e) :
    e ≠ .Panic .arithmetic ∧ ∀ atHeight population,e ≠ .PopulationBelowMinimum atHeight population := by
  simp only [removeValidator,BelAccess.checkRoles,bind_assoc,revertIf_bind_eq_error] at he
  rcases he with ⟨-,rfl⟩ | ⟨-,⟨-,rfl⟩ | ⟨-,⟨-,rfl⟩ | ⟨-,⟨-,rfl⟩ | ⟨-,⟨-,rfl⟩ | ⟨hreg,⟨-,rfl⟩ |
    ⟨hheight,⟨-,rfl⟩ | ⟨hrem,he⟩⟩⟩⟩⟩⟩⟩
  -- the last goal is the one past all guards
  rotate_right
  · simp only [not_or,Nat.not_le,Bool.not_eq_false,not_not,ne_eq] at hreg hheight hrem
    have hcount := h.population_at hreg hheight.2 hrem
    have hsub : checkedSub (Revert.Panic .arithmetic) (validatorCountAt w.validators height) 1 =
        .ok (validatorCountAt w.validators height - 1) := checkedSub_eq_ok.mpr ⟨by omega,rfl⟩
    rw [hsub] at he
    rcases revertIf_bind_eq_error.mp he with ⟨hlow,-⟩ | ⟨-,he⟩
    · omega
    · rcases audit_error he with rfl | rfl | rfl | rfl
      all_goals exact ⟨by simp,by simp⟩
  all_goals exact ⟨by simp,by simp⟩

/-- What the registry reports for one height. -/
structure ValidatorSetAt (s : Storage) (height : ℕ) (vs : List Address) : Prop where
  reported : getValidatorsAt s height = .ok vs
  nodup : vs.Nodup
  no_zero : (0 : Address) ∉ vs
  count : vs.length = validatorCountAt s height
  content : vs = s.bootstrapValidators++s.validators.filter (fun v =>
    decide ((s.records v).activationHeight ≤ height ∧
      ((s.records v).removalHeight = 0 ∨ height < (s.records v).removalHeight)))
  population : s.minimumPopulation ≤ vs.length

private theorem ValidatorInvariant.set_at {s : Storage} (h : ValidatorInvariant s) (height : ℕ) :
    ValidatorSetAt s height
      (s.bootstrapValidators++s.validators.filter (fun v => isActive (s.records v) height)) := by
  refine ⟨getValidatorsAt_eq s height,?_,?_,?_,?_,?_⟩
  · refine List.Nodup.append h.bootstrap_nodup (h.nodup.filter _) ?_
    intro v hboot hactive
    exact (h.not_bootstrap v (List.mem_filter.mp hactive).1).2 hboot
  · intro hzero
    rcases List.mem_append.mp hzero with hboot | hactive
    · exact h.bootstrap_ne_zero 0 hboot rfl
    · exact (h.not_bootstrap 0 (List.mem_filter.mp hactive).1).1 rfl
  · rw [List.length_append,validatorCountAt_eq]
  · congr 1
    apply List.filter_congr
    intro v hv
    have hreg := (h.mem_iff v).mp hv
    simp [isActive,hreg]
  · have hpop := h.population
    rw [List.length_append]
    omega

/-- In every reachable state and at every height the registry reports one duplicate-free set, the
array behind it lists exactly the registered validators, and removals never meet the population
guard. -/
theorem validator_set_correct (w : World H) (hw : Reachable w) :
    (∀ height,∃ vs,ValidatorSetAt w.validators height vs) ∧
    (∀ v,v ∈ w.validators.validators ↔ (w.validators.records v).registered = true) ∧
    ∀ env v height reason e,
      exec w ⟨env,.removeValidator v height reason⟩ = .error e →
      e ≠ .Panic .arithmetic ∧ ∀ atHeight population,e ≠ .PopulationBelowMinimum atHeight population := by
  have h := hw.validators
  refine ⟨fun height => ⟨_,h.set_at height⟩,h.mem_iff,?_⟩
  intro env v height reason e he
  exact removeValidator_error h reason he

/-- A validator is added, its removal is scheduled, and another one is added. -/
def validatorTxs : List Tx :=
  [txOf 0xad 2 (.addValidator 0xc1 (utf8 "pk1") (utf8 "spk1") 5),
   txOf 0xad 3 (.removeValidator 0xc1 10 (utf8 "rotation")),
   txOf 0xad 4 (.addValidator 0xc2 (utf8 "pk2") (utf8 "spk2") 7)]

theorem validator_set_correct_prototype :
    getValidatorsAt (attemptAll exec prototypeWorld validatorTxs).validators 8 =
        .ok [0xb1,0xb2,0xb3,0xb4,0xc1,0xc2] ∧
      ∀ height,∃ vs,
        ValidatorSetAt (attemptAll exec prototypeWorld validatorTxs).validators height vs :=
  ⟨by decide +kernel,(validator_set_correct _ (prototype_reachable validatorTxs)).1⟩

end SetCorrectness
end BelLedger
