import BelLedger.RoleAgreement
import BelLedger.ValidatorService
import BelLedger.ValidatorSets

/-!
# What ValidatorServiceImpl shows of ValidatorRegistry

A row is right at every height from now on, as long as no removal is cancelled before the validator
has become active: the service then stores ACTIVE, which no later reading corrects.
-/
namespace BelLedger
open CheckedCalls TransitionRuns KeyedTables ValidatorRegistry ValidatorService

section Statuses

/-- The status that the registry gives a validator at a height; none when it was never added. -/
def statusAt (record : ValidatorRecord) (height : ℕ) : Option RegistrationStatus :=
  if record.registered = false then none
  else if record.removalHeight ≠ 0 then
    some (if record.removalHeight ≤ height then .REMOVED else .REMOVAL_SCHEDULED)
  else some (if height < record.activationHeight then .PENDING else .ACTIVE)

theorem statusAt_eq_some {record : ValidatorRecord} {height : ℕ} {status : RegistrationStatus} :
    statusAt record height = some status ↔ record.registered = true ∧
      match status with
      | .PENDING => record.removalHeight = 0 ∧ height < record.activationHeight
      | .ACTIVE => record.removalHeight = 0 ∧ record.activationHeight ≤ height
      | .REMOVAL_SCHEDULED => height < record.removalHeight
      | .REMOVED => record.removalHeight ≠ 0 ∧ record.removalHeight ≤ height := by
  unfold statusAt
  cases record.registered with
  | false => simp
  | true =>
    by_cases hset : record.removalHeight = 0
    · by_cases hpending : height < record.activationHeight
      · cases status <;> simp [hset,hpending]
      · cases status <;> simp [hset,hpending,Nat.not_lt.mp hpending]
    · by_cases hpast : record.removalHeight ≤ height
      · cases status <;> simp [hset,hpast]
      · cases status <;> simp [hset,hpast,Nat.not_le.mp hpast]

variable (value : ValidatorRegistration) (height : ℕ)

@[simp] theorem effectiveRegistration_registrationId :
    (effectiveRegistration value height).registrationId = value.registrationId := by
  fun_cases effectiveRegistration value height <;> rfl

@[simp] theorem effectiveRegistration_validatorId :
    (effectiveRegistration value height).validatorId = value.validatorId := by
  fun_cases effectiveRegistration value height <;> rfl

@[simp] theorem effectiveRegistration_activationHeight :
    (effectiveRegistration value height).activationHeight = value.activationHeight := by
  fun_cases effectiveRegistration value height <;> rfl

variable {value : ValidatorRegistration} {height : ℕ}

theorem effective_of_pending (h : value.status = .PENDING) :
    (effectiveRegistration value height).status =
      if height < value.activationHeight then .PENDING else .ACTIVE := by
  unfold effectiveRegistration
  rw [h]
  by_cases hle : value.activationHeight ≤ height
  · simp [hle,Nat.not_lt.mpr hle]
  · simp [hle,Nat.not_le.mp hle,h]

theorem effective_of_scheduled {removalHeight : ℕ} (h : value.status = .REMOVAL_SCHEDULED)
    (hremoval : value.removalHeight = some removalHeight) :
    (effectiveRegistration value height).status =
      if removalHeight ≤ height then .REMOVED else .REMOVAL_SCHEDULED := by
  unfold effectiveRegistration
  rw [h,hremoval]
  by_cases hle : removalHeight ≤ height
  · simp [hle]
  · simp [hle,h]

theorem effective_of_active (h : value.status = .ACTIVE) :
    (effectiveRegistration value height).status = .ACTIVE := by
  simp [effectiveRegistration,h]

end Statuses

section Tracking

/-- The row stands for the validator `v`, and shows its status now and at every later height. -/
structure Tracks (P : Platform) (record : ValidatorRecord) (head : ℕ) (r : ValidatorRegistration)
    (v : Address) : Prop where
  trimmed : Trimmed r.validatorId
  address : P.parseAddress r.validatorId = some v
  status : ∀ height,head ≤ height →
    statusAt record height = some (effectiveRegistration r height).status

variable {P : Platform} {record : ValidatorRecord} {head head' : ℕ} {r : ValidatorRegistration}
  {v : Address}

theorem Tracks.later (h : Tracks P record head r v) (hle : head ≤ head') : Tracks P record head' r v :=
  ⟨h.trimmed,h.address,fun height hheight => h.status height (hle.trans hheight)⟩

theorem Tracks.registered (h : Tracks P record head r v) : record.registered = true := by
  have hstatus := h.status head (Nat.le_refl head)
  unfold statusAt at hstatus
  split at hstatus
  · cases hstatus
  · rename_i hreg
    simpa using hreg

theorem tracks_added (htrim : Trimmed r.validatorId) (haddress : P.parseAddress r.validatorId = some v)
    (hpending : r.status = .PENDING) (hreg : record.registered = true)
    (hactivation : record.activationHeight = r.activationHeight) (hremoval : record.removalHeight = 0) :
    Tracks P record head r v := by
  refine ⟨htrim,haddress,?_⟩
  intro height _
  rw [effective_of_pending hpending,← hactivation]
  simp [statusAt,hreg,hremoval]

theorem tracks_scheduled (htrim : Trimmed r.validatorId)
    (haddress : P.parseAddress r.validatorId = some v) (hstatus : r.status = .REMOVAL_SCHEDULED)
    (hreg : record.registered = true) (hremoval : r.removalHeight = some record.removalHeight)
    (hset : record.removalHeight ≠ 0) : Tracks P record head r v := by
  refine ⟨htrim,haddress,?_⟩
  intro height _
  rw [effective_of_scheduled hstatus hremoval]
  simp [statusAt,hreg,hset]

theorem tracks_active (htrim : Trimmed r.validatorId)
    (haddress : P.parseAddress r.validatorId = some v) (hstatus : r.status = .ACTIVE)
    (hreg : record.registered = true) (hremoval : record.removalHeight = 0)
    (hactive : record.activationHeight ≤ head) : Tracks P record head r v := by
  refine ⟨htrim,haddress,?_⟩
  intro height hheight
  rw [effective_of_active hstatus]
  have hpast : ¬height < record.activationHeight := Nat.not_lt.mpr (hactive.trans hheight)
  simp [statusAt,hreg,hremoval,hpast]

end Tracking

section Submissions
variable {H : Type} [Keccak H] [DecidableEq H] {P : Platform} {ctx : ValidatorContext}
  {w w' : World H} {op : Operation} {d : Delivery}

theorem ValidatorService.submit_success (h : submit P ctx w op d = (w',.ok ())) :
    ∃ tx,EvmAdapter.prepare P w (envelope ctx op) d = .ok tx ∧ d.fate = .mined ∧
      exec (attemptAll exec w d.interference) tx = .ok w' := by
  unfold submit at h
  split at h
  · cases h
  · split at h
    · rename_i w₁ hsubmit
      obtain rfl : w₁ = w' := (Prod.mk.inj h).1
      obtain ⟨tx,hfate,hprepare,hexec⟩ := EvmAdapter.submitTransaction_success hsubmit
      exact ⟨tx,hprepare,hfate,hexec⟩
    · cases h
    · cases h

theorem ValidatorService.submit_failure {e : ServiceError}
    (h : submit P ctx w op d = (w',.error e)) (hreported : ¬d.fate.Lost) :
    w' = w ∨ w' = attemptAll exec w d.interference := by
  unfold submit at h
  split at h
  · exact .inl (Prod.mk.inj h).1.symm
  · split at h
    · cases h
    · rename_i w₁ revert hsubmit
      obtain rfl : w₁ = w' := (Prod.mk.inj h).1
      rcases EvmAdapter.submitTransaction_failure hsubmit (by simp) with hkept | ⟨-,hlost,-⟩
      · exact hkept
      · exact absurd hlost hreported
    · rename_i w₁ error hsubmit
      obtain rfl : w₁ = w' := (Prod.mk.inj h).1
      rcases EvmAdapter.submitTransaction_failure hsubmit (by simp) with hkept | ⟨-,hlost,-⟩
      · exact hkept
      · exact absurd hlost hreported

end Submissions

section Requests
variable {H : Type} {P : Platform} {ctx : ValidatorContext} {s : ValidatorSystem H}

theorem ValidatorService.get_eq_ok {id : String} {r : ValidatorRegistration}
    (h : ValidatorService.get s id = .ok r) :
    ∃ row ∈ s.validators.rows,r = effectiveRegistration row s.head := by
  unfold ValidatorService.get at h
  split at h
  · rename_i row hfound
    refine ⟨row,?_,(Except.ok.inj h).symm⟩
    rw [Option.orElse_eq_or,Option.or_eq_some_iff] at hfound
    rcases hfound with hfound | ⟨-,hfound⟩
    · exact Table.mem_of_find hfound
    · exact List.mem_of_find?_eq_some hfound
  · cases h

/-- The four kinds of request that pass their checks. -/
inductive ValidatorService.Checked (ctx : ValidatorContext) (s : ValidatorSystem H) : Operation → Prop
  | add (actor : UsersService.Identity) {r : ValidatorRegistration} (htrim : Trimmed r.validatorId)
      (hpending : r.status = .PENDING)
      (hkey : r.registrationId = "VREG:"++ctx.uuid ∨
        ∃ row ∈ s.validators.rows,row.validatorId = r.validatorId) :
      Checked ctx s ⟨.VALIDATOR_ADD,actor,r,[],r⟩
  | remove (actor : UsersService.Identity) {row : ValidatorRegistration} (hrow : row ∈ s.validators.rows)
      (removalHeight : ℤ) (reason : String) :
      Checked ctx s ⟨.VALIDATOR_REMOVE,actor,effectiveRegistration row s.head,
        [("removalHeight",.number removalHeight),("reason",.string reason)],
        { effectiveRegistration row s.head with
          status := .REMOVAL_SCHEDULED
          removalHeight := some removalHeight.toNat
          removalReason := some reason }⟩
  | restore (actor : UsersService.Identity) {row : ValidatorRegistration} (hrow : row ∈ s.validators.rows)
      (reason : String) :
      Checked ctx s ⟨.VALIDATOR_RESTORE,actor,effectiveRegistration row s.head,
        [("reason",.string reason)],restored (effectiveRegistration row s.head)⟩
  | cancel (actor : UsersService.Identity) {row : ValidatorRegistration} (hrow : row ∈ s.validators.rows)
      (reason : String) :
      Checked ctx s ⟨.VALIDATOR_REMOVE_CANCEL,actor,effectiveRegistration row s.head,
        [("reason",.string reason)],restored (effectiveRegistration row s.head)⟩

private theorem addValidator_checked {actorId : String} {input : Payload} {op : Operation}
    (h : ValidatorService.addValidator P ctx s actorId input = .ok op) : Checked ctx s op := by
  obtain ⟨actor,-,h⟩ := ok_bind_iff.mp h
  obtain ⟨-,-,h⟩ := ok_bind_iff.mp h
  obtain ⟨-,h⟩ := revertIf_bind_eq_ok.mp h
  split at h
  · cases h
  · rename_i activationHeight _
    obtain ⟨hlater,h⟩ := revertIf_bind_eq_ok.mp h
    obtain rfl := ok_pure_iff.mp h
    refine .add actor ?_ ?_ ?_
    · show Trimmed (text input "validatorId")
      unfold text
      split
      · exact trimmed_jsTrim _
      · decide
    · exact if_pos (Int.not_le.mp hlater)
    · cases hfound : findByValidatorId s (text input "validatorId") with
      | none => exact .inl rfl
      | some row =>
        have hid := List.find?_some hfound
        exact .inr ⟨row,List.mem_of_find?_eq_some hfound,by simpa using hid⟩

private theorem removeValidator_checked {actorId id : String} {input : Payload} {op : Operation}
    (h : ValidatorService.removeValidator ctx s actorId id input = .ok op) : Checked ctx s op := by
  obtain ⟨actor,-,h⟩ := ok_bind_iff.mp h
  split at h
  · cases h
  · rename_i removalHeight _
    obtain ⟨-,h⟩ := revertIf_bind_eq_ok.mp h
    obtain ⟨reason,-,h⟩ := ok_bind_iff.mp h
    obtain ⟨r,hget,h⟩ := ok_bind_iff.mp h
    obtain ⟨-,h⟩ := revertIf_bind_eq_ok.mp h
    obtain ⟨-,h⟩ := revertIf_bind_eq_ok.mp h
    obtain ⟨row,hrow,rfl⟩ := ValidatorService.get_eq_ok hget
    obtain rfl := ok_pure_iff.mp h
    exact .remove actor hrow removalHeight reason

private theorem restoreValidator_checked {actorId id : String} {input : Payload} {op : Operation}
    (h : ValidatorService.restoreValidator ctx s actorId id input = .ok op) : Checked ctx s op := by
  obtain ⟨actor,-,h⟩ := ok_bind_iff.mp h
  obtain ⟨reason,-,h⟩ := ok_bind_iff.mp h
  obtain ⟨r,hget,h⟩ := ok_bind_iff.mp h
  obtain ⟨-,h⟩ := revertIf_bind_eq_ok.mp h
  obtain ⟨row,hrow,rfl⟩ := ValidatorService.get_eq_ok hget
  obtain rfl := ok_pure_iff.mp h
  exact .restore actor hrow reason

private theorem cancelScheduledRemoval_checked {actorId id : String} {input : Payload}
    {op : Operation}
    (h : ValidatorService.cancelScheduledRemoval ctx s actorId id input = .ok op) :
    Checked ctx s op := by
  obtain ⟨actor,-,h⟩ := ok_bind_iff.mp h
  obtain ⟨reason,-,h⟩ := ok_bind_iff.mp h
  obtain ⟨r,hget,h⟩ := ok_bind_iff.mp h
  obtain ⟨-,h⟩ := revertIf_bind_eq_ok.mp h
  obtain ⟨row,hrow,rfl⟩ := ValidatorService.get_eq_ok hget
  obtain rfl := ok_pure_iff.mp h
  exact .cancel actor hrow reason

theorem ValidatorRequest.checked {request : ValidatorRequest} {op : Operation}
    (h : request.check P ctx s = .ok op) : Checked ctx s op := by
  cases request with
  | addValidator actorId input => exact addValidator_checked h
  | removeValidator actorId id input => exact removeValidator_checked h
  | restoreValidator actorId id input => exact restoreValidator_checked h
  | cancelScheduledRemoval actorId id input => exact cancelScheduledRemoval_checked h

end Requests

section Plans
variable {P : Platform} {ctx : ValidatorContext} {lookups : ChainLookups} {call : Call}
  {actor : UsersService.Identity} {r saved : ValidatorRegistration} {reason : String}

private theorem height_number {type : TransactionType} {p : Payload} {key : String} {q : Rat} {n : ℕ}
    (hkey : p.get key = .number q) (h : Payloads.height type p key = .ok n) : n = q.num.toNat := by
  unfold Payloads.height at h
  rw [hkey] at h
  simp only at h
  split at h
  · exact (Except.ok.inj h).symm
  · cases h

private theorem validator_address {type : TransactionType} {p : Payload} {a : Address}
    (hid : p.get "validatorId" = .string r.validatorId) (hvalidator : p.get "validator" = .null)
    (haddress : p.get "address" = .null)
    (h : Payloads.requiredAddress P.parseAddress type p Payloads.validatorKeys = .ok a) :
    P.parseAddress (jsTrim r.validatorId) = some a := by
  obtain ⟨v,hv,ha⟩ := Payloads.requiredAddress_eq_ok h
  obtain ⟨rfl,-⟩ := Payloads.optionalStr_only "validatorId" r.validatorId hid
    (by simp [Payloads.validatorKeys,hvalidator,haddress]) hv
  exact ha

theorem plan_addValidator
    (h : Payloads.buildCallPlan P.parseAddress P.dateParse .VALIDATOR_ADD
      (envelope ctx ⟨.VALIDATOR_ADD,actor,r,[],saved⟩).payload lookups = .ok call) :
    ∃ v publicKey signingPublicKey,P.parseAddress (jsTrim r.validatorId) = some v ∧
      call = .addValidator v publicKey signingPublicKey r.activationHeight := by
  obtain ⟨v,hv,h⟩ := ok_bind_iff.mp h
  obtain ⟨publicKey,-,h⟩ := ok_bind_iff.mp h
  obtain ⟨signingPublicKey,-,h⟩ := ok_bind_iff.mp h
  obtain ⟨activationHeight,hheight,h⟩ := ok_bind_iff.mp h
  obtain rfl : activationHeight = r.activationHeight := by
    have hnumber := height_number (q := (r.activationHeight : Rat)) rfl hheight
    simpa using hnumber
  exact ⟨v,_,_,validator_address (r := r) rfl rfl rfl hv,(ok_pure_iff.mp h).symm⟩

theorem plan_removeValidator {removalHeight : ℤ}
    (h : Payloads.buildCallPlan P.parseAddress P.dateParse .VALIDATOR_REMOVE
      (envelope ctx ⟨.VALIDATOR_REMOVE,actor,r,
        [("removalHeight",.number removalHeight),("reason",.string reason)],saved⟩).payload lookups =
        .ok call) :
    ∃ v why,P.parseAddress (jsTrim r.validatorId) = some v ∧
      call = .removeValidator v removalHeight.toNat why := by
  obtain ⟨v,hv,h⟩ := ok_bind_iff.mp h
  obtain ⟨planned,hheight,h⟩ := ok_bind_iff.mp h
  obtain ⟨why,-,h⟩ := ok_bind_iff.mp h
  obtain rfl : planned = removalHeight.toNat := by
    have hnumber := height_number (q := (removalHeight : Rat)) rfl hheight
    simpa using hnumber
  exact ⟨v,_,validator_address (r := r) rfl rfl rfl hv,(ok_pure_iff.mp h).symm⟩

theorem plan_restoreValidator
    (h : Payloads.buildCallPlan P.parseAddress P.dateParse .VALIDATOR_RESTORE
      (envelope ctx ⟨.VALIDATOR_RESTORE,actor,r,[("reason",.string reason)],saved⟩).payload lookups =
        .ok call) :
    ∃ v why,P.parseAddress (jsTrim r.validatorId) = some v ∧ call = .restoreValidator v why := by
  obtain ⟨v,hv,h⟩ := ok_bind_iff.mp h
  obtain ⟨why,-,h⟩ := ok_bind_iff.mp h
  exact ⟨v,_,validator_address (r := r) rfl rfl rfl hv,(ok_pure_iff.mp h).symm⟩

theorem plan_cancelScheduledRemoval
    (h : Payloads.buildCallPlan P.parseAddress P.dateParse .VALIDATOR_REMOVE_CANCEL
      (envelope ctx ⟨.VALIDATOR_REMOVE_CANCEL,actor,r,[("reason",.string reason)],saved⟩).payload
        lookups = .ok call) :
    ∃ v why,P.parseAddress (jsTrim r.validatorId) = some v ∧
      call = .cancelScheduledRemoval v why := by
  obtain ⟨v,hv,h⟩ := ok_bind_iff.mp h
  obtain ⟨why,-,h⟩ := ok_bind_iff.mp h
  exact ⟨v,_,validator_address (r := r) rfl rfl rfl hv,(ok_pure_iff.mp h).symm⟩

end Plans

section Steps
variable {H : Type} [Keccak H] [DecidableEq H] {P : Platform}

/-- The rows are the registered validators, one row each. -/
structure Mirrors (P : Platform) (s : ValidatorSystem H) : Prop where
  reachable : Reachable s.chain
  tracked : ∀ r ∈ s.validators.rows,∃ v,Tracks P (s.chain.validators.records v) s.head r v
  found : ∀ v,(s.chain.validators.records v).registered = true →
    ∃ r ∈ s.validators.rows,P.parseAddress r.validatorId = some v
  unique : ∀ r ∈ s.validators.rows,∀ r' ∈ s.validators.rows,
    P.parseAddress r.validatorId = P.parseAddress r'.validatorId → r = r'

/-- Validators change on chain through requests only, a request learns its outcome, and an
identifier that is drawn is new. -/
def ValidatorEvent.Sound (s : ValidatorSystem H) : ValidatorEvent → Prop
  | .advance _ => True
  | .external tx => tx.call.target ≠ some .validators
  | .request ctx _ _ d =>
    (∀ tx ∈ d.interference,tx.call.target ≠ some .validators) ∧ ¬d.fate.Lost ∧
      s.validators.find ("VREG:"++ctx.uuid) = none

/-- What an event does to the rows and to the registry. -/
inductive ProjectionStep (P : Platform) (s s' : ValidatorSystem H) : Prop
  | kept (hrows : s'.validators = s.validators) (hchain : s'.chain.validators = s.chain.validators)
  | added {env : Env} {v : Address} {publicKey signingPublicKey : Bytes} {r : ValidatorRegistration}
      (htrim : Trimmed r.validatorId) (haddress : P.parseAddress r.validatorId = some v)
      (hpending : r.status = .PENDING) (hnew : (s.chain.validators.records v).registered = false)
      (hfree : s.validators.find r.registrationId = none)
      (hrows : s'.validators = s.validators.save r)
      (hchain : s'.chain.validators =
        BelLedger.added s.chain.validators env v publicKey signingPublicKey r.activationHeight)
  | scheduled {row r : ValidatorRegistration} (hrow : row ∈ s.validators.rows) {v : Address}
      {removalHeight : ℕ} (hid : r.registrationId = row.registrationId)
      (hvalidator : r.validatorId = row.validatorId)
      (haddress : P.parseAddress row.validatorId = some v) (hstatus : r.status = .REMOVAL_SCHEDULED)
      (hremoval : r.removalHeight = some removalHeight) (hset : removalHeight ≠ 0)
      (hrows : s'.validators = s.validators.save r)
      (hchain : s'.chain.validators = setRemovalHeight s.chain.validators v removalHeight)
  | cleared {row r : ValidatorRegistration} (hrow : row ∈ s.validators.rows) {v : Address}
      (hid : r.registrationId = row.registrationId) (hvalidator : r.validatorId = row.validatorId)
      (haddress : P.parseAddress row.validatorId = some v) (hstatus : r.status = .ACTIVE)
      (hwhen : s'.head < (s.chain.validators.records v).removalHeight ∨
        (s.chain.validators.records v).activationHeight ≤ s'.head)
      (hrows : s'.validators = s.validators.save r)
      (hchain : s'.chain.validators = setRemovalHeight s.chain.validators v 0)

section Mirrored
variable {s s' : ValidatorSystem H} (h : Mirrors P s)
include h

theorem Mirrors.row_of {row : ValidatorRegistration} (hrow : row ∈ s.validators.rows) :
    Trimmed row.validatorId ∧ ∃ v,P.parseAddress row.validatorId = some v ∧
      (s.chain.validators.records v).registered = true := by
  obtain ⟨v,hv⟩ := h.tracked row hrow
  exact ⟨hv.trimmed,v,hv.address,hv.registered⟩

/-- The row and the record of one validator are written, the record of a row only with the row. -/
private theorem Mirrors.write {r : ValidatorRegistration} {v : Address} {record : ValidatorRecord}
    (hkey : ∀ x ∈ s.validators.rows,
      x.registrationId = r.registrationId ↔ P.parseAddress x.validatorId = some v)
    (htracks : Tracks P record s'.head r v) (hhead : s.head ≤ s'.head)
    (hreach : Reachable s'.chain) (hrows : s'.validators = s.validators.save r)
    (hrecords : s'.chain.validators.records =
      Function.update s.chain.validators.records v record) : Mirrors P s' := by
  have hrow : ∀ x,x ∈ s'.validators.rows ↔ x = r ∨
      (x ∈ s.validators.rows ∧ P.parseAddress x.validatorId ≠ some v) := by
    intro x
    rw [hrows,Table.mem_save]
    constructor
    · rintro (rfl | ⟨hx,hne⟩)
      · exact .inl rfl
      · exact .inr ⟨hx,fun hv => hne ((hkey x hx).mpr hv)⟩
    · rintro (rfl | ⟨hx,hne⟩)
      · exact .inl rfl
      · exact .inr ⟨hx,fun hv => hne ((hkey x hx).mp hv)⟩
  refine ⟨hreach,?_,?_,?_⟩
  · intro x hx
    rcases (hrow x).mp hx with rfl | ⟨hold,hne⟩
    · exact ⟨v,by rw [hrecords,Function.update_self]; exact htracks⟩
    · obtain ⟨u,hu⟩ := h.tracked x hold
      have huv : u ≠ v := fun he => hne (by rw [← he,hu.address])
      exact ⟨u,by rw [hrecords,Function.update_of_ne huv]; exact hu.later hhead⟩
  · intro u hu
    by_cases huv : u = v
    · exact ⟨r,(hrow r).mpr (.inl rfl),by rw [huv,htracks.address]⟩
    · rw [hrecords,Function.update_of_ne huv] at hu
      obtain ⟨x,hx,hxu⟩ := h.found u hu
      have hne : P.parseAddress x.validatorId ≠ some v := by
        rw [hxu]
        exact fun he => huv (Option.some.inj he)
      exact ⟨x,(hrow x).mpr (.inr ⟨hx,hne⟩),hxu⟩
  · intro x hx y hy hxy
    rcases (hrow x).mp hx with hxr | ⟨hxold,hxne⟩
    · rcases (hrow y).mp hy with hyr | ⟨-,hyne⟩
      · rw [hxr,hyr]
      · rw [← hxy,hxr] at hyne
        exact absurd htracks.address hyne
    · rcases (hrow y).mp hy with hyr | ⟨hyold,-⟩
      · rw [hxy,hyr] at hxne
        exact absurd htracks.address hxne
      · exact h.unique x hxold y hyold hxy

/-- The rows of one validator share their key. -/
private theorem Mirrors.key_iff {row : ValidatorRegistration} (hrow : row ∈ s.validators.rows)
    {v : Address} (haddress : P.parseAddress row.validatorId = some v) :
    ∀ x ∈ s.validators.rows,
      x.registrationId = row.registrationId ↔ P.parseAddress x.validatorId = some v := by
  intro x hx
  constructor
  · intro he
    have hsame := Table.find_of_mem hx
    rw [he,Table.find_of_mem hrow] at hsame
    obtain rfl := Option.some.inj hsame
    exact haddress
  · intro hv
    rw [h.unique x hx row hrow (hv.trans haddress.symm)]

/-- A step keeps the rows right, unless it cancels a removal too early. -/
theorem Mirrors.step (hstep : ProjectionStep P s s') (hhead : s.head ≤ s'.head)
    (hreach : Reachable s'.chain)
    (hcancel : ∀ v,(s.chain.validators.records v).registered = true →
      s'.head < (s.chain.validators.records v).removalHeight →
      (s'.chain.validators.records v).removalHeight = 0 →
      (s.chain.validators.records v).activationHeight ≤ s'.head) : Mirrors P s' := by
  cases hstep with
  | kept hrows hchain =>
    refine ⟨hreach,?_,?_,?_⟩
    · intro r hr
      rw [hrows] at hr
      obtain ⟨v,hv⟩ := h.tracked r hr
      exact ⟨v,by rw [hchain]; exact hv.later hhead⟩
    · rw [hrows,hchain]
      exact h.found
    · rw [hrows]
      exact h.unique
  | @added env v publicKey signingPublicKey r htrim haddress hpending hnew hfree hrows hchain =>
    have hkey : ∀ x ∈ s.validators.rows,
        x.registrationId = r.registrationId ↔ P.parseAddress x.validatorId = some v := by
      intro x hx
      obtain ⟨-,u,hu,hreg⟩ := h.row_of hx
      constructor
      · intro he
        rw [← he,Table.find_of_mem hx] at hfree
        cases hfree
      · intro hv
        obtain rfl := Option.some.inj (hu.symm.trans hv)
        rw [hnew] at hreg
        cases hreg
    refine h.write hkey ?_ hhead hreach hrows (by rw [hchain,BelLedger.added])
    exact tracks_added htrim haddress hpending rfl rfl rfl
  | @scheduled row r hrow v removalHeight hid hvalidator haddress hstatus hremoval hset hrows hchain =>
    have hkey := h.key_iff hrow haddress
    rw [← hid] at hkey
    obtain ⟨htrim,u,hu,hreg⟩ := h.row_of hrow
    obtain rfl := Option.some.inj (hu.symm.trans haddress)
    rw [← hvalidator] at htrim haddress
    refine h.write hkey ?_ hhead hreach hrows (by rw [hchain,setRemovalHeight])
    exact tracks_scheduled htrim haddress hstatus hreg hremoval hset
  | @cleared row r hrow v hid hvalidator haddress hstatus hwhen hrows hchain =>
    have hkey := h.key_iff hrow haddress
    rw [← hid] at hkey
    obtain ⟨htrim,u,hu,hreg⟩ := h.row_of hrow
    obtain rfl := Option.some.inj (hu.symm.trans haddress)
    rw [← hvalidator] at htrim haddress
    have hactive : (s.chain.validators.records u).activationHeight ≤ s'.head := by
      rcases hwhen with hearly | hactive
      · exact hcancel u hreg hearly (by simp [hchain,setRemovalHeight])
      · exact hactive
    refine h.write hkey ?_ hhead hreach hrows (by rw [hchain,setRemovalHeight])
    exact tracks_active htrim haddress hstatus hreg rfl hactive

/-- A checked request whose transaction has been executed. -/
private theorem Mirrors.executed {ctx : ValidatorContext} {op : Operation} (hchecked : Checked ctx s op)
    (hfresh : s.validators.find ("VREG:"++ctx.uuid) = none) {d : Delivery} {tx : Tx} {w : World H}
    (hw : Reachable w) (hsame : w.validators = s.chain.validators)
    (hprepare : EvmAdapter.prepare P s.chain (envelope ctx op) d = .ok tx)
    (hexec : exec w tx = .ok s'.chain) (hhead : s'.head = d.number)
    (hrows : s'.validators = s.validators.save op.saved) : ProjectionStep P s s' := by
  have hnumber := EvmAdapter.prepare_number hprepare
  have hplan := EvmAdapter.prepare_call hprepare
  rcases tx with ⟨env,call⟩
  cases hchecked with
  | @add actor r htrim hpending hkey =>
    obtain ⟨v,publicKey,signingPublicKey,hv,hcall⟩ := plan_addValidator hplan
    subst hcall
    obtain ⟨-,-,-,-,hnew,log,hw',-⟩ := addValidator_cases hexec
    rw [hsame] at hnew
    rw [htrim] at hv
    have hfree : s.validators.find r.registrationId = none := by
      rcases hkey with hdrawn | ⟨row,hrow,hid⟩
      · rw [hdrawn,hfresh]
      · obtain ⟨-,u,hu,hreg⟩ := h.row_of hrow
        rw [hid,hv] at hu
        obtain rfl := Option.some.inj hu
        rw [hnew] at hreg
        cases hreg
    exact .added htrim hv hpending hnew hfree hrows (by rw [hw',hsame])
  | @remove actor row hrow removalHeight reason =>
    obtain ⟨v,why,hv,hcall⟩ := plan_removeValidator hplan
    subst hcall
    obtain ⟨-,-,-,hlater,-,-,log,hw',-⟩ := removeValidator_cases why hexec
    rw [effectiveRegistration_validatorId,(h.row_of hrow).1] at hv
    have hset : removalHeight.toNat ≠ 0 := Nat.ne_of_gt (Nat.zero_lt_of_lt hlater)
    exact .scheduled hrow (by simp) (by simp) hv rfl rfl hset hrows (by rw [hw',hsame])
  | @restore actor row hrow reason =>
    obtain ⟨v,why,hv,hcall⟩ := plan_restoreValidator hplan
    subst hcall
    obtain ⟨-,-,hset,heffective,log,hw',-⟩ := restoreValidator_cases why hexec
    rw [effectiveRegistration_validatorId,(h.row_of hrow).1] at hv
    have hactive := hw.validators.removal_after_activation v hset
    rw [hsame] at hactive heffective
    refine .cleared hrow (by simp [restored]) (by simp [restored]) hv rfl (.inr ?_) hrows
      (by rw [hw',hsame])
    rw [hhead,← hnumber]
    exact (Nat.le_of_lt hactive).trans heffective
  | @cancel actor row hrow reason =>
    obtain ⟨v,why,hv,hcall⟩ := plan_cancelScheduledRemoval hplan
    subst hcall
    obtain ⟨-,-,hlater,log,hw',-⟩ := cancelScheduledRemoval_cases why hexec
    rw [effectiveRegistration_validatorId,(h.row_of hrow).1] at hv
    rw [hsame] at hlater
    refine .cleared hrow (by simp [restored]) (by simp [restored]) hv rfl (.inl ?_) hrows
      (by rw [hw',hsame])
    rw [hhead,← hnumber]
    exact hlater

/-- One event, at the level of rows and records. -/
theorem Mirrors.event {e : ValidatorEvent} (he : e.Sound s) :
    s.head ≤ (s.step P e).head ∧ Reachable (s.step P e).chain ∧
      ProjectionStep P s (s.step P e) := by
  cases e with
  | advance blocks => exact ⟨Nat.le_add_right _ _,h.reachable,.kept rfl rfl⟩
  | external tx =>
    refine ⟨Nat.le_refl _,h.reachable.attempt tx,.kept rfl ?_⟩
    show (attempt exec s.chain tx).validators = s.chain.validators
    unfold attempt
    cases hs : exec s.chain tx with
    | ok w => exact (exec_frame h.reachable.deployed hs).validators he
    | error error => rfl
  | request ctx request delay d =>
    obtain ⟨hforeign,hreported,hfresh⟩ := he
    have hothers : (attemptAll exec s.chain d.interference).validators = s.chain.validators :=
      h.reachable.attemptAll_eq (f := fun w => w.validators) (fun tx htx u u' hu hs =>
        (exec_frame hu.deployed hs).validators (hforeign tx htx))
    have hreach := h.reachable.attemptAll d.interference
    have hhead : s.head ≤ (s.step P (.request ctx request delay d)).head := by
      show s.head ≤ if d.fate.mines then s.head + 1 + delay else s.head
      split
      all_goals omega
    refine ⟨hhead,?_⟩
    cases hcheck : request.check P ctx s with
    | error error =>
      have hstep : s.step P (.request ctx request delay d) =
          { s with head := (s.step P (.request ctx request delay d)).head } := by
        simp [ValidatorSystem.step,conclude,hcheck]
      rw [hstep]
      exact ⟨h.reachable,.kept rfl rfl⟩
    | ok op =>
      cases hsubmit : submit P ctx s.chain op (s.deliver delay d) with
      | mk w' result =>
      cases result with
      | error error =>
        have hstep : s.step P (.request ctx request delay d) =
            { s with chain := w', head := (s.step P (.request ctx request delay d)).head } := by
          simp [ValidatorSystem.step,conclude,hcheck,hsubmit]
        rw [hstep]
        rcases ValidatorService.submit_failure hsubmit hreported with rfl | rfl
        · exact ⟨h.reachable,.kept rfl rfl⟩
        · exact ⟨hreach,.kept rfl hothers⟩
      | ok done =>
        obtain ⟨tx,hprepare,hfate,hexec⟩ := ValidatorService.submit_success hsubmit
        have hmined : d.fate = .mined := hfate
        have hstep : s.step P (.request ctx request delay d) =
            { s with
              validators := s.validators.save op.saved
              chain := w'
              head := s.head + 1 + delay } := by
          simp [ValidatorSystem.step,conclude,hcheck,hsubmit,hmined,Fate.mines]
        rw [hstep]
        refine ⟨hreach.step hexec,?_⟩
        exact h.executed (ValidatorRequest.checked hcheck) hfresh hreach hothers hprepare hexec rfl rfl

end Mirrored

end Steps

section Projection
variable {H : Type} [Keccak H] [DecidableEq H] {P : Platform} {s : ValidatorSystem H}

/-- `list()` shows the validator with the status. -/
def Reports (P : Platform) (s : ValidatorSystem H) (v : Address) (status : RegistrationStatus) : Prop :=
  ∃ r ∈ ValidatorService.list s,P.parseAddress r.validatorId = some v ∧ r.status = status

/-- `list()` shows what the registry holds. The bootstrap validators are not the service's: they
have no rows, and no records. -/
structure Projected (P : Platform) (s : ValidatorSystem H) : Prop where
  active : ∀ v ∉ s.chain.validators.bootstrapValidators,Reports P s v .ACTIVE ↔
    (∃ vs,getValidatorsAt s.chain.validators s.head = .ok vs ∧ v ∈ vs) ∧
      (s.chain.validators.records v).removalHeight = 0
  pending : ∀ v,Reports P s v .PENDING ↔ (s.chain.validators.records v).registered = true ∧
    s.head < (s.chain.validators.records v).activationHeight ∧
      (s.chain.validators.records v).removalHeight = 0
  scheduled : ∀ v,Reports P s v .REMOVAL_SCHEDULED ↔
    s.head < (s.chain.validators.records v).removalHeight
  removed : ∀ v,Reports P s v .REMOVED ↔ (s.chain.validators.records v).removalHeight ≠ 0 ∧
    (s.chain.validators.records v).removalHeight ≤ s.head
  bootstrap : ∀ v ∈ s.chain.validators.bootstrapValidators,∀ status,¬Reports P s v status

/-- A removal that has not taken effect is cancelled only after the activation of the validator. -/
def ValidatorEvent.CancelsActivated (P : Platform) (s : ValidatorSystem H) (e : ValidatorEvent) :
    Prop :=
  ∀ v ∈ s.chain.validators.validators,
    (s.step P e).head < (s.chain.validators.records v).removalHeight →
    ((s.step P e).chain.validators.records v).removalHeight = 0 →
    (s.chain.validators.records v).activationHeight ≤ (s.step P e).head

instance ValidatorEvent.CancelsActivated.decidable (P : Platform) (s : ValidatorSystem H)
    (e : ValidatorEvent) : Decidable (e.CancelsActivated P s) :=
  List.decidableBAll _ _

theorem mem_getValidatorsAt {storage : Storage} (hi : ValidatorInvariant storage) {height : ℕ}
    {v : Address} (hboot : v ∉ storage.bootstrapValidators) :
    (∃ vs,getValidatorsAt storage height = .ok vs ∧ v ∈ vs) ↔
      isActive (storage.records v) height = true := by
  rw [getValidatorsAt_eq]
  constructor
  · rintro ⟨vs,hvs,hv⟩
    obtain rfl := Except.ok.inj hvs
    rcases List.mem_append.mp hv with hv | hv
    · exact absurd hv hboot
    · exact (List.mem_filter.mp hv).2
  · intro hactive
    have hmem := (hi.mem_iff v).mpr ((mem_active_iff storage height v).mp hactive).1
    exact ⟨_,rfl,List.mem_append_right _ (List.mem_filter.mpr ⟨hmem,hactive⟩)⟩

theorem Mirrors.reports_iff (h : Mirrors P s) {v : Address} {status : RegistrationStatus} :
    Reports P s v status ↔ statusAt (s.chain.validators.records v) s.head = some status := by
  constructor
  · rintro ⟨r,hr,hv,hstatus⟩
    obtain ⟨row,hrow,rfl⟩ := List.mem_map.mp hr
    obtain ⟨u,hu⟩ := h.tracked row hrow
    rw [effectiveRegistration_validatorId,hu.address] at hv
    obtain rfl := Option.some.inj hv
    rw [hu.status s.head (Nat.le_refl _),hstatus]
  · intro hstatus
    obtain ⟨row,hrow,hv⟩ := h.found v (statusAt_eq_some.mp hstatus).1
    obtain ⟨u,hu⟩ := h.tracked row hrow
    obtain rfl := Option.some.inj (hu.address.symm.trans hv)
    refine ⟨_,List.mem_map_of_mem hrow,by rw [effectiveRegistration_validatorId,hv],?_⟩
    rw [hu.status s.head (Nat.le_refl _)] at hstatus
    exact Option.some.inj hstatus

theorem Mirrors.projected (h : Mirrors P s) : Projected P s := by
  have hi := h.reachable.validators
  have hset : ∀ {v},(s.chain.validators.records v).removalHeight ≠ 0 →
      (s.chain.validators.records v).registered = true := h.reachable.removal_registered
  refine ⟨?_,?_,?_,?_,?_⟩
  · intro v hboot
    rw [h.reports_iff,statusAt_eq_some,mem_getValidatorsAt hi hboot,mem_active_iff]
    constructor
    · rintro ⟨hreg,hremoval,hactive⟩
      exact ⟨⟨hreg,hactive,.inl hremoval⟩,hremoval⟩
    · rintro ⟨⟨hreg,hactive,-⟩,hremoval⟩
      exact ⟨hreg,hremoval,hactive⟩
  · intro v
    rw [h.reports_iff,statusAt_eq_some]
    exact and_congr_right (fun _ => and_comm)
  · intro v
    rw [h.reports_iff,statusAt_eq_some]
    exact and_iff_right_of_imp (fun hlater => hset (Nat.ne_of_gt (Nat.zero_lt_of_lt hlater)))
  · intro v
    rw [h.reports_iff,statusAt_eq_some]
    exact and_iff_right_of_imp (fun hpast => hset hpast.1)
  · intro v hboot status hreports
    have hreg := (statusAt_eq_some.mp (h.reports_iff.mp hreports)).1
    exact (hi.not_bootstrap v ((hi.mem_iff v).mpr hreg)).2 hboot

/-- A removal that is cancelled too early leaves a row behind that shows. -/
theorem Mirrors.cancelsActivated (h : Mirrors P s) {e : ValidatorEvent} (he : e.Sound s)
    (hprojected : Projected P (s.step P e)) : e.CancelsActivated P s := by
  obtain ⟨-,hreach,hstep⟩ := h.event he
  intro v hv hearly hcleared
  have hreg := (h.reachable.validators.mem_iff v).mp hv
  have hset : (s.chain.validators.records v).removalHeight ≠ 0 :=
    Nat.ne_of_gt (Nat.zero_lt_of_lt hearly)
  cases hstep with
  | kept hrows hchain =>
    rw [hchain] at hcleared
    exact absurd hcleared hset
  | @added env u publicKey signingPublicKey r htrim haddress hpending hnew hfree hrows hchain =>
    have hvu : v ≠ u := by
      rintro rfl
      rw [hnew] at hreg
      cases hreg
    rw [hchain,BelLedger.added] at hcleared
    simp only [Function.update_of_ne hvu] at hcleared
    exact absurd hcleared hset
  | @scheduled row r hrow u removalHeight hid hvalidator haddress hstatus hremoval hheight hrows
      hchain =>
    rw [hchain,setRemovalHeight] at hcleared
    by_cases hvu : v = u
    · subst hvu
      simp only [Function.update_self] at hcleared
      exact absurd hcleared hheight
    · simp only [Function.update_of_ne hvu] at hcleared
      exact absurd hcleared hset
  | @cleared row r hrow u hid hvalidator haddress hstatus hwhen hrows hchain =>
    have hvu : v = u := by
      by_contra hvu
      rw [hchain,setRemovalHeight] at hcleared
      simp only [Function.update_of_ne hvu] at hcleared
      exact hset hcleared
    subst hvu
    have hreports : Reports P (s.step P e) v .ACTIVE := by
      refine ⟨_,List.mem_map_of_mem (a := r) ?_,?_,effective_of_active hstatus⟩
      · rw [hrows]
        exact Table.mem_save.mpr (.inl rfl)
      · rw [effectiveRegistration_validatorId,hvalidator,haddress]
    have hboot : v ∉ (s.step P e).chain.validators.bootstrapValidators := by
      rw [hchain,setRemovalHeight]
      exact (h.reachable.validators.not_bootstrap v hv).2
    obtain ⟨hmem,-⟩ := (hprojected.active v hboot).mp hreports
    rw [mem_getValidatorsAt hreach.validators hboot,mem_active_iff,hchain,setRemovalHeight] at hmem
    simpa using hmem.2.1

theorem mirrors_empty (hs : Reachable s.chain) (hrows : s.validators = .empty)
    (hnone : s.chain.validators.validators = []) : Mirrors P s := by
  refine ⟨hs,?_,?_,?_⟩
  · intro r hr
    rw [hrows] at hr
    cases hr
  · intro v hv
    have hmem := (hs.validators.mem_iff v).mpr hv
    rw [hnone] at hmem
    cases hmem
  · intro r hr
    rw [hrows] at hr
    cases hr

/-- From an empty table and a registry without validators of its own, the service shows the registry
in every state of a run exactly when no removal is cancelled before the validator is active. -/
theorem validators_projected_iff (P : Platform) (s : ValidatorSystem H) (hs : Reachable s.chain)
    (hrows : s.validators = .empty) (hnone : s.chain.validators.validators = [])
    (events : List ValidatorEvent)
    (hsound : Throughout (ValidatorSystem.step P) (fun s e => e.Sound s) s events) :
    (∀ n,Projected P (s.run P (events.take n))) ↔
      Throughout (ValidatorSystem.step P) (fun s e => e.CancelsActivated P s) s events := by
  apply throughout_iff_of_invariant (I := Mirrors P) (A := fun s e => e.Sound s)
  · intro s e h he hcancel
    obtain ⟨hhead,hreach,hstep⟩ := h.event he
    refine h.step hstep hhead hreach ?_
    intro v hreg
    exact hcancel v ((h.reachable.validators.mem_iff v).mpr hreg)
  · exact fun s h => h.projected
  · exact fun s e h he hprojected => h.cancelsActivated he hprojected
  · exact mirrors_empty hs hrows hnone
  · exact hsound

end Projection

section Prototype

def prototypeValidators : ValidatorSystem (Option Bytes) := ⟨.empty,prototypeWorld,1⟩

def validatorContext (uuid : String) : ValidatorContext := ⟨false,workshopRepositories,uuid⟩

def nodeWallet : String := "0x00000000000000000000000000000000000000c1"

def addition : ValidatorEvent :=
  .request (validatorContext "1") (.addValidator "DID:BEL:ADMIN"
    [("validatorId",.string nodeWallet),("nodeAddress",.string "node-1"),
      ("publicKey",.string "pub"),("signingPublicKey",.string "sign"),
      ("activationHeight",.number 20)]) 0 (deliveryOf 2 .mined)

def removal : ValidatorEvent :=
  .request (validatorContext "2") (.removeValidator "DID:BEL:ADMIN" "VREG:1"
    [("removalHeight",.number 30),("reason",.string "retire")]) 0 (deliveryOf 3 .mined)

def cancellation : ValidatorEvent :=
  .request (validatorContext "3") (.cancelScheduledRemoval "DID:BEL:ADMIN" nodeWallet
    [("reason",.string "still needed")]) 0 (deliveryOf 4 .mined)

theorem request_sound {uuid : String} {s : ValidatorSystem (Option Bytes)} (request : ValidatorRequest)
    (delay number : ℕ) (hfresh : s.validators.find ("VREG:"++uuid) = none) :
    (ValidatorEvent.request (validatorContext uuid) request delay (deliveryOf number .mined)).Sound s :=
  ⟨fun _ h => absurd h List.not_mem_nil,id,hfresh⟩

-- one evaluation of a run answers what is asked of it
private theorem scheduled_free :
    (prototypeValidators.step prototypePlatform addition).validators.find "VREG:2" = none ∧
    (prototypeValidators.run prototypePlatform [addition,removal]).validators.find "VREG:3" = none := by
  decide +kernel

private theorem scheduled_sound :
    Throughout (ValidatorSystem.step prototypePlatform) (fun s e => e.Sound s) prototypeValidators
      [addition,removal] ∧
    (prototypeValidators.run prototypePlatform [addition,removal]).validators.find "VREG:3" = none :=
  ⟨⟨request_sound _ 0 2 rfl,request_sound _ 0 3 scheduled_free.1,trivial⟩,scheduled_free.2⟩

private theorem late_cancel :
    ValidatorService.list (prototypeValidators.run prototypePlatform
      [addition,removal,.advance 20,cancellation]) =
      [⟨"VREG:1",nodeWallet,"DID:BEL:ADMIN",adminWallet,nodeWallet,"node-1","pub","sign",.ACTIVE,20,
        none,none⟩] ∧
    prototypeValidators.chain.validators.validators = [] ∧
    Throughout (ValidatorSystem.step prototypePlatform)
      (fun s e => e.CancelsActivated prototypePlatform s) prototypeValidators
      [addition,removal,.advance 20,cancellation] := by
  decide +kernel

theorem validators_projected_late_cancel :
    ValidatorService.list (prototypeValidators.run prototypePlatform
      [addition,removal,.advance 20,cancellation]) =
      [⟨"VREG:1",nodeWallet,"DID:BEL:ADMIN",adminWallet,nodeWallet,"node-1","pub","sign",.ACTIVE,20,
        none,none⟩] ∧
    ∀ n,Projected prototypePlatform (prototypeValidators.run prototypePlatform
      ([addition,removal,.advance 20,cancellation].take n)) :=
  ⟨late_cancel.1,
    (validators_projected_iff prototypePlatform prototypeValidators (prototype_reachable []) rfl
      late_cancel.2.1 [addition,removal,.advance 20,cancellation]
      ⟨scheduled_sound.1.1,scheduled_sound.1.2.1,trivial,request_sound _ 0 4 scheduled_sound.2,
        trivial⟩).mpr late_cancel.2.2⟩

/-- Removed at 30 and kept again, all before the activation at 20: the service reports a validator
that is in no set as active. -/
theorem early_cancel_reports_active :
    Throughout (ValidatorSystem.step prototypePlatform) (fun s e => e.Sound s) prototypeValidators
      [addition,removal,cancellation] ∧
    (ValidatorService.list (prototypeValidators.run prototypePlatform
        [addition,removal,cancellation]) =
      [⟨"VREG:1",nodeWallet,"DID:BEL:ADMIN",adminWallet,nodeWallet,"node-1","pub","sign",.ACTIVE,20,
        none,none⟩] ∧
      (prototypeValidators.run prototypePlatform [addition,removal,cancellation]).head = 4 ∧
      getValidatorsAt (prototypeValidators.run prototypePlatform
        [addition,removal,cancellation]).chain.validators 4 = .ok [0xb1,0xb2,0xb3,0xb4] ∧
      (prototypeValidators.run prototypePlatform
        [addition,removal,cancellation]).chain.validators.bootstrapValidators =
          [0xb1,0xb2,0xb3,0xb4]) ∧
    ¬Projected prototypePlatform (prototypeValidators.run prototypePlatform
      [addition,removal,cancellation]) := by
  refine ⟨⟨scheduled_sound.1.1,scheduled_sound.1.2.1,request_sound _ 0 4 scheduled_sound.2,trivial⟩,?_⟩
  refine and_iff_left_of_imp ?_ |>.mpr (by decide +kernel)
  rintro ⟨hlist,hhead,hset,hboot⟩ hprojected
  have hreports : Reports prototypePlatform (prototypeValidators.run prototypePlatform
      [addition,removal,cancellation]) 0xc1 .ACTIVE := by
    rw [Reports,hlist]
    exact ⟨_,List.mem_singleton.mpr rfl,by decide +kernel,rfl⟩
  have hmanaged : (0xc1 : Address) ∉ (prototypeValidators.run prototypePlatform
      [addition,removal,cancellation]).chain.validators.bootstrapValidators := by
    rw [hboot]
    decide
  obtain ⟨⟨vs,hvs,hmem⟩,-⟩ := (hprojected.active 0xc1 hmanaged).mp hreports
  rw [hhead,hset] at hvs
  obtain rfl := Except.ok.inj hvs
  exact absurd hmem (by decide)

end Prototype
end BelLedger
