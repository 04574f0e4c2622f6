import Mathlib.Data.List.Dedup
import BelLedger.IdentityLookup
import BelLedger.ValidatorProjection

/-!
# The history of the validators

The service keeps a record of every attempt to change a validator, and tells the active identities
of every change. The successful records are the life of each validator step by step, they name
distinct transactions in the order of the chain, and they are what the notifications are about.
-/
namespace BelLedger
open CheckedCalls TransitionRuns KeyedTables ValidatorService UsersService

inductive HistoryStatus
  | SUCCESS | FAILED
  deriving DecidableEq

/-- Less its identifier, its time, the hash of the transaction, and `inverseTransactionHash`, which is
always null. -/
structure ValidatorHistoryRecord where
  validatorId : String
  operation : TransactionType
  actorIdentityId : String
  actorWallet : String
  blockNumber : Option ℕ
  previousState : Option RegistrationStatus
  newState : RegistrationStatus
  reason : Option String
  status : HistoryStatus
  deriving DecidableEq

inductive NotificationChannel
  | IN_APP | EMAIL
  deriving DecidableEq

inductive DeliveryStatus
  | PENDING | DELIVERED | FAILED
  deriving DecidableEq

/-- Less its identifier and its time. -/
structure NotificationDelivery where
  eventType : TransactionType
  validatorId : String
  operation : TransactionType
  recipientIdentityId : String
  channel : NotificationChannel
  status : DeliveryStatus
  deriving DecidableEq

/-- The validators with the two tables that are only appended to. -/
structure ValidatorLedger (H : Type) where
  system : ValidatorSystem H
  history : List ValidatorHistoryRecord
  notifications : List NotificationDelivery

section Notifications

namespace UsersService.Repositories

/-- `listByStatus`. -/
def listByStatus (r : Repositories) (status : IdentityStatus) : List Identity :=
  r.identities.rows.filter (fun identity => identity.status = status)

/-- The distinct identities of the users of the active identities, as a `Set` orders them. -/
def recipients (r : Repositories) : List String :=
  let users := (r.listByStatus .ACTIVE).filterMap
    (fun identity => r.findByIdentityId identity.identityId)
  (users.map User.identityId).reverse.dedup.reverse

end UsersService.Repositories

namespace NotificationService

/-- `validatorChanged`, where `mail` are the identities to which an e-mail can be sent. -/
def validatorChanged (r : Repositories) (mail : String → Bool) (eventType : TransactionType)
    (validator : ValidatorRegistration) : List NotificationDelivery :=
  r.recipients.flatMap (fun recipientIdentityId =>
    [⟨eventType,validator.validatorId,eventType,recipientIdentityId,.IN_APP,.DELIVERED⟩,
      ⟨eventType,validator.validatorId,eventType,recipientIdentityId,.EMAIL,
        if mail recipientIdentityId then .DELIVERED else .FAILED⟩])

end NotificationService

end Notifications

section Recording

namespace ValidatorService

/-- The record that the `catch` of `submit` appends. -/
def submissionFailed (ctx : ValidatorContext) (op : Operation) : ValidatorHistoryRecord :=
  { validatorId := op.registration.validatorId
    operation := op.type
    actorIdentityId := op.actor.identityId
    actorWallet := walletOf ctx.repositories op.actor
    blockNumber := none
    previousState := some op.registration.status
    newState := op.registration.status
    reason := match op.extra.get "reason" with
      | .string reason => some reason
      | _ => none
    status := .FAILED }

/-- The states that the four operations pass to `recordHistory`. -/
def recordedStates (op : Operation) : Option RegistrationStatus × RegistrationStatus :=
  match op.type with
  | .VALIDATOR_ADD => (none,op.registration.status)
  | .VALIDATOR_REMOVE => (some op.registration.status,.REMOVAL_SCHEDULED)
  | .VALIDATOR_RESTORE => (some .REMOVED,.ACTIVE)
  | _ => (some .REMOVAL_SCHEDULED,.ACTIVE)

def recordHistory (ctx : ValidatorContext) (op : Operation) (blockNumber : ℕ) :
    ValidatorHistoryRecord :=
  { submissionFailed ctx op with
    blockNumber := some blockNumber
    previousState := (recordedStates op).1
    newState := (recordedStates op).2
    status := .SUCCESS }

end ValidatorService

namespace ValidatorLedger
variable {H : Type} [Keccak H] [DecidableEq H]

/-- The common end of the four operations with everything it writes. -/
def conclude (P : Platform) (ctx : ValidatorContext) (l : ValidatorLedger H)
    (checked : Except ServiceError Operation) (d : Delivery) (mail : String → Bool) :
    ValidatorLedger H × Except ServiceError ValidatorRegistration :=
  match checked with
  | .error e => (l,.error e)
  | .ok op =>
    match submit P ctx l.system.chain op d with
    | (chain,.error e) =>
      ({ l with
          system := { l.system with chain }
          history := l.history++[submissionFailed ctx op] },.error e)
    | (chain,.ok ()) =>
      ({ system := { l.system with validators := l.system.validators.save op.saved, chain }
         history := l.history++[recordHistory ctx op d.number]
         notifications := l.notifications++
          NotificationService.validatorChanged ctx.repositories mail op.type op.saved },
        .ok op.saved)

/-- An event, and the identities to which an e-mail can be sent at the time. -/
def step (P : Platform) (l : ValidatorLedger H) (e : ValidatorEvent × (String → Bool)) :
    ValidatorLedger H :=
  match e.1 with
  | .advance blocks => { l with system := { l.system with head := l.system.head + blocks } }
  | .external tx =>
    { l with system := { l.system with chain := attempt exec l.system.chain tx } }
  | .request ctx request delay d =>
    let concluded := (l.conclude P ctx (request.check P ctx l.system) (l.system.deliver delay d) e.2).1
    { concluded with
      system := { concluded.system with
        head := if d.fate.mines then l.system.head + 1 + delay else l.system.head } }

def run (P : Platform) (l : ValidatorLedger H) (events : List (ValidatorEvent × (String → Bool))) :
    ValidatorLedger H :=
  events.foldl (step P) l

end ValidatorLedger

end Recording

section Lives

/-- The changes of state that an operation makes. -/
def Legal : TransactionType → Option RegistrationStatus → RegistrationStatus → Prop
  | .VALIDATOR_ADD,none,.PENDING => True
  | .VALIDATOR_REMOVE,some .PENDING,.REMOVAL_SCHEDULED => True
  | .VALIDATOR_REMOVE,some .ACTIVE,.REMOVAL_SCHEDULED => True
  | .VALIDATOR_RESTORE,some .REMOVED,.ACTIVE => True
  | .VALIDATOR_REMOVE_CANCEL,some .REMOVAL_SCHEDULED,.ACTIVE => True
  | _,_,_ => False

/-- What the passing of blocks makes of a stored state. -/
inductive Passes : Option RegistrationStatus → Option RegistrationStatus → Prop
  | kept (status : Option RegistrationStatus) : Passes status status
  | activated : Passes (some .PENDING) (some .ACTIVE)
  | removed : Passes (some .REMOVAL_SCHEDULED) (some .REMOVED)

/-- The records of one validator are its life up to the stored state: every one starts from what
has become of the state that the one before it left. -/
inductive Life : List ValidatorHistoryRecord → Option RegistrationStatus → Prop
  | unknown : Life [] none
  | change {records : List ValidatorHistoryRecord} {stored : Option RegistrationStatus}
      {r : ValidatorHistoryRecord} (h : Life records stored) (hpasses : Passes stored r.previousState)
      (hlegal : Legal r.operation r.previousState r.newState) :
      Life (records++[r]) (some r.newState)

variable {H : Type} {s s' : ValidatorSystem H} {id : String} {row r : ValidatorRegistration}
  {head : ℕ}

/-- The stored state of a validator; none when it has no row. -/
def ValidatorSystem.stored (s : ValidatorSystem H) (validatorId : String) :
    Option RegistrationStatus :=
  (findByValidatorId s validatorId).map ValidatorRegistration.status

theorem passes_effective : Passes (some row.status) (some (effectiveRegistration row head).status) := by
  fun_cases effectiveRegistration row head
  · rename_i hstatus _
    rw [hstatus]
    exact .activated
  · exact .kept _
  · rename_i removalHeight hremoval hstatus _
    rw [hstatus]
    exact .removed
  · exact .kept _
  · exact .kept _

theorem effectiveRegistration_idem :
    effectiveRegistration (effectiveRegistration row head) head = effectiveRegistration row head := by
  fun_cases effectiveRegistration row head
  · rfl
  · rename_i hstatus hlater
    simp [effectiveRegistration,hstatus,hlater]
  · rfl
  · rename_i removalHeight hremoval hstatus hlater
    simp [effectiveRegistration,hstatus,hremoval,hlater]
  · rename_i hpending hscheduled
    unfold effectiveRegistration
    split
    · rename_i hstatus
      exact absurd hstatus hpending
    · rename_i hstatus hremoval
      exact absurd hremoval (hscheduled _ hstatus)
    · rfl

/-- One row for a validator, under its trimmed identifier. A removal that has become effective is
never stored. -/
structure RegistrationRows (s : ValidatorSystem H) : Prop where
  trimmed : ∀ r ∈ s.validators.rows,Trimmed r.validatorId
  unique : ∀ r ∈ s.validators.rows,∀ r' ∈ s.validators.rows,r.validatorId = r'.validatorId → r = r'
  present : ∀ r ∈ s.validators.rows,r.status ≠ .REMOVED

theorem stored_eq_none : s.stored id = none ↔ ∀ r ∈ s.validators.rows,r.validatorId ≠ id := by
  simp [ValidatorSystem.stored,findByValidatorId]

theorem RegistrationRows.stored_eq_some (h : RegistrationRows s) {status : RegistrationStatus} :
    s.stored id = some status ↔ ∃ r ∈ s.validators.rows,r.validatorId = id ∧ r.status = status := by
  unfold ValidatorSystem.stored findByValidatorId
  rw [Option.map_eq_some_iff]
  constructor
  · rintro ⟨r,hfound,hstatus⟩
    exact ⟨r,List.mem_of_find?_eq_some hfound,by simpa using List.find?_some hfound,hstatus⟩
  · rintro ⟨r,hr,hid,hstatus⟩
    refine ⟨r,?_,hstatus⟩
    cases hfound : s.validators.rows.find? (fun row => decide (row.validatorId = id)) with
    | none => exact absurd hid (by simpa using List.find?_eq_none.mp hfound r hr)
    | some r' =>
      have hid' : r'.validatorId = id := by simpa using List.find?_some hfound
      rw [h.unique r hr r' (List.mem_of_find?_eq_some hfound) (hid.trans hid'.symm)]

/-- Saving a row whose key belongs to its validator. -/
theorem RegistrationRows.save (h : RegistrationRows s) (htrim : Trimmed r.validatorId) (hpresent : r.status ≠ .REMOVED)
    (hkey : ∀ x ∈ s.validators.rows,
      x.registrationId = r.registrationId ↔ x.validatorId = r.validatorId)
    (hrows : s'.validators = s.validators.save r) :
    RegistrationRows s' ∧ s'.stored r.validatorId = some r.status ∧
      ∀ id,id ≠ r.validatorId → s'.stored id = s.stored id := by
  have hrow : ∀ x,x ∈ s'.validators.rows ↔ x = r ∨
      (x ∈ s.validators.rows ∧ x.validatorId ≠ r.validatorId) := by
    intro x
    rw [hrows,Table.mem_save]
    refine or_congr_right (and_congr_right ?_)
    intro hx
    exact not_congr (hkey x hx)
  have hregistered : RegistrationRows s' := by
    refine ⟨?_,?_,?_⟩
    · intro x hx
      rcases (hrow x).mp hx with rfl | ⟨hold,-⟩
      · exact htrim
      · exact h.trimmed x hold
    · intro x hx y hy hxy
      rcases (hrow x).mp hx with rfl | ⟨hxold,hxne⟩
      · rcases (hrow y).mp hy with rfl | ⟨-,hyne⟩
        · rfl
        · exact absurd hxy.symm hyne
      · rcases (hrow y).mp hy with rfl | ⟨hyold,-⟩
        · exact absurd hxy hxne
        · exact h.unique x hxold y hyold hxy
    · intro x hx
      rcases (hrow x).mp hx with rfl | ⟨hold,-⟩
      · exact hpresent
      · exact h.present x hold
  refine ⟨hregistered,hregistered.stored_eq_some.mpr ⟨r,(hrow r).mpr (.inl rfl),rfl,rfl⟩,?_⟩
  intro id hid
  ext status
  rw [hregistered.stored_eq_some,h.stored_eq_some]
  constructor
  · rintro ⟨x,hx,rfl,hstatus⟩
    rcases (hrow x).mp hx with rfl | ⟨hold,-⟩
    · exact absurd rfl hid
    · exact ⟨x,hold,rfl,hstatus⟩
  · rintro ⟨x,hx,rfl,hstatus⟩
    exact ⟨x,(hrow x).mpr (.inr ⟨hx,hid⟩),rfl,hstatus⟩

end Lives

section Requests
variable {H : Type} {P : Platform} {ctx : ValidatorContext} {s : ValidatorSystem H} {op : Operation}

/-- What a request that passes its checks is about. -/
inductive Warranted (ctx : ValidatorContext) (s : ValidatorSystem H) : Operation → Prop
  | add (actor : UsersService.Identity) {r : ValidatorRegistration} (htrim : Trimmed r.validatorId)
      (hpending : r.status = .PENDING)
      (hexisting : ∀ row,findByValidatorId s r.validatorId = some row → row.status = .REMOVED)
      (hkey : findByValidatorId s r.validatorId = none → r.registrationId = "VREG:"++ctx.uuid) :
      Warranted ctx s ⟨.VALIDATOR_ADD,actor,r,[],r⟩
  | remove (actor : UsersService.Identity) {row : ValidatorRegistration} (hrow : row ∈ s.validators.rows)
      (hstatus : (effectiveRegistration row s.head).status = .PENDING ∨
        (effectiveRegistration row s.head).status = .ACTIVE)
      (removalHeight : ℤ) (reason : String) :
      Warranted ctx s ⟨.VALIDATOR_REMOVE,actor,effectiveRegistration row s.head,
        [("removalHeight",.number removalHeight),("reason",.string reason)],
        { effectiveRegistration row s.head with
          status := .REMOVAL_SCHEDULED
          removalHeight := some removalHeight.toNat
          removalReason := some reason }⟩
  | restore (actor : UsersService.Identity) {row : ValidatorRegistration} (hrow : row ∈ s.validators.rows)
      (hstatus : (effectiveRegistration row s.head).status = .REMOVED) (reason : String) :
      Warranted ctx s ⟨.VALIDATOR_RESTORE,actor,effectiveRegistration row s.head,
        [("reason",.string reason)],restored (effectiveRegistration row s.head)⟩
  | cancel (actor : UsersService.Identity) {row : ValidatorRegistration} (hrow : row ∈ s.validators.rows)
      (hstatus : (effectiveRegistration row s.head).status = .REMOVAL_SCHEDULED) (reason : String) :
      Warranted ctx s ⟨.VALIDATOR_REMOVE_CANCEL,actor,effectiveRegistration row s.head,
        [("reason",.string reason)],restored (effectiveRegistration row s.head)⟩

private theorem addValidator_warranted {actorId : String} {input : Payload}
    (h : ValidatorService.addValidator P ctx s actorId input = .ok op) : Warranted ctx s op := by
  obtain ⟨actor,-,h⟩ := ok_bind_iff.mp h
  obtain ⟨-,-,h⟩ := ok_bind_iff.mp h
  obtain ⟨hexisting,h⟩ := revertIf_bind_eq_ok.mp h
  split at h
  · cases h
  · rename_i activationHeight _
    obtain ⟨hlater,h⟩ := revertIf_bind_eq_ok.mp h
    obtain rfl := ok_pure_iff.mp h
    refine .add actor ?_ ?_ ?_ ?_
    · show Trimmed (text input "validatorId")
      unfold text
      split
      · exact trimmed_jsTrim _
      · decide
    · exact if_pos (Int.not_le.mp hlater)
    · intro row hrow
      by_contra hne
      exact hexisting ⟨row,hrow,hne⟩
    · intro hnone
      show ((findByValidatorId s (text input "validatorId")).map _).getD _ = _
      rw [hnone]
      rfl

private theorem removeValidator_warranted {actorId id : String} {input : Payload}
    (h : ValidatorService.removeValidator ctx s actorId id input = .ok op) : Warranted ctx s op := by
  obtain ⟨actor,-,h⟩ := ok_bind_iff.mp h
  split at h
  · cases h
  · rename_i removalHeight _
    obtain ⟨-,h⟩ := revertIf_bind_eq_ok.mp h
    obtain ⟨reason,-,h⟩ := ok_bind_iff.mp h
    obtain ⟨r,hget,h⟩ := ok_bind_iff.mp h
    obtain ⟨hstatus,h⟩ := revertIf_bind_eq_ok.mp h
    obtain ⟨-,h⟩ := revertIf_bind_eq_ok.mp h
    obtain ⟨row,hrow,rfl⟩ := ValidatorService.get_eq_ok hget
    obtain rfl := ok_pure_iff.mp h
    refine .remove actor hrow ?_ removalHeight reason
    rwa [not_and_or,not_not,not_not] at hstatus

private theorem restoreValidator_warranted {actorId id : String} {input : Payload}
    (h : ValidatorService.restoreValidator ctx s actorId id input = .ok op) : Warranted ctx s op := by
  obtain ⟨actor,-,h⟩ := ok_bind_iff.mp h
  obtain ⟨reason,-,h⟩ := ok_bind_iff.mp h
  obtain ⟨r,hget,h⟩ := ok_bind_iff.mp h
  obtain ⟨hstatus,h⟩ := revertIf_bind_eq_ok.mp h
  obtain ⟨row,hrow,rfl⟩ := ValidatorService.get_eq_ok hget
  obtain rfl := ok_pure_iff.mp h
  refine .restore actor hrow ?_ reason
  rw [not_or,not_not,effectiveRegistration_idem] at hstatus
  exact hstatus.1

private theorem cancelScheduledRemoval_warranted {actorId id : String} {input : Payload}
    (h : ValidatorService.cancelScheduledRemoval ctx s actorId id input = .ok op) :
    Warranted ctx s op := by
  obtain ⟨actor,-,h⟩ := ok_bind_iff.mp h
  obtain ⟨reason,-,h⟩ := ok_bind_iff.mp h
  obtain ⟨r,hget,h⟩ := ok_bind_iff.mp h
  obtain ⟨hstatus,h⟩ := revertIf_bind_eq_ok.mp h
  obtain ⟨row,hrow,rfl⟩ := ValidatorService.get_eq_ok hget
  obtain rfl := ok_pure_iff.mp h
  exact .cancel actor hrow (not_not.mp hstatus) reason

theorem ValidatorRequest.warranted {request : ValidatorRequest} (h : request.check P ctx s = .ok op) :
    Warranted ctx s op := by
  cases request with
  | addValidator actorId input => exact addValidator_warranted h
  | removeValidator actorId id input => exact removeValidator_warranted h
  | restoreValidator actorId id input => exact restoreValidator_warranted h
  | cancelScheduledRemoval actorId id input => exact cancelScheduledRemoval_warranted h

/-- What the row and the record of a confirmed operation say. -/
structure Confirmable (s : ValidatorSystem H) (op : Operation) : Prop where
  same : op.saved.validatorId = op.registration.validatorId
  trimmed : Trimmed op.saved.validatorId
  present : op.saved.status ≠ .REMOVED
  key : ∀ x ∈ s.validators.rows,
    x.registrationId = op.saved.registrationId ↔ x.validatorId = op.saved.validatorId
  recorded : (recordedStates op).2 = op.saved.status
  passes : Passes (s.stored op.registration.validatorId) (recordedStates op).1
  legal : Legal op.type (recordedStates op).1 (recordedStates op).2

private theorem RegistrationRows.key_iff (h : RegistrationRows s) {row r : ValidatorRegistration}
    (hrow : row ∈ s.validators.rows) (hkey : r.registrationId = row.registrationId)
    (hid : r.validatorId = row.validatorId) :
    ∀ x ∈ s.validators.rows,x.registrationId = r.registrationId ↔ x.validatorId = r.validatorId := by
  intro x hx
  rw [hkey,hid]
  constructor
  · intro he
    have hsame := Table.find_of_mem hx
    rw [he,Table.find_of_mem hrow] at hsame
    rw [Option.some.inj hsame]
  · intro he
    rw [h.unique x hx row hrow he]

private theorem RegistrationRows.passes (h : RegistrationRows s) {row : ValidatorRegistration}
    (hrow : row ∈ s.validators.rows) :
    Passes (s.stored (effectiveRegistration row s.head).validatorId)
      (some (effectiveRegistration row s.head).status) := by
  have hstored : s.stored (effectiveRegistration row s.head).validatorId = some row.status :=
    h.stored_eq_some.mpr ⟨row,hrow,by simp,rfl⟩
  rw [hstored]
  exact passes_effective

theorem Warranted.confirmable (hwarranted : Warranted ctx s op) (h : RegistrationRows s)
    (hfresh : s.validators.find ("VREG:"++ctx.uuid) = none) : Confirmable s op := by
  cases hwarranted with
  | @add actor r htrim hpending hexisting hkey =>
    have hnone : findByValidatorId s r.validatorId = none := by
      cases hfound : findByValidatorId s r.validatorId with
      | none => rfl
      | some row =>
        exact absurd (hexisting row hfound) (h.present row (List.mem_of_find?_eq_some hfound))
    have hstored : s.stored r.validatorId = none := by rw [ValidatorSystem.stored,hnone]; rfl
    refine ⟨rfl,htrim,?_,?_,rfl,?_,?_⟩
    · rw [hpending]
      decide
    · intro x hx
      constructor
      · intro he
        rw [hkey hnone] at he
        rw [← he,Table.find_of_mem hx] at hfresh
        cases hfresh
      · intro he
        exact absurd he (stored_eq_none.mp hstored x hx)
    · show Passes (s.stored r.validatorId) none
      rw [hstored]
      exact .kept none
    · show Legal .VALIDATOR_ADD none r.status
      rw [hpending]
      trivial
  | @remove actor row hrow hstatus removalHeight reason =>
    refine ⟨rfl,?_,by simp,h.key_iff hrow (by simp) (by simp),rfl,h.passes hrow,?_⟩
    · simpa using h.trimmed row hrow
    · show Legal .VALIDATOR_REMOVE (some (effectiveRegistration row s.head).status) .REMOVAL_SCHEDULED
      rcases hstatus with hpending | hactive
      · rw [hpending]
        trivial
      · rw [hactive]
        trivial
  | @restore actor row hrow hstatus reason =>
    refine ⟨rfl,?_,by simp [restored],h.key_iff hrow (by simp [restored]) (by simp [restored]),rfl,?_,
      trivial⟩
    · simpa [restored] using h.trimmed row hrow
    · have hpasses := h.passes hrow
      rwa [hstatus] at hpasses
  | @cancel actor row hrow hstatus reason =>
    refine ⟨rfl,?_,by simp [restored],h.key_iff hrow (by simp [restored]) (by simp [restored]),rfl,?_,
      trivial⟩
    · simpa [restored] using h.trimmed row hrow
    · have hpasses := h.passes hrow
      rwa [hstatus] at hpasses

/-- The call does this operation to the validator `v`. -/
def Call.Manages (v : Address) : TransactionType → Call → Prop
  | .VALIDATOR_ADD,.addValidator a _ _ _ => a = v
  | .VALIDATOR_REMOVE,.removeValidator a _ _ => a = v
  | .VALIDATOR_RESTORE,.restoreValidator a _ => a = v
  | .VALIDATOR_REMOVE_CANCEL,.cancelScheduledRemoval a _ => a = v
  | _,_ => False

theorem Call.Manages.target {v : Address} {type : TransactionType} {call : Call}
    (h : call.Manages v type) : call.target = some .validators := by
  unfold Call.Manages at h
  split at h
  · rfl
  · rfl
  · rfl
  · rfl
  · cases h

theorem Warranted.manages (hwarranted : Warranted ctx s op) {lookups : ChainLookups} {call : Call}
    (hplan : Payloads.buildCallPlan P.parseAddress P.dateParse (envelope ctx op).type
      (envelope ctx op).payload lookups = .ok call) :
    ∃ v,P.parseAddress (jsTrim op.registration.validatorId) = some v ∧ call.Manages v op.type := by
  cases hwarranted with
  | add actor htrim hpending hexisting hkey =>
    obtain ⟨v,_,_,hv,rfl⟩ := plan_addValidator hplan
    exact ⟨v,hv,rfl⟩
  | remove actor hrow hstatus removalHeight reason =>
    obtain ⟨v,_,hv,rfl⟩ := plan_removeValidator hplan
    exact ⟨v,hv,rfl⟩
  | restore actor hrow hstatus reason =>
    obtain ⟨v,_,hv,rfl⟩ := plan_restoreValidator hplan
    exact ⟨v,hv,rfl⟩
  | cancel actor hrow hstatus reason =>
    obtain ⟨v,_,hv,rfl⟩ := plan_cancelScheduledRemoval hplan
    exact ⟨v,hv,rfl⟩

end Requests

section Steps
variable {H : Type} [Keccak H] [DecidableEq H] {P : Platform} {l : ValidatorLedger H}

/-- The transactions of a history that were sent to the validator registry, earliest first. -/
def registryTxs (hist : List (World H × Tx)) : List Tx :=
  (hist.reverse.map Prod.snd).filter (fun tx => tx.call.target = some .validators)

/-- The transaction that a successful record is about. -/
structure Backs (P : Platform) (r : ValidatorHistoryRecord) (tx : Tx) : Prop where
  sender : P.parseAddress r.actorWallet = some tx.env.sender
  block : r.blockNumber = some tx.env.number
  call : ∃ v,P.parseAddress r.validatorId = some v ∧ tx.call.Manages v r.operation

omit [Keccak H] [DecidableEq H] in
theorem registryTxs_append (later earlier : List (World H × Tx)) :
    registryTxs (later++earlier) = registryTxs earlier++registryTxs later := by
  simp [registryTxs]

theorem registryTxs_attemptAll {w : World H} {txs : List Tx}
    (hforeign : ∀ tx ∈ txs,tx.call.target ≠ some .validators) :
    registryTxs (history exec w txs) = [] := by
  refine List.filter_eq_nil_iff.mpr ?_
  intro tx htx
  obtain ⟨⟨p,tx⟩,hentry,rfl⟩ := List.mem_map.mp htx
  simpa using hforeign tx (mem_of_mem_history (List.mem_reverse.mp hentry))

/-- Where nothing is lost and nobody else sends to the registry, a submission that fails leaves
nothing there. -/
theorem ValidatorService.submit_failed {ctx : ValidatorContext} {w w' : World H} {op : Operation}
    {d : Delivery} {e : ServiceError} (h : submit P ctx w op d = (w',.error e)) :
    ∃ hist,Run exec w hist w' ∧
      ((∀ tx ∈ d.interference,tx.call.target ≠ some .validators) → ¬d.fate.Lost →
        registryTxs hist = []) := by
  have hkept : w' = w ∨ w' = attemptAll exec w d.interference → ∃ hist,Run exec w hist w' ∧
      ((∀ tx ∈ d.interference,tx.call.target ≠ some .validators) → ¬d.fate.Lost →
        registryTxs hist = []) := by
    rintro (rfl | rfl)
    · exact ⟨[],.refl,fun _ _ => rfl⟩
    · exact ⟨_,Run.attemptAll w d.interference,fun hforeign _ => registryTxs_attemptAll hforeign⟩
  by_cases hlost : d.fate.Lost
  · unfold submit at h
    split at h
    · exact hkept (.inl (Prod.mk.inj h).1.symm)
    · obtain ⟨hist,hrun⟩ := EvmAdapter.submitTransaction_run P w (envelope ctx op) d
      split at h
      · cases h
      · rename_i w₁ revert hsubmit
        obtain rfl : w₁ = w' := (Prod.mk.inj h).1
        rw [hsubmit] at hrun
        exact ⟨hist,hrun,fun _ hreported => absurd hlost hreported⟩
      · rename_i w₁ error hsubmit
        obtain rfl : w₁ = w' := (Prod.mk.inj h).1
        rw [hsubmit] at hrun
        exact ⟨hist,hrun,fun _ hreported => absurd hlost hreported⟩
  · exact hkept (ValidatorService.submit_failure h hlost)

/-- What an event does to the rows, to the chain and to the two tables. -/
inductive Attempt (P : Platform) (l l' : ValidatorLedger H) :
    ValidatorEvent × (String → Bool) → Prop
  | quiet {e : ValidatorEvent × (String → Bool)} {hist : List (World H × Tx)}
      (hrun : Run exec l.system.chain hist l'.system.chain)
      (hsound : e.1.Sound l.system → registryTxs hist = [])
      (hrows : l'.system.validators = l.system.validators) (hhistory : l'.history = l.history)
      (hnotifications : l'.notifications = l.notifications) : Attempt P l l' e
  | failed {ctx : ValidatorContext} {request : ValidatorRequest} {delay : ℕ} {d : Delivery}
      {mail : String → Bool} {op : Operation} {hist : List (World H × Tx)}
      (hrun : Run exec l.system.chain hist l'.system.chain)
      (hsound : (ValidatorEvent.request ctx request delay d).Sound l.system → registryTxs hist = [])
      (hrows : l'.system.validators = l.system.validators)
      (hhistory : l'.history = l.history++[submissionFailed ctx op])
      (hnotifications : l'.notifications = l.notifications) :
      Attempt P l l' (.request ctx request delay d,mail)
  | confirmed {ctx : ValidatorContext} {request : ValidatorRequest} {delay : ℕ} {d : Delivery}
      {mail : String → Bool} {op : Operation} (hwarranted : Warranted ctx l.system op) {tx : Tx}
      (hprepare : EvmAdapter.prepare P l.system.chain (envelope ctx op) (l.system.deliver delay d) =
        .ok tx)
      (hexec : exec (attemptAll exec l.system.chain d.interference) tx = .ok l'.system.chain)
      (hrows : l'.system.validators = l.system.validators.save op.saved)
      (hhistory : l'.history = l.history++[recordHistory ctx op tx.env.number])
      (hnotifications : l'.notifications = l.notifications++
        NotificationService.validatorChanged ctx.repositories mail op.type op.saved) :
      Attempt P l l' (.request ctx request delay d,mail)

theorem ValidatorLedger.attempted (l : ValidatorLedger H) (e : ValidatorEvent × (String → Bool)) :
    Attempt P l (l.step P e) e := by
  obtain ⟨e,mail⟩ := e
  cases e with
  | advance blocks => exact .quiet .refl (fun _ => rfl) rfl rfl rfl
  | external tx =>
    refine .quiet (Run.attemptAll l.system.chain [tx]) ?_ rfl rfl rfl
    intro hsound
    refine registryTxs_attemptAll ?_
    intro other hother
    rw [List.mem_singleton.mp hother]
    exact hsound
  | request ctx request delay d =>
    cases hcheck : request.check P ctx l.system with
    | error error =>
      have hstep : l.step P (.request ctx request delay d,mail) =
          { l with system := { l.system with
              head := if d.fate.mines then l.system.head + 1 + delay else l.system.head } } := by
        simp [ValidatorLedger.step,ValidatorLedger.conclude,hcheck]
      rw [hstep]
      exact .quiet .refl (fun _ => rfl) rfl rfl rfl
    | ok op =>
      cases hsubmit : submit P ctx l.system.chain op (l.system.deliver delay d) with
      | mk w' result =>
      cases result with
      | error error =>
        obtain ⟨hist,hrun,hnothing⟩ := ValidatorService.submit_failed hsubmit
        have hstep : l.step P (.request ctx request delay d,mail) =
            { l with
              system := { l.system with
                chain := w'
                head := if d.fate.mines then l.system.head + 1 + delay else l.system.head }
              history := l.history++[submissionFailed ctx op] } := by
          simp [ValidatorLedger.step,ValidatorLedger.conclude,hcheck,hsubmit]
        rw [hstep]
        exact .failed hrun (fun hsound => hnothing hsound.1 hsound.2.1) rfl rfl rfl
      | ok done =>
        obtain ⟨tx,hprepare,-,hexec⟩ := ValidatorService.submit_success hsubmit
        have hstep : l.step P (.request ctx request delay d,mail) =
            { system := { l.system with
                validators := l.system.validators.save op.saved
                chain := w'
                head := if d.fate.mines then l.system.head + 1 + delay else l.system.head }
              history := l.history++[recordHistory ctx op tx.env.number]
              notifications := l.notifications++
                NotificationService.validatorChanged ctx.repositories mail op.type op.saved } := by
          rw [EvmAdapter.prepare_number hprepare]
          simp [ValidatorLedger.step,ValidatorLedger.conclude,hcheck,hsubmit]
        rw [hstep]
        exact .confirmed (ValidatorRequest.warranted hcheck) hprepare hexec rfl rfl rfl

/-- The tables are kept beside the validators, not instead of them. -/
theorem ValidatorLedger.step_system (l : ValidatorLedger H) (e : ValidatorEvent × (String → Bool)) :
    (l.step P e).system = l.system.step P e.1 := by
  obtain ⟨e,mail⟩ := e
  cases e with
  | advance blocks => rfl
  | external tx => rfl
  | request ctx request delay d =>
    cases hcheck : request.check P ctx l.system with
    | error error => simp [ValidatorLedger.step,ValidatorLedger.conclude,ValidatorSystem.step,
        ValidatorService.conclude,hcheck]
    | ok op =>
      cases hsubmit : submit P ctx l.system.chain op (l.system.deliver delay d) with
      | mk w' result =>
      cases result with
      | error error => simp [ValidatorLedger.step,ValidatorLedger.conclude,ValidatorSystem.step,
          ValidatorService.conclude,hcheck,hsubmit]
      | ok done => simp [ValidatorLedger.step,ValidatorLedger.conclude,ValidatorSystem.step,
          ValidatorService.conclude,hcheck,hsubmit]

theorem ValidatorLedger.run_system (l : ValidatorLedger H)
    (events : List (ValidatorEvent × (String → Bool))) :
    (l.run P events).system = l.system.run P (events.map Prod.fst) := by
  induction events generalizing l with
  | nil => rfl
  | cons e events ih =>
    show ((l.step P e).run P events).system = (l.system.step P e.1).run P (events.map Prod.fst)
    rw [ih,ValidatorLedger.step_system]

end Steps

section Told

/-- What a notification tells. -/
def NotificationDelivery.change (n : NotificationDelivery) : String × TransactionType :=
  (n.validatorId,n.operation)

def ValidatorHistoryRecord.change (r : ValidatorHistoryRecord) : String × TransactionType :=
  (r.validatorId,r.operation)

/-- The notifications of an identity on a channel. -/
def told (i : String) (channel : NotificationChannel) (ns : List NotificationDelivery) :
    List NotificationDelivery :=
  ns.filter (fun n => n.recipientIdentityId = i ∧ n.channel = channel)

variable {r : Repositories} {i : String}

theorem recipients_nodup : r.recipients.Nodup :=
  List.nodup_reverse.mpr (List.nodup_dedup _)

/-- The active identities that have a user. -/
theorem mem_recipients : i ∈ r.recipients ↔
    (∃ identity ∈ r.listByStatus .ACTIVE,identity.identityId = i) ∧
      (r.findByIdentityId i).isSome := by
  have hid : ∀ {id user},r.findByIdentityId id = some user → user.identityId = id := by
    intro id user h
    simpa using List.find?_some h
  unfold Repositories.recipients
  rw [List.mem_reverse,List.mem_dedup,List.mem_reverse,List.mem_map]
  constructor
  · rintro ⟨user,hmem,rfl⟩
    obtain ⟨identity,hidentity,huser⟩ := List.mem_filterMap.mp hmem
    refine ⟨⟨identity,hidentity,(hid huser).symm⟩,?_⟩
    rw [hid huser,huser]
    rfl
  · rintro ⟨⟨identity,hidentity,rfl⟩,huser⟩
    obtain ⟨user,huser⟩ := Option.isSome_iff_exists.mp huser
    exact ⟨user,List.mem_filterMap.mpr ⟨identity,hidentity,huser⟩,hid huser⟩

/-- A change is told once to everybody on either channel. -/
theorem told_validatorChanged (mail : String → Bool) (type : TransactionType)
    (validator : ValidatorRegistration) (channel : NotificationChannel) :
    (told i channel (NotificationService.validatorChanged r mail type validator)).map
      NotificationDelivery.change = if i ∈ r.recipients then [(validator.validatorId,type)] else [] := by
  unfold NotificationService.validatorChanged
  have hnodup : r.recipients.Nodup := recipients_nodup
  generalize r.recipients = ids at hnodup
  induction ids with
  | nil => rfl
  | cons id ids ih =>
    obtain ⟨hnew,hnodup⟩ := List.nodup_cons.mp hnodup
    rw [List.flatMap_cons,told,List.filter_append,List.map_append]
    rw [told] at ih
    rw [ih hnodup]
    by_cases hid : id = i
    · subst hid
      cases channel <;> simp [hnew,NotificationDelivery.change]
    · have hid' : ¬i = id := fun he => hid he.symm
      simp [hid,hid']

end Told

section Lives
variable {H : Type} [Keccak H] [DecidableEq H] {P : Platform} {l l' : ValidatorLedger H}
  {e : ValidatorEvent × (String → Bool)}

/-- The identifier that is drawn for a new row is new. -/
def ValidatorEvent.Drawn (s : ValidatorSystem H) : ValidatorEvent → Prop
  | .request ctx _ _ _ => s.validators.find ("VREG:"++ctx.uuid) = none
  | _ => True

/-- The identity is told about a change that the event makes. -/
def ValidatorEvent.Reaches (i : String) : ValidatorEvent → Prop
  | .request ctx _ _ _ => i ∈ ctx.repositories.recipients
  | _ => True

namespace ValidatorLedger

def successes (l : ValidatorLedger H) : List ValidatorHistoryRecord :=
  l.history.filter (fun r => r.status = .SUCCESS)

/-- The successful records about a validator. -/
def about (l : ValidatorLedger H) (validatorId : String) : List ValidatorHistoryRecord :=
  l.successes.filter (fun r => r.validatorId = validatorId)

end ValidatorLedger

/-- The rows are in order, and the records tell how they came about. -/
structure Kept (l : ValidatorLedger H) : Prop where
  registered : RegistrationRows l.system
  lives : ∀ validatorId,Life (l.about validatorId) (l.system.stored validatorId)
  failures : ∀ r ∈ l.history,r.status = .FAILED →
    r.previousState = some r.newState ∧ r.blockNumber = none

omit [Keccak H] [DecidableEq H] in
private theorem stored_of_rows (hrows : l'.system.validators = l.system.validators) (id : String) :
    l'.system.stored id = l.system.stored id := by
  unfold ValidatorSystem.stored findByValidatorId
  rw [hrows]

omit [Keccak H] [DecidableEq H] in
private theorem RegistrationRows.of_rows (h : RegistrationRows l.system)
    (hrows : l'.system.validators = l.system.validators) : RegistrationRows l'.system := by
  obtain ⟨htrimmed,hunique,hpresent⟩ := h
  rw [← hrows] at htrimmed hunique hpresent
  exact ⟨htrimmed,hunique,hpresent⟩

omit [Keccak H] [DecidableEq H] in
private theorem successes_failed {ctx : ValidatorContext} {op : Operation}
    (hhistory : l'.history = l.history++[submissionFailed ctx op]) : l'.successes = l.successes := by
  simp [ValidatorLedger.successes,hhistory,submissionFailed]

omit [Keccak H] [DecidableEq H] in
private theorem successes_confirmed {ctx : ValidatorContext} {op : Operation} {number : ℕ}
    (hhistory : l'.history = l.history++[recordHistory ctx op number]) :
    l'.successes = l.successes++[recordHistory ctx op number] := by
  simp [ValidatorLedger.successes,hhistory,recordHistory]

/-- What one event keeps. -/
theorem Kept.step (h : Kept l) (hstep : Attempt P l l' e) (hdrawn : e.1.Drawn l.system) : Kept l' := by
  cases hstep with
  | quiet hrun hsound hrows hhistory hnotifications =>
    refine ⟨h.registered.of_rows hrows,?_,?_⟩
    · intro id
      rw [stored_of_rows hrows,ValidatorLedger.about,ValidatorLedger.successes,hhistory]
      exact h.lives id
    · rw [hhistory]
      exact h.failures
  | @failed ctx request delay d mail op hist hrun hsound hrows hhistory hnotifications =>
    refine ⟨h.registered.of_rows hrows,?_,?_⟩
    · intro id
      rw [stored_of_rows hrows,ValidatorLedger.about,successes_failed hhistory]
      exact h.lives id
    · intro r hr
      rw [hhistory] at hr
      rcases List.mem_append.mp hr with hold | hnew
      · exact h.failures r hold
      · rw [List.mem_singleton.mp hnew]
        exact fun _ => ⟨rfl,rfl⟩
  | @confirmed ctx request delay d mail op hwarranted tx hprepare hexec hrows hhistory hnotifications =>
    obtain ⟨hsame,htrim,hpresent,hkey,hrecorded,hpasses,hlegal⟩ :=
      hwarranted.confirmable h.registered hdrawn
    obtain ⟨hregistered,hself,hother⟩ := h.registered.save htrim hpresent hkey hrows
    refine ⟨hregistered,?_,?_⟩
    · intro id
      rw [ValidatorLedger.about,successes_confirmed hhistory,List.filter_append]
      by_cases hid : op.registration.validatorId = id
      · subst hid
        have hlast : [recordHistory ctx op tx.env.number].filter
            (fun r => r.validatorId = op.registration.validatorId) =
              [recordHistory ctx op tx.env.number] := by
          simp [recordHistory,submissionFailed]
        rw [hsame] at hself
        rw [hlast,hself,← hrecorded]
        exact .change (h.lives _) hpasses hlegal
      · have hlast : [recordHistory ctx op tx.env.number].filter (fun r => r.validatorId = id) = [] := by
          simp [recordHistory,submissionFailed,hid]
        rw [hlast,List.append_nil,hother id (fun he => hid (by rw [he,hsame]))]
        exact h.lives id
    · intro r hr
      rw [hhistory] at hr
      rcases List.mem_append.mp hr with hold | hnew
      · exact h.failures r hold
      · rw [List.mem_singleton.mp hnew]
        exact fun hfailed => by cases hfailed

/-- The successful records that an event adds stand for transactions that it sends. -/
theorem Kept.backed_step (h : Kept l) (hstep : Attempt P l l' e) (hdrawn : e.1.Drawn l.system) :
    ∃ hist records backing,Run exec l.system.chain hist l'.system.chain ∧
      l'.successes = l.successes++records ∧ List.Forall₂ (Backs P) records backing ∧
      backing.Sublist (registryTxs hist) ∧ (e.1.Sound l.system → backing = registryTxs hist) := by
  cases hstep with
  | @quiet e hist hrun hsound hrows hhistory hnotifications =>
    refine ⟨hist,[],[],hrun,?_,.nil,List.nil_sublist _,fun h => (hsound h).symm⟩
    rw [List.append_nil,ValidatorLedger.successes,hhistory]
    rfl
  | @failed ctx request delay d mail op hist hrun hsound hrows hhistory hnotifications =>
    refine ⟨hist,[],[],hrun,?_,.nil,List.nil_sublist _,fun h => (hsound h).symm⟩
    rw [List.append_nil,successes_failed hhistory]
  | @confirmed ctx request delay d mail op hwarranted tx hprepare hexec hrows hhistory hnotifications =>
    have hconfirmable := hwarranted.confirmable h.registered hdrawn
    obtain ⟨v,hv,hmanages⟩ := hwarranted.manages (EvmAdapter.prepare_call hprepare)
    have htrim : jsTrim op.registration.validatorId = op.registration.validatorId := by
      rw [← hconfirmable.same]
      exact hconfirmable.trimmed
    have hhist : registryTxs ((attemptAll exec l.system.chain d.interference,tx)::
        history exec l.system.chain d.interference) =
        registryTxs (history exec l.system.chain d.interference)++[tx] := by
      simp [registryTxs,hmanages.target]
    refine ⟨_,_,[tx],.step tx (Run.attemptAll l.system.chain d.interference) hexec,
      successes_confirmed hhistory,.cons ⟨?_,rfl,v,?_,hmanages⟩ .nil,?_,?_⟩
    · exact EvmAdapter.prepare_sender hprepare
    · rw [← hv,htrim]
      rfl
    · rw [hhist]
      exact List.sublist_append_right _ _
    · intro hsound
      rw [hhist,registryTxs_attemptAll hsound.1,List.nil_append]

/-- The successful records that a run adds. -/
theorem Kept.backed (h : Kept l) {events : List (ValidatorEvent × (String → Bool))}
    (hdrawn : Throughout (ValidatorLedger.step P) (fun l e => e.1.Drawn l.system) l events) :
    ∃ hist records backing,Run exec l.system.chain hist (l.run P events).system.chain ∧
      (l.run P events).successes = l.successes++records ∧ List.Forall₂ (Backs P) records backing ∧
      backing.Sublist (registryTxs hist) ∧
      (Throughout (ValidatorLedger.step P) (fun l e => e.1.Sound l.system) l events →
        backing = registryTxs hist) := by
  induction events generalizing l with
  | nil => exact ⟨[],[],[],.refl,(List.append_nil _).symm,.nil,List.nil_sublist _,fun _ => rfl⟩
  | cons e events ih =>
    have hstep := l.attempted (P := P) e
    obtain ⟨hist,records,backing,hrun,hadded,hbacks,hsub,hall⟩ := h.backed_step hstep hdrawn.1
    obtain ⟨hist',records',backing',hrun',hadded',hbacks',hsub',hall'⟩ :=
      ih (h.step hstep hdrawn.1) hdrawn.2
    refine ⟨hist'++hist,records++records',backing++backing',hrun.trans hrun',?_,
      List.rel_append hbacks hbacks',?_,?_⟩
    · rw [← List.append_assoc,← hadded]
      exact hadded'
    · rw [registryTxs_append]
      exact hsub.append hsub'
    · intro hsound
      rw [registryTxs_append,hall hsound.1,hall' hsound.2]

/-- What an event tells an identity is what it changes. -/
theorem told_step (hstep : Attempt P l l' e) (i : String) (channel : NotificationChannel) :
    ∃ records ns,l'.successes = l.successes++records ∧ l'.notifications = l.notifications++ns ∧
      ((told i channel ns).map NotificationDelivery.change).Sublist
        (records.map ValidatorHistoryRecord.change) ∧
      (e.1.Reaches i → (told i channel ns).map NotificationDelivery.change =
        records.map ValidatorHistoryRecord.change) := by
  cases hstep with
  | quiet hrun hsound hrows hhistory hnotifications =>
    refine ⟨[],[],?_,by rw [hnotifications,List.append_nil],List.nil_sublist _,fun _ => rfl⟩
    rw [List.append_nil,ValidatorLedger.successes,hhistory]
    rfl
  | failed hrun hsound hrows hhistory hnotifications =>
    refine ⟨[],[],?_,by rw [hnotifications,List.append_nil],List.nil_sublist _,fun _ => rfl⟩
    rw [List.append_nil,successes_failed hhistory]
  | @confirmed ctx request delay d mail op hwarranted tx hprepare hexec hrows hhistory hnotifications =>
    have hrecord : [recordHistory ctx op tx.env.number].map ValidatorHistoryRecord.change =
        [(op.saved.validatorId,op.type)] := by
      cases hwarranted <;> rfl
    refine ⟨_,_,successes_confirmed hhistory,hnotifications,?_,?_⟩
    · rw [told_validatorChanged,hrecord]
      split
      · exact List.Sublist.refl _
      · exact List.nil_sublist _
    · intro hreaches
      have hmem : i ∈ ctx.repositories.recipients := hreaches
      rw [told_validatorChanged,hrecord,if_pos hmem]

theorem told_run (l : ValidatorLedger H) (events : List (ValidatorEvent × (String → Bool)))
    (i : String) (channel : NotificationChannel) :
    ∃ records ns,(l.run P events).successes = l.successes++records ∧
      (l.run P events).notifications = l.notifications++ns ∧
      ((told i channel ns).map NotificationDelivery.change).Sublist
        (records.map ValidatorHistoryRecord.change) ∧
      ((∀ e ∈ events,e.1.Reaches i) → (told i channel ns).map NotificationDelivery.change =
        records.map ValidatorHistoryRecord.change) := by
  induction events generalizing l with
  | nil =>
    exact ⟨[],[],(List.append_nil _).symm,(List.append_nil _).symm,List.nil_sublist _,fun _ => rfl⟩
  | cons e events ih =>
    obtain ⟨records,ns,hadded,htold,hsub,hall⟩ := told_step (l.attempted (P := P) e) i channel
    obtain ⟨records',ns',hadded',htold',hsub',hall'⟩ := ih (l.step P e)
    refine ⟨records++records',ns++ns',?_,?_,?_,?_⟩
    · rw [← List.append_assoc,← hadded]
      exact hadded'
    · rw [← List.append_assoc,← htold]
      exact htold'
    · rw [told,List.filter_append,List.map_append,List.map_append]
      exact hsub.append hsub'
    · intro hreaches
      rw [told,List.filter_append,List.map_append,List.map_append]
      have hfirst := hall (hreaches e List.mem_cons_self)
      have hrest := hall' (fun e' he' => hreaches e' (List.mem_cons_of_mem e he'))
      rw [told] at hfirst hrest
      rw [hfirst,hrest]

/-- What the two tables say after the events of a run that began with empty ones. -/
structure Recorded (P : Platform) (l : ValidatorLedger H)
    (events : List (ValidatorEvent × (String → Bool))) (l' : ValidatorLedger H) : Prop where
  lives : ∀ validatorId,Life (l'.about validatorId) (l'.system.stored validatorId)
  failures : ∀ r ∈ l'.history,r.status = .FAILED →
    r.previousState = some r.newState ∧ r.blockNumber = none
  backed : ∃ hist backing,Run exec l.system.chain hist l'.system.chain ∧
    List.Forall₂ (Backs P) l'.successes backing ∧ backing.Sublist (registryTxs hist) ∧
    (Throughout (ValidatorLedger.step P) (fun l e => e.1.Sound l.system) l events →
      backing = registryTxs hist)
  told : ∀ i channel,
    ((told i channel l'.notifications).map NotificationDelivery.change).Sublist
      (l'.successes.map ValidatorHistoryRecord.change) ∧
    ((∀ e ∈ events,e.1.Reaches i) → (told i channel l'.notifications).map NotificationDelivery.change =
      l'.successes.map ValidatorHistoryRecord.change)

end Lives

section Prototype

def prototypeLedger : ValidatorLedger (Option Bytes) := ⟨prototypeValidators,[],[]⟩

/-- A removal that is mined, without an answer. -/
def unansweredRemoval : ValidatorEvent :=
  .request (validatorContext "2") (.removeValidator "DID:BEL:ADMIN" "VREG:1"
    [("removalHeight",.number 30),("reason",.string "retire")]) 0
    (deliveryOf 3 (.lost ⟨.TIMEOUT,"no receipt"⟩))

/-- Only the administrator has an address for e-mails. -/
def prototypeMail (identityId : String) : Bool := identityId = "DID:BEL:ADMIN"

def prototypeEvents : List (ValidatorEvent × (String → Bool)) :=
  [(addition,prototypeMail),(unansweredRemoval,prototypeMail)]

end Prototype
end BelLedger
