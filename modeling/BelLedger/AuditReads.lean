import BelLedger.AccessSoundness
import BelLedger.AuditTrails
import BelLedger.JobReads

/-!
# The audit trail as it is shown

A trail is read with many calls, and blocks are mined between them. The log only grows and a wallet
keeps its DID, so what is put together is the trail of the block that answered the first call.
-/
namespace BelLedger
open CheckedCalls TransitionRuns AuditRegistry

/-- The id of the record is the `eventId` and the `txId`. -/
structure AuditEvent (H : Type) where
  eventId : H
  entityType : String
  entityId : String
  action : String
  actorIdentityId : String
  timestamp : Option String

/-- The states that answer the two calls for one entry. -/
structure Moments (H : Type) where
  record : World H
  actor : World H

namespace EvmAdapter

variable {H : Type} [Keccak H] [DecidableEq H]

def auditRecord (w : World H) (txId : H) : Except ServiceError AuditRecord :=
  match AuditRegistry.getAuditRecord w.audit txId with
  | some r => .ok r
  | none => .error (.Blockchain ⟨.NOT_FOUND,"On-chain read failed"⟩)

def auditEvent (ctx : JobReadContext) (txId : H) (m : Moments H) :
    Except ServiceError (AuditEvent H) := do
  let r ← auditRecord m.record txId
  let entityType ← decoded r.entityType
  let entityId ← decoded r.entityId
  let action ← decoded r.action
  let actorIdentityId ← identityOrAddress ctx.checksum m.actor r.actor
  pure { eventId := txId, entityType, entityId, action, actorIdentityId,
         timestamp := iso ctx r.timestamp }

/-- The entries are read at the same time; of several failures the first in the list is kept. -/
def getAuditTrail (ctx : JobReadContext) (w : World H) (later : H → Moments H) (entityId : String) :
    Except ServiceError (List (AuditEvent H)) :=
  (AuditRegistry.getAuditTrail w.audit (utf8 entityId)).mapM (fun txId => auditEvent ctx txId (later txId))

end EvmAdapter

namespace AuditService

def getTrailForAsset {H : Type} [Keccak H] [DecidableEq H] (ctx : JobReadContext) (w : World H)
    (later : H → Moments H) (assetId : String) : Except ServiceError (List (AuditEvent H)) :=
  EvmAdapter.getAuditTrail ctx w later assetId

end AuditService

/-- What an entry says, in the bytes of its texts. -/
structure AuditLine where
  entityType : Bytes
  entityId : Bytes
  action : Bytes
  actor : Bytes
  timestamp : Option String
  deriving DecidableEq

def AuditEvent.line {H : Type} (e : AuditEvent H) : AuditLine :=
  ⟨utf8 e.entityType,utf8 e.entityId,utf8 e.action,utf8 e.actorIdentityId,e.timestamp⟩

/-- A line that can be decoded. -/
structure AuditLine.Legible (line : AuditLine) : Prop where
  action : ValidText line.action
  actor : ValidText line.actor

variable {H : Type} [Keccak H] [DecidableEq H]

/-- The line of a record whose actor is looked up in `w`. -/
def AuditRegistry.lineIn (ctx : JobReadContext) (w : World H) (r : AuditRecord) : AuditLine :=
  ⟨r.entityType,r.entityId,r.action,IdentityRegistry.identityOf w.identity r.actor,
    EvmAdapter.iso ctx r.timestamp⟩

/-- The line that a transaction has left about an entity: its caller is named as at that time. -/
def Tx.line (ctx : JobReadContext) (entityId : Bytes) (p : World H) (tx : Tx) : Option AuditLine :=
  ((tx.record p).filter (fun r => decide (r.entityId = entityId))).map (AuditRegistry.lineIn ctx p)

/-- The later calls are answered in states of the same chain, the second after the first. -/
structure Moments.Follow (w : World H) (m : Moments H) : Prop where
  record : ∃ later,Run exec w later m.record
  actor : ∃ later,Run exec m.record later m.actor
  count : m.record.audit.recordCount < 2 ^ 256

section Lists
variable {ε α β γ : Type} {f : α → Except ε β}

private theorem mapM_ok_iff (xs : List α) : (∃ ys,xs.mapM f = .ok ys) ↔ ∀ x ∈ xs,∃ y,f x = .ok y := by
  induction xs with
  | nil => exact ⟨fun _ x hx => absurd hx List.not_mem_nil,fun _ => ⟨[],rfl⟩⟩
  | cons x xs ih =>
    simp only [List.mapM_cons,ok_bind_iff,ok_pure_iff,List.forall_mem_cons,← ih]
    constructor
    · rintro ⟨_,y,hy,ys,hys,-⟩
      exact ⟨⟨y,hy⟩,ys,hys⟩
    · rintro ⟨⟨y,hy⟩,ys,hys⟩
      exact ⟨_,y,hy,ys,hys,rfl⟩

private theorem map_of_mapM {g : β → γ} {k : α → γ} {xs : List α} {ys : List β}
    (h : xs.mapM f = .ok ys) (hk : ∀ x ∈ xs,∀ y,f x = .ok y → g y = k x) : ys.map g = xs.map k := by
  induction xs generalizing ys with
  | nil =>
    cases h
    rfl
  | cons x xs ih =>
    simp only [List.mapM_cons,ok_bind_iff,ok_pure_iff] at h
    obtain ⟨y,hy,rest,hrest,rfl⟩ := h
    rw [List.map_cons,List.map_cons,hk x List.mem_cons_self y hy,
      ih hrest (fun z hz => hk z (List.mem_cons_of_mem x hz))]

end Lists

section Attribution
variable {w w' : World H} {tx : Tx} {r : AuditRecord}

theorem Run.keepsWallets {later : List (World H × Tx)} (hw : Reachable w)
    (h : Run exec w later w') : KeepsWallets w w' := by
  have hboth : Reachable w' ∧ KeepsWallets w w' := by
    refine h.invariant (P := fun u => Reachable u ∧ KeepsWallets w u) ?_ ⟨hw,.refl w⟩
    rintro u tx v ⟨hu,hkept⟩ hs
    exact ⟨hu.step hs,hkept.trans (exec_keepsWallets hu hs)⟩
  exact hboth.2

omit [Keccak H] [DecidableEq H] in
private theorem Call.entry_type {call : Call} {entry : AuditEntry} (h : call.entry w = some entry) :
    ValidText entry.entityType := by
  cases call with
  | wire _ _ _ _ => cases h
  | approve _ _ => cases h
  | setApprovalForAll _ _ => cases h
  | transferFrom _ _ _ => cases h
  | safeTransferFrom _ _ _ _ => cases h
  | recordAudit _ _ _ => cases h
  | recordAuditFor _ _ _ _ => cases h
  | _ =>
    obtain rfl := Option.some.inj h
    exact ⟨_,rfl⟩

private theorem validEntityType_text (hinj : Function.Injective (keccak256 : Bytes → H)) {t : Bytes}
    (h : validEntityType (H := H) t = true) : ValidText t := by
  simp only [validEntityType,Bool.or_eq_true,decide_eq_true_eq,hinj.eq_iff] at h
  rcases h with (((((rfl | rfl) | rfl) | rfl) | rfl) | rfl) | rfl <;> exact ⟨_,rfl⟩

/-- A record names the sender of its transaction, an active wallet, as its actor. -/
private theorem exec_recorded (hinj : Function.Injective (keccak256 : Bytes → H)) (hw : Reachable w)
    (hdirect : tx.call.target = none → ∀ r,w.addr.of r ≠ tx.env.sender)
    (hs : exec w tx = .ok w') (hr : tx.record w = some r) :
    Active w.identity r.actor ∧ ValidText r.entityType := by
  have hactive : Active w.identity tx.env.sender := by
    by_cases htarget : tx.call.target = none
    · rcases exec_sender hw.deployed hw.identity hs with hactive | ⟨registry,hregistry⟩
      · exact hactive
      · exact absurd hregistry.symm (hdirect htarget registry)
    · exact (exec_permitted hw.deployed hw.identity hs htarget).1
  unfold Tx.record at hr
  split at hr
  · rename_i entry hentry
    obtain rfl := Option.some.inj hr
    exact ⟨hactive,Call.entry_type hentry⟩
  · rename_i entityType entityId action hentry hcall
    obtain rfl := Option.some.inj hr
    obtain ⟨env,call⟩ := tx
    obtain rfl : call = .recordAudit entityType entityId action := hcall
    simp only [exec,AuditRegistry.recordAudit,AuditRegistry.record,revertIf_bind_eq_ok,
      Bool.not_eq_false] at hs
    exact ⟨hactive,validEntityType_text hinj hs.2.1⟩
  · -- only the registries may name another actor than the sender
    rename_i actor entityType entityId action hentry hcall
    obtain ⟨env,call⟩ := tx
    obtain rfl : call = .recordAuditFor actor entityType entityId action := hcall
    simp only [exec,AuditRegistry.recordAuditFor,revertIf_bind_eq_ok,Bool.not_eq_false] at hs
    obtain ⟨registry,hregistry⟩ := (hw.deployed.recorder env.sender).mp hs.1
    exact absurd hregistry.symm (hdirect rfl registry)
  · cases hr

end Attribution

/-- The lines that a history has left about an entity, oldest first. -/
def linesOf (ctx : JobReadContext) (hist : List (World H × Tx)) (entityId : Bytes) : List AuditLine :=
  hist.reverse.filterMap (fun entry => entry.2.line ctx entityId entry.1)

section Trails
variable {ctx : JobReadContext} {w : World H} {hist : List (World H × Tx)} {r : AuditRecord} {txId : H}
  {m : Moments H} {id : String}

/-- A record of the history: its actor is a wallet that still has the DID it had at the time. -/
private theorem ReachedBy.recorded (ctx : JobReadContext)
    (hinj : Function.Injective (keccak256 : Bytes → H)) (h : ReachedBy hist w) {p : World H} {tx : Tx}
    (hmem : (p,tx) ∈ hist) (hdirect : tx.call.target = none → ∀ r,p.addr.of r ≠ tx.env.sender)
    (hr : tx.record p = some r) :
    (w.identity.wallets r.actor).status ≠ .NONE ∧ ValidText r.entityType ∧
      lineIn ctx p r = lineIn ctx w r := by
  obtain ⟨later,earlier,rfl⟩ := List.append_of_mem hmem
  obtain ⟨t,hearlier,hs,hlater⟩ := h.split
  have hp : Reachable p := ⟨earlier,hearlier⟩
  obtain ⟨hactive,htype⟩ := exec_recorded hinj hp hdirect hs hr
  have hregistered : (p.identity.wallets r.actor).status ≠ .NONE := by
    rw [hactive]
    decide
  have hkept : KeepsWallets p w :=
    (exec_keepsWallets hp hs).trans (Run.keepsWallets (hp.step hs) hlater)
  obtain ⟨hstays,hdid⟩ := hkept r.actor hregistered
  refine ⟨hstays,htype,?_⟩
  unfold lineIn
  rw [hdid]

private theorem linesOf_eq (hinj : Function.Injective (keccak256 : Bytes → H)) (h : ReachedBy hist w)
    (hdirect : ∀ p tx,(p,tx) ∈ hist → tx.call.target = none → ∀ r,p.addr.of r ≠ tx.env.sender)
    (entityId : Bytes) : linesOf ctx hist entityId =
      ((recordsOf hist).filter (fun r => decide (r.entityId = entityId))).map (lineIn ctx w) := by
  rw [linesOf,recordsOf,List.filter_filterMap,List.map_filterMap]
  apply List.filterMap_congr
  rintro ⟨p,tx⟩ hmem
  have hin : (p,tx) ∈ hist := List.mem_reverse.mp hmem
  unfold Tx.line
  cases hr : tx.record p with
  | none => rfl
  | some r =>
    have hline := (h.recorded ctx hinj hin (hdirect p tx hin) hr).2.2
    rw [Option.filter_some]
    split
    · exact congrArg some hline
    · rfl

/-- What the two calls for an entry give in later states. -/
private theorem auditEvent_eq_ok (hw : Reachable w) (hm : m.Follow w)
    (hrecord : getAuditRecord m.record.audit txId = some r)
    (hregistered : (w.identity.wallets r.actor).status ≠ .NONE) (htype : ValidText r.entityType)
    (hentity : ValidText r.entityId) :
    ((∃ e,EvmAdapter.auditEvent ctx txId m = .ok e) ↔ (lineIn ctx w r).Legible) ∧
      ∀ e,EvmAdapter.auditEvent ctx txId m = .ok e → e.line = lineIn ctx w r := by
  obtain ⟨first,hfirst⟩ := hm.record
  obtain ⟨second,hsecond⟩ := hm.actor
  obtain ⟨-,hdid⟩ := Run.keepsWallets hw (hfirst.trans hsecond) r.actor hregistered
  have hlong : (IdentityRegistry.identityOf w.identity r.actor).length ≠ 0 :=
    (hw.identity.identityOf_length hregistered).1
  have hread : EvmAdapter.auditRecord m.record txId = .ok r := by
    unfold EvmAdapter.auditRecord
    rw [hrecord]
  have hevent : ∀ e,EvmAdapter.auditEvent ctx txId m = .ok e ↔ ∃ entityType entityId action did,
      utf8 entityType = r.entityType ∧ utf8 entityId = r.entityId ∧ utf8 action = r.action ∧
      utf8 did = IdentityRegistry.identityOf w.identity r.actor ∧
      e = ⟨txId,entityType,entityId,action,did,EvmAdapter.iso ctx r.timestamp⟩ := by
    intro e
    simp only [EvmAdapter.auditEvent,hread,ok_bind,EvmAdapter.identityOrAddress,hdid,ok_bind_iff,
      decoded_eq_ok,ok_pure_iff]
    constructor
    · rintro ⟨entityType,ht,entityId,hi,action,ha,_,⟨did,hd,rfl⟩,rfl⟩
      have hne : did ≠ "" := by
        rintro rfl
        rw [← hd] at hlong
        exact hlong rfl
      exact ⟨entityType,entityId,action,did,ht,hi,ha,hd,by rw [if_neg hne]⟩
    · rintro ⟨entityType,entityId,action,did,ht,hi,ha,hd,rfl⟩
      have hne : did ≠ "" := by
        rintro rfl
        rw [← hd] at hlong
        exact hlong rfl
      exact ⟨entityType,ht,entityId,hi,action,ha,did,⟨did,hd,if_neg hne⟩,rfl⟩
  refine ⟨⟨?_,?_⟩,?_⟩
  · rintro ⟨e,he⟩
    obtain ⟨_,_,action,did,-,-,ha,hd,-⟩ := (hevent e).mp he
    exact ⟨⟨action,ha⟩,did,hd⟩
  · rintro ⟨⟨action,ha⟩,did,hd⟩
    obtain ⟨entityType,ht⟩ := htype
    obtain ⟨entityId,hi⟩ := hentity
    exact ⟨_,(hevent _).mpr ⟨entityType,entityId,action,did,ht,hi,ha,hd,rfl⟩⟩
  · intro e he
    obtain ⟨_,_,_,_,ht,hi,ha,hd,rfl⟩ := (hevent e).mp he
    simp only [AuditEvent.line,lineIn,ht,hi,ha,hd]

end Trails

/-- Whatever is mined while a trail is read, the entries that are shown are the successful operations
on the entity up to the first call, in order, each attributed to the DID that its caller had when it
was executed; and the trail can be shown as soon as these texts can be decoded. -/
theorem audit_trail_shown (hinj : Function.Injective (keccak256 : Bytes → H)) (ctx : JobReadContext)
    (hist : List (World H × Tx)) (w : World H) (h : ReachedBy hist w) (htimes : Timed hist)
    (hdirect : ∀ p tx,(p,tx) ∈ hist → tx.call.target = none → ∀ r,p.addr.of r ≠ tx.env.sender)
    (later : H → Moments H) (hlater : ∀ txId,(later txId).Follow w) (assetId : String) :
    ((∃ events,AuditService.getTrailForAsset ctx w later assetId = .ok events) ↔
      ∀ line ∈ linesOf ctx hist (utf8 assetId),line.Legible) ∧
    ∀ events,AuditService.getTrailForAsset ctx w later assetId = .ok events →
      events.map AuditEvent.line = linesOf ctx hist (utf8 assetId) := by
  have hreach : Reachable w := ⟨hist,h⟩
  obtain ⟨d,w₀,hdeploy,hrun⟩ := id h
  have hcount : w.audit.recordCount < 2 ^ 256 := by
    obtain ⟨first,hfirst⟩ := (hlater (keccak256 [])).record
    exact Nat.lt_of_le_of_lt (Run.recordCount_le hfirst) (hlater _).count
  obtain ⟨log,hholds,hnum,hrecords⟩ :=
    Run.holds hinj hrun (deploy_freshLog hdeploy).holds FreshLog.numbered hcount
  -- every entry of the trail is still the same record when it is read
  have hentry : ∀ txId r,(txId,r) ∈ log → r.entityId = utf8 assetId →
      ((∃ e,EvmAdapter.auditEvent ctx txId (later txId) = .ok e) ↔ (lineIn ctx w r).Legible) ∧
        ∀ e,EvmAdapter.auditEvent ctx txId (later txId) = .ok e → e.line = lineIn ctx w r := by
    intro txId r hmem hid
    obtain ⟨first,hfirst⟩ := (hlater txId).record
    obtain ⟨more,hholds',-,-⟩ := Run.holds hinj hfirst hholds hnum (hlater txId).count
    have hrecord := hholds'.record_eq (List.mem_append_left more hmem)
      (htimes.records hrecords txId r hmem)
    have hin : r ∈ recordsOf hist := hrecords ▸ List.mem_map_of_mem hmem
    obtain ⟨⟨p,tx⟩,htx,hr⟩ := List.mem_filterMap.mp hin
    have htx' : (p,tx) ∈ hist := List.mem_reverse.mp htx
    obtain ⟨hregistered,htype,-⟩ := h.recorded ctx hinj htx' (hdirect p tx htx') hr
    exact auditEvent_eq_ok hreach (hlater txId) hrecord hregistered htype ⟨assetId,hid.symm⟩
  have hlines : linesOf ctx hist (utf8 assetId) =
      (log.filter (fun e => decide (e.2.entityId = utf8 assetId))).map (fun e => lineIn ctx w e.2) := by
    rw [linesOf_eq hinj h hdirect,← hrecords,List.filter_map,List.map_map]
    rfl
  unfold AuditService.getTrailForAsset EvmAdapter.getAuditTrail
  rw [hlines,hholds.trail_eq hinj,List.mapM_map]
  constructor
  · rw [mapM_ok_iff,List.forall_mem_map]
    apply forall₂_congr
    rintro ⟨txId,r⟩ hmem
    obtain ⟨hlog,hid⟩ := List.mem_filter.mp hmem
    exact (hentry txId r hlog (of_decide_eq_true hid)).1
  · intro events hevents
    refine map_of_mapM hevents ?_
    rintro ⟨txId,r⟩ hmem e he
    obtain ⟨hlog,hid⟩ := List.mem_filter.mp hmem
    exact (hentry txId r hlog (of_decide_eq_true hid)).2 e he

section Prototype

def readContext : JobReadContext :=
  ⟨fun _ => "0x0000000000000000000000000000000000000000",fun _ => "2026-01-01T00:00:00.000Z",fun _ => none⟩

/-- An engineer registers an asset. -/
def registrationTxs : List Tx :=
  [txOf 0xad 2 (.createIdentity 0xe1 (utf8 "DID:BEL:ENG")),txOf 0xad 3 (.activateWallet 0xe1),
   txOf 0xad 4 (.assignRole 0xe1 .ENGINEER),txOf 0xe1 5 (.mintAsset (utf8 "RADAR-1") 0xe1)]

def registeredWorld : World (Option Bytes) := attemptAll exec prototypeWorld registrationTxs

/-- While the trail of the asset is read, its owner is revoked and then the asset changes. -/
def revokedMeanwhile : World (Option Bytes) :=
  attemptAll exec registeredWorld [txOf 0xad 6 (.revokeWallet 0xe1 (utf8 "left"))]

def changedMeanwhile : World (Option Bytes) :=
  attemptAll exec revokedMeanwhile [txOf 0xad 7 (.changeAssetState 1 (utf8 "IN_MAINTENANCE"))]

theorem audit_trail_shown_revoked :
    (getAuditTrail changedMeanwhile.audit (utf8 "RADAR-1")).length = 2 ∧
    ∃ events,AuditService.getTrailForAsset readContext registeredWorld
        (fun _ => ⟨revokedMeanwhile,changedMeanwhile⟩) "RADAR-1" = .ok events ∧
      events.map AuditEvent.line =
        [⟨utf8 "ASSET",utf8 "RADAR-1",utf8 "ASSET_MINT",utf8 "DID:BEL:ENG",
          some "2026-01-01T00:00:00.000Z"⟩] := by
  have hreached := prototype_reachedBy registrationTxs
  have hlines : linesOf readContext (history exec prototypeWorld registrationTxs) (utf8 "RADAR-1") =
      [⟨utf8 "ASSET",utf8 "RADAR-1",utf8 "ASSET_MINT",utf8 "DID:BEL:ENG",
        some "2026-01-01T00:00:00.000Z"⟩] := by
    decide +kernel
  have htimes : Timed (history exec prototypeWorld registrationTxs) := by
    have hall : ∀ tx ∈ registrationTxs,0 < tx.env.timestamp ∧ tx.env.timestamp < 2 ^ 64 := by decide
    intro p tx hmem
    exact hall tx (mem_of_mem_history hmem)
  have hfollow : Moments.Follow registeredWorld ⟨revokedMeanwhile,changedMeanwhile⟩ :=
    ⟨⟨_,Run.attemptAll _ _⟩,⟨_,Run.attemptAll _ _⟩,by decide +kernel⟩
  have hshown := audit_trail_shown prototype_keccak_injective readContext _ registeredWorld hreached
    htimes ?_ (fun _ => ⟨revokedMeanwhile,changedMeanwhile⟩) (fun _ => hfollow) "RADAR-1"
  · rw [hlines] at hshown
    obtain ⟨events,hevents⟩ := hshown.1.mpr (by
      intro line hline
      obtain rfl := List.mem_singleton.mp hline
      exact ⟨⟨_,rfl⟩,_,rfl⟩)
    exact ⟨by decide +kernel,events,hevents,hshown.2 events hevents⟩
  · have htargets : ∀ tx ∈ registrationTxs,tx.call.target ≠ none := by decide
    intro p tx hmem htarget
    exact absurd htarget (htargets tx (mem_of_mem_history hmem))

end Prototype
end BelLedger
