import BelLedger.AuditRecords
import Mathlib.Algebra.BigOperators.Group.Finset.Basic

/-!
# The audit log and its trails

AuditRegistry stores a counter, records by id, and lists of ids by entity. All three are views of one
sequence of records in the order in which they were made: its length, its entries, and its
subsequences for one entity.
-/
namespace BelLedger
open CheckedCalls TransitionRuns AuditRegistry

variable {H : Type} [Keccak H] [DecidableEq H]

namespace AuditRegistry

def getAuditTrail (s : Storage H) (entityId : Bytes) : List H := s.trails (keccak256 entityId)

/-- `none` stands for the revert `RecordNotFound`. -/
def getAuditRecord (s : Storage H) (txId : H) : Option AuditRecord :=
  if (s.records txId).timestamp = 0 then none else some (s.records txId)

end AuditRegistry

section Identifiers

theorem mod_pow_eq_of_digits (b : ℕ) {m n : ℕ} :
    ∀ k,(∀ j,j < k → m / b ^ j % b = n / b ^ j % b) → m % b ^ k = n % b ^ k
  | 0,_ => by simp [Nat.mod_one]
  | k + 1,h => by
    rw [Nat.mod_pow_succ,Nat.mod_pow_succ,mod_pow_eq_of_digits b k (fun j hj => h j (by omega)),
      h k (by omega)]

theorem word_length (n : ℕ) : (word n).length = 32 := by simp [word]

/-- A word determines its number up to the range of a word. -/
theorem mod_eq_of_word_eq {m n : ℕ} (h : word m = word n) : m % 2 ^ 256 = n % 2 ^ 256 := by
  have hdigits : ∀ j,j < 32 → m / 256 ^ j % 256 = n / 256 ^ j % 256 := by
    intro j hj
    have hbyte := congrArg (fun bytes : Bytes => bytes[31 - j]?.map UInt8.toNat) h
    have hindex : 31 - j < 32 := by omega
    have hback : 31 - (31 - j) = j := by omega
    simpa [word,hindex,hback] using hbyte
  have hpow : (256 : ℕ) ^ 32 = 2 ^ 256 := (Nat.pow_mul 2 8 32).symm
  rw [← hpow]
  exact mod_pow_eq_of_digits 256 32 hdigits

omit [DecidableEq H] in
/-- The ids of different records differ: they are digests of different record numbers. -/
theorem recordId_ne (hinj : Function.Injective (keccak256 : Bytes → H)) {env env' : Env}
    {self self' : Address} {m n : ℕ} (hmn : m ≠ n) (hm : m < 2 ^ 256) (hn : n < 2 ^ 256) :
    (recordId env self m : H) ≠ recordId env' self' n := by
  intro h
  have hbytes := hinj h
  have hlength : (word env.chainid++word self.toNat).length =
      (word env'.chainid++word self'.toNat).length := by
    simp [word_length]
  have hword := mod_eq_of_word_eq (List.append_inj_right hbytes hlength)
  rw [Nat.mod_eq_of_lt hm,Nat.mod_eq_of_lt hn] at hword
  exact hmn hword

end Identifiers

section Log

/-- The storage holds the records of `log`, in the order in which they were made. -/
structure Holds (log : List (H × AuditRecord)) (s : Storage H) : Prop where
  count : s.recordCount = log.length
  distinct : (log.map Prod.fst).Nodup
  written : ∀ id r,(id,r) ∈ log → s.records id = r
  unwritten : ∀ id,id ∉ log.map Prod.fst → (s.records id).timestamp = 0
  trails : ∀ k,s.trails k =
    (log.filter (fun entry => decide (keccak256 entry.2.entityId = k))).map Prod.fst

variable {log : List (H × AuditRecord)} {s : Storage H} {txId : H} {r : AuditRecord}

theorem Holds.append (h : Holds log s) (hfresh : txId ∉ log.map Prod.fst) :
    Holds (log++[(txId,r)]) (appended s txId r) := by
  refine ⟨?_,?_,?_,?_,?_⟩
  · simp [appended,h.count]
  · rw [List.map_append,List.map_singleton,← List.concat_eq_append]
    exact h.distinct.concat hfresh
  · intro id r' hmem
    rcases List.mem_append.mp hmem with hold | hnew
    · have hne : id ≠ txId := by
        rintro rfl
        exact hfresh (List.mem_map_of_mem hold)
      simpa [appended,hne] using h.written id r' hold
    · obtain ⟨rfl,rfl⟩ := Prod.mk.inj (List.mem_singleton.mp hnew)
      simp [appended]
  · intro id hid
    rw [List.map_append,List.map_singleton,List.mem_append,List.mem_singleton,not_or] at hid
    simpa [appended,hid.2] using h.unwritten id hid.1
  · intro k
    rw [List.filter_append,List.map_append,← h.trails k]
    by_cases hk : keccak256 r.entityId = k
    · subst hk
      simp [appended]
    · have hk' : k ≠ keccak256 r.entityId := fun he => hk he.symm
      simp [appended,hk,hk']

/-- The trail of an entity, with the digests compared by what they are digests of. -/
theorem Holds.trail_eq (h : Holds log s)
    (hinj : Function.Injective (keccak256 : Bytes → H)) (entityId : Bytes) :
    getAuditTrail s entityId =
      (log.filter (fun entry => decide (entry.2.entityId = entityId))).map Prod.fst := by
  rw [getAuditTrail,h.trails]
  congr 2
  funext entry
  simp only [hinj.eq_iff]

theorem Holds.record_eq (h : Holds log s) {id : H} (hmem : (id,r) ∈ log)
    (htime : r.timestamp ≠ 0) : getAuditRecord s id = some r := by
  rw [getAuditRecord,h.written id r hmem,if_neg htime]

private theorem Holds.mem_trail_iff (h : Holds log s)
    (hinj : Function.Injective (keccak256 : Bytes → H)) {id : H} {entityId : Bytes} :
    id ∈ getAuditTrail s entityId ↔ ∃ r,(id,r) ∈ log ∧ r.entityId = entityId := by
  rw [h.trail_eq hinj,List.mem_map]
  simp only [List.mem_filter,decide_eq_true_eq,Prod.exists]
  constructor
  · rintro ⟨id',r',hmem,rfl⟩
    exact ⟨r',hmem⟩
  · rintro ⟨r',hmem⟩
    exact ⟨id,r',hmem,rfl⟩

private theorem Holds.trail_length (h : Holds log s)
    (hinj : Function.Injective (keccak256 : Bytes → H)) (entityId : Bytes) :
    (getAuditTrail s entityId).length =
      (log.map (fun entry => entry.2.entityId)).countP (fun id => decide (id = entityId)) := by
  rw [h.trail_eq hinj,List.length_map,List.countP_map,List.countP_eq_length_filter]
  rfl

/-- What the three stores say about one sequence of records. -/
structure AuditTrails (log : List (H × AuditRecord)) (s : Storage H) : Prop where
  count : s.recordCount = log.length
  distinct : (log.map Prod.fst).Nodup
  written : ∀ id r,getAuditRecord s id = some r ↔ (id,r) ∈ log
  ordered : ∀ entityId,getAuditTrail s entityId =
    (log.filter (fun entry => decide (entry.2.entityId = entityId))).map Prod.fst
  once : ∀ id r,(id,r) ∈ log → (getAuditTrail s r.entityId).count id = 1
  only : ∀ id r entityId,(id,r) ∈ log → id ∈ getAuditTrail s entityId → entityId = r.entityId
  total : ∃ ids : Finset Bytes,(∀ entityId,entityId ∈ ids ↔ getAuditTrail s entityId ≠ []) ∧
    ∑ entityId ∈ ids,(getAuditTrail s entityId).length = s.recordCount

theorem Holds.auditTrails (h : Holds log s) (hinj : Function.Injective (keccak256 : Bytes → H))
    (htimes : ∀ id r,(id,r) ∈ log → r.timestamp ≠ 0) : AuditTrails log s := by
  have hunique : ∀ id r r',(id,r) ∈ log → (id,r') ∈ log → r = r' := by
    intro id r r' hr hr'
    rw [← h.written id r hr,← h.written id r' hr']
  refine ⟨h.count,h.distinct,?_,h.trail_eq hinj,?_,?_,?_⟩
  · intro id r
    constructor
    · intro hget
      unfold getAuditRecord at hget
      split at hget
      · cases hget
      · rename_i htime
        have hin : id ∈ log.map Prod.fst := by
          by_contra hout
          exact htime (h.unwritten id hout)
        obtain ⟨⟨_,r'⟩,hmem,rfl⟩ := List.mem_map.mp hin
        rw [h.written _ r' hmem] at hget
        exact Option.some.inj hget ▸ hmem
    · intro hmem
      exact h.record_eq hmem (htimes id r hmem)
  · intro id r hmem
    have hin : id ∈ getAuditTrail s r.entityId := (h.mem_trail_iff hinj).mpr ⟨r,hmem,rfl⟩
    have hnodup : (getAuditTrail s r.entityId).Nodup := by
      rw [h.trail_eq hinj]
      exact h.distinct.sublist (List.filter_sublist.map Prod.fst)
    exact List.count_eq_one_of_mem hnodup hin
  · intro id r entityId hmem hin
    obtain ⟨r',hmem',rfl⟩ := (h.mem_trail_iff hinj).mp hin
    rw [hunique id r r' hmem hmem']
  · refine ⟨(log.map (fun entry => entry.2.entityId)).toFinset,?_,?_⟩
    · intro entityId
      rw [List.mem_toFinset,← List.length_pos_iff,h.trail_length hinj,List.countP_pos_iff]
      simp
    · have hlength : (log.map (fun entry => entry.2.entityId)).length = log.length :=
        List.length_map _
      simp only [h.trail_length hinj]
      rw [h.count,← hlength]
      exact List.sum_toFinset_count_eq_length _

end Log

section Runs
variable {w w' s : World H}

/-- The ids of a log are digests of numbers up to its length. -/
def Numbered (log : List (H × AuditRecord)) : Prop :=
  ∀ id,id ∈ log.map Prod.fst → ∃ env self n,n ≤ log.length ∧ id = recordId env self n

/-- The records of a history, in the order in which they were made. -/
def recordsOf (hist : List (World H × Tx)) : List AuditRecord :=
  hist.reverse.filterMap (fun entry => entry.2.record entry.1)

/-- One more transaction, with the record it leaves. -/
private theorem Holds.step (hinj : Function.Injective (keccak256 : Bytes → H)) {tx : Tx}
    {log : List (H × AuditRecord)} (h : Holds log w.audit) (hnum : Numbered log)
    (hs : exec w tx = .ok w') (hcount : w'.audit.recordCount < 2 ^ 256) :
    ∃ more,Holds (log++more) w'.audit ∧ Numbered (log++more) ∧
      more.map Prod.snd = (tx.record w).toList := by
  rw [exec_audit hs] at hcount ⊢
  cases hrecord : tx.record w with
  | none => exact ⟨[],by simpa [AuditRegistry.after] using h,by simpa using hnum,rfl⟩
  | some r =>
    rw [hrecord] at hcount
    have hlength : log.length + 1 < 2 ^ 256 := by
      rw [← h.count]
      exact hcount
    refine ⟨[(recordId tx.env w.addr.audit (w.audit.recordCount + 1),r)],?_,?_,rfl⟩
    · apply h.append
      intro hin
      obtain ⟨env,self,n,hn,hid⟩ := hnum _ hin
      rw [h.count] at hid
      exact recordId_ne hinj (by omega) hlength (by omega) hid
    · intro id hid
      rw [List.map_append,List.mem_append] at hid
      rw [List.length_append]
      rcases hid with hold | hnew
      · obtain ⟨env,self,n,hn,hid⟩ := hnum id hold
        exact ⟨env,self,n,by omega,hid⟩
      · refine ⟨tx.env,w.addr.audit,w.audit.recordCount + 1,?_,List.mem_singleton.mp hnew⟩
        rw [h.count]
        exact Nat.le_refl _

private theorem exec_recordCount_le {tx : Tx} (hs : exec w tx = .ok w') :
    w.audit.recordCount ≤ w'.audit.recordCount := by
  rw [exec_audit hs]
  cases tx.record w with
  | none => exact Nat.le_refl _
  | some r => exact Nat.le_succ _

theorem Run.recordCount_le {later : List (World H × Tx)} (hrun : Run exec s later w) :
    s.audit.recordCount ≤ w.audit.recordCount := by
  induction hrun with
  | refl => exact Nat.le_refl _
  | step tx hrun hs ih => exact ih.trans (exec_recordCount_le hs)
  | failed tx e hrun hs ih => exact ih

/-- A run extends the log by the records of its transactions. -/
theorem Run.holds (hinj : Function.Injective (keccak256 : Bytes → H))
    {later : List (World H × Tx)} {log : List (H × AuditRecord)} (hrun : Run exec s later w)
    (h : Holds log s.audit) (hnum : Numbered log) (hcount : w.audit.recordCount < 2 ^ 256) :
    ∃ more,Holds (log++more) w.audit ∧ Numbered (log++more) ∧
      more.map Prod.snd = recordsOf later := by
  induction hrun with
  | refl => exact ⟨[],by simpa using h,by simpa using hnum,rfl⟩
  | @step later p q tx hrun hs ih =>
    obtain ⟨more,hholds,hnumbered,hrecords⟩ :=
      ih (Nat.lt_of_le_of_lt (exec_recordCount_le hs) hcount)
    obtain ⟨last,hholds',hnumbered',hlast⟩ := hholds.step hinj hnumbered hs hcount
    refine ⟨more++last,?_,?_,?_⟩
    · rwa [← List.append_assoc]
    · rwa [← List.append_assoc]
    · rw [List.map_append,hrecords,hlast,recordsOf,recordsOf,List.reverse_cons,
        List.filterMap_append]
      cases hrecord : tx.record p with
      | none => simp [hrecord]
      | some r => simp [hrecord]
  | failed tx e hrun hs ih => exact ih hcount

/-- An audit registry without records. -/
structure FreshLog (s : Storage H) : Prop where
  count : s.recordCount = 0
  records : ∀ id,(s.records id).timestamp = 0
  trails : ∀ k,s.trails k = []

omit [DecidableEq H] in
theorem FreshLog.numbered : Numbered ([] : List (H × AuditRecord)) := by
  intro id hid
  cases hid

theorem FreshLog.holds {log : Storage H} (h : FreshLog log) : Holds [] log :=
  ⟨h.count,List.nodup_nil,fun _ _ hmem => absurd hmem List.not_mem_nil,fun id _ => h.records id,
    h.trails⟩

/-- The log of a run from a world whose audit registry is fresh. -/
theorem Run.log_of_fresh (hinj : Function.Injective (keccak256 : Bytes → H))
    {hist : List (World H × Tx)} (hfresh : FreshLog s.audit) (hrun : Run exec s hist w)
    (hcount : w.audit.recordCount < 2 ^ 256) :
    ∃ log,Holds log w.audit ∧ log.map Prod.snd = recordsOf hist := by
  obtain ⟨log,hholds,-,hrecords⟩ := Run.holds hinj hrun hfresh.holds FreshLog.numbered hcount
  exact ⟨log,hholds,hrecords⟩

/-- Block times that a record can hold. -/
def Timed (hist : List (World H × Tx)) : Prop :=
  ∀ p tx,(p,tx) ∈ hist → 0 < tx.env.timestamp ∧ tx.env.timestamp < 2 ^ 64

omit [Keccak H] [DecidableEq H] in
private theorem Tx.record_timestamp {tx : Tx} {r : AuditRecord} (h : tx.record w = some r)
    (htime : 0 < tx.env.timestamp ∧ tx.env.timestamp < 2 ^ 64) : r.timestamp ≠ 0 := by
  have hstamp : r.timestamp = uint64 tx.env.timestamp := by
    unfold Tx.record at h
    split at h
    · cases h
      rfl
    · cases h
      rfl
    · cases h
      rfl
    · cases h
  rw [hstamp,uint64,Nat.mod_eq_of_lt htime.2]
  omega

omit [Keccak H] [DecidableEq H] in
theorem Timed.records {hist : List (World H × Tx)} (h : Timed hist)
    {log : List (H × AuditRecord)} (hrecords : log.map Prod.snd = recordsOf hist) (id : H)
    (r : AuditRecord) (hmem : (id,r) ∈ log) : r.timestamp ≠ 0 := by
  have hin : r ∈ recordsOf hist := hrecords ▸ List.mem_map_of_mem hmem
  obtain ⟨⟨p,tx⟩,hentry,hrecord⟩ := List.mem_filterMap.mp hin
  exact Tx.record_timestamp hrecord (h p tx (List.mem_reverse.mp hentry))

/-- What a later state of the audit registry keeps of an earlier one. -/
structure TrailsKept (s s' : Storage H) : Prop where
  records : ∀ id r,getAuditRecord s id = some r → getAuditRecord s' id = some r
  trails : ∀ entityId,getAuditTrail s entityId <+: getAuditTrail s' entityId

private theorem AuditTrails.kept {log more : List (H × AuditRecord)} {s s' : Storage H}
    (h : AuditTrails log s) (h' : AuditTrails (log++more) s') : TrailsKept s s' := by
  refine ⟨?_,?_⟩
  · intro id r hget
    exact (h'.written id r).mpr (List.mem_append_left _ ((h.written id r).mp hget))
  · intro entityId
    rw [h.ordered,h'.ordered,List.filter_append,List.map_append]
    exact List.prefix_append _ _

/-- In a run that starts with a fresh audit registry the counter, the records and the trails
describe the records made so far in the order in which they were made; later states only add to it,
and a transaction that reverts changes nothing. -/
theorem audit_trails (hinj : Function.Injective (keccak256 : Bytes → H)) (w₀ s : World H)
    (hist : List (World H × Tx)) (hfresh : FreshLog w₀.audit) (hrun : Run exec w₀ hist s)
    (htimes : Timed hist) :
    (s.audit.recordCount < 2 ^ 256 → ∃ log,AuditTrails log s.audit ∧
      log.map Prod.snd = recordsOf hist) ∧
    (∀ later w,Run exec s later w → Timed later → w.audit.recordCount < 2 ^ 256 →
      TrailsKept s.audit w.audit) ∧
    ∀ tx e,exec s tx = .error e → attempt exec s tx = s := by
  refine ⟨?_,?_,?_⟩
  · intro hcount
    obtain ⟨log,hholds,hrecords⟩ := Run.log_of_fresh hinj hfresh hrun hcount
    exact ⟨log,hholds.auditTrails hinj (htimes.records hrecords),hrecords⟩
  · intro later w hlater htimes' hcount'
    have hcount : s.audit.recordCount < 2 ^ 256 :=
      Nat.lt_of_le_of_lt (Run.recordCount_le hlater) hcount'
    obtain ⟨log,hholds,hnum,hrecords⟩ := Run.holds hinj hrun hfresh.holds FreshLog.numbered hcount
    obtain ⟨more,hholds',-,hrecords'⟩ := Run.holds hinj hlater hholds hnum hcount'
    refine (hholds.auditTrails hinj (htimes.records hrecords)).kept (hholds'.auditTrails hinj ?_)
    intro id r hmem
    rcases List.mem_append.mp hmem with hold | hnew
    · exact htimes.records hrecords id r hold
    · exact htimes'.records hrecords' id r hnew
  · intro tx e he
    unfold attempt
    rw [he]

end Runs

section Prototype

/-- The deployment starts with a fresh log. -/
theorem deploy_freshLog {d : Deployment} {w : World H} (h : deploy d = .ok w) :
    FreshLog w.audit := by
  simp only [deploy,revertIf_bind_eq_ok] at h
  obtain ⟨-,-,h⟩ := h
  obtain ⟨identity,-,h⟩ := ok_bind_iff.mp h
  obtain ⟨roles,-,h⟩ := ok_bind_iff.mp h
  obtain ⟨jobs,-,h⟩ := ok_bind_iff.mp h
  obtain ⟨validators,-,h⟩ := ok_bind_iff.mp h
  obtain ⟨log,hlog,h⟩ := ok_bind_iff.mp h
  simp only [AuditRegistry.deploy,revertIf_bind_eq_ok] at hlog
  obtain ⟨-,hlog⟩ := hlog
  obtain ⟨recorders,-,hlog⟩ := ok_bind_iff.mp hlog
  obtain rfl := ok_pure_iff.mp hlog
  obtain ⟨a₁,-,h⟩ := ok_bind_iff.mp h
  obtain ⟨a₂,-,h⟩ := ok_bind_iff.mp h
  obtain ⟨a₃,-,h⟩ := ok_bind_iff.mp h
  obtain ⟨a₄,-,h⟩ := ok_bind_iff.mp h
  obtain ⟨a₅,-,h⟩ := ok_bind_iff.mp h
  obtain rfl := ok_pure_iff.mp h
  exact ⟨rfl,fun _ => rfl,fun _ => rfl⟩

/-- An asset and a device that share an entity id. -/
def auditTxs : List Tx :=
  [txOf 0xad 2 (.mintAsset (utf8 "PUMP-1") 0xad),
   txOf 0xad 3 (.recordAudit (utf8 "DEVICE") (utf8 "PUMP-1") (utf8 "DEVICE_REGISTER")),
   txOf 0xad 4 (.recordAudit (utf8 "UNKNOWN") (utf8 "PUMP-1") (utf8 "DEVICE_REGISTER")),
   txOf 0xa3 5 (.recordAuditFor 0xad (utf8 "ASSET") (utf8 "MOTOR-1") (utf8 "ASSET_MINT"))]

theorem audit_trails_prototype :
    (getAuditTrail (attemptAll exec prototypeWorld auditTxs).audit (utf8 "PUMP-1")).length = 2 ∧
      ∃ log,AuditTrails log (attemptAll exec prototypeWorld auditTxs).audit ∧
        log.map Prod.snd = recordsOf (history exec prototypeWorld auditTxs) := by
  have htimes : Timed (history exec prototypeWorld auditTxs) := by
    have hall : ∀ tx ∈ auditTxs,0 < tx.env.timestamp ∧ tx.env.timestamp < 2 ^ 64 := by decide
    intro p tx hmem
    exact hall tx (mem_of_mem_history hmem)
  have htrails := audit_trails prototype_keccak_injective prototypeWorld _ _
    (deploy_freshLog deploy_prototype) (Run.attemptAll prototypeWorld auditTxs) htimes
  exact ⟨by decide +kernel,htrails.1 (by decide +kernel)⟩

end Prototype
end BelLedger
