import BelLedger.AuditTrails

/-!
# Completeness of the audit log

Every protected operation that succeeds has made one record, attributed to its registry and its caller;
the log holds no other record of a registry.
-/
namespace BelLedger
open CheckedCalls TransitionRuns AuditRegistry

variable {H : Type} [Keccak H] [DecidableEq H]

/-- The role-protected entry points of the five registries. -/
def Call.isProtected : Call → Bool
  | .wire _ _ _ _ | .approve _ _ | .setApprovalForAll _ _ | .transferFrom _ _ _
  | .safeTransferFrom _ _ _ _ | .recordAudit _ _ _ | .recordAuditFor _ _ _ _ => false
  | _ => true

/-- The address of one of the five registries. -/
def Addresses.isRegistry (addr : Addresses) (a : Address) : Bool :=
  [.identity,.roles,.assets,.jobs,.validators].any (fun r => decide (addr.of r = a))

theorem Addresses.isRegistry_iff {addr : Addresses} {a : Address} :
    addr.isRegistry a = true ↔ ∃ r,addr.of r = a := by
  simp only [isRegistry,List.any_eq_true,decide_eq_true_eq]
  constructor
  · rintro ⟨r,-,hr⟩
    exact ⟨r,hr⟩
  · rintro ⟨r,hr⟩
    exact ⟨r,by cases r <;> simp,hr⟩

/-- The record is that of the entry, made by its registry for the sender of the transaction. -/
structure Attributed (w : World H) (tx : Tx) (entry : AuditEntry) (r : AuditRecord) : Prop where
  recorder : r.recorder = w.addr.of entry.registry
  actor : r.actor = tx.env.sender
  entityType : r.entityType = entry.entityType
  entityId : r.entityId = entry.entityId
  action : r.action = entry.action

/-- A grant whose id the audit registry does not accept. -/
def BadGrant (call : Call) : Prop :=
  ∃ nftId actor expiresAt active grantId,
    call = .setTransferGrant nftId actor expiresAt active grantId ∧ ¬Recordable grantId

/-- What every protected operation does to the audit log in one state. -/
structure AuditComplete (w : World H) : Prop where
  entry : ∀ call : Call,call.isProtected = true → ∃ entry,call.entry w = some entry
  recorded : ∀ tx entry w',tx.call.entry w = some entry → exec w tx = .ok w' →
    ∃ id r,w'.audit = appended w.audit id r ∧ Attributed w tx entry r
  reverted : ∀ tx e,exec w tx = .error e → (attempt exec w tx).audit = w.audit
  own_error : ∀ tx e,tx.call.isProtected = true → exec w tx = .error e → e.isAudit = true →
    BadGrant tx.call
  bad_grant : ∀ tx w',BadGrant tx.call → exec w tx ≠ .ok w'

section Operations
variable {w w' : World H} {tx : Tx}

omit [Keccak H] [DecidableEq H] in
theorem Call.entry_of_isProtected {call : Call} (h : call.isProtected = true) :
    ∃ entry,call.entry w = some entry := by
  cases call with
  | wire _ _ _ _ => cases h
  | approve _ _ => cases h
  | setApprovalForAll _ _ => cases h
  | transferFrom _ _ _ => cases h
  | safeTransferFrom _ _ _ _ => cases h
  | recordAudit _ _ _ => cases h
  | recordAuditFor _ _ _ _ => cases h
  | _ => exact ⟨_,rfl⟩

/-- A grant whose id is not recordable is refused by the audit registry at the latest. -/
private theorem badGrant_fails (h : BadGrant tx.call) : exec w tx ≠ .ok w' := by
  intro hs
  obtain ⟨nftId,actor,expiresAt,active,grantId,hcall,hbad⟩ := h
  have hentry : tx.call.entry w = some ⟨.assets,utf8 "GRANT",grantId,
      if active then utf8 "GRANT_CREATE" else utf8 "GRANT_REVOKE"⟩ := by
    rw [hcall]
    rfl
  exact hbad ((exec_audited hentry).recordable hs)

theorem Reachable.auditComplete (hinj : Function.Injective (keccak256 : Bytes → H))
    (hw : Reachable w) : AuditComplete w := by
  refine ⟨fun call => Call.entry_of_isProtected,?_,?_,?_,fun tx w' => badGrant_fails⟩
  · intro tx entry w' hentry hs
    exact ⟨_,_,(exec_audited hentry).logged hs,rfl,rfl,rfl,rfl,rfl⟩
  · intro tx e he
    rw [TransitionRuns.attempt,he]
  · intro tx e hprotected he haudit
    obtain ⟨entry,hentry⟩ := Call.entry_of_isProtected (w := w) hprotected
    by_contra hgood
    have hown := (exec_ownError hinj hw hentry ?_).error e he
    · rw [OwnError,haudit] at hown
      cases hown
    · intro nftId actor expiresAt active grantId hcall
      by_contra hbad
      exact hgood ⟨nftId,actor,expiresAt,active,grantId,hcall,hbad⟩

end Operations

section Counting
variable {w w' : World H} {hist : List (World H × Tx)}

/-- The contracts stay where they were deployed. -/
private theorem ReachedBy.addr_eq (h : ReachedBy hist w) :
    ∀ p tx,(p,tx) ∈ hist → p.addr = w.addr := by
  refine h.history_invariant (I := fun hist w => ∀ p tx,(p,tx) ∈ hist → p.addr = w.addr)
    (fun _ _ _ _ _ hmem => absurd hmem List.not_mem_nil) ?_
  intro hist w tx w' _ hd ih hs p tx' hmem
  have hframe := (exec_frame hd hs).addr
  rcases List.mem_cons.mp hmem with heq | hmem
  · obtain ⟨rfl,rfl⟩ := Prod.mk.inj heq
    exact hframe.symm
  · rw [hframe]
    exact ih p tx' hmem

omit [Keccak H] [DecidableEq H] in
/-- Only protected calls leave a record of a registry. -/
private theorem record_isRegistry {tx : Tx}
    (hdirect : tx.call.target = none → ∀ r,w.addr.of r ≠ tx.env.sender) :
    ((tx.record w).map (fun r => w.addr.isRegistry r.recorder)).getD false =
      tx.call.isProtected := by
  cases hprotected : tx.call.isProtected with
  | true =>
    obtain ⟨entry,hentry⟩ := Call.entry_of_isProtected (w := w) hprotected
    have hrecord : tx.record w = some (entry.record w tx.env) := by
      rw [Tx.record,hentry]
    rw [hrecord]
    exact Addresses.isRegistry_iff.mpr ⟨entry.registry,rfl⟩
  | false =>
    rcases tx with ⟨env,call⟩
    have hsender : call.target = none → w.addr.isRegistry env.sender = false := by
      intro htarget
      rw [Bool.eq_false_iff]
      intro hregistry
      obtain ⟨r,hr⟩ := Addresses.isRegistry_iff.mp hregistry
      exact hdirect htarget r hr
    cases call with
    | recordAudit entityType entityId action => exact hsender rfl
    | recordAuditFor actor entityType entityId action => exact hsender rfl
    | wire _ _ _ _ => rfl
    | approve _ _ => rfl
    | setApprovalForAll _ _ => rfl
    | transferFrom _ _ _ => rfl
    | safeTransferFrom _ _ _ _ => rfl
    | _ => cases hprotected

/-- In every reachable state a protected operation leaves one attributed record or reverts with an
error of its own, but for grants with an unusable id; so the log holds as many records of registries
as there were successful protected calls. -/
theorem audit_complete (hinj : Function.Injective (keccak256 : Bytes → H))
    (hist : List (World H × Tx)) (w : World H) (h : ReachedBy hist w)
    (hdirect : ∀ p tx,(p,tx) ∈ hist → tx.call.target = none → ∀ r,p.addr.of r ≠ tx.env.sender) :
    AuditComplete w ∧
    (w.audit.recordCount < 2 ^ 256 → ∃ log,Holds log w.audit ∧
      log.countP (fun entry => w.addr.isRegistry entry.2.recorder) =
        hist.countP (fun entry => entry.2.call.isProtected)) := by
  have haddr := h.addr_eq
  refine ⟨Reachable.auditComplete hinj ⟨hist,h⟩,?_⟩
  intro hcount
  obtain ⟨d,w₀,hdeploy,hrun⟩ := h
  obtain ⟨log,hholds,hrecords⟩ := Run.log_of_fresh hinj (deploy_freshLog hdeploy) hrun hcount
  refine ⟨log,hholds,?_⟩
  have hmap : log.countP (fun entry => w.addr.isRegistry entry.2.recorder) =
      (log.map Prod.snd).countP (fun r => w.addr.isRegistry r.recorder) := by
    rw [List.countP_map]
    rfl
  rw [hmap,hrecords,recordsOf,List.countP_filterMap,List.countP_reverse]
  apply List.countP_congr
  rintro ⟨p,tx⟩ hmem
  rw [← haddr p tx hmem,record_isRegistry (hdirect p tx hmem)]

end Counting

section Prototype

/-- Protected calls, a direct record of an administrator, and a grant without an id. -/
def completenessTxs : List Tx :=
  [txOf 0xad 2 (.mintAsset (utf8 "PUMP-1") 0xad),
   txOf 0xad 3 (.recordAudit (utf8 "DEVICE") (utf8 "PUMP-1") (utf8 "DEVICE_REGISTER")),
   txOf 0xad 4 (.setTransferGrant 1 0xad 0 true []),
   txOf 0xad 5 (.setTransferGrant 1 0xad 0 true (utf8 "GRANT-1"))]

theorem audit_complete_prototype :
    (history exec prototypeWorld completenessTxs).countP (fun entry => entry.2.call.isProtected) = 2 ∧
      AuditComplete (attemptAll exec prototypeWorld completenessTxs) ∧
      ∃ log,Holds log (attemptAll exec prototypeWorld completenessTxs).audit ∧
        log.countP (fun entry => (attemptAll exec prototypeWorld completenessTxs).addr.isRegistry
          entry.2.recorder) =
        (history exec prototypeWorld completenessTxs).countP
          (fun entry => entry.2.call.isProtected) := by
  have hall := audit_complete prototype_keccak_injective _ _
    (prototype_reachedBy completenessTxs) ?_
  · exact ⟨by decide +kernel,hall.1,hall.2 (by decide +kernel)⟩
  · intro p tx hmem
    have haddr := (prototype_reachedBy completenessTxs).addr_eq p tx hmem
    have hfixed : (attemptAll exec prototypeWorld completenessTxs).addr = prototype.addr := by
      decide +kernel
    have hsenders : ∀ tx ∈ completenessTxs,∀ r ∈ [Registry.identity,.roles,.assets,.jobs,.validators],
        prototype.addr.of r ≠ tx.env.sender := by decide
    intro _ r
    rw [haddr,hfixed]
    exact hsenders tx (mem_of_mem_history hmem) r (by cases r <;> simp)

end Prototype
end BelLedger
