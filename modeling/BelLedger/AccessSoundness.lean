import BelLedger.AssetOwnership

/-!
# Authorisation of every successful call, and permanence of revocation

The required roles are read off the modifiers of the contracts. A wallet that passes them is ACTIVE
and its DID holds one of the roles; a revoked wallet therefore never acts, receives or is assigned
again.
-/
namespace BelLedger
open CheckedCalls TransitionRuns IdentityRegistry

variable {H : Type} [Keccak H]

/-- The DID behind the wallet holds a role of the mask. -/
def DidHolds (w : World H) (wallet : Address) (mask : Mask) : Prop :=
  RoleRegistry.rolesOfIdentity w (identityOf w.identity wallet) &&& mask ≠ 0

/-- The roles that each entry point of the five registries asks of its caller. -/
def Permitted (w : World H) (env : Env) : Call → Prop
  | .wire _ _ _ _ => False
  | .createIdentity _ _ => DidHolds w env.sender BelRoles.CREATE_EMPLOYEE
  | .activateWallet _ => DidHolds w env.sender BelRoles.ACTIVATE_WALLET
  | .revokeWallet _ _ => DidHolds w env.sender BelRoles.REVOKE_WALLET
  | .assignRole _ _ | .revokeRole _ _ => DidHolds w env.sender BelRoles.MANAGE_ROLES
  | .mintAsset _ _ => DidHolds w env.sender BelRoles.REGISTER_ASSET
  | .transferAsset nftId _ =>
    (DidHolds w env.sender BelRoles.ENGINEER ∧
      (w.assets.transferGrants nftId env.sender).active = true ∧
      ((w.assets.transferGrants nftId env.sender).expiresAt = 0 ∨
        env.timestamp < (w.assets.transferGrants nftId env.sender).expiresAt)) ∨
    (¬DidHolds w env.sender BelRoles.ENGINEER ∧ DidHolds w env.sender BelRoles.TRANSFER_ASSET)
  | .setTransferGrant _ _ _ _ _ => DidHolds w env.sender BelRoles.MANAGE_ROLES
  | .changeAssetState _ _ | .attachComponent _ _ | .removeComponent _ _ =>
    DidHolds w env.sender BelRoles.MANAGE_ASSET
  -- the ERC-721 entry points never succeed
  | .approve _ _ | .setApprovalForAll _ _ | .transferFrom _ _ _ | .safeTransferFrom _ _ _ _ => False
  | .createJob _ _ => DidHolds w env.sender BelRoles.CREATE_JOB
  | .assignJob _ _ => DidHolds w env.sender BelRoles.ASSIGN_TECHNICIAN
  | .startJob _ | .completeJob _ _ => DidHolds w env.sender BelRoles.PERFORM_MAINTENANCE
  | .approveJob _ | .rejectJob _ _ => DidHolds w env.sender BelRoles.VERIFY_MAINTENANCE
  | .addValidator _ _ _ _ | .removeValidator _ _ _ | .restoreValidator _ _
  | .cancelScheduledRemoval _ _ => DidHolds w env.sender BelRoles.ADMIN
  | .recordAudit _ _ _ | .recordAuditFor _ _ _ _ => True

/-- The wallet a call makes an asset recipient or a job assignee. -/
def Call.receiver : Call → Option Address
  | .mintAsset _ owner => some owner
  | .transferAsset _ newOwner => some newOwner
  | .assignJob _ technician => some technician
  | _ => none

section Callers
variable {w w' : World H} {env : Env}

theorem rolesOf_active (hi : IdentityInvariant w.identity) {a : Address} (ha : Active w.identity a) :
    RoleRegistry.rolesOf w a = RoleRegistry.rolesOfIdentity w (identityOf w.identity a) := by
  unfold RoleRegistry.rolesOf RoleRegistry.rolesOfIdentity
  rw [hi.keyOf_active ha]

private theorem permitted_of_authorised (hi : IdentityInvariant w.identity) {r : Registry}
    {a : Address} {mask : Mask} (h : Authorised w r a mask) :
    Active w.identity a ∧ DidHolds w a mask := by
  refine ⟨h.active,?_⟩
  unfold DidHolds
  rw [← rolesOf_active hi h.active]
  exact h.roles

private theorem transfer_permitted (hi : IdentityInvariant w.identity) {nftId : ℕ}
    {newOwner : Address} (h : TransferAuthorised w env nftId) :
    Active w.identity env.sender ∧ Permitted w env (.transferAsset nftId newOwner) := by
  rcases h with ⟨hauth,hgrant⟩ | ⟨hnot,hauth⟩
  · obtain ⟨hactive,hrole⟩ := permitted_of_authorised hi hauth
    refine ⟨hactive,.inl ⟨hrole,?_⟩⟩
    simpa [AssetRegistry.hasActiveTransferGrant] using hgrant
  · obtain ⟨hactive,hrole⟩ := permitted_of_authorised hi hauth
    refine ⟨hactive,.inr ⟨?_,hrole⟩⟩
    unfold DidHolds
    rw [← rolesOf_active hi hactive]
    simpa [BelAccess.hasAnyRole] using hnot

variable [DecidableEq H]

/-- A successful call on one of the five registries is made by an ACTIVE wallet with a role. -/
theorem exec_permitted (hd : Deployed w) (hi : IdentityInvariant w.identity) {tx : Tx}
    (hs : exec w tx = .ok w') (htarget : tx.call.target ≠ none) :
    Active w.identity tx.env.sender ∧ Permitted w tx.env tx.call := by
  rcases tx with ⟨env,call⟩
  cases call with
  | wire r a b c => exact absurd hs (exec_wire_ne_ok hd)
  | createIdentity wallet did => exact permitted_of_authorised hi (createIdentity_cases hs).1
  | activateWallet wallet => exact permitted_of_authorised hi (activateWallet_cases hs).1
  | revokeWallet wallet reason => exact permitted_of_authorised hi (revokeWallet_cases hs).1
  | assignRole identity role => exact permitted_of_authorised hi (assignRole_cases hs).1
  | revokeRole identity role => exact permitted_of_authorised hi (revokeRole_cases hs).1
  | mintAsset assetId owner =>
    obtain ⟨⟨nftId,v⟩,hmint,-⟩ := ok_bind_iff.mp hs
    exact permitted_of_authorised hi (mintAsset_cases hmint).1
  | transferAsset nftId newOwner => exact transfer_permitted hi (transferAsset_cases hs).1
  | setTransferGrant nftId actor expiresAt active grantId =>
    exact permitted_of_authorised hi (setTransferGrant_cases hs).1
  | changeAssetState nftId newState => exact permitted_of_authorised hi (changeAssetState_cases hs).1
  | attachComponent parent component => exact permitted_of_authorised hi (attachComponent_cases hs).1
  | removeComponent parent component => exact permitted_of_authorised hi (removeComponent_cases hs).1
  | approve _ _ => cases hs
  | setApprovalForAll _ _ => cases hs
  | transferFrom _ _ _ => cases hs
  | safeTransferFrom _ _ _ _ => cases hs
  | createJob jobId assetNftId => exact permitted_of_authorised hi (createJob_cases hs).1
  | assignJob jobId technician => exact permitted_of_authorised hi (assignJob_cases hs).1
  | startJob jobId => exact permitted_of_authorised hi (startJob_cases hs).1
  | completeJob jobId evidenceHash => exact permitted_of_authorised hi (completeJob_cases hs).1
  | approveJob jobId => exact permitted_of_authorised hi (approveJob_cases hs).1
  | rejectJob jobId reason => exact permitted_of_authorised hi (rejectJob_cases hs).1
  | addValidator validator publicKey signingPublicKey activationHeight =>
    exact permitted_of_authorised hi (addValidator_cases hs).1
  | removeValidator validator removalHeight reason =>
    exact permitted_of_authorised hi (removeValidator_cases reason hs).1
  | restoreValidator validator reason =>
    exact permitted_of_authorised hi (restoreValidator_cases reason hs).1
  | cancelScheduledRemoval validator reason =>
    exact permitted_of_authorised hi (cancelScheduledRemoval_cases reason hs).1
  | recordAudit _ _ _ => exact absurd rfl htarget
  | recordAuditFor _ _ _ _ => exact absurd rfl htarget

/-- Every caller that gets anything done is an ACTIVE wallet or one of the registries. -/
theorem exec_sender (hd : Deployed w) (hi : IdentityInvariant w.identity) {tx : Tx}
    (hs : exec w tx = .ok w') :
    Active w.identity tx.env.sender ∨ ∃ r,tx.env.sender = w.addr.of r := by
  by_cases htarget : tx.call.target = none
  swap
  · exact .inl (exec_permitted hd hi hs htarget).1
  rw [← hd.recorder]
  rcases tx with ⟨env,call⟩
  cases call with
  | recordAudit entityType entityId action =>
    simp only [exec,AuditRegistry.recordAudit,revertIf_bind_eq_ok] at hs
    obtain ⟨hguard,-⟩ := hs
    by_cases hrec : w.audit.isRecorder env.sender = true
    · exact .inr hrec
    · have hadmin : (isActiveWallet w.identity env.sender &&
          RoleRegistry.hasRole w env.sender .ADMIN) = true := by
        by_contra hno
        exact hguard ⟨by simpa using hrec,by simpa using hno⟩
      rw [Bool.and_eq_true,isActiveWallet_iff] at hadmin
      exact .inl hadmin.1
  | recordAuditFor actor entityType entityId action =>
    simp only [exec,AuditRegistry.recordAuditFor,revertIf_bind_eq_ok] at hs
    exact .inr (by simpa using hs.1)
  | _ => simp [Call.target] at htarget

theorem exec_receiver {tx : Tx} (hs : exec w tx = .ok w') {a : Address}
    (ha : tx.call.receiver = some a) : Active w.identity a := by
  rcases tx with ⟨env,call⟩
  cases call with
  | mintAsset assetId owner =>
    obtain rfl : owner = a := Option.some.inj ha
    obtain ⟨⟨nftId,v⟩,hmint,-⟩ := ok_bind_iff.mp hs
    obtain ⟨-,-,-,hactive,-⟩ := mintAsset_cases hmint
    exact hactive
  | transferAsset nftId newOwner =>
    obtain rfl : newOwner = a := Option.some.inj ha
    obtain ⟨-,-,-,-,-,hactive,-⟩ := transferAsset_cases hs
    exact hactive
  | assignJob jobId technician =>
    obtain rfl : technician = a := Option.some.inj ha
    obtain ⟨-,-,-,hactive,-⟩ := assignJob_cases hs
    exact hactive
  | _ => simp [Call.receiver] at ha

/-- The owner of a token changes to the receiver of the call only. -/
theorem exec_owner (hd : Deployed w) {tx : Tx} (hs : exec w tx = .ok w') (n : ℕ) :
    w'.assets.owners n = w.assets.owners n ∨ tx.call.receiver = some (w'.assets.owners n) := by
  have hchange := exec_assetChange hd hs
  generalize w'.assets = assets at hchange ⊢
  cases hchange with
  | mint assetId owner hcall =>
    by_cases hn : n = w.assets.nextId
    · exact .inr (by simp [hcall,Call.receiver,hn])
    · exact .inl (by simp [hn])
  | transfer nftId newOwner hcall =>
    by_cases hn : n = nftId
    · exact .inr (by simp [hcall,Call.receiver,hn])
    · exact .inl (by simp [hn])
  | same => exact .inl rfl
  | grant => exact .inl rfl
  | state => exact .inl rfl
  | attach => exact .inl rfl
  | remove => exact .inl rfl

/-- So does the custodian recorded for it. -/
theorem exec_custodian (hd : Deployed w) {tx : Tx} (hs : exec w tx = .ok w') (n : ℕ) :
    (w'.assets.assets n).custodian = (w.assets.assets n).custodian ∨
      tx.call.receiver = some (w'.assets.assets n).custodian := by
  -- every other update of a record keeps its custodian
  have hupdate : ∀ (t : ℕ) (a : AssetRegistry.AssetRecord),
      a.custodian = (w.assets.assets t).custodian →
      (Function.update w.assets.assets t a n).custodian = (w.assets.assets n).custodian := by
    intro t a ha
    by_cases hn : n = t
    · subst hn
      simpa using ha
    · simp [hn]
  have hchange := exec_assetChange hd hs
  generalize w'.assets = assets at hchange ⊢
  cases hchange with
  | mint assetId owner hcall =>
    by_cases hn : n = w.assets.nextId
    · exact .inr (by simp [hcall,Call.receiver,hn])
    · exact .inl (by simp [hn])
  | transfer nftId newOwner hcall =>
    by_cases hn : n = nftId
    · exact .inr (by simp [hcall,Call.receiver,hn])
    · exact .inl (by simp [hn])
  | same => exact .inl rfl
  | grant => exact .inl rfl
  | state nftId => exact .inl (hupdate nftId _ rfl)
  | attach parent component => exact .inl (hupdate component _ rfl)
  | remove parent component => exact .inl (hupdate component _ rfl)

private theorem JobStep.technician_eq {jobId : Bytes} {j : JobManager.JobRecord H}
    (h : JobStep w w' jobId j) (hj : j.technician = (JobManager.job w jobId).technician)
    (hkey : j.technicianKey = (JobManager.job w jobId).technicianKey) (k : H) :
    (w'.jobs.jobs k).technician = (w.jobs.jobs k).technician ∧
      (w'.jobs.jobs k).technicianKey = (w.jobs.jobs k).technicianKey := by
  obtain ⟨log,rfl,-⟩ := h
  by_cases hk : k = keccak256 jobId
  · subst hk
    simpa [JobManager.setJob,JobManager.job] using ⟨hj,hkey⟩
  · simp [JobManager.setJob,hk]

/-- A transaction keeps a job's technician or names the new one, whose key it stores. -/
theorem exec_technician (hd : Deployed w) {tx : Tx} (hs : exec w tx = .ok w') (k : H) :
    ((w'.jobs.jobs k).technician = (w.jobs.jobs k).technician ∧
      (w'.jobs.jobs k).technicianKey = (w.jobs.jobs k).technicianKey) ∨
    (tx.call.receiver = some (w'.jobs.jobs k).technician ∧
      (w'.jobs.jobs k).technicianKey =
        keccak256 (identityOf w.identity (w'.jobs.jobs k).technician)) := by
  by_cases htarget : tx.call.target = some .jobs
  swap
  · rw [(exec_frame hd hs).jobs htarget]
    exact .inl ⟨rfl,rfl⟩
  rcases tx with ⟨env,call⟩
  cases call with
  | wire r a b c => exact absurd hs (exec_wire_ne_ok hd)
  | createJob jobId assetNftId =>
    obtain ⟨-,-,-,-,hstep⟩ := createJob_cases hs
    exact .inl (hstep.technician_eq rfl rfl k)
  | assignJob jobId technician =>
    obtain ⟨-,-,-,-,-,log,rfl,-⟩ := assignJob_cases hs
    by_cases hk : k = keccak256 jobId
    · exact .inr (by simp [Call.receiver,JobManager.setJob,hk])
    · exact .inl (by simp [JobManager.setJob,hk])
  | startJob jobId =>
    obtain ⟨-,-,-,hstep⟩ := startJob_cases hs
    exact .inl (hstep.technician_eq rfl rfl k)
  | completeJob jobId evidenceHash =>
    obtain ⟨-,-,-,-,hstep⟩ := completeJob_cases hs
    exact .inl (hstep.technician_eq rfl rfl k)
  | approveJob jobId =>
    obtain ⟨-,-,-,hstep⟩ := approveJob_cases hs
    exact .inl (hstep.technician_eq rfl rfl k)
  | rejectJob jobId reason =>
    obtain ⟨-,-,-,-,-,hstep⟩ := rejectJob_cases hs
    exact .inl (hstep.technician_eq rfl rfl k)
  | _ => simp [Call.target] at htarget

end Callers

section Revocation
variable [DecidableEq H] {w w' : World H}

/-- A successful transaction of a state in which `a` is REVOKED is not made by `a`, names it
neither as recipient nor as assignee, and gives it no token and no job. -/
structure Excluded (a : Address) (s : World H) (tx : Tx) : Prop where
  revoked : (s.identity.wallets a).status = .REVOKED
  sender : tx.env.sender ≠ a
  receiver : tx.call.receiver ≠ some a
  owner : ∀ t n,exec s tx = .ok t → t.assets.owners n = a → s.assets.owners n = a
  custodian : ∀ t n,exec s tx = .ok t →
    (t.assets.assets n).custodian = a → (s.assets.assets n).custodian = a
  technician : ∀ t k,exec s tx = .ok t →
    (t.jobs.jobs k).technician = a → (s.jobs.jobs k).technician = a

private theorem excluded_of_revoked (hd : Deployed w) (hi : IdentityInvariant w.identity) {tx : Tx}
    (hs : exec w tx = .ok w') {a : Address} (ha : (w.identity.wallets a).status = .REVOKED)
    (hnot : ∀ r,a ≠ w.addr.of r) : Excluded a w tx := by
  have hinactive : ¬Active w.identity a := by
    intro hactive
    rw [show (w.identity.wallets a).status = .ACTIVE from hactive] at ha
    cases ha
  have hreceiver : tx.call.receiver ≠ some a := fun he => hinactive (exec_receiver hs he)
  refine ⟨ha,?_,hreceiver,?_,?_,?_⟩
  · rintro rfl
    rcases exec_sender hd hi hs with hactive | ⟨r,hr⟩
    · exact hinactive hactive
    · exact hnot r hr
  · rintro t n ht rfl
    exact ((exec_owner hd ht n).resolve_right hreceiver).symm
  · rintro t n ht rfl
    exact ((exec_custodian hd ht n).resolve_right hreceiver).symm
  · rintro t k ht rfl
    exact ((exec_technician hd ht k).resolve_right (fun hnew => hreceiver hnew.1)).1.symm

/-- Along a run from a state in which `a` is REVOKED, `a` is excluded from every step. -/
private theorem run_excluded {start : World H} {later : List (World H × Tx)} {a : Address}
    (hd : Deployed start) (hi : IdentityInvariant start.identity)
    (ha : (start.identity.wallets a).status = .REVOKED) (hnot : ∀ r,a ≠ start.addr.of r)
    (h : Run exec start later w) :
    (w.identity.wallets a).status = .REVOKED ∧ ∀ s tx,(s,tx) ∈ later → Excluded a s tx := by
  have hinv := h.history_invariant (P := fun later w =>
    Deployed w ∧ IdentityInvariant w.identity ∧ w.addr = start.addr ∧
      (w.identity.wallets a).status = .REVOKED ∧ ∀ s tx,(s,tx) ∈ later → Excluded a s tx)
    ⟨hd,hi,rfl,ha,by simp⟩ ?_
  · exact hinv.2.2.2
  intro later s tx t _ ⟨hd,hi,haddr,ha,hlater⟩ hs
  have hframe := exec_frame hd hs
  have hstep := exec_identityStep hd hs
  refine ⟨hframe.deployed hd,hstep.invariant hi,hframe.addr.trans haddr,hstep.stays_revoked ha,?_⟩
  intro s' tx' hmem
  rcases List.mem_cons.mp hmem with heq | hmem
  · obtain ⟨rfl,rfl⟩ := Prod.mk.inj heq
    exact excluded_of_revoked hd hi hs ha (haddr ▸ hnot)
  · exact hlater s' tx' hmem

theorem run_addr {start : World H} {later : List (World H × Tx)} (hd : Deployed start)
    (h : Run exec start later w) : w.addr = start.addr := by
  refine (h.invariant (P := fun w => Deployed w ∧ w.addr = start.addr) ?_ ⟨hd,rfl⟩).2
  rintro s tx t ⟨hd,haddr⟩ hs
  have hframe := exec_frame hd hs
  exact ⟨hframe.deployed hd,hframe.addr.trans haddr⟩

/-- Who may act, and who may never act again, in a run with the given history. -/
structure AccessSound (hist : List (World H × Tx)) (w : World H) : Prop where
  authorised : ∀ s tx,(s,tx) ∈ hist → tx.call.target ≠ none →
    Active s.identity tx.env.sender ∧ Permitted s tx.env tx.call
  revoked : ∀ later s tx earlier a reason,hist = later++(s,tx)::earlier →
    tx.call = .revokeWallet a reason → (∀ r,a ≠ w.addr.of r) →
    (w.identity.wallets a).status = .REVOKED ∧ ∀ s' tx',(s',tx') ∈ later → Excluded a s' tx'

/-- Every successful call is authorised when it is made, and a revoked wallet is out for good. -/
theorem access_sound (hist : List (World H × Tx)) (w : World H) (h : ReachedBy hist w) :
    AccessSound hist w := by
  refine ⟨?_,?_⟩
  · intro s tx hmem htarget
    obtain ⟨later,earlier,rfl⟩ := List.append_of_mem hmem
    obtain ⟨t,hearlier,hs,-⟩ := h.split
    have hreach : Reachable s := ⟨earlier,hearlier⟩
    exact exec_permitted hreach.deployed hreach.identity hs htarget
  · rintro later s ⟨env,call⟩ earlier a reason rfl hcall hnot
    obtain rfl : call = .revokeWallet a reason := hcall
    obtain ⟨t,hearlier,hs,hlater⟩ := h.split
    have hreach : Reachable t := Reachable.step ⟨earlier,hearlier⟩ hs
    have hrevoked : (t.identity.wallets a).status = .REVOKED := by
      obtain ⟨-,-,-,-,log,rfl,-⟩ := revokeWallet_cases hs
      simp [setWallet]
    rw [run_addr hreach.deployed hlater] at hnot
    exact run_excluded hreach.deployed hreach.identity hrevoked hnot hlater

/-- A revoked engineer keeps trying. -/
def revocationTxs : List Tx :=
  [txOf 0xad 2 (.createIdentity 0xe1 (utf8 "DID:BEL:ENG")),
   txOf 0xad 3 (.activateWallet 0xe1),
   txOf 0xad 4 (.assignRole 0xe1 .ENGINEER),
   txOf 0xe1 5 (.mintAsset (utf8 "RADAR-1") 0xe1),
   txOf 0xad 6 (.revokeWallet 0xe1 (utf8 "left")),
   txOf 0xe1 7 (.createJob (utf8 "JOB-1") 1),
   txOf 0xad 8 (.mintAsset (utf8 "RADAR-2") 0xe1),
   txOf 0xad 9 (.mintAsset (utf8 "RADAR-3") 0xad)]

theorem access_sound_revocation :
    (history exec prototypeWorld revocationTxs).length = 6 ∧
      AccessSound (history exec prototypeWorld revocationTxs)
        (attemptAll exec prototypeWorld revocationTxs) :=
  ⟨by decide +kernel,access_sound _ _ (prototype_reachedBy revocationTxs)⟩

end Revocation
end BelLedger
