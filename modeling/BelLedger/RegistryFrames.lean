import BelLedger.RegistrySet

/-!
# What a transaction on the set leaves alone

After deployment every contract is wired and recorded by the audit registry. A successful
transaction then changes the storage of the contract it is sent to and the audit log, and nothing
else.
-/
namespace BelLedger
open CheckedCalls TransitionRuns

variable {H : Type} [Keccak H] [DecidableEq H]

/-- The registry that defines an entry point; `none` for the audit registry. -/
def Call.target : Call → Option Registry
  | .wire target _ _ _ => some target
  | .createIdentity _ _ | .activateWallet _ | .revokeWallet _ _ => some .identity
  | .assignRole _ _ | .revokeRole _ _ => some .roles
  | .mintAsset _ _ | .transferAsset _ _ | .setTransferGrant _ _ _ _ _ | .changeAssetState _ _
  | .attachComponent _ _ | .removeComponent _ _ | .approve _ _ | .setApprovalForAll _ _
  | .transferFrom _ _ _ | .safeTransferFrom _ _ _ _ => some .assets
  | .createJob _ _ | .assignJob _ _ | .startJob _ | .completeJob _ _ | .approveJob _
  | .rejectJob _ _ => some .jobs
  | .addValidator _ _ _ _ | .removeValidator _ _ _ | .restoreValidator _ _
  | .cancelScheduledRemoval _ _ => some .validators
  | .recordAudit _ _ _ | .recordAuditFor _ _ _ _ => none

/-- The set as the deployment script leaves it. -/
structure Deployed (w : World H) : Prop where
  wired : ∀ r,(w.access r).wired = true
  identityRegistry : ∀ r,(w.access r).identityRegistry = w.addr.identity
  roleRegistry : ∀ r,(w.access r).roleRegistry = w.addr.roles
  auditRegistry : ∀ r,(w.access r).auditRegistry = w.addr.audit
  recorder : ∀ a,w.audit.isRecorder a = true ↔ ∃ r,a = w.addr.of r

/-- Everything outside `target` and the audit log is unchanged. -/
structure Frame (target : Option Registry) (w w' : World H) : Prop where
  addr : w'.addr = w.addr
  access : ∀ r,w'.access r = w.access r
  recorders : w'.audit.isRecorder = w.audit.isRecorder
  identity : target ≠ some .identity → w'.identity = w.identity
  roles : target ≠ some .roles → w'.roles = w.roles
  assets : target ≠ some .assets → w'.assets = w.assets
  jobs : target ≠ some .jobs → w'.jobs = w.jobs
  validators : target ≠ some .validators → w'.validators = w.validators

omit [Keccak H] [DecidableEq H] in
theorem Frame.deployed {target : Option Registry} {w w' : World H} (h : Frame target w w')
    (hd : Deployed w) : Deployed w' := by
  refine ⟨?_,?_,?_,?_,?_⟩
  · intro r
    rw [h.access]
    exact hd.wired r
  · intro r
    rw [h.access,h.addr]
    exact hd.identityRegistry r
  · intro r
    rw [h.access,h.addr]
    exact hd.roleRegistry r
  · intro r
    rw [h.access,h.addr]
    exact hd.auditRegistry r
  · intro a
    rw [h.recorders,h.addr]
    exact hd.recorder a

/-- A wired contract refuses to be wired again. -/
theorem exec_wire_ne_ok {w w' : World H} (hd : Deployed w) {env : Env} {r : Registry}
    {identity_ roles_ audit_ : Address} :
    exec w ⟨env,.wire r identity_ roles_ audit_⟩ ≠ .ok w' := by
  intro h
  obtain ⟨access,hwire,-⟩ := ok_bind_iff.mp h
  simp only [BelAccess.wire,revertIf_bind_eq_ok] at hwire
  exact hwire.2.1 (hd.wired r)

section Steps
variable {w w' : World H}

omit [Keccak H] [DecidableEq H]

private theorem frame_audit {log : AuditRegistry.Storage H}
    (hlog : log.isRecorder = w.audit.isRecorder) (target : Option Registry) :
    Frame target w { w with audit := log } :=
  ⟨rfl,fun r => by cases r <;> rfl,hlog,fun _ => rfl,fun _ => rfl,fun _ => rfl,fun _ => rfl,
    fun _ => rfl⟩

private theorem frame_identity {s : IdentityRegistry.Storage H} {log : AuditRegistry.Storage H}
    (hs : s.access = w.identity.access) (hlog : log.isRecorder = w.audit.isRecorder) :
    Frame (some .identity) w { w with identity := s, audit := log } := by
  refine ⟨rfl,?_,hlog,fun hne => absurd rfl hne,fun _ => rfl,fun _ => rfl,fun _ => rfl,fun _ => rfl⟩
  intro r
  cases r with
  | identity => exact hs
  | _ => rfl

private theorem frame_roles {s : RoleRegistry.Storage H} {log : AuditRegistry.Storage H}
    (hs : s.access = w.roles.access) (hlog : log.isRecorder = w.audit.isRecorder) :
    Frame (some .roles) w { w with roles := s, audit := log } := by
  refine ⟨rfl,?_,hlog,fun _ => rfl,fun hne => absurd rfl hne,fun _ => rfl,fun _ => rfl,fun _ => rfl⟩
  intro r
  cases r with
  | roles => exact hs
  | _ => rfl

private theorem frame_assets {s : AssetRegistry.Storage H} (h : AssetStep w w' s)
    (hs : s.access = w.assets.access) : Frame (some .assets) w w' := by
  obtain ⟨log,rfl,hlog⟩ := h
  refine ⟨rfl,?_,hlog,fun _ => rfl,fun _ => rfl,fun hne => absurd rfl hne,fun _ => rfl,fun _ => rfl⟩
  intro r
  cases r with
  | assets => exact hs
  | _ => rfl

private theorem frame_validators {s : ValidatorRegistry.Storage} (h : ValidatorStep w w' s)
    (hs : s.access = w.validators.access) : Frame (some .validators) w w' := by
  obtain ⟨log,rfl,hlog⟩ := h
  refine ⟨rfl,?_,hlog,fun _ => rfl,fun _ => rfl,fun _ => rfl,fun _ => rfl,fun hne => absurd rfl hne⟩
  intro r
  cases r with
  | validators => exact hs
  | _ => rfl

variable [Keccak H] [DecidableEq H]

private theorem frame_jobs {jobId : Bytes} {j : JobManager.JobRecord H} (h : JobStep w w' jobId j) :
    Frame (some .jobs) w w' := by
  obtain ⟨log,rfl,hlog⟩ := h
  refine ⟨rfl,?_,hlog,fun _ => rfl,fun _ => rfl,fun _ => rfl,fun hne => absurd rfl hne,fun _ => rfl⟩
  intro r
  cases r <;> rfl

/-- A successful transaction on a deployed set touches its target and the audit log only. -/
theorem exec_frame (hd : Deployed w) {tx : Tx} (h : exec w tx = .ok w') :
    Frame tx.call.target w w' := by
  rcases tx with ⟨env,call⟩
  cases call with
  | wire r a b c => exact absurd h (exec_wire_ne_ok hd)
  | createIdentity wallet did =>
    obtain ⟨-,-,-,-,log,rfl,hlog⟩ := createIdentity_cases h
    exact frame_identity rfl hlog
  | activateWallet wallet =>
    obtain ⟨-,-,log,rfl,hlog⟩ := activateWallet_cases h
    exact frame_identity rfl hlog
  | revokeWallet wallet reason =>
    obtain ⟨-,-,-,-,log,rfl,hlog⟩ := revokeWallet_cases h
    exact frame_identity rfl hlog
  | assignRole identity role =>
    obtain ⟨-,-,-,log,rfl,hlog⟩ := assignRole_cases h
    exact frame_roles rfl hlog
  | revokeRole identity role =>
    obtain ⟨-,-,-,-,log,rfl,hlog⟩ := revokeRole_cases h
    exact frame_roles rfl hlog
  | mintAsset assetId owner =>
    obtain ⟨⟨nftId,v⟩,hmint,hv⟩ := ok_bind_iff.mp h
    obtain rfl := ok_pure_iff.mp hv
    obtain ⟨-,-,-,-,-,-,-,-,hstep⟩ := mintAsset_cases hmint
    exact frame_assets hstep rfl
  | transferAsset nftId newOwner =>
    obtain ⟨-,-,-,-,-,-,-,-,hstep⟩ := transferAsset_cases h
    exact frame_assets hstep rfl
  | setTransferGrant nftId actor expiresAt active grantId =>
    obtain ⟨-,-,-,hstep⟩ := setTransferGrant_cases h
    exact frame_assets hstep rfl
  | changeAssetState nftId newState =>
    obtain ⟨-,-,-,target,-,-,hstep⟩ := changeAssetState_cases h
    exact frame_assets hstep rfl
  | attachComponent parent component =>
    obtain ⟨-,-,-,-,-,-,-,-,hstep⟩ := attachComponent_cases h
    exact frame_assets hstep rfl
  | removeComponent parent component =>
    obtain ⟨-,-,-,-,last,-,hstep⟩ := removeComponent_cases h
    exact frame_assets hstep rfl
  | approve _ _ => cases h
  | setApprovalForAll _ _ => cases h
  | transferFrom _ _ _ => cases h
  | safeTransferFrom _ _ _ _ => cases h
  | createJob jobId assetNftId =>
    obtain ⟨-,-,-,-,hstep⟩ := createJob_cases h
    exact frame_jobs hstep
  | assignJob jobId technician =>
    obtain ⟨-,-,-,-,-,hstep⟩ := assignJob_cases h
    exact frame_jobs hstep
  | startJob jobId =>
    obtain ⟨-,-,-,hstep⟩ := startJob_cases h
    exact frame_jobs hstep
  | completeJob jobId evidenceHash =>
    obtain ⟨-,-,-,-,hstep⟩ := completeJob_cases h
    exact frame_jobs hstep
  | approveJob jobId =>
    obtain ⟨-,-,-,hstep⟩ := approveJob_cases h
    exact frame_jobs hstep
  | rejectJob jobId reason =>
    obtain ⟨-,-,-,-,-,hstep⟩ := rejectJob_cases h
    exact frame_jobs hstep
  | addValidator validator publicKey signingPublicKey activationHeight =>
    obtain ⟨-,-,-,-,-,hstep⟩ := addValidator_cases h
    exact frame_validators hstep rfl
  | removeValidator validator removalHeight reason =>
    obtain ⟨-,-,-,-,-,-,hstep⟩ := removeValidator_cases reason h
    exact frame_validators hstep rfl
  | restoreValidator validator reason =>
    obtain ⟨-,-,-,-,hstep⟩ := restoreValidator_cases reason h
    exact frame_validators hstep rfl
  | cancelScheduledRemoval validator reason =>
    obtain ⟨-,-,-,hstep⟩ := cancelScheduledRemoval_cases reason h
    exact frame_validators hstep rfl
  | recordAudit entityType entityId action =>
    obtain ⟨log,rfl,hlog⟩ := recordAudit_frame h
    exact frame_audit hlog none
  | recordAuditFor actor entityType entityId action =>
    obtain ⟨log,rfl,hlog⟩ := recordAuditFor_frame h
    exact frame_audit hlog none

end Steps
end BelLedger
