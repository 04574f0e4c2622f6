import BelLedger.AssetReads
import BelLedger.JobRecords
import BelLedger.JobRefinement

/-!
# Jobs as the adapter reads them

`EvmBlockchainAdapter.getJob` puts a job together from JobManager, AssetRegistry and
IdentityRegistry. What it gives is the row that JobsServiceImpl has stored.
-/
namespace BelLedger
open CheckedCalls TransitionRuns KeyedTables JobsService AssetRegistry

/-- What is kept of a job off chain. -/
structure JobMetadata where
  priority : Option JobPriority
  verifierId : Option String

/-- `getAddress`, `new Date(s * 1000).toISOString()`, and the metadata provider. -/
structure JobReadContext where
  checksum : Address → String
  dateText : ℕ → String
  metadata : String → Option JobMetadata

/-- A job as it is read: a status that is not in the table, or a date of second zero, is missing. -/
structure JobRead where
  jobId : String
  assetId : String
  createdBy : String
  assignedTo : String
  verifierId : Option String
  status : Option JobStatus
  priority : JobPriority
  createdAt : Option String
  completedAt : Option String
  deriving DecidableEq

namespace EvmAdapter

def JOB_STATUS : ChainJobStatus → Option JobStatus
  | .NONE => none
  | .CREATED => some .CREATED
  | .ASSIGNED => some .ASSIGNED
  | .IN_PROGRESS => some .IN_PROGRESS
  | .COMPLETED => some .COMPLETED
  | .VERIFIED => some .VERIFIED
  | .REJECTED => some .REJECTED

theorem JOB_STATUS_onChain (status : JobStatus) : JOB_STATUS status.onChain = some status := by
  cases status <;> rfl

def iso (ctx : JobReadContext) (seconds : ℕ) : Option String :=
  if 0 < seconds then some (ctx.dateText seconds) else none

variable {H : Type} [Keccak H]

/-- The DID behind an address, unless it is the zero address. -/
def partyOf (ctx : JobReadContext) (w : World H) (address : Address) :
    Except ServiceError (Option String) :=
  if address = 0 then .ok none
  else do
    let text ← identityOrAddress ctx.checksum w address
    pure (some text)

variable [DecidableEq H]

def getJob (ctx : JobReadContext) (w : World H) (id : String) : Except ServiceError (Option JobRead) :=
  let j := JobManager.job w (utf8 id)
  if j.status = .NONE then .ok none
  else do
    let asset ← read (AssetRegistry.existing w.assets j.assetNftId)
    let createdBy ← identityOrAddress ctx.checksum w j.createdBy
    let assignedTo ← partyOf ctx w j.technician
    let verifierId ← partyOf ctx w j.verifier
    let assetId ← decoded asset.assetId
    let meta' := (ctx.metadata id).getD ⟨none,none⟩
    pure (some
      { jobId := id, assetId, createdBy, assignedTo := assignedTo.getD "",
        verifierId := verifierId.or meta'.verifierId, status := JOB_STATUS j.status,
        priority := meta'.priority.getD .MEDIUM, createdAt := iso ctx j.createdAt,
        completedAt := iso ctx j.completedAt })

end EvmAdapter

variable {H : Type} [Keccak H] [DecidableEq H]

/-- The wallet is registered under the DID of this name. -/
def NamedBy (w : World H) (a : Address) (did : String) : Prop :=
  (w.identity.wallets a).status ≠ .NONE ∧ IdentityRegistry.identityOf w.identity a = utf8 did

instance (w : World H) (a : Address) (did : String) : Decidable (NamedBy w a did) :=
  inferInstanceAs (Decidable (_ ∧ _))

/-- The actor's wallet is a wallet of the actor. -/
def JobActor.OwnsWallet (P : Platform) (w : World H) (actor : JobActor) : Prop :=
  match P.parseAddress actor.walletAddress with
  | none => False
  | some a => NamedBy w a actor.identityId

instance (P : Platform) (w : World H) (actor : JobActor) : Decidable (actor.OwnsWallet P w) := by
  unfold JobActor.OwnsWallet
  split <;> infer_instance

/-- A new job names this person as its creator. -/
def JobAction.NamesCreator (did : String) : JobAction → Prop
  | .create input => input.createdBy = some did
  | .change _ _ => True

instance (did : String) (action : JobAction) : Decidable (action.NamesCreator did) := by
  cases action with
  | create input => exact inferInstanceAs (Decidable (input.createdBy = some did))
  | change id c => exact isTrue trivial

/-- As the routes make requests: in the name of the signed-in user, with the user's wallet. -/
def JobEvent.Personal (P : Platform) (s : JobSystem H) : JobEvent → Prop
  | .external _ => True
  | .request q => q.actor.OwnsWallet P s.chain ∧ q.action.NamesCreator q.actor.identityId

instance (P : Platform) (s : JobSystem H) (e : JobEvent) : Decidable (e.Personal P s) := by
  cases e with
  | external tx => exact isTrue trivial
  | request q => exact instDecidableAnd

section Kept
variable {w w' u : World H} {a : Address} {did : String}

omit [Keccak H] [DecidableEq H] in
theorem NamedBy.kept (h : NamedBy w a did) (hkeeps : KeepsNames w w') : NamedBy w' a did := by
  obtain ⟨hregistered,hdid⟩ := hkeeps.wallets a h.1
  exact ⟨hregistered,hdid.trans h.2⟩

end Kept

/-- The job on chain names the asset and the people that the row names. -/
structure JobNames (w : World H) (row : Job) : Prop where
  asset : NamesAsset w (JobManager.job w (utf8 row.jobId)).assetNftId (jsTrim row.assetId)
  creator : NamedBy w (JobManager.job w (utf8 row.jobId)).createdBy row.createdBy
  verifier : (JobManager.job w (utf8 row.jobId)).verifier = 0 ∨
    NamedBy w (JobManager.job w (utf8 row.jobId)).verifier (row.verifierId.getD "")
  unassigned : row.status = .CREATED → row.assignedTo = ""

section Steps
variable {P : Platform} {w w' u : World H} {row old : Job}

omit [DecidableEq H] in
theorem JobNames.kept (h : JobNames w row) (hkeeps : KeepsNames w w')
    (hjob : JobManager.job w' (utf8 row.jobId) = JobManager.job w (utf8 row.jobId)) :
    JobNames w' row := by
  refine ⟨?_,?_,?_,h.unassigned⟩
  · rw [hjob]
    exact hkeeps.names h.asset
  · rw [hjob]
    exact h.creator.kept hkeeps
  · rw [hjob]
    exact h.verifier.imp id (fun hv => hv.kept hkeeps)

/-- Nobody has decided about a job that is not there. -/
private theorem absent_verifier (hinj : Function.Injective (keccak256 : Bytes → H)) (hw : Reachable w)
    (jobId : Bytes) (habsent : (JobManager.job w jobId).status = .NONE) :
    (JobManager.job w jobId).verifier = 0 := by
  obtain ⟨hist,h⟩ := hw
  refine h.history_invariant (I := fun _ w => (JobManager.job w jobId).status = .NONE →
    (JobManager.job w jobId).verifier = 0) ?_ ?_ habsent
  · intro d w hgenesis
    unfold JobManager.job
    rw [hgenesis.jobs]
    exact fun _ => rfl
  · rintro hist w ⟨env,call⟩ w' hreached hd ih hs hnone
    have hchange : JobRecordChange env jobId (JobManager.job w jobId) call (JobManager.job w' jobId) :=
      exec_jobRecordChange hinj hd (Reachable.identity ⟨hist,hreached⟩) hs jobId
    generalize JobManager.job w' jobId = r' at hchange hnone
    cases hchange with
    | other => exact ih hnone
    | create | assign | start | complete | approve | reject => cases hnone

omit [DecidableEq H] in
/-- The row is of a new job: the token is the one with the asset id that is asked for. -/
private theorem prepare_create_asset {wallet id assetId : String} {d : Delivery} {tx : Tx}
    (h : EvmAdapter.prepare P w
      ⟨.JOB_CREATE,wallet,[("jobId",.string id),("assetId",.string assetId)]⟩ d = .ok tx) :
    nftIdOf w.assets (utf8 (jsTrim assetId)) ≠ 0 ∧
      tx.call = .createJob (utf8 (jsTrim id)) (nftIdOf w.assets (utf8 (jsTrim assetId))) := by
  have hbuild := EvmAdapter.prepare_call h
  obtain ⟨v,hstr,hbuild⟩ := ok_bind_iff.mp hbuild
  obtain ⟨nftId,hnft,hbuild⟩ := ok_bind_iff.mp hbuild
  rw [str_jobId hstr] at hbuild
  have hnumber : ["assetNftId"].findSome? (fun k => Payloads.nftNumber
      (Payload.get [("jobId",.string id),("assetId",.string assetId)] k)) = none := rfl
  unfold Payloads.nftRef at hnft
  rw [hnumber] at hnft
  dsimp only at hnft
  split at hnft
  · cases hnft
  · rename_i text htext
    obtain ⟨k,hk,found,hfound,-,rfl⟩ := Payloads.optionalStr_eq_some htext
    obtain rfl := List.mem_singleton.mp hk
    obtain rfl : assetId = found := by
      simpa [Payload.get,List.lookup_cons] using hfound
    split at hnft
    · cases hnft
    · rename_i hid
      obtain rfl := Except.ok.inj hnft
      exact ⟨hid,(ok_pure_iff.mp hbuild).symm⟩

omit [Keccak H] [DecidableEq H] in
private theorem JobActor.OwnsWallet.namedBy {actor : JobActor} {a : Address}
    (h : actor.OwnsWallet P w) (ha : P.parseAddress actor.walletAddress = some a) :
    NamedBy w a actor.identityId := by
  unfold JobActor.OwnsWallet at h
  rwa [ha] at h

/-- The chain names in a new job what the new row names. -/
private theorem jobNames_create (hinj : Function.Injective (keccak256 : Bytes → H)) {actor : JobActor}
    {ctx : JobsContext} {jobs : JobTable} {input : CreateInput} {d : Delivery} {tx : Tx}
    (hw : Reachable w) (hu : Reachable u) (hbetween : KeepsNames w u)
    (howns : actor.OwnsWallet P w) (hinput : input.createdBy = some actor.identityId)
    (hprepare : EvmAdapter.prepare P w ⟨.JOB_CREATE,actor.walletAddress,
      [("jobId",.string (newJob ctx jobs input).jobId),
        ("assetId",.string (newJob ctx jobs input).assetId)]⟩ d = .ok tx)
    (hexec : exec u tx = .ok w') : JobNames w' (newJob ctx jobs input) := by
  have hkept := hbetween.trans (exec_keepsNames hu hexec)
  obtain ⟨hnft,hcall⟩ := prepare_create_asset hprepare
  have hsender := howns.namedBy (EvmAdapter.prepare_sender hprepare)
  have htrim : jsTrim (newJob ctx jobs input).jobId = (newJob ctx jobs input).jobId :=
    trimmed_newJobId jobs input
  rw [htrim] at hcall
  obtain ⟨env,call⟩ := tx
  obtain rfl : call = _ := hcall
  obtain ⟨-,-,hfresh,-,hstep⟩ := createJob_cases hexec
  have hverifier := absent_verifier hinj hu _ hfresh
  refine ⟨?_,?_,?_,fun _ => rfl⟩
  · rw [hstep.job_self]
    exact hkept.names (names_nftIdOf hinj hw hnft)
  · rw [hstep.job_self]
    have hname : (newJob ctx jobs input).createdBy = actor.identityId := by
      simp [newJob,hinput]
    rw [hname]
    exact hsender.kept hkept
  · rw [hstep.job_self]
    exact .inl hverifier

omit [DecidableEq H] in
/-- What a change of a job does to the names in its record. -/
private theorem change_names {c : JobChange} {env : Env} {jobId : Bytes} {call : Call}
    {r r' : JobManager.JobRecord H} (hcall : c.CallOn P w jobId call)
    (h : JobRecordChange env jobId r call r') :
    r'.assetNftId = r.assetNftId ∧ r'.createdBy = r.createdBy ∧
      r'.verifier = match c with
        | .approve => env.sender
        | .reject _ => env.sender
        | _ => r.verifier := by
  cases c with
  | assign ref =>
    obtain ⟨wallet,-,rfl⟩ := hcall
    cases h with
    | other _ hother => exact absurd rfl hother
    | assign => exact ⟨rfl,rfl,rfl⟩
  | start =>
    obtain rfl : call = .startJob jobId := hcall
    cases h with
    | other _ hother => exact absurd rfl hother
    | start => exact ⟨rfl,rfl,rfl⟩
  | complete evidence =>
    obtain ⟨evidenceHash,rfl⟩ := hcall
    cases h with
    | other _ hother => exact absurd rfl hother
    | complete => exact ⟨rfl,rfl,rfl⟩
  | approve =>
    obtain rfl : call = .approveJob jobId := hcall
    cases h with
    | other _ hother => exact absurd rfl hother
    | approve => exact ⟨rfl,rfl,rfl⟩
  | reject reason =>
    obtain ⟨reason,rfl⟩ := hcall
    cases h with
    | other _ hother => exact absurd rfl hother
    | reject => exact ⟨rfl,rfl,rfl⟩

private theorem jobNames_change (hinj : Function.Injective (keccak256 : Bytes → H)) {actor : JobActor}
    {ctx : JobsContext} {c : JobChange} {d : Delivery} {tx : Tx} (hu : Reachable u)
    (hbetween : KeepsNames w u) (howns : actor.OwnsWallet P w) (hnames : JobNames u old)
    (htrim : Trimmed old.jobId) (hcheck : (c.mutation ctx actor).check old = .ok ())
    (hprepare : EvmAdapter.prepare P w ⟨(c.mutation ctx actor).type,actor.walletAddress,
      (c.mutation ctx actor).payload old⟩ d = .ok tx)
    (hexec : exec u tx = .ok w') : JobNames w' ((c.mutation ctx actor).change old) := by
  have hkept := exec_keepsNames hu hexec
  have hsender := (howns.namedBy (EvmAdapter.prepare_sender hprepare)).kept (hbetween.trans hkept)
  have hcall := prepare_change htrim hcheck hprepare
  obtain ⟨hasset,hcreator,hverifier⟩ := change_names hcall
    (exec_jobRecordChange hinj hu.deployed hu.identity hexec (utf8 old.jobId))
  have hnext : ∀ row : Job,row.jobId = old.jobId → row.assetId = old.assetId →
      row.createdBy = old.createdBy → row.status ≠ .CREATED →
      ((JobManager.job w' (utf8 old.jobId)).verifier = 0 ∨
        NamedBy w' (JobManager.job w' (utf8 old.jobId)).verifier (row.verifierId.getD "")) →
      JobNames w' row := by
    intro row hid hassetId hcreatedBy hpast hdecided
    refine ⟨?_,?_,?_,fun he => absurd he hpast⟩
    · rw [hid,hasset,hassetId]
      exact hkept.names hnames.asset
    · rw [hid,hcreator,hcreatedBy]
      exact hnames.creator.kept hkept
    · rw [hid]
      exact hdecided
  have hsame : (JobManager.job u (utf8 old.jobId)).verifier = 0 ∨
      NamedBy w' (JobManager.job u (utf8 old.jobId)).verifier (old.verifierId.getD "") :=
    hnames.verifier.imp id (fun hv => hv.kept hkept)
  cases c with
  | assign ref => exact hnext _ rfl rfl rfl (by simp [JobChange.mutation,assign]) (by rw [hverifier]; exact hsame)
  | start => exact hnext _ rfl rfl rfl (by simp [JobChange.mutation,start]) (by rw [hverifier]; exact hsame)
  | complete evidence =>
    exact hnext _ rfl rfl rfl (by simp [JobChange.mutation,complete]) (by rw [hverifier]; exact hsame)
  | approve =>
    refine hnext _ rfl rfl rfl (by simp [JobChange.mutation,approve]) (.inr ?_)
    rw [hverifier]
    exact hsender
  | reject reason =>
    refine hnext _ rfl rfl rfl (by simp [JobChange.mutation,reject]) (.inr ?_)
    rw [hverifier]
    exact hsender

end Steps

/-- The two sides are in step, and the stored rows name what the jobs on chain name. -/
structure Mirrored (s : JobSystem H) : Prop where
  inStep : InStep s
  names : ∀ row ∈ s.jobs.rows,JobNames s.chain row

section Runs
variable {P : Platform} {s : JobSystem H}

private theorem Mirrored.external (h : Mirrored s) {tx : Tx} (htx : tx.call.target ≠ some .jobs) :
    Mirrored ⟨s.jobs,attempt exec s.chain tx⟩ := by
  have hkeeps := attempt_keepsJobs h.inStep.reachable htx
  refine ⟨h.inStep.foreign hkeeps,fun row hrow => ?_⟩
  have hnames : KeepsNames s.chain (attemptAll exec s.chain [tx]) :=
    attemptAll_keepsNames h.inStep.reachable [tx]
  exact (h.names row hrow).kept hnames (hkeeps.job_eq _)

private theorem Mirrored.serve (hinj : Function.Injective (keccak256 : Bytes → H)) (h : Mirrored s)
    {q : JobRequest} (hq : q.Sound P) (hpersonal : (JobEvent.request q).Personal P s) :
    Mirrored (serve P s q).1 := by
  refine ⟨h.inStep.serve hinj hq,?_⟩
  obtain ⟨howns,hinput⟩ := hpersonal
  have hkeeps := hq.keepsJobs h.inStep.reachable
  have hnames : KeepsNames s.chain (q.chainAt s) := attemptAll_keepsNames h.inStep.reachable _
  have hhere : ∀ row ∈ s.jobs.rows,JobNames (q.chainAt s) row :=
    fun row hrow => (h.names row hrow).kept hnames (hkeeps.job_eq _)
  have hu : Reachable (q.chainAt s) := hkeeps.reachable h.inStep.reachable
  have hreturn := serve_outcome P s q
  generalize (BelLedger.serve P s q).1 = s',(BelLedger.serve P s q).2 = r at hreturn
  cases hreturn with
  | failed e chain hchain =>
    rcases hchain with rfl | rfl
    · exact h.names
    · exact hhere
  | lost e tx row chain hfate hsigned haccepted hexec => exact absurd hfate hq.reported
  | done tx row chain haccepted hexec =>
    have hkept := exec_keepsNames hu hexec
    obtain ⟨-,heffect⟩ := haccepted.effect hinj h.inStep.trimmed hu.deployed hexec
    have hother : ∀ jobId,jobId ≠ utf8 row.jobId →
        JobManager.job chain jobId = JobManager.job (q.chainAt s) jobId := by
      rcases heffect with ⟨-,heffect⟩ | ⟨old,-,heffect⟩
      · exact heffect.other
      · rw [heffect.jobId]
        exact heffect.other
    intro x hx
    rcases Table.mem_save.mp hx with rfl | ⟨hold,hid⟩
    · obtain ⟨action,actor,ctx,d⟩ := q
      cases action with
      | create input =>
        obtain ⟨-,rfl,hprepare⟩ := haccepted
        exact jobNames_create hinj h.inStep.reachable hu hnames howns hinput hprepare hexec
      | change id c =>
        obtain ⟨old,hfind,hcheck,rfl,hprepare⟩ := haccepted
        have hmem := Table.mem_of_find hfind
        exact jobNames_change hinj hu hnames howns (hhere old hmem) (h.inStep.trimmed old hmem) hcheck
          hprepare hexec
    · exact (hhere x hold).kept hkept (hother _ (fun he => hid (utf8_injective he)))

private theorem Mirrored.run (hinj : Function.Injective (keccak256 : Bytes → H)) (h : Mirrored s)
    {events : List JobEvent} (hsound : ∀ e ∈ events,e.Sound P)
    (hpersonal : Throughout (JobSystem.step P) (fun s e => e.Personal P s) s events) :
    Mirrored (s.run P events) := by
  induction events generalizing s with
  | nil => exact h
  | cons e events ih =>
    refine ih ?_ (fun e' he' => hsound e' (List.mem_cons_of_mem e he')) hpersonal.2
    have hevent := hsound e List.mem_cons_self
    cases e with
    | request q => exact h.serve hinj hevent hpersonal.1
    | external tx => exact h.external hevent

end Runs

section Reading
variable {ctx : JobReadContext} {s : JobSystem H} {w : World H} {a : Address} {did : String}

/-- The wallet's owner is read back from the chain. -/
private theorem identityOrAddress_named (ctx : JobReadContext) (hw : Reachable w)
    (h : NamedBy w a did) : did ≠ "" ∧ EvmAdapter.identityOrAddress ctx.checksum w a = .ok did := by
  have hlength := (hw.identity.identityOf_length h.1).1
  have hne : did ≠ "" := by
    rintro rfl
    rw [h.2] at hlength
    exact hlength rfl
  refine ⟨hne,?_⟩
  unfold EvmAdapter.identityOrAddress
  rw [decoded_eq_ok.mpr h.2.symm]
  simp [hne]

private theorem partyOf_named (hw : Reachable w) (h : NamedBy w a did) :
    EvmAdapter.partyOf ctx w a = .ok (some did) := by
  have hne : a ≠ 0 := by
    rintro rfl
    exact h.1 hw.identity.zero_unregistered
  unfold EvmAdapter.partyOf
  rw [if_neg hne,(identityOrAddress_named ctx hw h).2]
  rfl

/-- What is read is the stored row. The chain knows the verifier once somebody has decided. -/
structure JobRead.Shows (found : JobRead) (w : World H) (row : Job) : Prop where
  jobId : found.jobId = row.jobId
  assetId : found.assetId = jsTrim row.assetId
  createdBy : found.createdBy = row.createdBy
  assignedTo : found.assignedTo = row.assignedTo
  status : found.status = some row.status
  verifierId : (JobManager.job w (utf8 row.jobId)).verifier ≠ 0 → found.verifierId = row.verifierId

private theorem technician_created (hinj : Function.Injective (keccak256 : Bytes → H))
    (hw : Reachable w) {jobId : Bytes} (hcreated : (JobManager.job w jobId).status = .CREATED) :
    (JobManager.job w jobId).technician = 0 := by
  obtain ⟨hist,hreached⟩ := hw
  exact (hreached.jobRounds hinj jobId).technician.mpr (.inr hcreated)

omit [Keccak H] [DecidableEq H] in
private theorem partyOf_zero [Keccak H] : EvmAdapter.partyOf ctx w 0 = .ok none := by
  simp [EvmAdapter.partyOf]

/-- The technician that is read is the one in the row. -/
private theorem getJob_assigned (hinj : Function.Injective (keccak256 : Bytes → H)) (h : Mirrored s)
    (ctx : JobReadContext) {row : Job} (hrow : row ∈ s.jobs.rows) :
    ∃ assigned,EvmAdapter.partyOf ctx s.chain
      (JobManager.job s.chain (utf8 row.jobId)).technician = .ok assigned ∧
        assigned.getD "" = row.assignedTo := by
  have hw := h.inStep.reachable
  by_cases hcreated : row.status = .CREATED
  · have hstatus := h.inStep.agree.status row hrow
    rw [hcreated] at hstatus
    rw [technician_created hinj hw hstatus,partyOf_zero]
    exact ⟨none,rfl,((h.names row hrow).unassigned hcreated).symm⟩
  · have hnamed : NamedBy s.chain (JobManager.job s.chain (utf8 row.jobId)).technician
        row.assignedTo :=
      ⟨h.inStep.registered row hrow hcreated,h.inStep.agree.technician row hrow hcreated⟩
    exact ⟨_,partyOf_named hw hnamed,rfl⟩

/-- The verifier that is read is the one in the row, once there is one. -/
private theorem getJob_verifier (h : Mirrored s) (ctx : JobReadContext) {row : Job}
    (hrow : row ∈ s.jobs.rows) :
    ∃ verifier,EvmAdapter.partyOf ctx s.chain
      (JobManager.job s.chain (utf8 row.jobId)).verifier = .ok verifier ∧
        ((JobManager.job s.chain (utf8 row.jobId)).verifier ≠ 0 → ∃ did,
          verifier = some did ∧ row.verifierId = some did) := by
  have hw := h.inStep.reachable
  rcases (h.names row hrow).verifier with hzero | hnamed
  · rw [hzero,partyOf_zero]
    exact ⟨none,rfl,fun hne => absurd rfl hne⟩
  · refine ⟨_,partyOf_named hw hnamed,fun _ => ⟨_,rfl,?_⟩⟩
    have hne := (identityOrAddress_named ctx hw hnamed).1
    cases hid : row.verifierId with
    | none => simp [hid] at hne
    | some id => rfl

private theorem getJob_shows (hinj : Function.Injective (keccak256 : Bytes → H)) (h : Mirrored s)
    (ctx : JobReadContext) {row : Job} (hrow : row ∈ s.jobs.rows) :
    ∃ found,EvmAdapter.getJob ctx s.chain row.jobId = .ok (some found) ∧ found.Shows s.chain row := by
  have hw := h.inStep.reachable
  have hstatus := h.inStep.agree.status row hrow
  have hnames := h.names row hrow
  have hexists : (JobManager.job s.chain (utf8 row.jobId)).status ≠ .NONE := by
    rw [hstatus]
    exact row.status.onChain_ne_none
  have hread : EvmAdapter.read (existing s.chain.assets
      (JobManager.job s.chain (utf8 row.jobId)).assetNftId) =
      .ok (s.chain.assets.assets (JobManager.job s.chain (utf8 row.jobId)).assetNftId) := by
    rw [existing_minted hnames.asset.minted]
    rfl
  obtain ⟨assigned,hassigned,hassignedTo⟩ := getJob_assigned hinj h ctx hrow
  obtain ⟨verifier,hverified,hdecided⟩ := getJob_verifier h ctx hrow
  have hcreator := (identityOrAddress_named ctx hw hnames.creator).2
  have hdecode := decoded_eq_ok.mpr hnames.asset.assetId.symm
  unfold EvmAdapter.getJob
  dsimp only
  simp only [if_neg hexists,hread,hcreator,hassigned,hverified,ok_bind,hdecode]
  refine ⟨_,rfl,rfl,rfl,rfl,hassignedTo,?_,?_⟩
  · rw [hstatus]
    exact EvmAdapter.JOB_STATUS_onChain row.status
  · intro hne
    obtain ⟨did,rfl,hid⟩ := hdecided hne
    exact hid.symm

private theorem getJob_absent (h : Mirrored s) (ctx : JobReadContext) {id : String}
    (hnone : s.jobs.find id = none) : EvmAdapter.getJob ctx s.chain id = .ok none := by
  have habsent : (JobManager.job s.chain (utf8 id)).status = .NONE := by
    by_contra hjob
    obtain ⟨row,hrow,hid⟩ := (h.inStep.agree.ids (utf8 id)).mp hjob
    apply Table.find_eq_none.mp hnone
    rw [← utf8_injective hid]
    exact List.mem_map_of_mem hrow
  unfold EvmAdapter.getJob
  rw [if_pos habsent]

end Reading

/-- After any requests that people make for themselves, the adapter reads the stored rows. -/
theorem job_reads_agree (hinj : Function.Injective (keccak256 : Bytes → H)) (P : Platform)
    {w₀ : World H} (hw₀ : Reachable w₀)
    (hempty : ∀ jobId,(JobManager.job w₀ jobId).status = .NONE) (events : List JobEvent)
    (hsound : ∀ e ∈ events,e.Sound P)
    (hpersonal : Throughout (JobSystem.step P) (fun s e => e.Personal P s) ⟨.empty,w₀⟩ events)
    (ctx : JobReadContext) :
    (∀ id,(JobSystem.run P ⟨.empty,w₀⟩ events).jobs.find id = none →
      EvmAdapter.getJob ctx (JobSystem.run P ⟨.empty,w₀⟩ events).chain id = .ok none) ∧
    ∀ row ∈ (JobSystem.run P ⟨.empty,w₀⟩ events).jobs.rows,∃ found,
      EvmAdapter.getJob ctx (JobSystem.run P ⟨.empty,w₀⟩ events).chain row.jobId =
        .ok (some found) ∧ found.Shows (JobSystem.run P ⟨.empty,w₀⟩ events).chain row := by
  have hstart : Mirrored (⟨.empty,w₀⟩ : JobSystem H) :=
    ⟨inStep_start hw₀ hempty,fun row hrow => by cases hrow⟩
  have hend := hstart.run hinj hsound hpersonal
  exact ⟨fun _ hnone => getJob_absent hend ctx hnone,fun _ hrow => getJob_shows hinj hend ctx hrow⟩

/-- Two technicians are tried in turn, and the engineer has rejected once. -/
theorem job_reads_agree_rework :
    ∃ found,EvmAdapter.getJob ⟨toString,toString,fun _ => none⟩
      (JobSystem.run prototypePlatform ⟨.empty,workshop⟩ reworkEvents).chain "JOB-1" =
        .ok (some found) ∧
      found.assignedTo = "DID:BEL:TECH-1" ∧ found.verifierId = some "DID:BEL:ENG" := by
  have hpersonal : Throughout (JobSystem.step prototypePlatform)
      (fun s e => e.Personal prototypePlatform s) ⟨.empty,workshop⟩ reworkEvents := by decide +kernel
  have hread := job_reads_agree prototype_keccak_injective prototypePlatform workshop_reachable
    workshop_no_jobs reworkEvents reworkEvents_sound hpersonal ⟨toString,toString,fun _ => none⟩
  have hrow : ((JobSystem.run prototypePlatform ⟨.empty,workshop⟩ reworkEvents).jobs.find
      "JOB-1").map (fun row => (row.jobId,row.assignedTo,row.verifierId)) =
        some ("JOB-1","DID:BEL:TECH-1",some "DID:BEL:ENG") := by decide +kernel
  have hdecided : (JobManager.job (JobSystem.run prototypePlatform ⟨.empty,workshop⟩
      reworkEvents).chain (utf8 "JOB-1")).verifier ≠ 0 := by decide +kernel
  obtain ⟨row,hfind,hfields⟩ := Option.map_eq_some_iff.mp hrow
  simp only [Prod.mk.injEq] at hfields
  obtain ⟨hid,hassigned,hverifier⟩ := hfields
  obtain ⟨found,hfound,hshows⟩ := hread.2 row (Table.mem_of_find hfind)
  rw [← hid] at hdecided
  rw [hid] at hfound
  exact ⟨found,hfound,hshows.assignedTo.trans hassigned,(hshows.verifierId hdecided).trans hverifier⟩

end BelLedger
