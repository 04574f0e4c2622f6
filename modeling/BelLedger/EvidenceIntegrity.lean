import BelLedger.EvidenceService
import BelLedger.JobRecovery

/-!
# The integrity of evidence

Whatever the storage answers, a download gives the uploaded bytes or fails, and a completed job is
anchored with their digest.
-/
namespace BelLedger
open CheckedCalls TransitionRuns KeyedTables UsersService EvidenceService

/-- No other bytes have the same digest. -/
def CollisionFree (sha256 : Bytes → Bytes32) (bytes : Bytes) : Prop :=
  ∀ other,sha256 other = sha256 bytes → other = bytes

section Records
variable {H : Type} {lib : NodeLibrary} {ctx : EvidenceContext} {s s' : EvidenceSystem H}
  {jobId evidenceId uuid : String} {actor : EvidenceActor} {input : EvidenceUpload}
  {storage : EvidenceStorage} {evidence : Evidence} {bytes : Bytes}

/-- The record describes the bytes. -/
structure Evidence.Describes (lib : NodeLibrary) (evidence : Evidence) (jobId : String)
    (bytes : Bytes) : Prop where
  job : evidence.jobId = jobId
  sha256 : evidence.sha256 = hexText (lib.sha256 bytes)
  size : evidence.sizeBytes = bytes.length

theorem upload_eq_ok (h : upload lib ctx s jobId actor input storage uuid = (s',.ok evidence)) :
    evidence.evidenceId = uuid ∧ evidence.Describes lib jobId input.bytes ∧
      s' = { s with evidence := s.evidence.save evidence } := by
  unfold upload at h
  cases hchecked : uploadChecked lib ctx s jobId actor input storage uuid with
  | error e =>
    rw [hchecked] at h
    cases (Prod.mk.inj h).2
  | ok saved =>
    rw [hchecked] at h
    obtain ⟨rfl,hsaved⟩ := Prod.mk.inj h
    obtain rfl := Except.ok.inj hsaved
    obtain ⟨job,-,hchecked⟩ := ok_bind_iff.mp hchecked
    obtain ⟨-,-,hchecked⟩ := ok_bind_iff.mp hchecked
    obtain ⟨-,-,hchecked⟩ := ok_bind_iff.mp hchecked
    dsimp only at hchecked
    split at hchecked
    · cases hchecked
    · cases hchecked
    · obtain ⟨-,hchecked⟩ := revertIf_bind_eq_ok.mp hchecked
      obtain rfl := ok_pure_iff.mp hchecked
      exact ⟨rfl,⟨rfl,rfl,rfl⟩,rfl⟩

theorem upload_eq_error {e : EvidenceError}
    (h : upload lib ctx s jobId actor input storage uuid = (s',.error e)) : s' = s := by
  unfold upload at h
  split at h
  · exact (Prod.mk.inj h).1.symm
  · cases (Prod.mk.inj h).2

/-- Only a record of the job itself is found. -/
theorem requireEvidence_eq_ok (h : requireEvidence s jobId evidenceId actor = .ok evidence) :
    s.evidence.find evidenceId = some evidence ∧ evidence.jobId = jobId := by
  obtain ⟨job,-,h⟩ := ok_bind_iff.mp h
  obtain ⟨-,-,h⟩ := ok_bind_iff.mp h
  split at h
  · cases h
  · rename_i found hfound
    obtain ⟨hjob,h⟩ := revertIf_bind_eq_ok.mp h
    obtain rfl := ok_pure_iff.mp h
    exact ⟨hfound,not_not.mp hjob⟩

theorem download_eq_ok (h : download lib s jobId evidenceId actor storage = .ok (evidence,bytes)) :
    requireEvidence s jobId evidenceId actor = .ok evidence ∧
      hexText (lib.sha256 bytes) = evidence.sha256 ∧ bytes.length = evidence.sizeBytes := by
  obtain ⟨found,hfound,h⟩ := ok_bind_iff.mp h
  split at h
  · cases h
  · cases h
  · obtain ⟨hsame,h⟩ := revertIf_bind_eq_ok.mp h
    obtain ⟨rfl,rfl⟩ := Prod.mk.inj (ok_pure_iff.mp h)
    rw [not_or,not_not,not_not] at hsame
    exact ⟨hfound,hsame⟩

/-- A download returns what the record describes. -/
theorem Evidence.Describes.download (hdescribes : evidence.Describes lib jobId input.bytes)
    (hunique : CollisionFree lib.sha256 input.bytes) (hrow : s.evidence.find evidenceId = some evidence)
    {found : Evidence} (h : EvidenceService.download lib s jobId evidenceId actor storage =
      .ok (found,bytes)) : found = evidence ∧ bytes = input.bytes := by
  obtain ⟨hfound,hdigest,-⟩ := download_eq_ok h
  obtain rfl := Option.some.inj ((requireEvidence_eq_ok hfound).1.symm.trans hrow)
  refine ⟨rfl,hunique bytes ?_⟩
  rw [hdescribes.sha256] at hdigest
  exact hexText_injective hdigest

end Records

section Completion
variable {lib : NodeLibrary} {P : Platform} {id : String} {user : User}
  {body : JobsRoutes.CompleteBody} {evidence : Evidence}

/-- A text without a prefix is normalized to the number that it denotes. -/
theorem normalizeBytes32_eq_ok {type : TransactionType} {text : String} {bytes32 : Bytes32}
    (hplain : ∀ x,isHexDigit x = false → text.toList.take 2 ≠ ['0',x])
    (h : Payloads.normalizeBytes32 type text = .ok bytes32) :
    bytes32 = BitVec.ofNat 256 (hexValue text.toList) := by
  have hnone : ¬(text.toList.take 2 = ['0','x'] ∨ text.toList.take 2 = ['0','X']) := by
    rintro (hlower | hupper)
    · exact hplain 'x' (by decide) hlower
    · exact hplain 'X' (by decide) hupper
  unfold Payloads.normalizeBytes32 at h
  rw [if_neg hnone] at h
  dsimp only at h
  split at h
  · cases h
  · split at h
    · cases h
    · exact (Except.ok.inj h).symm

theorem normalizeBytes32_hexText {type : TransactionType} {digest bytes32 : Bytes32}
    (h : Payloads.normalizeBytes32 type (hexText digest) = .ok bytes32) : bytes32 = digest := by
  have hplain : ∀ x,isHexDigit x = false → (hexText digest).toList.take 2 ≠ ['0',x] :=
    fun x hx => hexText_no_prefix digest hx
  calc bytes32 = BitVec.ofNat 256 (hexValue (hexText digest).toList) :=
        normalizeBytes32_eq_ok hplain h
    _ = digest := by rw [hexValue_hexText,BitVec.ofNat_toNat,BitVec.setWidth_eq]

/-- The call that a completion stands for. -/
theorem plan_complete {jobId evidenceHash : String} {lookups : ChainLookups} {call : Call}
    (h : Payloads.buildCallPlan P.parseAddress P.dateParse .JOB_COMPLETE
      [("jobId",.string jobId),("evidenceHash",.string evidenceHash)] lookups = .ok call) :
    ∃ bytes32,Payloads.normalizeBytes32 .JOB_COMPLETE (jsTrim evidenceHash) = .ok bytes32 ∧
      call = .completeJob (utf8 (jsTrim jobId)) bytes32 := by
  obtain ⟨v,hv,h⟩ := ok_bind_iff.mp h
  obtain ⟨text,htext,h⟩ := ok_bind_iff.mp h
  obtain ⟨bytes32,hbytes,h⟩ := ok_bind_iff.mp h
  have hid := Payloads.optionalStr_only "jobId" jobId rfl
    (fun k hk => .inl (List.mem_singleton.mp hk)) (Payloads.str_eq_ok hv)
  have hhash := Payloads.optionalStr_only "evidenceHash" evidenceHash rfl
    (fun k hk => .inl (List.mem_singleton.mp hk)) (Payloads.str_eq_ok htext)
  rw [hhash.1] at hbytes
  rw [hid.1] at h
  exact ⟨bytes32,hbytes,(ok_pure_iff.mp h).symm⟩

variable {H : Type} {s s' : EvidenceSystem H}

/-- With an evidence id that is not blank the route completes with the digest of the record. -/
theorem completionHash_selected {evidenceId hash : String} (hid : body.evidenceId = some evidenceId)
    (hblank : jsTrim evidenceId ≠ "") (h : JobsRoutes.completionHash lib s id user body = .ok hash) :
    ∃ evidence,s.evidence.find evidenceId = some evidence ∧ evidence.jobId = id ∧
      hash = evidence.sha256 := by
  obtain ⟨-,-,h⟩ := ok_bind_iff.mp h
  obtain ⟨selected,hselected,h⟩ := ok_bind_iff.mp h
  obtain ⟨-,h⟩ := revertIf_bind_eq_ok.mp h
  have hfilter : body.evidenceId.filter (fun evidenceId => jsTrim evidenceId ≠ "") =
      some evidenceId := by
    rw [hid]
    simp [hblank]
  unfold JobsRoutes.selectedHash at hselected
  rw [hfilter] at hselected
  obtain ⟨stored,hstored,hselected⟩ := ok_bind_iff.mp hselected
  obtain ⟨-,hselected⟩ := revertIf_bind_eq_ok.mp hselected
  obtain ⟨evidence,hevidence,hstored⟩ := ok_bind_iff.mp hstored
  obtain ⟨hrow,hjob⟩ := requireEvidence_eq_ok hevidence
  refine ⟨evidence,hrow,hjob,?_⟩
  rw [← ok_pure_iff.mp h,← ok_pure_iff.mp hselected,← ok_pure_iff.mp hstored]
  rfl

end Completion

section Runs
variable {H : Type} [Keccak H] [DecidableEq H] {P : Platform} {lib : NodeLibrary}
  {s s' : EvidenceSystem H} {evidence : Evidence}

/-- A completion succeeds when its transaction has been executed. -/
theorem complete_eq_ok {ctx : JobsContext} {id : String} {user : User}
    {body : JobsRoutes.CompleteBody} {d : Delivery} {row : Job}
    (h : JobsRoutes.complete P lib ctx s id user body d = (s',.ok row)) :
    ∃ hash tx,JobsRoutes.completionHash lib s id user body = .ok hash ∧
      EvmAdapter.prepare P s.service.chain ⟨.JOB_COMPLETE,user.walletAddress,
        [("jobId",.string id),("evidenceHash",.string hash)]⟩ d = .ok tx ∧
      exec (attemptAll exec s.service.chain d.interference) tx = .ok s'.service.chain := by
  unfold JobsRoutes.complete at h
  cases hhash : JobsRoutes.completionHash lib s id user body with
  | error e =>
    rw [hhash] at h
    cases (Prod.mk.inj h).2
  | ok hash =>
    rw [hhash] at h
    obtain ⟨rfl,hresult⟩ := Prod.mk.inj h
    let q : JobRequest :=
      ⟨.change id (.complete hash),⟨user.identityId,user.walletAddress,body.signature⟩,ctx,d⟩
    have hserved : serve P s.service q = ((serve P s.service q).1,.ok row) :=
      Prod.ext rfl (mapError_eq_ok.mp hresult)
    obtain ⟨tx,⟨old,hfind,-,-,hprepare⟩,hexec⟩ := serve_ok hserved
    obtain rfl : old.jobId = id := Table.key_of_find hfind
    exact ⟨hash,tx,rfl,hprepare,hexec⟩

/-- An upload draws an id that no record has. -/
def EvidenceEvent.FreshId (s : EvidenceSystem H) : EvidenceEvent → Prop
  | .upload _ _ _ _ _ uuid => s.evidence.find uuid = none
  | _ => True

theorem EvidenceSystem.step_find {e : EvidenceEvent} {evidenceId : String}
    (hfind : s.evidence.find evidenceId = some evidence) (hfresh : e.FreshId s) :
    (s.step P lib e).evidence.find evidenceId = some evidence := by
  cases e with
  | upload ctx jobId actor input storage uuid =>
    rw [EvidenceSystem.step]
    cases hupload : upload lib ctx s jobId actor input storage uuid with
    | mk s' result =>
      cases result with
      | error e =>
        rw [upload_eq_error hupload]
        exact hfind
      | ok saved =>
        obtain ⟨hid,-,rfl⟩ := upload_eq_ok hupload
        have hne : saved.evidenceId ≠ evidenceId := by
          rintro rfl
          rw [hid,show s.evidence.find uuid = none from hfresh] at hfind
          cases hfind
        rw [Table.find_save,if_neg hne]
        exact hfind
  | complete ctx id user body d =>
    rw [EvidenceSystem.step,JobsRoutes.complete]
    split
    · exact hfind
    · exact hfind
  | service event => exact hfind

/-- The record of an upload stays as it is. -/
theorem EvidenceSystem.run_find {events : List EvidenceEvent} {evidenceId : String}
    (hfind : s.evidence.find evidenceId = some evidence)
    (hfresh : Throughout (EvidenceSystem.step P lib) EvidenceEvent.FreshId s events) :
    (s.run P lib events).evidence.find evidenceId = some evidence :=
  hfresh.invariant (I := fun s => s.evidence.find evidenceId = some evidence)
    (fun _ _ hs he => EvidenceSystem.step_find hs he) hfind

/-- Completing a job with an evidence id plans the digest of the uploaded bytes. -/
theorem complete_anchors {ctx : JobsContext} {id jobId : String} {user : User}
    {body : JobsRoutes.CompleteBody} {d : Delivery} {row : Job} {bytes : Bytes}
    (hdescribes : evidence.Describes lib jobId bytes)
    (hrow : s.evidence.find evidence.evidenceId = some evidence)
    (hid : body.evidenceId = some evidence.evidenceId) (hblank : jsTrim evidence.evidenceId ≠ "")
    (h : JobsRoutes.complete P lib ctx s id user body d = (s',.ok row)) :
    id = jobId ∧ ∃ tx,EvmAdapter.prepare P s.service.chain ⟨.JOB_COMPLETE,user.walletAddress,
        [("jobId",.string jobId),("evidenceHash",.string (hexText (lib.sha256 bytes)))]⟩ d = .ok tx ∧
      tx.call = .completeJob (utf8 (jsTrim jobId)) (lib.sha256 bytes) ∧
      exec (attemptAll exec s.service.chain d.interference) tx = .ok s'.service.chain := by
  obtain ⟨hash,tx,hhash,hprepare,hexec⟩ := complete_eq_ok h
  obtain ⟨found,hfound,hjob,rfl⟩ := completionHash_selected hid hblank hhash
  obtain rfl := Option.some.inj (hfound.symm.trans hrow)
  obtain rfl : id = jobId := hjob.symm.trans hdescribes.job
  rw [hdescribes.sha256] at hprepare
  obtain ⟨bytes32,hbytes,hcall⟩ := plan_complete (EvmAdapter.prepare_call hprepare)
  rw [trimmed_hexText] at hbytes
  rw [normalizeBytes32_hexText hbytes] at hcall
  exact ⟨rfl,tx,hprepare,hcall,hexec⟩

theorem complete_eq_error {ctx : JobsContext} {id : String} {user : User}
    {body : JobsRoutes.CompleteBody} {d : Delivery} {e : EvidenceError}
    (h : JobsRoutes.completionHash lib s id user body = .error e) :
    JobsRoutes.complete P lib ctx s id user body d = (s,.error e) := by
  rw [JobsRoutes.complete,h]

/-- Along a run in which every upload draws an id of its own, an uploaded record answers for its bytes:
a download returns them or fails, a completion with the record's id anchors their digest, and no
other job can use the record. The bytes that share the digest are the bytes themselves. -/
theorem evidence_integrity (P : Platform) (lib : NodeLibrary) {s s₁ : EvidenceSystem H}
    {ctx : EvidenceContext} {jobId uuid : String} {actor : EvidenceActor} {input : EvidenceUpload}
    {storage : EvidenceStorage} {record : Evidence}
    (hunique : CollisionFree lib.sha256 input.bytes) (huuid : jsTrim uuid ≠ "")
    (hupload : upload lib ctx s jobId actor input storage uuid = (s₁,.ok record))
    (events : List EvidenceEvent)
    (hfresh : Throughout (EvidenceSystem.step P lib) EvidenceEvent.FreshId s₁ events) :
    (∀ viewer storage found bytes,
      download lib (s₁.run P lib events) jobId record.evidenceId viewer storage =
        .ok (found,bytes) → found = record ∧ bytes = input.bytes) ∧
    (∀ ctx user body d t job,body.evidenceId = some record.evidenceId →
      JobsRoutes.complete P lib ctx (s₁.run P lib events) jobId user body d = (t,.ok job) →
      ∃ tx,EvmAdapter.prepare P (s₁.run P lib events).service.chain
          ⟨.JOB_COMPLETE,user.walletAddress,[("jobId",.string jobId),
            ("evidenceHash",.string (hexText (lib.sha256 input.bytes)))]⟩ d = .ok tx ∧
        tx.call = .completeJob (utf8 (jsTrim jobId)) (lib.sha256 input.bytes) ∧
        exec (attemptAll exec (s₁.run P lib events).service.chain d.interference) tx =
          .ok t.service.chain) ∧
    ∀ other,other ≠ jobId →
      (∀ viewer storage,∃ e,
        download lib (s₁.run P lib events) other record.evidenceId viewer storage = .error e) ∧
      ∀ ctx user body d,body.evidenceId = some record.evidenceId →
        ∃ e,JobsRoutes.complete P lib ctx (s₁.run P lib events) other user body d =
          (s₁.run P lib events,.error e) := by
  obtain ⟨hid,hdescribes,rfl⟩ := upload_eq_ok hupload
  have hblank : jsTrim record.evidenceId ≠ "" := hid ▸ huuid
  have hsaved : (s.evidence.save record).find record.evidenceId = some record := by
    rw [Table.find_save,if_pos rfl]
  have hrow := EvidenceSystem.run_find hsaved hfresh
  refine ⟨?_,?_,?_⟩
  · intro viewer storage found bytes h
    exact hdescribes.download hunique hrow h
  · intro ctx user body d t job hbody h
    exact (complete_anchors hdescribes hrow hbody hblank h).2
  · intro other hother
    constructor
    · intro viewer storage
      cases h : download lib _ other record.evidenceId viewer storage with
      | error e => exact ⟨e,rfl⟩
      | ok answer =>
        obtain ⟨hfound,hjob⟩ := requireEvidence_eq_ok (download_eq_ok h).1
        obtain rfl := Option.some.inj (hfound.symm.trans hrow)
        exact absurd (hjob.symm.trans hdescribes.job) hother
    · intro ctx user body d hbody
      cases h : JobsRoutes.completionHash lib _ other user body with
      | error e => exact ⟨e,complete_eq_error h⟩
      | ok hash =>
        obtain ⟨found,hfound,hjob,-⟩ := completionHash_selected hbody hblank h
        obtain rfl := Option.some.inj (hfound.symm.trans hrow)
        exact absurd (hjob.symm.trans hdescribes.job) hother

end Runs

section Prototype

/-- "Radar calibrated." -/
def radarReport : EvidenceUpload := ⟨utf8 "Radar calibrated.","report.txt","text/plain"⟩

def radarDigest : Bytes32 := 0xbb128d7f090e9b7a8aaafee1a98c4d432bedb034b8726f8ddf340c4b1f8d6025

/-- SHA-256 of the report, lower case for ASCII. -/
def radarLibrary : NodeLibrary where
  sha256 bytes := if bytes = radarReport.bytes then radarDigest else 0
  toLowerCase s := String.ofList (s.toList.map Char.toLower)

def uploadContext : EvidenceContext :=
  ⟨26214400,["application/pdf","image/jpeg","image/png","text/plain"],"2025-11-18T10:00:00.000Z"⟩

/-- A storage that takes everything and answers with one object. -/
def pinned (bytes : Bytes) : EvidenceStorage :=
  ⟨fun taken _ => .ok ⟨"bafkreif3ckgx6ciotn5ivkx64guyytkdfpw3anfyojxy3xzubrfr7dlaeu",taken.length⟩,
    fun _ => .ok bytes⟩

def technician : EvidenceActor := ⟨TECH1.identityId,TECH1.walletAddress,.TECHNICIAN⟩

def startedJob : EvidenceSystem (Option Bytes) := ⟨.empty,workshopRun (timedOutStart .mined)⟩

def technicianUser : User :=
  ⟨"EMP-7",TECH1.identityId,TECH1.walletAddress,.TECHNICIAN,"RADAR",.ACTIVE⟩

/-- The digest as another tool prints it accompanies the evidence id. -/
def radarCompletion : JobsRoutes.CompleteBody :=
  ⟨some (some "0xBB128D7F090E9B7A8AAAFEE1A98C4D432BEDB034B8726F8DDF340C4B1F8D6025"),
    some "1b0e7c1e-7d0f-4a53-9a55-0d7a3c1d5a10",some "0x02f8"⟩

def radarRecord : Evidence :=
  { evidenceId := "1b0e7c1e-7d0f-4a53-9a55-0d7a3c1d5a10", jobId := "JOB-1"
    cid := "bafkreif3ckgx6ciotn5ivkx64guyytkdfpw3anfyojxy3xzubrfr7dlaeu"
    sha256 := "bb128d7f090e9b7a8aaafee1a98c4d432bedb034b8726f8ddf340c4b1f8d6025"
    originalFilename := "report.txt", contentType := "text/plain", sizeBytes := 17
    uploadedBy := "DID:BEL:TECH-1", createdAt := "2025-11-18T10:00:00.000Z"
    updatedAt := "2025-11-18T10:00:00.000Z" }

def uploaded : EvidenceSystem (Option Bytes) :=
  (upload radarLibrary uploadContext startedJob "JOB-1" technician radarReport (pinned [])
    radarRecord.evidenceId).1

/-- A second report on the same job. -/
def laterUpload : EvidenceEvent :=
  .upload uploadContext "JOB-1" technician ⟨utf8 "Antenna aligned.","antenna.txt","text/plain"⟩
    (pinned []) "5f8d0a52-33f5-4c0c-8a0e-6f0f5a3f7b21"

/-- The job with both reports. -/
def reported : EvidenceSystem (Option Bytes) :=
  uploaded.run prototypePlatform radarLibrary [laterUpload]

private theorem radar_uploaded : upload radarLibrary uploadContext startedJob "JOB-1" technician
    radarReport (pinned []) radarRecord.evidenceId = (uploaded,.ok radarRecord) := by
  have hresult : (upload radarLibrary uploadContext startedJob "JOB-1" technician radarReport
      (pinned []) radarRecord.evidenceId).2 = .ok radarRecord := by decide +kernel
  rw [uploaded,← hresult]

private theorem sha256_radarReport : radarLibrary.sha256 radarReport.bytes = radarDigest := by
  simp [radarLibrary]

private theorem radarLibrary_collisionFree : CollisionFree radarLibrary.sha256 radarReport.bytes := by
  intro other hother
  by_contra hne
  have hzero : radarLibrary.sha256 other = 0 := by simp [radarLibrary,hne]
  rw [hzero,sha256_radarReport] at hother
  exact absurd hother (by decide)

private theorem laterUpload_fresh : Throughout (EvidenceSystem.step prototypePlatform radarLibrary)
    EvidenceEvent.FreshId uploaded [laterUpload] := by
  have hnone : uploaded.evidence.find "5f8d0a52-33f5-4c0c-8a0e-6f0f5a3f7b21" = none := by
    decide +kernel
  exact ⟨hnone,trivial⟩

private theorem radar_completes :
    (JobsRoutes.complete prototypePlatform radarLibrary workshopContext reported "JOB-1"
      technicianUser radarCompletion ⟨[],15,15,1,.mined⟩).2.toOption.isSome = true := by
  decide +kernel

/-- The completion of the job puts the digest of the report on the chain. A storage that still has the
report is read back, and no other bytes are returned. -/
theorem radar_evidence_anchored :
    (∃ tx t row,JobsRoutes.complete prototypePlatform radarLibrary workshopContext reported "JOB-1"
        technicianUser radarCompletion ⟨[],15,15,1,.mined⟩ = (t,.ok row) ∧
      tx.call = .completeJob (utf8 "JOB-1") radarDigest ∧
      exec reported.service.chain tx = .ok t.service.chain) ∧
    (download radarLibrary reported "JOB-1" radarRecord.evidenceId technician
        (pinned radarReport.bytes)).toOption = some (radarRecord,radarReport.bytes) ∧
    ∀ viewer storage found bytes,
      download radarLibrary reported "JOB-1" radarRecord.evidenceId viewer storage =
        .ok (found,bytes) → found = radarRecord ∧ bytes = radarReport.bytes := by
  have hintegrity := evidence_integrity prototypePlatform radarLibrary radarLibrary_collisionFree
    (by decide +kernel) radar_uploaded [laterUpload] laterUpload_fresh
  rw [← reported] at hintegrity
  obtain ⟨hdownload,hcomplete,-⟩ := hintegrity
  obtain ⟨row,hrow⟩ := exists_eq_ok radar_completes
  have hcompleted := Prod.eta (JobsRoutes.complete prototypePlatform radarLibrary workshopContext
    reported "JOB-1" technicianUser radarCompletion ⟨[],15,15,1,.mined⟩)
  rw [hrow] at hcompleted
  obtain ⟨tx,-,hcall,hexec⟩ := hcomplete workshopContext technicianUser radarCompletion
    ⟨[],15,15,1,.mined⟩ _ row rfl hcompleted.symm
  rw [show jsTrim "JOB-1" = "JOB-1" by decide +kernel,sha256_radarReport] at hcall
  rw [attemptAll,List.foldl_nil] at hexec
  exact ⟨⟨tx,_,row,hcompleted.symm,hcall,hexec⟩,by decide +kernel,hdownload⟩

end Prototype
end BelLedger
