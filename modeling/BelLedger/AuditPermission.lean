import BelLedger.AssetsService
import BelLedger.JobsService
import BelLedger.PermissionMatrix

/-!
# The permission to read the audit trail of an asset

A technician may read the trails of the assets of their own jobs. The route looks at the first of
these jobs only, and then at its assignee.
-/
namespace BelLedger
open UsersService

namespace ChainRoutes

section Resolver
variable (user : User) (id : String)

/-- A job on the asset that the user created or is assigned to. -/
def isOwnJob (job : Job) : Bool :=
  job.assetId = id && (job.assignedTo = user.identityId || job.createdBy = user.identityId)

/-- The context of `GET /audit/assets/:id`, for the asset that the service has found. -/
def auditContext (asset : Option Asset) (jobs : List Job) : PermissionContext :=
  let ownJob := jobs.find? (isOwnJob user id)
  { actorId := none
    resourceOwnerId := (ownJob.map Job.assignedTo).or (asset.map Asset.ownerId)
    authorizationGrantId := none
    explicitlyAuthorized := none }

/-- The route answers. -/
def Admitted (asset : Option Asset) (jobs : List Job) : Prop :=
  requirePermission user .VIEW_AUDIT_HISTORY (auditContext user id asset jobs) = .ok ()

end Resolver

variable {user : User} {id : String} {asset : Option Asset} {jobs : List Job}

theorem isOwnJob_iff {job : Job} : isOwnJob user id job = true ↔
    job.assetId = id ∧ (job.assignedTo = user.identityId ∨ job.createdBy = user.identityId) := by
  simp [isOwnJob]

/-- For a technician the owner in the context decides. -/
theorem admitted_iff (hrole : user.role = .TECHNICIAN) : Admitted user id asset jobs ↔
    (auditContext user id asset jobs).resourceOwnerId = some user.identityId := by
  have hcell : permissionFor .TECHNICIAN .VIEW_AUDIT_HISTORY = .OWN := rfl
  rw [Admitted,requirePermission_eq_ok,hrole,can_own hcell]
  constructor
  · rintro ⟨actor,hactor,howner⟩
    obtain rfl := Option.some.inj hactor
    exact howner
  · intro howner
    exact ⟨user.identityId,rfl,howner⟩

/-- The assignee of the first own job decides, where there is one. -/
theorem admitted_of_find {job : Job} (hrole : user.role = .TECHNICIAN)
    (hfind : jobs.find? (isOwnJob user id) = some job) :
    Admitted user id asset jobs ↔ job.assignedTo = user.identityId := by
  rw [admitted_iff hrole,auditContext,hfind]
  exact Option.some_inj

theorem admitted_of_none (hrole : user.role = .TECHNICIAN)
    (hfind : jobs.find? (isOwnJob user id) = none) :
    Admitted user id asset jobs ↔ asset.map Asset.ownerId = some user.identityId := by
  rw [admitted_iff hrole,auditContext,hfind]
  exact Iff.rfl

/-- The technician is admitted through every job that is their own. -/
def AdmitsOwn (user : User) (id : String) (asset : Option Asset) (jobs : List Job) : Prop :=
  (∃ job ∈ jobs,job.assetId = id ∧
    (job.assignedTo = user.identityId ∨ job.createdBy = user.identityId)) →
    Admitted user id asset jobs

/-- The decision is the same for every order of the jobs. -/
def OrderFree (user : User) (id : String) (asset : Option Asset) (jobs : List Job) : Prop :=
  ∀ jobs' : List Job,jobs'.Perm jobs →
    (Admitted user id asset jobs' ↔ Admitted user id asset jobs)

/-- Every job on the asset that the technician created is assigned to them as well. -/
def CreatedAreAssigned (user : User) (id : String) (jobs : List Job) : Prop :=
  ∀ job ∈ jobs,job.assetId = id → job.createdBy = user.identityId →
    job.assignedTo = user.identityId

theorem CreatedAreAssigned.admitted (h : CreatedAreAssigned user id jobs)
    (hrole : user.role = .TECHNICIAN) : Admitted user id asset jobs ↔
      (∃ job ∈ jobs,isOwnJob user id job = true) ∨
        asset.map Asset.ownerId = some user.identityId := by
  cases hfind : jobs.find? (isOwnJob user id) with
  | none =>
    have hnone : ¬∃ job ∈ jobs,isOwnJob user id job = true := by
      rintro ⟨job,hjob,hown⟩
      exact List.find?_eq_none.mp hfind job hjob hown
    rw [admitted_of_none hrole hfind,or_iff_right hnone]
  | some job =>
    have hmem := List.mem_of_find?_eq_some hfind
    have hown := List.find?_some hfind
    obtain ⟨hasset,hassigned | hcreated⟩ := isOwnJob_iff.mp hown
    · rw [admitted_of_find hrole hfind]
      exact iff_of_true hassigned (.inl ⟨job,hmem,hown⟩)
    · rw [admitted_of_find hrole hfind]
      exact iff_of_true (h job hmem hasset hcreated) (.inl ⟨job,hmem,hown⟩)

theorem CreatedAreAssigned.perm {jobs' : List Job} (h : CreatedAreAssigned user id jobs)
    (hperm : jobs'.Perm jobs) : CreatedAreAssigned user id jobs' :=
  fun job hjob => h job (hperm.mem_iff.mp hjob)

/-- What a technician may read depends on their jobs alone exactly if no job that they created is
assigned to somebody else. -/
theorem audit_permission_iff (hrole : user.role = .TECHNICIAN) :
    AdmitsOwn user id asset jobs ∧ OrderFree user id asset jobs ↔
      CreatedAreAssigned user id jobs := by
  constructor
  · rintro ⟨hown,horder⟩ job hjob hasset hcreated
    have hadmitted := hown ⟨job,hjob,hasset,.inr hcreated⟩
    -- the order in which this job comes first
    have hperm : (job::jobs.erase job).Perm jobs := (List.perm_cons_erase hjob).symm
    have hfind : (job::jobs.erase job).find? (isOwnJob user id) = some job :=
      List.find?_cons_of_pos (isOwnJob_iff.mpr ⟨hasset,.inr hcreated⟩)
    exact (admitted_of_find hrole hfind).mp ((horder _ hperm).mpr hadmitted)
  · intro h
    constructor
    · rintro ⟨job,hjob,hown⟩
      exact (h.admitted hrole).mpr (.inl ⟨job,hjob,isOwnJob_iff.mpr hown⟩)
    · intro jobs' hperm
      rw [h.admitted hrole,(h.perm hperm).admitted hrole]
      simp only [hperm.mem_iff]

/-- A technician, a job that they created for somebody else, and one that is assigned to them. -/
def technician : User :=
  ⟨"E-7","DID:BEL:7","0x07",.TECHNICIAN,"OPS",.ACTIVE⟩

def delegatedJob : Job :=
  ⟨"JOB-1","ASSET-1","DID:BEL:7","DID:BEL:8",none,.ASSIGNED,.LOW,"2026-01-01",none⟩

def assignedJob : Job :=
  ⟨"JOB-2","ASSET-1","DID:BEL:9","DID:BEL:7",none,.ASSIGNED,.LOW,"2026-01-02",none⟩

/-- The two orders of these jobs are answered differently. -/
theorem audit_permission_order : ¬∀ (user : User) (id : String) (asset : Option Asset)
    (jobs : List Job),user.role = .TECHNICIAN →
      AdmitsOwn user id asset jobs ∧ OrderFree user id asset jobs := by
  intro h
  have hjobs := (h technician "ASSET-1" none [delegatedJob,assignedJob] rfl).1
  have hadmitted := hjobs ⟨assignedJob,by simp,by decide,.inl (by decide)⟩
  revert hadmitted
  unfold Admitted
  decide

theorem audit_permission_assigned :
    AdmitsOwn technician "ASSET-1" none [assignedJob] ∧
      OrderFree technician "ASSET-1" none [assignedJob] := by
  apply (audit_permission_iff rfl).mpr
  intro job hjob
  obtain rfl := List.mem_singleton.mp hjob
  decide

end ChainRoutes
end BelLedger
