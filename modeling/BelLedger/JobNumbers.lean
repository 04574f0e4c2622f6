import BelLedger.JobRecovery

/-!
# The numbers of jobs

A job that is created without an id is numbered after the rows that are stored. Callers may choose
ids of the same form, and a creation whose response is lost takes an id without storing a row.
-/
namespace BelLedger
open CheckedCalls TransitionRuns KeyedTables JobsService

variable {H : Type} [Keccak H]

/-- The id of the `n`-th job. -/
def numberedId (n : ℕ) : String := "JOB-"++toString n

theorem numberedId_injective : Function.Injective numberedId := by
  intro m n h
  have hdigits : toString m = toString n := by
    have hchars := congrArg String.toList h
    simp only [numberedId,String.toList_append] at hchars
    exact String.toList_injective (List.append_cancel_left hchars)
  rw [← decimalValue_toString m,hdigits,decimalValue_toString]

/-- The job exists in the repository or on chain. -/
def JobTaken (s : JobSystem H) (id : String) : Prop :=
  s.jobs.find id ≠ none ∨ (JobManager.job s.chain (utf8 id)).status ≠ .NONE

/-- The id that a creation without a `jobId` would get is taken on neither side. -/
def AutomaticIdFree (s : JobSystem H) : Prop :=
  ∀ input : CreateInput,jsTrim (input.jobId.getD "") = "" → ¬JobTaken s (newJobId s.jobs input)

/-- The rows there will be when the request has been executed. -/
def JobRequest.rowsAfter (s : JobSystem H) (q : JobRequest) : ℕ :=
  if q.delivery.fate.Lost then s.jobs.rows.length else s.jobs.rows.length + 1

/-- A creation takes no number beyond the rows there will be after it. -/
def JobEvent.KeepsNumbers (s : JobSystem H) : JobEvent → Prop
  | .request q =>
    match q.action with
    | .create input => ∀ n,newJobId s.jobs input = numberedId n → n ≤ q.rowsAfter s
    | .change _ _ => True
  | .external _ => True

/-- Every number that is taken is at most the number of rows. -/
def NumbersReached (s : JobSystem H) : Prop :=
  ∀ n,JobTaken s (numberedId n) → n ≤ s.jobs.rows.length

theorem newJobId_automatic {jobs : JobTable} {input : CreateInput}
    (h : jsTrim (input.jobId.getD "") = "") :
    newJobId jobs input = numberedId (jobs.rows.length + 1) := by
  rw [newJobId,if_neg (not_not.mpr h)]
  rfl

theorem NumbersReached.automaticIdFree {s : JobSystem H} (h : NumbersReached s) :
    AutomaticIdFree s := by
  intro input hnone htaken
  rw [newJobId_automatic hnone] at htaken
  have hle := h _ htaken
  omega

section Steps
variable [DecidableEq H] {P : Platform} {s : JobSystem H} {q : JobRequest} {tx : Tx} {row : Job}
  {chain : World H}

private theorem taken_foreign (hkeeps : KeepsJobs s.chain chain) {id : String} :
    JobTaken ⟨s.jobs,chain⟩ id ↔ JobTaken s id := by
  unfold JobTaken
  rw [hkeeps.job_eq]

/-- An executed request takes the id of its row and no other. -/
private theorem taken_executed (hinj : Function.Injective (keccak256 : Bytes → H)) (h : Grounded s)
    (hq : q.Foreign) (haccepted : Accepted P s q tx row) (hexec : exec (q.chainAt s) tx = .ok chain)
    {jobs : JobTable} (hjobs : jobs = s.jobs ∨ jobs = s.jobs.save row) {id : String} :
    JobTaken ⟨jobs,chain⟩ id ↔ id = row.jobId ∨ JobTaken s id := by
  have hkeeps := hq.keepsJobs h
  obtain ⟨hstatus,hother⟩ : (JobManager.job chain (utf8 row.jobId)).status ≠ .NONE ∧
      ∀ jobId,jobId ≠ utf8 row.jobId → JobManager.job chain jobId =
        JobManager.job (q.chainAt s) jobId := by
    obtain ⟨-,⟨-,heffect⟩ | ⟨old,-,heffect⟩⟩ := haccepted.effect hinj h.trimmed
      (hkeeps.reachable h.reachable).deployed hexec
    · rw [heffect.status]
      exact ⟨by decide,heffect.other⟩
    · rw [heffect.jobId,heffect.status]
      exact ⟨row.status.onChain_ne_none,heffect.other⟩
  by_cases hid : id = row.jobId
  · subst hid
    exact ⟨fun _ => .inl rfl,fun _ => .inr hstatus⟩
  · have hfind : jobs.find id = s.jobs.find id := by
      rcases hjobs with rfl | rfl
      · rfl
      · rw [Table.find_save,if_neg (fun he => hid he.symm)]
    unfold JobTaken
    dsimp only
    rw [hfind,hother _ (fun he => hid (utf8_injective he)),hkeeps.job_eq]
    exact ⟨.inr,fun htaken => htaken.resolve_left hid⟩

omit [DecidableEq H] in
/-- The row is new and has the id of the creation, or it is stored already. -/
private theorem row_new_or_stored (haccepted : Accepted P s q tx row) :
    (s.jobs.find row.jobId = none ∧
      ∃ input,q.action = .create input ∧ row.jobId = newJobId s.jobs input) ∨
    s.jobs.find row.jobId ≠ none := by
  by_cases hfind : s.jobs.find row.jobId = none
  · unfold Accepted at haccepted
    cases haction : q.action with
    | create input =>
      rw [haction] at haccepted
      exact .inl ⟨hfind,input,rfl,congrArg Job.jobId haccepted.2.1⟩
    | change id change =>
      rw [haction] at haccepted
      obtain ⟨old,hold,-,rfl,-⟩ := haccepted
      rw [change_jobId,Table.key_of_find hold,hold] at hfind
      cases hfind
  · exact .inr hfind

theorem NumbersReached.step (hinj : Function.Injective (keccak256 : Bytes → H)) (h : Grounded s)
    (hreached : NumbersReached s) {e : JobEvent} (he : e.Foreign) (hkept : e.KeepsNumbers s) :
    NumbersReached (s.step P e) := by
  cases e with
  | external tx =>
    exact fun n htaken => hreached n ((taken_foreign (attempt_keepsJobs h.reachable he)).mp htaken)
  | request q =>
    have hq : q.Foreign := he
    -- the number of the row, when it is new
    have hnumber : ∀ {tx row n},Accepted P s q tx row → s.jobs.find row.jobId = none →
        row.jobId = numberedId n → n ≤ q.rowsAfter s := by
      intro tx row n haccepted hfresh hid
      obtain ⟨-,input,haction,hnew⟩ := (row_new_or_stored haccepted).resolve_right
        (fun hstored => hstored hfresh)
      rw [JobEvent.KeepsNumbers,haction] at hkept
      exact hkept n (hnew.symm.trans hid)
    change NumbersReached (serve P s q).1
    have hreturn := serve_outcome P s q
    generalize (serve P s q).1 = s',(serve P s q).2 = r at hreturn
    cases hreturn with
    | failed e chain hchain =>
      intro n htaken
      rcases hchain with rfl | rfl
      · exact hreached n htaken
      · exact hreached n ((taken_foreign (hq.keepsJobs h)).mp htaken)
    | lost e tx row chain hfate hsigned haccepted hexec =>
      intro n htaken
      rcases (taken_executed hinj h hq haccepted hexec (.inl rfl)).mp htaken with hid | hold
      · by_cases hfresh : s.jobs.find row.jobId = none
        · have hle := hnumber haccepted hfresh hid.symm
          rwa [JobRequest.rowsAfter,if_pos hfate] at hle
        · exact hreached n (.inl (hid ▸ hfresh))
      · exact hreached n hold
    | done tx row chain haccepted hexec =>
      intro n htaken
      rw [Table.length_save]
      rcases (taken_executed hinj h hq haccepted hexec (.inr rfl)).mp htaken with hid | hold
      · by_cases hfresh : s.jobs.find row.jobId = none
        · have hle := hnumber haccepted hfresh hid.symm
          have hrows : q.rowsAfter s ≤ s.jobs.rows.length + 1 := by
            unfold JobRequest.rowsAfter
            split
            · omega
            · omega
          rw [if_pos hfresh]
          omega
        · exact (hreached n (.inl (hid ▸ hfresh))).trans (Nat.le_add_right _ _)
      · exact (hreached n hold).trans (Nat.le_add_right _ _)

/-- An id that is taken stays taken. -/
theorem JobTaken.step (hinj : Function.Injective (keccak256 : Bytes → H)) (h : Grounded s)
    {e : JobEvent} (he : e.Foreign) {id : String} (htaken : JobTaken s id) :
    JobTaken (s.step P e) id := by
  cases e with
  | external tx => exact (taken_foreign (attempt_keepsJobs h.reachable he)).mpr htaken
  | request q =>
    have hq : q.Foreign := he
    change JobTaken (serve P s q).1 id
    have hreturn := serve_outcome P s q
    generalize (serve P s q).1 = s',(serve P s q).2 = r at hreturn
    cases hreturn with
    | failed e chain hchain =>
      rcases hchain with rfl | rfl
      · exact htaken
      · exact (taken_foreign (hq.keepsJobs h)).mpr htaken
    | lost e tx row chain hfate hsigned haccepted hexec =>
      exact (taken_executed hinj h hq haccepted hexec (.inl rfl)).mpr (.inr htaken)
    | done tx row chain haccepted hexec =>
      exact (taken_executed hinj h hq haccepted hexec (.inr rfl)).mpr (.inr htaken)

end Steps

section Runs
variable [DecidableEq H] {P : Platform} {s : JobSystem H} {events : List JobEvent}

/-- A request body without fields. -/
private def noInput : CreateInput := ⟨none,none,none,none,none⟩

private theorem JobTaken.run (hinj : Function.Injective (keccak256 : Bytes → H)) (h : Grounded s)
    (hforeign : ∀ e ∈ events,e.Foreign) {id : String} (htaken : JobTaken s id) :
    JobTaken (s.run P events) id := by
  have hboth : Grounded (s.run P events) ∧ JobTaken (s.run P events) id := by
    refine List.foldlRecOn (motive := fun s => Grounded s ∧ JobTaken s id) events (JobSystem.step P)
      ⟨h,htaken⟩ ?_
    rintro s ⟨h,htaken⟩ e he
    exact ⟨h.step hinj (hforeign e he),htaken.step hinj h (hforeign e he)⟩
  exact hboth.2

private theorem NumbersReached.run (hinj : Function.Injective (keccak256 : Bytes → H))
    (h : Grounded s) (hreached : NumbersReached s) (hforeign : ∀ e ∈ events,e.Foreign)
    (hkept : Throughout (JobSystem.step P) JobEvent.KeepsNumbers s events) :
    NumbersReached (s.run P events) := by
  have hboth := (hkept.and hforeign).invariant (I := fun s => Grounded s ∧ NumbersReached s)
    (fun s e hs he => ⟨hs.1.step hinj he.2,hs.2.step hinj hs.1 he.2 he.1⟩) ⟨h,hreached⟩
  exact hboth.2

/-- Whoever creates jobs without ids finds the next number free in every state of a run, as long as no
creation takes a number beyond the rows there will be after it. A number that is taken too early is
in the way as soon as its turn comes. -/
theorem automatic_ids_free (hinj : Function.Injective (keccak256 : Bytes → H)) (P : Platform)
    {w₀ : World H} (hw₀ : Reachable w₀) (hempty : ∀ jobId,(JobManager.job w₀ jobId).status = .NONE)
    (events : List JobEvent) (hforeign : ∀ e ∈ events,e.Foreign) :
    (Throughout (JobSystem.step P) JobEvent.KeepsNumbers ⟨.empty,w₀⟩ events →
      ∀ k,AutomaticIdFree (JobSystem.run P ⟨.empty,w₀⟩ (events.take k))) ∧
    ∀ k n,JobTaken (JobSystem.run P ⟨.empty,w₀⟩ (events.take k)) (numberedId n) →
      (JobSystem.run P ⟨.empty,w₀⟩ events).jobs.rows.length + 1 = n →
      ¬AutomaticIdFree (JobSystem.run P ⟨.empty,w₀⟩ events) := by
  have hstart : Grounded (⟨.empty,w₀⟩ : JobSystem H) :=
    ⟨hw₀,fun row hrow => absurd hrow List.not_mem_nil⟩
  constructor
  · intro hkept k
    have hnone : NumbersReached (⟨.empty,w₀⟩ : JobSystem H) := by
      rintro n (hrow | hjob)
      · exact absurd rfl hrow
      · exact absurd (hempty _) hjob
    exact (hnone.run hinj hstart (fun e he => hforeign e (List.mem_of_mem_take he))
      (hkept.take k)).automaticIdFree
  · intro k n htaken hn hfree
    have hbefore : Grounded (JobSystem.run P ⟨.empty,w₀⟩ (events.take k)) :=
      hstart.run hinj (fun e he => hforeign e (List.mem_of_mem_take he))
    have hlater := htaken.run (P := P) hinj hbefore
      (fun e (he : e ∈ events.drop k) => hforeign e (List.mem_of_mem_drop he))
    have hsplit : JobSystem.run P (JobSystem.run P ⟨.empty,w₀⟩ (events.take k)) (events.drop k) =
        JobSystem.run P ⟨.empty,w₀⟩ events := by
      unfold JobSystem.run
      rw [← List.foldl_append,List.take_append_drop]
    have hid : ∀ jobs : JobTable,newJobId jobs noInput = numberedId (jobs.rows.length + 1) :=
      fun jobs => newJobId_automatic (by decide)
    rw [hsplit,← hn,← hid] at hlater
    exact hfree noInput (by decide) hlater

end Runs

section Prototype

/-- The same job under an id of the caller's choice. -/
def namedInput (jobId : String) : CreateInput := { radarInput with jobId := some jobId }

/-- Creations by the engineer, each with its block and the fate of its transaction. -/
def creations (inputs : List (ℕ × Fate × CreateInput)) : List JobEvent :=
  inputs.map (fun x => .request (requestOf ENG x.1 x.2.1 (.create x.2.2)))

private theorem creations_foreign (inputs : List (ℕ × Fate × CreateInput)) :
    ∀ e ∈ creations inputs,e.Foreign := by
  intro e he
  obtain ⟨x,-,rfl⟩ := List.mem_map.mp he
  exact requestOf_foreign _ _ _ _

/-- The second job takes the number that is next, the third a name that is no number. -/
def numberedJobs : List JobEvent :=
  creations [(12,.mined,radarInput),(13,.mined,namedInput "JOB-2"),
    (14,.mined,namedInput "RADAR-CHECK")]

private theorem numberedJobs_keep :
    Throughout (JobSystem.step prototypePlatform) JobEvent.KeepsNumbers ⟨.empty,workshop⟩
      numberedJobs := by
  refine ⟨?_,?_,?_,trivial⟩
  · intro n hn
    have hone : n = 1 := numberedId_injective (hn.symm.trans (by decide +kernel))
    rw [hone]
    decide +kernel
  · intro n hn
    have htwo : n = 2 := numberedId_injective (hn.symm.trans (by decide +kernel))
    rw [htwo]
    decide +kernel
  · intro n hn
    have hletter : (numberedId n).toList.head? = some 'J' := by
      simp [numberedId]
    rw [← hn] at hletter
    exact absurd hletter (by decide +kernel)

theorem numberedJobs_free : AutomaticIdFree (workshopRun numberedJobs) :=
  (automatic_ids_free prototype_keccak_injective prototypePlatform workshop_reachable workshop_no_jobs
    numberedJobs (creations_foreign _)).1 numberedJobs_keep 3

/-- The first job is called JOB-2, or the response to its creation is lost: now no job can be created
without an id. -/
theorem automatic_id_taken :
    (∀ e ∈ creations [(12,.mined,namedInput "JOB-2")],e.Foreign) ∧
    (serve prototypePlatform (workshopRun (creations [(12,.mined,namedInput "JOB-2")]))
      (requestOf ENG 13 .mined (.create radarInput))).2 =
        .error (.ValidationError ["jobId JOB-2 already exists"]) ∧
    (∀ e ∈ creations [(12,.lost timeout,radarInput)],e.Foreign) ∧
    (serve prototypePlatform (workshopRun (creations [(12,.lost timeout,radarInput)]))
      (requestOf ENG 13 .mined (.create radarInput))).2 =
        .error (.Rejected .JOB_CREATE (.JobAlreadyExists (utf8 "JOB-1"))) :=
  ⟨creations_foreign _,by decide +kernel,creations_foreign _,by decide +kernel⟩

end Prototype

end BelLedger
