import BelLedger.GrantAgreement

/-!
# The expiry of a grant

The service compares milliseconds, the contract whole seconds in which 0 stands for never. A number
is taken for seconds by the planner and read as a date by the service.
-/
namespace BelLedger
open CheckedCalls TransitionRuns KeyedTables UsersService GrantsService AssetRegistry

section Clocks

/-- Not expired at `t` seconds; an expiry of 0 is none. -/
def LiveInSeconds (expiry t : ℕ) : Prop := expiry = 0 ∨ t < expiry

/-- Expired at `now` milliseconds. -/
def ExpiredAt (instant : Option ℤ) (now : ℤ) : Prop := ∃ ms ∈ instant,ms ≤ now

/-- What is live in seconds is not expired, and what is not expired a second later is live. -/
def SameExpiry (expiry : ℕ) (instant : Option ℤ) : Prop :=
  (∀ t : ℕ,LiveInSeconds expiry t → ¬ExpiredAt instant (1000 * t)) ∧
    ∀ t : ℕ,¬ExpiredAt instant (1000 * (t + 1)) → LiveInSeconds expiry t

theorem sameExpiry_none {expiry : ℕ} : SameExpiry expiry none ↔ expiry = 0 := by
  have hnever : ∀ now,¬ExpiredAt none now := by
    rintro now ⟨ms,hms,-⟩
    cases hms
  constructor
  · intro h
    have hlast := h.2 expiry (hnever _)
    unfold LiveInSeconds at hlast
    omega
  · intro h
    exact ⟨fun t _ => hnever _,fun t _ => .inl h⟩

theorem sameExpiry_some {expiry : ℕ} {ms : ℤ} :
    SameExpiry expiry (some ms) ↔
      1 ≤ expiry ∧ 1000 * ((expiry : ℤ) - 1) < ms ∧ ms ≤ 1000 * ((expiry : ℤ) + 1) := by
  have hexpired : ∀ now,ExpiredAt (some ms) now ↔ ms ≤ now := by
    intro now
    simp [ExpiredAt]
  simp only [SameExpiry,LiveInSeconds,hexpired,not_le]
  constructor
  · rintro ⟨hlive,hexpired⟩
    have hpos : 1 ≤ expiry := by
      -- an instant is over some day, no expiry never is
      by_contra hzero
      have hday := hlive ms.toNat (.inl (by omega))
      omega
    have hbefore := hlive (expiry - 1) (.inr (by omega))
    have hafter : ms ≤ 1000 * ((expiry : ℤ) + 1) := by
      by_contra hlate
      have := hexpired expiry (by omega)
      omega
    omega
  · rintro ⟨hpos,hbefore,hafter⟩
    constructor
    · intro t ht
      omega
    · intro t ht
      omega

/-- Rounding down to seconds is harmless from the first second on. -/
theorem sameExpiry_floor {ms : ℤ} (hms : 0 ≤ ms) :
    SameExpiry (ms / 1000).toNat (some ms) ↔ 1000 ≤ ms := by
  rw [sameExpiry_some]
  omega

end Clocks

section Values
variable {P : Platform} {grant : AuthorizationGrant} {type : TransactionType} {expiry : ℕ}

/-- The instant from which the service takes a grant for expired. -/
def Expiry.instant (P : Platform) (expiresAt : Option Expiry) : Option ℤ :=
  expiresAt.bind (fun value => if value.truthy then P.dateParse value.toText else none)

/-- Both sides read the same expiry out of the value: a string that is no date of the first second, or
a number that is 0 or agrees with what its text is read as. -/
def ReadAlike (P : Platform) : Option Expiry → Prop
  | none => True
  | some (.string s) => s = "" ∨ ∀ ms ∈ P.dateParse s,¬(0 ≤ ms ∧ ms < 1000)
  | some (.number q text) => q = 0 ∨
    match P.dateParse text with
    | none => q.floor = 0
    | some ms => 1 ≤ q.floor ∧ 1000 * (q.floor - 1) < ms ∧ ms ≤ 1000 * (q.floor + 1)

theorem grantIsExpired_iff {now : ℤ} :
    grantIsExpired P grant now = true ↔ ExpiredAt (Expiry.instant P grant.expiresAt) now := by
  rw [grantIsExpired,Expiry.instant,ExpiredAt]
  cases grant.expiresAt with
  | none => simp
  | some value =>
    cases htruthy : value.truthy with
    | false => simp [htruthy]
    | true =>
      cases hdate : P.dateParse value.toText with
      | none => simp [htruthy,hdate]
      | some ms => simp [htruthy,hdate]

/-- The seconds that pass the check of the planner. -/
private theorem seconds_of_eq_ok {seconds : Option ℤ}
    (h : (match seconds with
      | some s => if s < 0 ∨ 2 ^ 64 < s then
          Payloads.invalid type "payload.expiresAt is invalid" else .ok s.toNat
      | none => Payloads.invalid type "payload.expiresAt is invalid") = .ok expiry) :
    ∃ s,seconds = some s ∧ 0 ≤ s ∧ expiry = s.toNat := by
  cases seconds with
  | none => cases h
  | some s =>
    simp only at h
    split at h
    · cases h
    · rename_i hrange
      rw [not_or,not_lt] at hrange
      exact ⟨s,rfl,hrange.1,(Except.ok.inj h).symm⟩

/-- What the planner makes of the expiry of a grant. -/
private theorem grantExpiry_eq_ok
    (h : Payloads.grantExpiry P.dateParse type (grantPayload grant) = .ok expiry) :
    ∃ seconds : ℤ,0 ≤ seconds ∧ expiry = seconds.toNat ∧
      match grant.expiresAt with
      | none => seconds = 0
      | some (.string s) => (s = "" ∧ seconds = 0) ∨
        (s ≠ "" ∧ ∃ ms,P.dateParse s = some ms ∧ seconds = ms / 1000)
      | some (.number q _) => seconds = q.floor := by
  unfold Payloads.grantExpiry at h
  obtain ⟨seconds,hvalue,hnonneg,rfl⟩ := seconds_of_eq_ok h
  refine ⟨seconds,hnonneg,rfl,?_⟩
  simp only [grantPayload,Payload.get_cons] at hvalue
  cases hexpiry : grant.expiresAt with
  | none =>
    simp [hexpiry] at hvalue
    exact hvalue.symm
  | some value =>
    cases value with
    | string s =>
      simp [hexpiry,Expiry.value] at hvalue
      split at hvalue
      · rename_i hempty
        exact .inl ⟨hempty,(Option.some.inj hvalue).symm⟩
      · rename_i hne
        obtain ⟨ms,hms,rfl⟩ := Option.map_eq_some_iff.mp hvalue
        exact .inr ⟨hne,ms,hms,rfl⟩
    | number q text =>
      simp [hexpiry,Expiry.value] at hvalue
      exact hvalue.symm

/-- The expiry that the planner accepts is that of the service exactly when both read it alike. -/
theorem sameExpiry_iff_readAlike
    (h : Payloads.grantExpiry P.dateParse type (grantPayload grant) = .ok expiry) :
    SameExpiry expiry (Expiry.instant P grant.expiresAt) ↔ ReadAlike P grant.expiresAt := by
  obtain ⟨seconds,hnonneg,rfl,hvalue⟩ := grantExpiry_eq_ok h
  cases hexpiry : grant.expiresAt with
  | none =>
    simp only [hexpiry] at hvalue
    subst hvalue
    exact iff_of_true (sameExpiry_none.mpr rfl) trivial
  | some value =>
  cases value with
  | string s =>
    simp only [hexpiry] at hvalue
    rcases hvalue with ⟨rfl,rfl⟩ | ⟨hne,ms,hms,rfl⟩
    · exact iff_of_true (sameExpiry_none.mpr rfl) (.inl rfl)
    · have hinstant : Expiry.instant P (some (.string s)) = some ms := by
        simp [Expiry.instant,Expiry.truthy,Expiry.toText,hne,hms]
      rw [hinstant,sameExpiry_floor (by omega)]
      simp only [ReadAlike,hne,hms,false_or,Option.mem_def,Option.some.injEq,forall_eq']
      omega
  | number q text =>
    simp only [hexpiry] at hvalue
    subst hvalue
    by_cases hzero : q = 0
    · subst hzero
      exact iff_of_true (sameExpiry_none.mpr rfl) (.inl rfl)
    · have hinstant : Expiry.instant P (some (.number q text)) = P.dateParse text := by
        simp [Expiry.instant,Expiry.truthy,Expiry.toText,hzero]
      rw [hinstant]
      simp only [ReadAlike,hzero,false_or]
      cases P.dateParse text with
      | none =>
        rw [sameExpiry_none]
        simp only
        omega
      | some ms =>
        rw [sameExpiry_some]
        simp only
        omega

end Values

section Creation
variable {H : Type} {P : Platform} {w : World H} {n expiry : ℕ} {a : Address}
  {grant : AuthorizationGrant}

/-- What the contract takes for unexpired at `t` seconds is unexpired for the service, and what the
service takes for unexpired a second later is so for the contract at `t`. -/
def ExpiresAlike (P : Platform) (w : World H) (n : ℕ) (a : Address) (grant : AuthorizationGrant) :
    Prop :=
  (∀ env,hasActiveTransferGrant w.assets env n a = true →
    grantIsExpired P grant (1000 * env.timestamp) = false) ∧
  ∀ env,grantIsExpired P grant (1000 * (env.timestamp + 1)) = false →
    hasActiveTransferGrant w.assets env n a = true

theorem expiresAlike_iff (hslot : w.assets.transferGrants n a = ⟨expiry,true⟩) :
    ExpiresAlike P w n a grant ↔ SameExpiry expiry (Expiry.instant P grant.expiresAt) := by
  have hlive : ∀ env,hasActiveTransferGrant w.assets env n a = true ↔
      LiveInSeconds expiry env.timestamp := by
    intro env
    simp [hasActiveTransferGrant,hslot,LiveInSeconds]
  have hexpired : ∀ now,grantIsExpired P grant now = false ↔
      ¬ExpiredAt (Expiry.instant P grant.expiresAt) now := by
    intro now
    rw [← grantIsExpired_iff,Bool.not_eq_true]
  simp only [ExpiresAlike,SameExpiry,hlive,hexpired]
  constructor
  · rintro ⟨hchain,hservice⟩
    exact ⟨fun t => hchain ⟨0,t,0,0⟩,fun t => hservice ⟨0,t,0,0⟩⟩
  · rintro ⟨hchain,hservice⟩
    exact ⟨fun env => hchain env.timestamp,fun env => hservice env.timestamp⟩

/-- The slot of a grant and the expiry it is to hold. -/
structure GrantTerms (P : Platform) (lookups : ChainLookups) (grant : AuthorizationGrant) (n : ℕ)
    (a : Address) (expiry : ℕ) : Prop where
  token : n = lookups.nftIdOf (jsTrim grant.resourceId)
  wallet : Payloads.party P.parseAddress .GRANT_CREATE (grantPayload grant) ["actorIdentityId"]
    lookups true = .ok a
  expiresAt : Payloads.grantExpiry P.dateParse .GRANT_CREATE (grantPayload grant) = .ok expiry

private theorem plan_grantCreate {lookups : ChainLookups} {call : Call}
    (h : Payloads.buildCallPlan P.parseAddress P.dateParse .GRANT_CREATE (grantPayload grant) lookups =
      .ok call) :
    ∃ n a expiry grantId,GrantTerms P lookups grant n a expiry ∧
      call = .setTransferGrant n a expiry true grantId := by
  obtain ⟨n,a,expiry,grantId,⟨htoken,-⟩,ha,hexpiry,hcall⟩ := plan_setsGrant (.inl rfl) h
  exact ⟨n,a,expiry,grantId,⟨htoken,ha,hexpiry⟩,hcall⟩

variable [Keccak H] [DecidableEq H]

/-- A grant that was created fills a slot with the expiry that the planner made of its value. -/
theorem createGrant_slot {ctx : GrantContext} {s s' : GrantSystem H}
    {actorId targetId uuid : String} {input : GrantInput} {d : Delivery} (hevm : ctx.users.evm = true)
    (h : createGrant P ctx s actorId targetId input uuid d = (s',.ok grant)) :
    grant.expiresAt = input.expiresAt ∧ s'.grants.find grant.authorizationGrantId = some grant ∧
    ∃ n a expiry,GrantTerms P (EvmAdapter.lookups s.chain) grant n a expiry ∧
      s'.chain.assets.transferGrants n a = ⟨expiry,true⟩ := by
  unfold createGrant GrantsService.conclude at h
  split at h
  · cases (Prod.mk.inj h).2
  · rename_i actor created hchecked
    split at h
    · cases (Prod.mk.inj h).2
    · rename_i chain hsubmit
      obtain ⟨rfl,hgrant⟩ := Prod.mk.inj h
      obtain rfl : created = grant := Except.ok.inj hgrant
      obtain ⟨-,-,-,hexpires,-,-,-⟩ := createGrantCheck_eq_ok hchecked
      obtain ⟨⟨env,call⟩,-,hprepare,hexec⟩ := submit_succeeds hevm hsubmit
      obtain ⟨n,a,expiry,grantId,hterms,hcall⟩ := plan_grantCreate (EvmAdapter.prepare_call hprepare)
      obtain rfl : call = .setTransferGrant n a expiry true grantId := hcall
      obtain ⟨-,-,-,log,rfl,-⟩ := setTransferGrant_cases hexec
      refine ⟨hexpires,?_,n,a,expiry,hterms,?_⟩
      · rw [Table.find_save]
        exact if_pos rfl
      · simp only [Function.update_self]

/-- A grant that was created expires alike on both sides exactly when both read its expiry alike. -/
theorem grant_expires_alike_iff (P : Platform) (ctx : GrantContext) (hevm : ctx.users.evm = true)
    (s s' : GrantSystem H) (actorId targetId uuid : String) (input : GrantInput) (d : Delivery)
    (grant : AuthorizationGrant)
    (h : createGrant P ctx s actorId targetId input uuid d = (s',.ok grant)) :
    s'.grants.find grant.authorizationGrantId = some grant ∧
    ∃ n a expiry,GrantTerms P (EvmAdapter.lookups s.chain) grant n a expiry ∧
      s'.chain.assets.transferGrants n a = ⟨expiry,true⟩ ∧
      (ExpiresAlike P s'.chain n a grant ↔ ReadAlike P input.expiresAt) := by
  obtain ⟨hexpires,hrow,n,a,expiry,hterms,hslot⟩ := createGrant_slot hevm h
  refine ⟨hrow,n,a,expiry,hterms,hslot,?_⟩
  rw [expiresAlike_iff hslot,sameExpiry_iff_readAlike hterms.expiresAt,hexpires]

end Creation

section Prototype

/-- Three texts and what `Date.parse` makes of them; a number of seconds is no date. -/
def datedPlatform : Platform :=
  { prototypePlatform with
    dateParse := fun text =>
      if text = "1970-01-01T00:00:00.500Z" then some 500
      else if text = "2030-01-01T00:00:00.000Z" then some 1893456000000 else none }

def createRadarGrant (expiresAt : Expiry) :
    GrantSystem (Option Bytes) × Except ServiceError AuthorizationGrant :=
  createGrant datedPlatform grantContext workshopGrants "ADMIN" "E-1"
    { radarGrant with expiresAt := some expiresAt } "1" (deliveryOf 12 .mined)

def datedGrant (expiresAt : Expiry) : AuthorizationGrant :=
  ⟨"GRANT-1","DID:BEL:ENG",.ASSET,"RADAR-1",.TRANSFER_ASSET,"DID:BEL:ADMIN",
    "2025-11-18T09:00:00.000Z",some expiresAt,.ACTIVE⟩

def newYear : Expiry := .string "2030-01-01T00:00:00.000Z"

theorem new_year_grant_expires_alike :
    ∃ n a expiry,
      (createRadarGrant newYear).1.chain.assets.transferGrants n a = ⟨expiry,true⟩ ∧
      ExpiresAlike datedPlatform (createRadarGrant newYear).1.chain n a (datedGrant newYear) := by
  have hcreated : (createRadarGrant newYear).2 = .ok (datedGrant newYear) := by decide +kernel
  have hdate : datedPlatform.dateParse "2030-01-01T00:00:00.000Z" = some 1893456000000 := by decide
  obtain ⟨-,n,a,expiry,-,hslot,hiff⟩ := grant_expires_alike_iff datedPlatform grantContext rfl
    workshopGrants _ "ADMIN" "E-1" "1" { radarGrant with expiresAt := some newYear }
    (deliveryOf 12 .mined) (datedGrant newYear) (Prod.ext rfl hcreated)
  refine ⟨n,a,expiry,hslot,hiff.mpr (.inr ?_)⟩
  intro ms hms
  obtain rfl := Option.some.inj (hdate.symm.trans hms)
  omega

/-- A number of seconds never expires for the service, and half a second after the epoch never does on
chain. -/
theorem grants_expire_apart :
    ((createRadarGrant (.number 1900000000 "1900000000")).2 =
        .ok (datedGrant (.number 1900000000 "1900000000")) ∧
      grantIsExpired datedPlatform (datedGrant (.number 1900000000 "1900000000"))
        (1000 * (1900000000 + 1)) = false ∧
      hasActiveTransferGrant (createRadarGrant (.number 1900000000 "1900000000")).1.chain.assets
        ⟨0xe1,1900000000,15,1⟩ 1 0xe1 = false ∧
      ¬ExpiresAlike datedPlatform (createRadarGrant (.number 1900000000 "1900000000")).1.chain 1 0xe1
        (datedGrant (.number 1900000000 "1900000000"))) ∧
    (createRadarGrant (.string "1970-01-01T00:00:00.500Z")).2 =
        .ok (datedGrant (.string "1970-01-01T00:00:00.500Z")) ∧
      hasActiveTransferGrant (createRadarGrant (.string "1970-01-01T00:00:00.500Z")).1.chain.assets
        ⟨0xe1,1,15,1⟩ 1 0xe1 = true ∧
      grantIsExpired datedPlatform (datedGrant (.string "1970-01-01T00:00:00.500Z")) (1000 * 1) =
        true ∧
      ¬ExpiresAlike datedPlatform (createRadarGrant (.string "1970-01-01T00:00:00.500Z")).1.chain 1
        0xe1 (datedGrant (.string "1970-01-01T00:00:00.500Z")) := by
  have hseconds : hasActiveTransferGrant
      (createRadarGrant (.number 1900000000 "1900000000")).1.chain.assets
        ⟨0xe1,1900000000,15,1⟩ 1 0xe1 = false := by
    decide +kernel
  have hhalf : hasActiveTransferGrant
      (createRadarGrant (.string "1970-01-01T00:00:00.500Z")).1.chain.assets ⟨0xe1,1,15,1⟩ 1 0xe1 =
        true := by
    decide +kernel
  refine ⟨⟨by decide +kernel,by decide +kernel,hseconds,?_⟩,by decide +kernel,hhalf,
    by decide +kernel,?_⟩
  · rintro ⟨-,hlate⟩
    have hactive := hlate ⟨0xe1,1900000000,15,1⟩ (by decide +kernel)
    rw [hseconds] at hactive
    cases hactive
  · rintro ⟨hearly,-⟩
    have hexpired := hearly ⟨0xe1,1,15,1⟩ hhalf
    exact absurd hexpired (by decide +kernel)

end Prototype
end BelLedger
