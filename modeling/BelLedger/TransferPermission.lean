import BelLedger.AssetsService
import BelLedger.GrantExpiry
import BelLedger.PermissionMatrix

/-!
# The permission to transfer an asset

The route that transfers an asset and the route that prepares the transfer look for a grant in loops of
their own. The second one does not pass on which grant it has found.
-/
namespace BelLedger
open KeyedTables UsersService GrantsService

namespace AssetsRoutes

section Routes
variable {H : Type} (P : Platform) (identityId assetId : String) (now : ℤ)

/-- What both loops look for in a row, before it is validated. -/
def grantApplies (candidate : AuthorizationGrant) : Bool :=
  candidate.resourceType = .ASSET && candidate.resourceId = assetId &&
    candidate.action = .TRANSFER_ASSET && candidate.status = .ACTIVE

/-- The loop of `POST /assets/:id/transfer`. -/
def transferGrant (s : GrantSystem H) :
    List AuthorizationGrant → GrantSystem H × Option AuthorizationGrant
  | [] => (s,none)
  | candidate :: grants =>
    if grantApplies assetId candidate = false then transferGrant s grants
    else match validateGrant P s candidate.authorizationGrantId identityId assetId .TRANSFER_ASSET now with
      | (s',true) => (s',some candidate)
      | (s',false) => transferGrant s' grants

/-- The loop of `POST /assets/:id/transfer/prepare`. -/
def transferAuthorized (s : GrantSystem H) : List AuthorizationGrant → GrantSystem H × Bool
  | [] => (s,false)
  | grant :: grants =>
    if grantApplies assetId grant then
      match validateGrant P s grant.authorizationGrantId identityId assetId .TRANSFER_ASSET now with
      | (s',true) => (s',true)
      | (s',false) => transferAuthorized s' grants
    else transferAuthorized s grants

end Routes

section Requests
variable {H : Type} (P : Platform) (order : List AuthorizationGrant → List AuthorizationGrant)
  (s : GrantSystem H) (user : User) (asset : Option Asset) (now : ℤ)

/-- The context of `POST /assets/:id/transfer`, for the asset that the service has found. -/
def transferContext : GrantSystem H × PermissionContext :=
  match asset with
  | none =>
    (s,{ actorId := none, resourceOwnerId := none, authorizationGrantId := none
         explicitlyAuthorized := some false })
  | some asset =>
    let (s',grant) := transferGrant P user.identityId asset.assetId now s
      (order (listByIdentityId s user.identityId))
    (s',{ actorId := none
          resourceOwnerId := some asset.ownerId
          authorizationGrantId := grant.map AuthorizationGrant.authorizationGrantId
          explicitlyAuthorized := some grant.isSome })

def prepareContext : GrantSystem H × PermissionContext :=
  match asset with
  | none =>
    (s,{ actorId := none, resourceOwnerId := none, authorizationGrantId := none
         explicitlyAuthorized := some false })
  | some asset =>
    let (s',authorized) := transferAuthorized P user.identityId asset.assetId now s
      (order (listByIdentityId s user.identityId))
    (s',{ actorId := none
          resourceOwnerId := some asset.ownerId
          authorizationGrantId := none
          explicitlyAuthorized := some authorized })

/-- The permission check of `POST /assets/:id/transfer`. -/
def transferPermission : GrantSystem H × Except ServiceError Unit :=
  let (s',ctx) := transferContext P order s user asset now
  (s',requirePermission user .TRANSFER_ASSET ctx)

/-- The permission check of `POST /assets/:id/transfer/prepare`. -/
def preparePermission : GrantSystem H × Except ServiceError Unit :=
  let (s',ctx) := prepareContext P order s user asset now
  (s',requirePermission user .TRANSFER_ASSET ctx)

end Requests

section Loops
variable {H : Type} {P : Platform} {identityId assetId : String} {now : ℤ}

/-- The two loops do the same. -/
theorem transferAuthorized_eq (s : GrantSystem H) (grants : List AuthorizationGrant) :
    transferAuthorized P identityId assetId now s grants =
      ((transferGrant P identityId assetId now s grants).1,
        (transferGrant P identityId assetId now s grants).2.isSome) := by
  induction grants generalizing s with
  | nil => rfl
  | cons grant grants ih =>
    unfold transferAuthorized transferGrant
    cases grantApplies assetId grant with
    | false => exact ih s
    | true =>
      simp only [if_true,Bool.true_eq_false,if_false]
      cases validateGrant P s grant.authorizationGrantId identityId assetId .TRANSFER_ASSET now with
      | mk s' valid =>
        cases valid with
        | true => rfl
        | false => exact ih s'

/-- The row that the transfer looks for: an ACTIVE one for the asset that has not expired. -/
def Transferable (P : Platform) (identityId assetId : String) (now : ℤ)
    (grant : AuthorizationGrant) : Bool :=
  grant.resourceType = .ASSET && grantIsActive P grant identityId assetId .TRANSFER_ASSET now

theorem transferable_iff {grant : AuthorizationGrant} (hactor : grant.actorIdentityId = identityId) :
    Transferable P identityId assetId now grant = true ↔
      grantApplies assetId grant = true ∧ grantIsExpired P grant now = false := by
  simp only [Transferable,grantApplies,grantIsActive,grantMatches,hactor,Bool.and_eq_true,
    decide_eq_true_eq,Bool.not_eq_true',decide_true,true_and]
  tauto

/-- What the validation of a row that applies does, when the row is stored under its id. -/
theorem validateGrant_stored {s : GrantSystem H} {grant : AuthorizationGrant}
    (hactor : grant.actorIdentityId = identityId)
    (hstored : s.grants.find grant.authorizationGrantId = some grant)
    (happlies : grantApplies assetId grant = true) :
    validateGrant P s grant.authorizationGrantId identityId assetId .TRANSFER_ASSET now =
      if grantIsExpired P grant now then
        ({ s with grants := s.grants.save { grant with status := .EXPIRED } },false)
      else (s,true) := by
  simp only [grantApplies,Bool.and_eq_true,decide_eq_true_eq] at happlies
  obtain ⟨⟨⟨-,hasset⟩,haction⟩,hactive⟩ := happlies
  unfold validateGrant
  rw [hstored]
  simp [grantMatches,hactor,hasset,haction,hactive]

/-- Rows that are stored under their ids are validated as they are listed: an earlier one that has
expired does not come in the way of a later one. -/
theorem transferGrant_found (s : GrantSystem H) (grants : List AuthorizationGrant)
    (hactor : ∀ g ∈ grants,g.actorIdentityId = identityId)
    (hstored : ∀ g ∈ grants,s.grants.find g.authorizationGrantId = some g)
    (hdistinct : (grants.map AuthorizationGrant.authorizationGrantId).Nodup) :
    (transferGrant P identityId assetId now s grants).2 =
      grants.find? (Transferable P identityId assetId now) := by
  induction grants generalizing s with
  | nil => rfl
  | cons grant grants ih =>
    simp only [List.forall_mem_cons] at hactor hstored
    rw [List.map_cons,List.nodup_cons] at hdistinct
    have htransferable : Transferable P identityId assetId now grant = true ↔ _ :=
      transferable_iff hactor.1
    rw [List.find?_cons]
    unfold transferGrant
    cases happlies : grantApplies assetId grant with
    | false =>
      have hskip : Transferable P identityId assetId now grant = false := by
        rw [← Bool.not_eq_true,htransferable,happlies]
        exact fun h => nomatch h.1
      rw [if_pos rfl,hskip]
      exact ih s hactor.2 hstored.2 hdistinct.2
    | true =>
      rw [if_neg (by decide),validateGrant_stored hactor.1 hstored.1 happlies]
      cases hexpired : grantIsExpired P grant now with
      | false => rw [htransferable.mpr ⟨happlies,hexpired⟩,if_neg (by decide)]
      | true =>
        have hskip : Transferable P identityId assetId now grant = false := by
          rw [← Bool.not_eq_true,htransferable,hexpired]
          exact fun h => nomatch h.2
        rw [if_pos rfl,hskip]
        refine ih _ hactor.2 ?_ hdistinct.2
        intro g hg
        have hne : grant.authorizationGrantId ≠ g.authorizationGrantId := by
          intro he
          exact hdistinct.1 (he ▸ List.mem_map_of_mem hg)
        rw [Table.find_save,if_neg hne]
        exact hstored.2 g hg

end Loops

section Permissions
variable {H : Type} {P : Platform} {order : List AuthorizationGrant → List AuthorizationGrant}
  {s : GrantSystem H} {user : User} {asset : Option Asset} {now : ℤ}

/-- The grant that the user's request for the asset is decided by. -/
def grantFor (P : Platform) (order : List AuthorizationGrant → List AuthorizationGrant)
    (s : GrantSystem H) (user : User) (asset : Option Asset) (now : ℤ) : Option AuthorizationGrant :=
  asset.bind (fun asset => (order (listByIdentityId s user.identityId)).find?
    (Transferable P user.identityId asset.assetId now))

theorem transferContext_grant (horder : ∀ grants,(order grants).Perm grants) :
    (transferContext P order s user asset now).2.explicitlyAuthorized =
        some (grantFor P order s user asset now).isSome ∧
      (transferContext P order s user asset now).2.authorizationGrantId =
        (grantFor P order s user asset now).map AuthorizationGrant.authorizationGrantId := by
  cases asset with
  | none => exact ⟨rfl,rfl⟩
  | some asset =>
    have hlisted : ∀ g ∈ order (listByIdentityId s user.identityId),
        g ∈ s.grants.rows ∧ g.actorIdentityId = user.identityId := by
      intro g hg
      obtain ⟨hrow,hactor⟩ := List.mem_filter.mp ((horder _).mem_iff.mp hg)
      exact ⟨hrow,of_decide_eq_true hactor⟩
    have hdistinct : ((order (listByIdentityId s user.identityId)).map
        AuthorizationGrant.authorizationGrantId).Nodup := by
      rw [((horder _).map _).nodup_iff]
      exact s.grants.distinct.sublist (List.filter_sublist.map _)
    have hfound : (transferGrant P user.identityId asset.assetId now s
        (order (listByIdentityId s user.identityId))).2 = _ :=
      transferGrant_found s _ (fun g hg => (hlisted g hg).2)
        (fun g hg => Table.find_of_mem (hlisted g hg).1) hdistinct
    simp only [transferContext,grantFor,Option.bind_some,hfound,and_self]

/-- Both contexts leave the same store behind and authorize alike, but one names no grant. -/
theorem prepareContext_eq : prepareContext P order s user asset now =
    ((transferContext P order s user asset now).1,
      { (transferContext P order s user asset now).2 with authorizationGrantId := none }) := by
  cases asset with
  | none => rfl
  | some asset =>
    simp only [prepareContext,transferContext,transferAuthorized_eq]

theorem preparePermission_engineer (hrole : user.role = .ENGINEER) :
    (preparePermission P order s user asset now).2 ≠ .ok () := by
  simp [preparePermission,requirePermission_eq_ok,prepareContext_eq,hrole,
    can_authorized (show permissionFor .ENGINEER .TRANSFER_ASSET = .AUTH from rfl)]

theorem transferPermission_engineer (horder : ∀ grants,(order grants).Perm grants)
    (hrole : user.role = .ENGINEER) :
    (transferPermission P order s user asset now).2 = .ok () ↔
      ∃ g ∈ grantFor P order s user asset now,g.authorizationGrantId ≠ "" := by
  simp only [transferPermission,requirePermission_eq_ok,hrole,
    can_authorized (show permissionFor .ENGINEER .TRANSFER_ASSET = .AUTH from rfl)]
  rw [(transferContext_grant horder).1,(transferContext_grant horder).2]
  cases grantFor P order s user asset now with
  | none => simp
  | some g => simp

/-- Whoever is no engineer is admitted by both routes or by none. -/
theorem permissions_agree (hrole : user.role ≠ .ENGINEER) :
    (preparePermission P order s user asset now).2 =
      (transferPermission P order s user asset now).2 := by
  have hcell : permissionFor user.role .TRANSFER_ASSET ≠ .AUTH ∧
      permissionFor user.role .TRANSFER_ASSET ≠ .OWN := by
    cases h : user.role with
    | ENGINEER => exact absurd h hrole
    | _ => decide
  obtain ⟨hauth,hown⟩ := hcell
  simp only [preparePermission,transferPermission,requirePermission]
  rw [can_congr hauth hown]

/-- Both routes leave the same grants behind. They decide alike exactly when the user is no engineer
with a grant for the asset. -/
theorem transfer_permission_iff (P : Platform)
    (order : List AuthorizationGrant → List AuthorizationGrant)
    (horder : ∀ grants,(order grants).Perm grants) (s : GrantSystem H) (user : User)
    (asset : Option Asset) (now : ℤ) :
    (preparePermission P order s user asset now).1 = (transferPermission P order s user asset now).1 ∧
    (((preparePermission P order s user asset now).2 = .ok () ↔
        (transferPermission P order s user asset now).2 = .ok ()) ↔
      (user.role = .ENGINEER →
        ∀ g ∈ grantFor P order s user asset now,g.authorizationGrantId = "")) := by
  refine ⟨?_,?_⟩
  · simp only [preparePermission,transferPermission,prepareContext_eq]
  · by_cases hrole : user.role = .ENGINEER
    · rw [iff_false_intro (preparePermission_engineer hrole),transferPermission_engineer horder hrole,
        false_iff]
      simp [hrole]
    · rw [permissions_agree hrole]
      exact iff_of_true Iff.rfl (fun h => absurd h hrole)

end Permissions
end AssetsRoutes

section Prototype
open AssetsRoutes

def engineerUser : User := ⟨"E-1","DID:BEL:ENG",engineerWallet,.ENGINEER,"RADAR",.ACTIVE⟩

def radarAsset : Asset :=
  ⟨"RADAR-1","1","RADAR","DID:BEL:MGR","DID:BEL:MGR",some none,.ACTIVE⟩

/-- The engineer's only grant has expired when the requests are made. -/
def expiredGrants : GrantSystem (Option Bytes) := ⟨Table.empty.save (datedGrant newYear),workshop⟩

theorem expired_grant_permission :
    (preparePermission datedPlatform id expiredGrants engineerUser (some radarAsset)
        1893456000000).1.grants.rows.map AuthorizationGrant.status = [.EXPIRED] ∧
      ((preparePermission datedPlatform id expiredGrants engineerUser (some radarAsset)
          1893456000000).2 = .ok () ↔
        (transferPermission datedPlatform id expiredGrants engineerUser (some radarAsset)
          1893456000000).2 = .ok ()) := by
  have hiff := (transfer_permission_iff datedPlatform id List.Perm.refl expiredGrants engineerUser
    (some radarAsset) 1893456000000).2
  have hnone : grantFor datedPlatform id expiredGrants engineerUser (some radarAsset)
      1893456000000 = none := by
    decide +kernel
  refine ⟨by decide +kernel,hiff.mpr ?_⟩
  rw [hnone]
  exact fun _ g hg => nomatch hg

/-- With a grant in force the engineer may transfer the asset, but not have the transfer prepared. -/
theorem granted_transfer_not_prepared :
    (transferPermission prototypePlatform id (workshopGrants.run prototypePlatform [firstGrant])
        engineerUser (some radarAsset) 0).2 = .ok () ∧
      (preparePermission prototypePlatform id (workshopGrants.run prototypePlatform [firstGrant])
        engineerUser (some radarAsset) 0).2 =
          .error (.ForbiddenError "Role ENGINEER may not perform TRANSFER_ASSET") := by
  decide +kernel

end Prototype
end BelLedger
