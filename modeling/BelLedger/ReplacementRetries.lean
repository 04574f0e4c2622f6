import BelLedger.RevocationRetries

/-!
# Retries of replacements

The loop of `activateWallet` submits its revocations without a look at the chain, as `revokeWallet`
does, and a lost response leaves the replacement unfinished for good. All other failures can be
retried.
-/
namespace BelLedger
open CheckedCalls TransitionRuns ResumableSteps KeyedTables UsersService

variable {H : Type} [Keccak H] [DecidableEq H] {P : Platform} {ctx : Context}
  {s s' t t' u : UsersSystem H}

/-- The order in which wallets are listed depends on their addresses only. -/
def UsersService.Context.KeyOrdered (ctx : Context) : Prop :=
  ∀ rows rows' : List Wallet,rows.map Wallet.address = rows'.map Wallet.address →
    (ctx.walletOrder rows).map Wallet.address = (ctx.walletOrder rows').map Wallet.address

/-- The wallet rows without their times, and the view of the chain. -/
abbrev WalletView : Type := Table Wallet.address × ChainView

def UsersService.untimedRows (t : Table Wallet.address) : Table Wallet.address :=
  t.mapRows Wallet.untimed (fun _ => rfl)

def UsersSystem.walletView (s : UsersSystem H) : WalletView :=
  (untimedRows s.repositories.wallets,s.chain.view)

section Steps
variable (H) (P) (r : Repositories) (actor identity : Identity) (wallet : Wallet)

/-- One round of the replacement loop. -/
def replacedRevocation (address : String) : Step WalletView where
  isDone v := ∀ row,v.1.find address = some row → ¬Replaced wallet row
  act v := (v.1.find address).bind (fun row =>
    (plannedEffect H P { r with wallets := v.1 } .WALLET_REVOKE actor
      (revokePayload row.address "Replaced by wallet activation") v.2).map (fun chain =>
        (v.1.save (revokedWallet "" "Replaced by wallet activation" row),chain)))

/-- A step on chain, with the rows as they are then. -/
def chainStep (step : Repositories → Step ChainView) : Step WalletView where
  isDone v := (step { r with wallets := v.1 }).isDone v.2
  act v := ((step { r with wallets := v.1 }).act v.2).map (fun chain => (v.1,chain))

/-- The row of the new wallet is saved at the end. -/
def savedRow : Step WalletView where
  isDone v := v.1.find wallet.address = some (activatedWallet "" wallet)
  act v := some (v.1.save (activatedWallet "" wallet),v.2)

/-- What follows the replacement loop. -/
def registrationSteps : List (Step WalletView) :=
  [chainStep r (fun r => creation H P r actor identity wallet.address),
   chainStep r (fun r => activation H P r actor identity wallet.address wallet.deviceId),
   savedRow wallet]

def replacementSteps (addresses : List String) : List (Step WalletView) :=
  addresses.map (replacedRevocation H P r actor wallet)++
    registrationSteps H P r actor identity wallet

end Steps

section Views
variable {r : Repositories} {actor : Identity}
  {rows : Table Wallet.address}

omit [Keccak H] [DecidableEq H] in
theorem find_untimedRows (rows : Table Wallet.address) (address : String) :
    (untimedRows rows).find address = (rows.find address).map Wallet.untimed :=
  Table.find_mapRows _ rows address

omit [Keccak H] [DecidableEq H] in
/-- The actor's wallet does not depend on times. -/
theorem actorWallet_untimedRows (actor : Identity) :
    ({ r with wallets := untimedRows rows } : Repositories).actorWallet actor =
      ({ r with wallets := rows } : Repositories).actorWallet actor := by
  unfold Repositories.actorWallet Repositories.findByIdentityId
  dsimp only
  split
  · rfl
  · split
    · rfl
    · rw [find_untimedRows]
      cases rows.find _ with
      | none => rfl
      | some row => rfl

theorem plannedEffect_untimedRows (type : TransactionType) (payload : Payload) :
    plannedEffect H P { r with wallets := untimedRows rows } type actor payload =
      plannedEffect H P { r with wallets := rows } type actor payload := by
  funext v
  unfold plannedEffect planned
  rw [actorWallet_untimedRows]

/-- Only the wallet rows differ from those of `r`. -/
def SameOthers (r r' : Repositories) : Prop := r' = { r with wallets := r'.wallets }

theorem plannedEffect_walletView (hr : SameOthers r t.repositories) (type : TransactionType)
    (payload : Payload) : plannedEffect H P { r with wallets := t.walletView.1 } type actor payload =
      plannedEffect H P t.repositories type actor payload := by
  have hrows : plannedEffect H P { r with wallets := t.walletView.1 } type actor payload =
      plannedEffect H P { r with wallets := t.repositories.wallets } type actor payload :=
    plannedEffect_untimedRows type payload
  rw [← show t.repositories = { r with wallets := t.repositories.wallets } from hr] at hrows
  exact hrows

/-- A step on chain leaves the rows alone. -/
theorem chainStep_run (step : Repositories → Step ChainView) (o : Outcome) (v : WalletView) :
    (chainStep r step).run o v =
      ((v.1,((step { r with wallets := v.1 }).run o v.2).1),
        ((step { r with wallets := v.1 }).run o v.2).2) := by
  by_cases hdone : (step { r with wallets := v.1 }).isDone v.2
  · have hdone' : (chainStep r step).isDone v := hdone
    rw [run_of_isDone hdone,run_of_isDone hdone']
  · have hopen : ¬(chainStep r step).isDone v := hdone
    rw [run_of_not_isDone hdone,run_of_not_isDone hopen]
    have hact : (chainStep r step).act v =
        ((step { r with wallets := v.1 }).act v.2).map (fun chain => (v.1,chain)) := rfl
    rw [hact]
    cases (step { r with wallets := v.1 }).act v.2 with
    | none => simp
    | some chain => cases o <;> rfl

end Views

section Loop
variable {r : Repositories} {actor : Identity} {wallet current row : Wallet} {d : Delivery}
  {result : Except ServiceError Unit}

/-- Every response is reported, up to the first revocation that fails on its way. -/
def RevocationsReported (wallet : Wallet) : List Wallet → (ℕ → Delivery) → Prop
  | [],_ => True
  | current::rest,deliveries =>
    (Replaced wallet current → ¬(deliveries 0).fate.Lost) ∧
      ((Replaced wallet current → (deliveries 0).fate = .mined) →
        RevocationsReported wallet rest (fun k => deliveries (k + 1)))

def UsersService.Wallet.owned (row : Wallet) : String × String := (row.address,row.identityId)

/-- What a failed attempt leaves as it was. -/
structure Begun (r : Repositories) (wallet : Wallet) (t : UsersSystem H) : Prop where
  reachable : Reachable t.chain
  others : SameOthers r t.repositories
  owned : t.repositories.wallets.rows.map Wallet.owned = r.wallets.rows.map Wallet.owned
  kept : t.repositories.wallets.find wallet.address = r.wallets.find wallet.address

/-- The row is still to be revoked, and the chain has revoked the wallet. -/
structure RowStuck (P : Platform) (wallet row : Wallet) (t : UsersSystem H) : Prop where
  found : t.repositories.wallets.find row.address = some row
  replaced : Replaced wallet row
  chain : RevokedOnChain P row.address t.chain.view

/-- The rows that the loop has not come to yet are stored as they were listed. -/
private structure Ahead (rows : List Wallet) (t : UsersSystem H) : Prop where
  distinct : (rows.map Wallet.address).Nodup
  found : ∀ row ∈ rows,t.repositories.wallets.find row.address = some row

omit [Keccak H] [DecidableEq H] in
private theorem Ahead.head {rest : List Wallet} (h : Ahead (current::rest) t) :
    t.repositories.wallets.find current.address = some current := h.found current List.mem_cons_self

omit [Keccak H] [DecidableEq H] in
private theorem Ahead.ne {rest : List Wallet} (h : Ahead (current::rest) t) (hrow : row ∈ rest) :
    row.address ≠ current.address := by
  intro he
  have hnotMem := (List.nodup_cons.mp h.distinct).1
  exact hnotMem (he ▸ List.mem_map_of_mem hrow)

omit [Keccak H] [DecidableEq H] in
/-- A round changes no row but its own. -/
private theorem Ahead.tail {rest : List Wallet} (h : Ahead (current::rest) t)
    (hothers : ∀ address,address ≠ current.address →
      u.repositories.wallets.find address = t.repositories.wallets.find address) : Ahead rest u := by
  refine ⟨(List.nodup_cons.mp h.distinct).2,?_⟩
  intro row hrow
  rw [hothers _ (h.ne hrow)]
  exact h.found row (List.mem_cons_of_mem current hrow)

/-- A revocation concerns one row. -/
private theorem Begun.revokeRow (hinj : Function.Injective (keccak256 : Bytes → H))
    (hevm : ctx.evm = true) (ht : Begun r wallet t)
    (hfind : t.repositories.wallets.find current.address = some current)
    (hreplaced : Replaced wallet current) (hquiet : d.Quiet)
    (h : revokeRow P ctx t actor current "Replaced by wallet activation" d = (u,result)) :
    Begun r wallet u ∧ ∀ address,address ≠ current.address →
      u.repositories.wallets.find address = t.repositories.wallets.find address := by
  obtain ⟨-,hreach,hfailed,hsaved⟩ := revokeRow_performs hinj hevm ht.reachable hquiet h
  cases hok : result.isOk with
  | false =>
    have hrows := hfailed hok
    refine ⟨⟨hreach,?_,?_,?_⟩,fun address _ => by rw [hrows]⟩
    · rw [hrows]
      exact ht.others
    · rw [hrows]
      exact ht.owned
    · rw [hrows]
      exact ht.kept
  | true =>
    have hrows := hsaved hok
    have hothers : ∀ address,address ≠ current.address →
        u.repositories.wallets.find address = t.repositories.wallets.find address := by
      intro address hne
      have hkey : (revokedWallet ctx.now "Replaced by wallet activation" current).address ≠
          address := fun he => hne he.symm
      rw [hrows,Table.find_save,if_neg hkey]
    refine ⟨⟨hreach,?_,?_,(hothers _ hreplaced.2.symm).trans ht.kept⟩,hothers⟩
    · rw [hrows]
      unfold SameOthers
      conv_lhs => rw [show t.repositories = { r with wallets := t.repositories.wallets } from ht.others]
    · have howned : (t.repositories.wallets.save (revokedWallet ctx.now
          "Replaced by wallet activation" current)).rows.map Wallet.owned =
          t.repositories.wallets.rows.map Wallet.owned := Table.map_save_of_find hfind rfl
      rw [hrows]
      exact howned.trans ht.owned

omit [DecidableEq H] in
private theorem find_walletView
    (hfind : t.repositories.wallets.find current.address = some current) :
    t.walletView.1.find current.address = some current.untimed := by
  change (untimedRows t.repositories.wallets).find current.address = _
  rw [find_untimedRows,hfind]
  rfl

private theorem replacedRevocation_isDone
    (hfind : t.repositories.wallets.find current.address = some current) :
    (replacedRevocation H P r actor wallet current.address).isDone t.walletView ↔
      ¬Replaced wallet current := by
  constructor
  · intro hdone
    exact hdone current.untimed (find_walletView hfind)
  · intro hkept row hrow
    have hrow' : t.walletView.1.find current.address = some row := hrow
    obtain rfl := Option.some.inj ((find_walletView hfind).symm.trans hrow')
    exact hkept

private theorem replacedRevocation_act (hr : SameOthers r t.repositories)
    (hfind : t.repositories.wallets.find current.address = some current) (now : String) :
    (replacedRevocation H P r actor wallet current.address).act t.walletView =
      (plannedEffect H P t.repositories .WALLET_REVOKE actor
        (revokePayload current.address "Replaced by wallet activation") t.chain.view).map
        (fun chain => (untimedRows (t.repositories.wallets.save
          (revokedWallet now "Replaced by wallet activation" current)),chain)) := by
  have hrows : untimedRows (t.repositories.wallets.save
      (revokedWallet now "Replaced by wallet activation" current)) =
      t.walletView.1.save (revokedWallet "" "Replaced by wallet activation" current.untimed) :=
    Table.mapRows_save (f := Wallet.untimed) (fun _ => rfl) t.repositories.wallets _
  unfold replacedRevocation
  dsimp only
  rw [find_walletView hfind,Option.bind_some,plannedEffect_walletView hr,hrows]
  rfl

/-- A reported revocation is a round of the loop. -/
private theorem revokeRow_refines (hinj : Function.Injective (keccak256 : Bytes → H))
    (hevm : ctx.evm = true) (ht : Begun r wallet t)
    (hfind : t.repositories.wallets.find current.address = some current)
    (hreplaced : Replaced wallet current) (hquiet : d.Quiet) (hd : ¬d.fate.Lost)
    (h : revokeRow P ctx t actor current "Replaced by wallet activation" d = (u,result)) :
    (replacedRevocation H P r actor wallet current.address).run d.fate.outcome t.walletView =
        (u.walletView,result.isOk) ∧ (result.isOk = true → d.fate = .mined) := by
  obtain ⟨hperform,-,hfailed,hsaved⟩ := revokeRow_performs hinj hevm ht.reachable hquiet h
  have hopen : ¬(replacedRevocation H P r actor wallet current.address).isDone t.walletView :=
    fun hdone => (replacedRevocation_isDone hfind).mp hdone hreplaced
  rw [run_of_not_isDone hopen,replacedRevocation_act ht.others hfind ctx.now]
  cases hok : result.isOk with
  | false =>
    rw [hok] at hperform
    have hreported : d.fate.outcome ≠ .unreported := fun he => hd (Fate.outcome_eq_unreported he)
    refine ⟨?_,nofun⟩
    rw [perform_map_of_false _ _ hreported hperform.symm]
    unfold UsersSystem.walletView
    rcases perform_eq_false hperform.symm with hsame | ⟨hlost,-⟩
    · rw [hfailed hok,hsame]
    · exact absurd hlost hreported
  | true =>
    rw [hok] at hperform
    refine ⟨?_,fun _ => Fate.outcome_eq_confirmed (perform_eq_true.mp hperform.symm).1⟩
    rw [perform_map_of_true _ _ hperform.symm]
    unfold UsersSystem.walletView
    rw [hsaved hok]

/-- The loop attempts its rounds. -/
private theorem revokeReplaced_refines (hinj : Function.Injective (keccak256 : Bytes → H))
    (hevm : ctx.evm = true) {rows : List Wallet} {deliveries : ℕ → Delivery} (ht : Begun r wallet t)
    (hahead : Ahead rows t) (hquiet : ∀ k,(deliveries k).Quiet) (hreported : RevocationsReported wallet rows deliveries)
    (h : revokeReplaced P ctx actor wallet t rows deliveries = (u,result)) :
    ResumableSteps.attempt (rows.map (fun row => replacedRevocation H P r actor wallet row.address))
        (fun k => (deliveries k).fate.outcome) t.walletView = (u.walletView,result.isOk) ∧
      Begun r wallet u := by
  induction rows generalizing t deliveries with
  | nil =>
    obtain ⟨rfl,rfl⟩ := Prod.mk.inj h
    exact ⟨rfl,ht⟩
  | cons current rest ih =>
    obtain ⟨hreportedFirst,hreportedRest⟩ := hreported
    have hfind := hahead.head
    rw [revokeReplaced] at h
    split at h
    · rename_i hreplaced
      cases hrevoke : revokeRow P ctx t actor current "Replaced by wallet activation"
          (deliveries 0) with
      | mk t₁ outcome =>
      obtain ⟨hrun,hmined⟩ := revokeRow_refines hinj hevm ht hfind hreplaced (hquiet 0)
        (hreportedFirst hreplaced) hrevoke
      obtain ⟨ht₁,hothers⟩ := ht.revokeRow hinj hevm hfind hreplaced (hquiet 0) hrevoke
      rw [hrevoke] at h
      cases outcome with
      | error e =>
        obtain ⟨rfl,rfl⟩ := Prod.mk.inj h
        exact ⟨attempt_cons_of_failed hrun,ht₁⟩
      | ok done =>
        rw [List.map_cons,attempt_cons_of_run hrun]
        exact ih ht₁ (hahead.tail hothers) (fun k => hquiet (k + 1))
          (hreportedRest fun _ => hmined rfl) h
    · rename_i hkept
      have hdone : (replacedRevocation H P r actor wallet current.address).isDone t.walletView :=
        (replacedRevocation_isDone hfind).mpr hkept
      rw [List.map_cons,attempt_cons_of_run (run_of_isDone hdone _)]
      exact ih ht (hahead.tail fun _ _ => rfl) (fun k => hquiet (k + 1))
        (hreportedRest fun hreplaced => absurd hreplaced hkept) h

private theorem not_reported_cons {rest : List Wallet} {deliveries : ℕ → Delivery}
    (h : ¬RevocationsReported wallet (current::rest) deliveries) :
    (Replaced wallet current ∧ (deliveries 0).fate.Lost) ∨
      ((Replaced wallet current → (deliveries 0).fate = .mined) ∧
        ¬RevocationsReported wallet rest (fun k => deliveries (k + 1))) := by
  unfold RevocationsReported at h
  by_cases hlost : Replaced wallet current ∧ (deliveries 0).fate.Lost
  · exact .inl hlost
  · refine .inr ?_
    by_contra hnot
    refine h ⟨fun hreplaced hfate => hlost ⟨hreplaced,hfate⟩,fun hmined => ?_⟩
    by_contra hrest
    exact hnot ⟨hmined,hrest⟩

/-- A lost response leaves a stuck row behind, if nothing else had failed. -/
private theorem revokeReplaced_lost (hinj : Function.Injective (keccak256 : Bytes → H))
    (hevm : ctx.evm = true) {rows : List Wallet} {deliveries : ℕ → Delivery} (ht : Begun r wallet t)
    (hahead : Ahead rows t) (hquiet : ∀ k,(deliveries k).Quiet) (hlost : ¬RevocationsReported wallet rows deliveries) {v : WalletView}
    (hclean : ResumableSteps.attempt
      (rows.map (fun row => replacedRevocation H P r actor wallet row.address)) clean t.walletView =
        (v,true))
    (h : revokeReplaced P ctx actor wallet t rows deliveries = (u,result)) :
    result.isOk = false ∧ Begun r wallet u ∧ ∃ row ∈ rows,RowStuck P wallet row u := by
  induction rows generalizing t deliveries with
  | nil => exact absurd trivial hlost
  | cons current rest ih =>
    have hfind := hahead.head
    obtain ⟨v₁,hrun,hcleanRest⟩ := attempt_cons_eq_true hclean
    rw [revokeReplaced] at h
    split at h
    · rename_i hreplaced
      cases hrevoke : revokeRow P ctx t actor current "Replaced by wallet activation"
          (deliveries 0) with
      | mk t₁ outcome =>
      obtain ⟨ht₁,hothers⟩ := ht.revokeRow hinj hevm hfind hreplaced (hquiet 0) hrevoke
      rw [hrevoke] at h
      rcases not_reported_cons hlost with ⟨-,hfate⟩ | ⟨hmined,hlostRest⟩
      · -- the revocation takes effect, and the row is not saved
        obtain ⟨hperform,-,hfailed,-⟩ :=
          revokeRow_performs hinj hevm ht.reachable (hquiet 0) hrevoke
        have hact : (replacedRevocation H P r actor wallet current.address).act t.walletView =
            some v₁ := by
          rcases run_confirmed hrun with ⟨hdone,-⟩ | hact
          · exact absurd hreplaced ((replacedRevocation_isDone hfind).mp hdone)
          · exact hact
        rw [replacedRevocation_act ht.others hfind ctx.now] at hact
        obtain ⟨chain,heffect,-⟩ := Option.map_eq_some_iff.mp hact
        rw [Fate.outcome_of_lost hfate,heffect] at hperform
        obtain ⟨hview,hok⟩ := Prod.mk.inj hperform
        cases outcome with
        | ok done => cases hok
        | error e =>
          obtain ⟨rfl,rfl⟩ := Prod.mk.inj h
          refine ⟨rfl,ht₁,current,List.mem_cons_self,?_,hreplaced,?_⟩
          · rw [hfailed rfl]
            exact hfind
          · rw [hview]
            exact revokedOnChain_of_effect heffect
      · -- the revocation goes through, as in the clean run
        have hfate := hmined hreplaced
        obtain ⟨hrun₁,-⟩ := revokeRow_refines hinj hevm ht hfind hreplaced (hquiet 0)
          (by rw [hfate]; exact id) hrevoke
        rw [hfate] at hrun₁
        obtain ⟨hview,hok⟩ := Prod.mk.inj (hrun₁.symm.trans hrun)
        cases outcome with
        | error e => cases hok
        | ok done =>
          rw [← hview] at hcleanRest
          obtain ⟨hfailed,hu,row,hrow,hstuck⟩ := ih ht₁ (hahead.tail hothers)
            (fun k => hquiet (k + 1)) hlostRest hcleanRest h
          exact ⟨hfailed,hu,row,List.mem_cons_of_mem current hrow,hstuck⟩
    · rename_i hkept
      have hdone : (replacedRevocation H P r actor wallet current.address).isDone t.walletView :=
        (replacedRevocation_isDone hfind).mpr hkept
      obtain rfl := (Prod.mk.inj ((run_of_isDone hdone _).symm.trans hrun)).1
      rcases not_reported_cons hlost with ⟨hreplaced,-⟩ | ⟨-,hlostRest⟩
      · exact absurd hreplaced hkept
      · obtain ⟨hfailed,hu,row,hrow,hstuck⟩ := ih ht (hahead.tail fun _ _ => rfl)
          (fun k => hquiet (k + 1)) hlostRest hcleanRest h
        exact ⟨hfailed,hu,row,List.mem_cons_of_mem current hrow,hstuck⟩

/-- The loop does not get past a stuck row. -/
private theorem revokeReplaced_stuck (hinj : Function.Injective (keccak256 : Bytes → H))
    (hevm : ctx.evm = true) {rows : List Wallet} {deliveries : ℕ → Delivery} (ht : Begun r wallet t)
    (hstuck : RowStuck P wallet row t) (hmem : row ∈ rows) (hahead : Ahead rows t)
    (hquiet : ∀ k,(deliveries k).Quiet)
    (h : revokeReplaced P ctx actor wallet t rows deliveries = (u,result)) :
    result.isOk = false ∧ Begun r wallet u ∧ RowStuck P wallet row u := by
  induction rows generalizing t deliveries with
  | nil => cases hmem
  | cons current rest ih =>
    have hfind := hahead.head
    rw [revokeReplaced] at h
    split at h
    · rename_i hreplaced
      cases hrevoke : revokeRow P ctx t actor current "Replaced by wallet activation"
          (deliveries 0) with
      | mk t₁ outcome =>
      obtain ⟨ht₁,hothers⟩ := ht.revokeRow hinj hevm hfind hreplaced (hquiet 0) hrevoke
      obtain ⟨hperform,-,hfailed,-⟩ := revokeRow_performs hinj hevm ht.reachable (hquiet 0) hrevoke
      rw [hrevoke] at h
      rcases List.mem_cons.mp hmem with rfl | hlater
      · -- the chain refuses the revocation
        rw [hstuck.chain.refused,perform_none] at hperform
        obtain ⟨hview,hok⟩ := Prod.mk.inj hperform
        cases outcome with
        | ok done => cases hok
        | error e =>
          obtain ⟨rfl,rfl⟩ := Prod.mk.inj h
          refine ⟨rfl,ht₁,?_,hreplaced,?_⟩
          · rw [hfailed rfl]
            exact hfind
          · rw [hview]
            exact hstuck.chain
      · have hchain : RevokedOnChain P row.address t₁.chain.view := by
          rcases perform_cases hperform.symm with hsame | heffect
          · rw [hsame]
            exact hstuck.chain
          · exact hstuck.chain.keep heffect
        have hstuck₁ : RowStuck P wallet row t₁ :=
          ⟨(hothers _ (hahead.ne hlater)).trans hstuck.found,hstuck.replaced,hchain⟩
        cases outcome with
        | error e =>
          obtain ⟨rfl,rfl⟩ := Prod.mk.inj h
          exact ⟨rfl,ht₁,hstuck₁⟩
        | ok done =>
          exact ih ht₁ hstuck₁ hlater (hahead.tail hothers) (fun k => hquiet (k + 1)) h
    · rename_i hkept
      rcases List.mem_cons.mp hmem with rfl | hlater
      · exact absurd hstuck.replaced hkept
      · exact ih ht hstuck hlater (hahead.tail fun _ _ => rfl) (fun k => hquiet (k + 1)) h

end Loop

section Registration
variable {r : Repositories} {actor identity : Identity} {wallet : Wallet} {b : Address}
  {v v' : WalletView}

/-- The outcomes after the loop. The row is saved without fail. -/
def registrationOutcomes (created activated : Stage) : ℕ → Outcome
  | 0 => created.outcome
  | 1 => activated.outcome
  | _ => .confirmed

private theorem creation_run (hr : SameOthers r t.repositories) (o : Outcome) {v : ChainView}
    {reported : Bool} (h : (v,reported) =
      (creation H P t.repositories actor identity wallet.address).run o t.chain.view) :
    (chainStep r (fun r => creation H P r actor identity wallet.address)).run o t.walletView =
      ((t.walletView.1,v),reported) := by
  have hsame : creation H P { r with wallets := t.walletView.1 } actor identity wallet.address =
      creation H P t.repositories actor identity wallet.address := by
    unfold creation
    rw [plannedEffect_walletView hr]
  rw [chainStep_run,hsame]
  change ((t.walletView.1,_),_) = _
  rw [show t.walletView.2 = t.chain.view from rfl,← h]

private theorem activation_run (hr : SameOthers r t.repositories) (o : Outcome) {v : ChainView}
    {reported : Bool} (h : (v,reported) =
      (activation H P t.repositories actor identity wallet.address wallet.deviceId).run o
        t.chain.view) :
    (chainStep r (fun r => activation H P r actor identity wallet.address wallet.deviceId)).run o
      t.walletView = ((t.walletView.1,v),reported) := by
  have hsame : activation H P { r with wallets := t.walletView.1 } actor identity wallet.address
      wallet.deviceId =
      activation H P t.repositories actor identity wallet.address wallet.deviceId := by
    unfold activation
    rw [plannedEffect_walletView hr]
  rw [chainStep_run,hsame]
  change ((t.walletView.1,_),_) = _
  rw [show t.walletView.2 = t.chain.view from rfl,← h]

omit [DecidableEq H] in
private theorem savedRow_run (hfind : t.repositories.wallets.find wallet.address = some wallet)
    (hpending : wallet.status = .PENDING) :
    (savedRow wallet).run .confirmed t.walletView =
      ((t.walletView.1.save (activatedWallet "" wallet),t.walletView.2),true) := by
  have hopen : ¬(savedRow wallet).isDone t.walletView := by
    intro hdone
    have hsaved : t.walletView.1.find wallet.address = some (activatedWallet "" wallet) := hdone
    have hrow := congrArg Wallet.status
      (Option.some.inj ((find_walletView hfind).symm.trans hsaved))
    cases hpending.symm.trans hrow
  rw [run_of_not_isDone hopen]
  rfl

/-- After the loop. -/
private theorem registerReplacement_refines (hinj : Function.Injective (keccak256 : Bytes → H))
    (hstrict : P.Strict) (hevm : ctx.evm = true) (hreach : Reachable t.chain)
    (hr : SameOthers r t.repositories) (hb : P.parseAddress wallet.address = some b)
    (hfind : t.repositories.wallets.find wallet.address = some wallet)
    (hpending : wallet.status = .PENDING) {created activated : Stage} (hcreated : created.Quiet)
    (hactivated : activated.Quiet) {w : World H} {result : Except ServiceError Unit}
    (h : registerReplacement P ctx t.repositories t.chain actor identity wallet created activated =
      (w,result)) :
    Reachable w ∧ ResumableSteps.attempt (registrationSteps H P r actor identity wallet)
      (registrationOutcomes created activated) t.walletView =
        if result.isOk then ((t.walletView.1.save (activatedWallet "" wallet),w.view),true)
        else ((t.walletView.1,w.view),false) := by
  have hsame := (parseAddress_trim hstrict hb).1.trans hb.symm
  unfold registerReplacement at h
  split at h
  · rename_i w₁ e hfirst
    obtain ⟨rfl,rfl⟩ := Prod.mk.inj h
    obtain ⟨hw,hrun⟩ := ensureIdentityCreated_refines hinj hevm hreach hsame hcreated hfirst
    exact ⟨hw,attempt_cons_of_failed (creation_run hr _ hrun)⟩
  · rename_i w₁ hfirst
    obtain ⟨hw₁,hrun₁⟩ := ensureIdentityCreated_refines hinj hevm hreach hsame hcreated hfirst
    obtain ⟨hw,hrun₂⟩ := ensureWalletActive_refines hinj hevm hw₁ hsame hactivated h
    rw [registrationSteps,attempt_cons_of_run (creation_run hr _ hrun₁)]
    have hsecond := activation_run (t := { t with chain := w₁ }) hr _ hrun₂
    refine ⟨hw,?_⟩
    cases hok : result.isOk with
    | false =>
      rw [hok] at hsecond
      exact attempt_cons_of_failed hsecond
    | true =>
      rw [hok] at hsecond
      refine (attempt_cons_of_run hsecond).trans ?_
      rw [attempt_singleton]
      exact savedRow_run (t := { t with chain := w }) hfind hpending

/-- A wallet that has been replaced stays so. -/
private theorem replaced_stays {addresses : List String} {address : String} {step : Step WalletView}
    (hstep : step ∈ replacementSteps H P r actor identity wallet addresses)
    (hact : step.act v = some v')
    (hdone : (replacedRevocation H P r actor wallet address).isDone v) :
    (replacedRevocation H P r actor wallet address).isDone v' := by
  intro row hrow
  rcases List.mem_append.mp hstep with hloop | hrest
  · obtain ⟨other,-,rfl⟩ := List.mem_map.mp hloop
    obtain ⟨current,-,hmap⟩ := Option.bind_eq_some_iff.mp hact
    obtain ⟨chain,-,rfl⟩ := Option.map_eq_some_iff.mp hmap
    rw [Table.find_save] at hrow
    split at hrow
    · obtain rfl := Option.some.inj hrow
      rintro ⟨hactive,-⟩
      cases hactive
    · exact hdone row hrow
  · rcases List.mem_cons.mp hrest with rfl | hrest
    · obtain ⟨chain,-,rfl⟩ := Option.map_eq_some_iff.mp hact
      exact hdone row hrow
    rcases List.mem_cons.mp hrest with rfl | hrest
    · obtain ⟨chain,-,rfl⟩ := Option.map_eq_some_iff.mp hact
      exact hdone row hrow
    · obtain rfl := List.mem_singleton.mp hrest
      obtain rfl := Option.some.inj hact
      rw [Table.find_save] at hrow
      split at hrow
      · obtain rfl := Option.some.inj hrow
        rintro ⟨-,hother⟩
        exact hother rfl
      · exact hdone row hrow

private theorem replaced_done {address : String}
    (h : (replacedRevocation H P r actor wallet address).run .confirmed v = (v',true)) :
    (replacedRevocation H P r actor wallet address).isDone v' := by
  rcases run_confirmed h with ⟨hdone,rfl⟩ | hact
  · exact hdone
  · obtain ⟨current,hcurrent,hmap⟩ := Option.bind_eq_some_iff.mp hact
    obtain ⟨chain,-,rfl⟩ := Option.map_eq_some_iff.mp hmap
    have haddress : current.address = address := Table.key_of_find hcurrent
    have hkey : (revokedWallet "" "Replaced by wallet activation" current).address = address :=
      haddress
    intro row hrow
    rw [Table.find_save,if_pos hkey] at hrow
    obtain rfl := Option.some.inj hrow
    rintro ⟨hactive,-⟩
    cases hactive

private theorem chainStep_confirmed {step : Repositories → Step ChainView}
    (h : (chainStep r step).run .confirmed v = (v',true)) :
    (step { r with wallets := v.1 }).run .confirmed v.2 = (v'.2,true) := by
  rw [chainStep_run] at h
  obtain ⟨rfl,hok⟩ := Prod.mk.inj h
  exact Prod.ext rfl hok

private theorem registrationSteps_recognised (hstrict : P.Strict)
    (hb : P.parseAddress wallet.address = some b) (hname : Trimmed identity.identityId) :
    Recognised (registrationSteps H P r actor identity wallet) v := by
  intro v₁ hfirst
  have hregistered := (creation_registers hstrict hb hname (chainStep_confirmed hfirst)).1
  refine ⟨?_,?_⟩
  · intro u hu
    have hkept : ∃ status,u.2.wallets b = some (utf8 identity.identityId,status) := by
      refine hu.invariant
        (I := fun u => ∃ status,u.2.wallets b = some (utf8 identity.identityId,status)) ?_ hregistered
      rintro step hstep x x' hact ⟨status,hstatus⟩
      rcases List.mem_cons.mp hstep with rfl | hstep
      · obtain ⟨chain,heffect,rfl⟩ := Option.map_eq_some_iff.mp hact
        exact activation_keeps hstrict hb heffect hstatus
      · obtain rfl := List.mem_singleton.mp hstep
        obtain rfl := Option.some.inj hact
        exact ⟨status,hstatus⟩
    obtain ⟨status,hstatus⟩ := hkept
    exact ⟨status,by rw [hb]; exact hstatus⟩
  intro v₂ hsecond
  have hactive := activation_done hstrict hb (chainStep_confirmed hsecond)
  refine ⟨?_,?_⟩
  · intro u hu
    refine hu.invariant (I := (chainStep r
      (fun r => activation H P r actor identity wallet.address wallet.deviceId)).isDone) ?_ hactive
    rintro step hstep x x' hact hdone
    obtain rfl := List.mem_singleton.mp hstep
    obtain rfl := Option.some.inj hact
    exact hdone
  intro v₃ hthird
  refine ⟨?_,trivial⟩
  intro u hu
  cases hu
  rcases run_confirmed hthird with ⟨hdone,rfl⟩ | hact
  · exact hdone
  · obtain rfl := Option.some.inj hact
    exact (Table.find_save _ _ _).trans (if_pos rfl)

/-- Every step finds its own effect later on. -/
private theorem replacementSteps_recognised (hstrict : P.Strict)
    (hb : P.parseAddress wallet.address = some b) (hname : Trimmed identity.identityId)
    (addresses : List String) :
    Recognised (replacementSteps H P r actor identity wallet addresses) v := by
  induction addresses generalizing v with
  | nil => exact registrationSteps_recognised hstrict hb hname
  | cons address rest ih =>
    intro v₁ hfirst
    refine ⟨fun u hu => ?_,ih⟩
    exact hu.invariant (fun step hstep _ _ hact hdone =>
      replaced_stays hstep hact hdone) (replaced_done hfirst)

end Registration

section Attempts
variable {userId deviceId address : String} {actorId : Option String} {r : Repositories}
  {actor identity : Identity} {wallet row : Wallet}

structure ReplacementAttempt where
  now : String
  revocations : ℕ → Delivery
  created : Stage
  activated : Stage

def ReplacementAttempt.Quiet (a : ReplacementAttempt) : Prop :=
  (∀ k,(a.revocations k).Quiet) ∧ a.created.Quiet ∧ a.activated.Quiet

def ReplacementAttempt.Clean (a : ReplacementAttempt) : Prop :=
  a.Quiet ∧ (∀ k,(a.revocations k).fate = .mined) ∧ a.created.delivery.fate = .mined ∧
    a.activated.delivery.fate = .mined

def attemptReplacement (P : Platform) (ctx : Context) (userId deviceId address : String)
    (actorId : Option String) (s : UsersSystem H) (a : ReplacementAttempt) :
    UsersSystem H × Except ServiceError Wallet :=
  activateWallet P { ctx with now := a.now } s userId deviceId address actorId a.revocations a.created
    a.activated

/-- No response of a revocation is lost that the call makes in this state. -/
def ReplacementAttempt.Reported (ctx : Context) (userId deviceId address : String)
    (actorId : Option String) (t : UsersSystem H) (a : ReplacementAttempt) : Prop :=
  a.Quiet ∧ ∀ actor identity wallet,activateWalletCheck ctx t.repositories userId deviceId address
    (actorId.getD userId) = .ok (actor,identity,wallet) →
      RevocationsReported wallet (t.repositories.listWallets ctx identity.identityId) a.revocations

/-- The outcomes of an attempt that lists `n` wallets. -/
def ReplacementAttempt.outcomes (a : ReplacementAttempt) (n k : ℕ) : Outcome :=
  if k < n then (a.revocations k).fate.outcome else registrationOutcomes a.created a.activated (k - n)

omit [Keccak H] [DecidableEq H] in
private theorem ReplacementAttempt.Clean.outcomes {a : ReplacementAttempt} (h : a.Clean) (n : ℕ) :
    a.outcomes n = clean := by
  obtain ⟨-,hrevocations,hcreated,hactivated⟩ := h
  funext k
  unfold ReplacementAttempt.outcomes
  split
  · exact congrArg Fate.outcome (hrevocations k)
  · match k - n with
    | 0 => exact congrArg Fate.outcome hcreated
    | 1 => exact congrArg Fate.outcome hactivated
    | _ + 2 => rfl

private theorem revocationsReported_of_mined {rows : List Wallet} {deliveries : ℕ → Delivery}
    (h : ∀ k,(deliveries k).fate = .mined) : RevocationsReported wallet rows deliveries := by
  induction rows generalizing deliveries with
  | nil => trivial
  | cons current rest ih =>
    refine ⟨fun _ => ?_,fun _ => ih (fun k => h (k + 1))⟩
    rw [h 0]
    exact id

omit [Keccak H] [DecidableEq H] in
theorem ReplacementAttempt.Clean.reported {a : ReplacementAttempt} (h : a.Clean)
    (t : UsersSystem H) : a.Reported ctx userId deviceId address actorId t :=
  ⟨h.1,fun _ _ _ _ => revocationsReported_of_mined h.2.1⟩

private theorem activateWalletCheck_wallets {T : Table Wallet.address} {actorId : String}
    (h : T.find (jsTrim address) = r.wallets.find (jsTrim address)) :
    activateWalletCheck ctx { r with wallets := T } userId deviceId address actorId =
      activateWalletCheck ctx r userId deviceId address actorId := by
  unfold activateWalletCheck
  dsimp only
  rw [h]
  rfl

/-- The checks have the same result as before. -/
private theorem Begun.check (ht : Begun r wallet t)
    (hcheck : activateWalletCheck ctx r userId deviceId address (actorId.getD userId) =
      .ok (actor,identity,wallet)) :
    activateWalletCheck ctx t.repositories userId deviceId address (actorId.getD userId) =
      .ok (actor,identity,wallet) := by
  obtain ⟨-,-,-,hfind,-⟩ := activateWalletCheck_rows hcheck
  have hkept : t.repositories.wallets.find (jsTrim address) = r.wallets.find (jsTrim address) := by
    rw [← Table.key_of_find hfind]
    exact ht.kept
  rw [show t.repositories = { r with wallets := t.repositories.wallets } from ht.others,
    activateWalletCheck_wallets hkept]
  exact hcheck

omit [Keccak H] [DecidableEq H] in
private theorem owned_filter (rows : List Wallet) (identityId : String) :
    (rows.filter (fun row => row.identityId = identityId)).map Wallet.address =
      ((rows.map Wallet.owned).filter (fun pair => pair.2 = identityId)).map Prod.fst := by
  rw [List.filter_map,List.map_map]
  rfl

/-- The same wallets are listed, in the same order. -/
private theorem Begun.listing (hkeys : ctx.KeyOrdered) (ht : Begun r wallet t) (identityId : String) :
    (t.repositories.listWallets ctx identityId).map Wallet.address =
      (r.listWallets ctx identityId).map Wallet.address := by
  unfold Repositories.listWallets
  apply hkeys
  rw [owned_filter,owned_filter,ht.owned]

omit [Keccak H] [DecidableEq H] in
private theorem listed_ahead (hctx : ctx.Faithful) (identityId : String) :
    Ahead (t.repositories.listWallets ctx identityId) t :=
  ⟨listWallets_distinct hctx,fun _ hrow => Table.find_of_mem ((mem_listWallets hctx).mp hrow).1⟩

omit [Keccak H] [DecidableEq H] in
/-- The outcomes after the listed wallets are those of the registration. -/
private theorem ReplacementAttempt.outcomes_add (a : ReplacementAttempt) (n : ℕ) :
    (fun k => a.outcomes n (k + n)) = registrationOutcomes a.created a.activated := by
  funext k
  unfold ReplacementAttempt.outcomes
  rw [if_neg (by omega),Nat.add_sub_cancel]

/-- The rounds of the loop come first. -/
private theorem attempt_rounds {addresses : List String} {rows : List Wallet}
    (hlisting : rows.map Wallet.address = addresses) (a : ReplacementAttempt) (v : WalletView) :
    ResumableSteps.attempt (addresses.map (replacedRevocation H P r actor wallet))
        (a.outcomes addresses.length) v =
      ResumableSteps.attempt (rows.map (fun row => replacedRevocation H P r actor wallet row.address))
        (fun k => (a.revocations k).fate.outcome) v := by
  subst hlisting
  rw [List.map_map]
  refine attempt_congr (fun k hk => ?_) _
  rw [List.length_map] at hk ⊢
  exact if_pos hk

/-- An attempt without a lost revocation is an attempt of the steps. -/
private theorem attemptReplacement_refines (hinj : Function.Injective (keccak256 : Bytes → H))
    (hstrict : P.Strict) (hctx : ctx.OnChain P) (hkeys : ctx.KeyOrdered)
    (hcheck : activateWalletCheck ctx r userId deviceId address (actorId.getD userId) =
      .ok (actor,identity,wallet)) (ht : Begun r wallet t) {a : ReplacementAttempt}
    (hreported : a.Reported ctx userId deviceId address actorId t)
    {result : Except ServiceError Wallet}
    (h : attemptReplacement P ctx userId deviceId address actorId t a = (u,result)) :
    ResumableSteps.attempt (replacementSteps H P r actor identity wallet
        ((r.listWallets ctx identity.identityId).map Wallet.address))
        (a.outcomes (r.listWallets ctx identity.identityId).length) t.walletView =
      (u.walletView,result.isOk) ∧ (result.isOk = false → Begun r wallet u) := by
  obtain ⟨-,-,-,hfind,-,-,hpending,hmatch⟩ := activateWalletCheck_rows hcheck
  obtain ⟨b,haddress⟩ := hctx.matching _ _ (hmatch hctx.evm)
  have hkey : wallet.address = jsTrim address := Table.key_of_find hfind
  have hb : P.parseAddress wallet.address = some b := by
    rw [hkey]
    exact (parseAddress_trim hstrict haddress).1
  have hcheckNow := ht.check hcheck
  obtain ⟨⟨hquiet,hcreated,hactivated⟩,hloopReported⟩ := hreported
  have hcheck' : activateWalletCheck { ctx with now := a.now } t.repositories userId deviceId address
      (actorId.getD userId) = .ok (actor,identity,wallet) := hcheckNow
  unfold attemptReplacement activateWallet at h
  simp only [hcheck'] at h
  cases hloop : revokeReplaced P { ctx with now := a.now } actor wallet t
      (t.repositories.listWallets ctx identity.identityId) a.revocations with
  | mk t₁ outcome =>
  obtain ⟨hsteps,ht₁⟩ := revokeReplaced_refines hinj
    (show ({ ctx with now := a.now } : Context).evm = true from hctx.evm)
    ht (listed_ahead hctx.faithful _) hquiet (hloopReported _ _ _ hcheckNow) hloop
  rw [show Repositories.listWallets { ctx with now := a.now } t.repositories identity.identityId =
    t.repositories.listWallets ctx identity.identityId from rfl,hloop] at h
  rw [replacementSteps,attempt_append,← List.length_map (f := Wallet.address),
    attempt_rounds (ht.listing hkeys identity.identityId),hsteps]
  cases outcome with
  | error e =>
    obtain ⟨rfl,rfl⟩ := Prod.mk.inj h
    exact ⟨rfl,fun _ => ht₁⟩
  | ok done =>
    have hfind₁ : t₁.repositories.wallets.find wallet.address = some wallet := by
      rw [ht₁.kept,hkey]
      exact hfind
    change ResumableSteps.attempt (registrationSteps H P r actor identity wallet) _ t₁.walletView = _ ∧ _
    rw [List.length_map (f := replacedRevocation H P r actor wallet),a.outcomes_add]
    cases hregister : registerReplacement P { ctx with now := a.now } t₁.repositories t₁.chain actor
        identity wallet a.created a.activated with
    | mk w registered =>
    obtain ⟨hw,hrest⟩ := registerReplacement_refines hinj hstrict
      (show ({ ctx with now := a.now } : Context).evm = true from hctx.evm) ht₁.reachable ht₁.others hb
      hfind₁ hpending hcreated hactivated hregister
    dsimp only at h
    rw [hregister] at h
    rw [hrest]
    cases registered with
    | error e =>
      obtain ⟨rfl,rfl⟩ := Prod.mk.inj h
      exact ⟨rfl,fun _ => ⟨hw,ht₁.others,ht₁.owned,ht₁.kept⟩⟩
    | ok done =>
      obtain ⟨rfl,rfl⟩ := Prod.mk.inj h
      refine ⟨?_,nofun⟩
      have hrows : untimedRows (t₁.repositories.wallets.save (activatedWallet a.now wallet)) =
          t₁.walletView.1.save (activatedWallet "" wallet) :=
        Table.mapRows_save (f := Wallet.untimed) (fun _ => rfl) t₁.repositories.wallets _
      unfold UsersSystem.walletView
      dsimp only [saveActivatedWallet]
      rw [hrows]
      rfl

private theorem attemptReplacement_checked {a : ReplacementAttempt}
    (h : attemptReplacement P ctx userId deviceId address actorId s a = (s',.ok wallet)) :
    ∃ actor identity row,activateWalletCheck ctx s.repositories userId deviceId address
      (actorId.getD userId) = .ok (actor,identity,row) := by
  cases hcheck : activateWalletCheck ctx s.repositories userId deviceId address
      (actorId.getD userId) with
  | ok checked => exact ⟨checked.1,checked.2.1,checked.2.2,rfl⟩
  | error e =>
    have hcheck' : activateWalletCheck { ctx with now := a.now } s.repositories userId deviceId address
        (actorId.getD userId) = .error e := hcheck
    unfold attemptReplacement activateWallet at h
    rw [hcheck'] at h
    cases (Prod.mk.inj h).2

/-- As long as every revocation is reported, a clean attempt completes what the first one would have
completed. -/
private theorem replacement_resumes (hinj : Function.Injective (keccak256 : Bytes → H))
    (hstrict : P.Strict) (hctx : ctx.OnChain P) (hkeys : ctx.KeyOrdered) (hreach : Reachable s.chain)
    (hids : ∀ row ∈ s.repositories.identities.rows,Trimmed row.identityId)
    (hcheck : activateWalletCheck ctx s.repositories userId deviceId address (actorId.getD userId) =
      .ok (actor,identity,row)) {first last : ReplacementAttempt} (hfirst : first.Clean)
    (hdone : attemptReplacement P ctx userId deviceId address actorId s first = (s',.ok wallet))
    (h : Retried (attemptReplacement P ctx userId deviceId address actorId)
      (fun t a => a.Reported ctx userId deviceId address actorId t) s t) (hlast : last.Clean) :
    Begun s.repositories row t ∧
      ∃ u wallet',attemptReplacement P ctx userId deviceId address actorId t last = (u,.ok wallet') ∧
        u.walletView = s'.walletView := by
  obtain ⟨-,hidentity,-,hfind,-,-,-,hmatch⟩ := activateWalletCheck_rows hcheck
  obtain ⟨b,haddress⟩ := hctx.matching _ _ (hmatch hctx.evm)
  have hb : P.parseAddress row.address = some b := by
    rw [show row.address = jsTrim address from Table.key_of_find hfind]
    exact (parseAddress_trim hstrict haddress).1
  have hname : Trimmed identity.identityId :=
    hids identity (resolveIdentity_mem (requireIdentity_eq_ok hidentity))
  have hattempt : ∀ (t : UsersSystem H) (a : ReplacementAttempt) (u : UsersSystem H)
      (result : Except ServiceError Wallet),Begun s.repositories row t →
      a.Reported ctx userId deviceId address actorId t →
      attemptReplacement P ctx userId deviceId address actorId t a = (u,result) →
      ResumableSteps.attempt (replacementSteps H P s.repositories actor identity row
        ((s.repositories.listWallets ctx identity.identityId).map Wallet.address))
        (a.outcomes (s.repositories.listWallets ctx identity.identityId).length) t.walletView =
          (u.walletView,result.isOk) ∧ (result.isOk = false → Begun s.repositories row u) :=
    fun t a u result ht ha hop =>
      attemptReplacement_refines hinj hstrict hctx hkeys hcheck ht ha hop
  exact h.converges hattempt ⟨hreach,rfl,rfl,rfl⟩
    (replacementSteps_recognised hstrict hb hname _) (hfirst.reported s) (hfirst.outcomes _) hdone
    (hlast.reported t) (hlast.outcomes _)

private theorem replacement_converges (hinj : Function.Injective (keccak256 : Bytes → H))
    (hstrict : P.Strict) (hctx : ctx.OnChain P) (hkeys : ctx.KeyOrdered) (hreach : Reachable s.chain)
    (hids : ∀ row ∈ s.repositories.identities.rows,Trimmed row.identityId)
    {first last : ReplacementAttempt} (hfirst : first.Clean)
    (hdone : attemptReplacement P ctx userId deviceId address actorId s first = (s',.ok wallet))
    (h : Retried (attemptReplacement P ctx userId deviceId address actorId)
      (fun t a => a.Reported ctx userId deviceId address actorId t) s t) (hlast : last.Clean) :
    ∃ u wallet',attemptReplacement P ctx userId deviceId address actorId t last = (u,.ok wallet') ∧
      SameWallets s' u := by
  obtain ⟨actor,identity,row,hcheck⟩ := attemptReplacement_checked hdone
  obtain ⟨-,u,wallet',hop,hview⟩ :=
    replacement_resumes hinj hstrict hctx hkeys hreach hids hcheck hfirst hdone h hlast
  obtain ⟨hrows,hchain⟩ := Prod.mk.inj hview
  exact ⟨u,wallet',hop,congrArg Table.rows hrows,hchain⟩

/-- The replacement has come to a row that it cannot revoke. -/
private def Blocked (P : Platform) (r : Repositories) (identity : Identity) (wallet : Wallet)
    (t : UsersSystem H) : Prop :=
  Begun r wallet t ∧ ∃ row,row.identityId = identity.identityId ∧ RowStuck P wallet row t

private theorem attemptReplacement_failed {a : ReplacementAttempt}
    (hcheck : activateWalletCheck ctx t.repositories userId deviceId address (actorId.getD userId) =
      .ok (actor,identity,wallet)) {result : Except ServiceError Unit}
    (hloop : revokeReplaced P { ctx with now := a.now } actor wallet t
      (t.repositories.listWallets ctx identity.identityId) a.revocations = (u,result))
    (hfailed : result.isOk = false) :
    (attemptReplacement P ctx userId deviceId address actorId t a).2.isOk = false ∧
      (attemptReplacement P ctx userId deviceId address actorId t a).1 = u := by
  have hcheck' : activateWalletCheck { ctx with now := a.now } t.repositories userId deviceId address
      (actorId.getD userId) = .ok (actor,identity,wallet) := hcheck
  unfold attemptReplacement activateWallet
  simp only [hcheck']
  rw [show Repositories.listWallets { ctx with now := a.now } t.repositories identity.identityId =
    t.repositories.listWallets ctx identity.identityId from rfl,hloop]
  cases result with
  | error e => exact ⟨rfl,rfl⟩
  | ok done => cases hfailed

/-- No attempt gets past the row. -/
private theorem Blocked.attempt (hinj : Function.Injective (keccak256 : Bytes → H))
    (hctx : ctx.OnChain P)
    (hcheck : activateWalletCheck ctx r userId deviceId address (actorId.getD userId) =
      .ok (actor,identity,wallet)) (ht : Blocked P r identity wallet t) {a : ReplacementAttempt}
    (hquiet : a.Quiet) :
    (attemptReplacement P ctx userId deviceId address actorId t a).2.isOk = false ∧
      Blocked P r identity wallet
        (attemptReplacement P ctx userId deviceId address actorId t a).1 := by
  obtain ⟨hbegun,row,howner,hstuck⟩ := ht
  have hlisted : row ∈ t.repositories.listWallets ctx identity.identityId :=
    (mem_listWallets hctx.faithful).mpr ⟨Table.mem_of_find hstuck.found,howner⟩
  cases hloop : revokeReplaced P { ctx with now := a.now } actor wallet t
      (t.repositories.listWallets ctx identity.identityId) a.revocations with
  | mk u result =>
  obtain ⟨hfailed,hbegun',hstuck'⟩ := revokeReplaced_stuck hinj
    (show ({ ctx with now := a.now } : Context).evm = true from hctx.evm)
    hbegun hstuck hlisted (listed_ahead hctx.faithful _) hquiet.1 hloop
  obtain ⟨hfails,hstate⟩ := attemptReplacement_failed (hbegun.check hcheck) hloop hfailed
  refine ⟨hfails,?_⟩
  rw [hstate]
  exact ⟨hbegun',row,howner,hstuck'⟩

/-- After a lost revocation no attempt succeeds. -/
private theorem replacement_stuck (hinj : Function.Injective (keccak256 : Bytes → H))
    (hstrict : P.Strict) (hctx : ctx.OnChain P) (hkeys : ctx.KeyOrdered) (hreach : Reachable s.chain)
    (hids : ∀ row ∈ s.repositories.identities.rows,Trimmed row.identityId)
    {first lost last : ReplacementAttempt} (hfirst : first.Clean)
    (hdone : attemptReplacement P ctx userId deviceId address actorId s first = (s',.ok wallet))
    (h : Retried (attemptReplacement P ctx userId deviceId address actorId)
      (fun t a => a.Reported ctx userId deviceId address actorId t) s t) (hquiet : lost.Quiet)
    (hlost : ¬lost.Reported ctx userId deviceId address actorId t)
    (hlater : Retried (attemptReplacement P ctx userId deviceId address actorId) (fun _ a => a.Quiet)
      (attemptReplacement P ctx userId deviceId address actorId t lost).1 t') (hlast : last.Quiet) :
    (attemptReplacement P ctx userId deviceId address actorId t' last).2.isOk = false := by
  obtain ⟨actor,identity,row,hcheck⟩ := attemptReplacement_checked hdone
  obtain ⟨ht,u,wallet',hop,-⟩ :=
    replacement_resumes hinj hstrict hctx hkeys hreach hids hcheck hfirst hdone h hfirst
  have hcheckNow := ht.check hcheck
  have hunreported : ¬RevocationsReported row
      (t.repositories.listWallets ctx identity.identityId) lost.revocations := by
    refine fun hreported => hlost ⟨hquiet,fun actor' identity' wallet' hok => ?_⟩
    obtain ⟨-,hpair⟩ := Prod.mk.inj (Except.ok.inj (hcheckNow.symm.trans hok))
    obtain ⟨rfl,rfl⟩ := Prod.mk.inj hpair
    exact hreported
  -- a clean loop would have gone through
  have hclean := (attemptReplacement_refines hinj hstrict hctx hkeys hcheck ht (hfirst.reported t) hop).1
  rw [hfirst.outcomes,replacementSteps,attempt_append,← ht.listing hkeys,List.map_map] at hclean
  have hloopClean : ∃ v,ResumableSteps.attempt ((t.repositories.listWallets ctx
      identity.identityId).map (replacedRevocation H P s.repositories actor row ∘ Wallet.address)) clean
        t.walletView = (v,true) := by
    split at hclean
    · cases (Prod.mk.inj hclean).2
    · rename_i v hv
      exact ⟨v,hv⟩
  obtain ⟨v,hv⟩ := hloopClean
  cases hloop : revokeReplaced P { ctx with now := lost.now } actor row t
      (t.repositories.listWallets ctx identity.identityId) lost.revocations with
  | mk t₁ result =>
  obtain ⟨hfailed,hbegun,current,hlisted,hstuck⟩ := revokeReplaced_lost hinj
    (show ({ ctx with now := lost.now } : Context).evm = true from hctx.evm)
    ht (listed_ahead hctx.faithful _) hquiet.1 hunreported hv hloop
  have hblocked : Blocked P s.repositories identity row
      (attemptReplacement P ctx userId deviceId address actorId t lost).1 := by
    rw [(attemptReplacement_failed hcheckNow hloop hfailed).2]
    exact ⟨hbegun,current,((mem_listWallets hctx.faithful).mp hlisted).2,hstuck⟩
  have hrun : Blocked P s.repositories identity row t' := by
    induction hlater with
    | start => exact hblocked
    | failed _ ha hop ih =>
      have hnext := (ih.attempt hinj hctx hcheck ha).2
      rw [hop] at hnext
      exact hnext
  exact (hrun.attempt hinj hctx hcheck hlast).1

/-- Revocations and replacements can be retried exactly until a revocation is lost: up to then a clean
attempt does what a first clean attempt would have done, and after it no attempt succeeds. -/
theorem retries_converge_reported (hinj : Function.Injective (keccak256 : Bytes → H))
    (hstrict : P.Strict) (hctx : ctx.OnChain P) (hkeys : ctx.KeyOrdered) (hreach : Reachable s.chain)
    (hids : ∀ row ∈ s.repositories.identities.rows,Trimmed row.identityId) :
    (∀ (userId reason : String) (actorId : Option String) (first : RevocationAttempt)
      (s' t : UsersSystem H) (wallet : Wallet),first.Clean →
      attemptRevocation P ctx userId reason actorId s first = (s',.ok wallet) →
      Retried (attemptRevocation P ctx userId reason actorId) (fun _ a => a.Reported) s t →
      (∀ last,last.Clean → ∃ u wallet',
        attemptRevocation P ctx userId reason actorId t last = (u,.ok wallet') ∧ SameWallets s' u) ∧
      (∀ (lost last : RevocationAttempt) (t' : UsersSystem H),lost.Quiet → lost.delivery.fate.Lost →
        Retried (attemptRevocation P ctx userId reason actorId) (fun _ a => a.Quiet)
          (attemptRevocation P ctx userId reason actorId t lost).1 t' → last.Quiet →
        (attemptRevocation P ctx userId reason actorId t' last).2.isOk = false)) ∧
    (∀ (userId deviceId address : String) (actorId : Option String) (first : ReplacementAttempt)
      (s' t : UsersSystem H) (wallet : Wallet),first.Clean →
      attemptReplacement P ctx userId deviceId address actorId s first = (s',.ok wallet) →
      Retried (attemptReplacement P ctx userId deviceId address actorId)
        (fun t a => a.Reported ctx userId deviceId address actorId t) s t →
      (∀ last,last.Clean → ∃ u wallet',
        attemptReplacement P ctx userId deviceId address actorId t last = (u,.ok wallet') ∧
          SameWallets s' u) ∧
      (∀ (lost last : ReplacementAttempt) (t' : UsersSystem H),lost.Quiet →
        ¬lost.Reported ctx userId deviceId address actorId t →
        Retried (attemptReplacement P ctx userId deviceId address actorId) (fun _ a => a.Quiet)
          (attemptReplacement P ctx userId deviceId address actorId t lost).1 t' → last.Quiet →
        (attemptReplacement P ctx userId deviceId address actorId t' last).2.isOk = false)) := by
  constructor
  · intro userId reason actorId first s' t wallet hfirst hdone hretried
    refine ⟨fun last hlast => ?_,fun lost last t' hquiet hlost hlater hlast => ?_⟩
    · exact revocation_converges hinj hctx.evm hreach hfirst hdone hretried hlast
    · exact revocation_stuck hinj hctx.evm hreach hfirst hdone hretried hquiet hlost hlater hlast
  · intro userId deviceId address actorId first s' t wallet hfirst hdone hretried
    refine ⟨fun last hlast => ?_,fun lost last t' hquiet hlost hlater hlast => ?_⟩
    · exact replacement_converges hinj hstrict hctx hkeys hreach hids hfirst hdone hretried hlast
    · exact replacement_stuck hinj hstrict hctx hkeys hreach hids hfirst hdone hretried hquiet hlost
        hlater hlast

section Prototype

def revocationAt (now : String) (number : ℕ) (fate : Fate) : RevocationAttempt :=
  ⟨now,deliveryOf number fate⟩

def replacementAt (now : String) (number : ℕ) (revoked created : Fate) : ReplacementAttempt :=
  ⟨now,fun _ => deliveryOf number revoked,stageOf (number+1) created,stageOf (number+2) .mined⟩

/-- The engineer has registered a second wallet. -/
def replacementUsers : UsersSystem (Option Bytes) :=
  ⟨{ workshopRepositories with
      wallets := ⟨[⟨adminWallet,"DID:BEL:ADMIN","DEV-0",.ACTIVE,none,none,none,none⟩,
        ⟨engineerWallet,"DID:BEL:ENG","DEV-1",.ACTIVE,none,none,none,none⟩,
        ⟨auditorWallet,"DID:BEL:ENG","DEV-1",.PENDING,none,none,none,some auditorKey⟩],by decide⟩ },
    workshop⟩

theorem usersContext_keyOrdered : usersContext.KeyOrdered := fun _ _ h => h

private theorem deliveryOf_quiet (number : ℕ) (fate : Fate) : (deliveryOf number fate).Quiet :=
  fun _ h => absurd h List.not_mem_nil

/-- A revocation does not reach the chain, and a registration gets no answer. Both can be repeated. -/
theorem retries_converge_reported_dropped :
    (∃ u wallet,attemptRevocation prototypePlatform usersContext "E-1" "lost phone" (some "ADMIN")
        (attemptRevocation prototypePlatform usersContext "E-1" "lost phone" (some "ADMIN")
          replacementUsers (revocationAt "09:00" 12 unreachable)).1 (revocationAt "09:05" 15 .mined) =
            (u,.ok wallet) ∧
      SameWallets (attemptRevocation prototypePlatform usersContext "E-1" "lost phone" (some "ADMIN")
        replacementUsers (revocationAt "09:00" 12 .mined)).1 u) ∧
    ∃ u wallet,attemptReplacement prototypePlatform usersContext "E-1" "DEV-1" auditorWallet
        (some "ADMIN") (attemptReplacement prototypePlatform usersContext "E-1" "DEV-1" auditorWallet
          (some "ADMIN") replacementUsers (replacementAt "09:00" 12 .mined timedOut)).1
            (replacementAt "09:05" 15 .mined .mined) = (u,.ok wallet) ∧
      SameWallets (attemptReplacement prototypePlatform usersContext "E-1" "DEV-1" auditorWallet
        (some "ADMIN") replacementUsers (replacementAt "09:00" 12 .mined .mined)).1 u := by
  have hids : ∀ row ∈ replacementUsers.repositories.identities.rows,Trimmed row.identityId := by
    decide +kernel
  obtain ⟨hrevocation,hreplacement⟩ := retries_converge_reported prototype_keccak_injective
    prototypePlatform_strict usersContext_onChain usersContext_keyOrdered (s := replacementUsers)
    workshop_reachable hids
  constructor
  · have hquiet : ∀ now number fate,(revocationAt now number fate).Quiet :=
      fun _ _ _ => deliveryOf_quiet _ _
    have hdone : (attemptRevocation prototypePlatform usersContext "E-1" "lost phone" (some "ADMIN")
        replacementUsers (revocationAt "09:00" 12 .mined)).2 = .ok ⟨engineerWallet,"DID:BEL:ENG","DEV-1",
          .REVOKED,none,some "09:00",some "lost phone",none⟩ := by decide +kernel
    have hfailed : (attemptRevocation prototypePlatform usersContext "E-1" "lost phone" (some "ADMIN")
        replacementUsers (revocationAt "09:00" 12 unreachable)).2 =
          .error (.Blockchain ⟨.NETWORK,"unreachable"⟩) := by decide +kernel
    exact (hrevocation "E-1" "lost phone" (some "ADMIN") (revocationAt "09:00" 12 .mined) _ _ _
      ⟨hquiet _ _ _,rfl⟩ (by rw [← hdone]) (.failed .start ⟨hquiet _ _ _,id⟩ (by rw [← hfailed]))).1
        (revocationAt "09:05" 15 .mined) ⟨hquiet _ _ _,rfl⟩
  · have hquiet : ∀ now number revoked created,(replacementAt now number revoked created).Quiet :=
      fun _ _ _ _ => ⟨fun _ => deliveryOf_quiet _ _,stageOf_quiet _ _,stageOf_quiet _ _⟩
    have hdone : (attemptReplacement prototypePlatform usersContext "E-1" "DEV-1" auditorWallet
        (some "ADMIN") replacementUsers (replacementAt "09:00" 12 .mined .mined)).2 =
          .ok ⟨auditorWallet,"DID:BEL:ENG","DEV-1",.ACTIVE,some "09:00",none,none,some auditorKey⟩ := by
      decide +kernel
    have hfailed : (attemptReplacement prototypePlatform usersContext "E-1" "DEV-1" auditorWallet
        (some "ADMIN") replacementUsers (replacementAt "09:00" 12 .mined timedOut)).2 =
          .error (.Blockchain ⟨.TIMEOUT,"no receipt"⟩) := by decide +kernel
    exact (hreplacement "E-1" "DEV-1" auditorWallet (some "ADMIN") (replacementAt "09:00" 12 .mined .mined)
      _ _ _ ⟨hquiet _ _ _ _,fun _ => rfl,rfl,rfl⟩ (by rw [← hdone]) (.failed .start
        ⟨hquiet _ _ _ _,fun _ _ _ _ => revocationsReported_of_mined (fun _ => rfl)⟩
        (by rw [← hfailed]))).1 (replacementAt "09:05" 15 .mined .mined)
          ⟨hquiet _ _ _ _,fun _ => rfl,rfl,rfl⟩

/-- The chain revokes the engineer's wallet and the answer is lost. The row stays ACTIVE, and the next
attempt is refused. -/
theorem lost_revocation_is_not_retried :
    (Reachable replacementUsers.chain ∧ (revocationAt "09:00" 12 timedOut).Quiet ∧
      (revocationAt "09:05" 13 .mined).Clean) ∧
    (attemptRevocation prototypePlatform usersContext "E-1" "lost phone" (some "ADMIN") replacementUsers
      (revocationAt "09:05" 13 .mined)).2.isOk = true ∧
    (attemptRevocation prototypePlatform usersContext "E-1" "lost phone" (some "ADMIN") replacementUsers
      (revocationAt "09:00" 12 timedOut)).2 = .error (.Blockchain ⟨.TIMEOUT,"no receipt"⟩) ∧
    (attemptRevocation prototypePlatform usersContext "E-1" "lost phone" (some "ADMIN") replacementUsers
      (revocationAt "09:00" 12 timedOut)).1.chain.view.wallets 0xe1 =
        some (utf8 "DID:BEL:ENG",.REVOKED) ∧
    (attemptRevocation prototypePlatform usersContext "E-1" "lost phone" (some "ADMIN")
      (attemptRevocation prototypePlatform usersContext "E-1" "lost phone" (some "ADMIN")
        replacementUsers (revocationAt "09:00" 12 timedOut)).1 (revocationAt "09:05" 13 .mined)).2 =
      .error (.Blockchain ⟨.REVERTED,"Blockchain rejected WALLET_REVOKE"⟩) ∧
    ((attemptRevocation prototypePlatform usersContext "E-1" "lost phone" (some "ADMIN")
      (attemptRevocation prototypePlatform usersContext "E-1" "lost phone" (some "ADMIN")
        replacementUsers (revocationAt "09:00" 12 timedOut)).1
          (revocationAt "09:05" 13 .mined)).1.repositories.wallets.find engineerWallet).map
      Wallet.status = some .ACTIVE :=
  ⟨⟨workshop_reachable,deliveryOf_quiet _ _,deliveryOf_quiet _ _,rfl⟩,by decide +kernel⟩

end Prototype

end Attempts

end BelLedger
