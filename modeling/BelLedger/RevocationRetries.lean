import BelLedger.ActivationRetries

/-!
# Retries of wallet revocations

`revokeWallet` submits a revocation without a look at the chain. When its response is lost the wallet
is REVOKED on chain and ACTIVE in its row, and no later attempt gets past it.
-/
namespace BelLedger
open CheckedCalls TransitionRuns ResumableSteps KeyedTables UsersService

variable {H : Type} [Keccak H] [DecidableEq H] {P : Platform} {ctx : Context}
  {s s' t t' u : UsersSystem H}

/-- The same wallet rows, up to times, and the same wallets and roles on chain. -/
structure SameWallets (s s' : UsersSystem H) : Prop where
  rows : s'.repositories.wallets.rows.map Wallet.untimed = s.repositories.wallets.rows.map Wallet.untimed
  chain : s'.chain.view = s.chain.view

section Revocation
variable {reason : String}

structure RevocationAttempt where
  now : String
  delivery : Delivery

def RevocationAttempt.Quiet (a : RevocationAttempt) : Prop := a.delivery.Quiet

/-- The response of the submission is not lost. -/
def RevocationAttempt.Reported (a : RevocationAttempt) : Prop := a.Quiet ∧ ¬a.delivery.fate.Lost

def RevocationAttempt.Clean (a : RevocationAttempt) : Prop := a.Quiet ∧ a.delivery.fate = .mined

def attemptRevocation (P : Platform) (ctx : Context) (userId reason : String)
    (actorId : Option String) (s : UsersSystem H) (a : RevocationAttempt) :
    UsersSystem H × Except ServiceError Wallet :=
  revokeWallet P { ctx with now := a.now } s userId reason actorId a.delivery

/-- The wallet is REVOKED on chain. -/
def RevokedOnChain (P : Platform) (address : String) (v : ChainView) : Prop :=
  ∃ a did,P.parseAddress (jsTrim address) = some a ∧ v.wallets a = some (did,.REVOKED)

section Revoked
variable {r : Repositories} {actor : Identity} {address other : String} {v v' : ChainView}

private theorem revocation_effect (h : plannedEffect H P r .WALLET_REVOKE actor
    (revokePayload address reason) v = some v') :
    ∃ a did status,P.parseAddress (jsTrim address) = some a ∧ v.wallets a = some (did,status) ∧
      status ≠ .REVOKED ∧ v' = v.setWallet a did .REVOKED := by
  obtain ⟨⟨sender,call⟩,hplanned,hexec⟩ := Option.bind_eq_some_iff.mp h
  obtain ⟨a,ha,rfl⟩ := plan_revokeWallet (planned_eq_some.mp hplanned).2
  obtain ⟨did,status,hwallet,hstatus,hview⟩ := ChainView.exec_revokeWallet_eq_some hexec
  exact ⟨a,did,status,ha,hwallet,hstatus,hview⟩

theorem revokedOnChain_of_effect (h : plannedEffect H P r .WALLET_REVOKE actor
    (revokePayload address reason) v = some v') : RevokedOnChain P address v' := by
  obtain ⟨a,did,status,ha,-,-,rfl⟩ := revocation_effect h
  exact ⟨a,did,ha,Function.update_self ..⟩

/-- The chain does not accept a revocation twice. -/
theorem RevokedOnChain.refused (h : RevokedOnChain P address v) : plannedEffect H P r .WALLET_REVOKE
    actor (revokePayload address reason) v = none := by
  refine Option.eq_none_iff_forall_ne_some.mpr (fun v' hv' => ?_)
  obtain ⟨a,did,ha,hrevoked⟩ := h
  obtain ⟨b,did',status,hb,hwallet,hstatus,-⟩ := revocation_effect hv'
  obtain rfl := Option.some.inj (ha.symm.trans hb)
  exact hstatus (Prod.mk.inj (Option.some.inj (hrevoked.symm.trans hwallet))).2.symm

/-- It stays revoked when others are. -/
theorem RevokedOnChain.keep (h : RevokedOnChain P address v) (heffect : plannedEffect H P r
    .WALLET_REVOKE actor (revokePayload other reason) v = some v') : RevokedOnChain P address v' := by
  obtain ⟨a,did,ha,hrevoked⟩ := h
  obtain ⟨b,did',status,-,-,-,rfl⟩ := revocation_effect heffect
  by_cases hab : a = b
  · exact ⟨a,did',ha,by rw [hab]; exact Function.update_self ..⟩
  · exact ⟨a,did,ha,(Function.update_of_ne hab _ _).trans hrevoked⟩

end Revoked

omit [Keccak H] [DecidableEq H] in
theorem Fate.outcome_of_lost {fate : Fate} (h : fate.Lost) : fate.outcome = .unreported := by
  cases fate with
  | lost e => rfl
  | mined => exact h.elim
  | dropped report => exact h.elim

variable {userId : String} {actorId : Option String} {r : Repositories} {actor : Identity}
  {wallet : Wallet}

omit [Keccak H] [DecidableEq H] in
theorem Fate.outcome_eq_confirmed {fate : Fate} (h : fate.outcome = .confirmed) : fate = .mined := by
  cases fate with
  | mined => rfl
  | dropped report => cases h
  | lost e => cases h

/-- The row is saved exactly if the submission is reported as done. -/
theorem revokeRow_performs (hinj : Function.Injective (keccak256 : Bytes → H))
    (hevm : ctx.evm = true) (hreach : Reachable t.chain) {d : Delivery} (hquiet : d.Quiet)
    {result : Except ServiceError Unit}
    (h : revokeRow P ctx t actor wallet reason d = (u,result)) :
    (u.chain.view,result.isOk) = perform d.fate.outcome (plannedEffect H P t.repositories
        .WALLET_REVOKE actor (revokePayload wallet.address reason) t.chain.view) t.chain.view ∧
      Reachable u.chain ∧ (result.isOk = false → u.repositories = t.repositories) ∧
      (result.isOk = true → u.repositories = { t.repositories with
        wallets := t.repositories.wallets.save (revokedWallet ctx.now reason wallet) }) := by
  unfold revokeRow at h
  cases hsubmit : submit P ctx t.repositories t.chain .WALLET_REVOKE actor
      (revokePayload wallet.address reason) d with
  | mk w outcome =>
  obtain ⟨hw,hperform⟩ := submit_perform hinj hevm hreach revokeWallet_selfContained hquiet hsubmit
  rw [hsubmit] at h
  cases outcome with
  | error e =>
    obtain ⟨rfl,rfl⟩ := Prod.mk.inj h
    exact ⟨hperform,hw,fun _ => rfl,nofun⟩
  | ok done =>
    obtain ⟨rfl,rfl⟩ := Prod.mk.inj h
    exact ⟨hperform,hw,nofun,fun _ => rfl⟩

private theorem attemptRevocation_performs (hinj : Function.Injective (keccak256 : Bytes → H))
    (hevm : ctx.evm = true)
    (hcheck : revokeWalletCheck ctx r userId reason (actorId.getD userId) = .ok (actor,wallet))
    (hrows : t.repositories = r) (hreach : Reachable t.chain) {a : RevocationAttempt}
    (hquiet : a.Quiet) {result : Except ServiceError Wallet}
    (h : attemptRevocation P ctx userId reason actorId t a = (u,result)) :
    (u.chain.view,result.isOk) = perform a.delivery.fate.outcome (plannedEffect H P r .WALLET_REVOKE
        actor (revokePayload wallet.address reason) t.chain.view) t.chain.view ∧
      Reachable u.chain ∧ (result.isOk = false → u.repositories = r) ∧
      (result.isOk = true → u.repositories = { r with
        wallets := r.wallets.save (revokedWallet a.now reason wallet) }) := by
  subst hrows
  have hcheck' : revokeWalletCheck { ctx with now := a.now } t.repositories userId reason
      (actorId.getD userId) = .ok (actor,wallet) := hcheck
  unfold attemptRevocation revokeWallet at h
  simp only [hcheck'] at h
  cases hrow : revokeRow P { ctx with now := a.now } t actor wallet reason a.delivery with
  | mk u' outcome =>
  have hperforms := revokeRow_performs hinj
    (show ({ ctx with now := a.now } : Context).evm = true from hevm) hreach hquiet hrow
  rw [hrow] at h
  cases outcome with
  | error e =>
    obtain ⟨rfl,rfl⟩ := Prod.mk.inj h
    exact hperforms
  | ok done =>
    obtain ⟨rfl,rfl⟩ := Prod.mk.inj h
    exact hperforms

/-- A clean attempt that succeeds has passed the checks. -/
private theorem attemptRevocation_checked {a : RevocationAttempt}
    (h : attemptRevocation P ctx userId reason actorId s a = (s',.ok wallet)) :
    ∃ actor row,revokeWalletCheck ctx s.repositories userId reason (actorId.getD userId) =
      .ok (actor,row) := by
  cases hcheck : revokeWalletCheck ctx s.repositories userId reason (actorId.getD userId) with
  | ok checked => exact ⟨checked.1,checked.2,rfl⟩
  | error e =>
    have hcheck' : revokeWalletCheck { ctx with now := a.now } s.repositories userId reason
        (actorId.getD userId) = .error e := hcheck
    unfold attemptRevocation revokeWallet at h
    rw [hcheck'] at h
    cases (Prod.mk.inj h).2

/-- An attempt that fails with a report has changed nothing. -/
private theorem revocation_untouched (hinj : Function.Injective (keccak256 : Bytes → H))
    (hevm : ctx.evm = true) (hreach : Reachable s.chain)
    (hcheck : revokeWalletCheck ctx s.repositories userId reason (actorId.getD userId) =
      .ok (actor,wallet))
    (h : Retried (attemptRevocation P ctx userId reason actorId) (fun _ a => a.Reported) s t) :
    t.repositories = s.repositories ∧ Reachable t.chain ∧ t.chain.view = s.chain.view := by
  induction h with
  | start => exact ⟨rfl,hreach,rfl⟩
  | failed _ ha hop ih =>
    obtain ⟨hrows,hchain,hview⟩ := ih
    obtain ⟨hperform,hchain',hkept,-⟩ :=
      attemptRevocation_performs hinj hevm hcheck hrows hchain ha.1 hop
    refine ⟨hkept rfl,hchain',?_⟩
    rcases perform_eq_false hperform.symm with hsame | ⟨hlost,-⟩
    · exact hsame.trans hview
    · exact absurd (Fate.outcome_eq_unreported hlost) ha.2

/-- As long as every attempt is reported, a clean attempt does what the first one would have done. -/
theorem revocation_converges (hinj : Function.Injective (keccak256 : Bytes → H))
    (hevm : ctx.evm = true) (hreach : Reachable s.chain) {first last : RevocationAttempt}
    (hfirst : first.Clean)
    (hdone : attemptRevocation P ctx userId reason actorId s first = (s',.ok wallet))
    (h : Retried (attemptRevocation P ctx userId reason actorId) (fun _ a => a.Reported) s t)
    (hlast : last.Clean) :
    ∃ u wallet',attemptRevocation P ctx userId reason actorId t last = (u,.ok wallet') ∧
      SameWallets s' u := by
  obtain ⟨actor,row,hcheck⟩ := attemptRevocation_checked hdone
  obtain ⟨hrows,hchain,hview⟩ := revocation_untouched hinj hevm hreach hcheck h
  obtain ⟨hperform,-,-,hsaved⟩ :=
    attemptRevocation_performs hinj hevm hcheck rfl hreach hfirst.1 hdone
  obtain ⟨-,heffect⟩ := perform_eq_true.mp hperform.symm
  cases hop : attemptRevocation P ctx userId reason actorId t last with
  | mk u result =>
  obtain ⟨hperform',-,-,hsaved'⟩ :=
    attemptRevocation_performs hinj hevm hcheck hrows hchain hlast.1 hop
  rw [hview,heffect,hlast.2] at hperform'
  obtain ⟨hviews,hok⟩ := Prod.mk.inj hperform'
  cases result with
  | error e => cases hok
  | ok wallet' =>
    refine ⟨u,wallet',rfl,?_,hviews⟩
    rw [hsaved rfl,hsaved' rfl]
    exact Table.map_save_congr (f := Wallet.untimed) (fun _ => rfl) rfl rfl

/-- After a lost response no attempt succeeds. -/
theorem revocation_stuck (hinj : Function.Injective (keccak256 : Bytes → H))
    (hevm : ctx.evm = true) (hreach : Reachable s.chain) {first lost last : RevocationAttempt}
    (hfirst : first.Clean)
    (hdone : attemptRevocation P ctx userId reason actorId s first = (s',.ok wallet))
    (h : Retried (attemptRevocation P ctx userId reason actorId) (fun _ a => a.Reported) s t)
    (hquiet : lost.Quiet) (hlost : lost.delivery.fate.Lost)
    (hlater : Retried (attemptRevocation P ctx userId reason actorId) (fun _ a => a.Quiet)
      (attemptRevocation P ctx userId reason actorId t lost).1 t')
    (hlast : last.Quiet) :
    (attemptRevocation P ctx userId reason actorId t' last).2.isOk = false := by
  obtain ⟨actor,row,hcheck⟩ := attemptRevocation_checked hdone
  obtain ⟨hrows,hchain,hview⟩ := revocation_untouched hinj hevm hreach hcheck h
  obtain ⟨hperform,-,-,-⟩ :=
    attemptRevocation_performs hinj hevm hcheck rfl hreach hfirst.1 hdone
  obtain ⟨-,heffect⟩ := perform_eq_true.mp hperform.symm
  -- from now on the rows stay, and the chain refuses the revocation
  have hrefused : t'.repositories = s.repositories ∧ Reachable t'.chain ∧
      RevokedOnChain P row.address t'.chain.view := by
    induction hlater with
    | start =>
      cases hop : attemptRevocation P ctx userId reason actorId t lost with
      | mk t₁ result =>
      obtain ⟨hperform',hchain',hkept,-⟩ :=
        attemptRevocation_performs hinj hevm hcheck hrows hchain hquiet hop
      rw [Fate.outcome_of_lost hlost,hview,heffect] at hperform'
      obtain ⟨hview',hfailed⟩ := Prod.mk.inj hperform'
      refine ⟨hkept hfailed,hchain',?_⟩
      rw [hview']
      exact revokedOnChain_of_effect heffect
    | failed _ ha hop ih =>
      obtain ⟨hrows',hchain',hrevoked⟩ := ih
      obtain ⟨hperform',hchain'',hkept,-⟩ :=
        attemptRevocation_performs hinj hevm hcheck hrows' hchain' ha hop
      rw [hrevoked.refused,perform_none] at hperform'
      refine ⟨hkept rfl,hchain'',?_⟩
      rw [(Prod.mk.inj hperform').1]
      exact hrevoked
  obtain ⟨hrows',hchain',hrevoked⟩ := hrefused
  obtain ⟨hperform',-,-,-⟩ := attemptRevocation_performs hinj hevm hcheck hrows' hchain' hlast rfl
  rw [hrevoked.refused,perform_none] at hperform'
  exact (Prod.mk.inj hperform').2

end Revocation

end BelLedger
