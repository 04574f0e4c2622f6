import BelLedger.WalletSubmissions
import BelLedger.AccountWrites
import BelLedger.RoleAgreement
import BelLedger.SessionValidity

/-!
# Wallet rows and wallets on chain

The rows are keyed by the spelling of an address and the chain by the address. As long as every
submission learns its outcome they agree, and no identity has more than one ACTIVE wallet.
-/
namespace BelLedger
open CheckedCalls TransitionRuns KeyedTables UsersService AuthService

/-- An ACTIVE row is ACTIVE on chain under its identity, a REVOKED row is REVOKED there, no identity
has two ACTIVE rows, and an ACTIVE wallet has an ACTIVE row. -/
structure WalletsAgree (P : Platform) (rows : List Wallet)
    (wallets : Address → Option (Bytes × WalletStatus)) : Prop where
  active : ∀ row ∈ rows,row.status = .ACTIVE →
    ∃ a,P.parseAddress row.address = some a ∧ wallets a = some (utf8 row.identityId,.ACTIVE)
  revoked : ∀ row ∈ rows,row.status = .REVOKED →
    ∃ a did,P.parseAddress row.address = some a ∧ wallets a = some (did,.REVOKED)
  one : ∀ row ∈ rows,∀ row' ∈ rows,row.status = .ACTIVE → row'.status = .ACTIVE →
    row.identityId = row'.identityId → row = row'
  covered : ∀ a did,wallets a = some (did,.ACTIVE) →
    ∃ row ∈ rows,row.status = .ACTIVE ∧ P.parseAddress row.address = some a

namespace WalletsAgree

variable {P : Platform} {t : Table Wallet.address}
  {wallets : Address → Option (Bytes × WalletStatus)} {a : Address} {did : Bytes}

/-- A wallet that nobody knows is registered on chain. -/
theorem create (h : WalletsAgree P t.rows wallets) (hnew : wallets a = none) :
    WalletsAgree P t.rows (Function.update wallets a (some (did,.PENDING))) := by
  have hother : ∀ b found,wallets b = some found → b ≠ a := by
    rintro b found hb rfl
    rw [hnew] at hb
    cases hb
  refine ⟨?_,?_,h.one,?_⟩
  · intro row hrow hstatus
    obtain ⟨b,hb,hwallet⟩ := h.active row hrow hstatus
    exact ⟨b,hb,by rw [Function.update_of_ne (hother b _ hwallet)]; exact hwallet⟩
  · intro row hrow hstatus
    obtain ⟨b,found,hb,hwallet⟩ := h.revoked row hrow hstatus
    exact ⟨b,found,hb,by rw [Function.update_of_ne (hother b _ hwallet)]; exact hwallet⟩
  · intro b found hb
    by_cases hba : b = a
    · rw [hba,Function.update_self] at hb
      cases hb
    · rw [Function.update_of_ne hba] at hb
      exact h.covered b found hb

/-- A row is added that is neither ACTIVE nor REVOKED. -/
theorem insert (h : WalletsAgree P t.rows wallets) {row : Wallet} (hnew : t.find row.address = none)
    (hpending : row.status = .PENDING) : WalletsAgree P (t.save row).rows wallets := by
  have hold : ∀ row' ∈ (t.save row).rows,row'.status ≠ .PENDING → row' ∈ t.rows := by
    intro row' hrow' hstatus
    rcases Table.mem_save.mp hrow' with rfl | ⟨hmem,-⟩
    · exact absurd hpending hstatus
    · exact hmem
  refine ⟨?_,?_,?_,?_⟩
  · intro row' hrow' hstatus
    exact h.active row' (hold row' hrow' (by rw [hstatus]; decide)) hstatus
  · intro row' hrow' hstatus
    exact h.revoked row' (hold row' hrow' (by rw [hstatus]; decide)) hstatus
  · intro row' hrow' row'' hrow'' hstatus' hstatus''
    exact h.one row' (hold row' hrow' (by rw [hstatus']; decide)) row''
      (hold row'' hrow'' (by rw [hstatus'']; decide)) hstatus' hstatus''
  · intro b found hb
    obtain ⟨row',hrow',hstatus,hparse⟩ := h.covered b found hb
    refine ⟨row',Table.mem_save.mpr (.inr ⟨hrow',?_⟩),hstatus,hparse⟩
    intro hkey
    rw [← hkey,Table.find_of_mem hrow'] at hnew
    cases hnew

/-- The wallet of an ACTIVE row is revoked on chain and in the row. -/
theorem revoke (h : WalletsAgree P t.rows wallets) {row row' : Wallet} (hrow : row ∈ t.rows)
    (hactive : row.status = .ACTIVE) (ha : P.parseAddress row.address = some a)
    (haddress : row'.address = row.address) (hrevoked : row'.status = .REVOKED) :
    WalletsAgree P (t.save row').rows (Function.update wallets a (some (did,.REVOKED))) := by
  obtain ⟨b,hb,hwallet⟩ := h.active row hrow hactive
  obtain rfl := Option.some.inj (ha.symm.trans hb)
  -- any other ACTIVE row stands for another wallet
  have hother : ∀ x ∈ t.rows,x.status = .ACTIVE → x.address ≠ row'.address →
      P.parseAddress x.address ≠ some a := by
    intro x hx hstatus hne hparse
    obtain ⟨b,hb,hxwallet⟩ := h.active x hx hstatus
    obtain rfl := Option.some.inj (hparse.symm.trans hb)
    have hid := utf8_injective (Prod.mk.inj (Option.some.inj (hwallet.symm.trans hxwallet))).1
    exact hne (by rw [haddress,h.one row hrow x hx hactive hstatus hid])
  refine ⟨?_,?_,?_,?_⟩
  · intro x hx hstatus
    rcases Table.mem_save.mp hx with rfl | ⟨hmem,hne⟩
    · rw [hrevoked] at hstatus
      cases hstatus
    · obtain ⟨b,hb,hxwallet⟩ := h.active x hmem hstatus
      have hba : b ≠ a := fun he => hother x hmem hstatus hne (he ▸ hb)
      exact ⟨b,hb,by rw [Function.update_of_ne hba]; exact hxwallet⟩
  · intro x hx hstatus
    rcases Table.mem_save.mp hx with rfl | ⟨hmem,-⟩
    · exact ⟨a,did,by rw [haddress]; exact ha,Function.update_self ..⟩
    · obtain ⟨b,found,hb,hxwallet⟩ := h.revoked x hmem hstatus
      have hba : b ≠ a := by
        rintro rfl
        cases hwallet.symm.trans hxwallet
      exact ⟨b,found,hb,by rw [Function.update_of_ne hba]; exact hxwallet⟩
  · intro x hx y hy hxstatus hystatus
    rcases Table.mem_save.mp hx with rfl | ⟨hxmem,-⟩
    · rw [hrevoked] at hxstatus
      cases hxstatus
    rcases Table.mem_save.mp hy with rfl | ⟨hymem,-⟩
    · rw [hrevoked] at hystatus
      cases hystatus
    · exact h.one x hxmem y hymem hxstatus hystatus
  · intro b found hb
    by_cases hba : b = a
    · rw [hba,Function.update_self] at hb
      cases hb
    · rw [Function.update_of_ne hba] at hb
      obtain ⟨x,hx,hstatus,hparse⟩ := h.covered b found hb
      refine ⟨x,Table.mem_save.mpr (.inr ⟨hx,?_⟩),hstatus,hparse⟩
      intro hkey
      rw [hkey,haddress,ha] at hparse
      exact hba (Option.some.inj hparse).symm

/-- A wallet becomes ACTIVE on chain and in its row, for an identity without an ACTIVE wallet. -/
theorem activate (h : WalletsAgree P t.rows wallets) {row : Wallet} (hactive : row.status = .ACTIVE)
    (ha : P.parseAddress row.address = some a)
    (hnone : ∀ x ∈ t.rows,x.status = .ACTIVE → x.identityId ≠ row.identityId)
    (hold : ∀ found status,wallets a = some (found,status) →
      found = utf8 row.identityId ∧ status ≠ .REVOKED) :
    WalletsAgree P (t.save row).rows
      (Function.update wallets a (some (utf8 row.identityId,.ACTIVE))) := by
  refine ⟨?_,?_,?_,?_⟩
  · intro x hx hstatus
    rcases Table.mem_save.mp hx with rfl | ⟨hmem,-⟩
    · exact ⟨a,ha,Function.update_self ..⟩
    · obtain ⟨b,hb,hwallet⟩ := h.active x hmem hstatus
      have hba : b ≠ a := by
        rintro rfl
        exact hnone x hmem hstatus (utf8_injective (hold _ _ hwallet).1)
      exact ⟨b,hb,by rw [Function.update_of_ne hba]; exact hwallet⟩
  · intro x hx hstatus
    rcases Table.mem_save.mp hx with rfl | ⟨hmem,-⟩
    · rw [hactive] at hstatus
      cases hstatus
    · obtain ⟨b,found,hb,hwallet⟩ := h.revoked x hmem hstatus
      have hba : b ≠ a := by
        rintro rfl
        exact (hold _ _ hwallet).2 rfl
      exact ⟨b,found,hb,by rw [Function.update_of_ne hba]; exact hwallet⟩
  · intro x hx y hy hxstatus hystatus hid
    rcases Table.mem_save.mp hx with rfl | ⟨hxmem,-⟩
    · rcases Table.mem_save.mp hy with rfl | ⟨hymem,-⟩
      · rfl
      · exact absurd hid.symm (hnone y hymem hystatus)
    · rcases Table.mem_save.mp hy with rfl | ⟨hymem,-⟩
      · exact absurd hid (hnone x hxmem hxstatus)
      · exact h.one x hxmem y hymem hxstatus hystatus hid
  · intro b found hb
    by_cases hba : b = a
    · exact ⟨row,Table.mem_save.mpr (.inl rfl),hactive,by rw [hba]; exact ha⟩
    · rw [Function.update_of_ne hba] at hb
      obtain ⟨x,hx,hstatus,hparse⟩ := h.covered b found hb
      refine ⟨x,Table.mem_save.mpr (.inr ⟨hx,?_⟩),hstatus,hparse⟩
      intro hkey
      rw [hkey,ha] at hparse
      exact hba (Option.some.inj hparse).symm

end WalletsAgree

variable {H : Type} [Keccak H] [DecidableEq H] {P : Platform} {s : UsersSystem H}

/-- The agreement, and what keeps it up: a PENDING identity has no ACTIVE wallet yet. -/
structure WalletAgreement (P : Platform) (s : UsersSystem H) : Prop where
  reachable : Reachable s.chain
  agree : WalletsAgree P s.repositories.wallets.rows s.chain.view.wallets
  pending : ∀ identity ∈ s.repositories.identities.rows,identity.status = .PENDING →
    ∀ row ∈ s.repositories.wallets.rows,row.status = .ACTIVE → row.identityId ≠ identity.identityId
  named : ∀ identity ∈ s.repositories.identities.rows,Trimmed identity.identityId

/-- The service runs on a chain, the repository lists every row, and a wallet that matches a key is an
address. -/
structure UsersService.Context.OnChain (P : Platform) (ctx : Context) : Prop where
  evm : ctx.evm = true
  faithful : ctx.Faithful
  matching : ∀ address key,ctx.walletMatches address key = true → ∃ a,P.parseAddress address = some a

/-- A new identity id has no wallets. -/
def FreshId (r : Repositories) (identityId : String) : Prop :=
  Trimmed identityId ∧ ∀ row ∈ r.wallets.rows,row.identityId ≠ identityId

/-- Wallets change on chain only through the service, every submission learns its outcome, and new
identity ids are fresh. Identities are created by registration only. -/
def AccountEvent.Settled (P : Platform) (r : Repositories) : AccountEvent → Prop
  | .auth ctx (.initializeAccount _ uuid) _ => ctx.toContext.OnChain P ∧ FreshId r ("DID:BEL:"++uuid)
  | .auth _ _ _ => True
  | .users (.assignRole ctx _ _ _ d) => ctx.OnChain P ∧ d.Settled
  | .users (.activateRegistration ctx _ _ created roleAssigned walletActivated) =>
    ctx.OnChain P ∧ created.Settled ∧ roleAssigned.Settled ∧ walletActivated.Settled
  | .users (.external tx) => tx.call.target ≠ some .identity
  | .createUser .. => False
  | .verifyRegistration .. => True
  | .registerDevice .. => True
  | .revokeDevice ctx _ _ stages => ctx.OnChain P ∧ ∀ k,(stages k).Settled
  | .registerWallet ctx _ _ _ => ctx.OnChain P
  | .revokeWallet ctx _ _ _ d => ctx.OnChain P ∧ d.Settled
  | .activateWallet ctx _ _ _ _ revocations created activated =>
    ctx.OnChain P ∧ (∀ k,(revocations k).Settled) ∧ created.Settled ∧ activated.Settled

namespace WalletAgreement

/-- The rows of wallets and identities stay, and so do the wallets on chain. -/
private theorem same (h : WalletAgreement P s) {s' : UsersSystem H} (hreach : Reachable s'.chain)
    (hchain : s'.chain.view.wallets = s.chain.view.wallets)
    (hwallets : s'.repositories.wallets = s.repositories.wallets)
    (hidentities : s'.repositories.identities = s.repositories.identities) :
    WalletAgreement P s' := by
  refine ⟨hreach,?_,?_,?_⟩
  · rw [hwallets,hchain]
    exact h.agree
  · rw [hwallets,hidentities]
    exact h.pending
  · rw [hidentities]
    exact h.named

/-- The row of an identity is completed. -/
private theorem saveIdentity (h : WalletAgreement P s) {row : Identity} (row' : Identity)
    (hrow : row ∈ s.repositories.identities.rows) (hid : row'.identityId = row.identityId)
    (hstatus : row'.status = row.status) {s' : UsersSystem H} (hreach : Reachable s'.chain)
    (hchain : s'.chain.view.wallets = s.chain.view.wallets)
    (hwallets : s'.repositories.wallets = s.repositories.wallets)
    (hidentities : s'.repositories.identities = s.repositories.identities.save row') :
    WalletAgreement P s' := by
  refine ⟨hreach,?_,?_,?_⟩
  · rw [hwallets,hchain]
    exact h.agree
  · rw [hwallets,hidentities]
    intro identity hmem hpending
    rcases Table.mem_save.mp hmem with rfl | ⟨hold,-⟩
    · rw [hid]
      exact h.pending row hrow (hstatus.symm.trans hpending)
    · exact h.pending identity hold hpending
  · rw [hidentities]
    intro identity hmem
    rcases Table.mem_save.mp hmem with rfl | ⟨hold,-⟩
    · rw [hid]
      exact h.named row hrow
    · exact h.named identity hold

/-- A PENDING row is added. -/
private theorem insertWallet (h : WalletAgreement P s) {row : Wallet}
    (hnew : s.repositories.wallets.find row.address = none) (hpending : row.status = .PENDING)
    {s' : UsersSystem H} (hchain : s'.chain = s.chain)
    (hwallets : s'.repositories.wallets = s.repositories.wallets.save row)
    (hidentities : s'.repositories.identities = s.repositories.identities) :
    WalletAgreement P s' := by
  refine ⟨hchain ▸ h.reachable,?_,?_,?_⟩
  · rw [hwallets,hchain]
    exact h.agree.insert hnew hpending
  · rw [hwallets,hidentities]
    intro identity hmem hstatus row' hrow' hactive
    rcases Table.mem_save.mp hrow' with rfl | ⟨hold,-⟩
    · rw [hpending] at hactive
      cases hactive
    · exact h.pending identity hmem hstatus row' hold hactive
  · rw [hidentities]
    exact h.named

/-- The wallet of an ACTIVE row is revoked on chain, and then the row. -/
private theorem revoke (h : WalletAgreement P s) {row : Wallet}
    (hrow : row ∈ s.repositories.wallets.rows) (hactive : row.status = .ACTIVE) {a : Address}
    (ha : P.parseAddress row.address = some a) {now reason : String} {s' : UsersSystem H}
    (hreach : Reachable s'.chain) {did : Bytes}
    (hchain : s'.chain.view.wallets =
      Function.update s.chain.view.wallets a (some (did,.REVOKED)))
    (hwallets : s'.repositories.wallets =
      s.repositories.wallets.save (revokedWallet now reason row))
    (hidentities : s'.repositories.identities = s.repositories.identities) :
    WalletAgreement P s' := by
  refine ⟨hreach,?_,?_,?_⟩
  · rw [hwallets,hchain]
    exact h.agree.revoke hrow hactive ha rfl rfl
  · rw [hwallets,hidentities]
    intro identity hmem hstatus row' hrow' hactive'
    rcases Table.mem_save.mp hrow' with rfl | ⟨hold,-⟩
    · cases hactive'
    · exact h.pending identity hmem hstatus row' hold hactive'
  · rw [hidentities]
    exact h.named

/-- A wallet that nobody knew is registered on chain. -/
private theorem create (h : WalletAgreement P s) {a : Address} {did : Bytes}
    (hnew : s.chain.view.wallets a = none) {w : World H} (hreach : Reachable w)
    (hchain : w.view.wallets = Function.update s.chain.view.wallets a (some (did,.PENDING))) :
    WalletAgreement P { s with chain := w } := by
  refine ⟨hreach,?_,h.pending,h.named⟩
  rw [hchain]
  exact h.agree.create hnew

/-- A wallet becomes ACTIVE on chain and in its row, for an identity without an ACTIVE wallet that is
not PENDING afterwards. -/
private theorem activate (h : WalletAgreement P s) {row : Wallet} (hactive : row.status = .ACTIVE)
    {a : Address} (ha : P.parseAddress row.address = some a)
    (hnone : ∀ x ∈ s.repositories.wallets.rows,x.status = .ACTIVE → x.identityId ≠ row.identityId)
    {w : World H} {result : Except ServiceError Unit}
    (henrolled : Enrolled s.chain w a (utf8 row.identityId) result) (hok : result = .ok ())
    {r : Repositories} (hwallets : r.wallets = s.repositories.wallets.save row)
    (hidentities : ∀ identity ∈ r.identities.rows,identity ∈ s.repositories.identities.rows ∧
        (identity.status = .PENDING → identity.identityId ≠ row.identityId) ∨
      (identity.status = .ACTIVE ∧ Trimmed identity.identityId)) : WalletAgreement P ⟨r,w⟩ := by
  obtain ⟨hchain,hold⟩ := henrolled.done hok
  refine ⟨henrolled.reachable,?_,?_,?_⟩
  · rw [hwallets,hchain]
    exact h.agree.activate hactive ha hnone hold
  · rw [hwallets]
    intro identity hmem hpending x hx hxactive
    rcases hidentities identity hmem with ⟨hbefore,hother⟩ | ⟨hstatus,-⟩
    · rcases Table.mem_save.mp hx with rfl | ⟨hxold,-⟩
      · exact (hother hpending).symm
      · exact h.pending identity hbefore hpending x hxold hxactive
    · rw [hstatus] at hpending
      cases hpending
  · intro identity hmem
    rcases hidentities identity hmem with ⟨hbefore,-⟩ | ⟨-,htrim⟩
    · exact h.named identity hbefore
    · exact htrim

/-- A failed enrolment leaves at most a PENDING wallet behind. -/
private theorem enrolled_failed (h : WalletAgreement P s) {a : Address} {did : Bytes} {w : World H}
    {e : ServiceError} (henrolled : Enrolled s.chain w a did (.error e)) :
    WalletAgreement P { s with chain := w } := by
  rcases henrolled.failed rfl with hsame | ⟨hnew,hchain⟩
  · exact h.same henrolled.reachable hsame rfl rfl
  · exact h.create hnew henrolled.reachable hchain

end WalletAgreement

section Loops
variable {ctx : Context} {actor : Identity} {wallet : Wallet}

/-- The row stands in the way of the new wallet. -/
def Replaced (wallet current : Wallet) : Prop :=
  current.status = .ACTIVE ∧ current.address ≠ wallet.address

theorem revokeReplaced_none {rows : List Wallet} (h : ∀ row ∈ rows,¬Replaced wallet row)
    (deliveries : ℕ → Delivery) :
    revokeReplaced P ctx actor wallet s rows deliveries = (s,.ok ()) := by
  induction rows generalizing deliveries with
  | nil => rfl
  | cons current rest ih =>
    have hkept : ¬(current.status = .ACTIVE ∧ current.address ≠ wallet.address) :=
      h current List.mem_cons_self
    rw [revokeReplaced,if_neg hkept]
    exact ih (fun row hrow => h row (List.mem_cons_of_mem current hrow)) _

/-- The loop has one row to revoke. -/
theorem revokeReplaced_one {before after : List Wallet} {current : Wallet}
    (hbefore : ∀ row ∈ before,¬Replaced wallet row) (hcurrent : Replaced wallet current)
    (hafter : ∀ row ∈ after,¬Replaced wallet row) (deliveries : ℕ → Delivery) :
    revokeReplaced P ctx actor wallet s (before++current::after) deliveries =
      revokeRow P ctx s actor current "Replaced by wallet activation"
        (deliveries before.length) := by
  induction before generalizing deliveries with
  | nil =>
    have hreplaced : current.status = .ACTIVE ∧ current.address ≠ wallet.address := hcurrent
    rw [List.nil_append,revokeReplaced,if_pos hreplaced]
    split
    · rename_i s' e hrevoke
      exact hrevoke.symm
    · rename_i s' hrevoke
      rw [revokeReplaced_none hafter]
      exact hrevoke.symm
  | cons row before ih =>
    have hkept : ¬(row.status = .ACTIVE ∧ row.address ≠ wallet.address) :=
      hbefore row List.mem_cons_self
    rw [List.cons_append,revokeReplaced,if_neg hkept]
    exact ih (fun x hx => hbefore x (List.mem_cons_of_mem row hx)) _

omit [Keccak H] [DecidableEq H] in
/-- An identity with at most one ACTIVE wallet has at most one row to revoke when another one of its
wallets is activated. -/
theorem replaced_cases (hctx : ctx.Faithful) {r : Repositories}
    (hone : ∀ row ∈ r.wallets.rows,∀ row' ∈ r.wallets.rows,row.status = .ACTIVE →
      row'.status = .ACTIVE → row.identityId = row'.identityId → row = row')
    (hwallet : wallet ∈ r.wallets.rows) (hpending : wallet.status = .PENDING) (identityId : String) :
    ((∀ x ∈ r.wallets.rows,x.status = .ACTIVE → x.identityId ≠ identityId) ∧
        ∀ row ∈ r.listWallets ctx identityId,¬Replaced wallet row) ∨
      ∃ before current after,r.listWallets ctx identityId = before++current::after ∧
        current ∈ r.wallets.rows ∧ current.identityId = identityId ∧ Replaced wallet current ∧
        (∀ row ∈ before,¬Replaced wallet row) ∧ (∀ row ∈ after,¬Replaced wallet row) ∧
        ∀ x ∈ r.wallets.rows,x.status = .ACTIVE → x.identityId = identityId → x = current := by
  -- the new wallet is PENDING, so an ACTIVE row has another address
  have hother : ∀ x ∈ r.wallets.rows,x.status = .ACTIVE → x.address ≠ wallet.address := by
    intro x hx hactive haddress
    have hfind := Table.find_of_mem hx
    rw [haddress,Table.find_of_mem hwallet] at hfind
    rw [← Option.some.inj hfind,hpending] at hactive
    cases hactive
  by_cases hex : ∃ current ∈ r.wallets.rows,current.status = .ACTIVE ∧ current.identityId = identityId
  · right
    obtain ⟨current,hmem,hactive,hid⟩ := hex
    have honly : ∀ x ∈ r.wallets.rows,x.status = .ACTIVE → x.identityId = identityId → x = current :=
      fun x hx hxactive hxid => hone x hx current hmem hxactive hactive (hxid.trans hid.symm)
    obtain ⟨before,after,hlist⟩ := List.append_of_mem ((mem_listWallets hctx).mpr ⟨hmem,hid⟩)
    have hdistinct : ((r.listWallets ctx identityId).map Wallet.address).Nodup :=
      listWallets_distinct hctx
    rw [hlist] at hdistinct
    have hcurrent : current ∉ before++after := by
      have hnodup := hdistinct.of_map
      rw [List.nodup_middle,List.nodup_cons] at hnodup
      exact hnodup.1
    have hkept : ∀ row ∈ before++after,¬Replaced wallet row := by
      intro row hrow hreplaced
      have hlisted : row ∈ r.listWallets ctx identityId := by
        rw [hlist]
        rcases List.mem_append.mp hrow with hrow | hrow
        · exact List.mem_append_left _ hrow
        · exact List.mem_append_right _ (List.mem_cons_of_mem _ hrow)
      obtain ⟨hrowMem,hrowId⟩ := (mem_listWallets hctx).mp hlisted
      rw [honly row hrowMem hreplaced.1 hrowId] at hrow
      exact hcurrent hrow
    exact ⟨before,current,after,hlist,hmem,hid,⟨hactive,hother current hmem hactive⟩,
      fun row hrow => hkept row (List.mem_append_left _ hrow),
      fun row hrow => hkept row (List.mem_append_right _ hrow),honly⟩
  · left
    have hnone : ∀ x ∈ r.wallets.rows,x.status = .ACTIVE → x.identityId ≠ identityId :=
      fun x hx hactive hid => hex ⟨x,hx,hactive,hid⟩
    refine ⟨hnone,fun row hrow hreplaced => ?_⟩
    obtain ⟨hmem,hid⟩ := (mem_listWallets hctx).mp hrow
    exact hnone row hmem hreplaced.1 hid

omit [Keccak H] [DecidableEq H] in
/-- On one device, too, there is at most one ACTIVE wallet. -/
theorem revokeDeviceCheck_one (hctx : ctx.Faithful) {r : Repositories}
    (hone : ∀ row ∈ r.wallets.rows,∀ row' ∈ r.wallets.rows,row.status = .ACTIVE →
      row'.status = .ACTIVE → row.identityId = row'.identityId → row = row')
    {deviceId : String} {actorId : Option String} {device : Device} {wallets : List Wallet}
    (h : revokeDeviceCheck ctx r deviceId actorId = .ok (device,actor,wallets)) :
    wallets = [] ∨ ∃ current,wallets = [current] ∧ current ∈ r.wallets.rows ∧
      current.status = .ACTIVE := by
  obtain ⟨-,-,hwallets⟩ := revokeDeviceCheck_rows h
  have hrows : ∀ row ∈ wallets,row ∈ r.wallets.rows ∧ row.identityId = device.identityId ∧
      row.status = .ACTIVE := by
    intro row hrow
    rw [hwallets,List.mem_filter,decide_eq_true_eq] at hrow
    obtain ⟨hmem,hid⟩ := (mem_listWallets hctx).mp hrow.1
    exact ⟨hmem,hid,hrow.2.2⟩
  have hdistinct : (wallets.map Wallet.address).Nodup := by
    rw [hwallets]
    exact (listWallets_distinct hctx).sublist (List.filter_sublist.map Wallet.address)
  match wallets with
  | [] => exact .inl rfl
  | [current] => exact .inr ⟨current,rfl,(hrows current (by simp)).1,(hrows current (by simp)).2.2⟩
  | first::second::rest =>
    obtain ⟨hfirst,hfirstId,hfirstActive⟩ := hrows first (by simp)
    obtain ⟨hsecond,hsecondId,hsecondActive⟩ := hrows second (by simp)
    obtain rfl := hone first hfirst second hsecond hfirstActive hsecondActive
      (hfirstId.trans hsecondId.symm)
    simp at hdistinct

end Loops

namespace WalletAgreement
variable {ctx : Context} {actor : Identity} {wallet : Wallet} {d : Delivery}

private theorem revokeRow (hinj : Function.Injective (keccak256 : Bytes → H)) (hstrict : P.Strict)
    (hctx : ctx.OnChain P) (h : WalletAgreement P s) (hrow : wallet ∈ s.repositories.wallets.rows)
    (hactive : wallet.status = .ACTIVE) (actor : Identity) (reason : String) (hd : d.Settled) :
    WalletAgreement P (UsersService.revokeRow P ctx s actor wallet reason d).1 := by
  obtain ⟨a,ha,-⟩ := h.agree.active wallet hrow hactive
  unfold UsersService.revokeRow
  split
  · rename_i w e hsubmit
    obtain ⟨hreach,hfailed,-⟩ :=
      submit_revokeWallet_settled hinj hstrict hctx.evm h.reachable ha hd hsubmit
    exact h.same hreach (hfailed rfl) rfl rfl
  · rename_i w hsubmit
    obtain ⟨hreach,-,hdone⟩ :=
      submit_revokeWallet_settled hinj hstrict hctx.evm h.reachable ha hd hsubmit
    obtain ⟨did,status,-,-,hchain⟩ := hdone rfl
    exact h.revoke hrow hactive ha hreach hchain rfl rfl

private theorem revokeWallet (hinj : Function.Injective (keccak256 : Bytes → H))
    (hstrict : P.Strict) (hctx : ctx.OnChain P) (h : WalletAgreement P s) (userId reason : String)
    (actorId : Option String) (hd : d.Settled) :
    WalletAgreement P (UsersService.revokeWallet P ctx s userId reason actorId d).1 := by
  unfold UsersService.revokeWallet
  split
  · exact h
  · rename_i actor wallet hcheck
    obtain ⟨-,hactive,identity,-,hlisted⟩ := revokeWalletCheck_rows hcheck
    have hrow := ((mem_listWallets hctx.faithful).mp hlisted).1
    have hafter := revokeRow hinj hstrict hctx h hrow hactive actor reason hd
    split
    · rename_i s' e hrevoke
      rw [hrevoke] at hafter
      exact hafter
    · rename_i s' hrevoke
      rw [hrevoke] at hafter
      exact hafter

private theorem revokeDevice (hinj : Function.Injective (keccak256 : Bytes → H))
    (hstrict : P.Strict) (hctx : ctx.OnChain P) (h : WalletAgreement P s) (deviceId : String)
    (actorId : Option String) {stages : ℕ → Stage} (hstages : ∀ k,(stages k).Settled) :
    WalletAgreement P (UsersService.revokeDevice P ctx s deviceId actorId stages).1 := by
  unfold UsersService.revokeDevice
  split
  · exact h
  · rename_i device actor wallets hcheck
    rcases revokeDeviceCheck_one hctx.faithful h.agree.one hcheck with
      rfl | ⟨current,rfl,hrow,hactive⟩
    · exact h.same h.reachable rfl rfl rfl
    · obtain ⟨a,ha,-⟩ := h.agree.active current hrow hactive
      simp only [ensureWalletsRevoked]
      split
      · rename_i w e hstage
        split at hstage
        · rename_i w' e' hrevoke
          obtain ⟨rfl,-⟩ := Prod.mk.inj hstage
          obtain ⟨hreach,hfailed,-⟩ := ensureWalletRevoked_settled hinj hstrict hctx.evm h.reachable ha
            (hstages 0) hrevoke
          exact h.same hreach (hfailed rfl) rfl rfl
        · cases (Prod.mk.inj hstage).2
      · rename_i w hstage
        split at hstage
        · cases (Prod.mk.inj hstage).2
        · rename_i w' hrevoke
          obtain ⟨rfl,-⟩ := Prod.mk.inj hstage
          obtain ⟨hreach,-,hdone⟩ := ensureWalletRevoked_settled hinj hstrict hctx.evm h.reachable ha
            (hstages 0) hrevoke
          obtain ⟨did,status,-,hchain⟩ := hdone rfl
          exact h.revoke hrow hactive ha hreach hchain rfl rfl

private theorem activateRegistration (hinj : Function.Injective (keccak256 : Bytes → H))
    (hstrict : P.Strict) (hctx : ctx.OnChain P) (h : WalletAgreement P s) (actorId userId : String)
    {created roleAssigned walletActivated : Stage} (hcreated : created.Settled)
    (hassigned : roleAssigned.Settled) (hactivated : walletActivated.Settled) :
    WalletAgreement P (UsersService.activateRegistration P ctx s actorId userId created roleAssigned
      walletActivated).1 := by
  unfold UsersService.activateRegistration
  split
  · exact h
  · rename_i actor g hcheck
    obtain ⟨hidentity,hpending,-⟩ := activateCheck_registration hcheck
    obtain ⟨-,-,howner,hmatch⟩ := activateCheck_rows hctx.faithful hcheck
    obtain ⟨a,ha⟩ := hctx.matching _ _ (hmatch hctx.evm)
    have htrim := h.named g.identity hidentity
    split
    · rename_i w e honchain
      exact h.enrolled_failed (activateOnChain_enrolled hinj hstrict hctx.evm h.reachable htrim ha
        hcreated hassigned hactivated honchain)
    · rename_i w honchain
      have henrolled := activateOnChain_enrolled hinj hstrict hctx.evm h.reachable htrim ha hcreated
        hassigned hactivated honchain
      rw [← howner] at henrolled
      have hactive : (activated ctx.now g).wallet.status = .ACTIVE := rfl
      refine h.activate hactive ha ?_ henrolled rfl rfl ?_
      · intro x hx hactive
        rw [show (activated ctx.now g).wallet.identityId = g.identity.identityId from howner]
        exact h.pending g.identity hidentity hpending x hx hactive
      · intro identity hmem
        rcases Table.mem_save.mp hmem with rfl | ⟨hold,hother⟩
        · exact .inr ⟨rfl,htrim⟩
        · refine .inl ⟨hold,fun _ => ?_⟩
          rw [show (activated ctx.now g).wallet.identityId = g.identity.identityId from howner]
          exact hother

/-- The chain part of a replacement and the row after it. -/
private theorem replacement (hinj : Function.Injective (keccak256 : Bytes → H)) (hstrict : P.Strict)
    (hctx : ctx.OnChain P) (h : WalletAgreement P s) {identity : Identity}
    (hidentity : identity ∈ s.repositories.identities.rows) (hactive : identity.status = .ACTIVE)
    (howner : wallet.identityId = identity.identityId) {a : Address}
    (ha : P.parseAddress wallet.address = some a)
    (hnone : ∀ x ∈ s.repositories.wallets.rows,x.status = .ACTIVE →
      x.identityId ≠ identity.identityId)
    {created activated : Stage} (hcreated : created.Settled) (hactivated : activated.Settled)
    {w : World H} {result : Except ServiceError Unit}
    (hsteps : registerReplacement P ctx s.repositories s.chain actor identity wallet created activated =
      (w,result)) :
    (∀ e,result = .error e → WalletAgreement P { s with chain := w }) ∧
      (result = .ok () → WalletAgreement P ⟨saveActivatedWallet s.repositories identity.identityId
        (activatedWallet ctx.now wallet),w⟩) := by
  have henrolled := registerReplacement_enrolled hinj hstrict hctx.evm h.reachable
    (h.named identity hidentity) ha hcreated hactivated hsteps
  constructor
  · rintro e rfl
    exact h.enrolled_failed henrolled
  · intro hok
    rw [← howner] at henrolled
    have hstatus : (activatedWallet ctx.now wallet).status = .ACTIVE := rfl
    refine h.activate hstatus ha ?_ henrolled hok rfl ?_
    · rw [show (activatedWallet ctx.now wallet).identityId = identity.identityId from howner]
      exact hnone
    · intro row hrow
      refine .inl ⟨hrow,fun hpending hid => ?_⟩
      -- the identity of the wallet is ACTIVE
      have hfind : s.repositories.identities.find row.identityId = some row := Table.find_of_mem hrow
      rw [hid,show (activatedWallet ctx.now wallet).identityId = identity.identityId from howner,
        Table.find_of_mem hidentity] at hfind
      rw [← Option.some.inj hfind,hactive] at hpending
      cases hpending

private theorem activateWallet (hinj : Function.Injective (keccak256 : Bytes → H))
    (hstrict : P.Strict) (hctx : ctx.OnChain P) (h : WalletAgreement P s)
    (userId deviceId address : String) (actorId : Option String) {revocations : ℕ → Delivery}
    {created activated : Stage} (hrevocations : ∀ k,(revocations k).Settled)
    (hcreated : created.Settled) (hactivated : activated.Settled) :
    WalletAgreement P (UsersService.activateWallet P ctx s userId deviceId address actorId revocations
      created activated).1 := by
  unfold UsersService.activateWallet
  split
  · exact h
  · rename_i actor identity wallet hcheck
    obtain ⟨-,hfound,hactive,hfind,howner,-,hpending,hmatch⟩ := activateWalletCheck_rows hcheck
    have hidentity := resolveIdentity_mem (requireIdentity_eq_ok hfound)
    have hwallet := Table.mem_of_find hfind
    obtain ⟨a,haddress⟩ := hctx.matching _ _ (hmatch hctx.evm)
    have ha : P.parseAddress wallet.address = some a := by
      rw [show wallet.address = jsTrim address from Table.key_of_find hfind]
      exact (parseAddress_trim hstrict haddress).1
    rcases replaced_cases hctx.faithful h.agree.one hwallet hpending identity.identityId with
      ⟨hnone,hkept⟩ | ⟨before,current,after,hlist,hcurrent,hid,hreplaced,hbefore,hafter,honly⟩
    · rw [revokeReplaced_none hkept]
      dsimp only
      split
      · rename_i w e hsteps
        exact (h.replacement hinj hstrict hctx hidentity hactive howner ha hnone hcreated hactivated
          hsteps).1 e rfl
      · rename_i w hsteps
        exact (h.replacement hinj hstrict hctx hidentity hactive howner ha hnone hcreated hactivated
          hsteps).2 rfl
    · rw [hlist,revokeReplaced_one hbefore hreplaced hafter]
      have hrevoked := revokeRow hinj hstrict hctx h hcurrent hreplaced.1 actor
        "Replaced by wallet activation" (hrevocations before.length)
      split
      · rename_i s' e hrow
        rw [hrow] at hrevoked
        exact hrevoked
      · rename_i s' hrow
        rw [hrow] at hrevoked
        have hafter : s'.repositories = { s.repositories with
            wallets := s.repositories.wallets.save
              (revokedWallet ctx.now "Replaced by wallet activation" current) } := by
          unfold UsersService.revokeRow at hrow
          split at hrow
          · cases (Prod.mk.inj hrow).2
          · exact (Prod.mk.inj hrow).1 ▸ rfl
        have hidentity' : identity ∈ s'.repositories.identities.rows := by
          rw [hafter]
          exact hidentity
        have hnone : ∀ x ∈ s'.repositories.wallets.rows,x.status = .ACTIVE →
            x.identityId ≠ identity.identityId := by
          intro x hx hxactive hxid
          rw [hafter] at hx
          rcases Table.mem_save.mp hx with rfl | ⟨hxold,hxother⟩
          · cases hxactive
          · exact hxother (by rw [honly x hxold hxactive hxid]; rfl)
        split
        · rename_i w e hsteps
          exact (hrevoked.replacement hinj hstrict hctx hidentity' hactive howner ha hnone hcreated
            hactivated hsteps).1 e rfl
        · rename_i w hsteps
          exact (hrevoked.replacement hinj hstrict hctx hidentity' hactive howner ha hnone hcreated
            hactivated hsteps).2 rfl

private theorem assignRole (hctx : ctx.OnChain P) (h : WalletAgreement P s)
    (actorId userId role : String) (hd : d.Settled) :
    WalletAgreement P (UsersService.assignRole P ctx s actorId userId role d).1 := by
  unfold UsersService.assignRole
  split
  · exact h
  · rename_i actor target found hcheck
    have htarget := assignRoleCheck_target hcheck
    dsimp only
    split
    · split
      · exact h
      · exact h.saveIdentity { target with role := some found } htarget rfl rfl h.reachable
          rfl rfl rfl
    · split
      · rename_i w e hsubmit
        obtain ⟨hreach,hsame⟩ := submit_roleAssign_settled h.reachable hctx.evm hd hsubmit
        exact h.same hreach hsame rfl rfl
      · rename_i w hsubmit
        obtain ⟨hreach,hsame⟩ := submit_roleAssign_settled h.reachable hctx.evm hd hsubmit
        exact h.saveIdentity { target with role := some found } htarget rfl rfl hreach hsame
          rfl rfl

private theorem verifyRegistration (h : WalletAgreement P s)
    (actorId userId employeeId department : String) :
    WalletAgreement P
      (UsersService.verifyRegistration s actorId userId employeeId department).1 := by
  unfold UsersService.verifyRegistration
  split
  · exact h
  · rename_i row hcheck
    obtain ⟨target,htarget,-,rfl⟩ := verifyCheck_rows hcheck
    exact h.saveIdentity { target with
      employeeId := some (jsTrim employeeId), department := some (jsTrim department) }
      (resolveIdentity_mem (requireIdentity_eq_ok htarget)) rfl rfl h.reachable rfl rfl rfl

private theorem registerWallet (hstrict : P.Strict) (hctx : ctx.OnChain P) (h : WalletAgreement P s)
    (userId deviceId address : String) :
    WalletAgreement P (UsersService.registerWallet ctx s userId deviceId address).1 := by
  unfold UsersService.registerWallet
  split
  · exact h
  · rename_i wallet hcheck
    obtain ⟨hnew,haddress,hstatus,-,hmatch⟩ := registerWalletCheck_rows hcheck
    obtain ⟨a,ha⟩ := hctx.matching _ _ (hmatch hctx.evm)
    have htrim : jsTrim address = address := (hstrict address a ha).1
    refine h.insertWallet ?_ hstatus rfl rfl rfl
    rw [haddress,htrim]
    exact hnew

private theorem initializeAccount {ctx : AuthContext} (hstrict : P.Strict)
    (hctx : ctx.toContext.OnChain P) (h : WalletAgreement P s) (input : InitializeAccountRequest)
    {uuid : String} (hfresh : FreshId s.repositories ("DID:BEL:"++uuid)) (env : ℕ → Surroundings) :
    WalletAgreement P { s with
      repositories := (serveAuth ctx s.repositories (.initializeAccount input uuid) env).1 } := by
  rcases initializeAccount_effect ctx s.repositories input uuid env with
    hsame | hsaved
  · exact h.same h.reachable rfl hsame.wallets hsame.identities
  · obtain ⟨a,ha⟩ := hctx.matching _ _ (hsaved.matching hctx.evm)
    have hnew : s.repositories.wallets.find (newRegistration ctx.now input uuid).wallet.address =
        none := by
      have htrim : jsTrim input.walletAddress = input.walletAddress := (hstrict _ a ha).1
      rw [show (newRegistration ctx.now input uuid).wallet.address = jsTrim input.walletAddress from
        rfl,htrim]
      exact hsaved.newWallet
    refine ⟨h.reachable,?_,?_,?_⟩
    · dsimp only
      rw [hsaved.wallets]
      exact h.agree.insert hnew rfl
    · dsimp only
      rw [hsaved.wallets,hsaved.identities]
      intro identity hmem hpending row hrow hactive
      rcases Table.mem_save.mp hrow with rfl | ⟨hrowOld,-⟩
      · cases hactive
      rcases Table.mem_save.mp hmem with rfl | ⟨hold,-⟩
      · exact hfresh.2 row hrowOld
      · exact h.pending identity hold hpending row hrowOld hactive
    · dsimp only
      rw [hsaved.identities]
      intro identity hmem
      rcases Table.mem_save.mp hmem with rfl | ⟨hold,-⟩
      · exact hfresh.1
      · exact h.named identity hold

/-- Every call keeps the agreement. -/
private theorem step (hinj : Function.Injective (keccak256 : Bytes → H)) (hstrict : P.Strict)
    (h : WalletAgreement P s) {e : AccountEvent} (he : e.Settled P s.repositories) :
    WalletAgreement P (e.step P s) := by
  cases e with
  | auth ctx q env =>
    by_cases hq : ∀ input uuid,q ≠ .initializeAccount input uuid
    · have hsame : SameRows s.repositories (serveAuth ctx s.repositories q env).1 :=
        serveAuth_sameRows hq env
      exact h.same h.reachable rfl hsame.wallets hsame.identities
    · simp only [not_forall,not_not] at hq
      obtain ⟨input,uuid,rfl⟩ := hq
      exact h.initializeAccount hstrict he.1 input he.2 env
  | users e =>
    cases e with
    | assignRole ctx actorId userId role d => exact h.assignRole he.1 actorId userId role he.2
    | activateRegistration ctx actorId userId created roleAssigned walletActivated =>
      obtain ⟨hctx,hcreated,hassigned,hactivated⟩ := he
      exact h.activateRegistration hinj hstrict hctx actorId userId hcreated hassigned hactivated
    | external tx => exact h.same (h.reachable.attempt tx) (attempt_wallets h.reachable he) rfl rfl
  | createUser => exact he.elim
  | verifyRegistration actorId userId employeeId department =>
    exact h.verifyRegistration actorId userId employeeId department
  | registerDevice ctx userId deviceId credential publicKey =>
    simp only [AccountEvent.step,UsersService.registerDevice]
    split
    · exact h
    · exact h.same h.reachable rfl rfl rfl
  | revokeDevice ctx deviceId actorId stages =>
    exact h.revokeDevice hinj hstrict he.1 deviceId actorId he.2
  | registerWallet ctx userId deviceId address =>
    exact h.registerWallet hstrict he userId deviceId address
  | revokeWallet ctx userId reason actorId d =>
    exact h.revokeWallet hinj hstrict he.1 userId reason actorId he.2
  | activateWallet ctx userId deviceId address actorId revocations created activated =>
    obtain ⟨hctx,hrevocations,hcreated,hactivated⟩ := he
    exact h.activateWallet hinj hstrict hctx userId deviceId address actorId hrevocations hcreated
      hactivated

end WalletAgreement

/-- One administrator with one device and one wallet, which is the only one on chain. -/
structure Bootstrapped (P : Platform) (s : UsersSystem H) : Prop where
  reachable : Reachable s.chain
  rows : ∃ identity device wallet a,s.repositories.identities.rows = [identity] ∧
    s.repositories.devices.rows = [device] ∧ s.repositories.wallets.rows = [wallet] ∧
    (identity.status = .ACTIVE ∧ identity.role = some .ADMIN ∧ Trimmed identity.identityId) ∧
    (device.status = .ACTIVE ∧ device.identityId = identity.identityId) ∧
    (wallet.status = .ACTIVE ∧ wallet.identityId = identity.identityId) ∧
    P.parseAddress wallet.address = some a ∧
    s.chain.view.wallets = Function.update (fun _ => none) a
      (some (utf8 identity.identityId,.ACTIVE))

theorem Bootstrapped.agreement (h : Bootstrapped P s) : WalletAgreement P s := by
  obtain ⟨identity,device,wallet,a,hidentities,-,hwallets,⟨hactive,-,htrim⟩,-,⟨hstatus,howner⟩,ha,
    hchain⟩ := h.rows
  refine ⟨h.reachable,?_,?_,?_⟩
  · rw [hwallets,hchain]
    refine ⟨?_,?_,?_,?_⟩
    · intro row hrow _
      obtain rfl := List.mem_singleton.mp hrow
      exact ⟨a,ha,by rw [Function.update_self,howner]⟩
    · intro row hrow hrevoked
      rw [List.mem_singleton.mp hrow,hstatus] at hrevoked
      cases hrevoked
    · intro row hrow row' hrow' _ _ _
      rw [List.mem_singleton.mp hrow,List.mem_singleton.mp hrow']
    · intro b did hb
      by_cases hba : b = a
      · exact ⟨wallet,List.mem_singleton_self wallet,hstatus,by rw [hba]; exact ha⟩
      · rw [Function.update_of_ne hba] at hb
        cases hb
  · rw [hidentities]
    intro row hrow hpending
    rw [List.mem_singleton.mp hrow,hactive] at hpending
    cases hpending
  · rw [hidentities]
    intro row hrow
    rw [List.mem_singleton.mp hrow]
    exact htrim

theorem WalletAgreement.run (hinj : Function.Injective (keccak256 : Bytes → H)) (hstrict : P.Strict)
    (h : WalletAgreement P s) {events : List AccountEvent}
    (hevents : Throughout (AccountEvent.step P) (fun s e => e.Settled P s.repositories) s events) :
    WalletAgreement P (accountRun P s events) :=
  hevents.invariant (I := WalletAgreement P) (fun _ _ ht he => ht.step hinj hstrict he) h

/-- After every sequence of calls the rows agree with the chain. -/
theorem wallet_rows_agree (hinj : Function.Injective (keccak256 : Bytes → H)) (hstrict : P.Strict)
    (hstart : Bootstrapped P s) {events : List AccountEvent}
    (hevents : Throughout (AccountEvent.step P) (fun s e => e.Settled P s.repositories) s events) :
    WalletsAgree P (accountRun P s events).repositories.wallets.rows
      (accountRun P s events).chain.view.wallets := by
  have hend := hstart.agreement.run hinj hstrict hevents
  exact hend.agree

section Prototype

theorem usersContext_onChain : usersContext.OnChain prototypePlatform := by
  refine ⟨rfl,⟨fun rows => List.Perm.refl rows,fun rows => List.Perm.refl rows⟩,?_⟩
  intro address key hmatches
  simp only [usersContext,Bool.and_eq_true,beq_iff_eq] at hmatches
  rw [hmatches.1]
  exact Option.isSome_iff_exists.mp (by decide +kernel)

/-- The service of the prototype on the chain. -/
def chainAuth : AuthContext :=
  { prototypeAuth with toContext := usersContext, canonicalKey := fun key => key == auditorKey }

/-- The administrator after the deployment. -/
def bootstrapUsers : UsersSystem (Option Bytes) :=
  ⟨{ identities := ⟨[⟨"DID:BEL:ADMIN",some "ADMIN",some .ADMIN,some "IT",.ACTIVE⟩],by decide⟩
     users := ⟨[⟨"ADMIN","DID:BEL:ADMIN",adminWallet,.ADMIN,"IT",.ACTIVE⟩],by decide⟩
     devices := ⟨[⟨"DEV-0","DID:BEL:ADMIN",.ACTIVE,"2025-11-17T09:00:00.000Z",none,none,none⟩],
       by decide⟩
     wallets := ⟨[⟨adminWallet,"DID:BEL:ADMIN","DEV-0",.ACTIVE,none,none,none,none⟩],by decide⟩ },
    prototypeWorld⟩

theorem prototypeWorld_wallets : prototypeWorld.view.wallets =
    Function.update (fun _ : Address => none) 0xad (some (utf8 "DID:BEL:ADMIN",.ACTIVE)) := by
  have hgenesis := deploy_genesis deploy_prototype
  funext a
  by_cases ha : a = 0xad
  · subst ha
    rw [Function.update_self]
    exact view_wallets_eq_some.mpr (by decide +kernel)
  · rw [Function.update_of_ne ha,view_wallets_eq_none,hgenesis.wallets,
      Function.update_of_ne (show a ≠ prototype.bootstrapAdmin from ha)]

theorem bootstrapUsers_bootstrapped : Bootstrapped prototypePlatform bootstrapUsers :=
  ⟨prototype_reachable [],_,_,_,0xad,rfl,rfl,rfl,⟨rfl,rfl,by decide +kernel⟩,⟨rfl,rfl⟩,⟨rfl,rfl⟩,
    by decide +kernel,prototypeWorld_wallets⟩

/-- An auditor registers, a first activation stops after the registration of the wallet, a second one
succeeds, and then the device is revoked. -/
def auditorLifecycle : List AccountEvent :=
  [.auth chainAuth (.requestProvisioningChallenge ⟨"DEV-2",some .leaf⟩ ⟨"challenge-2","nonce-2"⟩)
     (clock 1000),
   .auth chainAuth (.initializeAccount
     { hasPrivateKey := false, fullName := "Auditor", deviceId := "DEV-2", publicKey := auditorKey,
       walletAddress := auditorWallet, challengeId := "challenge-2",
       signature := "nonce-2/"++auditorKey, deviceMetadata := some .leaf, employeeId := none,
       department := none } "2") (clock 2000),
   .verifyRegistration "ADMIN" "DID:BEL:2" "E-2" "QA",
   .users (.assignRole usersContext "ADMIN" "E-2" "AUDITOR" (deliveryOf 2 .mined)),
   .users (.activateRegistration usersContext "ADMIN" "E-2" ⟨[],deliveryOf 3 .mined⟩
     ⟨[],deliveryOf 4 (.dropped (.error ⟨.NETWORK,"unreachable"⟩))⟩ ⟨[],deliveryOf 5 .mined⟩),
   .users (.activateRegistration usersContext "ADMIN" "E-2" ⟨[],deliveryOf 6 .mined⟩
     ⟨[],deliveryOf 7 .mined⟩ ⟨[],deliveryOf 8 .mined⟩),
   .revokeDevice usersContext "DEV-2" (some "ADMIN") (fun k => ⟨[],deliveryOf (9+k) .mined⟩)]

theorem deliveryOf_settled (number : ℕ) {fate : Fate} (hfate : ¬fate.Lost) :
    (deliveryOf number fate).Settled :=
  ⟨fun _ h => absurd h List.not_mem_nil,hfate⟩

theorem stage_settled (number : ℕ) {fate : Fate} (hfate : ¬fate.Lost) :
    (Stage.mk [] (deliveryOf number fate)).Settled :=
  ⟨fun _ h => absurd h List.not_mem_nil,deliveryOf_settled number hfate⟩

theorem auditorLifecycle_settled : Throughout (AccountEvent.step prototypePlatform)
    (fun s e => e.Settled prototypePlatform s.repositories) bootstrapUsers auditorLifecycle := by
  have hfresh : FreshId (accountRun prototypePlatform bootstrapUsers
      (auditorLifecycle.take 1)).repositories ("DID:BEL:"++"2") := by
    unfold FreshId
    decide +kernel
  exact ⟨trivial,⟨usersContext_onChain,hfresh⟩,trivial,⟨usersContext_onChain,deliveryOf_settled 2 id⟩,
    ⟨usersContext_onChain,stage_settled 3 id,stage_settled 4 id,stage_settled 5 id⟩,
    ⟨usersContext_onChain,stage_settled 6 id,stage_settled 7 id,stage_settled 8 id⟩,
    ⟨usersContext_onChain,fun k => stage_settled (9+k) id⟩,trivial⟩

theorem wallet_rows_agree_auditor :
    ((accountRun prototypePlatform bootstrapUsers auditorLifecycle).repositories.wallets.find
      auditorWallet).map Wallet.status = some .REVOKED ∧
    WalletsAgree prototypePlatform
      (accountRun prototypePlatform bootstrapUsers auditorLifecycle).repositories.wallets.rows
      (accountRun prototypePlatform bootstrapUsers auditorLifecycle).chain.view.wallets :=
  ⟨by decide +kernel,wallet_rows_agree prototype_keccak_injective prototypePlatform_strict
    bootstrapUsers_bootstrapped auditorLifecycle_settled⟩

end Prototype

end BelLedger
