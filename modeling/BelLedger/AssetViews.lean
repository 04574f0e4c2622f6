import BelLedger.AssetCreation
import BelLedger.RelyingPrograms

/-!
# How AssetsServiceImpl reads while the chain goes on

`EvmBlockchainAdapter.getAsset` puts an asset together from several view calls, and blocks are mined
while they are answered. A request of AssetsServiceImpl is the program it was, with these calls in
place of the one read.
-/
namespace BelLedger
open CheckedCalls TransitionRuns KeyedTables AssetRegistry EffectPrograms Prog AssetsService

section Views

inductive AssetView
  | nftIdOf (id : String)
  | getAsset (nftId : ℕ)
  | ownerOfAsset (nftId : ℕ)
  | stateOf (nftId : ℕ)
  | identityOf (address : Address)

namespace AssetView
variable {H : Type} [Keccak H]

abbrev Answer : AssetView → Type
  | nftIdOf _ => ℕ
  | getAsset _ => AssetRecord
  | ownerOfAsset _ => Address
  | stateOf _ => Bytes
  | identityOf _ => String

/-- What a node answers that has got as far as the state `w`. -/
def answer (w : World H) : (v : AssetView) → Except ServiceError v.Answer
  | nftIdOf id => .ok (AssetRegistry.nftIdOf w.assets (utf8 id))
  | getAsset nftId => EvmAdapter.read (existing w.assets nftId)
  | ownerOfAsset nftId => EvmAdapter.read (AssetRegistry.ownerOfAsset w.assets nftId)
  | stateOf nftId => EvmAdapter.read (AssetRegistry.stateOf w.assets nftId)
  | identityOf address => EvmAdapter.decoded (IdentityRegistry.identityOf w.identity address)

end AssetView

/-- The calls of a request. -/
inductive ServedCall
  | of (c : AssetCall)
  /-- How many states the chain has had. -/
  | height
  /-- A view call that was sent when the chain had had `since` states. -/
  | view (since : ℕ) (v : AssetView)

abbrev ServedCall.Answer : ServedCall → Type
  | of c => c.Answer
  | height => ℕ
  | view _ v => Except ServiceError v.Answer

abbrev ServedProgram (α : Type) := Prog ServedCall.Answer ServiceError α

namespace EvmAdapter

def ask (since : ℕ) (v : AssetView) : ServedProgram v.Answer := do
  let answer ← perform (ServedCall.view since v)
  done answer

def identityOrAddressViews (checksum : Address → String) (since : ℕ) (address : Address) :
    ServedProgram String := do
  let did ← ask since (.identityOf address)
  pure (if did = "" then checksum address else did)

def parentViews (parent : ℕ) : ServedProgram (Option String) :=
  if parent = 0 then pure none
  else do
    let since ← perform ServedCall.height
    let record ← ask since (.getAsset parent)
    let text ← done (decoded record.assetId)
    pure (some text)

/-- `getAsset`. The calls of a `Promise.all` are sent at once, whatever the order of their answers. -/
def getAssetViews (ctx : AssetsContext) (id : String) : ServedProgram (Option Asset) := do
  let since ← perform ServedCall.height
  let nftId ← ask since (.nftIdOf id)
  if nftId = 0 then pure none
  else do
    let since ← perform ServedCall.height
    let record ← ask since (.getAsset nftId)
    let owner ← ask since (.ownerOfAsset nftId)
    let state ← ask since (.stateOf nftId)
    let parent ← parentViews record.parent
    let since ← perform ServedCall.height
    let ownerId ← identityOrAddressViews ctx.checksum since owner
    let custodianId ← identityOrAddressViews ctx.checksum since record.custodian
    pure (some
      { assetId := id, nftId := toString nftId, assetType := (ctx.assetType id).getD "", ownerId,
        custodianId, parentAssetId := some parent, status := statusNamed state })

end EvmAdapter

namespace AssetsService

/-- A call as the service makes it on the EVM adapter; an error of a read ends the request. -/
def onAdapter (ctx : AssetsContext) : (c : AssetCall) → ServedProgram c.Answer
  | .getAsset id => do
    let found ← EvmAdapter.getAssetViews ctx id
    pure (.ok found)
  | .cached id => perform (ServedCall.of (.cached id))
  | .set id row => perform (ServedCall.of (.set id row))
  | .save row => perform (ServedCall.of (.save row))
  | .submit tx => perform (ServedCall.of (.submit tx))

end AssetsService

end Views

section Serving
variable {H : Type} [Keccak H] [DecidableEq H]

/-- The states that the transactions of others leave one after the other, latest first. -/
def passed (w : World H) : List Tx → List (World H)
  | [] => []
  | tx::txs => passed (attempt exec w tx) txs++[attempt exec w tx]

/-- The service, and the states that the chain has had, latest first. -/
structure AssetHistory (H : Type) where
  system : AssetsSystem H
  past : List (World H)

/-- What a call meets: the transactions that others have had mined before it, the delivery of a
submission, which of the states since a view call was sent answers it, and whether the node fails. -/
structure AssetSurroundings where
  others : List Tx
  delivery : Delivery
  moment : ℕ
  failure : Option ServiceError

/-- From the state on that was the latest when there had been `n` of them. -/
def since (n : ℕ) (past : List (World H)) : List (World H) := past.take (past.length - n + 1)

namespace AssetHistory

def pass (s : AssetHistory H) (txs : List Tx) : AssetHistory H :=
  { system := { s.system with chain := attemptAll exec s.system.chain txs }
    past := passed s.system.chain txs++s.past }

/-- The states between the planning of a transaction and its block. -/
def between (P : Platform) (w : World H) (d : Delivery) : AssetCall → List (World H)
  | .submit tx =>
    match EvmAdapter.prepare P w tx d with
    | .ok _ => passed w d.interference
    | .error _ => []
  | _ => []

def handle (P : Platform) (ctx : AssetsContext) (d : Delivery) (s : AssetHistory H) (c : AssetCall) :
    AssetHistory H × c.Answer :=
  let answer := AssetCall.handle P ctx d s.system c
  ({ system := answer.1
     past := answer.1.chain::(between P s.system.chain d c++s.past) },answer.2)

def view (s : AssetHistory H) (env : AssetSurroundings) (n : ℕ) (v : AssetView) :
    Except ServiceError v.Answer :=
  match env.failure with
  | some e => .error e
  | none => v.answer ((since n s.past).getD env.moment s.system.chain)

def serve (P : Platform) (ctx : AssetsContext) (env : AssetSurroundings) (s : AssetHistory H) :
    (c : ServedCall) → AssetHistory H × c.Answer
  | .of c => (s.pass env.others).handle P ctx env.delivery c
  | .height => (s.pass env.others,(s.pass env.others).past.length)
  | .view n v => (s.pass env.others,(s.pass env.others).view env n v)

end AssetHistory

end Serving

section Histories
variable {H : Type} [Keccak H] [DecidableEq H] {w w' : World H} {past past' : List (World H)} {n : ℕ}

/-- States of one chain, latest first. -/
inductive Evolved : List (World H) → Prop
  | start {w : World H} (h : Reachable w) : Evolved [w]
  | next {w w' : World H} {past : List (World H)} (h : Evolved (w::past)) (hw' : Reachable w')
      (hkeeps : KeepsNames w w') : Evolved (w'::w::past)

theorem Evolved.reachable (h : Evolved past) : ∀ u ∈ past,Reachable u := by
  induction h with
  | start h =>
    intro u hu
    rw [List.mem_singleton.mp hu]
    exact h
  | next h hw' hkeeps ih =>
    intro u hu
    rcases List.mem_cons.mp hu with rfl | hu
    · exact hw'
    · exact ih u hu

/-- The earlier states are kept by the latest one. -/
theorem Evolved.keeps_head (h : Evolved (w::past)) : ∀ u ∈ w::past,KeepsNames u w := by
  generalize hpast : w::past = states at h
  induction h generalizing w past with
  | start h =>
    obtain ⟨rfl,rfl⟩ := List.cons.inj hpast
    intro u hu
    rw [List.mem_singleton.mp hu]
    exact .refl _
  | next h hw' hkeeps ih =>
    obtain ⟨rfl,rfl⟩ := List.cons.inj hpast
    intro u hu
    rcases List.mem_cons.mp hu with rfl | hu
    · exact .refl _
    · exact (ih rfl u hu).trans hkeeps

theorem Evolved.suffix (h : Evolved past) {later : List (World H)} (hsplit : past = later++w::past') :
    Evolved (w::past') := by
  induction later generalizing past with
  | nil =>
    rw [hsplit] at h
    exact h
  | cons u later ih =>
    rw [List.cons_append] at hsplit
    cases h with
    | start h =>
      have hnil : later++w::past' = [] := (List.cons.inj hsplit).2.symm
      simp at hnil
    | next h hw' hkeeps => exact ih h (List.cons.inj hsplit).2

/-- What is seen of the chain since a state keeps what that state and the earlier ones had. -/
theorem Evolved.keeps (h : Evolved past) (hsuffix : past' <:+ past) {u : World H} (hu : u ∈ past')
    {v : World H} (hv : v ∈ since past'.length past) : KeepsNames u v := by
  obtain ⟨later,rfl⟩ := hsuffix
  cases past' with
  | nil => cases hu
  | cons w past' =>
    have hsince : since (w::past').length (later++w::past') = later++[w] := by
      rw [since,List.length_append,Nat.add_sub_cancel,List.take_append]
      simp
    rw [hsince] at hv
    have hkept := (h.suffix rfl).keeps_head u hu
    rcases List.mem_append.mp hv with hlater | hlast
    · obtain ⟨first,rest,rfl⟩ := List.append_of_mem hlater
      rw [List.append_assoc] at h
      have hstates : Evolved (v::(rest++w::past')) := h.suffix rfl
      exact hkept.trans (hstates.keeps_head w (by simp))
    · rw [List.mem_singleton.mp hlast]
      exact hkept

omit [Keccak H] [DecidableEq H] in
theorem since_mem {u : World H} (hu : u ∈ since n past) : u ∈ past := List.mem_of_mem_take hu

omit [Keccak H] [DecidableEq H] in
theorem since_subset {m : ℕ} (hmn : m ≤ n) : ∀ u ∈ since n past,u ∈ since m past := by
  intro u hu
  refine List.mem_of_mem_take (i := past.length - n + 1) ?_
  rw [since,List.take_take]
  have hmin : min (past.length - n + 1) (past.length - m + 1) = past.length - n + 1 := by omega
  rw [hmin]
  exact hu

omit [Keccak H] [DecidableEq H] in
theorem since_suffix (hsuffix : past' <:+ past) (hn : n ≤ past'.length) :
    ∀ u ∈ since n past',u ∈ since n past := by
  obtain ⟨later,rfl⟩ := hsuffix
  intro u hu
  rw [since,List.length_append,List.take_append]
  refine List.mem_append_right _ ?_
  have hcount : later.length + past'.length - n + 1 - later.length = past'.length - n + 1 := by omega
  rw [hcount]
  exact hu

theorem passed_evolves (txs : List Tx) (h : Evolved (w::past)) :
    ∃ rest,passed w txs++w::past = attemptAll exec w txs::rest ∧ Evolved (passed w txs++w::past) := by
  induction txs generalizing w past with
  | nil => exact ⟨past,rfl,h⟩
  | cons tx txs ih =>
    have hw : Reachable w := h.reachable w List.mem_cons_self
    obtain ⟨rest,hrest,hevolved⟩ := ih (h.next (hw.attempt tx) (attemptAll_keepsNames hw [tx]))
    refine ⟨rest,?_,?_⟩
    · rw [passed,List.append_assoc]
      exact hrest
    · rw [passed,List.append_assoc]
      exact hevolved

end Histories
end BelLedger
