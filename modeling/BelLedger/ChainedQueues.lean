import Mathlib.Data.List.Basic
import Mathlib.Logic.Function.Basic
import Mathlib.Tactic.Common

/-!
# Queues of chained promises

A caller looks up the promise under its key, puts its own tail in its place, and waits for the one it
found. The tail settles when the found promise has settled and the caller has left its turn. A caller
that leaves deletes the entry when that is still its own tail. What a caller does in its turn is a
parameter: it waits for one answer after another until it ends.
-/
namespace BelLedger.ChainedQueues

variable {τ κ β ρ ω : Type}

/-- What a caller does in its turn. It ends after finitely many answers. -/
structure Body (τ κ β ρ ω : Type) where
  key : τ → κ
  start : τ → β
  resume : τ → β → ρ → Option (β ⊕ ω)
  rank : β → ℕ
  decreases : ∀ t b a b',resume t b a = some (.inl b') → rank b' < rank b
  answerable : ∀ t b,∃ a next,resume t b a = some next

/-- A caller that has left resolves its turn, and its tail settles some time later. -/
inductive Phase (β ω : Type)
  | waiting
  | inside (b : β)
  | released (result : ω)
  | settled (result : ω)
  deriving DecidableEq

def Phase.stage : Phase β ω → ℕ
  | .waiting => 0
  | .inside _ => 1
  | .released _ => 2
  | .settled _ => 3

def Phase.after : β ⊕ ω → Phase β ω
  | .inl b => .inside b
  | .inr result => .released result

/-- A call waits for the tail of an earlier call, or for a promise that is resolved. -/
structure Call (τ β ω : Type) where
  argument : τ
  previous : Option ℕ
  phase : Phase β ω

namespace Call

def Entered (c : Call τ β ω) : Prop := 1 ≤ c.phase.stage

def Inside (c : Call τ β ω) : Prop := c.phase.stage = 1

def Left (c : Call τ β ω) : Prop := 2 ≤ c.phase.stage

def Settled (c : Call τ β ω) : Prop := 3 ≤ c.phase.stage

instance (c : Call τ β ω) : Decidable c.Inside := inferInstanceAs (Decidable (_ = _))
instance (c : Call τ β ω) : Decidable c.Left := inferInstanceAs (Decidable (_ ≤ _))
instance (c : Call τ β ω) : Decidable c.Settled := inferInstanceAs (Decidable (_ ≤ _))

end Call

/-- What can happen to a call: the promise it waits for settles, an answer comes, its tail settles. -/
inductive Act (ρ : Type)
  | enter
  | answer (a : ρ)
  | settle

def Call.act (B : Body τ κ β ρ ω) (c : Call τ β ω) (ready : Prop) [Decidable ready] :
    Act ρ → Option (Call τ β ω)
  | .enter =>
    match c.phase with
    | .waiting => if ready then some { c with phase := .inside (B.start c.argument) } else none
    | _ => none
  | .answer a =>
    match c.phase with
    | .inside b => (B.resume c.argument b a).map (fun next => { c with phase := .after next })
    | _ => none
  | .settle =>
    match c.phase with
    | .released result => if ready then some { c with phase := .settled result } else none
    | _ => none

/-- All calls in the order in which they were made, and the map from keys to tails. -/
structure Queues (τ κ β ω : Type) where
  calls : List (Call τ β ω)
  entries : κ → Option ℕ

inductive Event (τ ρ : Type)
  | call (t : τ)
  | act (i : ℕ) (a : Act ρ)

namespace Queues

def empty : Queues τ κ β ω := ⟨[],fun _ => none⟩

/-- The promise has settled. -/
def Ready (s : Queues τ κ β ω) : Option ℕ → Prop
  | none => True
  | some p => ∃ c ∈ s.calls[p]?,c.Settled

instance (s : Queues τ κ β ω) : ∀ previous,Decidable (s.Ready previous)
  | none => isTrue trivial
  | some p =>
    match h : s.calls[p]? with
    | none => isFalse (by simp [Ready,h])
    | some c =>
      if hc : c.Settled then isTrue ⟨c,h,hc⟩
      else isFalse (by simpa [Ready,h] using hc)

section Steps
variable [DecidableEq κ] (B : Body τ κ β ρ ω)

def arrive (s : Queues τ κ β ω) (t : τ) : Queues τ κ β ω :=
  { calls := s.calls++[⟨t,s.entries (B.key t),.waiting⟩]
    entries := Function.update s.entries (B.key t) (some s.calls.length) }

/-- A call that leaves deletes its entry unless another call stands behind it. -/
def advance (s : Queues τ κ β ω) (i : ℕ) (c c' : Call τ β ω) : Queues τ κ β ω :=
  { calls := s.calls.set i c'
    entries :=
      if c.Inside ∧ c'.Left ∧ s.entries (B.key c.argument) = some i then
        Function.update s.entries (B.key c.argument) none
      else s.entries }

def step (s : Queues τ κ β ω) : Event τ ρ → Option (Queues τ κ β ω)
  | .call t => some (s.arrive B t)
  | .act i a =>
    match s.calls[i]? with
    | none => none
    | some c => (c.act B (s.Ready c.previous) a).map (s.advance B i c)

end Steps
end Queues

section Acts
variable {B : Body τ κ β ρ ω} {c c' : Call τ β ω} {ready : Prop} {a : Act ρ}

/-- A bound on the acts that a call still needs. -/
def Call.remaining (B : Body τ κ β ρ ω) (c : Call τ β ω) : ℕ :=
  match c.phase with
  | .waiting => B.rank (B.start c.argument) + 3
  | .inside b => B.rank b + 2
  | .released _ => 1
  | .settled _ => 0

/-- What an act does to a call. -/
inductive Acted (B : Body τ κ β ρ ω) (c : Call τ β ω) (ready : Prop) :
    Act ρ → Call τ β ω → Prop
  | enter (hwaiting : c.phase = .waiting) (hready : ready) :
      Acted B c ready .enter { c with phase := .inside (B.start c.argument) }
  | answer {b : β} {next : β ⊕ ω} (a : ρ) (hinside : c.phase = .inside b)
      (hnext : B.resume c.argument b a = some next) :
      Acted B c ready (.answer a) { c with phase := .after next }
  | settle {result : ω} (hreleased : c.phase = .released result) (hready : ready) :
      Acted B c ready .settle { c with phase := .settled result }

theorem Call.act_eq_some [Decidable ready] : c.act B ready a = some c' ↔ Acted B c ready a c' := by
  constructor
  · intro h
    cases a with
    | enter =>
      dsimp only [Call.act] at h
      split at h
      · rename_i hwaiting
        split at h
        · rename_i hready
          obtain rfl := Option.some.inj h
          exact .enter hwaiting hready
        · cases h
      · cases h
    | answer a =>
      dsimp only [Call.act] at h
      split at h
      · rename_i b hinside
        obtain ⟨next,hnext,rfl⟩ := Option.map_eq_some_iff.mp h
        exact .answer a hinside hnext
      · cases h
    | settle =>
      dsimp only [Call.act] at h
      split at h
      · rename_i result hreleased
        split at h
        · rename_i hready
          obtain rfl := Option.some.inj h
          exact .settle hreleased hready
        · cases h
      · cases h
  · intro h
    cases h with
    | enter hwaiting hready => simp [Call.act,hwaiting,hready]
    | answer a hinside hnext => simp [Call.act,hinside,hnext]
    | settle hreleased hready => simp [Call.act,hreleased,hready]

/-- A call keeps what it was made with and moves on. -/
structure Call.Advances (B : Body τ κ β ρ ω) (c c' : Call τ β ω) : Prop where
  argument : c'.argument = c.argument
  previous : c'.previous = c.previous
  stage : c.phase.stage ≤ c'.phase.stage
  remaining : c'.remaining B ≤ c.remaining B

theorem Call.Advances.refl (c : Call τ β ω) : c.Advances B c := ⟨rfl,rfl,Nat.le_refl _,Nat.le_refl _⟩

theorem Call.Advances.trans {c₁ c₂ c₃ : Call τ β ω} (h : c₁.Advances B c₂) (h' : c₂.Advances B c₃) :
    c₁.Advances B c₃ :=
  ⟨h'.argument.trans h.argument,h'.previous.trans h.previous,Nat.le_trans h.stage h'.stage,
    Nat.le_trans h'.remaining h.remaining⟩

theorem Acted.remaining_lt (h : Acted B c ready a c') : c'.remaining B < c.remaining B := by
  cases h with
  | enter hwaiting => simp [Call.remaining,hwaiting]
  | @answer b next a hinside hnext =>
    cases next with
    | inl b' =>
      have hrank := B.decreases _ _ _ _ hnext
      simp only [Call.remaining,hinside,Phase.after]
      omega
    | inr result => simp [Call.remaining,hinside,Phase.after]
  | settle hreleased => simp [Call.remaining,hreleased]

theorem Acted.advances (h : Acted B c ready a c') : c.Advances B c' := by
  have hremaining := Nat.le_of_lt h.remaining_lt
  cases h with
  | enter hwaiting => exact ⟨rfl,rfl,by simp [hwaiting,Phase.stage],hremaining⟩
  | @answer b next a hinside hnext =>
    refine ⟨rfl,rfl,?_,hremaining⟩
    cases next with
    | inl b' => simp [hinside,Phase.after,Phase.stage]
    | inr result => simp [hinside,Phase.after,Phase.stage]
  | settle hreleased => exact ⟨rfl,rfl,by simp [hreleased,Phase.stage],hremaining⟩

/-- A call enters, and its tail settles, only when the promise it waits for has settled. -/
theorem Acted.ready_of (h : Acted B c ready a c') (hentered : c'.Entered) : c.Entered ∨ ready := by
  cases h with
  | enter _ hready => exact .inr hready
  | answer a hinside => exact .inl (by simp [Call.Entered,hinside,Phase.stage])
  | settle _ hready => exact .inr hready

/-- A call that is not settled and need not wait can act. -/
theorem Call.can_act (B : Body τ κ β ρ ω) [Decidable ready] (hready : ready) (hsettled : ¬c.Settled) :
    ∃ a c',c.act B ready a = some c' := by
  cases hphase : c.phase with
  | waiting => exact ⟨.enter,_,Call.act_eq_some.mpr (.enter hphase hready)⟩
  | inside b =>
    obtain ⟨a,next,hnext⟩ := B.answerable c.argument b
    exact ⟨.answer a,_,Call.act_eq_some.mpr (.answer a hphase hnext)⟩
  | released result => exact ⟨.settle,_,Call.act_eq_some.mpr (.settle hphase hready)⟩
  | settled result => exact absurd (by simp [Call.Settled,hphase,Phase.stage]) hsettled

end Acts

variable [DecidableEq κ] {B : Body τ κ β ρ ω} {s s' : Queues τ κ β ω} {e : Event τ ρ}

section Steps

/-- What a step does to the queues. -/
inductive Queues.Stepped (B : Body τ κ β ρ ω) (s : Queues τ κ β ω) :
    Event τ ρ → Queues τ κ β ω → Prop
  | call (t : τ) : Stepped B s (.call t) (s.arrive B t)
  | act {i : ℕ} {a : Act ρ} {c c' : Call τ β ω} (hcall : s.calls[i]? = some c)
      (hact : Acted B c (s.Ready c.previous) a c') : Stepped B s (.act i a) (s.advance B i c c')

open Queues

theorem Queues.step_eq_some : s.step B e = some s' ↔ Stepped B s e s' := by
  constructor
  · intro h
    cases e with
    | call t =>
      obtain rfl := Option.some.inj h
      exact .call t
    | act i a =>
      unfold step at h
      dsimp only at h
      split at h
      · cases h
      · rename_i c hcall
        obtain ⟨c',hact,rfl⟩ := Option.map_eq_some_iff.mp h
        exact .act hcall (Call.act_eq_some.mp hact)
  · intro h
    cases h with
    | call t => rfl
    | act hcall hact => simp [step,hcall,Call.act_eq_some.mpr hact]

theorem getElem?_arrive (t : τ) (j : ℕ) : (s.arrive B t).calls[j]? =
    if j = s.calls.length then some ⟨t,s.entries (B.key t),.waiting⟩ else s.calls[j]? := by
  unfold arrive
  dsimp only
  split
  · rename_i hj
    rw [hj,List.getElem?_concat_length]
  · rename_i hj
    rcases Nat.lt_or_gt_of_ne hj with hlt | hgt
    · exact List.getElem?_append_left hlt
    · rw [List.getElem?_eq_none (by simp; omega),List.getElem?_eq_none (Nat.le_of_lt hgt)]

theorem getElem?_advance {i : ℕ} {c : Call τ β ω} (hcall : s.calls[i]? = some c) (c' : Call τ β ω)
    (j : ℕ) : (s.advance B i c c').calls[j]? = if j = i then some c' else s.calls[j]? := by
  unfold advance
  dsimp only
  split
  · rename_i hj
    obtain ⟨hlt,-⟩ := List.getElem?_eq_some_iff.mp hcall
    rw [hj,List.getElem?_set_self hlt]
  · rename_i hj
    rw [List.getElem?_set_ne (Ne.symm hj)]

theorem entries_arrive (t : τ) (k : κ) : (s.arrive B t).entries k =
    if k = B.key t then some s.calls.length else s.entries k :=
  Function.update_apply s.entries (B.key t) _ k

/-- An entry goes only with the call whose tail it is. -/
theorem entries_advance (i : ℕ) (c c' : Call τ β ω) (k : κ) : (s.advance B i c c').entries k =
    if k = B.key c.argument ∧ c.Inside ∧ c'.Left ∧ s.entries k = some i then none
      else s.entries k := by
  unfold advance
  dsimp only
  by_cases hk : k = B.key c.argument
  · subst hk
    by_cases hgoes : c.Inside ∧ c'.Left ∧ s.entries (B.key c.argument) = some i
    · rw [if_pos hgoes,if_pos ⟨rfl,hgoes⟩,Function.update_self]
    · rw [if_neg hgoes,if_neg (fun h => hgoes h.2)]
  · have hstays : ¬(k = B.key c.argument ∧ c.Inside ∧ c'.Left ∧ s.entries k = some i) :=
      fun h => hk h.1
    rw [if_neg hstays]
    split
    · rw [Function.update_of_ne hk]
    · rfl

/-- No call is lost. -/
theorem Queues.Stepped.advances (h : Stepped B s e s') {i : ℕ} {c : Call τ β ω}
    (hc : s.calls[i]? = some c) : ∃ c',s'.calls[i]? = some c' ∧ c.Advances B c' := by
  cases h with
  | call t =>
    have hlt : i < s.calls.length := (List.getElem?_eq_some_iff.mp hc).1
    refine ⟨c,?_,.refl c⟩
    rw [getElem?_arrive,if_neg (Nat.ne_of_lt hlt),hc]
  | @act k a d d' hcall hact =>
    by_cases hik : i = k
    · obtain rfl : d = c := Option.some.inj (hcall.symm.trans (hik ▸ hc))
      exact ⟨d',by rw [getElem?_advance hcall,if_pos hik],hact.advances⟩
    · exact ⟨c,by rw [getElem?_advance hcall,if_neg hik,hc],.refl c⟩

theorem Queues.Stepped.ready (h : Stepped B s e s') {previous : Option ℕ} (hready : s.Ready previous) :
    s'.Ready previous := by
  cases previous with
  | none => trivial
  | some p =>
    obtain ⟨c,hc,hsettled⟩ := hready
    obtain ⟨c',hc',hadvances⟩ := h.advances hc
    exact ⟨c',hc',Nat.le_trans hsettled hadvances.stage⟩

/-- A call that is there after a step is new or was there before. -/
theorem Queues.Stepped.origin (h : Stepped B s e s') {i : ℕ} {c' : Call τ β ω}
    (hc' : s'.calls[i]? = some c') :
    (∃ t,e = .call t ∧ i = s.calls.length ∧ c' = ⟨t,s.entries (B.key t),.waiting⟩) ∨
      ∃ c,s.calls[i]? = some c ∧ c.Advances B c' := by
  cases hc : s.calls[i]? with
  | some c =>
    obtain ⟨d,hd,hadvances⟩ := h.advances hc
    obtain rfl := Option.some.inj (hd.symm.trans hc')
    exact .inr ⟨c,rfl,hadvances⟩
  | none =>
    cases h with
    | call t =>
      rw [getElem?_arrive] at hc'
      split at hc'
      · rename_i hi
        exact .inl ⟨t,rfl,hi,(Option.some.inj hc').symm⟩
      · rw [hc] at hc'
        cases hc'
    | act hcall hact =>
      rw [getElem?_advance hcall] at hc'
      split at hc'
      · rename_i hi
        rw [hi,hcall] at hc
        cases hc
      · rw [hc] at hc'
        cases hc'

end Steps

section Invariant

/-- The entry of a key is its last call, and there is none only when every call has left. A call waits
for the last call before it that has not left when it is made, or for a later one. -/
structure Chained (B : Body τ κ β ρ ω) (s : Queues τ κ β ω) : Prop where
  last : ∀ (k : κ) (p : ℕ),s.entries k = some p →
    (∃ c,s.calls[p]? = some c ∧ B.key c.argument = k) ∧
      ∀ (j : ℕ) (d : Call τ β ω),s.calls[j]? = some d → B.key d.argument = k → j ≤ p
  idle : ∀ (k : κ),s.entries k = none →
    ∀ (j : ℕ) (d : Call τ β ω),s.calls[j]? = some d → B.key d.argument = k → d.Left
  earlier : ∀ (i p : ℕ) (c : Call τ β ω),s.calls[i]? = some c → c.previous = some p →
    p < i ∧ ∃ d,s.calls[p]? = some d ∧ B.key d.argument = B.key c.argument
  behind : ∀ (i j : ℕ) (c d : Call τ β ω),s.calls[i]? = some c → s.calls[j]? = some d → j < i →
    B.key d.argument = B.key c.argument → d.Left ∨ ∃ p,c.previous = some p ∧ j ≤ p
  entered : ∀ (i : ℕ) (c : Call τ β ω),s.calls[i]? = some c → c.Entered → s.Ready c.previous

omit [DecidableEq κ] in
theorem chained_empty : Chained B (Queues.empty : Queues τ κ β ω) := by
  refine ⟨?_,?_,?_,?_,?_⟩
  · intro k p hp
    cases hp
  · intro k _ j d hd
    cases hd
  · intro i p c hc
    cases hc
  · intro i j c d hc
    cases hc
  · intro i c hc
    cases hc

omit [DecidableEq κ] in
/-- Before the promise of a call settles, every earlier call of its key has left. -/
theorem Chained.left_of_ready (h : Chained B s) {i : ℕ} {c : Call τ β ω} (hc : s.calls[i]? = some c)
    (hready : s.Ready c.previous) {j : ℕ} {d : Call τ β ω} (hd : s.calls[j]? = some d) (hji : j < i)
    (hkey : B.key d.argument = B.key c.argument) : d.Left := by
  induction i using Nat.strongRecOn generalizing c with
  | ind i ih =>
    rcases h.behind i j c d hc hd hji hkey with hleft | ⟨p,hp,hjp⟩
    · exact hleft
    · rw [hp] at hready
      obtain ⟨d',hd',hsettled⟩ := hready
      obtain ⟨hpi,x,hx,hxkey⟩ := h.earlier i p c hc hp
      obtain rfl : d' = x := Option.some.inj (hd'.symm.trans hx)
      have hsettled : 3 ≤ d'.phase.stage := hsettled
      rcases Nat.lt_or_eq_of_le hjp with hlt | heq
      · have hentered : d'.Entered := Nat.le_trans (by decide) hsettled
        exact ih p hpi hd' (h.entered p d' hd' hentered) hlt (hkey.trans hxkey.symm)
      · rw [heq,hd'] at hd
        obtain rfl := Option.some.inj hd
        exact Nat.le_trans (by decide) hsettled

private theorem Chained.arrive (h : Chained B s) (t : τ) : Chained B (s.arrive B t) := by
  have hstep : Queues.Stepped (ρ := ρ) B s (.call t) (s.arrive B t) := .call t
  have hnew : (s.arrive B t).calls[s.calls.length]? = some ⟨t,s.entries (B.key t),.waiting⟩ := by
    rw [getElem?_arrive,if_pos rfl]
  have hkept : ∀ (i : ℕ) (c : Call τ β ω),s.calls[i]? = some c →
      i < s.calls.length ∧ (s.arrive B t).calls[i]? = some c := by
    intro i c hc
    have hlt : i < s.calls.length := (List.getElem?_eq_some_iff.mp hc).1
    exact ⟨hlt,by rw [getElem?_arrive,if_neg (Nat.ne_of_lt hlt),hc]⟩
  have hcases : ∀ (i : ℕ) (c : Call τ β ω),(s.arrive B t).calls[i]? = some c →
      (i = s.calls.length ∧ c = ⟨t,s.entries (B.key t),.waiting⟩) ∨ s.calls[i]? = some c := by
    intro i c hc
    rw [getElem?_arrive] at hc
    split at hc
    · rename_i hi
      exact .inl ⟨hi,(Option.some.inj hc).symm⟩
    · exact .inr hc
  refine ⟨?_,?_,?_,?_,?_⟩
  · intro k p hp
    by_cases hk : k = B.key t
    · rw [entries_arrive,if_pos hk] at hp
      obtain rfl := Option.some.inj hp
      refine ⟨⟨_,hnew,hk.symm⟩,?_⟩
      intro j d hd _
      rcases hcases j d hd with ⟨rfl,-⟩ | hold
      · exact Nat.le_refl _
      · exact Nat.le_of_lt (hkept j d hold).1
    · rw [entries_arrive,if_neg hk] at hp
      obtain ⟨⟨c,hc,hkey⟩,hlast⟩ := h.last k p hp
      refine ⟨⟨c,(hkept p c hc).2,hkey⟩,?_⟩
      intro j d hd hdkey
      rcases hcases j d hd with ⟨-,rfl⟩ | hold
      · exact absurd hdkey.symm hk
      · exact hlast j d hold hdkey
  · intro k hnone j d hd hdkey
    by_cases hk : k = B.key t
    · rw [entries_arrive,if_pos hk] at hnone
      cases hnone
    · rw [entries_arrive,if_neg hk] at hnone
      rcases hcases j d hd with ⟨-,rfl⟩ | hold
      · exact absurd hdkey.symm hk
      · exact h.idle k hnone j d hold hdkey
  · intro i p c hc hp
    rcases hcases i c hc with ⟨rfl,rfl⟩ | hold
    · obtain ⟨⟨d,hd,hkey⟩,-⟩ := h.last (B.key t) p hp
      exact ⟨(hkept p d hd).1,d,(hkept p d hd).2,hkey⟩
    · obtain ⟨hlt,d,hd,hkey⟩ := h.earlier i p c hold hp
      exact ⟨hlt,d,(hkept p d hd).2,hkey⟩
  · intro i j c d hc hd hji hkey
    have hdold : s.calls[j]? = some d := by
      rcases hcases j d hd with ⟨rfl,-⟩ | hold
      · rcases hcases i c hc with ⟨rfl,-⟩ | hcold
        · exact absurd hji (Nat.lt_irrefl _)
        · exact absurd (Nat.lt_trans (hkept i c hcold).1 hji) (Nat.lt_irrefl _)
      · exact hold
    rcases hcases i c hc with ⟨rfl,rfl⟩ | hcold
    · cases hentry : s.entries (B.key t) with
      | none => exact .inl (h.idle _ hentry j d hdold hkey)
      | some p => exact .inr ⟨p,rfl,(h.last _ p hentry).2 j d hdold hkey⟩
    · exact h.behind i j c d hcold hdold hji hkey
  · intro i c hc hentered
    rcases hcases i c hc with ⟨rfl,rfl⟩ | hold
    · exact absurd hentered (Nat.not_succ_le_zero 0)
    · exact hstep.ready (h.entered i c hold hentered)

private theorem Chained.advance (h : Chained B s) {i : ℕ} {a : Act ρ} {c c' : Call τ β ω}
    (hc : s.calls[i]? = some c) (hact : Acted B c (s.Ready c.previous) a c') :
    Chained B (s.advance B i c c') := by
  have hstep : Queues.Stepped B s (.act i a) (s.advance B i c c') := .act hc hact
  have horigin : ∀ (j : ℕ) (d' : Call τ β ω),(s.advance B i c c').calls[j]? = some d' →
      ∃ d,s.calls[j]? = some d ∧ d.Advances B d' := by
    intro j d' hd'
    rcases hstep.origin hd' with ⟨t,hcall,-⟩ | hold
    · cases hcall
    · exact hold
  have hleft : ∀ (d d' : Call τ β ω),d.Advances B d' → d.Left → d'.Left :=
    fun d d' hadvances hd => Nat.le_trans hd hadvances.stage
  have hself : (s.advance B i c c').calls[i]? = some c' := by rw [getElem?_advance hc,if_pos rfl]
  have hentries : ∀ (k : κ) (p : ℕ),(s.advance B i c c').entries k = some p →
      s.entries k = some p := by
    intro k p hp
    rw [entries_advance] at hp
    split at hp
    · cases hp
    · exact hp
  refine ⟨?_,?_,?_,?_,?_⟩
  · intro k p hp
    obtain ⟨⟨d,hd,hkey⟩,hlast⟩ := h.last k p (hentries k p hp)
    obtain ⟨d',hd',hadvances⟩ := hstep.advances hd
    refine ⟨⟨d',hd',by rw [hadvances.argument,hkey]⟩,?_⟩
    intro j x' hx' hxkey
    obtain ⟨x,hx,hxadvances⟩ := horigin j x' hx'
    exact hlast j x hx (by rw [← hxadvances.argument,hxkey])
  · intro k hnone j d' hd' hkey
    obtain ⟨d,hd,hadvances⟩ := horigin j d' hd'
    have hdkey : B.key d.argument = k := by rw [← hadvances.argument,hkey]
    by_cases hold : s.entries k = none
    · exact hleft d d' hadvances (h.idle k hold j d hd hdkey)
    · -- The entry that has gone is the tail of this call, which has left as the last one of its key.
      rw [entries_advance] at hnone
      split at hnone
      · rename_i hgoes
        obtain ⟨hk,hinside,hcleft,hentry⟩ := hgoes
        rcases Nat.lt_or_eq_of_le ((h.last _ i hentry).2 j d hd hdkey) with hlt | heq
        · have hentered : c.Entered := Nat.le_of_eq hinside.symm
          exact hleft d d' hadvances
            (h.left_of_ready hc (h.entered i c hc hentered) hd hlt (hdkey.trans hk))
        · rw [heq,hself] at hd'
          exact Option.some.inj hd' ▸ hcleft
      · exact absurd hnone hold
  · intro j p d' hd' hp
    obtain ⟨d,hd,hadvances⟩ := horigin j d' hd'
    obtain ⟨hlt,x,hx,hxkey⟩ := h.earlier j p d hd (by rw [← hadvances.previous,hp])
    obtain ⟨x',hx',hxadvances⟩ := hstep.advances hx
    exact ⟨hlt,x',hx',by rw [hxadvances.argument,hadvances.argument,hxkey]⟩
  · intro j k d' x' hd' hx' hkj hkey
    obtain ⟨d,hd,hadvances⟩ := horigin j d' hd'
    obtain ⟨x,hx,hxadvances⟩ := horigin k x' hx'
    rw [hadvances.argument,hxadvances.argument] at hkey
    rw [hadvances.previous]
    exact (h.behind j k d x hd hx hkj hkey).imp (hleft x x' hxadvances) id
  · intro j d' hd' hentered
    obtain ⟨d,hd,hadvances⟩ := horigin j d' hd'
    rw [hadvances.previous]
    apply hstep.ready
    by_cases hji : j = i
    · rw [hji,hself] at hd'
      rw [hji,hc] at hd
      obtain rfl := Option.some.inj hd
      obtain rfl := Option.some.inj hd'
      exact (hact.ready_of hentered).elim (h.entered i c hc) id
    · rw [getElem?_advance hc,if_neg hji,hd] at hd'
      obtain rfl := Option.some.inj hd'
      exact h.entered j d hd hentered

theorem Chained.step (h : Chained B s) (hstep : s.step B e = some s') : Chained B s' := by
  cases Queues.step_eq_some.mp hstep with
  | call t => exact h.arrive t
  | act hc hact => exact h.advance hc hact

end Invariant

/-- An infinite interleaving from empty queues on; a moment may pass without an event. -/
structure Execution (B : Body τ κ β ρ ω) where
  state : ℕ → Queues τ κ β ω
  event : ℕ → Option (Event τ ρ)
  starts : state 0 = .empty
  moves : ∀ n,match event n with
    | none => state (n + 1) = state n
    | some e => (state n).step B e = some (state (n + 1))

namespace Execution
variable (x : Execution B)

/-- A call that can act does so some time later. -/
def Fair : Prop := ∀ n i,(∃ a s',(x.state n).step B (.act i a) = some s') →
  ∃ m,n ≤ m ∧ ∃ a,x.event m = some (.act i a)

/-- The call has entered its turn before this moment. -/
def Entered (n i : ℕ) : Prop := ∃ c,(x.state n).calls[i]? = some c ∧ c.Entered

def Left (n i : ℕ) : Prop := ∃ c,(x.state n).calls[i]? = some c ∧ c.Left

/-- The call enters its turn at this moment. -/
def Enters (n i : ℕ) : Prop := x.event n = some (.act i .enter)

/-- The call gets its last answer at this moment. -/
def Leaves (n i : ℕ) : Prop := (∃ a,x.event n = some (.act i (.answer a))) ∧ x.Left (n + 1) i

variable {x}

theorem chained (n : ℕ) : Chained B (x.state n) := by
  induction n with
  | zero =>
    rw [x.starts]
    exact chained_empty
  | succ n ih =>
    have hmove := x.moves n
    split at hmove
    · rw [hmove]
      exact ih
    · exact ih.step hmove

theorem moves_of_event {n : ℕ} {e : Event τ ρ} (he : x.event n = some e) :
    Queues.Stepped B (x.state n) e (x.state (n + 1)) := by
  have hmove := x.moves n
  rw [he] at hmove
  exact Queues.step_eq_some.mp hmove

theorem advances_succ {n i : ℕ} {c : Call τ β ω} (hc : (x.state n).calls[i]? = some c) :
    ∃ c',(x.state (n + 1)).calls[i]? = some c' ∧ c.Advances B c' := by
  have hmove := x.moves n
  split at hmove
  · rw [hmove]
    exact ⟨c,hc,.refl c⟩
  · exact (Queues.step_eq_some.mp hmove).advances hc

theorem advances {n m i : ℕ} (hnm : n ≤ m) {c : Call τ β ω} (hc : (x.state n).calls[i]? = some c) :
    ∃ c',(x.state m).calls[i]? = some c' ∧ c.Advances B c' := by
  induction hnm with
  | refl => exact ⟨c,hc,.refl c⟩
  | step _ ih =>
    obtain ⟨d,hd,hadvances⟩ := ih
    obtain ⟨c',hc',hadvances'⟩ := advances_succ hd
    exact ⟨c',hc',hadvances.trans hadvances'⟩

theorem Entered.mono {n m i : ℕ} (h : x.Entered n i) (hnm : n ≤ m) : x.Entered m i := by
  obtain ⟨c,hc,hentered⟩ := h
  obtain ⟨c',hc',hadvances⟩ := advances hnm hc
  exact ⟨c',hc',Nat.le_trans hentered hadvances.stage⟩

theorem Left.mono {n m i : ℕ} (h : x.Left n i) (hnm : n ≤ m) : x.Left m i := by
  obtain ⟨c,hc,hleft⟩ := h
  obtain ⟨c',hc',hadvances⟩ := advances hnm hc
  exact ⟨c',hc',Nat.le_trans hleft hadvances.stage⟩

theorem Left.entered {n i : ℕ} (h : x.Left n i) : x.Entered n i := by
  obtain ⟨c,hc,hleft⟩ := h
  exact ⟨c,hc,Nat.le_trans (by decide) hleft⟩

theorem ready_mono {n m : ℕ} (hnm : n ≤ m) {previous : Option ℕ} (h : (x.state n).Ready previous) :
    (x.state m).Ready previous := by
  cases previous with
  | none => trivial
  | some p =>
    obtain ⟨c,hc,hsettled⟩ := h
    obtain ⟨c',hc',hadvances⟩ := advances hnm hc
    exact ⟨c',hc',Nat.le_trans hsettled hadvances.stage⟩

theorem argument_eq {n m i : ℕ} {c d : Call τ β ω} (hc : (x.state n).calls[i]? = some c)
    (hd : (x.state m).calls[i]? = some d) : c.argument = d.argument := by
  obtain ⟨c',hc',hadvances⟩ := advances (Nat.le_max_left n m) hc
  obtain ⟨d',hd',hadvances'⟩ := advances (Nat.le_max_right n m) hd
  obtain rfl := Option.some.inj (hc'.symm.trans hd')
  exact hadvances.argument.symm.trans hadvances'.argument

/-- What an act of a call needs and leaves. -/
theorem acted_of_event {n i : ℕ} {a : Act ρ} (he : x.event n = some (.act i a)) :
    ∃ c c',(x.state n).calls[i]? = some c ∧ (x.state (n + 1)).calls[i]? = some c' ∧
      Acted B c ((x.state n).Ready c.previous) a c' := by
  have hstep := moves_of_event he
  generalize x.state (n + 1) = s' at hstep ⊢
  cases hstep with
  | @act _ _ c c' hc hact => exact ⟨c,c',hc,by rw [getElem?_advance hc,if_pos rfl],hact⟩

/-- A call that has entered is as it was before unless it acts. -/
theorem kept_of_no_act {n i : ℕ} (hno : ∀ a,x.event n ≠ some (.act i a)) {c' : Call τ β ω}
    (hc' : (x.state (n + 1)).calls[i]? = some c') (hentered : c'.Entered) :
    (x.state n).calls[i]? = some c' := by
  have hmove := x.moves n
  cases he : x.event n with
  | none =>
    rw [he] at hmove
    dsimp only at hmove
    rwa [hmove] at hc'
  | some e =>
    have hstep := moves_of_event he
    generalize x.state (n + 1) = s' at hstep hc'
    cases hstep with
    | call t =>
      rw [getElem?_arrive] at hc'
      split at hc'
      · obtain rfl := Option.some.inj hc'
        exact absurd hentered (Nat.not_succ_le_zero 0)
      · exact hc'
    | @act k a c d hc hact =>
      have hik : i ≠ k := by
        rintro rfl
        exact hno a he
      rwa [getElem?_advance hc,if_neg hik] at hc'

/-- Only its own act takes a call to a later stage. -/
theorem event_of_stage {n i : ℕ} {c' : Call τ β ω} (hc' : (x.state (n + 1)).calls[i]? = some c')
    (hentered : c'.Entered)
    (hbefore : ∀ c,(x.state n).calls[i]? = some c → c.phase.stage < c'.phase.stage) :
    ∃ a,x.event n = some (.act i a) := by
  by_contra hno
  rw [not_exists] at hno
  exact absurd (hbefore c' (kept_of_no_act hno hc' hentered)) (Nat.lt_irrefl _)

theorem enters_iff {n i : ℕ} : x.Enters n i ↔ ¬x.Entered n i ∧ x.Entered (n + 1) i := by
  constructor
  · intro h
    obtain ⟨c,c',hc,hc',hact⟩ := acted_of_event h
    cases hact with
    | enter hwaiting =>
      refine ⟨?_,⟨_,hc',Nat.le_refl _⟩⟩
      rintro ⟨d,hd,hentered⟩
      obtain rfl := Option.some.inj (hc.symm.trans hd)
      rw [Call.Entered,hwaiting] at hentered
      exact absurd hentered (Nat.not_succ_le_zero 0)
  · rintro ⟨hnot,c',hc',hentered⟩
    have hbefore : ∀ c,(x.state n).calls[i]? = some c → c.phase.stage = 0 := by
      intro c hc
      by_contra hne
      exact hnot ⟨c,hc,Nat.one_le_iff_ne_zero.mpr hne⟩
    obtain ⟨a,ha⟩ := event_of_stage hc' hentered (fun c hc => by
      rw [hbefore c hc]
      exact hentered)
    obtain ⟨c,d,hc,-,hact⟩ := acted_of_event ha
    have hwaiting := hbefore c hc
    cases hact with
    | enter => exact ha
    | answer a hinside =>
      rw [hinside] at hwaiting
      cases hwaiting
    | settle hreleased =>
      rw [hreleased] at hwaiting
      cases hwaiting

theorem leaves_iff {n i : ℕ} : x.Leaves n i ↔ ¬x.Left n i ∧ x.Left (n + 1) i := by
  constructor
  · rintro ⟨⟨a,ha⟩,hleft⟩
    refine ⟨?_,hleft⟩
    rintro ⟨d,hd,hdleft⟩
    obtain ⟨c,c',hc,-,hact⟩ := acted_of_event ha
    obtain rfl := Option.some.inj (hc.symm.trans hd)
    cases hact with
    | answer a hinside =>
      rw [Call.Left,hinside] at hdleft
      exact absurd hdleft (Nat.lt_irrefl 1)
  · rintro ⟨hnot,hleft⟩
    refine ⟨?_,hleft⟩
    obtain ⟨c',hc',hstage⟩ := hleft
    have hbefore : ∀ c,(x.state n).calls[i]? = some c → c.phase.stage < 2 := by
      intro c hc
      by_contra hge
      exact hnot ⟨c,hc,Nat.le_of_not_lt hge⟩
    obtain ⟨a,ha⟩ := event_of_stage hc' (Nat.le_trans (by decide) hstage)
      (fun c hc => Nat.lt_of_lt_of_le (hbefore c hc) hstage)
    obtain ⟨c,d,hc,hd,hact⟩ := acted_of_event ha
    have hinside := hbefore c hc
    cases hact with
    | enter =>
      obtain rfl := Option.some.inj (hd.symm.trans hc')
      exact absurd hstage (Nat.lt_irrefl 1)
    | answer a => exact ⟨a,ha⟩
    | settle hreleased =>
      rw [hreleased] at hinside
      exact absurd hinside (Nat.lt_irrefl 2)

section Fairness

private theorem settles_of_ready (hfair : x.Fair) {i k : ℕ} : ∀ {n : ℕ} {c : Call τ β ω},
    c.remaining B ≤ k → (x.state n).calls[i]? = some c → (x.state n).Ready c.previous →
    ∃ m,n ≤ m ∧ ∃ c',(x.state m).calls[i]? = some c' ∧ c'.Settled := by
  induction k with
  | zero =>
    intro n c hremaining hc _
    refine ⟨n,Nat.le_refl n,c,hc,?_⟩
    cases hphase : c.phase with
    | settled result => simp [Call.Settled,hphase,Phase.stage]
    | _ => simp [Call.remaining,hphase] at hremaining
  | succ k ih =>
    intro n c hremaining hc hready
    by_cases hsettled : c.Settled
    · exact ⟨n,Nat.le_refl n,c,hc,hsettled⟩
    · obtain ⟨a,c',hact⟩ := Call.can_act (ρ := ρ) B hready hsettled
      have henabled : ∃ a s',(x.state n).step B (.act i a) = some s' :=
        ⟨a,_,Queues.step_eq_some.mpr (.act hc (Call.act_eq_some.mp hact))⟩
      obtain ⟨m,hnm,a',ha'⟩ := hfair n i henabled
      obtain ⟨d,hd,hadvances⟩ := advances hnm hc
      obtain ⟨e,e',he,he',hacted⟩ := acted_of_event ha'
      obtain rfl := Option.some.inj (hd.symm.trans he)
      have hless : e'.remaining B ≤ k := by
        have hlt := hacted.remaining_lt
        have hle := hadvances.remaining
        omega
      have hready' : (x.state (m + 1)).Ready e'.previous := by
        rw [hacted.advances.previous,hadvances.previous]
        exact ready_mono (Nat.le_succ_of_le hnm) hready
      obtain ⟨m',hm',hsettles⟩ := ih hless he' hready'
      exact ⟨m',by omega,hsettles⟩

/-- An execution in which every call settles is fair. -/
theorem fair_of_settles
    (h : ∀ (n i : ℕ) (c : Call τ β ω),(x.state n).calls[i]? = some c →
      ∃ m,n ≤ m ∧ ∃ c',(x.state m).calls[i]? = some c' ∧ c'.Settled) : x.Fair := by
  rintro n i ⟨a,s',hstep⟩
  cases Queues.step_eq_some.mp hstep with
  | @act _ _ c c' hc hact =>
    by_contra hidle
    have hno : ∀ m,n ≤ m → ∀ a,x.event m ≠ some (.act i a) :=
      fun m hnm a ha => hidle ⟨m,hnm,a,ha⟩
    have hstage : ∀ m,n ≤ m → ∃ d,(x.state m).calls[i]? = some d ∧ d.phase.stage = c.phase.stage := by
      intro m hnm
      induction hnm with
      | refl => exact ⟨c,hc,rfl⟩
      | @step m hnm ih =>
        obtain ⟨d,hd,hsame⟩ := ih
        obtain ⟨d',hd',hadvances⟩ := advances_succ hd
        refine ⟨d',hd',?_⟩
        by_contra hmoved
        have hlt : d.phase.stage < d'.phase.stage :=
          Nat.lt_of_le_of_ne hadvances.stage (fun heq => hmoved (heq.symm.trans hsame))
        obtain ⟨b,hb⟩ := event_of_stage hd' (Nat.lt_of_le_of_lt (Nat.zero_le _) hlt) (fun y hy => by
          rwa [Option.some.inj (hy.symm.trans hd)])
        exact hno m hnm b hb
    obtain ⟨m,hnm,d,hd,hsettled⟩ := h n i c hc
    obtain ⟨d',hd',hsame⟩ := hstage m hnm
    obtain rfl := Option.some.inj (hd.symm.trans hd')
    have hunsettled : c.phase.stage < 3 := by
      cases hact with
      | enter hwaiting => simp [hwaiting,Phase.stage]
      | answer _ hinside => simp [hinside,Phase.stage]
      | settle hreleased => simp [hreleased,Phase.stage]
    rw [← hsame] at hunsettled
    exact absurd hsettled (Nat.not_le_of_lt hunsettled)

/-- Every call settles: the one it waits for does, as it was made earlier. -/
theorem settles (hfair : x.Fair) {n i : ℕ} {c : Call τ β ω} (hc : (x.state n).calls[i]? = some c) :
    ∃ m,n ≤ m ∧ ∃ c',(x.state m).calls[i]? = some c' ∧ c'.Settled := by
  induction i using Nat.strongRecOn generalizing n c with
  | ind i ih =>
    have hpast : ∃ m,n ≤ m ∧ (x.state m).Ready c.previous := by
      cases hprevious : c.previous with
      | none => exact ⟨n,Nat.le_refl n,trivial⟩
      | some p =>
        obtain ⟨hpi,d,hd,-⟩ := (chained n).earlier i p c hc hprevious
        obtain ⟨m,hnm,d',hd',hsettled⟩ := ih p hpi hd
        exact ⟨m,hnm,d',hd',hsettled⟩
    obtain ⟨m,hnm,hready⟩ := hpast
    obtain ⟨d,hd,hadvances⟩ := advances hnm hc
    rw [← hadvances.previous] at hready
    obtain ⟨m',hm',hsettles⟩ := settles_of_ready hfair (Nat.le_refl _) hd hready
    exact ⟨m',Nat.le_trans hnm hm',hsettles⟩

end Fairness

section Order
variable {n i j : ℕ} {c d : Call τ β ω}

/-- A call enters only when every call of its key that was made before has left. -/
theorem left_of_entered (hc : (x.state n).calls[i]? = some c) (hd : (x.state n).calls[j]? = some d)
    (hkey : B.key c.argument = B.key d.argument) (hij : i < j) (hentered : d.Entered) : c.Left :=
  (chained n).left_of_ready hd ((chained n).entered j d hd hentered) hc hij hkey

theorem exclusive (hc : (x.state n).calls[i]? = some c) (hd : (x.state n).calls[j]? = some d)
    (hkey : B.key c.argument = B.key d.argument) (hinside : c.Inside) (hinside' : d.Inside) :
    i = j := by
  rcases Nat.lt_trichotomy i j with hlt | heq | hgt
  · have hleft := left_of_entered hc hd hkey hlt (Nat.le_of_eq hinside'.symm)
    exact absurd (Nat.lt_of_lt_of_eq hleft hinside) (Nat.lt_irrefl 1)
  · exact heq
  · have hleft := left_of_entered hd hc hkey.symm hgt (Nat.le_of_eq hinside.symm)
    exact absurd (Nat.lt_of_lt_of_eq hleft hinside') (Nat.lt_irrefl 1)

/-- There is no entry only while no call waits or is inside. -/
theorem left_of_no_entry {k : κ} (hnone : (x.state n).entries k = none)
    (hc : (x.state n).calls[i]? = some c) (hkey : B.key c.argument = k) : c.Left :=
  (chained n).idle k hnone i c hc hkey

end Order

section Once
variable {n i : ℕ} {c : Call τ β ω}

/-- A property that stays begins to hold once. -/
private theorem switch_unique {P : ℕ → Prop} (hmono : ∀ n m,n ≤ m → P n → P m) {n m : ℕ}
    (hn : ¬P n ∧ P (n + 1)) (hm : ¬P m ∧ P (m + 1)) : n = m := by
  rcases Nat.lt_trichotomy n m with hlt | heq | hgt
  · exact absurd (hmono _ _ hlt hn.2) hm.1
  · exact heq
  · exact absurd (hmono _ _ hgt hm.2) hn.1

private theorem existsUnique_switch {P : ℕ → Prop} (hstart : ¬P 0) (hmono : ∀ n m,n ≤ m → P n → P m)
    (h : ∃ m,P m) : ∃! n,¬P n ∧ P (n + 1) := by
  obtain ⟨m,hm⟩ := h
  have hswitch : ∃ n,¬P n ∧ P (n + 1) := by
    induction m with
    | zero => exact absurd hm hstart
    | succ m ih =>
      by_cases hbefore : P m
      · exact ih hbefore
      · exact ⟨m,hbefore,hm⟩
  obtain ⟨n,hn⟩ := hswitch
  exact ⟨n,hn,fun k hk => switch_unique hmono hk hn⟩

theorem leaves_unique {m : ℕ} (h : x.Leaves n i) (h' : x.Leaves m i) : n = m :=
  switch_unique (P := fun m => x.Left m i) (fun _ _ hle hleft => hleft.mono hle) (leaves_iff.mp h)
    (leaves_iff.mp h')

private theorem not_entered_zero : ¬x.Entered 0 i := by
  rintro ⟨c,hc,-⟩
  rw [x.starts] at hc
  cases hc

/-- Every call enters its turn once. -/
theorem enters_once (hfair : x.Fair) (hc : (x.state n).calls[i]? = some c) : ∃! m,x.Enters m i := by
  obtain ⟨m,-,c',hc',hsettled⟩ := settles hfair hc
  have hentered : x.Entered m i := ⟨c',hc',Nat.le_trans (by decide) hsettled⟩
  simpa only [enters_iff] using existsUnique_switch (P := fun m => x.Entered m i) not_entered_zero
    (fun _ _ hle h => h.mono hle) ⟨m,hentered⟩

/-- Every call leaves its turn once. -/
theorem leaves_once (hfair : x.Fair) (hc : (x.state n).calls[i]? = some c) : ∃! m,x.Leaves m i := by
  obtain ⟨m,-,c',hc',hsettled⟩ := settles hfair hc
  have hleft : x.Left m i := ⟨c',hc',Nat.le_trans (by decide) hsettled⟩
  simpa only [leaves_iff] using existsUnique_switch (P := fun m => x.Left m i)
    (fun h => not_entered_zero h.entered) (fun _ _ hle h => h.mono hle) ⟨m,hleft⟩

end Once

section Lists

/-- What is left of the queues when an event that cannot happen is passed over. -/
def stateAfter (B : Body τ κ β ρ ω) (events : List (Event τ ρ)) : Queues τ κ β ω :=
  events.foldl (fun s e => (s.step B e).getD s) .empty

/-- The execution of finitely many events, after which nothing happens. -/
def ofEvents (B : Body τ κ β ρ ω) (events : List (Event τ ρ)) : Execution B where
  state n := stateAfter B (events.take n)
  event n := events[n]?.filter (fun e => ((stateAfter B (events.take n)).step B e).isSome)
  starts := rfl
  moves n := by
    cases he : events[n]? with
    | none =>
      have hle : events.length ≤ n := List.getElem?_eq_none_iff.mp he
      dsimp only [Option.filter_none]
      rw [List.take_of_length_le hle,List.take_of_length_le (Nat.le_succ_of_le hle)]
    | some e =>
      have hnext : stateAfter B (events.take (n + 1)) =
          ((stateAfter B (events.take n)).step B e).getD (stateAfter B (events.take n)) := by
        unfold stateAfter
        rw [List.take_add_one,he,Option.toList_some,List.foldl_append]
        rfl
      rw [hnext]
      cases hstep : (stateAfter B (events.take n)).step B e with
      | none => simp [Option.filter,hstep]
      | some s' => simp [Option.filter,hstep]

theorem ofEvents_fair {events : List (Event τ ρ)}
    (h : ∀ c ∈ (stateAfter B events).calls,c.Settled) : (ofEvents B events).Fair := by
  apply fair_of_settles
  intro n i c hc
  obtain ⟨c',hc',-⟩ := advances (Nat.le_max_left n events.length) hc
  refine ⟨_,Nat.le_max_left n events.length,c',hc',h c' ?_⟩
  have hend : (ofEvents B events).state (max n events.length) = stateAfter B events := by
    change stateAfter B (events.take _) = _
    rw [List.take_of_length_le (Nat.le_max_right n events.length)]
  rw [hend] at hc'
  exact List.mem_of_getElem? hc'

end Lists

end Execution

end BelLedger.ChainedQueues
