import Mathlib.Data.List.Nodup
import Mathlib.Logic.Function.Basic
import Mathlib.Tactic.Common

/-!
# Lists of members with a position table

Every element has an owner, or the owner `none₀` that stands for no owner. Each owner keeps a list
of its members, and a table keeps the 1-based position of each element in its owner's list. Removal
moves the last member into the gap.
-/
namespace BelLedger.IndexedLists

variable {α β : Type} {none₀ : β} {owner : α → β} {members : β → List α} {position : α → ℕ}

/-- The owner table, the member lists and the position table describe the same membership. -/
structure Indexed (none₀ : β) (owner : α → β) (members : β → List α) (position : α → ℕ) : Prop where
  sound : ∀ p i c,(members p)[i]? = some c → owner c = p ∧ p ≠ none₀ ∧ position c = i + 1
  complete : ∀ c,owner c ≠ none₀ →
    position c ≠ 0 ∧ (members (owner c))[position c - 1]? = some c
  unowned : ∀ c,owner c = none₀ → position c = 0

theorem indexed_empty (ho : ∀ c,owner c = none₀) (hm : ∀ p,members p = [])
    (hp : ∀ c,position c = 0) : Indexed none₀ owner members position := by
  refine ⟨?_,?_,fun c _ => hp c⟩
  · intro p i c h
    simp [hm] at h
  · intro c h
    exact absurd (ho c) h

namespace Indexed

variable (h : Indexed none₀ owner members position)
include h

theorem owner_of_mem {p : β} {c : α} (hc : c ∈ members p) : owner c = p ∧ p ≠ none₀ := by
  obtain ⟨i,hi⟩ := List.mem_iff_getElem?.mp hc
  have hs := h.sound p i c hi
  exact ⟨hs.1,hs.2.1⟩

theorem mem_iff {p : β} (hp : p ≠ none₀) (c : α) : c ∈ members p ↔ owner c = p := by
  constructor
  · intro hc
    exact (h.owner_of_mem hc).1
  · rintro rfl
    exact List.mem_of_getElem? (h.complete c hp).2

theorem position_eq_zero_iff (c : α) : position c = 0 ↔ owner c = none₀ := by
  constructor
  · intro hz
    by_contra hne
    exact (h.complete c hne).1 hz
  · exact h.unowned c

theorem nodup (p : β) : (members p).Nodup := by
  rw [List.nodup_iff_getElem?_ne_getElem?]
  intro i j hij hj heq
  have hget : (members p)[j]? = some (members p)[j] := List.getElem?_eq_getElem hj
  have hi := (h.sound p i _ (heq.trans hget)).2.2
  have hj' := (h.sound p j _ hget).2.2
  omega

theorem members_none : members none₀ = [] := by
  apply List.eq_nil_iff_forall_not_mem.mpr
  intro c hc
  exact (h.owner_of_mem hc).2 rfl

/-- Elements of one list differ in their positions. -/
theorem eq_of_position {c d : α} (hc : owner c ≠ none₀) (howner : owner d = owner c)
    (hpos : position d = position c) : d = c := by
  have hget := (h.complete d (howner ▸ hc)).2
  rw [howner,hpos] at hget
  exact Option.some.inj (hget.symm.trans (h.complete c hc).2)

variable [DecidableEq α] [DecidableEq β]

/-- Appending an unowned element to the list of `p`. -/
theorem append {c : α} {p : β} (hc : owner c = none₀) (hp : p ≠ none₀) :
    Indexed none₀ (Function.update owner c p)
      (Function.update members p (members p++[c]))
      (Function.update position c (members p++[c]).length) := by
  have hfresh : ∀ (q : β) (i : ℕ) (d : α),(members q)[i]? = some d → d ≠ c := by
    rintro q i d hd rfl
    have hs := h.sound q i d hd
    exact hs.2.1 (hs.1.symm.trans hc)
  refine ⟨?_,?_,?_⟩
  · intro q i d hd
    by_cases hq : q = p
    · subst hq
      rw [Function.update_self] at hd
      rcases Nat.lt_trichotomy i (members q).length with hi | hi | hi
      · rw [List.getElem?_append_left hi] at hd
        have hdc := hfresh q i d hd
        simpa [Function.update_of_ne hdc] using h.sound q i d hd
      · subst hi
        simp only [List.getElem?_concat_length,Option.some.injEq] at hd
        subst hd
        simp [hp]
      · rw [List.getElem?_append_right (Nat.le_of_lt hi)] at hd
        have hlen : i - (members q).length ≠ 0 := by omega
        simp [hlen] at hd
    · rw [Function.update_of_ne hq] at hd
      have hdc := hfresh q i d hd
      simpa [Function.update_of_ne hdc] using h.sound q i d hd
  · intro d hd
    by_cases hdc : d = c
    · subst hdc
      simp
    · rw [Function.update_of_ne hdc] at hd ⊢
      rw [Function.update_of_ne hdc]
      obtain ⟨hpos,hget⟩ := h.complete d hd
      refine ⟨hpos,?_⟩
      by_cases hq : owner d = p
      · rw [hq] at hget ⊢
        obtain ⟨hlt,-⟩ := List.getElem?_eq_some_iff.mp hget
        rw [Function.update_self,List.getElem?_append_left hlt]
        exact hget
      · rw [Function.update_of_ne hq]
        exact hget
  · intro d hd
    by_cases hdc : d = c
    · subst hdc
      rw [Function.update_self] at hd
      exact absurd hd hp
    · rw [Function.update_of_ne hdc] at hd ⊢
      exact h.unowned d hd

omit h [DecidableEq α] [DecidableEq β] in
/-- The list after the last element was moved to the index `k` and popped from the end. -/
private theorem getElem?_swapPop {xs : List α} {last : α} {k : ℕ} (hk : k < xs.length) (i : ℕ) :
    (xs.set k last).dropLast[i]? =
      if i < xs.length - 1 then if k = i then some last else xs[i]? else none := by
  rw [List.getElem?_dropLast,List.length_set,List.getElem?_set]
  by_cases hki : k = i
  · subst hki
    simp [hk]
  · simp [hki]

/-- Removing an owned element by moving the last member of its list into the gap. The position of
the moved element is written before that of the removed one, which may be the same element. -/
theorem swapPop {c last : α} {p : β} (hc : owner c = p) (hp : p ≠ none₀)
    (hlast : (members p)[(members p).length - 1]? = some last) :
    Indexed none₀ (Function.update owner c none₀)
      (Function.update members p (((members p).set (position c - 1) last).dropLast))
      (Function.update (Function.update position last (position c - 1 + 1)) c 0) := by
  subst hc
  obtain ⟨hcpos,hcget⟩ := h.complete c hp
  obtain ⟨hclt,-⟩ := List.getElem?_eq_some_iff.mp hcget
  obtain ⟨hlowner,-,hlpos⟩ := h.sound (owner c) _ last hlast
  refine ⟨?_,?_,?_⟩
  · intro q i d hd
    by_cases hq : q = owner c
    · subst hq
      rw [Function.update_self,getElem?_swapPop hclt] at hd
      split at hd
      · rename_i hi
        split at hd
        · -- the gap now holds the last member, which is not the removed one
          rename_i hgap
          obtain rfl := Option.some.inj hd
          have hne : last ≠ c := by
            rintro rfl
            omega
          rw [Function.update_of_ne hne,Function.update_of_ne hne,Function.update_self]
          exact ⟨hlowner,hp,by omega⟩
        · obtain ⟨hown,-,hpos⟩ := h.sound _ i d hd
          have hne : d ≠ c := by
            rintro rfl
            omega
          have hnl : d ≠ last := by
            rintro rfl
            omega
          rw [Function.update_of_ne hne,Function.update_of_ne hne,Function.update_of_ne hnl]
          exact ⟨hown,hp,hpos⟩
      · cases hd
    · rw [Function.update_of_ne hq] at hd
      obtain ⟨hown,hqne,hpos⟩ := h.sound q i d hd
      have hne : d ≠ c := by
        rintro rfl
        exact hq hown.symm
      have hnl : d ≠ last := by
        rintro rfl
        exact hq (hown.symm.trans hlowner)
      rw [Function.update_of_ne hne,Function.update_of_ne hne,Function.update_of_ne hnl]
      exact ⟨hown,hqne,hpos⟩
  · intro d hd
    have hne : d ≠ c := by
      rintro rfl
      simp at hd
    rw [Function.update_of_ne hne] at hd ⊢
    rw [Function.update_of_ne hne]
    obtain ⟨hpos,hget⟩ := h.complete d hd
    by_cases hq : owner d = owner c
    · have hdc : position d ≠ position c := fun he => hne (h.eq_of_position hp hq he)
      rw [hq] at hget ⊢
      obtain ⟨hdlt,-⟩ := List.getElem?_eq_some_iff.mp hget
      rw [Function.update_self,getElem?_swapPop hclt]
      by_cases hnl : d = last
      · subst hnl
        rw [Function.update_self]
        exact ⟨by omega,by rw [if_pos (by omega),if_pos (by omega)]⟩
      · have hdl : position d ≠ position last :=
          fun he => hnl (h.eq_of_position (hlowner ▸ hp) (hq.trans hlowner.symm) he)
        rw [Function.update_of_ne hnl,if_pos (by omega),if_neg (by omega)]
        exact ⟨hpos,hget⟩
    · have hnl : d ≠ last := by
        rintro rfl
        exact hq hlowner
      rw [Function.update_of_ne hnl,Function.update_of_ne hq]
      exact ⟨hpos,hget⟩
  · intro d hd
    by_cases hne : d = c
    · subst hne
      rw [Function.update_self]
    · rw [Function.update_of_ne hne] at hd ⊢
      have hnl : d ≠ last := by
        rintro rfl
        exact hp (hlowner.symm.trans hd)
      rw [Function.update_of_ne hnl]
      exact h.unowned d hd

end Indexed
end BelLedger.IndexedLists
