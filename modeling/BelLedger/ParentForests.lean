import Mathlib.Data.Finset.Card
import Mathlib.Logic.Relation
import Mathlib.Order.WellFounded
import Mathlib.Tactic.Common

/-!
# Forests given by parent pointers

A distinguished element marks the absence of a parent. The pointers form a forest when climbing
them is well founded; then nothing is its own ancestor, and a climb through a finite set of
elements reaches a root within that many steps.
-/
namespace BelLedger.ParentForests

variable {α : Type} {root : α} {parent : α → α}

/-- `p` is the proper parent of `c`. -/
def Edge (root : α) (parent : α → α) (c p : α) : Prop := parent c = p ∧ p ≠ root

/-- Climbing from child to parent always ends. -/
def Forest (root : α) (parent : α → α) : Prop := WellFounded (fun p c => Edge root parent c p)

/-- `y` is `x` or one of its ancestors. -/
def Above (root : α) (parent : α → α) : α → α → Prop := Relation.ReflTransGen (Edge root parent)

/-- The climb from an element meets a root within the given number of steps. -/
def Within (root : α) (parent : α → α) : ℕ → α → Prop
  | 0,x => x = root
  | n + 1,x => x = root ∨ Within root parent n (parent x)

theorem within_root (n : ℕ) : Within root parent n root := by
  cases n with
  | zero => rfl
  | succ n => exact .inl rfl

theorem Within.mono {m n : ℕ} {x : α} (h : Within root parent m x) (hmn : m ≤ n) :
    Within root parent n x := by
  induction m generalizing n x with
  | zero =>
    obtain rfl : x = root := h
    exact within_root n
  | succ m ih =>
    cases n with
    | zero => omega
    | succ n =>
      rcases h with hx | hrest
      · exact .inl hx
      · exact .inr (ih hrest (by omega))

theorem Forest.acyclic (h : Forest root parent) (x : α) :
    ¬Relation.TransGen (Edge root parent) x x := by
  intro hx
  have hwf := WellFounded.transGen h
  have hswap : Relation.TransGen (fun p c => Edge root parent c p) x x :=
    Relation.transGen_swap.mpr hx
  exact hwf.irrefl.irrefl x hswap

theorem forest_of_no_parents (h : ∀ x,parent x = root) : Forest root parent := by
  refine ⟨fun x => ⟨x,?_⟩⟩
  rintro y ⟨hy,hne⟩
  exact absurd (hy.symm.trans (h x)) hne

theorem Above.step {x y : α} (hne : parent x ≠ root) (h : Above root parent (parent x) y) :
    Above root parent x y := Relation.ReflTransGen.head ⟨rfl,hne⟩ h

section Attach
variable [DecidableEq α] {c p : α}

private theorem attach_acc_above (hforest : Forest root parent) (x : α)
    (hx : ¬Above root parent x c) :
    Acc (fun q d => Edge root (Function.update parent c p) d q) x := by
  induction hforest.apply x with
  | intro x _ ih =>
    refine ⟨x,?_⟩
    rintro y ⟨hy,hne⟩
    have hxc : x ≠ c := fun he => hx (he ▸ Relation.ReflTransGen.refl)
    rw [Function.update_of_ne hxc] at hy
    apply ih y ⟨hy,hne⟩
    intro habove
    subst hy
    exact hx (habove.step hne)

/-- Hanging a parentless `c` below `p` keeps the forest when `c` is not above `p`. -/
theorem Forest.attach (hforest : Forest root parent) (hp : ¬Above root parent p c) :
    Forest root (Function.update parent c p) := by
  have hpacc := attach_acc_above (p := p) hforest p hp
  have hcacc : Acc (fun q d => Edge root (Function.update parent c p) d q) c := by
    refine ⟨c,?_⟩
    rintro y ⟨hy,-⟩
    rw [Function.update_self] at hy
    exact hy ▸ hpacc
  refine ⟨fun x => ?_⟩
  induction hforest.apply x with
  | intro x _ ih =>
    by_cases hxc : x = c
    · exact hxc ▸ hcacc
    · refine ⟨x,?_⟩
      rintro y ⟨hy,hne⟩
      rw [Function.update_of_ne hxc] at hy
      exact ih y ⟨hy,hne⟩

/-- Cutting an element loose keeps the forest. -/
theorem Forest.detach (hforest : Forest root parent) (c : α) :
    Forest root (Function.update parent c root) := by
  refine ⟨fun x => ?_⟩
  induction hforest.apply x with
  | intro x _ ih =>
    refine ⟨x,?_⟩
    rintro y ⟨hy,hne⟩
    by_cases hxc : x = c
    · subst hxc
      rw [Function.update_self] at hy
      exact absurd hy.symm hne
    · rw [Function.update_of_ne hxc] at hy
      exact ih y ⟨hy,hne⟩

/-- A finite set that holds everything above an element bounds the climb from it. -/
theorem Forest.within_card (hforest : Forest root parent) (n : ℕ) (S : Finset α) (x : α)
    (hS : ∀ y,Above root parent x y → y ≠ root → y ∈ S) (hn : S.card ≤ n) :
    Within root parent n x := by
  induction n generalizing S x with
  | zero =>
    by_contra hx
    have hempty := Finset.card_eq_zero.mp (Nat.le_zero.mp hn)
    have hmem := hS x Relation.ReflTransGen.refl hx
    simp [hempty] at hmem
  | succ n ih =>
    by_cases hx : x = root
    · exact .inl hx
    right
    by_cases hpar : parent x = root
    · rw [hpar]
      exact within_root n
    have hxS := hS x Relation.ReflTransGen.refl hx
    apply ih (S.erase x) (parent x)
    · intro y hy hyroot
      -- the climb never comes back to `x`, so `x` itself leaves the set
      have hyx : y ≠ x := by
        rintro rfl
        exact hforest.acyclic y (Relation.TransGen.head' ⟨rfl,hpar⟩ hy)
      exact Finset.mem_erase.mpr ⟨hyx,hS y (hy.step hpar) hyroot⟩
    · rw [Finset.card_erase_of_mem hxS]
      omega

end Attach
end BelLedger.ParentForests
