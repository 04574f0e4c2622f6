import Mathlib.Algebra.Group.Nat.Defs
import Mathlib.Tactic.Common

/-! # Checked calls: early reverts, checked arithmetic and inversion of successful runs -/
namespace BelLedger.CheckedCalls

variable {ε α β : Type}

/-- `if (c) revert e;` -/
def revertIf (c : Prop) [Decidable c] (e : ε) : Except ε Unit :=
  if c then .error e else .ok ()

def checkedSub (e : ε) (a b : ℕ) : Except ε ℕ := if b ≤ a then .ok (a - b) else .error e

def checkedAdd (width : ℕ) (e : ε) (a b : ℕ) : Except ε ℕ :=
  if a + b < 2 ^ width then .ok (a + b) else .error e

/-- Array read with a bounds check. -/
def readAt (e : ε) (xs : List α) (i : ℕ) : Except ε α :=
  match xs[i]? with
  | some x => .ok x
  | none => .error e

/-- Array write with a bounds check. -/
def writeAt (e : ε) (xs : List α) (i : ℕ) (x : α) : Except ε (List α) :=
  if i < xs.length then .ok (xs.set i x) else .error e

/-- `array.pop()`, which panics on an empty array. -/
def popLast (e : ε) (xs : List α) : Except ε (List α) :=
  if xs.length = 0 then .error e else .ok xs.dropLast

theorem ok_bind_iff {first : Except ε α} {rest : α → Except ε β} {r : β} :
    first >>= rest = .ok r ↔ ∃ a, first = .ok a ∧ rest a = .ok r := by
  rcases first with e | a <;> simp [bind,Except.bind]

theorem exists_eq_ok {x : Except ε α} (h : x.toOption.isSome = true) : ∃ a,x = .ok a := by
  cases x with
  | ok a => exact ⟨a,rfl⟩
  | error e => cases h

theorem mapError_eq_ok {ε' : Type} {x : Except ε α} {f : ε → ε'} {a : α} :
    x.mapError f = .ok a ↔ x = .ok a := by
  cases x <;> simp [Except.mapError]

theorem ok_bind (a : α) (f : α → Except ε β) : Except.ok a >>= f = f a := rfl

@[simp] theorem revertIf_eq_ok {c : Prop} [Decidable c] {e : ε} {u : Unit} :
    revertIf c e = .ok u ↔ ¬c := by
  by_cases h : c <;> simp [revertIf, h]

@[simp] theorem revertIf_bind_eq_ok {c : Prop} [Decidable c] {e : ε} {f : Unit → Except ε β} {r : β} :
    (revertIf c e >>= f) = .ok r ↔ ¬c ∧ f () = .ok r := by
  by_cases h : c <;> simp [revertIf, h, bind, Except.bind]

theorem revertIf_eq_error {c : Prop} [Decidable c] {e e' : ε} :
    revertIf c e = .error e' ↔ c ∧ e = e' := by
  by_cases h : c <;> simp [revertIf, h]

theorem revertIf_bind_eq_error {c : Prop} [Decidable c] {e e' : ε} {f : Unit → Except ε β} :
    (revertIf c e >>= f) = .error e' ↔ (c ∧ e = e') ∨ (¬c ∧ f () = .error e') := by
  by_cases h : c <;> simp [revertIf, h, bind, Except.bind]

@[simp] theorem ok_pure_iff {a r : α} : (pure a : Except ε α) = .ok r ↔ a = r :=
  Except.ok.injEq a r ▸ Iff.rfl

@[simp] theorem checkedSub_eq_ok {e : ε} {a b r : ℕ} :
    checkedSub e a b = .ok r ↔ b ≤ a ∧ a - b = r := by
  by_cases h : b ≤ a <;> simp [checkedSub, h]

@[simp] theorem checkedAdd_eq_ok {width : ℕ} {e : ε} {a b r : ℕ} :
    checkedAdd width e a b = .ok r ↔ a + b < 2 ^ width ∧ a + b = r := by
  by_cases h : a + b < 2 ^ width <;> simp [checkedAdd, h]

@[simp] theorem readAt_eq_ok {e : ε} {xs : List α} {i : ℕ} {x : α} :
    readAt e xs i = .ok x ↔ xs[i]? = some x := by
  unfold readAt
  cases xs[i]? <;> simp

@[simp] theorem writeAt_eq_ok {e : ε} {xs ys : List α} {i : ℕ} {x : α} :
    writeAt e xs i x = .ok ys ↔ i < xs.length ∧ xs.set i x = ys := by
  by_cases h : i < xs.length <;> simp [writeAt, h]

@[simp] theorem popLast_eq_ok {e : ε} {xs ys : List α} :
    popLast e xs = .ok ys ↔ xs.length ≠ 0 ∧ xs.dropLast = ys := by
  by_cases h : xs.length = 0 <;> simp [popLast, h]

section Outcomes
variable {E : ε → Prop} {P : α → Prop} {Q : β → Prop}

/-- Errors of the call satisfy `E`, and results satisfy `P`. -/
structure Outcome (E : ε → Prop) (P : α → Prop) (x : Except ε α) : Prop where
  error : ∀ e,x = .error e → E e
  ok : ∀ a,x = .ok a → P a

theorem outcome_ok {a : α} (h : P a) : Outcome E P (.ok a) := by
  refine ⟨nofun,?_⟩
  rintro _ ⟨⟩
  exact h

theorem outcome_error {e : ε} (h : E e) : Outcome E P (.error e : Except ε α) := by
  refine ⟨?_,nofun⟩
  rintro _ ⟨⟩
  exact h

/-- The rule of sequencing. -/
theorem Outcome.bind {x : Except ε α} {f : α → Except ε β} (hx : Outcome E P x)
    (hf : ∀ a,P a → Outcome E Q (f a)) : Outcome E Q (x >>= f) := by
  cases x with
  | error e => exact outcome_error (hx.error e rfl)
  | ok a => exact hf a (hx.ok a rfl)

theorem outcome_revertIf {c : Prop} [Decidable c] {e : ε} (h : c → E e) :
    Outcome E (fun _ => ¬c) (revertIf c e) := by
  unfold revertIf
  split
  · rename_i hc
    exact outcome_error (h hc)
  · rename_i hc
    exact outcome_ok hc

theorem outcome_checkedSub {e : ε} {a b : ℕ} (h : a < b → E e) :
    Outcome E (fun r => b ≤ a ∧ a - b = r) (checkedSub e a b) := by
  unfold checkedSub
  split
  · rename_i hle
    exact outcome_ok ⟨hle,rfl⟩
  · exact outcome_error (h (by omega))

theorem outcome_checkedAdd {width : ℕ} {e : ε} {a b : ℕ} (h : 2 ^ width ≤ a + b → E e) :
    Outcome E (fun r => a + b < 2 ^ width ∧ a + b = r) (checkedAdd width e a b) := by
  unfold checkedAdd
  split
  · rename_i hlt
    exact outcome_ok ⟨hlt,rfl⟩
  · exact outcome_error (h (by omega))

theorem outcome_readAt {e : ε} {xs : List α} {i : ℕ} (h : E e) :
    Outcome E (fun x => xs[i]? = some x) (readAt e xs i) := by
  unfold readAt
  split
  · rename_i hx
    exact outcome_ok hx
  · exact outcome_error h

theorem outcome_writeAt {e : ε} {xs : List α} {i : ℕ} {x : α} (h : E e) :
    Outcome E (fun ys => xs.set i x = ys) (writeAt e xs i x) := by
  unfold writeAt
  split
  · exact outcome_ok rfl
  · exact outcome_error h

theorem outcome_popLast {e : ε} {xs : List α} (h : E e) :
    Outcome E (fun ys => xs.dropLast = ys) (popLast e xs) := by
  unfold popLast
  split
  · exact outcome_error h
  · exact outcome_ok rfl

/-- What holds of the results does not matter. -/
theorem Outcome.trivial {x : Except ε α} (h : Outcome E P x) : Outcome E (fun _ => True) x :=
  ⟨h.error,fun _ _ => True.intro⟩

end Outcomes

end BelLedger.CheckedCalls
