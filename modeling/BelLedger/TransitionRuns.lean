import Mathlib.Data.Nat.Notation
import Mathlib.Tactic.Common

/-!
# Runs of a fallible transition system

A run keeps, latest first, every action that succeeded together with the state it started from. A
failed action leaves no trace and no change.
-/
namespace BelLedger.TransitionRuns

variable {σ α ε : Type} {exec : σ → α → Except ε σ}

inductive Run (exec : σ → α → Except ε σ) (start : σ) : List (σ × α) → σ → Prop
  | refl : Run exec start [] start
  | step {hist s t} (a : α) (h : Run exec start hist s) (hs : exec s a = .ok t) :
      Run exec start ((s,a)::hist) t
  | failed {hist s} (a : α) (e : ε) (h : Run exec start hist s) (hs : exec s a = .error e) :
      Run exec start hist s

/-- One attempted action. -/
def attempt (exec : σ → α → Except ε σ) (s : σ) (a : α) : σ :=
  match exec s a with
  | .ok t => t
  | .error _ => s

def attemptAll (exec : σ → α → Except ε σ) (s : σ) (as : List α) : σ := as.foldl (attempt exec) s

/-- An invariant of the initial state that every successful action keeps holds along every run. -/
theorem Run.invariant {P : σ → Prop} {start s : σ} {hist : List (σ × α)}
    (hstep : ∀ s a t,P s → exec s a = .ok t → P t) (h0 : P start) (h : Run exec start hist s) :
    P s := by
  induction h with
  | refl => exact h0
  | step a h hs ih => exact hstep _ a _ ih hs
  | failed a e h hs ih => exact ih

/-- The same rule for a property of a state and of the history that led to it. -/
theorem Run.history_invariant {P : List (σ × α) → σ → Prop} {start s : σ} {hist : List (σ × α)}
    (h0 : P [] start)
    (hstep : ∀ hist s a t,Run exec start hist s → P hist s → exec s a = .ok t → P ((s,a)::hist) t)
    (h : Run exec start hist s) : P hist s := by
  induction h with
  | refl => exact h0
  | step a h hs ih => exact hstep _ _ a _ h ih hs
  | failed a e h hs ih => exact ih

theorem Run.trans {start s t : σ} {hist later : List (σ × α)}
    (h : Run exec start hist s) (h' : Run exec s later t) : Run exec start (later++hist) t := by
  induction h' with
  | refl => exact h
  | step a _ hs ih => exact .step a ih hs
  | failed a e _ hs ih => exact .failed a e ih hs

/-- Every recorded action was executed in its recorded state, reached by the earlier history. -/
theorem Run.split {start s p : σ} {a : α} {later earlier : List (σ × α)}
    (h : Run exec start (later++(p,a)::earlier) s) :
    ∃ t,Run exec start earlier p ∧ exec p a = .ok t ∧ Run exec t later s := by
  generalize hh : later++(p,a)::earlier = hist at h
  induction h generalizing later with
  | refl => simp at hh
  | @step hist q u b h hs ih =>
    cases later with
    | nil =>
      simp only [List.nil_append,List.cons.injEq,Prod.mk.injEq] at hh
      obtain ⟨⟨rfl,rfl⟩,rfl⟩ := hh
      exact ⟨u,h,hs,.refl⟩
    | cons c later =>
      simp only [List.cons_append,List.cons.injEq] at hh
      obtain ⟨rfl,hh⟩ := hh
      obtain ⟨t,hearlier,hstep,hlater⟩ := ih hh
      exact ⟨t,hearlier,hstep,.step b hlater hs⟩
  | failed b e h hs ih =>
    obtain ⟨t,hearlier,hstep,hlater⟩ := ih hh
    exact ⟨t,hearlier,hstep,.failed b e hlater hs⟩

/-- The successful actions of `attemptAll`, latest first. -/
def history (exec : σ → α → Except ε σ) : σ → List α → List (σ × α)
  | _,[] => []
  | s,a::as =>
    match exec s a with
    | .ok t => history exec t as++[(s,a)]
    | .error _ => history exec s as

theorem mem_of_mem_history {s p : σ} {a : α} {as : List α} (h : (p,a) ∈ history exec s as) :
    a ∈ as := by
  induction as generalizing s with
  | nil => cases h
  | cons b as ih =>
    unfold history at h
    split at h
    · rcases List.mem_append.mp h with h | h
      · exact List.mem_cons_of_mem b (ih h)
      · obtain ⟨-,rfl⟩ := Prod.mk.inj (List.mem_singleton.mp h)
        exact List.mem_cons_self
    · exact List.mem_cons_of_mem b (ih h)

theorem history_append {s : σ} {as bs : List α} :
    history exec s (as++bs) = history exec (attemptAll exec s as) bs++history exec s as := by
  induction as generalizing s with
  | nil => simp [attemptAll,history]
  | cons a as ih =>
    cases hs : exec s a with
    | ok t => simp [attemptAll,attempt,hs,history,ih]
    | error e => simp [attemptAll,attempt,hs,history,ih]

/-- Attempting a list of actions is a run. -/
theorem Run.attemptAll (start : σ) (as : List α) :
    Run exec start (history exec start as) (attemptAll exec start as) := by
  induction as generalizing start with
  | nil => exact .refl
  | cons a as ih =>
    cases hs : exec start a with
    | ok t =>
      simp only [TransitionRuns.attemptAll,List.foldl_cons,attempt,hs,history]
      exact Run.trans (.step a .refl hs) (ih t)
    | error e =>
      simp only [TransitionRuns.attemptAll,List.foldl_cons,attempt,hs,history]
      exact ih start

section Sequences

/-- Steps one after another, up to the first that fails. A failed step may have changed the state. -/
def performAll : List (σ → σ × Except ε Unit) → σ → σ × Except ε Unit
  | [],s => (s,.ok ())
  | step::steps,s =>
    match step s with
    | (s,.error e) => (s,.error e)
    | (s,.ok ()) => performAll steps s

theorem performAll_singleton (step : σ → σ × Except ε Unit) (s : σ) : performAll [step] s = step s := by
  rw [performAll]
  cases step s with
  | mk t result => cases result <;> rfl

/-- The results of the steps that are taken. -/
def stepResults : List (σ → σ × Except ε Unit) → σ → List (Except ε Unit)
  | [],_ => []
  | step::steps,s =>
    match step s with
    | (_,.error e) => [.error e]
    | (s,.ok ()) => .ok ()::stepResults steps s

/-- A step that fails is the last one. -/
theorem performAll_of_failed {steps : List (σ → σ × Except ε Unit)} {s : σ} {e : ε}
    (h : .error e ∈ stepResults steps s) : (performAll steps s).2 = .error e := by
  induction steps generalizing s with
  | nil => cases h
  | cons step steps ih =>
    rw [stepResults] at h
    rw [performAll]
    cases hstep : step s with
    | mk t result =>
      rw [hstep] at h
      cases result with
      | error e' =>
        have he : Except.error e = Except.error e' := List.mem_singleton.mp h
        exact he.symm
      | ok _ =>
        have hmem : .error e ∈ stepResults steps t := by simpa using h
        exact ih hmem

end Sequences

section Total
variable {step : σ → α → σ} {C : σ → α → Prop}

/-- Every step of the run that takes the actions `as` starts in a state that meets `C`. -/
def Throughout (step : σ → α → σ) (C : σ → α → Prop) : σ → List α → Prop
  | _,[] => True
  | s,a::as => C s a ∧ Throughout step C (step s a) as

instance Throughout.decidable [∀ s a,Decidable (C s a)] :
    ∀ (s : σ) (as : List α),Decidable (Throughout step C s as)
  | _,[] => isTrue trivial
  | s,a::as =>
    have := Throughout.decidable (step s a) as
    inferInstanceAs (Decidable (C s a ∧ Throughout step C (step s a) as))

/-- An invariant that every step meeting `C` keeps holds after a run all of whose steps meet `C`. -/
theorem Throughout.invariant {I : σ → Prop} (hstep : ∀ s a,I s → C s a → I (step s a)) {s : σ}
    {as : List α} (h0 : I s) (h : Throughout step C s as) : I (as.foldl step s) := by
  induction as generalizing s with
  | nil => exact h0
  | cons a as ih => exact ih (hstep s a h0 h.1) h.2

/-- Where the invariant and `Q` after a step give the step's condition, a run keeps to the condition
exactly when every state on the way satisfies `Q`. -/
theorem throughout_iff_of_invariant {I Q : σ → Prop} {A : σ → α → Prop}
    (hstep : ∀ s a,I s → A s a → C s a → I (step s a)) (hQ : ∀ s,I s → Q s)
    (hC : ∀ s a,I s → A s a → Q (step s a) → C s a) {s : σ} {as : List α} (h0 : I s)
    (hA : Throughout step A s as) :
    (∀ n,Q ((as.take n).foldl step s)) ↔ Throughout step C s as := by
  induction as generalizing s with
  | nil => exact ⟨fun _ => trivial,fun _ n => by simpa using hQ s h0⟩
  | cons a as ih =>
    constructor
    · intro h
      have hfirst : C s a := hC s a h0 hA.1 (by simpa using h 1)
      refine ⟨hfirst,(ih (hstep s a h0 hA.1 hfirst) hA.2).mp ?_⟩
      intro n
      simpa using h (n + 1)
    · intro h n
      cases n with
      | zero => simpa using hQ s h0
      | succ n => simpa using (ih (hstep s a h0 hA.1 h.1) hA.2).mpr h.2 n

theorem throughout_append {s : σ} {as bs : List α} :
    Throughout step C s (as++bs) ↔
      Throughout step C s as ∧ Throughout step C (as.foldl step s) bs := by
  induction as generalizing s with
  | nil => exact ⟨fun h => ⟨trivial,h⟩,fun h => h.2⟩
  | cons a as ih =>
    rw [List.cons_append,Throughout,ih,List.foldl_cons,Throughout,and_assoc]

theorem Throughout.take {s : σ} {as : List α} (h : Throughout step C s as) (n : ℕ) :
    Throughout step C s (as.take n) := by
  rw [← List.take_append_drop n as,throughout_append] at h
  exact h.1

theorem Throughout.and {D : α → Prop} {s : σ} {as : List α} (h : Throughout step C s as)
    (hD : ∀ a ∈ as,D a) : Throughout step (fun s a => C s a ∧ D a) s as := by
  induction as generalizing s with
  | nil => trivial
  | cons a as ih =>
    exact ⟨⟨h.1,hD a List.mem_cons_self⟩,ih h.2 (fun b hb => hD b (List.mem_cons_of_mem a hb))⟩

end Total

end BelLedger.TransitionRuns
