import Mathlib.Tactic.Common

/-!
# Sequences of steps that can be resumed

A step is skipped when a probe finds its effect in place. Otherwise it is performed, and the caller may
fail to learn that it was. A sequence whose probes recognise the effects of the earlier steps reaches
its end after any number of failed attempts.
-/
namespace BelLedger.ResumableSteps

variable {V : Type}

/-- What becomes of a request: it is confirmed, it has no effect, or its effect is not reported. -/
inductive Outcome
  | confirmed
  | refused
  | unreported

/-- The state after a request with the effect `act`, and whether it was reported as done. -/
def perform (o : Outcome) (act : Option V) (v : V) : V × Bool :=
  match o,act with
  | .confirmed,some v' => (v',true)
  | .confirmed,none => (v,false)
  | .refused,_ => (v,false)
  | .unreported,some v' => (v',false)
  | .unreported,none => (v,false)

@[simp] theorem perform_none (o : Outcome) (v : V) : perform o none v = (v,false) := by
  cases o with
  | confirmed => rfl
  | refused => rfl
  | unreported => rfl

theorem perform_eq_true {o : Outcome} {act : Option V} {v v' : V} :
    perform o act v = (v',true) ↔ o = .confirmed ∧ act = some v' := by
  cases o <;> cases act <;> simp [perform]

theorem perform_eq_false {o : Outcome} {act : Option V} {v v' : V}
    (h : perform o act v = (v',false)) : v' = v ∨ (o = .unreported ∧ act = some v') := by
  cases o <;> cases act <;> simp_all [perform]

/-- A request leaves the state as it is or has its effect. -/
theorem perform_cases {o : Outcome} {act : Option V} {v v' : V} {reported : Bool}
    (h : perform o act v = (v',reported)) : v' = v ∨ act = some v' := by
  cases reported with
  | true => exact .inr (perform_eq_true.mp h).2
  | false => exact (perform_eq_false h).imp_right And.right

section Map
variable {W : Type} {o : Outcome} {act : Option V} {v v' : V} (g : V → W) (x : W)

theorem perform_map_of_true (h : perform o act v = (v',true)) :
    perform o (act.map g) x = (g v',true) := by
  obtain ⟨rfl,rfl⟩ := perform_eq_true.mp h
  rfl

theorem perform_map_of_false (ho : o ≠ .unreported) (h : perform o act v = (v',false)) :
    perform o (act.map g) x = (x,false) := by
  cases o with
  | unreported => exact absurd rfl ho
  | refused => rfl
  | confirmed =>
    cases act with
    | none => rfl
    | some v₁ => cases (Prod.mk.inj h).2

end Map

structure Step (V : Type) where
  isDone : V → Prop
  act : V → Option V

open Classical in
noncomputable def Step.run (step : Step V) (o : Outcome) (v : V) : V × Bool :=
  if step.isDone v then (v,true) else perform o (step.act v) v

/-- One attempt at a sequence, which stops at the first step that is not reported as done. -/
noncomputable def attempt : List (Step V) → (ℕ → Outcome) → V → V × Bool
  | [],_,v => (v,true)
  | step::steps,outcomes,v =>
    match step.run (outcomes 0) v with
    | (v,false) => (v,false)
    | (v,true) => attempt steps (fun k => outcomes (k + 1)) v

/-- All requests are confirmed. -/
def clean : ℕ → Outcome := fun _ => .confirmed

/-- The states of a clean run. -/
inductive Along : List (Step V) → V → V → Prop
  | start (steps : List (Step V)) (v : V) : Along steps v v
  | next {step : Step V} {steps : List (Step V)} {v v₁ u : V}
      (hfirst : step.run .confirmed v = (v₁,true)) (hu : Along steps v₁ u) : Along (step::steps) v u

/-- From a step on, the states of a clean run show its effect. -/
def Recognised : List (Step V) → V → Prop
  | [],_ => True
  | step::steps,v => ∀ v₁,step.run .confirmed v = (v₁,true) →
      (∀ u,Along steps v₁ u → step.isDone u) ∧ Recognised steps v₁

section Runs
variable {step : Step V} {steps : List (Step V)} {v v₁ v' u : V}

theorem run_of_isDone (h : step.isDone v) (o : Outcome) : step.run o v = (v,true) := by
  rw [Step.run,if_pos h]

theorem run_of_not_isDone (h : ¬step.isDone v) (o : Outcome) :
    step.run o v = perform o (step.act v) v := by
  rw [Step.run,if_neg h]

theorem run_confirmed (h : step.run .confirmed v = (v₁,true)) :
    (step.isDone v ∧ v₁ = v) ∨ step.act v = some v₁ := by
  by_cases hdone : step.isDone v
  · rw [run_of_isDone hdone] at h
    exact .inl ⟨hdone,(Prod.mk.inj h).1.symm⟩
  · rw [run_of_not_isDone hdone] at h
    exact .inr (perform_eq_true.mp h).2

/-- What every step preserves holds along a clean run. -/
theorem Along.invariant {I : V → Prop}
    (hsteps : ∀ step ∈ steps,∀ v v',step.act v = some v' → I v → I v') (hv : I v)
    (h : Along steps v u) : I u := by
  induction h with
  | start => exact hv
  | @next step steps v v₁ u hfirst _ ih =>
    have hv₁ : I v₁ := by
      rcases run_confirmed hfirst with ⟨-,rfl⟩ | hact
      · exact hv
      · exact hsteps step List.mem_cons_self v v₁ hact hv
    exact ih (fun x hx => hsteps x (List.mem_cons_of_mem step hx)) hv₁

/-- A step that a confirmed request would have completed stays where it is or completes. -/
private theorem run_cases (hfirst : step.run .confirmed v = (v₁,true)) (o : Outcome) :
    step.run o v = (v₁,true) ∨ step.run o v = (v,false) ∨ step.run o v = (v₁,false) := by
  unfold Step.run at hfirst ⊢
  split
  · rename_i hdone
    rw [if_pos hdone] at hfirst
    exact .inl hfirst
  · rename_i hdone
    rw [if_neg hdone] at hfirst
    cases hact : step.act v with
    | none =>
      rw [hact] at hfirst
      cases (Prod.mk.inj hfirst).2
    | some v₂ =>
      rw [hact] at hfirst
      obtain rfl : v₂ = v₁ := (Prod.mk.inj hfirst).1
      cases o with
      | confirmed => exact .inl rfl
      | refused => exact .inr (.inl rfl)
      | unreported => exact .inr (.inr rfl)

theorem attempt_cons_eq_true {outcomes : ℕ → Outcome}
    (h : attempt (step::steps) outcomes v = (v',true)) :
    ∃ v₁,step.run (outcomes 0) v = (v₁,true) ∧
      attempt steps (fun k => outcomes (k + 1)) v₁ = (v',true) := by
  unfold attempt at h
  split at h
  · cases (Prod.mk.inj h).2
  · rename_i v₁ hrun
    exact ⟨v₁,hrun,h⟩

theorem attempt_cons_of_run {outcomes : ℕ → Outcome} (h : step.run (outcomes 0) v = (v₁,true)) :
    attempt (step::steps) outcomes v = attempt steps (fun k => outcomes (k + 1)) v₁ := by
  rw [attempt,h]

theorem attempt_cons_of_failed {outcomes : ℕ → Outcome}
    (h : step.run (outcomes 0) v = (v₁,false)) : attempt (step::steps) outcomes v = (v₁,false) := by
  rw [attempt,h]

theorem attempt_singleton (step : Step V) (outcomes : ℕ → Outcome) (v : V) :
    attempt [step] outcomes v = step.run (outcomes 0) v := by
  unfold attempt
  split
  · rename_i v₁ hrun
    exact hrun.symm
  · rename_i v₁ hrun
    exact hrun.symm

/-- Only as many outcomes count as there are steps. -/
theorem attempt_congr {outcomes outcomes' : ℕ → Outcome}
    (h : ∀ k < steps.length,outcomes k = outcomes' k) (v : V) :
    attempt steps outcomes v = attempt steps outcomes' v := by
  induction steps generalizing outcomes outcomes' v with
  | nil => rfl
  | cons step steps ih =>
    have hfirst := h 0 (Nat.zero_lt_succ _)
    cases hrun : step.run (outcomes 0) v with
    | mk v₁ reported =>
    have hrun' : step.run (outcomes' 0) v = (v₁,reported) := by rw [← hfirst]; exact hrun
    cases reported with
    | false => rw [attempt_cons_of_failed hrun,attempt_cons_of_failed hrun']
    | true =>
      rw [attempt_cons_of_run hrun,attempt_cons_of_run hrun']
      exact ih (fun k hk => h (k + 1) (Nat.succ_lt_succ hk)) v₁

/-- The second part starts where the first one has been completed. -/
theorem attempt_append (more : List (Step V)) (outcomes : ℕ → Outcome) (v : V) :
    attempt (steps++more) outcomes v =
      match attempt steps outcomes v with
      | (v,false) => (v,false)
      | (v,true) => attempt more (fun k => outcomes (k + steps.length)) v := by
  induction steps generalizing outcomes v with
  | nil => rfl
  | cons step steps ih =>
    rw [List.cons_append]
    cases hrun : step.run (outcomes 0) v with
    | mk v₁ reported =>
    cases reported with
    | false => rw [attempt_cons_of_failed hrun,attempt_cons_of_failed hrun]
    | true =>
      rw [attempt_cons_of_run hrun,attempt_cons_of_run hrun,ih]
      simp only [List.length_cons,Nat.add_assoc]

/-- An attempt from a state of the clean run ends in such a state, and if it is reported as done, in
the last one. -/
theorem attempt_along (hclean : attempt steps clean v = (v',true)) (hknown : Recognised steps v)
    (hu : Along steps v u) (outcomes : ℕ → Outcome) :
    Along steps v (attempt steps outcomes u).1 ∧
      ((attempt steps outcomes u).2 = true → (attempt steps outcomes u).1 = v') := by
  induction steps generalizing v u outcomes with
  | nil =>
    cases hu
    exact ⟨.start _ _,fun _ => (Prod.mk.inj hclean).1⟩
  | cons step steps ih =>
    obtain ⟨v₁,hfirst,hrest⟩ := attempt_cons_eq_true hclean
    obtain ⟨hdone,hknown'⟩ := hknown v₁ hfirst
    have hstep : ∀ u',Along steps v₁ u' → step.run (outcomes 0) u = (u',true) →
        Along (step::steps) v (attempt (step::steps) outcomes u).1 ∧
          ((attempt (step::steps) outcomes u).2 = true →
            (attempt (step::steps) outcomes u).1 = v') := by
      intro u' hu' hrun
      rw [attempt_cons_of_run hrun]
      obtain ⟨halong,hend⟩ := ih hrest hknown' hu' (fun k => outcomes (k + 1))
      exact ⟨.next hfirst halong,hend⟩
    cases hu with
    | start =>
      rcases run_cases hfirst (outcomes 0) with hrun | hrun | hrun
      · exact hstep v₁ (.start _ _) hrun
      · rw [attempt_cons_of_failed hrun]
        exact ⟨.start _ _,nofun⟩
      · rw [attempt_cons_of_failed hrun]
        exact ⟨.next hfirst (.start _ _),nofun⟩
    | next hfirst' hu' =>
      obtain rfl := (Prod.mk.inj (hfirst'.symm.trans hfirst)).1
      exact hstep u hu' (run_of_isDone (hdone u hu') _)

/-- A clean attempt from a state of the clean run completes it. -/
theorem attempt_clean (hclean : attempt steps clean v = (v',true)) (hknown : Recognised steps v)
    (hu : Along steps v u) : attempt steps clean u = (v',true) := by
  induction steps generalizing v u with
  | nil =>
    cases hu
    exact hclean
  | cons step steps ih =>
    obtain ⟨v₁,hfirst,hrest⟩ := attempt_cons_eq_true hclean
    obtain ⟨hdone,hknown'⟩ := hknown v₁ hfirst
    cases hu with
    | start => exact hclean
    | next hfirst' hu' =>
      obtain rfl := (Prod.mk.inj (hfirst'.symm.trans hfirst)).1
      have hrun : step.run (clean 0) u = (u,true) := run_of_isDone (hdone u hu') _
      rw [attempt_cons_of_run hrun]
      exact ih hrest hknown' hu'

end Runs

section Retries
variable {σ α β ε : Type}

/-- The state after attempts that have failed. -/
inductive Retried (op : σ → α → σ × Except ε β) (C : σ → α → Prop) (s : σ) : σ → Prop
  | start : Retried op C s s
  | failed {t u : σ} {a : α} {e : ε} (h : Retried op C s t) (ha : C t a)
      (hop : op t a = (u,.error e)) : Retried op C s u

variable {op : σ → α → σ × Except ε β} {C : σ → α → Prop} {I : σ → Prop} {view : σ → V}
  {outcomes : α → ℕ → Outcome} {steps : List (Step V)} {s s' t : σ} {b : β} {first last : α}

/-- An operation that attempts a sequence of steps stays in the states of the clean run. -/
private theorem Retried.along {v' : V} (hclean : attempt steps clean (view s) = (v',true))
    (hknown : Recognised steps (view s))
    (hattempt : ∀ t a u result,I t → C t a → op t a = (u,result) →
      attempt steps (outcomes a) (view t) = (view u,result.isOk) ∧ (result.isOk = false → I u))
    (hs : I s) (h : Retried op C s t) : I t ∧ Along steps (view s) (view t) := by
  induction h with
  | start => exact ⟨hs,.start _ _⟩
  | @failed t u a e _ ha hop ih =>
    obtain ⟨ht,halong⟩ := ih
    obtain ⟨hview,hu⟩ := hattempt t a u _ ht ha hop
    have hafter := (attempt_along hclean hknown halong (outcomes a)).1
    rw [hview] at hafter
    exact ⟨hu rfl,hafter⟩

/-- Whatever has failed before, a clean attempt completes what a first clean attempt would have
completed. -/
theorem Retried.converges
    (hattempt : ∀ t a u result,I t → C t a → op t a = (u,result) →
      attempt steps (outcomes a) (view t) = (view u,result.isOk) ∧ (result.isOk = false → I u))
    (hs : I s) (hknown : Recognised steps (view s)) (hfirst : C s first)
    (hfirstClean : outcomes first = clean) (hdone : op s first = (s',.ok b))
    (h : Retried op C s t) (hlast : C t last) (hlastClean : outcomes last = clean) :
    I t ∧ ∃ u b',op t last = (u,.ok b') ∧ view u = view s' := by
  have hclean := (hattempt s first s' _ hs hfirst hdone).1
  rw [hfirstClean] at hclean
  obtain ⟨ht,halong⟩ := h.along hclean hknown hattempt hs
  refine ⟨ht,?_⟩
  cases hop : op t last with
  | mk u result =>
  have hend := (hattempt t last u result ht hlast hop).1
  rw [hlastClean,attempt_clean hclean hknown halong] at hend
  obtain ⟨hview,hok⟩ := Prod.mk.inj hend
  cases result with
  | error e => cases hok
  | ok b' => exact ⟨u,b',rfl,hview.symm⟩

end Retries

end BelLedger.ResumableSteps
