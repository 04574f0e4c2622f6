import Mathlib.Data.List.Basic
import BelLedger.EffectPrograms

/-!
# Programs among others

What a program may rely on is a relation between the states before and after the calls of the others.
A program whose own calls keep to that relation can run next to one that relies on it, and one that
comes to a value under all such moves comes to a value in every interleaving. Programs that are safe
under such moves and keep to them are safe together.
-/
namespace BelLedger.EffectPrograms

variable {Op : Type} {Res : Op → Type} {ε α β ι σ Env : Type}

/-- The surroundings that calls are made in, the states they find, and the moves between two calls of
a program that relies on the others. -/
structure Rely (Env σ : Type) where
  admits : Env → Prop
  holds : σ → Prop
  moves : σ → σ → Prop
  refl : ∀ s,moves s s
  trans : ∀ {s t u},moves s t → moves t u → moves s u

namespace Prog

/-- No call of the program leaves the states and the moves that others rely on, whatever these did. -/
def Keeps (R : Rely Env σ) (h : Env → σ → (op : Op) → σ × Res op) : Prog Res ε α → Prop
  | done _ => True
  | call op next => ∀ env s,R.admits env → R.holds s →
    (R.holds (h env s op).1 ∧ R.moves s (h env s op).1) ∧ (next (h env s op).2).Keeps R h

/-- From the state `s` on, the program ends after at most `n` calls, with a value as `Q` says. -/
def Meets (R : Rely Env σ) (h : Env → σ → (op : Op) → σ × Res op) (Q : α → σ → Prop) :
    ℕ → Prog Res ε α → σ → Prop
  | _,done (.ok a),s => Q a s
  | _,done (.error _),_ => False
  | 0,call _ _,_ => False
  | n + 1,call op next,s => ∀ env s',R.admits env → R.holds s' → R.moves s s' →
    R.holds (h env s' op).1 ∧ (next (h env s' op).2).Meets R h Q n (h env s' op).1

section Rules
variable {R : Rely Env σ} {h : Env → σ → (op : Op) → σ × Res op} {Q Q' : α → σ → Prop} {n m : ℕ}
  {op : Op} {s : σ}

@[simp] theorem keeps_pure {a : α} : (pure a : Prog Res ε α).Keeps R h ↔ True := Iff.rfl

@[simp] theorem keeps_perform_bind {f : Res op → Prog Res ε α} :
    (perform op >>= f).Keeps R h ↔ ∀ env s,R.admits env → R.holds s →
      (R.holds (h env s op).1 ∧ R.moves s (h env s op).1) ∧ (f (h env s op).2).Keeps R h := Iff.rfl

@[simp] theorem keeps_throwIf_bind {c : Prop} [Decidable c] {e : ε} {f : Unit → Prog Res ε α} :
    (throwIf c e >>= f).Keeps R h ↔ (¬c → (f ()).Keeps R h) := by
  by_cases hc : c
  · rw [throwIf_bind_of_pos hc]
    exact ⟨fun _ hn => absurd hc hn,fun _ => trivial⟩
  · rw [throwIf_bind_of_neg hc]
    exact ⟨fun hf _ => hf,fun hf => hf hc⟩

@[simp] theorem keeps_orThrow_bind {found : Option β} {e : ε} {f : β → Prog Res ε α} :
    (orThrow found e >>= f).Keeps R h ↔ ∀ b,found = some b → (f b).Keeps R h := by
  cases found with
  | none => exact ⟨fun _ b hb => (by cases hb),fun _ => trivial⟩
  | some b => exact ⟨fun hf c hc => Option.some.inj hc ▸ hf,fun hf => hf b rfl⟩

/-- A call that only reads. -/
theorem keeps_read {f : Res op → Prog Res ε α} (hreads : ∀ env s,(h env s op).1 = s)
    (hf : ∀ env s,R.admits env → R.holds s → (f (h env s op).2).Keeps R h) :
    (perform op >>= f).Keeps R h := by
  intro env s henv hs
  rw [hreads]
  exact ⟨⟨hs,R.refl s⟩,hf env s henv hs⟩

theorem Keeps.bind {p : Prog Res ε β} {f : β → Prog Res ε α} (hp : p.Keeps R h)
    (hf : ∀ b,(f b).Keeps R h) : (p >>= f).Keeps R h := by
  induction p with
  | done result =>
    cases result with
    | ok b => exact hf b
    | error e => trivial
  | call op next ih =>
    exact fun env s henv hs => ⟨(hp env s henv hs).1,ih _ (hp env s henv hs).2⟩

/-- A program that makes only calls that keep to the moves. -/
theorem Calls.keeps {allowed : Op → Prop} {p : Prog Res ε α} (hp : p.Calls allowed)
    (hstep : ∀ env s op,R.admits env → R.holds s → allowed op →
      R.holds (h env s op).1 ∧ R.moves s (h env s op).1) : p.Keeps R h := by
  induction p with
  | done result => trivial
  | call op next ih => exact fun env s henv hs => ⟨hstep env s op henv hs hp.1,ih _ (hp.2 _)⟩

@[simp] theorem meets_ok {a : α} : (done (.ok a) : Prog Res ε α).Meets R h Q n s ↔ Q a s := by
  cases n <;> exact Iff.rfl

@[simp] theorem meets_error {e : ε} :
    (done (.error e) : Prog Res ε α).Meets R h Q n s ↔ False := by
  cases n <;> exact Iff.rfl

theorem meets_pure {a : α} : (pure a : Prog Res ε α).Meets R h Q n s ↔ Q a s := meets_ok

theorem meets_throwIf_bind {c : Prop} [Decidable c] (hc : ¬c) {e : ε} {f : Unit → Prog Res ε α} :
    (throwIf c e >>= f).Meets R h Q n s ↔ (f ()).Meets R h Q n s := by
  rw [throwIf_bind_of_neg hc]

theorem meets_orThrow_bind {b : β} {e : ε} {f : β → Prog Res ε α} :
    (orThrow (some b) e >>= f).Meets R h Q n s ↔ (f b).Meets R h Q n s := Iff.rfl

theorem Meets.mono {p : Prog Res ε α} (hp : p.Meets R h Q n s) (hn : n ≤ m)
    (hQ : ∀ a s,Q a s → Q' a s) : p.Meets R h Q' m s := by
  induction p generalizing n m s with
  | done result =>
    cases result with
    | ok a => exact meets_ok.mpr (hQ a s (meets_ok.mp hp))
    | error e => exact (meets_error.mp hp).elim
  | call op next ih =>
    cases n with
    | zero => exact hp.elim
    | succ n =>
      obtain ⟨m,rfl⟩ : ∃ k,m = k + 1 := ⟨m - 1,by omega⟩
      intro env s' henv hs' hmoves
      obtain ⟨hholds,hnext⟩ := hp env s' henv hs' hmoves
      exact ⟨hholds,ih _ hnext (by omega)⟩

/-- The rule of sequencing. -/
theorem Meets.bind {Q : β → σ → Prop} {p : Prog Res ε β} {f : β → Prog Res ε α}
    (hp : p.Meets R h Q n s) (hf : ∀ b s,Q b s → (f b).Meets R h Q' m s) :
    (p >>= f).Meets R h Q' (n + m) s := by
  induction p generalizing n s with
  | done result =>
    cases result with
    | ok b => exact (hf b s (meets_ok.mp hp)).mono (Nat.le_add_left m n) (fun _ _ ha => ha)
    | error e => exact (meets_error.mp hp).elim
  | call op next ih =>
    cases n with
    | zero => exact hp.elim
    | succ n =>
      rw [Nat.succ_add]
      intro env s' henv hs' hmoves
      obtain ⟨hholds,hnext⟩ := hp env s' henv hs' hmoves
      exact ⟨hholds,ih _ hnext⟩

end Rules
end Prog

namespace Pool
variable [DecidableEq ι] {R : Rely Env σ} {h : Env → σ → (op : Op) → σ × Res op}
  {Q : α → σ → Prop} {i : ι}

/-- One program relies on all others, and has at most `n` calls before it. -/
structure Relies (R : Rely Env σ) (h : Env → σ → (op : Op) → σ × Res op) (Q : α → σ → Prop) (i : ι)
    (n : ℕ) (c : Pool Res ε α ι σ) : Prop where
  holds : R.holds c.state
  others : ∀ j,j ≠ i → (c.progs j).Keeps R h
  meets : ∃ s,R.moves s c.state ∧ (c.progs i).Meets R h Q n s

theorem step_done {c : Pool Res ε α ι σ} {turn : ι × Env} {result : Except ε α}
    (hprog : c.progs turn.1 = .done result) : c.step h turn = c := by
  unfold Pool.step
  rw [hprog]

theorem step_call {c : Pool Res ε α ι σ} {turn : ι × Env} {op : Op} {next : Res op → Prog Res ε α}
    (hprog : c.progs turn.1 = .call op next) : c.step h turn =
      { progs := Function.update c.progs turn.1 (next (h turn.2 c.state op).2)
        state := (h turn.2 c.state op).1
        transcript := c.transcript++[(turn.1,⟨op,(h turn.2 c.state op).2⟩)] } := by
  unfold Pool.step
  rw [hprog]

/-- Its own turn takes it one call further, and every other turn is a move that it relies on. -/
theorem Relies.step {n : ℕ} {c : Pool Res ε α ι σ} (hc : c.Relies R h Q i n) {turn : ι × Env}
    (henv : R.admits turn.2) :
    (c.step h turn).Relies R h Q i (if turn.1 = i then n - 1 else n) := by
  obtain ⟨j,env⟩ := turn
  obtain ⟨s,hmoves,hmeets⟩ := hc.meets
  dsimp only
  cases hprog : c.progs j with
  | done result =>
    rw [step_done hprog]
    refine ⟨hc.holds,hc.others,s,hmoves,?_⟩
    by_cases hj : j = i
    · subst hj
      rw [hprog] at hmeets ⊢
      cases result with
      | ok a => exact Prog.meets_ok.mpr (Prog.meets_ok.mp hmeets)
      | error e => exact (Prog.meets_error.mp hmeets).elim
    · rw [if_neg hj]
      exact hmeets
  | call op next =>
    rw [step_call hprog]
    by_cases hj : j = i
    · subst hj
      rw [hprog] at hmeets
      cases n with
      | zero => exact hmeets.elim
      | succ n =>
        obtain ⟨hholds,hnext⟩ := hmeets env c.state henv hc.holds hmoves
        refine ⟨hholds,fun k hk => ?_,_,R.refl _,?_⟩
        · dsimp only
          rw [Function.update_of_ne hk]
          exact hc.others k hk
        · dsimp only
          rw [Function.update_self,if_pos rfl]
          exact hnext
    · have hkeeps := hc.others j hj
      rw [hprog] at hkeeps
      obtain ⟨⟨hholds,hmove⟩,hnext⟩ := hkeeps env c.state henv hc.holds
      refine ⟨hholds,fun k hk => ?_,s,R.trans hmoves hmove,?_⟩
      · dsimp only
        by_cases hkj : k = j
        · subst hkj
          rw [Function.update_self]
          exact hnext
        · rw [Function.update_of_ne hkj]
          exact hc.others k hk
      · dsimp only
        rw [Function.update_of_ne (fun he => hj he.symm),if_neg hj]
        exact hmeets

theorem Relies.run {n : ℕ} {c : Pool Res ε α ι σ} (hc : c.Relies R h Q i n)
    {schedule : List (ι × Env)} (henv : ∀ turn ∈ schedule,R.admits turn.2) :
    (schedule.foldl (Pool.step h) c).Relies R h Q i (n - (schedule.map Prod.fst).count i) := by
  induction schedule generalizing n c with
  | nil => exact hc
  | cons turn schedule ih =>
    have hnext := ih (hc.step (henv turn List.mem_cons_self))
      (fun t ht => henv t (List.mem_cons_of_mem turn ht))
    have hcount : (if turn.1 = i then n - 1 else n) - (schedule.map Prod.fst).count i =
        n - ((turn::schedule).map Prod.fst).count i := by
      rw [List.map_cons,List.count_cons]
      by_cases hi : turn.1 = i
      · rw [if_pos hi,if_pos (beq_iff_eq.mpr hi)]
        omega
      · rw [if_neg hi,if_neg (fun he => hi (beq_iff_eq.mp he)),Nat.add_zero]
    rw [← hcount]
    exact hnext

/-- A program that comes to a value under all moves comes to one in every interleaving with programs
that keep to the moves: it never fails, and has ended after `n` turns. -/
theorem run_meets {progs : ι → Prog Res ε α} {start : σ} {n : ℕ} (hstart : R.holds start)
    (hothers : ∀ j,j ≠ i → (progs j).Keeps R h) (hi : (progs i).Meets R h Q n start)
    {schedule : List (ι × Env)} (henv : ∀ turn ∈ schedule,R.admits turn.2) :
    ((Pool.run h progs start schedule).progs i).ended ≠ some false ∧
      (n ≤ (schedule.map Prod.fst).count i → ∃ a s,
        (Pool.run h progs start schedule).progs i = .done (.ok a) ∧ Q a s ∧
          R.moves s (Pool.run h progs start schedule).state) := by
  have hend : (Pool.run h progs start schedule).Relies R h Q i
      (n - (schedule.map Prod.fst).count i) :=
    Relies.run ⟨hstart,hothers,start,R.refl start,hi⟩ henv
  obtain ⟨s,hmoves,hmeets⟩ := hend.meets
  cases hprog : (Pool.run h progs start schedule).progs i with
  | done result =>
    rw [hprog] at hmeets
    cases result with
    | ok a => exact ⟨fun he => (by cases he),fun _ => ⟨a,s,rfl,Prog.meets_ok.mp hmeets,hmoves⟩⟩
    | error e => exact (Prog.meets_error.mp hmeets).elim
  | call op next =>
    refine ⟨fun he => (by cases he),fun hturns => ?_⟩
    rw [hprog,Nat.sub_eq_zero_of_le hturns] at hmeets
    exact hmeets.elim

end Pool

namespace Prog

section Expansion
variable {Op' : Type} {Res' : Op' → Type}

/-- The program with a program in place of every call. -/
def expand (f : (op : Op) → Prog Res' ε (Res op)) : Prog Res ε α → Prog Res' ε α
  | done result => done result
  | call op next => f op >>= fun r => (next r).expand f

variable (f : (op : Op) → Prog Res' ε (Res op))

@[simp] theorem expand_done (result : Except ε α) :
    (done result : Prog Res ε α).expand f = done result := rfl

@[simp] theorem expand_pure (a : α) : (pure a : Prog Res ε α).expand f = pure a := rfl

@[simp] theorem expand_perform (op : Op) : (perform op : Prog Res ε (Res op)).expand f = f op :=
  bind_pure (f op)

@[simp] theorem expand_throwIf (c : Prop) [Decidable c] (e : ε) :
    (throwIf c e : Prog Res ε Unit).expand f = throwIf c e := by
  unfold throwIf
  split
  · rfl
  · rfl

@[simp] theorem expand_orThrow (found : Option α) (e : ε) :
    (orThrow found e : Prog Res ε α).expand f = orThrow found e := by
  cases found <;> rfl

@[simp] theorem expand_bind (p : Prog Res ε β) (g : β → Prog Res ε α) :
    (p >>= g).expand f = p.expand f >>= fun b => (g b).expand f := by
  induction p with
  | done result => cases result <;> rfl
  | call op next ih =>
    show (f op >>= fun r => (next r >>= g).expand f) =
      (f op >>= fun r => (next r).expand f) >>= fun b => (g b).expand f
    rw [bind_assoc]
    exact congrArg (f op >>= ·) (funext ih)

end Expansion

/-- From the state `s` on, the program keeps to the states and the moves, and every value that it
comes to satisfies `Q`. -/
def Safe (R : Rely Env σ) (h : Env → σ → (op : Op) → σ × Res op) (Q : α → σ → Prop) :
    Prog Res ε α → σ → Prop
  | done (.ok a),s => Q a s
  | done (.error _),_ => True
  | call op next,s => ∀ env s',R.admits env → R.holds s' → R.moves s s' →
    (R.holds (h env s' op).1 ∧ R.moves s' (h env s' op).1) ∧
      (next (h env s' op).2).Safe R h Q (h env s' op).1

section Rules
variable {R : Rely Env σ} {h : Env → σ → (op : Op) → σ × Res op} {Q Q' : α → σ → Prop} {op : Op}
  {s : σ}

theorem safe_pure {a : α} : (pure a : Prog Res ε α).Safe R h Q s ↔ Q a s := Iff.rfl

theorem safe_perform_bind {f : Res op → Prog Res ε α} :
    (perform op >>= f).Safe R h Q s ↔ ∀ env s',R.admits env → R.holds s' → R.moves s s' →
      (R.holds (h env s' op).1 ∧ R.moves s' (h env s' op).1) ∧
        (f (h env s' op).2).Safe R h Q (h env s' op).1 := Iff.rfl

theorem safe_throwIf_bind {c : Prop} [Decidable c] {e : ε} {f : Unit → Prog Res ε α} :
    (throwIf c e >>= f).Safe R h Q s ↔ (¬c → (f ()).Safe R h Q s) := by
  by_cases hc : c
  · rw [throwIf_bind_of_pos hc]
    exact ⟨fun _ hn => absurd hc hn,fun _ => trivial⟩
  · rw [throwIf_bind_of_neg hc]
    exact ⟨fun hf _ => hf,fun hf => hf hc⟩

theorem safe_orThrow_bind {found : Option β} {e : ε} {f : β → Prog Res ε α} :
    (orThrow found e >>= f).Safe R h Q s ↔ ∀ b,found = some b → (f b).Safe R h Q s := by
  cases found with
  | none => exact ⟨fun _ b hb => (by cases hb),fun _ => trivial⟩
  | some b => exact ⟨fun hf c hc => Option.some.inj hc ▸ hf,fun hf => hf b rfl⟩

theorem safe_done_bind {result : Except ε β} {f : β → Prog Res ε α} :
    (done result >>= f).Safe R h Q s ↔ ∀ b,result = .ok b → (f b).Safe R h Q s := by
  cases result with
  | ok b => exact ⟨fun hf c hc => Except.ok.inj hc ▸ hf,fun hf => hf b rfl⟩
  | error e => exact ⟨fun _ b hb => (by cases hb),fun _ => trivial⟩

theorem Safe.mono {p : Prog Res ε α} (hp : p.Safe R h Q s)
    (hQ : ∀ a t,R.moves s t → Q a t → Q' a t) : p.Safe R h Q' s := by
  induction p generalizing s with
  | done result =>
    cases result with
    | ok a => exact hQ a s (R.refl s) hp
    | error e => trivial
  | call op next ih =>
    intro env s' henv hs' hmoves
    obtain ⟨hkept,hnext⟩ := hp env s' henv hs' hmoves
    exact ⟨hkept,ih _ hnext (fun a t ht => hQ a t (R.trans hmoves (R.trans hkept.2 ht)))⟩

/-- The rule of sequencing. -/
theorem Safe.bind {Q : β → σ → Prop} {p : Prog Res ε β} {f : β → Prog Res ε α} (hs : R.holds s)
    (hp : p.Safe R h Q s)
    (hf : ∀ b t,R.holds t → R.moves s t → Q b t → (f b).Safe R h Q' t) :
    (p >>= f).Safe R h Q' s := by
  induction p generalizing s with
  | done result =>
    cases result with
    | ok b => exact hf b s hs (R.refl s) hp
    | error e => trivial
  | call op next ih =>
    intro env s' henv hs' hmoves
    obtain ⟨hkept,hnext⟩ := hp env s' henv hs' hmoves
    refine ⟨hkept,ih _ hkept.1 hnext ?_⟩
    exact fun b t ht hmoves' => hf b t ht (R.trans hmoves (R.trans hkept.2 hmoves'))

end Rules
end Prog

namespace Pool
variable [DecidableEq ι] {R : Rely Env σ} {h : Env → σ → (op : Op) → σ × Res op}
  {Q : ι → α → σ → Prop}

/-- Every program relies on all others. -/
structure AllSafe (R : Rely Env σ) (h : Env → σ → (op : Op) → σ × Res op) (Q : ι → α → σ → Prop)
    (c : Pool Res ε α ι σ) : Prop where
  holds : R.holds c.state
  safe : ∀ i,∃ s,R.moves s c.state ∧ (c.progs i).Safe R h (Q i) s

theorem AllSafe.step {c : Pool Res ε α ι σ} (hc : c.AllSafe R h Q) {turn : ι × Env}
    (henv : R.admits turn.2) : (c.step h turn).AllSafe R h Q ∧ R.moves c.state (c.step h turn).state := by
  obtain ⟨i,env⟩ := turn
  cases hprog : c.progs i with
  | done result =>
    rw [step_done hprog]
    exact ⟨hc,R.refl _⟩
  | call op next =>
    obtain ⟨s,hmoves,hsafe⟩ := hc.safe i
    rw [hprog] at hsafe
    obtain ⟨⟨hholds,hmove⟩,hnext⟩ := hsafe env c.state henv hc.holds hmoves
    rw [step_call hprog]
    refine ⟨⟨hholds,fun j => ?_⟩,hmove⟩
    dsimp only
    by_cases hj : j = i
    · subst hj
      rw [Function.update_self]
      exact ⟨_,R.refl _,hnext⟩
    · obtain ⟨t,ht,hother⟩ := hc.safe j
      rw [Function.update_of_ne hj]
      exact ⟨t,R.trans ht hmove,hother⟩

theorem AllSafe.run {c : Pool Res ε α ι σ} (hc : c.AllSafe R h Q) {schedule : List (ι × Env)}
    (henv : ∀ turn ∈ schedule,R.admits turn.2) :
    (schedule.foldl (Pool.step h) c).AllSafe R h Q ∧
      R.moves c.state (schedule.foldl (Pool.step h) c).state := by
  induction schedule generalizing c with
  | nil => exact ⟨hc,R.refl _⟩
  | cons turn schedule ih =>
    obtain ⟨hstep,hmove⟩ := hc.step (henv turn List.mem_cons_self)
    obtain ⟨hend,hmoves⟩ := ih hstep (fun t ht => henv t (List.mem_cons_of_mem turn ht))
    exact ⟨hend,R.trans hmove hmoves⟩

omit [DecidableEq ι] in
/-- The value of a program that has come to its end. -/
theorem AllSafe.value {c : Pool Res ε α ι σ} (hc : c.AllSafe R h Q) {i : ι} {a : α}
    (hprog : c.progs i = .done (.ok a)) : ∃ s,R.moves s c.state ∧ Q i a s := by
  obtain ⟨s,hmoves,hsafe⟩ := hc.safe i
  rw [hprog] at hsafe
  exact ⟨s,hmoves,hsafe⟩

/-- A program that has had no turn is as it was. -/
theorem progs_of_no_turn {c : Pool Res ε α ι σ} {i : ι} {schedule : List (ι × Env)}
    (hturns : ∀ turn ∈ schedule,turn.1 ≠ i) :
    (schedule.foldl (Pool.step h) c).progs i = c.progs i := by
  induction schedule generalizing c with
  | nil => rfl
  | cons turn schedule ih =>
    rw [List.foldl_cons,ih (fun t ht => hturns t (List.mem_cons_of_mem turn ht))]
    have hne : i ≠ turn.1 := fun he => hturns turn List.mem_cons_self he.symm
    unfold Pool.step
    split
    · rfl
    · exact Function.update_of_ne hne _ _

end Pool
end BelLedger.EffectPrograms
