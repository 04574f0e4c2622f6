import Mathlib.Data.Sigma.Basic
import Mathlib.Logic.Function.Basic
import Mathlib.Tactic.Common

/-!
# Programs that call operations

A program calls one operation after another and ends with a value or an error. What an operation does
and answers is left to a handler, so the same program can be run alone or together with others, one
call at a time. A transcript lists the calls that were made and their answers.
-/
namespace BelLedger.EffectPrograms

variable {Op : Type} {Res : Op → Type} {ε α β : Type}

inductive Prog (Res : Op → Type) (ε α : Type)
  | done (result : Except ε α)
  | call (op : Op) (next : Res op → Prog Res ε α)

/-- A call and its answer. -/
abbrev Event (Res : Op → Type) := Σ op,Res op

namespace Prog

def bind : Prog Res ε α → (α → Prog Res ε β) → Prog Res ε β
  | done (.ok a),f => f a
  | done (.error e),_ => done (.error e)
  | call op next,f => call op (fun r => (next r).bind f)

instance : Monad (Prog Res ε) where
  pure a := done (.ok a)
  bind := bind

private theorem bind_pure_ok (p : Prog Res ε α) : p.bind (fun a => done (.ok a)) = p := by
  induction p with
  | done result => cases result <;> rfl
  | call op next ih => exact congrArg (call op) (funext ih)

private theorem bind_bind {γ : Type} (p : Prog Res ε α) (f : α → Prog Res ε β)
    (g : β → Prog Res ε γ) : (p.bind f).bind g = p.bind (fun a => (f a).bind g) := by
  induction p with
  | done result => cases result <;> rfl
  | call op next ih => exact congrArg (call op) (funext ih)

instance : LawfulMonad (Prog Res ε) :=
  LawfulMonad.mk' (Prog Res ε) bind_pure_ok (fun _ _ => rfl) bind_bind

def perform (op : Op) : Prog Res ε (Res op) := call op (fun r => done (.ok r))

/-- `if (c) throw e;` -/
def throwIf (c : Prop) [Decidable c] (e : ε) : Prog Res ε Unit :=
  if c then done (.error e) else done (.ok ())

/-- Ends the program when there is no value. -/
def orThrow (found : Option α) (e : ε) : Prog Res ε α :=
  match found with
  | none => done (.error e)
  | some a => done (.ok a)

/-- Whether the program has ended, and if so whether with a value. -/
def ended : Prog Res ε α → Option Bool
  | done (.ok _) => some true
  | done (.error _) => some false
  | call _ _ => none

theorem ended_of_true {p : Prog Res ε α} (h : p.ended = some true) : ∃ a,p = done (.ok a) := by
  cases p with
  | done result =>
    cases result with
    | ok a => exact ⟨a,rfl⟩
    | error e => cases h
  | call op next => cases h

/-- Every call that the program can make is allowed. -/
def Calls (allowed : Op → Prop) : Prog Res ε α → Prop
  | done _ => True
  | call op next => allowed op ∧ ∀ r,(next r).Calls allowed

/-- No two calls on one path of the program satisfy `P`. -/
def AtMostOne (P : Op → Prop) : Prog Res ε α → Prop
  | done _ => True
  | call op next => ∀ r,(next r).AtMostOne P ∧ (P op → (next r).Calls (fun op' => ¬P op'))

/-- Every path of the program ends with a value. -/
def NeverFails : Prog Res ε α → Prop
  | done (.ok _) => True
  | done (.error _) => False
  | call _ next => ∀ r,(next r).NeverFails

/-- After a call that satisfies `P` the program does not fail any more. -/
def FailsBefore (P : Op → Prop) : Prog Res ε α → Prop
  | done _ => True
  | call op next => ∀ r,(next r).FailsBefore P ∧ (P op → (next r).NeverFails)

section Calls
variable {allowed P : Op → Prop} {op : Op}

@[simp] theorem calls_pure {a : α} : (pure a : Prog Res ε α).Calls allowed ↔ True := Iff.rfl

@[simp] theorem calls_perform_bind {f : Res op → Prog Res ε α} :
    (perform op >>= f).Calls allowed ↔ allowed op ∧ ∀ r,(f r).Calls allowed := Iff.rfl

/-- A program after another one. -/
theorem Calls.bind {p : Prog Res ε α} {f : α → Prog Res ε β} (hp : p.Calls allowed)
    (hf : ∀ a,(f a).Calls allowed) : (p >>= f).Calls allowed := by
  induction p with
  | done result =>
    cases result with
    | ok a => exact hf a
    | error e => trivial
  | call op next ih => exact ⟨hp.1,fun r => ih r (hp.2 r)⟩

/-- The first of two programs. -/
theorem Calls.of_bind {p : Prog Res ε α} {f : α → Prog Res ε β} (h : (p >>= f).Calls allowed) :
    p.Calls allowed := by
  induction p with
  | done result => trivial
  | call op next ih => exact ⟨h.1,fun r => ih r (h.2 r)⟩

/-- A program that makes no such call has none twice. -/
theorem Calls.atMostOne {p : Prog Res ε α} (hp : p.Calls (fun op => ¬P op)) : p.AtMostOne P := by
  induction p with
  | done result => trivial
  | call op next ih => exact fun r => ⟨ih r (hp.2 r),fun hop => absurd hop hp.1⟩

theorem Calls.mono {allowed' : Op → Prop} {p : Prog Res ε α} (hp : p.Calls allowed)
    (h : ∀ op,allowed op → allowed' op) : p.Calls allowed' := by
  induction p with
  | done result => trivial
  | call op next ih => exact ⟨h op hp.1,fun r => ih r (hp.2 r)⟩

@[simp] theorem atMostOne_pure {a : α} : (pure a : Prog Res ε α).AtMostOne P ↔ True := Iff.rfl

@[simp] theorem atMostOne_perform_bind {f : Res op → Prog Res ε α} :
    (perform op >>= f).AtMostOne P ↔
      ∀ r,(f r).AtMostOne P ∧ (P op → (f r).Calls (fun op' => ¬P op')) := Iff.rfl

@[simp] theorem neverFails_pure {a : α} : (pure a : Prog Res ε α).NeverFails ↔ True := Iff.rfl

@[simp] theorem neverFails_perform_bind {f : Res op → Prog Res ε α} :
    (perform op >>= f).NeverFails ↔ ∀ r,(f r).NeverFails := Iff.rfl

@[simp] theorem failsBefore_pure {a : α} : (pure a : Prog Res ε α).FailsBefore P ↔ True := Iff.rfl

@[simp] theorem failsBefore_perform_bind {f : Res op → Prog Res ε α} :
    (perform op >>= f).FailsBefore P ↔ ∀ r,(f r).FailsBefore P ∧ (P op → (f r).NeverFails) := Iff.rfl

theorem throwIf_bind_of_pos {c : Prop} [Decidable c] (hc : c) {e : ε} {f : Unit → Prog Res ε α} :
    throwIf c e >>= f = .done (.error e) := by
  rw [throwIf,if_pos hc]
  rfl

theorem throwIf_bind_of_neg {c : Prop} [Decidable c] (hc : ¬c) {e : ε} {f : Unit → Prog Res ε α} :
    throwIf c e >>= f = f () := by
  rw [throwIf,if_neg hc]
  rfl

@[simp] theorem calls_throwIf_bind {c : Prop} [Decidable c] {e : ε} {f : Unit → Prog Res ε α} :
    (throwIf c e >>= f).Calls allowed ↔ (¬c → (f ()).Calls allowed) := by
  by_cases hc : c
  · rw [throwIf_bind_of_pos hc]
    exact ⟨fun _ hn => absurd hc hn,fun _ => trivial⟩
  · rw [throwIf_bind_of_neg hc]
    exact ⟨fun h _ => h,fun h => h hc⟩

@[simp] theorem atMostOne_throwIf_bind {c : Prop} [Decidable c] {e : ε} {f : Unit → Prog Res ε α} :
    (throwIf c e >>= f).AtMostOne P ↔ (¬c → (f ()).AtMostOne P) := by
  by_cases hc : c
  · rw [throwIf_bind_of_pos hc]
    exact ⟨fun _ hn => absurd hc hn,fun _ => trivial⟩
  · rw [throwIf_bind_of_neg hc]
    exact ⟨fun h _ => h,fun h => h hc⟩

@[simp] theorem failsBefore_throwIf_bind {c : Prop} [Decidable c] {e : ε}
    {f : Unit → Prog Res ε α} :
    (throwIf c e >>= f).FailsBefore P ↔ (¬c → (f ()).FailsBefore P) := by
  by_cases hc : c
  · rw [throwIf_bind_of_pos hc]
    exact ⟨fun _ hn => absurd hc hn,fun _ => trivial⟩
  · rw [throwIf_bind_of_neg hc]
    exact ⟨fun h _ => h,fun h => h hc⟩

@[simp] theorem failsBefore_orThrow_bind {found : Option β} {e : ε} {f : β → Prog Res ε α} :
    (orThrow found e >>= f).FailsBefore P ↔ ∀ b,found = some b → (f b).FailsBefore P := by
  cases found with
  | none => exact ⟨fun _ b hb => (by cases hb),fun _ => trivial⟩
  | some b => exact ⟨fun h c hc => Option.some.inj hc ▸ h,fun h => h b rfl⟩

@[simp] theorem calls_orThrow_bind {found : Option β} {e : ε} {f : β → Prog Res ε α} :
    (orThrow found e >>= f).Calls allowed ↔ ∀ b,found = some b → (f b).Calls allowed := by
  cases found with
  | none => exact ⟨fun _ b hb => (by cases hb),fun _ => trivial⟩
  | some b => exact ⟨fun h c hc => Option.some.inj hc ▸ h,fun h => h b rfl⟩

@[simp] theorem atMostOne_orThrow_bind {found : Option β} {e : ε} {f : β → Prog Res ε α} :
    (orThrow found e >>= f).AtMostOne P ↔ ∀ b,found = some b → (f b).AtMostOne P := by
  cases found with
  | none => exact ⟨fun _ b hb => (by cases hb),fun _ => trivial⟩
  | some b => exact ⟨fun h c hc => Option.some.inj hc ▸ h,fun h => h b rfl⟩

end Calls

/-- The program gets the answers of the transcript and goes on as `q`. -/
inductive Follows : Prog Res ε α → List (Event Res) → Prog Res ε α → Prop
  | refl (p : Prog Res ε α) : Follows p [] p
  | call {op : Op} {next : Res op → Prog Res ε α} (r : Res op) {tr : List (Event Res)}
      {q : Prog Res ε α} (h : Follows (next r) tr q) : Follows (call op next) (⟨op,r⟩::tr) q

section Transcripts
variable {p q : Prog Res ε α} {tr : List (Event Res)} {op : Op}

theorem Follows.snoc {next : Res op → Prog Res ε α} (h : Follows p tr (.call op next)) (r : Res op) :
    Follows p (tr++[⟨op,r⟩]) (next r) := by
  generalize hq : Prog.call op next = q at h
  induction h with
  | refl p =>
    subst hq
    exact .call r (.refl _)
  | call r' h ih => exact .call r' (ih hq)

theorem Follows.calls {allowed : Op → Prop} (h : Follows p tr q) (hp : p.Calls allowed) :
    ∀ e ∈ tr,allowed e.1 := by
  induction h with
  | refl p => simp
  | call r h ih =>
    intro e he
    rcases List.mem_cons.mp he with rfl | he
    · exact hp.1
    · exact ih (hp.2 r) e he

theorem Follows.atMostOne {P : Op → Prop} (h : Follows p tr q) (hp : p.AtMostOne P) :
    tr.Pairwise (fun e e' => P e.1 → ¬P e'.1) := by
  induction h with
  | refl p => exact .nil
  | call r h ih =>
    refine List.pairwise_cons.mpr ⟨fun e he hop => ?_,ih (hp r).1⟩
    exact h.calls ((hp r).2 hop) e he

theorem follows_done {result result' : Except ε α} :
    Follows (.done result) tr (.done result') ↔ tr = [] ∧ result = result' := by
  constructor
  · intro h
    cases h
    exact ⟨rfl,rfl⟩
  · rintro ⟨rfl,rfl⟩
    exact .refl _

theorem follows_pure {a : α} {result : Except ε α} :
    Follows (pure a : Prog Res ε α) tr (.done result) ↔ tr = [] ∧ .ok a = result := follows_done

/-- A program that has come to its end has had its first call answered. -/
theorem follows_perform_bind {f : Res op → Prog Res ε α} {result : Except ε α} :
    Follows (perform op >>= f) tr (.done result) ↔
      ∃ r tr',tr = ⟨op,r⟩::tr' ∧ Follows (f r) tr' (.done result) := by
  constructor
  · intro h
    cases h with
    | call r h => exact ⟨r,_,rfl,h⟩
  · rintro ⟨r,tr',rfl,h⟩
    exact .call r h

theorem follows_throwIf_bind {c : Prop} [Decidable c] {e : ε} {f : Unit → Prog Res ε α} {a : α} :
    Follows (throwIf c e >>= f) tr (.done (.ok a)) ↔ ¬c ∧ Follows (f ()) tr (.done (.ok a)) := by
  by_cases hc : c
  · rw [throwIf_bind_of_pos hc,follows_done]
    simp [hc]
  · rw [throwIf_bind_of_neg hc]
    simp [hc]

theorem follows_orThrow_bind {found : Option β} {e : ε} {f : β → Prog Res ε α} {a : α} :
    Follows (orThrow found e >>= f) tr (.done (.ok a)) ↔
      ∃ b,found = some b ∧ Follows (f b) tr (.done (.ok a)) := by
  cases found with
  | none =>
    have hprog : (orThrow (none : Option β) e >>= f : Prog Res ε α) = .done (.error e) := rfl
    simp [hprog,follows_done]
  | some b =>
    have hprog : (orThrow (some b) e >>= f : Prog Res ε α) = f b := rfl
    simp [hprog]

/-- Two programs in a row have shared the transcript. -/
theorem follows_bind {p : Prog Res ε β} {f : β → Prog Res ε α} {a : α} :
    Follows (p >>= f) tr (.done (.ok a)) ↔ ∃ before after b,tr = before++after ∧
      Follows p before (.done (.ok b)) ∧ Follows (f b) after (.done (.ok a)) := by
  induction p generalizing tr with
  | done result =>
    cases result with
    | ok b =>
      constructor
      · exact fun h => ⟨[],tr,b,rfl,.refl _,h⟩
      · rintro ⟨before,after,c,rfl,hp,h⟩
        obtain ⟨rfl,hc⟩ := follows_done.mp hp
        exact Except.ok.inj hc ▸ h
    | error e =>
      constructor
      · intro h
        cases (follows_done.mp h).2
      · rintro ⟨before,after,c,rfl,hp,h⟩
        cases (follows_done.mp hp).2
  | call op next ih =>
    constructor
    · intro h
      cases h with
      | call r h =>
        obtain ⟨before,after,b,rfl,hp,hf⟩ := (ih r).mp h
        exact ⟨⟨op,r⟩::before,after,b,rfl,.call r hp,hf⟩
    · rintro ⟨before,after,b,rfl,hp,hf⟩
      cases hp with
      | call r hp => exact .call r ((ih r).mpr ⟨_,after,b,rfl,hp,hf⟩)

end Transcripts

section Runs
variable {σ Env : Type} {h : Env → σ → (op : Op) → σ × Res op}

/-- The program alone. Each call meets surroundings of its own. -/
def run (h : Env → σ → (op : Op) → σ × Res op) : Prog Res ε α → (ℕ → Env) → σ → σ × Except ε α
  | done result,_,s => (s,result)
  | call op next,env,s =>
    (next (h (env 0) s op).2).run h (fun k => env (k + 1)) (h (env 0) s op).1

variable {env : ℕ → Env} {s : σ} {op : Op}

theorem run_perform_bind {f : Res op → Prog Res ε α} :
    (perform op >>= f).run h env s =
      (f (h (env 0) s op).2).run h (fun k => env (k + 1)) (h (env 0) s op).1 := rfl

theorem NeverFails.run_ok {p : Prog Res ε α} (hp : p.NeverFails) {e : ε} :
    (p.run h env s).2 ≠ .error e := by
  induction p generalizing env s with
  | done result =>
    cases result with
    | ok a => exact fun he => by cases he
    | error e' => exact absurd hp id
  | call op next ih => exact ih _ (hp _)

/-- What every allowed call keeps, a program that makes only such calls keeps. -/
theorem run_frame {R : σ → σ → Prop} (hrefl : ∀ s,R s s) (htrans : ∀ {s t u},R s t → R t u → R s u)
    {allowed : Op → Prop} (hstep : ∀ env s op,allowed op → R s (h env s op).1)
    {p : Prog Res ε α} (hp : p.Calls allowed) : R s (p.run h env s).1 := by
  induction p generalizing env s with
  | done result => exact hrefl s
  | call op next ih => exact htrans (hstep (env 0) s op hp.1) (ih _ (hp.2 _))

/-- What the calls that may come before a failure keep, a program that fails keeps. -/
theorem run_failed {R : σ → σ → Prop} (hrefl : ∀ s,R s s)
    (htrans : ∀ {s t u},R s t → R t u → R s u) {P : Op → Prop}
    (hstep : ∀ env s op,¬P op → R s (h env s op).1) {p : Prog Res ε α} (hp : p.FailsBefore P) {e : ε}
    (hfailed : (p.run h env s).2 = .error e) : R s (p.run h env s).1 := by
  induction p generalizing env s with
  | done result => exact hrefl s
  | call op next ih =>
    obtain ⟨hnext,hnever⟩ := hp (h (env 0) s op).2
    have hop : ¬P op := fun hop => (hnever hop).run_ok hfailed
    exact htrans (hstep (env 0) s op hop) (ih _ hnext hfailed)

/-- In some surroundings, the program run alone from `s` ends in `t` with the value `a`. -/
def Returns (h : Env → σ → (op : Op) → σ × Res op) (p : Prog Res ε α) (s t : σ) (a : α) : Prop :=
  ∃ env,p.run h env s = (t,.ok a)

variable {t : σ} {a : α}

theorem returns_of_run {p : Prog Res ε α} (hrun : (p.run h env s).2 = .ok a) :
    p.Returns h s (p.run h env s).1 a := ⟨env,Prod.ext rfl hrun⟩

theorem returns_pure [Inhabited Env] {b : α} :
    (pure b : Prog Res ε α).Returns h s t a ↔ s = t ∧ b = a := by
  constructor
  · rintro ⟨env,hrun⟩
    obtain ⟨hs,ha⟩ := Prod.mk.inj hrun
    exact ⟨hs,Except.ok.inj ha⟩
  · rintro ⟨rfl,rfl⟩
    exact ⟨fun _ => default,rfl⟩

theorem returns_perform_bind {f : Res op → Prog Res ε α} :
    (perform op >>= f).Returns h s t a ↔
      ∃ env,(f (h env s op).2).Returns h (h env s op).1 t a := by
  constructor
  · rintro ⟨env,hrun⟩
    exact ⟨env 0,fun k => env (k + 1),hrun⟩
  · rintro ⟨env,env',hrun⟩
    let answers : ℕ → Env := fun k => Nat.casesOn k env env'
    exact ⟨answers,hrun⟩

theorem returns_throwIf_bind {c : Prop} [Decidable c] {e : ε} {f : Unit → Prog Res ε α} :
    (throwIf c e >>= f).Returns h s t a ↔ ¬c ∧ (f ()).Returns h s t a := by
  by_cases hc : c
  · rw [throwIf_bind_of_pos hc]
    constructor
    · rintro ⟨env,hrun⟩
      cases (Prod.mk.inj hrun).2
    · exact fun hn => absurd hc hn.1
  · rw [throwIf_bind_of_neg hc]
    exact ⟨fun hf => ⟨hc,hf⟩,fun hf => hf.2⟩

theorem returns_orThrow_bind {found : Option β} {e : ε} {f : β → Prog Res ε α} :
    (orThrow found e >>= f).Returns h s t a ↔ ∃ b,found = some b ∧ (f b).Returns h s t a := by
  cases found with
  | none =>
    constructor
    · rintro ⟨env,hrun⟩
      cases (Prod.mk.inj hrun).2
    · rintro ⟨b,hb,-⟩
      cases hb
  | some b => exact ⟨fun hf => ⟨b,rfl,hf⟩,fun ⟨c,hc,hf⟩ => Option.some.inj hc ▸ hf⟩

/-- The rule of sequencing. -/
theorem returns_bind {p : Prog Res ε β} {f : β → Prog Res ε α} :
    (p >>= f).Returns h s t a ↔ ∃ u b,p.Returns h s u b ∧ (f b).Returns h u t a := by
  induction p generalizing s with
  | done result =>
    constructor
    · intro hf
      cases result with
      | ok b =>
        obtain ⟨env,hrun⟩ := hf
        exact ⟨s,b,⟨env,rfl⟩,env,hrun⟩
      | error e =>
        obtain ⟨env,hrun⟩ := hf
        cases (Prod.mk.inj hrun).2
    · rintro ⟨u,b,⟨env,hrun⟩,hf⟩
      obtain ⟨rfl,rfl⟩ := Prod.mk.inj hrun
      exact hf
  | call op next ih =>
    have hcall : ∀ (g : Res op → Prog Res ε α),(call op g).Returns h s t a ↔
        ∃ env,(g (h env s op).2).Returns h (h env s op).1 t a := fun g => returns_perform_bind
    have hfirst : ∀ u b,(call op next).Returns h s u b ↔
        ∃ env,(next (h env s op).2).Returns h (h env s op).1 u b := fun u b => returns_perform_bind
    constructor
    · intro hf
      obtain ⟨env,hf⟩ := (hcall _).mp hf
      obtain ⟨u,b,hp,hb⟩ := (ih _).mp hf
      exact ⟨u,b,(hfirst u b).mpr ⟨env,hp⟩,hb⟩
    · rintro ⟨u,b,hp,hb⟩
      obtain ⟨env,hp⟩ := (hfirst u b).mp hp
      exact (hcall _).mpr ⟨env,(ih _).mpr ⟨u,b,hp,hb⟩⟩

/-- Going on with a result that is already there. -/
theorem returns_done_bind {result : Except ε β} {f : β → Prog Res ε α} :
    (done result >>= f).Returns h s t a ↔ ∃ b,result = .ok b ∧ (f b).Returns h s t a := by
  cases result with
  | ok b => exact ⟨fun hf => ⟨b,rfl,hf⟩,fun ⟨c,hc,hf⟩ => Except.ok.inj hc ▸ hf⟩
  | error e =>
    constructor
    · rintro ⟨env,hrun⟩
      cases (Prod.mk.inj hrun).2
    · rintro ⟨b,hb,-⟩
      cases hb

end Runs
section Evaluation
variable {σ Env : Type} {answer : (op : Op) → Res op} {credit : (op : Op) → Res op → ℕ} {m n : ℕ}

/-- The value of the program when every call has always the same answer. -/
def evaluate (answer : (op : Op) → Res op) : Prog Res ε α → Except ε α
  | done result => result
  | call op next => (next (answer op)).evaluate answer

@[simp] theorem evaluate_done (result : Except ε α) :
    (done result : Prog Res ε α).evaluate answer = result := rfl

@[simp] theorem evaluate_pure (a : α) : (pure a : Prog Res ε α).evaluate answer = .ok a := rfl

@[simp] theorem evaluate_perform (op : Op) :
    (perform op : Prog Res ε (Res op)).evaluate answer = .ok (answer op) := rfl

@[simp] theorem evaluate_bind (p : Prog Res ε β) (f : β → Prog Res ε α) :
    (p >>= f).evaluate answer = p.evaluate answer >>= fun b => (f b).evaluate answer := by
  induction p with
  | done result => cases result <;> rfl
  | call op next ih => exact ih (answer op)

/-- Calls that leave the state alone have the same answers from then on. -/
theorem run_evaluate {h : Env → σ → (op : Op) → σ × Res op} {env : ℕ → Env} {s : σ}
    (hquiet : ∀ k op,h (env k) s op = (s,answer op)) (p : Prog Res ε α) :
    p.run h env s = (s,p.evaluate answer) := by
  induction p generalizing env with
  | done result => rfl
  | call op next ih =>
    unfold run evaluate
    rw [hquiet 0 op]
    exact ih (answer op) (fun k => hquiet (k + 1))

/-- The program can pay for its calls, one for each, with `n` and what the answers bring in. -/
def Affords (credit : (op : Op) → Res op → ℕ) : Prog Res ε α → ℕ → Prop
  | done _,_ => True
  | call op next,n => 0 < n ∧ ∀ r,(next r).Affords credit (n - 1 + credit op r)

theorem Affords.mono {p : Prog Res ε α} (hp : p.Affords credit m) (hmn : m ≤ n) :
    p.Affords credit n := by
  induction p generalizing m n with
  | done result => trivial
  | call op next ih =>
    refine ⟨Nat.lt_of_lt_of_le hp.1 hmn,fun r => ih r (hp.2 r) ?_⟩
    omega

theorem affords_done (result : Except ε α) : (done result : Prog Res ε α).Affords credit n := trivial

theorem affords_perform_bind {op : Op} {f : Res op → Prog Res ε α} :
    (perform op >>= f).Affords credit (n + 1) ↔ ∀ r,(f r).Affords credit (n + credit op r) :=
  ⟨fun hp => hp.2,fun hf => ⟨Nat.succ_pos n,hf⟩⟩

theorem Affords.bind {p : Prog Res ε β} {f : β → Prog Res ε α} (hp : p.Affords credit m)
    (hf : ∀ b,(f b).Affords credit n) : (p >>= f).Affords credit (m + n) := by
  induction p generalizing m with
  | done result =>
    cases result with
    | ok b => exact (hf b).mono (Nat.le_add_left n m)
    | error e => trivial
  | call op next ih =>
    refine ⟨Nat.add_pos_left hp.1 n,fun r => (ih r (hp.2 r)).mono ?_⟩
    have hpos := hp.1
    omega

/-- Going on with a result that is already there costs nothing. -/
theorem affords_done_bind {result : Except ε β} {f : β → Prog Res ε α}
    (hf : ∀ b,(f b).Affords credit n) : (done result >>= f).Affords credit n :=
  ((affords_done (n := 0) result).bind hf).mono (Nat.le_of_eq (Nat.zero_add n))

end Evaluation
end Prog

section Pools
variable {ι σ Env : Type} [DecidableEq ι] {h : Env → σ → (op : Op) → σ × Res op}

/-- The calls were made in this order, each in the state that the earlier ones left. -/
inductive Replays (h : Env → σ → (op : Op) → σ × Res op) (start : σ) :
    List (Event Res) → σ → Prop
  | nil : Replays h start [] start
  | snoc {tr : List (Event Res)} {s : σ} (env : Env) (op : Op) (hr : Replays h start tr s) :
      Replays h start (tr++[⟨op,(h env s op).2⟩]) (h env s op).1

/-- Programs in the middle of their work on one state. -/
structure Pool (Res : Op → Type) (ε α ι σ : Type) where
  progs : ι → Prog Res ε α
  state : σ
  transcript : List (ι × Event Res)

namespace Pool

/-- One program makes its next call; one that has ended does nothing. -/
def step (h : Env → σ → (op : Op) → σ × Res op) (c : Pool Res ε α ι σ) (turn : ι × Env) :
    Pool Res ε α ι σ :=
  match c.progs turn.1 with
  | .done _ => c
  | .call op next =>
    { progs := Function.update c.progs turn.1 (next (h turn.2 c.state op).2)
      state := (h turn.2 c.state op).1
      transcript := c.transcript++[(turn.1,⟨op,(h turn.2 c.state op).2⟩)] }

/-- The programs take turns as the schedule says. -/
def run (h : Env → σ → (op : Op) → σ × Res op) (progs : ι → Prog Res ε α) (start : σ)
    (schedule : List (ι × Env)) : Pool Res ε α ι σ :=
  schedule.foldl (step h) ⟨progs,start,[]⟩

/-- The part of a transcript that belongs to one program. -/
def projection (i : ι) (tr : List (ι × Event Res)) : List (Event Res) :=
  (tr.filter (fun e => e.1 = i)).map Prod.snd

/-- Every program has got as far as its part of the transcript says, and the state is what the
transcript makes of the first one. -/
structure Sound (h : Env → σ → (op : Op) → σ × Res op) (progs : ι → Prog Res ε α) (start : σ)
    (c : Pool Res ε α ι σ) : Prop where
  follows : ∀ i,(progs i).Follows (projection i c.transcript) (c.progs i)
  replays : Replays h start (c.transcript.map Prod.snd) c.state

theorem Sound.step {progs : ι → Prog Res ε α} {start : σ} {c : Pool Res ε α ι σ}
    (hc : Sound h progs start c) (turn : ι × Env) : Sound h progs start (c.step h turn) := by
  obtain ⟨i,env⟩ := turn
  unfold Pool.step
  cases hprog : c.progs i with
  | done result => exact hc
  | call op next =>
    constructor
    · intro j
      by_cases hj : i = j
      · subst hj
        have hnext := Prog.Follows.snoc (hprog ▸ hc.follows i) (h env c.state op).2
        simpa [projection] using hnext
      · have hj' : j ≠ i := fun he => hj he.symm
        simpa [projection,hj,hj'] using hc.follows j
    · rw [List.map_append]
      exact .snoc env op hc.replays

theorem sound_run (progs : ι → Prog Res ε α) (start : σ) (schedule : List (ι × Env)) :
    Sound h progs start (Pool.run h progs start schedule) := by
  have hall : ∀ (schedule : List (ι × Env)) (c : Pool Res ε α ι σ),Sound h progs start c →
      Sound h progs start (schedule.foldl (Pool.step h) c) := by
    intro schedule
    induction schedule with
    | nil => exact fun c hc => hc
    | cons turn schedule ih => exact fun c hc => ih _ (hc.step turn)
  exact hall schedule _ ⟨fun i => .refl _,.nil⟩

theorem mem_projection {i : ι} {tr : List (ι × Event Res)} {e : Event Res} :
    e ∈ projection i tr ↔ (i,e) ∈ tr := by
  simp [projection]

/-- What holds of the events of each program in order, and of the events of any two programs, holds
of all events in order. -/
theorem pairwise_of_projections {R : Event Res → Event Res → Prop} {tr : List (ι × Event Res)}
    (hsame : ∀ i,(projection i tr).Pairwise R)
    (hother : ∀ i j e e',i ≠ j → (i,e) ∈ tr → (j,e') ∈ tr → R e e') :
    (tr.map Prod.snd).Pairwise R := by
  induction tr with
  | nil => exact .nil
  | cons head tr ih =>
    obtain ⟨i,e⟩ := head
    rw [List.map_cons,List.pairwise_cons]
    constructor
    · intro e' he'
      obtain ⟨⟨j,e''⟩,hmem,rfl⟩ := List.mem_map.mp he'
      by_cases hj : i = j
      · subst hj
        have hhead := hsame i
        rw [projection,List.filter_cons_of_pos (by simp),List.map_cons,List.pairwise_cons] at hhead
        exact hhead.1 e'' (mem_projection.mpr hmem)
      · exact hother i j e e'' hj List.mem_cons_self (List.mem_cons_of_mem _ hmem)
    · refine ih (fun j => ?_) (fun j k e e' hjk hj hk =>
        hother j k e e' hjk (List.mem_cons_of_mem _ hj) (List.mem_cons_of_mem _ hk))
      have htail := hsame j
      unfold projection at htail ⊢
      rw [List.filter_cons] at htail
      split at htail
      · rw [List.map_cons,List.pairwise_cons] at htail
        exact htail.2
      · exact htail

end Pool
end Pools
end BelLedger.EffectPrograms
