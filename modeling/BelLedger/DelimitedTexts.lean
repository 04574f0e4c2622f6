import Mathlib.Data.List.Basic
import Mathlib.Tactic.Common

/-!
# Texts from which items are read off

An encoding delimits its items when an item is determined by any text that starts with it, and so is
the rest of the text. Then a sequence of items is determined as well.
-/
namespace BelLedger.DelimitedTexts

variable {α β σ : Type} {P : α → Prop} {Q : β → Prop} {write : α → List σ} {write' : β → List σ}

/-- Of the items that satisfy `P`. -/
def Delimits (P : α → Prop) (write : α → List σ) : Prop :=
  ∀ a b x y,P a → P b → write a++x = write b++y → a = b ∧ x = y

/-- An encoding with a reader that leaves the rest over. -/
theorem delimits_of_read {read : List σ → Option (α × List σ)}
    (hread : ∀ a x,P a → read (write a++x) = some (a,x)) : Delimits P write := by
  intro a b x y ha hb h
  have hpair : some (a,x) = some (b,y) := by rw [← hread a x ha,h,hread b y hb]
  exact Prod.mk.inj (Option.some.inj hpair)

theorem Delimits.cons (h : Delimits P write) (c : σ) : Delimits P (fun a => c::write a) := by
  intro a b x y ha hb hab
  apply h a b x y ha hb
  exact (List.cons.inj hab).2

theorem Delimits.pair (h : Delimits P write) (h' : Delimits Q write') :
    Delimits (fun p : α × β => P p.1 ∧ Q p.2) (fun p => write p.1++write' p.2) := by
  rintro ⟨a,b⟩ ⟨a',b'⟩ x y ⟨ha,hb⟩ ⟨ha',hb'⟩ hab
  dsimp only at hab
  rw [List.append_assoc,List.append_assoc] at hab
  obtain ⟨rfl,hrest⟩ := h a a' _ _ ha ha' hab
  obtain ⟨rfl,hxy⟩ := h' b b' x y hb hb' hrest
  exact ⟨rfl,hxy⟩

/-- The item starts with a symbol other than `stop`. -/
def StartsUnlike (stop : σ) (text : List σ) : Prop := ∃ c rest,text = c::rest ∧ c ≠ stop

/-- A sequence is determined up to a symbol with which no item starts. -/
theorem Delimits.closed (h : Delimits P write) {stop : σ}
    (hstop : ∀ a,P a → StartsUnlike stop (write a)) :
    Delimits (fun as : List α => ∀ a ∈ as,P a) (fun as : List α => as.flatMap write++[stop]) := by
  intro as
  induction as with
  | nil =>
    intro bs x y _ hbs hab
    cases bs with
    | nil =>
      exact ⟨rfl,by simpa using hab⟩
    | cons b bs =>
      obtain ⟨c,rest,hc,hne⟩ := hstop b (hbs b List.mem_cons_self)
      simp [hc] at hab
      exact absurd hab.1.symm hne
  | cons a as ih =>
    intro bs x y has hbs hab
    have ha := has a List.mem_cons_self
    cases bs with
    | nil =>
      obtain ⟨c,rest,hc,hne⟩ := hstop a ha
      simp [hc] at hab
      exact absurd hab.1 hne
    | cons b bs =>
      simp only [List.flatMap_cons,List.append_assoc] at hab
      obtain ⟨rfl,hrest⟩ := h a b _ _ ha (hbs b List.mem_cons_self) hab
      rw [← List.append_assoc,← List.append_assoc] at hrest
      obtain ⟨rfl,hxy⟩ := ih bs x y (fun a ha => has a (List.mem_cons_of_mem _ ha))
        (fun b hb => hbs b (List.mem_cons_of_mem _ hb)) hrest
      exact ⟨rfl,hxy⟩

theorem intercalate_cons_eq_flatMap (sep : σ) (t : List σ) (ts : List (List σ)) :
    [sep].intercalate (t::ts) = t++ts.flatMap (fun t => sep::t) := by
  induction ts generalizing t with
  | nil => simp [List.intercalate]
  | cons u ts ih =>
    have hrest := ih u
    rw [List.flatMap_cons,List.cons_append,← hrest]
    simp [List.intercalate]

/-- A list of items with a separator between them. -/
theorem Delimits.separated (h : Delimits P write) {sep stop : σ} (hsep : sep ≠ stop)
    (hstop : ∀ a,P a → StartsUnlike stop (write a)) :
    Delimits (fun as : List α => ∀ a ∈ as,P a)
      (fun as : List α => [sep].intercalate (as.map write)++[stop]) := by
  have hrest : Delimits (fun as : List α => ∀ a ∈ as,P a)
      (fun as : List α => as.flatMap (fun a => sep::write a)++[stop]) :=
    (h.cons sep).closed (fun a _ => ⟨sep,write a,rfl,hsep⟩)
  intro as bs x y has hbs hab
  cases as with
  | nil =>
    cases bs with
    | nil => exact ⟨rfl,by simpa [List.intercalate] using hab⟩
    | cons b bs =>
      obtain ⟨c,rest,hc,hne⟩ := hstop b (hbs b List.mem_cons_self)
      simp only [List.map_cons,intercalate_cons_eq_flatMap,hc] at hab
      simp [List.intercalate] at hab
      exact absurd hab.1.symm hne
  | cons a as =>
    have ha := has a List.mem_cons_self
    cases bs with
    | nil =>
      obtain ⟨c,rest,hc,hne⟩ := hstop a ha
      simp only [List.map_cons,intercalate_cons_eq_flatMap,hc] at hab
      simp [List.intercalate] at hab
      exact absurd hab.1 hne
    | cons b bs =>
      simp only [List.map_cons,intercalate_cons_eq_flatMap,List.flatMap_map,List.append_assoc] at hab
      obtain ⟨rfl,htail⟩ := h a b _ _ ha (hbs b List.mem_cons_self) hab
      rw [← List.append_assoc,← List.append_assoc] at htail
      obtain ⟨rfl,hxy⟩ := hrest as bs x y (fun a ha => has a (List.mem_cons_of_mem _ ha))
        (fun b hb => hbs b (List.mem_cons_of_mem _ hb)) htail
      exact ⟨rfl,hxy⟩

end BelLedger.DelimitedTexts
