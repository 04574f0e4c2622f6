import Mathlib.Data.List.Infix
import Mathlib.Tactic.Common

/-!
# The first occurrence of a delimiter

A delimiter that does not come back to its first symbol occurs for the first time where it was put,
unless it occurs in what stands before it.
-/
namespace BelLedger.DelimiterSearch

variable {α β : Type} [DecidableEq α]

/-- What stands before the first occurrence of the delimiter, and after it. -/
def cut? (d : List α) : List α → Option (List α × List α)
  | [] => if d = [] then some ([],[]) else none
  | c::cs =>
    if d.isPrefixOf (c::cs) = true then some ([],(c::cs).drop d.length)
    else (cut? d cs).map (fun p => (c::p.1,p.2))

/-- The first match of a pattern. -/
def firstMatch (p : List α → Option β) : List α → Option β
  | [] => p []
  | c::cs => (p (c::cs)).or (firstMatch p cs)

/-- The pieces between the occurrences of the delimiter `a`, `b`. -/
def splitAtPair (a b : α) : List α → List (List α)
  | [] => [[]]
  | [c] => [[c]]
  | c::c'::cs =>
    if c = a ∧ c' = b then []::splitAtPair a b cs
    else (splitAtPair a b (c'::cs)).modifyHead (List.cons c)

/-- In the text `x` followed by `rest` no occurrence of `d` begins in `x`. -/
def Clear (d : List α) : List α → List α → Prop
  | [],_ => True
  | c::cs,rest => ¬d <+: (c::cs)++rest ∧ Clear d cs rest

variable {d e x y rest : List α} {a b c : α}

/-- Nothing of a clear text is cut off. -/
theorem cut_append (h : Clear d x y) : cut? d (x++y) = (cut? d y).map (fun p => (x++p.1,p.2)) := by
  induction x with
  | nil => simp
  | cons c x ih =>
    have hnot : ¬d.isPrefixOf (c::(x++y)) = true := by
      rw [List.isPrefixOf_iff_prefix]
      exact h.1
    rw [List.cons_append,cut?,if_neg hnot,ih h.2,Option.map_map]
    rfl

theorem cut_self (d y : List α) : cut? d (d++y) = some ([],y) := by
  cases d with
  | nil =>
    cases y with
    | nil => rfl
    | cons c y => rfl
  | cons c d =>
    have hprefix : (c::d).isPrefixOf (c::(d++y)) = true := by simp
    rw [List.cons_append,cut?,if_pos hprefix]
    simp

theorem cut_eq_of_clear (h : Clear d x (d++y)) : cut? d (x++(d++y)) = some (x,y) := by
  rw [cut_append h,cut_self,Option.map_some,List.append_nil]

omit [DecidableEq α] in
theorem clear_append : Clear d (x++y) rest ↔ Clear d x (y++rest) ∧ Clear d y rest := by
  induction x with
  | nil => simp [Clear]
  | cons c x ih => simp [Clear,ih,and_assoc]

omit [DecidableEq α] in
theorem clear_of_notMem (h : c ∉ x) : Clear (c::d) x rest := by
  induction x with
  | nil => trivial
  | cons a x ih =>
    rw [List.mem_cons,not_or] at h
    refine ⟨?_,ih h.2⟩
    rintro ⟨t,ht⟩
    exact h.1 (List.cons.inj ht).1

omit [DecidableEq α] in
/-- A delimiter whose first symbol does not come back begins nowhere in a text without it, even when it
stands behind the text. -/
theorem clear_of_notInfix (hc : c ∉ d) (h : ¬(c::d) <:+: x) :
    Clear ((c::d)++e) x ((c::d)++y) := by
  induction x with
  | nil => trivial
  | cons a x ih =>
    refine ⟨?_,ih (fun hx => h (hx.trans (List.suffix_cons a x).isInfix))⟩
    intro hprefix
    have hbegin : (c::d) <+: (a::x)++((c::d)++y) := (List.prefix_append (c::d) e).trans hprefix
    have hwhole : (a::x) <+: (a::x)++((c::d)++y) := List.prefix_append _ _
    rcases Nat.le_total (c::d).length (a::x).length with hle | hle
    · exact h (List.prefix_of_prefix_length_le hbegin hwhole hle).isInfix
    · -- it would begin in `x` and end behind it, so its first symbol would come back
      obtain ⟨z,hz⟩ := List.prefix_of_prefix_length_le hwhole hbegin hle
      have hrest : (a::x)++z <+: (a::x)++((c::d)++y) := by
        rw [hz]
        exact hbegin
      rw [List.prefix_append_right_inj] at hrest
      cases z with
      | nil =>
        rw [List.append_nil] at hz
        exact h (hz ▸ List.infix_refl _)
      | cons z zs =>
        obtain ⟨t,ht⟩ := hrest
        have hfirst : z = c := (List.cons.inj ht).1
        have htail : x++z::zs = d := (List.cons.inj hz).2
        apply hc
        rw [← htail,hfirst]
        simp

omit [DecidableEq α] in
/-- Lines behind the first one are not empty, so no empty line comes before the end of the last. -/
theorem clear_lines {ls : List (List α)} {l : List α} (hab : a ≠ b) (hl : a ∉ l)
    (hls : ∀ l ∈ ls,a ∉ l ∧ l ≠ []) :
    Clear [a,b,a,b] (l++ls.flatMap (fun l => a::b::l)) rest := by
  induction ls generalizing l with
  | nil =>
    rw [List.flatMap_nil,List.append_nil]
    exact clear_of_notMem hl
  | cons l' ls ih =>
    obtain ⟨hl',hne⟩ := hls l' List.mem_cons_self
    rw [List.flatMap_cons,clear_append]
    refine ⟨clear_of_notMem hl,?_,?_,ih hl' (fun l h => hls l (List.mem_cons_of_mem l' h))⟩
    · obtain ⟨c,cs,rfl⟩ := List.exists_cons_of_ne_nil hne
      intro hprefix
      have hthird := (List.cons_prefix_cons.mp (List.cons_prefix_cons.mp hprefix).2).2
      exact hl' ((List.cons_prefix_cons.mp hthird).1 ▸ List.mem_cons_self)
    · intro hprefix
      exact hab (List.cons_prefix_cons.mp hprefix).1

theorem splitAtPair_of_notMem {l : List α} (hl : a ∉ l) : splitAtPair a b l = [l] := by
  induction l using splitAtPair.induct a b with
  | case1 => rfl
  | case2 c => rfl
  | case3 c c' cs hpair ih => exact absurd (hpair.1 ▸ List.mem_cons_self) hl
  | case4 c c' cs hpair ih =>
    rw [splitAtPair,if_neg hpair,ih (fun h => hl (List.mem_cons_of_mem c h))]
    rfl

theorem splitAtPair_append {l : List α} (hl : a ∉ l) :
    splitAtPair a b (l++a::b::rest) = l::splitAtPair a b rest := by
  induction l with
  | nil => simp [splitAtPair]
  | cons c l ih =>
    rw [List.mem_cons,not_or] at hl
    have hc : ¬c = a := fun he => hl.1 he.symm
    cases l with
    | nil =>
      have hrest := ih (fun h => hl.2 h)
      rw [List.nil_append] at hrest
      rw [List.singleton_append,splitAtPair,if_neg (fun hp => hc hp.1),hrest]
      rfl
    | cons c' l =>
      have hrest := ih hl.2
      rw [List.cons_append] at hrest
      rw [List.cons_append,List.cons_append,splitAtPair,if_neg (fun hp => hc hp.1),hrest]
      rfl

/-- Lines that are put together with the delimiter are the pieces. -/
theorem splitAtPair_lines {ls : List (List α)} {l : List α} (hl : a ∉ l) (hls : ∀ l ∈ ls,a ∉ l) :
    splitAtPair a b (l++ls.flatMap (fun l => a::b::l)) = l::ls := by
  induction ls generalizing l with
  | nil =>
    rw [List.flatMap_nil,List.append_nil]
    exact splitAtPair_of_notMem hl
  | cons l' ls ih =>
    rw [List.flatMap_cons,List.cons_append,List.cons_append,splitAtPair_append hl,
      ih (hls l' List.mem_cons_self) (fun l h => hls l (List.mem_cons_of_mem l' h))]

end BelLedger.DelimiterSearch
