import Mathlib.Data.Fintype.Card
import Mathlib.Logic.Relation

/-!
# Depth-first search with a set of visited nodes

A search goes through the entries of a node in order, stops at the first hit, and enters the target
of an entry unless it has been visited. The visited set is shared by all branches. A call is given a
bound on its depth and has no result when it is exceeded.
-/
namespace BelLedger.GraphSearch

variable {Node Entry : Type}

/-- The entries of each node, and where an entry leads. -/
structure SearchGraph (Node Entry : Type) where
  entries : Node → List Entry
  target : Entry → Option Node

namespace SearchGraph
variable (g : SearchGraph Node Entry) (hit : Entry → Bool)

section Search
variable [DecidableEq Node]

/-- The loop over the entries of a node. -/
def someEntry (enter : Node → Finset Node → Option (Bool × Finset Node)) :
    List Entry → Finset Node → Option (Bool × Finset Node)
  | [],visited => some (false,visited)
  | e::es,visited =>
    if hit e = true then some (true,visited)
    else
      match g.target e with
      | none => someEntry enter es visited
      | some n =>
        match enter n visited with
        | none => none
        | some (true,visited) => some (true,visited)
        | some (false,visited) => someEntry enter es visited

def search : ℕ → Node → Finset Node → Option (Bool × Finset Node)
  | 0,_,_ => none
  | depth + 1,n,visited =>
    if n ∈ visited then some (false,visited)
    else someEntry g hit (search depth) (g.entries n) (insert n visited)

end Search

/-- An entry of the first node leads to the second. -/
def Leads (m n : Node) : Prop := ∃ e ∈ g.entries m,g.target e = some n

/-- A node that can be reached has an entry that is hit. -/
def Hits (n : Node) : Prop :=
  ∃ m,Relation.ReflTransGen g.Leads n m ∧ ∃ e ∈ g.entries m,hit e = true

/-- The entry is no hit and leads to visited nodes only. -/
structure Passed (visited : Finset Node) (e : Entry) : Prop where
  missed : hit e = false
  target : ∀ n,g.target e = some n → n ∈ visited

/-- All nodes that were added have been passed completely. -/
structure Explored (visited visited' : Finset Node) : Prop where
  subset : visited ⊆ visited'
  passed : ∀ n ∈ visited',n ∉ visited → ∀ e ∈ g.entries n,g.Passed hit visited' e

variable {g hit}

theorem Hits.of_leads {m n : Node} (h : g.Leads m n) (hn : g.Hits hit n) : g.Hits hit m := by
  obtain ⟨k,hreach,hk⟩ := hn
  exact ⟨k,hreach.head h,hk⟩

theorem Passed.mono {visited visited' : Finset Node} {e : Entry} (h : g.Passed hit visited e)
    (hsub : visited ⊆ visited') : g.Passed hit visited' e :=
  ⟨h.missed,fun n hn => hsub (h.target n hn)⟩

theorem Explored.refl (visited : Finset Node) : g.Explored hit visited visited :=
  ⟨fun _ h => h,fun _ h hnew => absurd h hnew⟩

theorem Explored.trans {v₁ v₂ v₃ : Finset Node} (h : g.Explored hit v₁ v₂)
    (h' : g.Explored hit v₂ v₃) : g.Explored hit v₁ v₃ := by
  refine ⟨h.subset.trans h'.subset,?_⟩
  intro n hn hnew e he
  by_cases hmem : n ∈ v₂
  · exact (h.passed n hmem hnew e he).mono h'.subset
  · exact h'.passed n hn hmem e he

/-- What a call that returns has found out about its node. -/
structure Answers (g : SearchGraph Node Entry) (hit : Entry → Bool) (n : Node) (visited : Finset Node)
    (r : Bool × Finset Node) : Prop where
  found : r.1 = true → g.Hits hit n
  missed : r.1 = false → n ∈ r.2 ∧ g.Explored hit visited r.2

/-- What the loop has found out about the entries. -/
structure AnswersAll (g : SearchGraph Node Entry) (hit : Entry → Bool) (es : List Entry)
    (visited : Finset Node) (r : Bool × Finset Node) : Prop where
  found : r.1 = true → ∃ e ∈ es,hit e = true ∨ ∃ n,g.target e = some n ∧ g.Hits hit n
  missed : r.1 = false → (∀ e ∈ es,g.Passed hit r.2 e) ∧ g.Explored hit visited r.2

/-- The loop after an entry that is passed. -/
theorem AnswersAll.cons {e : Entry} {es : List Entry} {visited visited' : Finset Node}
    {r : Bool × Finset Node} (h : g.AnswersAll hit es visited' r) (he : g.Passed hit visited' e)
    (hexplored : g.Explored hit visited visited') : g.AnswersAll hit (e::es) visited r := by
  constructor
  · intro hfound
    obtain ⟨e',he',hhit⟩ := h.found hfound
    exact ⟨e',List.mem_cons_of_mem e he',hhit⟩
  · intro hmissed
    obtain ⟨hpassed,hrest⟩ := h.missed hmissed
    refine ⟨?_,hexplored.trans hrest⟩
    intro e' he'
    rcases List.mem_cons.mp he' with rfl | he'
    · exact he.mono hrest.subset
    · exact hpassed e' he'

theorem someEntry_answers {enter : Node → Finset Node → Option (Bool × Finset Node)}
    (henter : ∀ n visited r,enter n visited = some r → g.Answers hit n visited r)
    {es : List Entry} {visited : Finset Node} {r : Bool × Finset Node}
    (h : g.someEntry hit enter es visited = some r) : g.AnswersAll hit es visited r := by
  induction es generalizing visited with
  | nil =>
    obtain rfl := Option.some.inj h
    exact ⟨(fun h => nomatch h),fun _ => ⟨(fun _ he => nomatch he),.refl visited⟩⟩
  | cons e es ih =>
    rw [someEntry] at h
    split at h
    · rename_i hhit
      obtain rfl := Option.some.inj h
      exact ⟨fun _ => ⟨e,List.mem_cons_self,.inl hhit⟩,fun h => nomatch h⟩
    · rename_i hmiss
      have hmiss : hit e = false := Bool.eq_false_iff.mpr hmiss
      split at h
      · rename_i hnone
        exact (ih h).cons ⟨hmiss,fun n hn => nomatch hnone.symm.trans hn⟩ (.refl visited)
      · rename_i n hn
        split at h
        · cases h
        · rename_i visited' hcall
          obtain rfl := Option.some.inj h
          have hhits := (henter n visited _ hcall).found rfl
          exact ⟨fun _ => ⟨e,List.mem_cons_self,.inr ⟨n,hn,hhits⟩⟩,fun h => nomatch h⟩
        · rename_i visited' hcall
          obtain ⟨hmem,hexplored⟩ := (henter n visited _ hcall).missed rfl
          refine (ih h).cons ⟨hmiss,?_⟩ hexplored
          intro n' hn'
          obtain rfl := Option.some.inj (hn.symm.trans hn')
          exact hmem

theorem someEntry_returns {enter : Node → Finset Node → Option (Bool × Finset Node)}
    (henter : ∀ n visited r,enter n visited = some r → g.Answers hit n visited r)
    (es : List Entry) {visited : Finset Node}
    (hreturns : ∀ n visited',visited ⊆ visited' → ∃ r,enter n visited' = some r) :
    ∃ r,g.someEntry hit enter es visited = some r := by
  induction es generalizing visited with
  | nil => exact ⟨_,rfl⟩
  | cons e es ih =>
    rw [someEntry]
    split
    · exact ⟨_,rfl⟩
    · split
      · exact ih hreturns
      · rename_i n hn
        obtain ⟨⟨found,visited'⟩,hr⟩ := hreturns n visited (fun _ h => h)
        rw [hr]
        cases found with
        | true => exact ⟨_,rfl⟩
        | false =>
          have hsub := ((henter n visited _ hr).missed rfl).2.subset
          exact ih (fun n visited'' hsub' => hreturns n visited'' (hsub.trans hsub'))

variable [DecidableEq Node]

/-- The induction is on the depth; the node itself is explored once its entries have been passed. -/
theorem search_answers {depth : ℕ} {n : Node} {visited : Finset Node} {r : Bool × Finset Node}
    (h : g.search hit depth n visited = some r) : g.Answers hit n visited r := by
  induction depth generalizing n visited r with
  | zero => cases h
  | succ depth ih =>
    rw [search] at h
    split at h
    · rename_i hvisited
      obtain rfl := Option.some.inj h
      exact ⟨(fun h => nomatch h),fun _ => ⟨hvisited,.refl visited⟩⟩
    · have hall := someEntry_answers (fun n visited r => ih) h
      constructor
      · intro hfound
        obtain ⟨e,he,hhit | ⟨m,hm,hhits⟩⟩ := hall.found hfound
        · exact ⟨n,.refl,e,he,hhit⟩
        · exact hhits.of_leads ⟨e,he,hm⟩
      · intro hmissed
        obtain ⟨hpassed,hexplored⟩ := hall.missed hmissed
        refine ⟨hexplored.subset (Finset.mem_insert_self n visited),?_,?_⟩
        · exact (Finset.subset_insert n visited).trans hexplored.subset
        · intro m hm hnew e he
          by_cases hmn : m = n
          · subst hmn
            exact hpassed e he
          · refine hexplored.passed m hm (fun hins => ?_) e he
            exact (Finset.mem_insert.mp hins).elim hmn hnew

section Termination
variable [Fintype Node]

/-- The nodes that are still to be visited. -/
def unvisited (visited : Finset Node) : ℕ := Fintype.card Node - visited.card

/-- Every call below adds its node, so the depth never exceeds the number of nodes left. -/
theorem search_returns {depth : ℕ} (n : Node) {visited : Finset Node}
    (h : unvisited visited < depth) : ∃ r,g.search hit depth n visited = some r := by
  induction depth generalizing n visited with
  | zero => exact absurd h (Nat.not_lt_zero _)
  | succ depth ih =>
    rw [search]
    split
    · exact ⟨_,rfl⟩
    · rename_i hnew
      apply someEntry_returns (fun n visited r => search_answers)
      intro m visited' hsub
      apply ih
      have hcard := Finset.card_le_card hsub
      have hmax := Finset.card_le_univ visited'
      rw [Finset.card_insert_of_notMem hnew] at hcard
      unfold unvisited at h ⊢
      omega

/-- From an empty set the search decides whether a hit can be reached. -/
theorem search_exact (g : SearchGraph Node Entry) (hit : Entry → Bool) (n : Node) {depth : ℕ}
    (h : Fintype.card Node < depth) :
    ∃ found visited,g.search hit depth n ∅ = some (found,visited) ∧
      (found = true ↔ g.Hits hit n) := by
  have hleft : unvisited (∅ : Finset Node) < depth := by
    rw [unvisited,Finset.card_empty]
    exact h
  have hreturns : ∃ r,g.search hit depth n ∅ = some r := search_returns n hleft
  obtain ⟨⟨found,visited⟩,hr⟩ := hreturns
  refine ⟨found,visited,hr,(search_answers hr).found,?_⟩
  rintro ⟨m,hreach,e,he,hhit⟩
  cases hfound : found with
  | true => rfl
  | false =>
    obtain ⟨hn,hexplored⟩ := (search_answers hr).missed hfound
    have hall : ∀ k,Relation.ReflTransGen g.Leads n k → k ∈ visited := by
      intro k hk
      induction hk with
      | refl => exact hn
      | tail _ hstep ih =>
        obtain ⟨e,he,htarget⟩ := hstep
        exact (hexplored.passed _ ih (Finset.notMem_empty _) e he).target _ htarget
    rw [(hexplored.passed m (hall m hreach) (Finset.notMem_empty m) e he).missed] at hhit
    cases hhit

end Termination
end SearchGraph
end BelLedger.GraphSearch
