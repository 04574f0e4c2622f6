import BelLedger.AccountsService
import BelLedger.GraphSearch

/-!
# The scan of device metadata for private keys

The metadata of a request is an object graph. The scan is a depth-first search of it; on metadata
without shared references it is the recursion over a tree that the accounts service is modelled
with.
-/
namespace BelLedger
open GraphSearch

namespace UsersService

/-- A value: an object, or anything that `typeof` does not call one, and `null`. -/
inductive JsValue (Ref : Type)
  | primitive
  | object (ref : Ref)

/-- `Object.entries` of every object. -/
structure ObjectGraph (Key Ref : Type) where
  entries : Ref → List (Key × JsValue Ref)

namespace ObjectGraph
variable {Key Ref : Type}

/-- `entries.some(([key, child]) => sensitiveKey(key) || containsSensitiveKey(child, seen))` -/
def someSensitive (sensitiveKey : Key → Bool)
    (contains : JsValue Ref → Finset Ref → Option (Bool × Finset Ref)) :
    List (Key × JsValue Ref) → Finset Ref → Option (Bool × Finset Ref)
  | [],seen => some (false,seen)
  | (key,child)::entries,seen =>
    if sensitiveKey key = true then some (true,seen)
    else
      match contains child seen with
      | none => none
      | some (true,seen) => some (true,seen)
      | some (false,seen) => someSensitive sensitiveKey contains entries seen

/-- `containsSensitiveKey(value, seen)`, with a bound on the depth of the recursion. -/
def containsSensitiveKey [DecidableEq Ref] (g : ObjectGraph Key Ref) (sensitiveKey : Key → Bool) :
    ℕ → JsValue Ref → Finset Ref → Option (Bool × Finset Ref)
  | _,.primitive,seen => some (false,seen)
  | 0,.object _,_ => none
  | depth + 1,.object ref,seen =>
    if ref ∈ seen then some (false,seen)
    else someSensitive sensitiveKey (containsSensitiveKey g sensitiveKey depth) (g.entries ref)
      (insert ref seen)

/-- The graph of the objects. -/
def graph (g : ObjectGraph Key Ref) : SearchGraph Ref (Key × JsValue Ref) where
  entries := g.entries
  target
    | (_,.primitive) => none
    | (_,.object ref) => some ref

/-- A property of the first object holds the second. -/
def Holds (g : ObjectGraph Key Ref) (r s : Ref) : Prop := ∃ key,(key,.object s) ∈ g.entries r

/-- An object that can be reached from the value has a sensitive key. -/
def HasSensitiveKey (g : ObjectGraph Key Ref) (sensitiveKey : Key → Bool) (root : JsValue Ref) :
    Prop :=
  ∃ r s,root = .object r ∧ Relation.ReflTransGen g.Holds r s ∧
    ∃ key child,(key,child) ∈ g.entries s ∧ sensitiveKey key = true

variable (g : ObjectGraph Key Ref) (sensitiveKey : Key → Bool)

@[simp] theorem target_primitive (key : Key) : g.graph.target (key,.primitive) = none := rfl

@[simp] theorem target_object (key : Key) (ref : Ref) :
    g.graph.target (key,.object ref) = some ref := rfl

theorem containsSensitiveKey_primitive [DecidableEq Ref] (depth : ℕ) (seen : Finset Ref) :
    g.containsSensitiveKey sensitiveKey depth .primitive seen = some (false,seen) := by
  rw [containsSensitiveKey]

/-- The scan of an object is the search of the graph. -/
theorem containsSensitiveKey_object [DecidableEq Ref] (depth : ℕ) (ref : Ref) (seen : Finset Ref) :
    g.containsSensitiveKey sensitiveKey depth (.object ref) seen =
      g.graph.search (fun e => sensitiveKey e.1) depth ref seen := by
  induction depth generalizing ref seen with
  | zero => rfl
  | succ depth ih =>
    have hloop : ∀ entries seen,
        someSensitive sensitiveKey (g.containsSensitiveKey sensitiveKey depth) entries seen =
          g.graph.someEntry (fun e => sensitiveKey e.1)
            (g.graph.search (fun e => sensitiveKey e.1) depth) entries seen := by
      intro entries
      induction entries with
      | nil => intro seen; rfl
      | cons e entries ihe =>
        intro seen
        obtain ⟨key,child⟩ := e
        rw [someSensitive,SearchGraph.someEntry]
        cases child with
        | primitive =>
          rw [containsSensitiveKey_primitive]
          simp only [target_primitive,ihe]
        | object ref =>
          rw [target_object,ih]
          split
          · rfl
          · dsimp only
            cases g.graph.search (fun e => sensitiveKey e.1) depth ref seen with
            | none => rfl
            | some found =>
              obtain ⟨hit,seen'⟩ := found
              cases hit with
              | true => rfl
              | false => exact ihe seen'
    rw [containsSensitiveKey,SearchGraph.search,hloop]
    rfl

theorem hits_iff {r : Ref} : g.graph.Hits (fun e => sensitiveKey e.1) r ↔
    g.HasSensitiveKey sensitiveKey (.object r) := by
  have hleads : g.graph.Leads = g.Holds := by
    funext m n
    apply propext
    constructor
    · rintro ⟨⟨key,child⟩,he,htarget⟩
      cases child with
      | primitive => cases htarget
      | object ref =>
        obtain rfl := Option.some.inj htarget
        exact ⟨key,he⟩
    · rintro ⟨key,he⟩
      exact ⟨_,he,rfl⟩
  unfold SearchGraph.Hits HasSensitiveKey
  rw [hleads]
  constructor
  · rintro ⟨s,hreach,⟨key,child⟩,he,hkey⟩
    exact ⟨r,s,rfl,hreach,key,child,he,hkey⟩
  · rintro ⟨r',s,hroot,hreach,key,child,he,hkey⟩
    obtain rfl := JsValue.object.inj hroot
    exact ⟨s,hreach,(key,child),he,hkey⟩

/-- With more depth than there are objects the scan returns, and finds what can be reached. -/
theorem containsSensitiveKey_exact [Fintype Ref] [DecidableEq Ref] (root : JsValue Ref) :
    ∃ found : Bool,
      (∀ depth,Fintype.card Ref < depth → ∃ seen,
        g.containsSensitiveKey sensitiveKey depth root ∅ = some (found,seen)) ∧
      (found = true ↔ g.HasSensitiveKey sensitiveKey root) := by
  cases root with
  | primitive =>
    refine ⟨false,?_,?_⟩
    · exact fun depth _ => ⟨∅,g.containsSensitiveKey_primitive sensitiveKey depth ∅⟩
    · refine iff_of_false Bool.false_ne_true ?_
      rintro ⟨r,s,hroot,-⟩
      cases hroot
  | object ref =>
    have hexact : ∀ depth,Fintype.card Ref < depth → ∃ found seen,
        g.graph.search (fun e => sensitiveKey e.1) depth ref ∅ = some (found,seen) ∧
          (found = true ↔ g.graph.Hits (fun e => sensitiveKey e.1) ref) :=
      fun depth hdepth => g.graph.search_exact _ ref hdepth
    obtain ⟨found,-,-,hfound⟩ := hexact _ (Nat.lt_succ_self (Fintype.card Ref))
    refine ⟨found,?_,hfound.trans (g.hits_iff sensitiveKey)⟩
    intro depth hdepth
    obtain ⟨found',seen,hsearch,hfound'⟩ := hexact depth hdepth
    have hsame : found' = found := Bool.eq_iff_iff.mpr (hfound'.trans hfound.symm)
    rw [containsSensitiveKey_object,hsearch,hsame]
    exact ⟨seen,rfl⟩

mutual

/-- A value without shared or cyclic references, and the tree that it is. -/
inductive Unfolds (g : ObjectGraph String Ref) : JsValue Ref → Metadata → Prop
  | leaf : Unfolds g .primitive .leaf
  | node {ref : Ref} {entries : List (String × Metadata)}
    (h : UnfoldsAll g (g.entries ref) entries) : Unfolds g (.object ref) (.node entries)

inductive UnfoldsAll (g : ObjectGraph String Ref) :
    List (String × JsValue Ref) → List (String × Metadata) → Prop
  | nil : UnfoldsAll g [] []
  | cons {key : String} {child : JsValue Ref} {tree : Metadata}
    {entries : List (String × JsValue Ref)} {trees : List (String × Metadata)}
    (hchild : Unfolds g child tree) (h : UnfoldsAll g entries trees) :
    UnfoldsAll g ((key,child)::entries) ((key,tree)::trees)

end

variable {g}

theorem HasSensitiveKey.iff_entries {ref : Ref} :
    g.HasSensitiveKey sensitiveKey (.object ref) ↔ ∃ key child,(key,child) ∈ g.entries ref ∧
      (sensitiveKey key = true ∨ g.HasSensitiveKey sensitiveKey child) := by
  constructor
  · rintro ⟨r,s,hroot,hreach,key,child,he,hkey⟩
    obtain rfl := JsValue.object.inj hroot
    rcases hreach.cases_head with rfl | ⟨t,⟨key',ht⟩,hreach⟩
    · exact ⟨key,child,he,.inl hkey⟩
    · exact ⟨key',.object t,ht,.inr ⟨t,s,rfl,hreach,key,child,he,hkey⟩⟩
  · rintro ⟨key,child,he,hkey | ⟨r,s,rfl,hreach,hs⟩⟩
    · exact ⟨ref,ref,rfl,.refl,key,child,he,hkey⟩
    · exact ⟨ref,s,rfl,hreach.head ⟨key,he⟩,hs⟩

mutual

/-- On a tree the recursion of the accounts service finds the same. -/
theorem Unfolds.containsSensitiveKey_iff {g : ObjectGraph String Ref} {value : JsValue Ref} :
    {tree : Metadata} → Unfolds g value tree →
      (UsersService.containsSensitiveKey tree = true ↔
        g.HasSensitiveKey UsersService.sensitiveKey value)
  | _,.leaf => by
    refine iff_of_false Bool.false_ne_true ?_
    rintro ⟨r,s,hroot,-⟩
    cases hroot
  | _,.node h => h.someSensitive_iff.trans (HasSensitiveKey.iff_entries _).symm

theorem UnfoldsAll.someSensitive_iff {g : ObjectGraph String Ref}
    {entries : List (String × JsValue Ref)} : {trees : List (String × Metadata)} →
      UnfoldsAll g entries trees →
      (UsersService.someSensitive trees = true ↔ ∃ key child,(key,child) ∈ entries ∧
        (UsersService.sensitiveKey key = true ∨
          g.HasSensitiveKey UsersService.sensitiveKey child))
  | _,.nil => by
    refine iff_of_false Bool.false_ne_true ?_
    rintro ⟨key,child,he,-⟩
    cases he
  | _,.cons hchild h => by
    rw [UsersService.someSensitive,Bool.or_eq_true,Bool.or_eq_true,hchild.containsSensitiveKey_iff,
      h.someSensitive_iff]
    constructor
    · rintro (hhead | ⟨key,child,he,hkey⟩)
      · exact ⟨_,_,List.mem_cons_self,hhead⟩
      · exact ⟨key,child,List.mem_cons_of_mem _ he,hkey⟩
    · rintro ⟨key,child,he,hkey⟩
      rcases List.mem_cons.mp he with hhead | he
      · obtain ⟨rfl,rfl⟩ := Prod.mk.inj hhead
        exact .inl hkey
      · exact .inr ⟨key,child,he,hkey⟩

end

theorem containsSensitiveKey_unfolds [Fintype Ref] [DecidableEq Ref] {g : ObjectGraph String Ref}
    {root : JsValue Ref} {tree : Metadata} (h : Unfolds g root tree) :
    ∃ seen,g.containsSensitiveKey UsersService.sensitiveKey (Fintype.card Ref + 1) root ∅ =
      some (UsersService.containsSensitiveKey tree,seen) := by
  obtain ⟨found,hreturns,hfound⟩ := g.containsSensitiveKey_exact UsersService.sensitiveKey root
  obtain ⟨seen,hseen⟩ := hreturns _ (Nat.lt_succ_self _)
  have hsame : found = UsersService.containsSensitiveKey tree :=
    Bool.eq_iff_iff.mpr (hfound.trans h.containsSensitiveKey_iff.symm)
  exact ⟨seen,hsame ▸ hseen⟩

end ObjectGraph
end UsersService
end BelLedger
