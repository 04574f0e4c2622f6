import Mathlib.Data.List.Nodup
import Mathlib.Tactic.Common

/-!
# Tables with a unique key

The rows of a table in insertion order. Saving a row replaces the row of the same key in place, or
appends it: this is `Map.set` on a map from keys to rows, and an upsert by primary key.
-/
namespace BelLedger.KeyedTables

variable {κ ρ : Type} [DecidableEq κ] {key : ρ → κ}

structure Table (key : ρ → κ) where
  rows : List ρ
  distinct : (rows.map key).Nodup

def saveRow (key : ρ → κ) : List ρ → ρ → List ρ
  | [],r => [r]
  | x::xs,r => if key x = key r then r::xs else x::saveRow key xs r

theorem keys_saveRow (rows : List ρ) (r : ρ) :
    (saveRow key rows r).map key =
      if key r ∈ rows.map key then rows.map key else rows.map key++[key r] := by
  induction rows with
  | nil => simp [saveRow]
  | cons x xs ih =>
    by_cases hx : key x = key r
    · simp [saveRow,hx]
    · have hx' : ¬key r = key x := fun he => hx he.symm
      simp only [saveRow,if_neg hx,List.map_cons,ih,List.mem_cons,hx',false_or]
      split
      · rfl
      · rfl

theorem saveRow_of_notMem {rows : List ρ} {r : ρ} (h : key r ∉ rows.map key) :
    saveRow key rows r = rows++[r] := by
  induction rows with
  | nil => rfl
  | cons x xs ih =>
    rw [List.map_cons,List.mem_cons,not_or] at h
    rw [saveRow,if_neg (fun he => h.1 he.symm),ih h.2,List.cons_append]

theorem saveRow_distinct {rows : List ρ} (h : (rows.map key).Nodup) (r : ρ) :
    ((saveRow key rows r).map key).Nodup := by
  rw [keys_saveRow]
  split
  · exact h
  · rename_i hnew
    rw [← List.concat_eq_append]
    exact List.Nodup.concat hnew h

/-- A map of the rows that keeps the keys commutes with saving. -/
theorem map_saveRow {f : ρ → ρ} (hkey : ∀ r,key (f r) = key r) (rows : List ρ) (r : ρ) :
    (saveRow key rows r).map f = saveRow key (rows.map f) (f r) := by
  induction rows with
  | nil => rfl
  | cons x xs ih =>
    by_cases hx : key x = key r
    · have hfx : key (f x) = key (f r) := by rw [hkey,hkey,hx]
      rw [saveRow,if_pos hx,List.map_cons,List.map_cons,saveRow,if_pos hfx]
    · have hfx : ¬key (f x) = key (f r) := by
        rw [hkey,hkey]
        exact hx
      rw [saveRow,if_neg hx,List.map_cons,List.map_cons,saveRow,if_neg hfx,ih]

namespace Table

def empty : Table key := ⟨[],by simp⟩

def find (t : Table key) (k : κ) : Option ρ := t.rows.find? (fun r => key r = k)

def save (t : Table key) (r : ρ) : Table key := ⟨saveRow key t.rows r,saveRow_distinct t.distinct r⟩

/-- The rows that do not satisfy `p`. -/
def discard (t : Table key) (p : ρ → Bool) : Table key :=
  ⟨t.rows.filter (fun r => !p r),t.distinct.sublist (List.filter_sublist.map key)⟩

def remove (t : Table key) (k : κ) : Table key := t.discard (fun r => key r = k)

@[simp] theorem find_empty (k : κ) : (empty : Table key).find k = none := rfl

theorem key_of_find {t : Table key} {k : κ} {r : ρ} (h : t.find k = some r) : key r = k := by
  simpa using List.find?_some h

theorem mem_of_find {t : Table key} {k : κ} {r : ρ} (h : t.find k = some r) : r ∈ t.rows :=
  List.mem_of_find?_eq_some h

private theorem find_saveRow (rows : List ρ) (r : ρ) (k : κ) :
    (saveRow key rows r).find? (fun x => key x = k) =
      if key r = k then some r else rows.find? (fun x => key x = k) := by
  induction rows with
  | nil =>
    by_cases hk : key r = k
    · simp [saveRow,hk]
    · simp [saveRow,hk]
  | cons x xs ih =>
    by_cases hx : key x = key r
    · by_cases hk : key r = k
      · simp [saveRow,hx,hk]
      · simp [saveRow,hx,hk]
    · by_cases hxk : key x = k
      · have hk : ¬key r = k := fun he => hx (hxk.trans he.symm)
        rw [saveRow,if_neg hx,if_neg hk]
        simp [hxk]
      · rw [saveRow,if_neg hx]
        simp [hxk,ih]

@[simp] theorem find_save (t : Table key) (r : ρ) (k : κ) :
    (t.save r).find k = if key r = k then some r else t.find k := find_saveRow t.rows r k

theorem find_of_mem {t : Table key} {r : ρ} (h : r ∈ t.rows) : t.find (key r) = some r := by
  obtain ⟨rows,hdistinct⟩ := t
  induction rows with
  | nil => cases h
  | cons x xs ih =>
    rw [List.map_cons,List.nodup_cons] at hdistinct
    rcases List.mem_cons.mp h with rfl | hmem
    · simp [find]
    · have hne : key x ≠ key r := by
        intro he
        exact hdistinct.1 (he ▸ List.mem_map_of_mem hmem)
      have hrest := ih hdistinct.2 hmem
      simpa [find,hne] using hrest

theorem mem_save {t : Table key} {r x : ρ} :
    x ∈ (t.save r).rows ↔ x = r ∨ (x ∈ t.rows ∧ key x ≠ key r) := by
  constructor
  · intro hx
    have hfind := find_of_mem hx
    rw [find_save] at hfind
    by_cases hk : key r = key x
    · rw [if_pos hk] at hfind
      exact .inl (Option.some.inj hfind).symm
    · rw [if_neg hk] at hfind
      exact .inr ⟨mem_of_find hfind,fun he => hk he.symm⟩
  · rintro (rfl | ⟨hx,hk⟩)
    · apply mem_of_find (k := key x)
      rw [find_save,if_pos rfl]
    · apply mem_of_find (k := key x)
      rw [find_save,if_neg (fun he => hk he.symm)]
      exact find_of_mem hx

theorem find_eq_none {t : Table key} {k : κ} : t.find k = none ↔ k ∉ t.rows.map key := by
  simp [find]

theorem length_save (t : Table key) (r : ρ) :
    (t.save r).rows.length = t.rows.length + if t.find (key r) = none then 1 else 0 := by
  have hkeys : (saveRow key t.rows r).length =
      (if key r ∈ t.rows.map key then t.rows.map key else t.rows.map key++[key r]).length := by
    rw [← keys_saveRow,List.length_map]
  rw [show (t.save r).rows = saveRow key t.rows r from rfl,hkeys]
  by_cases hnew : t.find (key r) = none
  · rw [if_neg (find_eq_none.mp hnew),if_pos hnew]
    simp
  · rw [if_pos (not_not.mp (mt find_eq_none.mpr hnew)),if_neg hnew]
    simp

@[simp] theorem find_remove (t : Table key) (k k' : κ) :
    (t.remove k).find k' = if k' = k then none else t.find k' := by
  unfold remove discard find
  rw [List.find?_filter]
  by_cases hk : k' = k
  · rw [if_pos hk,List.find?_eq_none]
    intro r _
    simp [hk]
  · rw [if_neg hk]
    congr 1
    funext r
    by_cases hr : key r = k'
    · simp [hr,hk]
    · simp [hr]

/-- Saving several rows keeps the rows under other keys. -/
theorem find_saveAll_of_notMem {t : Table key} {rows : List ρ} {k : κ} (hk : k ∉ rows.map key) :
    (rows.foldl save t).find k = t.find k := by
  induction rows generalizing t with
  | nil => rfl
  | cons r rows ih =>
    rw [List.map_cons,List.mem_cons,not_or] at hk
    rw [List.foldl_cons,ih hk.2,find_save,if_neg (fun he => hk.1 he.symm)]

theorem find_saveAll_of_mem {t : Table key} {rows : List ρ} (hdistinct : (rows.map key).Nodup)
    {r : ρ} (hr : r ∈ rows) : (rows.foldl save t).find (key r) = some r := by
  induction rows generalizing t with
  | nil => cases hr
  | cons x rows ih =>
    rw [List.map_cons,List.nodup_cons] at hdistinct
    rw [List.foldl_cons]
    rcases List.mem_cons.mp hr with rfl | hmem
    · rw [find_saveAll_of_notMem hdistinct.1,find_save,if_pos rfl]
    · exact ih hdistinct.2 hmem

/-- Saving rows that are equal up to `f` keeps the tables equal up to `f`. -/
theorem map_save_congr {f : ρ → ρ} (hkey : ∀ r,key (f r) = key r) {t u : Table key} {r r' : ρ}
    (ht : t.rows.map f = u.rows.map f) (hr : f r = f r') :
    (t.save r).rows.map f = (u.save r').rows.map f := by
  have hsave := map_saveRow hkey
  simp only [save,hsave,ht,hr]

theorem map_saveAll_congr {f g g' : ρ → ρ} (hkey : ∀ r,key (f r) = key r)
    (hg : ∀ r,f (g r) = f (g' r)) (rows : List ρ) {t u : Table key}
    (ht : t.rows.map f = u.rows.map f) :
    ((rows.map g).foldl save t).rows.map f = ((rows.map g').foldl save u).rows.map f := by
  induction rows generalizing t u with
  | nil => exact ht
  | cons r rows ih => exact ih (map_save_congr hkey ht (hg r))

/-- The table of the images of the rows, under the same keys. -/
def mapRows (f : ρ → ρ) (hkey : ∀ r,key (f r) = key r) (t : Table key) : Table key :=
  ⟨t.rows.map f,by
    have hkeys : (t.rows.map f).map key = t.rows.map key := by
      rw [List.map_map]
      exact List.map_congr_left (fun r _ => hkey r)
    rw [hkeys]
    exact t.distinct⟩

section MapRows
variable {f : ρ → ρ} (hkey : ∀ r,key (f r) = key r)

theorem find_mapRows (t : Table key) (k : κ) : (t.mapRows f hkey).find k = (t.find k).map f := by
  unfold find mapRows
  rw [List.find?_map]
  congr 2
  funext r
  simp [hkey]

theorem mapRows_save (t : Table key) (r : ρ) :
    (t.save r).mapRows f hkey = (t.mapRows f hkey).save (f r) := by
  simp only [mapRows,save,map_saveRow hkey]

end MapRows

private theorem map_saveRow_of_find {ι : Type} {f : ρ → ι} {rows : List ρ} {r r' : ρ}
    (hfind : rows.find? (fun x => key x = key r') = some r) (hf : f r' = f r) :
    (saveRow key rows r').map f = rows.map f := by
  induction rows with
  | nil => cases hfind
  | cons x xs ih =>
    by_cases hx : key x = key r'
    · rw [List.find?_cons_of_pos (by simpa using hx)] at hfind
      rw [saveRow,if_pos hx,List.map_cons,List.map_cons,hf,Option.some.inj hfind]
    · rw [List.find?_cons_of_neg (by simpa using hx)] at hfind
      rw [saveRow,if_neg hx,List.map_cons,List.map_cons,ih hfind]

/-- Replacing a row by one with the same image keeps the images. -/
theorem map_save_of_find {ι : Type} {f : ρ → ι} {t : Table key} {r r' : ρ}
    (hfind : t.find (key r') = some r) (hf : f r' = f r) : (t.save r').rows.map f = t.rows.map f :=
  map_saveRow_of_find hfind hf

/-- Rows are added under new keys, or replaced by a row that they may change into. -/
inductive Writes (New : ρ → Prop) (Change : ρ → ρ → Prop) (t : Table key) : Table key → Prop
  | refl : Writes New Change t t
  | insert {u : Table key} (h : Writes New Change t u) {r : ρ} (hkey : u.find (key r) = none)
      (hnew : New r) : Writes New Change t (u.save r)
  | update {u : Table key} (h : Writes New Change t u) {r r' : ρ} (hfind : u.find (key r') = some r)
      (hchange : Change r r') : Writes New Change t (u.save r')

section Writes
variable {New : ρ → Prop} {Change : ρ → ρ → Prop} {t u v : Table key}

theorem Writes.trans (h : Writes New Change t u) (h' : Writes New Change u v) :
    Writes New Change t v := by
  induction h' with
  | refl => exact h
  | insert _ hkey hnew ih => exact ih.insert hkey hnew
  | update _ hfind hchange ih => exact ih.update hfind hchange

theorem Writes.mono {New' : ρ → Prop} {Change' : ρ → ρ → Prop} (h : Writes New Change t u)
    (hmono : ∀ r r',Change r r' → Change' r r') (hadded : ∀ r,New r → New' r) :
    Writes New' Change' t u := by
  induction h with
  | refl => exact .refl
  | insert _ hkey hnew ih => exact ih.insert hkey (hadded _ hnew)
  | update _ hfind hchange ih => exact ih.update hfind (hmono _ _ hchange)

/-- No row is lost, and each has changed step by step. -/
theorem Writes.related {R : ρ → ρ → Prop} (hrefl : ∀ r,R r r)
    (htrans : ∀ r r' r'',R r r' → R r' r'' → R r r'') (hchange : ∀ r r',Change r r' → R r r')
    (h : Writes New Change t u) {k : κ} {r : ρ} (hfind : t.find k = some r) :
    ∃ r',u.find k = some r' ∧ R r r' := by
  induction h with
  | refl => exact ⟨r,hfind,hrefl r⟩
  | @insert u _ x hkey _ ih =>
    obtain ⟨r',hr',hrel⟩ := ih
    refine ⟨r',?_,hrel⟩
    have hne : key x ≠ k := by
      rintro rfl
      rw [hkey] at hr'
      cases hr'
    rw [find_save,if_neg hne]
    exact hr'
  | @update u _ x x' hx hxx' ih =>
    obtain ⟨r',hr',hrel⟩ := ih
    by_cases hk : key x' = k
    · subst hk
      rw [hx] at hr'
      obtain rfl := Option.some.inj hr'
      exact ⟨x',by rw [find_save,if_pos rfl],htrans _ _ _ hrel (hchange _ _ hxx')⟩
    · exact ⟨r',by rw [find_save,if_neg hk]; exact hr',hrel⟩

/-- What holds of new rows and survives every change holds of all rows. -/
theorem Writes.invariant {I : ρ → Prop} (hnew : ∀ r,New r → I r)
    (hchange : ∀ r r',I r → Change r r' → I r') (h : Writes New Change t u)
    (h0 : ∀ r ∈ t.rows,I r) : ∀ r ∈ u.rows,I r := by
  induction h with
  | refl => exact h0
  | insert _ _ hx ih =>
    intro r hr
    rcases mem_save.mp hr with rfl | ⟨hold,-⟩
    · exact hnew _ hx
    · exact ih r hold
  | update _ hfind hx ih =>
    intro r hr
    rcases mem_save.mp hr with rfl | ⟨hold,-⟩
    · exact hchange _ _ (ih _ (mem_of_find hfind)) hx
    · exact ih r hold

/-- Several rows with different keys are changed one after another. -/
theorem Writes.updateAll {f : ρ → ρ} (hkey : ∀ r,key (f r) = key r) (h : Writes New Change t u)
    {rows : List ρ} (hdistinct : (rows.map key).Nodup) (hrows : ∀ r ∈ rows,u.find (key r) = some r)
    (hchange : ∀ r ∈ rows,Change r (f r)) :
    Writes New Change t ((rows.map f).foldl save u) := by
  induction rows generalizing u with
  | nil => exact h
  | cons r rows ih =>
    rw [List.map_cons,List.nodup_cons] at hdistinct
    have hfirst : Writes New Change t (u.save (f r)) :=
      h.update (by rw [hkey]; exact hrows r List.mem_cons_self) (hchange r List.mem_cons_self)
    refine ih hfirst hdistinct.2 ?_ (fun x hx => hchange x (List.mem_cons_of_mem r hx))
    intro x hx
    have hne : key (f r) ≠ key x := by
      rw [hkey]
      exact fun he => hdistinct.1 (he ▸ List.mem_map_of_mem hx)
    rw [find_save,if_neg hne]
    exact hrows x (List.mem_cons_of_mem r hx)

/-- Without new rows the keys stay. -/
theorem Writes.keys (h : Writes (fun _ => False) Change t u) : u.rows.map key = t.rows.map key := by
  induction h with
  | refl => rfl
  | insert _ _ hnew _ => exact hnew.elim
  | @update u _ x x' hfind _ ih =>
    have hmem : key x' ∈ u.rows.map key :=
      List.mem_map.mpr ⟨x,mem_of_find hfind,key_of_find hfind⟩
    rw [← ih]
    change (saveRow key u.rows x').map key = u.rows.map key
    rw [keys_saveRow,if_pos hmem]

end Writes

section Adds
variable {t u : Table key} {r r' : ρ}

/-- One row is new, and the others are the rows before. -/
def Adds (t u : Table key) (r : ρ) : Prop := r ∉ t.rows ∧ ∀ x,x ∈ u.rows ↔ x ∈ t.rows ∨ x = r

theorem adds_save (h : t.find (key r) = none) : t.Adds (t.save r) r := by
  have hkey : ∀ x ∈ t.rows,key x ≠ key r := by
    intro x hx he
    rw [← he,find_of_mem hx] at h
    cases h
  refine ⟨fun hr => hkey r hr rfl,?_⟩
  intro x
  rw [mem_save,or_comm]
  exact or_congr_left ⟨And.left,fun hx => ⟨hx,hkey x hx⟩⟩

/-- Saving a row adds one only under a new key. -/
theorem Adds.find_eq_none (h : t.Adds (t.save r) r') : t.find (key r) = none := by
  cases hfind : t.find (key r) with
  | none => rfl
  | some old =>
    have hold := mem_of_find hfind
    -- the old row is still there, so it is the saved one
    have hsame : old = r := by
      rcases mem_save.mp ((h.2 old).mpr (.inl hold)) with heq | ⟨-,hne⟩
      · exact heq
      · exact absurd (key_of_find hfind) hne
    rcases mem_save.mp ((h.2 r').mpr (.inr rfl)) with rfl | ⟨hmem,-⟩
    · exact absurd (hsame ▸ hold) h.1
    · exact absurd hmem h.1

end Adds

section Identifies
variable {ι : Type} {f : ρ → Option ι} {t u : Table key}

/-- A row is determined by its `f`, where it has one. -/
def Identifies (f : ρ → Option ι) (t : Table key) : Prop :=
  ∀ r ∈ t.rows,∀ r' ∈ t.rows,∀ v,f r = some v → f r' = some v → r = r'

omit [DecidableEq κ] in
theorem identifies_empty : (empty : Table key).Identifies f := fun _ hr => absurd hr List.not_mem_nil

theorem Identifies.key_eq (h : t.Identifies f) {k k' : κ} {v : ι} (hk : (t.find k).bind f = some v)
    (hk' : (t.find k').bind f = some v) : k = k' := by
  obtain ⟨r,hr,hv⟩ := Option.bind_eq_some_iff.mp hk
  obtain ⟨r',hr',hv'⟩ := Option.bind_eq_some_iff.mp hk'
  rw [← key_of_find hr,← key_of_find hr',h r (mem_of_find hr) r' (mem_of_find hr') v hv hv']

/-- A row may be saved when no row under another key has its `f`. -/
theorem Identifies.save (h : t.Identifies f) {r : ρ}
    (hr : ∀ x ∈ t.rows,key x ≠ key r → ∀ v,f r = some v → f x ≠ some v) :
    (t.save r).Identifies f := by
  intro x hx y hy v hxv hyv
  rcases mem_save.mp hx with rfl | ⟨hxold,hxkey⟩
  · rcases mem_save.mp hy with rfl | ⟨hyold,hykey⟩
    · rfl
    · exact absurd hyv (hr y hyold hykey v hxv)
  · rcases mem_save.mp hy with rfl | ⟨hyold,hykey⟩
    · exact absurd hxv (hr x hxold hxkey v hyv)
    · exact h x hxold y hyold v hxv hyv

/-- A row may be replaced by one with the same key and the same `f`. -/
theorem Identifies.save_same (h : t.Identifies f) {r r' : ρ} (hmem : r ∈ t.rows)
    (hkey : key r' = key r) (hf : f r' = f r) : (t.save r').Identifies f := by
  apply h.save
  intro x hx hne v hv hxv
  rw [hf] at hv
  rw [h x hx r hmem v hxv hv,hkey] at hne
  exact hne rfl

/-- What depends on the key alone holds as long as the keys stay. -/
theorem Identifies.of_keys {g : κ → Option ι} (h : t.Identifies (fun r => g (key r)))
    (hkeys : u.rows.map key = t.rows.map key) : u.Identifies (fun r => g (key r)) := by
  have hold : ∀ r ∈ u.rows,∃ x ∈ t.rows,key x = key r := by
    intro r hr
    have hmem : key r ∈ u.rows.map key := List.mem_map_of_mem hr
    rw [hkeys] at hmem
    exact List.mem_map.mp hmem
  intro r hr r' hr' v hv hv'
  dsimp only at hv hv'
  obtain ⟨x,hx,hkey⟩ := hold r hr
  obtain ⟨x',hx',hkey'⟩ := hold r' hr'
  rw [← hkey] at hv
  rw [← hkey'] at hv'
  have hsame : x = x' := h x hx x' hx' v hv hv'
  have hfind := find_of_mem hr
  rw [← hkey,hsame,hkey',find_of_mem hr'] at hfind
  exact (Option.some.inj hfind).symm

end Identifies

end Table
end BelLedger.KeyedTables
