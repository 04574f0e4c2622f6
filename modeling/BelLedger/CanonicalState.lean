import BelLedger.CodeUnits
import BelLedger.DelimitedTexts
import BelLedger.EvidenceIntegrity
import BelLedger.Utf8Texts
import Mathlib.Data.List.Lex
import Mathlib.Data.List.Sort

/-!
# The hash of a flat record

`canonicalStateHash` hashes the JSON text of a record whose keys it has sorted. The engine lists keys
that are array indices before all others.
-/
namespace BelLedger
open KeyedTables DelimitedTexts

inductive FlatValue
  | undefined
  | null
  | string (s : CodeUnits)
  deriving DecidableEq

/-- The own properties of an object in the order in which they were added. -/
abbrev FlatRecord := Table (Prod.fst : CodeUnits × FlatValue → CodeUnits)

/-- `String(n)` -/
def decimalUnits (n : ℕ) : CodeUnits := (Nat.toDigits 10 n).map (fun c => UInt16.ofNat c.toNat)

def indexValue (key : CodeUnits) : ℕ := key.foldl (fun n u => 10 * n + (u.toNat - 48)) 0

/-- The key is the decimal text of a number below 2³² - 1. -/
def isArrayIndex (key : CodeUnits) : Bool :=
  key == decimalUnits (indexValue key) && indexValue key < 4294967295

def protoKey : CodeUnits := utf16 "__proto__"

namespace FlatRecord

def keys (r : FlatRecord) : List CodeUnits := r.rows.map Prod.fst

/-- The value of an own property, undefined where there is none. -/
def valueAt (r : FlatRecord) (key : CodeUnits) : FlatValue :=
  ((r.find key).map Prod.snd).getD .undefined

/-- `r[key] = value`; the accessor `__proto__` of an object adds no property. -/
def assign (r : FlatRecord) (key : CodeUnits) (value : FlatValue) : FlatRecord :=
  if key = protoKey then r else r.save (key,value)

/-- `Object.keys(r)`: array indices in ascending order, then the other keys as they were added. -/
def ownKeys (r : FlatRecord) : List CodeUnits :=
  (r.keys.filter isArrayIndex).insertionSort (fun a b => indexValue a ≤ indexValue b)++
    r.keys.filter (fun key => !isArrayIndex key)

end FlatRecord

/-- The order of `sort()`: by code units. -/
def UnitsLe (a b : CodeUnits) : Prop := a.map UInt16.toNat ≤ b.map UInt16.toNat

instance : DecidableRel UnitsLe := fun a b =>
  inferInstanceAs (Decidable (a.map UInt16.toNat ≤ b.map UInt16.toNat))

/-- `UnicodeEscape` -/
def unicodeEscape (n : ℕ) : List Char := '\\' :: 'u' :: paddedHex 4 n

def quoteChar (c : Char) : List Char :=
  match c with
  | '\x08' => ['\\','b']
  | '\t' => ['\\','t']
  | '\n' => ['\\','n']
  | '\x0c' => ['\\','f']
  | '\r' => ['\\','r']
  | '"' => ['\\','"']
  | '\\' => ['\\','\\']
  | c => if c.toNat < 0x20 then unicodeEscape c.toNat else [c]

/-- A code point as `QuoteJSONString` writes it. -/
def quotePoint : CodePoint → List Char
  | .surrogate u => unicodeEscape u.toNat
  | .scalar c => quoteChar c

/-- `QuoteJSONString` -/
def quoteJson (s : CodeUnits) : List Char := '"' :: ((codePoints s).flatMap quotePoint++['"'])

/-- `SerializeJSONProperty`; a property without a value has no text. -/
def serializeProperty : FlatValue → Option (List Char)
  | .undefined => none
  | .null => some "null".toList
  | .string s => some (quoteJson s)

def serializeMember (r : FlatRecord) (key : CodeUnits) : Option (List Char) :=
  (serializeProperty (r.valueAt key)).map (fun text => quoteJson key++(':' :: text))

/-- `JSON.stringify(r)` -/
def stringify (r : FlatRecord) : List Char :=
  '{' :: ([','].intercalate (r.ownKeys.filterMap (serializeMember r))++['}'])

/-- The record that is hashed: the properties of the state added in the order of the sorted keys. -/
def canonicalState (state : FlatRecord) : FlatRecord :=
  (state.ownKeys.insertionSort UnitsLe).foldl
    (fun result key => result.assign key (state.valueAt key)) .empty

def canonicalText (state : FlatRecord) : String := String.ofList (stringify (canonicalState state))

def canonicalStateHash (sha256 : Bytes → Bytes32) (state : FlatRecord) : String :=
  hexText (sha256 (utf8 (canonicalText state)))

section Json

/-- A code point of a string: a surrogate stands alone. -/
def CodePoint.Proper : CodePoint → Prop
  | .surrogate u => isLeadSurrogate u = true ∨ isTrailSurrogate u = true
  | .scalar _ => True

private theorem proper_ofUnit (u : UInt16) : (CodePoint.ofUnit u).Proper := by
  unfold CodePoint.ofUnit
  split
  · assumption
  · trivial

theorem proper_of_mem_codePoints {s : CodeUnits} {p : CodePoint} (hp : p ∈ codePoints s) :
    p.Proper := by
  induction s using codePoints.induct with
  | case1 => cases hp
  | case2 u =>
    obtain rfl := List.mem_singleton.mp hp
    exact proper_ofUnit u
  | case3 u v us hpair ih =>
    rw [codePoints,if_pos hpair] at hp
    rcases List.mem_cons.mp hp with rfl | hp
    · trivial
    · exact ih hp
  | case4 u v us hpair ih =>
    rw [codePoints,if_neg hpair] at hp
    rcases List.mem_cons.mp hp with rfl | hp
    · exact proper_ofUnit u
    · exact ih hp

/-- Reads an escape after its backslash. -/
private def readEscape : List Char → Option (CodePoint × List Char)
  | 'b' :: rest => some (.scalar '\x08',rest)
  | 't' :: rest => some (.scalar '\t',rest)
  | 'n' :: rest => some (.scalar '\n',rest)
  | 'f' :: rest => some (.scalar '\x0c',rest)
  | 'r' :: rest => some (.scalar '\r',rest)
  | 'u' :: a::b::c::d::rest => some (.ofUnit (UInt16.ofNat (hexValue [a,b,c,d])),rest)
  | c::rest => some (.scalar c,rest)
  | [] => none

private def readPoint : List Char → Option (CodePoint × List Char)
  | [] => none
  | c::rest => if c = '\\' then readEscape rest else some (.scalar c,rest)

private theorem readPoint_unicodeEscape {n : ℕ} (h : n < 65536) (x : List Char) :
    readPoint (unicodeEscape n++x) = some (.ofUnit (UInt16.ofNat n),x) := by
  have hvalue := hexValue_paddedHex 4 n
  rw [Nat.mod_eq_of_lt (by omega)] at hvalue
  change some (CodePoint.ofUnit (UInt16.ofNat (hexValue (paddedHex 4 n))),x) = _
  rw [hvalue]

private theorem ofUnit_control {c : Char} (h : c.toNat < 0x20) :
    CodePoint.ofUnit (UInt16.ofNat c.toNat) = .scalar c := by
  have htoNat : (UInt16.ofNat c.toNat).toNat = c.toNat := by
    simp only [UInt16.toNat_ofNat',Nat.reducePow]
    omega
  rw [CodePoint.ofUnit,htoNat,Char.ofNat_toNat,if_neg]
  simp only [isLeadSurrogate,isTrailSurrogate,htoNat,Bool.and_eq_true,decide_eq_true_eq]
  omega

private theorem readPoint_quoteChar (c : Char) (x : List Char) :
    readPoint (quoteChar c++x) = some (.scalar c,x) := by
  unfold quoteChar
  split
  · rfl
  · rfl
  · rfl
  · rfl
  · rfl
  · rfl
  · rfl
  · rename_i hslash
    split
    · rename_i hcontrol
      rw [readPoint_unicodeEscape (by omega),ofUnit_control hcontrol]
    · rw [List.singleton_append,readPoint,if_neg hslash]

/-- A code point is read back from what is written for it. -/
private theorem readPoint_quotePoint {p : CodePoint} (hp : p.Proper) (x : List Char) :
    readPoint (quotePoint p++x) = some (p,x) := by
  cases p with
  | surrogate u =>
    have hunit : CodePoint.ofUnit u = .surrogate u := if_pos hp
    rw [quotePoint,readPoint_unicodeEscape u.toNat_lt,UInt16.ofNat_toNat,hunit]
  | scalar c => exact readPoint_quoteChar c x

theorem delimits_quotePoint : Delimits CodePoint.Proper quotePoint :=
  delimits_of_read (fun _ x hp => readPoint_quotePoint hp x)

private theorem unicodeEscape_startsUnlike (n : ℕ) : StartsUnlike '"' (unicodeEscape n) :=
  ⟨'\\',_,rfl,by decide⟩

private theorem quotePoint_startsUnlike (p : CodePoint) : StartsUnlike '"' (quotePoint p) := by
  cases p with
  | surrogate u => exact unicodeEscape_startsUnlike _
  | scalar c =>
    rw [quotePoint,quoteChar.eq_def]
    split
    · exact ⟨'\\',_,rfl,by decide⟩
    · exact ⟨'\\',_,rfl,by decide⟩
    · exact ⟨'\\',_,rfl,by decide⟩
    · exact ⟨'\\',_,rfl,by decide⟩
    · exact ⟨'\\',_,rfl,by decide⟩
    · exact ⟨'\\',_,rfl,by decide⟩
    · exact ⟨'\\',_,rfl,by decide⟩
    · rename_i hquote _
      split
      · exact unicodeEscape_startsUnlike _
      · exact ⟨c,_,rfl,hquote⟩

/-- A quoted string ends where its closing quote stands. -/
theorem delimits_quoteJson : Delimits (fun _ => True) quoteJson := by
  intro s s' x y _ _ h
  have hbody : Delimits (fun points => ∀ p ∈ points,p.Proper)
      (fun points : List CodePoint => points.flatMap quotePoint++['"']) :=
    delimits_quotePoint.closed (fun p _ => quotePoint_startsUnlike p)
  have hproper : ∀ s p,p ∈ codePoints s → p.Proper := fun s p hp => proper_of_mem_codePoints hp
  obtain ⟨hpoints,hxy⟩ := hbody (codePoints s) (codePoints s') x y (hproper s) (hproper s')
    (List.cons.inj h).2
  exact ⟨codePoints_injective hpoints,hxy⟩

/-- The text of a property that has a value. -/
def memberText (member : CodeUnits × FlatValue) : List Char :=
  quoteJson member.1++(':' :: (serializeProperty member.2).getD [])

private theorem delimits_serializeProperty :
    Delimits (fun value => value ≠ FlatValue.undefined)
      (fun value => (serializeProperty value).getD []) := by
  intro value value' x y hvalue hvalue' h
  cases value with
  | undefined => exact absurd rfl hvalue
  | null =>
    cases value' with
    | undefined => exact absurd rfl hvalue'
    | null => exact ⟨rfl,List.append_cancel_left h⟩
    | string s' => cases (List.cons.inj h).1
  | string s =>
    cases value' with
    | undefined => exact absurd rfl hvalue'
    | null => cases (List.cons.inj h).1
    | string s' =>
      obtain ⟨rfl,hxy⟩ := delimits_quoteJson s s' x y trivial trivial h
      exact ⟨rfl,hxy⟩

theorem delimits_memberText : Delimits (fun member => member.2 ≠ FlatValue.undefined) memberText := by
  intro member member' x y h h'
  exact delimits_quoteJson.pair (delimits_serializeProperty.cons ':') member member' x y
    ⟨trivial,h⟩ ⟨trivial,h'⟩

end Json

section Records
variable {r r' : FlatRecord}

/-- The properties with a value, in the order in which they are written. -/
def FlatRecord.members (r : FlatRecord) : List (CodeUnits × FlatValue) :=
  (r.ownKeys.map (fun key => (key,r.valueAt key))).filter (fun member => member.2 ≠ .undefined)

theorem stringify_eq (r : FlatRecord) :
    stringify r = '{' :: ([','].intercalate (r.members.map memberText)++['}']) := by
  have htexts : ∀ keys : List CodeUnits,keys.filterMap (serializeMember r) =
      ((keys.map (fun key => (key,r.valueAt key))).filter
        (fun member => member.2 ≠ .undefined)).map memberText := by
    intro keys
    induction keys with
    | nil => rfl
    | cons key keys ih =>
      rw [List.map_cons,List.filterMap_cons,serializeMember]
      cases hvalue : r.valueAt key with
      | undefined => simpa [serializeProperty] using ih
      | null => simpa [serializeProperty,memberText] using ih
      | string s => simpa [serializeProperty,memberText] using ih
  rw [stringify,htexts]
  rfl

theorem members_defined {member : CodeUnits × FlatValue} (h : member ∈ r.members) :
    member.2 ≠ .undefined := by
  simpa using List.of_mem_filter h

/-- The members are determined by the text. -/
theorem members_eq_of_stringify (h : stringify r = stringify r') : r.members = r'.members := by
  rw [stringify_eq,stringify_eq] at h
  have hdelimits : Delimits (fun members => ∀ member ∈ members,member.2 ≠ FlatValue.undefined)
      (fun members : List (CodeUnits × FlatValue) =>
        [','].intercalate (members.map memberText)++['}']) :=
    delimits_memberText.separated (by decide) (fun member _ => ⟨'"',_,rfl,by decide⟩)
  apply (hdelimits r.members r'.members [] [] _ _ _).1
  · exact fun member hmember => members_defined hmember
  · exact fun member hmember => members_defined hmember
  · dsimp only
    rw [(List.cons.inj h).2]

theorem valueAt_of_mem {member : CodeUnits × FlatValue} (h : member ∈ r.rows) :
    r.valueAt member.1 = member.2 := by
  rw [FlatRecord.valueAt,Table.find_of_mem h]
  rfl

theorem valueAt_eq_undefined {key : CodeUnits} (h : key ∉ r.keys) : r.valueAt key = .undefined := by
  rw [FlatRecord.valueAt,Table.find_eq_none.mpr h]
  rfl

theorem mem_keys_of_valueAt {key : CodeUnits} (h : r.valueAt key ≠ .undefined) : key ∈ r.keys := by
  by_contra hkey
  exact h (valueAt_eq_undefined hkey)

theorem ownKeys_perm (r : FlatRecord) : r.ownKeys.Perm r.keys := by
  apply ((List.perm_insertionSort _ _).append_right _).trans
  exact List.filter_append_perm _ _

/-- Properties that are all new are added behind the others. -/
theorem rows_foldl_assign {value : CodeUnits → FlatValue} {keys : List CodeUnits}
    (hnodup : keys.Nodup) (hnew : ∀ key ∈ keys,key ∉ r.keys) (hproto : protoKey ∉ keys) :
    (keys.foldl (fun result key => FlatRecord.assign result key (value key)) r).rows =
      r.rows++keys.map (fun key => (key,value key)) := by
  induction keys generalizing r with
  | nil => simp
  | cons key keys ih =>
    rw [List.nodup_cons] at hnodup
    rw [List.mem_cons,not_or] at hproto
    have hrow : (r.assign key (value key)).rows = r.rows++[(key,value key)] := by
      rw [FlatRecord.assign,if_neg (fun he => hproto.1 he.symm)]
      exact saveRow_of_notMem (hnew key List.mem_cons_self)
    have hkeys : (r.assign key (value key)).keys = r.keys++[key] := by
      simp [FlatRecord.keys,hrow]
    rw [List.foldl_cons,ih hnodup.2 _ hproto.2,hrow]
    · simp
    · intro k hk
      rw [hkeys,List.mem_append,List.mem_singleton,not_or]
      refine ⟨hnew k (List.mem_cons_of_mem _ hk),?_⟩
      rintro rfl
      exact hnodup.1 hk

/-- The canonical record has the properties of the state, in the order of the sorted keys. -/
theorem rows_canonicalState (hproto : protoKey ∉ r.keys) :
    (canonicalState r).rows =
      (r.ownKeys.insertionSort UnitsLe).map (fun key => (key,r.valueAt key)) := by
  have hperm : (r.ownKeys.insertionSort UnitsLe).Perm r.keys :=
    (List.perm_insertionSort _ _).trans (ownKeys_perm r)
  exact rows_foldl_assign (hperm.nodup_iff.mpr r.distinct) (fun _ _ => List.not_mem_nil)
    (fun hmem => hproto (hperm.mem_iff.mp hmem))

theorem keys_canonicalState (hproto : protoKey ∉ r.keys) :
    (canonicalState r).keys = r.ownKeys.insertionSort UnitsLe := by
  rw [FlatRecord.keys,rows_canonicalState hproto,List.map_map]
  exact List.map_id _

theorem keys_canonicalState_perm (hproto : protoKey ∉ r.keys) :
    (canonicalState r).keys.Perm r.keys := by
  rw [keys_canonicalState hproto]
  exact (List.perm_insertionSort _ _).trans (ownKeys_perm r)

theorem valueAt_canonicalState (hproto : protoKey ∉ r.keys) (key : CodeUnits) :
    (canonicalState r).valueAt key = r.valueAt key := by
  have hperm := keys_canonicalState_perm hproto
  by_cases hkey : key ∈ r.keys
  · have hmem : (key,r.valueAt key) ∈ (canonicalState r).rows := by
      rw [rows_canonicalState hproto]
      apply List.mem_map_of_mem
      rw [← keys_canonicalState hproto]
      exact hperm.mem_iff.mpr hkey
    exact valueAt_of_mem hmem
  · rw [valueAt_eq_undefined hkey,valueAt_eq_undefined (mt hperm.mem_iff.mp hkey)]

theorem mem_members {member : CodeUnits × FlatValue} :
    member ∈ r.members ↔ member.2 ≠ .undefined ∧ r.valueAt member.1 = member.2 := by
  obtain ⟨key,value⟩ := member
  simp only [FlatRecord.members,List.mem_filter,List.mem_map,Prod.mk.injEq,decide_eq_true_eq]
  constructor
  · rintro ⟨⟨k,-,rfl,rfl⟩,hvalue⟩
    exact ⟨hvalue,rfl⟩
  · rintro ⟨hvalue,rfl⟩
    exact ⟨⟨key,(ownKeys_perm r).mem_iff.mpr (mem_keys_of_valueAt hvalue),rfl,rfl⟩,hvalue⟩

theorem members_nodup (r : FlatRecord) : r.members.Nodup := by
  apply List.Nodup.filter
  apply List.Nodup.map (fun a b h => (Prod.mk.inj h).1)
  exact (ownKeys_perm r).nodup_iff.mpr r.distinct

end Records

section Order

/-- The order in which the properties of a canonical record are written. -/
def WrittenBefore (a b : CodeUnits) : Prop :=
  if isArrayIndex a then isArrayIndex b = true → indexValue a ≤ indexValue b
  else isArrayIndex b = false ∧ UnitsLe a b

theorem unitsLe_antisymm {a b : CodeUnits} (h : UnitsLe a b) (h' : UnitsLe b a) : a = b :=
  List.map_injective_iff.mpr (fun _ _ he => UInt16.toNat_inj.mp he) (le_antisymm (α := List ℕ) h h')

theorem eq_decimalUnits {key : CodeUnits} (h : isArrayIndex key = true) :
    key = decimalUnits (indexValue key) := by
  rw [isArrayIndex,Bool.and_eq_true] at h
  exact eq_of_beq h.1

theorem writtenBefore_antisymm {a b : CodeUnits} (h : WrittenBefore a b) (h' : WrittenBefore b a) :
    a = b := by
  unfold WrittenBefore at h h'
  by_cases ha : isArrayIndex a = true
  · rw [if_pos ha] at h
    by_cases hb : isArrayIndex b = true
    · rw [if_pos hb] at h'
      rw [eq_decimalUnits ha,eq_decimalUnits hb,le_antisymm (h hb) (h' ha)]
    · rw [if_neg hb,ha] at h'
      cases h'.1
  · rw [if_neg ha] at h
    rw [if_neg (by rw [h.1]; decide)] at h'
    exact unitsLe_antisymm h.2 h'.2

instance : Std.Total UnitsLe := ⟨fun a b => le_total (a.map UInt16.toNat) (b.map UInt16.toNat)⟩

instance : IsTrans CodeUnits UnitsLe := ⟨fun _ _ _ h h' => le_trans h h'⟩

/-- Object.keys() lists sorted keys in the order of writing. -/
theorem ownKeys_pairwise {r : FlatRecord} (h : r.keys.Pairwise UnitsLe) :
    r.ownKeys.Pairwise WrittenBefore := by
  have htotal : Std.Total (fun a b : CodeUnits => indexValue a ≤ indexValue b) :=
    ⟨fun a b => le_total (indexValue a) (indexValue b)⟩
  have htrans : IsTrans CodeUnits (fun a b => indexValue a ≤ indexValue b) :=
    ⟨fun _ _ _ h h' => le_trans h h'⟩
  unfold FlatRecord.ownKeys
  rw [List.pairwise_append]
  refine ⟨?_,?_,?_⟩
  · apply (List.pairwise_insertionSort _ _).imp_of_mem
    intro a b ha _ hle
    rw [List.mem_insertionSort,List.mem_filter] at ha
    rw [WrittenBefore,if_pos ha.2]
    exact fun _ => hle
  · apply (h.filter _).imp_of_mem
    intro a b ha hb hle
    simp only [List.mem_filter,Bool.not_eq_true'] at ha hb
    rw [WrittenBefore,if_neg (by rw [ha.2]; decide)]
    exact ⟨hb.2,hle⟩
  · intro a ha b hb
    rw [List.mem_insertionSort,List.mem_filter] at ha
    simp only [List.mem_filter,Bool.not_eq_true'] at hb
    rw [WrittenBefore,if_pos ha.2,hb.2]
    nofun

theorem members_pairwise {r : FlatRecord} (h : r.keys.Pairwise UnitsLe) :
    r.members.Pairwise (fun member member' => WrittenBefore member.1 member'.1) := by
  apply List.Pairwise.filter
  rw [List.pairwise_map]
  exact ownKeys_pairwise h

end Order

section Canonical
variable {r r' : FlatRecord}

theorem mem_members_canonicalState (hproto : protoKey ∉ r.keys) {member : CodeUnits × FlatValue} :
    member ∈ (canonicalState r).members ↔
      member.2 ≠ .undefined ∧ r.valueAt member.1 = member.2 := by
  rw [mem_members,valueAt_canonicalState hproto]

/-- Two records are written alike when they have the same values. -/
theorem members_canonicalState_eq_iff (hproto : protoKey ∉ r.keys) (hproto' : protoKey ∉ r'.keys) :
    (canonicalState r).members = (canonicalState r').members ↔
      ∀ key,r.valueAt key = r'.valueAt key := by
  constructor
  · intro h key
    have hiff : ∀ value : FlatValue,value ≠ .undefined →
        (r.valueAt key = value ↔ r'.valueAt key = value) := by
      intro value hvalue
      have hmem : (key,value) ∈ (canonicalState r).members ↔ value ≠ .undefined ∧
          r.valueAt key = value := mem_members_canonicalState hproto
      rw [h,mem_members_canonicalState hproto'] at hmem
      have hsame := and_congr_right_iff.mp hmem.symm hvalue
      exact hsame
    by_cases hvalue : r.valueAt key = .undefined
    · by_contra hne
      rw [hvalue] at hne
      exact hne (((hiff _ (Ne.symm hne)).mpr rfl).symm.trans hvalue).symm
    · exact ((hiff _ hvalue).mp rfl).symm
  · intro h
    have hsorted : ∀ state : FlatRecord,protoKey ∉ state.keys →
        (canonicalState state).keys.Pairwise UnitsLe := by
      intro state hstate
      rw [keys_canonicalState hstate]
      exact List.pairwise_insertionSort _ _
    have hperm : (canonicalState r).members.Perm (canonicalState r').members := by
      rw [List.perm_ext_iff_of_nodup (members_nodup _) (members_nodup _)]
      intro member
      rw [mem_members_canonicalState hproto,mem_members_canonicalState hproto',h]
    apply hperm.eq_of_pairwise _ (members_pairwise (hsorted r hproto))
      (members_pairwise (hsorted r' hproto'))
    intro member member' hmember hmember' hle hle'
    have hkey : member.1 = member'.1 := writtenBefore_antisymm hle hle'
    rw [mem_members_canonicalState hproto,h] at hmember
    rw [mem_members_canonicalState hproto'] at hmember'
    exact Prod.ext hkey (by rw [← hmember.2,hkey,hmember'.2])

/-- The hash is the same exactly for records with the same values, in whatever order their properties
were added. -/
theorem canonical_state_hash {sha256 : Bytes → Bytes32} (hproto : protoKey ∉ r.keys)
    (hproto' : protoKey ∉ r'.keys) (hsha : CollisionFree sha256 (utf8 (canonicalText r))) :
    canonicalStateHash sha256 r = canonicalStateHash sha256 r' ↔
      ∀ key,r.valueAt key = r'.valueAt key := by
  rw [← members_canonicalState_eq_iff hproto hproto']
  constructor
  · intro h
    have hdigest : sha256 (utf8 (canonicalText r')) = sha256 (utf8 (canonicalText r)) :=
      (hexText_injective h).symm
    have htext : canonicalText r' = canonicalText r := utf8_injective (hsha _ hdigest)
    exact members_eq_of_stringify (String.ofList_injective htext).symm
  · intro h
    rw [canonicalStateHash,canonicalStateHash,canonicalText,canonicalText,stringify_eq,stringify_eq,h]

end Canonical

section Prototype

def textValue (s : String) : FlatValue := .string (utf16 s)

/-- A state whose keys 9 and 10 are array indices. -/
def storedState : FlatRecord :=
  ⟨[(utf16 "status",textValue "ACTIVE"),(utf16 "10",textValue "x\"y"),(utf16 "9",.null),
    (utf16 "note",.undefined)],by decide +kernel⟩

/-- The same values, added in another order. -/
def reorderedState : FlatRecord :=
  ⟨[(utf16 "10",textValue "x\"y"),(utf16 "9",.null),(utf16 "status",textValue "ACTIVE")],
    by decide +kernel⟩

def suspendedState : FlatRecord :=
  ⟨[(utf16 "10",textValue "x\"y"),(utf16 "9",.null),(utf16 "status",textValue "SUSPENDED")],
    by decide +kernel⟩

example : canonicalText storedState =
    "\x7b\"9\":null,\"10\":\"x\\\"y\",\"status\":\"ACTIVE\"\x7d" := by decide +kernel

/-- SHA-256 of the text of `storedState`. -/
def stateSha256 (bytes : Bytes) : Bytes32 :=
  if bytes = utf8 (canonicalText storedState) then
    0x2e297a16f3f827d9a54ecd309f8e4e0a08d6475564e2945ca612cc6022e75086 else 0

private theorem stateSha256_collisionFree :
    CollisionFree stateSha256 (utf8 (canonicalText storedState)) := by
  intro other hother
  by_contra hne
  rw [stateSha256,stateSha256,if_neg hne,if_pos rfl] at hother
  exact absurd hother (by decide)

theorem canonical_state_hash_reordered :
    (∀ key,storedState.valueAt key = reorderedState.valueAt key) ∧
    canonicalStateHash stateSha256 storedState =
      "2e297a16f3f827d9a54ecd309f8e4e0a08d6475564e2945ca612cc6022e75086" ∧
    canonicalStateHash stateSha256 storedState ≠ canonicalStateHash stateSha256 suspendedState := by
  have hstored : protoKey ∉ storedState.keys := by decide +kernel
  refine ⟨?_,by decide +kernel,?_⟩
  · exact (canonical_state_hash hstored (by decide +kernel) stateSha256_collisionFree).mp
      (by decide +kernel)
  · intro h
    have hvalues := (canonical_state_hash hstored (by decide +kernel) stateSha256_collisionFree).mp h
    exact absurd (hvalues (utf16 "status")) (by decide +kernel)

end Prototype

end BelLedger
