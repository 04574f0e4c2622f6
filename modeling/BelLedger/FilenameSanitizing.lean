import BelLedger.CodeUnits
import BelLedger.EvidenceService

/-!
# The file name of a piece of evidence

The name is sanitized when evidence is uploaded and again when it is downloaded. Blanks are stripped
before the name is cut, so a cut may leave one at the end.
-/
namespace BelLedger
open EvidenceService

namespace EvidenceService

/-- `[\w.() -]` -/
def isFilenameChar (c : Char) : Bool := c.isAlphanum || ['_','.','(',')',' ','-'].contains c

/-- A code unit after both replacements. -/
def sanitizeUnit (u : UInt16) : Char :=
  if u.toNat < 128 ∧ isFilenameChar (Char.ofNat u.toNat) = true then Char.ofNat u.toNat else '_'

/-- `normalized` -/
def normalizedName (us : CodeUnits) : String := jsTrim (String.ofList (us.map sanitizeUnit))

def boundedName (normalized : String) : String :=
  if normalized = "" then "evidence" else String.ofList (normalized.toList.take 180)

/-- `sanitizeFilename` of any string, by its code units. -/
def sanitizeUnits (us : CodeUnits) : String := boundedName (normalizedName us)

theorem isFilenameChar_iff {c : Char} : isFilenameChar c = true ↔
    c.isAlphanum = true ∨ c ∈ ['_','.','(',')',' ','-'] := by
  rw [isFilenameChar,Bool.or_eq_true,List.contains_iff_mem]

theorem isFilenameChar_ascii {c : Char} (h : isFilenameChar c = true) : c.toNat < 128 := by
  rcases isFilenameChar_iff.mp h with h | h
  · rw [isAlphanum_iff,isAlpha_iff] at h
    omega
  · have hall : ['_','.','(',')',' ','-'].all (fun d => d.toNat < 128) = true := by decide
    exact of_decide_eq_true (List.all_eq_true.mp hall c h)

theorem sanitizeUnit_allowed (u : UInt16) : isFilenameChar (sanitizeUnit u) = true := by
  unfold sanitizeUnit
  split
  · rename_i h
    exact h.2
  · decide

/-- A character of a name is left as it is. -/
theorem sanitizeUnit_of_allowed {c : Char} (h : isFilenameChar c = true) :
    sanitizeUnit (UInt16.ofNat c.toNat) = c := by
  have hascii := isFilenameChar_ascii h
  have hunit : (UInt16.ofNat c.toNat).toNat = c.toNat := by
    simp only [UInt16.toNat_ofNat',Nat.reducePow]
    omega
  rw [sanitizeUnit,hunit,Char.ofNat_toNat,if_pos ⟨hascii,h⟩]

private theorem sanitizeUnit_high {u : UInt16} (h : 128 ≤ u.toNat) : sanitizeUnit u = '_' := by
  rw [sanitizeUnit,if_neg (by omega)]

/-- The replacements of a character are those of its code units. -/
private theorem sanitizeChar_eq (c : Char) : sanitizeChar c = (utf16Char c).map sanitizeUnit := by
  by_cases hallowed : isFilenameChar c = true
  · have hascii := isFilenameChar_ascii hallowed
    rw [sanitizeChar,if_pos (isFilenameChar_iff.mp hallowed),utf16Char,if_pos (by omega),
      List.map_singleton,sanitizeUnit_of_allowed hallowed]
  · rw [sanitizeChar,if_neg (fun h => hallowed (isFilenameChar_iff.mpr h)),utf16Char]
    have hlt : c.toNat < 0x110000 := by
      have := c.valid
      simp only [UInt32.isValidChar,Nat.isValidChar] at this
      change c.toNat < 0xd800 ∨ (0xdfff < c.toNat ∧ c.toNat < 0x110000) at this
      omega
    split
    · rename_i hbmp
      have hunit : (UInt16.ofNat c.toNat).toNat = c.toNat := by
        simp only [UInt16.toNat_ofNat',Nat.reducePow]
        omega
      rw [List.map_singleton,sanitizeUnit,hunit,Char.ofNat_toNat,if_neg (fun h => hallowed h.2)]
    · rename_i hastral
      have hlead : 128 ≤ (UInt16.ofNat (0xD800 + (c.toNat - 0x10000) / 0x400)).toNat := by
        simp only [UInt16.toNat_ofNat',Nat.reducePow]
        omega
      have htrail : 128 ≤ (UInt16.ofNat (0xDC00 + (c.toNat - 0x10000) % 0x400)).toNat := by
        simp only [UInt16.toNat_ofNat',Nat.reducePow]
        omega
      rw [List.map_cons,List.map_singleton,sanitizeUnit_high hlead,sanitizeUnit_high htrail]

/-- On a text the two agree. -/
theorem sanitizeFilename_eq (f : String) : sanitizeFilename f = sanitizeUnits (utf16 f) := by
  have hchars : f.toList.flatMap sanitizeChar = (utf16 f).map sanitizeUnit := by
    rw [utf16,List.map_flatMap]
    exact List.flatMap_congr (fun c _ => sanitizeChar_eq c)
  rw [sanitizeFilename,hchars]
  rfl

/-- Trimming takes nothing from either end. -/
private theorem trimmed_iff {name : String} : Trimmed name ↔
    name.toList.dropWhile isJsSpace = name.toList ∧
      name.toList.rdropWhile isJsSpace = name.toList := by
  constructor
  · intro h
    have hlist := congrArg String.toList h
    rw [jsTrim,String.toList_ofList] at hlist
    have hdrop : name.toList.dropWhile isJsSpace = name.toList := by
      apply (List.dropWhile_suffix isJsSpace).eq_of_length_le
      have hlength := (List.rdropWhile_prefix isJsSpace (name.toList.dropWhile isJsSpace)).length_le
      rw [hlist] at hlength
      exact hlength
    rw [hdrop] at hlist
    exact ⟨hdrop,hlist⟩
  · rintro ⟨hdrop,hrdrop⟩
    rw [Trimmed,jsTrim,hdrop,hrdrop,String.ofList_toList]

/-- What a name has to be: present, short, and of harmless characters. -/
structure SafeName (name : String) : Prop where
  present : name ≠ ""
  short : name.length ≤ 180
  allowed : ∀ c ∈ name.toList,isFilenameChar c = true

/-- The name without the blanks at both ends. -/
def stripBlanks (us : CodeUnits) : CodeUnits :=
  (us.dropWhile (fun u => u = 32)).rdropWhile (fun u => u = 32)

/-- More than 180 code units are left between the blanks at both ends, and the 180th of them is a
blank. -/
def CutAtBlank (us : CodeUnits) : Prop :=
  180 < (stripBlanks us).length ∧ (stripBlanks us)[179]? = some 32

private theorem space_iff {c : Char} (h : isFilenameChar c = true) :
    isJsSpace c = true ↔ c = ' ' := by
  have hascii : ∀ n < 128,isFilenameChar (Char.ofNat n) = true →
      (isJsSpace (Char.ofNat n) = true ↔ Char.ofNat n = ' ') := by decide
  have hchar := hascii c.toNat (isFilenameChar_ascii h)
  rw [Char.ofNat_toNat] at hchar
  exact hchar h

private theorem sanitizeUnit_eq_blank_iff {u : UInt16} : sanitizeUnit u = ' ' ↔ u = 32 := by
  have hascii : ∀ n < 128,Char.ofNat n = ' ' → n = 32 := by decide
  constructor
  · intro h
    unfold sanitizeUnit at h
    split at h
    · rename_i hallowed
      exact UInt16.toNat_inj.mp (hascii u.toNat hallowed.1 h)
    · exact absurd h (by decide)
  · rintro rfl
    decide

/-- Every other blank is replaced before the name is trimmed. -/
theorem toList_normalizedName (us : CodeUnits) :
    (normalizedName us).toList = (stripBlanks us).map sanitizeUnit := by
  have hblank : (isJsSpace ∘ sanitizeUnit) = fun u => decide (u = 32) := by
    funext u
    rw [Function.comp_apply,Bool.eq_iff_iff,space_iff (sanitizeUnit_allowed u),
      sanitizeUnit_eq_blank_iff,decide_eq_true_iff]
  rw [normalizedName,jsTrim,String.toList_ofList,String.toList_ofList,List.dropWhile_map,hblank,
    List.rdropWhile,← List.map_reverse,List.dropWhile_map,hblank,← List.map_reverse]
  rfl

theorem allowed_normalizedName (us : CodeUnits) :
    ∀ c ∈ (normalizedName us).toList,isFilenameChar c = true := by
  intro c hc
  rw [toList_normalizedName] at hc
  obtain ⟨u,-,rfl⟩ := List.mem_map.mp hc
  exact sanitizeUnit_allowed u

/-- Sanitizing a name of harmless characters only strips and cuts it. -/
theorem sanitizeUnits_of_allowed {name : String} (h : ∀ c ∈ name.toList,isFilenameChar c = true) :
    sanitizeUnits (utf16 name) = boundedName (jsTrim name) := by
  have hchars : (utf16 name).map sanitizeUnit = name.toList := by
    have hunits : ∀ c ∈ name.toList,(utf16Char c).map sanitizeUnit = [c] := by
      intro c hc
      rw [← sanitizeChar_eq,sanitizeChar,if_pos (isFilenameChar_iff.mp (h c hc))]
    rw [utf16,List.map_flatMap,List.flatMap_congr hunits]
    exact List.flatMap_pure_eq_map id _ |>.trans (List.map_id _)
  rw [sanitizeUnits,normalizedName,hchars,String.ofList_toList]

theorem boundedName_safe {normalized : String}
    (h : ∀ c ∈ normalized.toList,isFilenameChar c = true) : SafeName (boundedName normalized) := by
  unfold boundedName
  split
  · exact ⟨by decide,by decide,List.all_eq_true.mp (by decide)⟩
  · rename_i hne
    refine ⟨?_,?_,?_⟩
    · intro hempty
      have htake := congrArg String.toList hempty
      rw [String.toList_ofList] at htake
      cases hlist : normalized.toList with
      | nil => exact hne (String.toList_injective hlist)
      | cons c cs =>
        rw [hlist] at htake
        cases htake
    · rw [String.length_ofList]
      exact List.length_take_le 180 _
    · intro c hc
      rw [String.toList_ofList] at hc
      exact h c (List.mem_of_mem_take hc)

/-- Whether a cut name is stripped depends on its last character. -/
theorem trimmed_take {normalized : String} (htrimmed : Trimmed normalized)
    (hlong : 180 < normalized.length) :
    Trimmed (String.ofList (normalized.toList.take 180)) ↔
      ∀ c,normalized.toList[179]? = some c → isJsSpace c = false := by
  have hlength : 180 < normalized.toList.length := by
    rw [String.length_toList]
    exact hlong
  obtain ⟨hfull,-⟩ := trimmed_iff.mp htrimmed
  generalize normalized.toList = l at hlength hfull ⊢
  have hhead : (l.take 180).dropWhile isJsSpace = l.take 180 := by
    rw [List.dropWhile_eq_self_iff] at hfull ⊢
    intro hpos
    rw [List.getElem_take]
    exact hfull (by omega)
  have hne : l.take 180 ≠ [] := List.ne_nil_of_length_pos (by rw [List.length_take]; omega)
  have hlast : (l.take 180).getLast hne = l[179] := by
    rw [List.getLast_eq_getElem,List.getElem_take]
    congr 1
    rw [List.length_take]
    omega
  rw [trimmed_iff,String.toList_ofList,List.rdropWhile_eq_self_iff,
    List.getElem?_eq_getElem (by omega)]
  constructor
  · rintro ⟨-,h⟩ c hc
    have hc' := h hne
    rw [hlast,Option.some.inj hc] at hc'
    exact Bool.eq_false_iff.mpr hc'
  · intro h
    refine ⟨hhead,fun _ => ?_⟩
    rw [hlast,h _ rfl]
    decide

theorem length_jsTrim_le (name : String) : (jsTrim name).length ≤ name.length := by
  rw [jsTrim,String.length_ofList,← String.length_toList]
  exact ((List.rdropWhile_prefix _ _).length_le).trans (List.dropWhile_suffix _).length_le

private theorem take_short {name : String} (h : name.length ≤ 180) :
    String.ofList (name.toList.take 180) = name := by
  rw [List.take_of_length_le,String.ofList_toList]
  rw [String.length_toList]
  exact h

/-- A safe name survives a second time if there is nothing to strip. -/
theorem boundedName_jsTrim_iff {name : String} (h : SafeName name) :
    boundedName (jsTrim name) = name ↔ Trimmed name := by
  constructor
  · intro hname
    unfold boundedName at hname
    split at hname
    · rw [← hname]
      decide
    · rwa [take_short ((length_jsTrim_le name).trans h.short)] at hname
  · intro htrimmed
    rw [Trimmed] at htrimmed
    rw [htrimmed,boundedName,if_neg h.present,take_short h.short]

theorem trimmed_boundedName_iff (us : CodeUnits) :
    Trimmed (boundedName (normalizedName us)) ↔ ¬CutAtBlank us := by
  have htrimmed : Trimmed (normalizedName us) := trimmed_jsTrim _
  have hcut : CutAtBlank us ↔
      180 < (normalizedName us).length ∧ (normalizedName us).toList[179]? = some ' ' := by
    rw [CutAtBlank,← String.length_toList,toList_normalizedName,List.length_map,List.getElem?_map,
      Option.map_eq_some_iff]
    simp only [sanitizeUnit_eq_blank_iff,exists_eq_right]
  rw [hcut]
  by_cases hlong : 180 < (normalizedName us).length
  · have hne : normalizedName us ≠ "" := by
      intro hempty
      rw [hempty] at hlong
      cases hlong
    rw [boundedName,if_neg hne,trimmed_take htrimmed hlong]
    constructor
    · rintro h ⟨-,hblank⟩
      exact absurd (h _ hblank) (by decide)
    · intro h c hc
      rw [← Bool.not_eq_true,space_iff (allowed_normalizedName us c (List.mem_of_getElem? hc))]
      rintro rfl
      exact h ⟨hlong,hc⟩
  · refine iff_of_true ?_ (fun h => hlong h.1)
    unfold boundedName
    split
    · decide
    · rwa [take_short (Nat.not_lt.mp hlong)]

/-- Every name is safe, and stable unless it is cut after a blank. -/
theorem sanitizeFilename_idempotent_iff (us : CodeUnits) :
    SafeName (sanitizeUnits us) ∧ sanitizeUnits (utf16 (sanitizeUnits us)) = sanitizeUnits us ↔
      ¬CutAtBlank us := by
  have hsafe : SafeName (sanitizeUnits us) := boundedName_safe (allowed_normalizedName us)
  rw [and_iff_right hsafe,sanitizeUnits_of_allowed hsafe.allowed,boundedName_jsTrim_iff hsafe]
  exact trimmed_boundedName_iff us

/-- 179 letters, a blank and another letter. -/
def longName : CodeUnits := List.replicate 179 97++[32,98]

theorem sanitizeFilename_not_idempotent :
    ¬∀ us : CodeUnits,SafeName (sanitizeUnits us) ∧
      sanitizeUnits (utf16 (sanitizeUnits us)) = sanitizeUnits us := by
  intro h
  have hcut : CutAtBlank longName := by
    unfold CutAtBlank
    decide +kernel
  obtain ⟨hsafe,hstable⟩ := h longName
  rw [sanitizeUnits_of_allowed hsafe.allowed] at hstable
  exact (trimmed_boundedName_iff longName).mp ((boundedName_jsTrim_iff hsafe).mp hstable) hcut

end EvidenceService
end BelLedger
