import BelLedger.DelimiterSearch
import BelLedger.EvidenceService
import BelLedger.Utf8Texts

/-!
# readEvidenceMultipart

The body up to the first empty line is the header block of the file, and the file ends at the closing
delimiter. The parameters of Content-Disposition are found by patterns that may match anywhere in the
line.
-/
namespace BelLedger
open DelimiterSearch

structure MultipartEvidence where
  bytes : Bytes
  filename : String
  contentType : String
  deriving DecidableEq

namespace EvidenceMultipart

def CRLF : Bytes := [13,10]

/-- Strips a prefix in small letters, which the text may have in letters of either case. -/
def stripPrefix : List Char → List Char → Option (List Char)
  | [],cs => some cs
  | _::_,[] => none
  | p::ps,c::cs => if c.toLower = p then stripPrefix ps cs else none

/-- `([^"]*)"` -/
def untilQuote (cs : List Char) : Option (List Char) :=
  if cs.contains '"' then some (cs.takeWhile (fun c => c != '"')) else none

/-- `"([^"]+)"` -/
def quotedBoundary : List Char → Option (List Char)
  | '"' :: cs => (untilQuote cs).filter (fun value => value != [])
  | _ => none

/-- `([^;]+)` -/
def plainBoundary (cs : List Char) : Option (List Char) :=
  (some (cs.takeWhile (fun c => c != ';'))).filter (fun value => value != [])

/-- `/boundary=(?:"([^"]+)"|([^;]+))/i` -/
def boundaryPattern (cs : List Char) : Option (List Char) :=
  (stripPrefix "boundary=".toList cs).bind (fun rest => (quotedBoundary rest).or (plainBoundary rest))

/-- `/key="([^"]*)"/i` -/
def parameterPattern (key : String) (cs : List Char) : Option (List Char) :=
  (stripPrefix (key.toList++['=','"']) cs).bind untilQuote

/-- Whether the line is of the header, which is given in small letters. -/
def isHeader (name : String) (line : List Char) : Bool :=
  (stripPrefix (name.toList++[':']) line).isSome

/-- `line.slice(line.indexOf(":") + 1)` of a line with a colon. -/
def afterColon (line : List Char) : List Char := (line.dropWhile (fun c => c != ':')).drop 1

/-- The chunks of a request one after another, as long as their total stays within the limit. -/
def readChunks (limit : ℕ) : ℕ → List Bytes → Except EvidenceError Bytes
  | _,[] => .ok []
  | total,chunk::chunks =>
    if limit < total + chunk.length then
      .error (.PayloadTooLargeError "Uploaded file exceeds the configured size limit")
    else (readChunks limit (total + chunk.length) chunks).map (fun rest => chunk++rest)

def malformed : EvidenceError := .Service (.ValidationError ["Multipart evidence part is malformed"])

/-- The type that a header text gives, if there is one. -/
def mediaTypeOf (lib : NodeLibrary) : Option (List Char) → String
  | none => "application/octet-stream"
  | some text =>
    let contentType := lib.toLowerCase (jsTrim (String.ofList text))
    if contentType = "" then "application/octet-stream" else contentType

def typeHeaderOf (lines : List (List Char)) : Option (List Char) :=
  (lines.find? (isHeader "content-type")).map afterColon

/-- The type of a part with these header lines. -/
def partType (lib : NodeLibrary) (lines : List (List Char)) : String :=
  mediaTypeOf lib (typeHeaderOf lines)

def dispositionOf (lines : List (List Char)) : List Char :=
  (lines.find? (isHeader "content-disposition")).getD []

/-- The file name of a part with these header lines. -/
def partFilename (lines : List (List Char)) : Except EvidenceError String :=
  let disposition := dispositionOf lines
  match firstMatch (parameterPattern "filename") disposition,
      firstMatch (parameterPattern "name") disposition with
  | some filename,some name =>
    if String.ofList name ∈ ["file","evidence"] then .ok (String.ofList filename)
    else .error (.Service (.ValidationError ["A file field named file is required"]))
  | _,_ => .error (.Service (.ValidationError ["A file field named file is required"]))

/-- What is made of a body. -/
def parseBody (lib : NodeLibrary) (boundary : String) (maxFileSizeBytes : ℕ) (body : Bytes) :
    Except EvidenceError MultipartEvidence :=
  match cut? (CRLF++CRLF) body with
  | none => .error malformed
  | some (head,rest) =>
    match cut? (CRLF++utf8 ("--"++boundary)++utf8 "--") rest with
    | none => .error malformed
    | some (bytes,_) => do
      let partHeaders := splitAtPair '\r' '\n' (decodeUtf8 head).toList
      let filename ← partFilename partHeaders
      CheckedCalls.revertIf (maxFileSizeBytes < bytes.length)
        (.PayloadTooLargeError "Uploaded file exceeds the configured size limit")
      pure ⟨bytes,filename,partType lib partHeaders⟩

def readEvidenceMultipart (lib : NodeLibrary) (header : Option String) (chunks : List Bytes)
    (maxFileSizeBytes : ℕ) : Except EvidenceError MultipartEvidence :=
  match firstMatch boundaryPattern (header.getD "").toList with
  | none =>
    .error (.UnsupportedMediaTypeError "Evidence upload must be multipart/form-data")
  | some boundary =>
    match readChunks (maxFileSizeBytes + 32 * 1024) 0 chunks with
    | .error e => .error e
    | .ok body => parseBody lib (String.ofList boundary) maxFileSizeBytes body

theorem afterColon_append {label : List Char} (hlabel : ':' ∉ label) (text : List Char) :
    afterColon (label++(':' :: text)) = text := by
  have hdrop : (label++(':' :: text)).dropWhile (fun c => c != ':') = ':' :: text := by
    rw [List.dropWhile_append_of_pos]
    · simp
    · intro c hc
      simp only [bne_iff_ne]
      rintro rfl
      exact hlabel hc
  rw [afterColon,hdrop]
  rfl

section Chunks
variable {limit total : ℕ}

/-- The division into chunks does not matter. -/
theorem readChunks_eq (chunks : List Bytes) (htotal : total ≤ limit) :
    readChunks limit total chunks =
      if limit < total + chunks.flatten.length then
        .error (.PayloadTooLargeError "Uploaded file exceeds the configured size limit")
      else .ok chunks.flatten := by
  induction chunks generalizing total with
  | nil =>
    rw [readChunks,if_neg (by simpa using htotal)]
    rfl
  | cons chunk chunks ih =>
    rw [readChunks,List.flatten_cons,List.length_append]
    by_cases hchunk : limit < total + chunk.length
    · rw [if_pos hchunk,if_pos (by omega)]
    · rw [if_neg hchunk,ih (by omega),Nat.add_assoc]
      split
      · rfl
      · rfl

end Chunks

section Patterns

/-- Only capital letters have another small letter, which is a letter. -/
theorem toLower_eq_mark_iff {c q : Char} (hq : q.isAlpha = false) : c.toLower = q ↔ c = q := by
  have hrange : ¬(97 ≤ q.val.toNat ∧ q.val.toNat ≤ 122) ∧ ¬(65 ≤ q.val.toNat ∧ q.val.toNat ≤ 90) :=
    ⟨fun h => Bool.false_ne_true (hq.symm.trans (isAlpha_iff.mpr (.inr h))),
      fun h => Bool.false_ne_true (hq.symm.trans (isAlpha_iff.mpr (.inl h)))⟩
  unfold Char.toLower
  split
  · rename_i hupper
    simp only [UInt32.le_iff_toNat_le,ge_iff_le,Char.reduceVal,UInt32.reduceToNat] at hupper
    constructor
    · intro h
      subst h
      simp only [Char.reduceVal,UInt32.toNat_add,UInt32.toNat_sub,UInt32.reduceToNat] at hrange
      omega
    · rintro rfl
      exact absurd hupper hrange.2
  · exact Iff.rfl

theorem stripPrefix_append {w ps : List Char} (h : w.map Char.toLower = ps) (rest : List Char) :
    stripPrefix ps (w++rest) = some rest := by
  subst h
  induction w with
  | nil => rfl
  | cons c w ih =>
    rw [List.map_cons,List.cons_append,stripPrefix,if_pos rfl,ih]

/-- A prefix that ends with a mark matches up to the first such mark. -/
theorem stripPrefix_mark {q : Char} (hq : q.isAlpha = false) {w ps : List Char} (hps : q ∉ ps)
    (hw : q ∉ w) (rest : List Char) :
    stripPrefix (ps++[q]) (w++q::rest) = if w.map Char.toLower = ps then some rest else none := by
  induction w generalizing ps with
  | nil =>
    cases ps with
    | nil => simp [stripPrefix,toLower_eq_mark_iff hq]
    | cons p ps =>
      rw [List.mem_cons,not_or] at hps
      have hp : q.toLower ≠ p := by
        rw [(toLower_eq_mark_iff hq).mpr rfl]
        exact hps.1
      simp [stripPrefix,hp]
  | cons c w ih =>
    rw [List.mem_cons,not_or] at hw
    cases ps with
    | nil =>
      have hc : c.toLower ≠ q := by
        rw [Ne,toLower_eq_mark_iff hq]
        exact fun he => hw.1 he.symm
      simp [stripPrefix,hc]
    | cons p ps =>
      rw [List.mem_cons,not_or] at hps
      by_cases hc : c.toLower = p
      · simpa [stripPrefix,hc] using ih hps.2 hw.2
      · simp [stripPrefix,hc]

/-- Without the mark the prefix does not match. -/
theorem stripPrefix_eq_none {q : Char} (hq : q.isAlpha = false) {w ps : List Char} (hps : q ∈ ps)
    (hw : q ∉ w) : stripPrefix ps w = none := by
  induction w generalizing ps with
  | nil =>
    cases ps with
    | nil => cases hps
    | cons p ps => rfl
  | cons c w ih =>
    rw [List.mem_cons,not_or] at hw
    cases ps with
    | nil => cases hps
    | cons p ps =>
      rw [stripPrefix]
      split
      · rename_i hc
        rcases List.mem_cons.mp hps with rfl | hmem
        · exact absurd ((toLower_eq_mark_iff hq).mp hc).symm hw.1
        · exact ih hmem hw.2
      · rfl

/-- The text ends with `p`, which is in small letters, in letters of either case. -/
def EndsLike (p u : List Char) : Prop := p <:+ u.map Char.toLower

instance (p u : List Char) : Decidable (EndsLike p u) :=
  inferInstanceAs (Decidable (p <:+ u.map Char.toLower))

theorem endsLike_cons {p u : List Char} {c : Char} :
    EndsLike p (c::u) ↔ (c::u).map Char.toLower = p ∨ EndsLike p u := by
  unfold EndsLike
  rw [List.map_cons,List.suffix_cons_iff]
  exact or_congr_left eq_comm

theorem untilQuote_append {value : List Char} (h : '"' ∉ value) (rest : List Char) :
    untilQuote (value++('"' :: rest)) = some value := by
  have htake : (value++('"' :: rest)).takeWhile (fun c => c != '"') = value := by
    rw [List.takeWhile_append_of_pos]
    · simp
    · intro c hc
      simp only [bne_iff_ne]
      rintro rfl
      exact h hc
  simp [untilQuote,htake]

variable {key : String}

theorem parameterPattern_quote (hkey : '"' ∉ key.toList) {w : List Char} (hw : '"' ∉ w)
    (rest : List Char) :
    parameterPattern key (w++('"' :: rest)) =
      if w.map Char.toLower = key.toList++['='] then untilQuote rest else none := by
  have hmark : key.toList++['=','"'] = (key.toList++['='])++['"'] := by simp
  have hps : '"' ∉ key.toList++['='] := by simpa using hkey
  rw [parameterPattern,hmark,stripPrefix_mark (by decide) hps hw]
  split
  · rfl
  · rfl

theorem firstMatch_no_quote {cs : List Char} (h : '"' ∉ cs) :
    firstMatch (parameterPattern key) cs = none := by
  induction cs with
  | nil =>
    rw [firstMatch,parameterPattern,stripPrefix_eq_none (q := '"') (by decide) (by simp) h]
    rfl
  | cons c cs ih =>
    rw [firstMatch,parameterPattern,stripPrefix_eq_none (q := '"') (by decide) (by simp) h,
      ih (fun hc => h (List.mem_cons_of_mem c hc))]
    rfl

/-- A pattern matches at the first quote when what stands before the quote ends like it. -/
theorem firstMatch_quote (hkey : '"' ∉ key.toList) {u : List Char} (hu : '"' ∉ u) (v : List Char) :
    firstMatch (parameterPattern key) (u++('"' :: v)) =
      if EndsLike (key.toList++['=']) u then untilQuote v
      else firstMatch (parameterPattern key) v := by
  induction u with
  | nil =>
    have hpattern := parameterPattern_quote hkey List.not_mem_nil v
    have hne : ¬[] = key.toList++['='] := by simp
    have hends : ¬EndsLike (key.toList++['=']) [] := by simp [EndsLike]
    rw [List.map_nil,if_neg hne,List.nil_append] at hpattern
    rw [List.nil_append,firstMatch,hpattern,if_neg hends,Option.none_or]
  | cons c u ih =>
    have hpattern := parameterPattern_quote hkey hu v
    rw [List.cons_append] at hpattern
    rw [List.cons_append,firstMatch,hpattern,ih (fun h => hu (List.mem_cons_of_mem c h))]
    by_cases hwhole : (c::u).map Char.toLower = key.toList++['=']
    · rw [if_pos hwhole,if_pos (endsLike_cons.mpr (.inl hwhole))]
      cases hvalue : untilQuote v with
      | some value => rfl
      | none =>
        -- then no quote is left for a later match either
        have hquote : '"' ∉ v := by
          intro hmem
          simp [untilQuote,hmem] at hvalue
        rw [firstMatch_no_quote hquote,ite_self,Option.none_or]
    · rw [if_neg hwhole,Option.none_or]
      by_cases hends : EndsLike (key.toList++['=']) u
      · rw [if_pos hends,if_pos (endsLike_cons.mpr (.inr hends))]
      · have hnot : ¬EndsLike (key.toList++['=']) (c::u) := by
          rw [endsLike_cons]
          exact not_or.mpr ⟨hwhole,hends⟩
        rw [if_neg hends,if_neg hnot]

/-- The first `key="` of the line, in letters of either case, stands before the value and one more
quote. -/
def Introduces (key : String) (line value : List Char) : Prop :=
  ∃ before after,line = before++('"' :: (value++('"' :: after))) ∧
    EndsLike (key.toList++['=']) before ∧ '"' ∉ value ∧
    ∀ earlier between,before = earlier++('"' :: between) → ¬EndsLike (key.toList++['=']) earlier

theorem untilQuote_eq_some_iff {cs value : List Char} :
    untilQuote cs = some value ↔ ∃ after,cs = value++('"' :: after) ∧ '"' ∉ value := by
  constructor
  · intro h
    by_cases hquote : '"' ∈ cs
    · obtain ⟨front,after,rfl,hfront⟩ := List.eq_append_cons_of_mem hquote
      rw [untilQuote_append hfront] at h
      obtain rfl := Option.some.inj h
      exact ⟨after,rfl,hfront⟩
    · simp [untilQuote,hquote] at h
  · rintro ⟨after,rfl,hvalue⟩
    exact untilQuote_append hvalue after

/-- What stands before a quote does not matter behind it. -/
theorem endsLike_behind_quote {p : List Char} (hp : '"' ∉ p) (x u : List Char) :
    EndsLike p (x++('"' :: u)) ↔ EndsLike p u := by
  have hmark : '"'.toLower = '"' := by decide
  have hsuffix : '"' :: u.map Char.toLower <:+ (x++('"' :: u)).map Char.toLower := by
    rw [List.map_append,List.map_cons,hmark]
    exact List.suffix_append _ _
  unfold EndsLike
  constructor
  · intro h
    rcases List.suffix_or_suffix_of_suffix h hsuffix with hin | hover
    · rcases List.suffix_cons_iff.mp hin with rfl | hin
      · exact absurd List.mem_cons_self hp
      · exact hin
    · exact absurd (hover.subset List.mem_cons_self) hp
  · intro h
    exact (h.trans (List.suffix_cons _ _)).trans hsuffix

/-- A quote is the first one or stands behind it. -/
private theorem quote_split {u w x y : List Char} (hu : '"' ∉ u)
    (h : u++('"' :: w) = x++('"' :: y)) :
    (x = u ∧ y = w) ∨ ∃ between,x = u++('"' :: between) ∧ w = between++('"' :: y) := by
  rcases List.append_eq_append_iff.mp h with ⟨between,rfl,hrest⟩ | ⟨between,rfl,hrest⟩
  · cases between with
    | nil => exact .inl ⟨List.append_nil u,(List.cons.inj hrest).2.symm⟩
    | cons c between =>
      obtain ⟨rfl,hw⟩ := List.cons.inj hrest
      exact .inr ⟨between,rfl,hw⟩
  · cases between with
    | nil => exact .inl ⟨(List.append_nil x).symm,(List.cons.inj hrest).2⟩
    | cons c between =>
      obtain ⟨rfl,-⟩ := List.cons.inj hrest
      simp at hu

/-- The pattern of a key finds what its first occurrence introduces. -/
theorem firstMatch_eq_some_iff (hkey : '"' ∉ key.toList) {line value : List Char} :
    firstMatch (parameterPattern key) line = some value ↔ Introduces key line value := by
  have hmark : '"' ∉ key.toList++['='] := by simpa using hkey
  by_cases hquote : '"' ∈ line
  · -- the induction goes from quote to quote
    obtain ⟨u,w,rfl,hu⟩ := List.eq_append_cons_of_mem hquote
    rw [firstMatch_quote hkey hu]
    by_cases hends : EndsLike (key.toList++['=']) u
    · rw [if_pos hends,untilQuote_eq_some_iff]
      constructor
      · rintro ⟨after,rfl,hvalue⟩
        refine ⟨u,after,rfl,hends,hvalue,?_⟩
        rintro earlier between rfl
        simp at hu
      · rintro ⟨before,after,hline,-,hvalue,hfirst⟩
        rcases quote_split hu hline with ⟨-,hw⟩ | ⟨between,hbefore,-⟩
        · exact ⟨after,hw.symm,hvalue⟩
        · exact absurd hends (hfirst u between hbefore)
    · rw [if_neg hends,firstMatch_eq_some_iff hkey]
      constructor
      · rintro ⟨before,after,rfl,hbefore,hvalue,hfirst⟩
        refine ⟨u++('"' :: before),after,by simp,(endsLike_behind_quote hmark u before).mpr hbefore,
          hvalue,?_⟩
        intro earlier between hsplit
        rcases quote_split hu hsplit with ⟨rfl,-⟩ | ⟨front,rfl,hfront⟩
        · exact hends
        · rw [endsLike_behind_quote hmark]
          exact hfirst front between hfront
      · rintro ⟨before,after,hline,hbefore,hvalue,hfirst⟩
        rcases quote_split hu hline with ⟨rfl,-⟩ | ⟨front,rfl,hw⟩
        · exact absurd hbefore hends
        · refine ⟨front,after,hw,(endsLike_behind_quote hmark u front).mp hbefore,hvalue,?_⟩
          rintro earlier between rfl
          rw [← endsLike_behind_quote hmark u]
          exact hfirst _ between (by simp)
  · rw [firstMatch_no_quote hquote]
    constructor
    · exact nofun
    · rintro ⟨before,after,rfl,-⟩
      simp at hquote
termination_by line.length
decreasing_by
  subst_vars
  simp
  omega

theorem Introduces.unique (hkey : '"' ∉ key.toList) {line value other : List Char}
    (h : Introduces key line value) (hother : Introduces key line other) : value = other := by
  rw [← firstMatch_eq_some_iff hkey] at h hother
  exact Option.some.inj (h.symm.trans hother)

end Patterns

end EvidenceMultipart
end BelLedger
