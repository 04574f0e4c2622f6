import BelLedger.MultipartBodies
import BelLedger.MultipartUpload

/-!
# Requests with any parts

The parser takes the lines up to the first empty one for the header of the file, and goes on to the
closing delimiter. What it returns is right for a body of one part whose file name and type it finds.
-/
namespace BelLedger
open DelimiterSearch EvidenceMultipart

/-- The result is a file field of the request: its content, file name and type. -/
def Sound (lib : NodeLibrary) (parts : List Part) (result : MultipartEvidence) : Prop :=
  ∃ part ∈ parts,(part.fieldName = some "file" ∨ part.fieldName = some "evidence") ∧
    part.filename = some result.filename ∧ part.content = result.bytes ∧
    part.mediaType lib = result.contentType

instance (lib : NodeLibrary) (parts : List Part) (result : MultipartEvidence) :
    Decidable (Sound lib parts result) :=
  inferInstanceAs (Decidable (∃ part ∈ parts,_ ∧ _))

/-- The one part of the body is a file field. Its headers are followed by the first empty line of the
body, the first `filename="` of the Content-Disposition line introduces its file name, and the
Content-Type line gives its type. -/
structure FileInView (lib : NodeLibrary) (preamble : List (List Char)) (first : Part)
    (others : List Part) : Prop where
  only : others = []
  noEmptyLine : [] ∉ preamble.tail
  body : first.body ≠ none
  fieldName : first.fieldName = some "file" ∨ first.fieldName = some "evidence"
  filename : ∃ filename,first.filename = some filename ∧
    Introduces "filename" (dispositionOf (preamble++first.lines)) filename.toList
  mediaType : mediaTypeOf lib (typeHeaderOf (preamble++first.lines)) = first.mediaType lib

namespace EvidenceMultipart

/-- No comments, and no blanks around the equals sign. -/
structure Parameter.Plain (p : Parameter) : Prop where
  beforeSemicolon : p.beforeSemicolon.all isBlank = true
  afterSemicolon : p.afterSemicolon.all isBlank = true
  beforeEquals : p.beforeEquals = []
  afterEquals : p.afterEquals = []

/-- Neither the key nor the value ends like the other key. -/
structure Parameter.EndsOtherwise (key : String) (p : Parameter) : Prop where
  ownKey : ¬EndsLike key.toList p.key
  sent : ¬EndsLike (key.toList++['=']) p.sent
  quote : '"' ∉ p.sent

/-- The file name is quoted without escapes on the first line of its header, and no parameter before it
ends like it. -/
def Part.PlainFilename (p : Part) : Prop :=
  ∃ h label spacing kind before q after trailing,p.header "content-disposition" = some h ∧
    h.field = .disposition label spacing kind (before++q::after) trailing ∧
    spacing.all isBlank = true ∧ (∀ r ∈ before,r.Plain ∧ r.EndsOtherwise "filename") ∧ q.Plain ∧
    q.key.map Char.toLower = "filename".toList ∧ q.quoted = true ∧ '\\' ∉ q.sent ∧
    spacing++(kind++(parametersText before++q.text)) <+: h.first

end EvidenceMultipart

/-- A file field alone, without lines before it that look like its headers, with a file name that no
other parameter looks like, and with its type on one line. -/
structure PlainlySent (preamble : List (List Char)) (first : Part) (others : List Part) : Prop where
  only : others = []
  noEmptyLine : [] ∉ preamble.tail
  noHeader : ∀ l ∈ preamble,
    isHeader "content-disposition" l = false ∧ isHeader "content-type" l = false
  body : first.body ≠ none
  fieldName : first.fieldName = some "file" ∨ first.fieldName = some "evidence"
  filename : first.PlainFilename
  contentType : ∀ h,first.header "content-type" = some h → h.continuations = []

namespace EvidenceMultipart
section Parameters
variable {key : String} {p q : Parameter} {pre : List Char}

/-- What stands before a word is no letter, so a pattern of letters that ends with the word lies in
it. -/
theorem endsLike_word {key word : List Char} {c : Char} (hc : c.isAlpha = false)
    (hkey : key.all Char.isAlpha = true) :
    EndsLike (key++['=']) (pre++(c::(word++['=']))) ↔ EndsLike key word := by
  have hequals : '='.toLower = '=' := by decide
  have hsplit : (pre++(c::(word++['=']))).map Char.toLower =
      ((pre.map Char.toLower++[c])++word.map Char.toLower)++['='] := by
    simp [hequals,(toLower_eq_mark_iff hc).mpr]
  unfold EndsLike
  rw [hsplit,List.suffix_append_self_iff]
  refine ⟨?_,fun hsuffix => List.suffix_append_of_suffix hsuffix⟩
  intro hsuffix
  rcases List.suffix_or_suffix_of_suffix hsuffix (List.suffix_append _ _) with hin | hover
  · exact hin
  · obtain ⟨w,hw⟩ := hover
    rcases List.eq_nil_or_concat' w with rfl | ⟨front,d,rfl⟩
    · rw [← hw,List.nil_append]
    · -- the pattern would reach over the character before the word
      rw [← hw,List.suffix_append_self_iff] at hsuffix
      have hlast : [d] <:+ pre.map Char.toLower++[c] := (List.suffix_append front [d]).trans hsuffix
      have hsame : d = c := List.singleton_suffix_append_singleton_iff.mp hlast
      have hletter : d.isAlpha = true := by
        apply List.all_eq_true.mp hkey
        rw [← hw]
        simp
      rw [hsame,hc] at hletter
      cases hletter

/-- The character before the key of a plain parameter is a blank or the semicolon. -/
private theorem Parameter.Plain.spacing (h : p.Plain) :
    ∃ front c,c.isAlpha = false ∧ '"' ∉ front++[c] ∧
      p.beforeSemicolon++(';' :: p.afterSemicolon) = front++[c] := by
  have hquote : ∀ cs : List Char,cs.all isBlank = true → '"' ∉ cs := by
    intro cs hcs hmem
    exact absurd (List.all_eq_true.mp hcs '"' hmem) (by decide)
  have hbefore := hquote _ h.beforeSemicolon
  have hafter := hquote _ h.afterSemicolon
  rcases List.eq_nil_or_concat' p.afterSemicolon with hnil | ⟨front,c,hfront⟩
  · refine ⟨p.beforeSemicolon,';',by decide,?_,by rw [hnil]⟩
    simpa using hbefore
  · have hblank : isBlank c = true := List.all_eq_true.mp h.afterSemicolon c (by rw [hfront]; simp)
    have hmark : c = ' ' ∨ c = '\t' := by simpa [isBlank] using hblank
    refine ⟨p.beforeSemicolon++(';' :: front),c,?_,?_,by simp [hfront]⟩
    · rcases hmark with rfl | rfl
      · decide
      · decide
    · rw [hfront] at hafter
      simpa [hbefore] using hafter

/-- A plain parameter up to the quote, or as a whole when it has no quotes. -/
private theorem Parameter.Plain.text (h : p.Plain) (hkey : p.key.all isTokenChar = true) :
    ∃ front c,c.isAlpha = false ∧ '"' ∉ front++(c::(p.key++['='])) ∧
      p.text = (front++(c::(p.key++['='])))++
        (if p.quoted then '"' :: (p.sent++['"']) else p.sent) := by
  obtain ⟨front,c,hc,hquote,hspacing⟩ := h.spacing
  have hword : '"' ∉ p.key := notMem_of_token hkey (by decide)
  refine ⟨front,c,hc,by simpa [hword] using hquote,?_⟩
  have hassoc : p.text = (p.beforeSemicolon++(';' :: p.afterSemicolon))++(p.key++('=' ::
      (if p.quoted then '"' :: (p.sent++['"']) else p.sent))) := by
    simp [Parameter.text,h.beforeEquals,h.afterEquals]
  rw [hassoc,hspacing]
  simp

/-- The pattern of a key goes over a parameter that ends otherwise. -/
theorem firstMatch_otherwise (hletters : key.toList.all Char.isAlpha = true) (hwell : p.WellFormed)
    (hplain : p.Plain) (hends : p.EndsOtherwise key) (hpre : '"' ∉ pre) (rest : List Char) :
    ∃ pre',('"' ∉ pre') ∧ firstMatch (parameterPattern key) (pre++(p.text++rest)) =
      firstMatch (parameterPattern key) (pre'++rest) := by
  have hquote : '"' ∉ key.toList := by
    intro hmem
    exact absurd (List.all_eq_true.mp hletters '"' hmem) (by decide)
  obtain ⟨front,c,hc,hfront,htext⟩ := hplain.text hwell.key
  rw [htext]
  cases p.quoted with
  | false =>
    refine ⟨pre++((front++(c::(p.key++['='])))++p.sent),?_,by simp⟩
    rw [List.mem_append,List.mem_append]
    exact not_or.mpr ⟨hpre,not_or.mpr ⟨hfront,hends.quote⟩⟩
  | true =>
    refine ⟨[],List.not_mem_nil,?_⟩
    have hassoc : pre++(((front++(c::(p.key++['='])))++('"' :: (p.sent++['"'])))++rest) =
        ((pre++front)++(c::(p.key++['='])))++('"' :: (p.sent++('"' :: rest))) := by
      simp
    have hnone : '"' ∉ (pre++front)++(c::(p.key++['='])) := by
      rw [List.append_assoc,List.mem_append]
      exact not_or.mpr ⟨hpre,hfront⟩
    have hopen : ¬EndsLike (key.toList++['=']) ((pre++front)++(c::(p.key++['=']))) := by
      rw [endsLike_word hc hletters]
      exact hends.ownKey
    simp only [if_true]
    rw [hassoc,firstMatch_quote hquote hnone,if_neg hopen,firstMatch_quote hquote hends.quote,
      if_neg hends.sent,List.nil_append]

theorem firstMatch_parameters {ps : List Parameter} (hletters : key.toList.all Char.isAlpha = true)
    (hps : ∀ p ∈ ps,p.WellFormed ∧ p.Plain ∧ p.EndsOtherwise key) (hpre : '"' ∉ pre)
    (rest : List Char) :
    ∃ pre',('"' ∉ pre') ∧ firstMatch (parameterPattern key) (pre++(parametersText ps++rest)) =
      firstMatch (parameterPattern key) (pre'++rest) := by
  induction ps generalizing pre with
  | nil => exact ⟨pre,hpre,by simp [parametersText]⟩
  | cons p ps ih =>
    obtain ⟨hwell,hplain,hends⟩ := hps p List.mem_cons_self
    obtain ⟨pre₁,hpre₁,hfirst⟩ := firstMatch_otherwise hletters hwell hplain hends hpre
      (parametersText ps++rest)
    obtain ⟨pre₂,hpre₂,hrest⟩ := ih (fun q hq => hps q (List.mem_cons_of_mem p hq)) hpre₁
    refine ⟨pre₂,hpre₂,?_⟩
    rw [← hrest,← hfirst]
    simp [parametersText]

/-- The parameter that is called so gives its value. -/
theorem firstMatch_called (hletters : key.toList.all Char.isAlpha = true) (hwell : q.WellFormed)
    (hplain : q.Plain) (hcalled : q.key.map Char.toLower = key.toList) (hquoted : q.quoted = true)
    (hsent : '"' ∉ q.sent) (hpre : '"' ∉ pre) (rest : List Char) :
    firstMatch (parameterPattern key) (pre++(q.text++rest)) = some q.sent := by
  have hquote : '"' ∉ key.toList := by
    intro hmem
    exact absurd (List.all_eq_true.mp hletters '"' hmem) (by decide)
  obtain ⟨front,c,hc,hfront,htext⟩ := hplain.text hwell.key
  have hassoc : pre++(q.text++rest) =
      ((pre++front)++(c::(q.key++['='])))++('"' :: (q.sent++('"' :: rest))) := by
    rw [htext,hquoted]
    simp
  have hnone : '"' ∉ (pre++front)++(c::(q.key++['='])) := by
    rw [List.append_assoc,List.mem_append]
    exact not_or.mpr ⟨hpre,hfront⟩
  have hends : EndsLike (key.toList++['=']) ((pre++front)++(c::(q.key++['=']))) := by
    rw [endsLike_word hc hletters]
    exact hcalled ▸ List.suffix_refl _
  rw [hassoc,firstMatch_quote hquote hnone,if_pos hends]
  exact untilQuote_append hsent rest

/-- Without a backslash the text is meant as it is sent, and has no quotes. -/
theorem unescape_eq {cs : List Char} (h : isQuotedText cs = true) (hback : '\\' ∉ cs) :
    unescape cs = cs ∧ '"' ∉ cs := by
  fun_induction isQuotedText cs with
  | case1 => exact ⟨rfl,List.not_mem_nil⟩
  | case2 c cs ih => exact absurd List.mem_cons_self hback
  | case3 c cs hnot ih =>
    rw [Bool.and_eq_true] at h
    rw [List.mem_cons,not_or] at hback
    obtain ⟨hrest,hquote⟩ := ih h.2 hback.2
    have hc : c ≠ '"' := by
      rintro rfl
      exact absurd h.1 (by decide)
    refine ⟨?_,by simpa [Ne.symm hc] using hquote⟩
    rw [unescape,hrest]
    exact hnot

end Parameters
end EvidenceMultipart

section Soundness
variable {lib : NodeLibrary} {boundary : String} {preamble : List (List Char)} {first : Part}
  {others : List Part} {epilogue : Bytes} {chunks : List Bytes} {maxFileSizeBytes : ℕ}
  {result : MultipartEvidence}

/-- The lines before those of the first part have their own first header of the name, if any. -/
private theorem find_shownLines (hfirst : first.WellFormed boundary) {name : String} {cs : List Char}
    (hname : name.toList = 'c' :: cs) (hcolon : ':' ∉ name.toList)
    (hpreamble : ∀ l ∈ preamble,isHeader name l = false) :
    (preamble++first.lines).find? (isHeader name) = (first.header name).map Header.line := by
  have hnone : preamble.find? (isHeader name) = none := by
    rw [List.find?_eq_none]
    intro l hl
    rw [hpreamble l hl]
    exact Bool.false_ne_true
  rw [List.find?_append,hnone,Option.none_or,find_lines hfirst.headers hname hcolon]

/-- The delimiter line is no header. -/
private theorem find_delimiterLine {name : String} {cs : List Char} (hname : name.toList = 'c' :: cs) :
    (preamble++(delimiterLine boundary first::first.lines)).find? (isHeader name) =
      (preamble++first.lines).find? (isHeader name) := by
  have hline : isHeader name (delimiterLine boundary first) = false := by
    apply isHeader_eq_false hname
    intro c hc
    have hdash : c = '-' := by simpa [delimiterLine] using hc.symm
    rw [hdash]
    decide
  rw [List.find?_append,List.find?_append,List.find?_cons,hline]

private theorem header_of_some {name : String} {h : Header} (hheader : first.header name = some h) :
    h ∈ first.headers ∧ h.field.Called name :=
  ⟨List.mem_of_find?_eq_some hheader,by simpa using List.find?_some hheader⟩

private theorem introduces_plain (hfirst : first.WellFormed boundary)
    (hpreamble : ∀ l ∈ preamble,isHeader "content-disposition" l = false)
    (h : first.PlainFilename) :
    ∃ filename,first.filename = some filename ∧
      Introduces "filename" (dispositionOf (preamble++first.lines)) filename.toList := by
  obtain ⟨h,label,spacing,kind,before,q,after,trailing,hheader,hfield,hspacing,hbefore,hplain,hcalled,
    hquoted,hback,htext⟩ := h
  have hwell := (hfirst.headers h (header_of_some hheader).1).field
  rw [hfield] at hwell
  obtain ⟨hlabel,-,hkind,hparameters,-⟩ := hwell
  have hq : q.WellFormed := hparameters q (by simp)
  obtain ⟨hunescape,hsent⟩ := unescape_eq (hq.quotedText hquoted) hback
  refine ⟨String.ofList q.sent,?_,?_⟩
  · -- no parameter before it has the key
    have hothers : before.find? (fun r => r.key.map Char.toLower = "filename".toList) = none := by
      rw [List.find?_eq_none]
      intro r hr hkey
      apply (hbefore r hr).2.ownKey
      exact (of_decide_eq_true hkey) ▸ List.suffix_refl _
    have hlist : first.parameters = before++q::after := by
      rw [Part.parameters,hheader,Option.map_some,hfield]
    rw [Part.filename,Part.parameter,hlist,List.find?_append,hothers,Option.none_or,List.find?_cons,
      decide_eq_true hcalled]
    simp [Parameter.value,hquoted,hunescape]
  · have hline : dispositionOf (preamble++first.lines) = h.line := by
      rw [dispositionOf,find_shownLines hfirst rfl (by decide) hpreamble,hheader]
      rfl
    obtain ⟨rest,hrest⟩ := htext
    have hnone : '"' ∉ label++(':' :: (spacing++kind)) := by
      have hquote : '"' ∉ label := by
        intro hmem
        have hlower : '"'.toLower ∈ label.map Char.toLower := List.mem_map_of_mem hmem
        rw [show label.map Char.toLower = "content-disposition".toList from hlabel] at hlower
        exact absurd hlower (by decide)
      have hblank : '"' ∉ spacing := by
        intro hmem
        exact absurd (List.all_eq_true.mp hspacing '"' hmem) (by decide)
      have htoken : '"' ∉ kind := notMem_of_token hkind (by decide)
      simp [hquote,hblank,htoken]
    have hassoc : h.line = (label++(':' :: (spacing++kind)))++
        (parametersText before++(q.text++rest)) := by
      rw [Header.line,hfield,← hrest]
      simp [Field.label]
    have hletters : "filename".toList.all Char.isAlpha = true := by decide
    obtain ⟨pre,hpre,hmatch⟩ := firstMatch_parameters hletters
      (fun r hr => ⟨hparameters r (by simp [hr]),hbefore r hr⟩) hnone (q.text++rest)
    rw [hline,String.toList_ofList,← firstMatch_eq_some_iff (by decide),hassoc,hmatch]
    exact firstMatch_called hletters hq hplain hcalled hquoted hsent hpre rest

theorem PlainlySent.inView (lib : NodeLibrary) (hfirst : first.WellFormed boundary)
    (h : PlainlySent preamble first others) : FileInView lib preamble first others where
  only := h.only
  noEmptyLine := h.noEmptyLine
  body := h.body
  fieldName := h.fieldName
  filename := introduces_plain hfirst (fun l hl => (h.noHeader l hl).1) h.filename
  mediaType := by
    rw [typeHeaderOf,find_shownLines hfirst rfl (by decide) (fun l hl => (h.noHeader l hl).2),
      Part.mediaType]
    cases hheader : first.header "content-type" with
    | none => rfl
    | some header =>
      have hwell := hfirst.headers header (header_of_some hheader).1
      have hcolon : ':' ∉ header.field.label := hwell.field.notMem_label (.inl rfl)
      have hfolded := hwell.folded
      rw [h.contentType header hheader,List.flatten_nil,List.append_nil] at hfolded
      rw [Option.map_some,Option.map_some,Option.map_some,Header.line,hfolded,afterColon_append hcolon]

private theorem shownLines_wellFormed (hb : IsBoundary boundary) (hfirst : first.WellFormed boundary) :
    ∀ l ∈ delimiterLine boundary first::first.lines,'\r' ∉ l ∧ l ≠ [] := by
  intro l hl
  rcases List.mem_cons.mp hl with rfl | hl
  · exact delimiterLine_wellFormed hb hfirst.padding
  · exact hfirst.lines l hl

/-- Behind an empty line of the preamble the delimiter line is read with the file. -/
private theorem read_emptyLine (hb : IsBoundary boundary) (hpreamble : IsPreamble boundary preamble)
    (hfirst : first.WellFormed boundary) (hempty : [] ∈ preamble.tail)
    (hparse : parseBody lib boundary maxFileSizeBytes
      (encodeBody boundary preamble first others epilogue) = .ok result) :
    delimiter boundary <:+: CRLF++result.bytes := by
  obtain ⟨l,ls,rfl⟩ := List.exists_cons_of_ne_nil (l := preamble) (by rintro rfl; cases hempty)
  rw [List.tail_cons] at hempty
  obtain ⟨before,after,rfl,hbefore⟩ := List.eq_append_cons_of_mem hempty
  have hlines := hpreamble.lines
  have hbody : encodeBody boundary (l::(before++[]::after)) first others epilogue =
      textLines (l::before)++(CRLF++((textLines after++dashBoundary boundary)++
        (first.encapsulated++(laterParts boundary others++
          (delimiter boundary++(utf8 "--"++epilogue)))))) := by
    simp [encodeBody]
  rw [hbody,parseBody_textLines (hlines l List.mem_cons_self)
    (fun k hk => ⟨hlines k (by simp [hk]),fun h => hbefore (h ▸ hk)⟩)] at hparse
  obtain ⟨⟨rest,hcut⟩,-⟩ := hparse
  -- the lines behind the empty one and the delimiter, with the line break of the empty one
  have hshift : CRLF++(textLines after++dashBoundary boundary) =
      (after.map (fun l => utf8 (String.ofList l))).flatMap (fun l => 13::10::l)++
        delimiter boundary := lineBreaks after (dashBoundary boundary)
  have hnone : ¬delimiter boundary <:+:
      (after.map (fun l => utf8 (String.ofList l))).flatMap (fun l => 13::10::l) := by
    intro hinside
    apply hpreamble.bytes
    have hlater : CRLF++textLines (l::(before++[]::after)) = (CRLF++textLines (l::before))++
        ((after.map (fun l => utf8 (String.ofList l))).flatMap (fun l => 13::10::l)++CRLF) := by
      have hbreaks := lineBreaks after []
      rw [List.append_nil,List.append_nil] at hbreaks
      rw [← hbreaks]
      simp
    rw [hlater]
    exact (hinside.trans (List.prefix_append _ CRLF).isInfix).trans (List.suffix_append _ _).isInfix
  have hclear := clear_delimiter hb hnone (hfirst.not_closing (laterParts boundary others++
    (delimiter boundary++(utf8 "--"++epilogue))))
  rw [← hshift] at hclear
  refine delimiter_infix_of_cut ?_ (clear_append.mp hclear).2 hcut
  rw [hshift]
  exact (List.suffix_append _ _).isInfix

/-- The file that is read, when the first empty line comes after the headers of the first part. -/
private theorem read_headers (hb : IsBoundary boundary) (hpreamble : IsPreamble boundary preamble)
    (hfirst : first.WellFormed boundary) (hnonempty : [] ∉ preamble.tail) {rest : Bytes}
    (hrest : afterHeaders boundary first others epilogue = CRLF++rest)
    (hparse : parseBody lib boundary maxFileSizeBytes
      (encodeBody boundary preamble first others epilogue) = .ok result) :
    (∃ after,cut? (delimiter boundary++utf8 "--") rest = some (result.bytes,after)) ∧
      Introduces "filename" (dispositionOf (preamble++first.lines)) result.filename.toList ∧
      result.contentType = mediaTypeOf lib (typeHeaderOf (preamble++first.lines)) := by
  have hshown := shownLines_wellFormed hb hfirst
  -- the first line may be empty, the others are not
  have hsplit : ∃ l ls,preamble++(delimiterLine boundary first::first.lines) = l::ls ∧ '\r' ∉ l ∧
      ∀ k ∈ ls,'\r' ∉ k ∧ k ≠ [] := by
    cases preamble with
    | nil =>
      exact ⟨_,_,rfl,(hshown _ List.mem_cons_self).1,
        fun k hk => hshown k (List.mem_cons_of_mem _ hk)⟩
    | cons l ls =>
      refine ⟨l,_,rfl,hpreamble.lines l List.mem_cons_self,?_⟩
      intro k hk
      rcases List.mem_append.mp hk with hk | hk
      · exact ⟨hpreamble.lines k (List.mem_cons_of_mem l hk),fun h => hnonempty (h ▸ hk)⟩
      · exact hshown k hk
  obtain ⟨l,ls,hlist,hl,hls⟩ := hsplit
  rw [encodeBody_eq,hrest,hlist,parseBody_textLines hl hls,← hlist,partFilename_eq_ok_iff] at hparse
  obtain ⟨hcut,⟨-,hfilename⟩,-,htype⟩ := hparse
  rw [partType,typeHeaderOf,find_delimiterLine rfl] at htype
  rw [dispositionOf,find_delimiterLine rfl] at hfilename
  exact ⟨hcut,hfilename,htype⟩

/-- Either a delimiter is read with the file, or the body has one part and no empty line before its
headers, and what is read is the content of this part. -/
private theorem read_body (hb : IsBoundary boundary) (hpreamble : IsPreamble boundary preamble)
    (hfirst : first.WellFormed boundary) (hothers : ∀ p ∈ others,p.WellFormed boundary)
    (hparse : parseBody lib boundary maxFileSizeBytes
      (encodeBody boundary preamble first others epilogue) = .ok result) :
    (delimiter boundary <:+: CRLF++result.bytes ∧
      ¬(others = [] ∧ [] ∉ preamble.tail ∧ first.body ≠ none)) ∨
    (others = [] ∧ [] ∉ preamble.tail ∧ first.body = some result.bytes ∧
      Introduces "filename" (dispositionOf (preamble++first.lines)) result.filename.toList ∧
      result.contentType = mediaTypeOf lib (typeHeaderOf (preamble++first.lines))) := by
  by_cases hempty : [] ∈ preamble.tail
  · exact .inl ⟨read_emptyLine hb hpreamble hfirst hempty hparse,fun h => h.2.1 hempty⟩
  · obtain ⟨y,hy,hnext⟩ := laterParts_append hothers epilogue
    have hcr := cr_notMem_delimiter hb.cr_notMem
    cases hbody : first.body with
    | none =>
      -- the line break of the next delimiter makes the empty line
      have hrest : afterHeaders boundary first others epilogue = CRLF++(dashBoundary boundary++y) := by
        rw [afterHeaders,hbody,hy]
        rfl
      obtain ⟨⟨after,hcut⟩,-⟩ := read_headers hb hpreamble hfirst hempty hrest hparse
      refine .inl ⟨delimiter_infix_of_cut (List.infix_refl _) (clear_of_notMem ?_) hcut,
        fun h => h.2.2 rfl⟩
      exact fun h => hcr (List.mem_cons_of_mem 10 h)
    | some body =>
      have hcontent : ¬delimiter boundary <:+: body := by
        have hnot := hfirst.notInfix_content
        rw [Part.content,hbody] at hnot
        exact fun h => hnot (h.trans (List.suffix_append _ _).isInfix)
      have hrest : afterHeaders boundary first others epilogue = CRLF++(body++(delimiter boundary++y)) := by
        rw [afterHeaders,hbody,hy]
        exact List.append_assoc _ _ _
      obtain ⟨⟨after,hcut⟩,hfilename,htype⟩ :=
        read_headers hb hpreamble hfirst hempty hrest hparse
      rcases hnext with ⟨honly,rfl⟩ | ⟨hmore,hnot⟩
      · have hclear : Clear (delimiter boundary++utf8 "--") body
            ((delimiter boundary++utf8 "--")++epilogue) := by
          rw [List.append_assoc]
          exact clear_of_notInfix hcr hcontent
        rw [← List.append_assoc (delimiter boundary),cut_eq_of_clear hclear] at hcut
        obtain ⟨hbytes,-⟩ := Prod.mk.inj (Option.some.inj hcut)
        exact .inr ⟨honly,hempty,congrArg some hbytes,hfilename,htype⟩
      · rw [← List.append_assoc] at hcut
        refine .inl ⟨delimiter_infix_of_cut ?_ (clear_delimiter hb hcontent hnot) hcut,
          fun h => hmore h.1⟩
        exact ((List.suffix_append body _).trans (List.suffix_append CRLF _)).isInfix

end Soundness

section Prototype

/-- A part with a Content-Disposition of its own parameters, of the type if there is one. -/
def formPart (parameters : List Parameter) (contentType : Option String) (bytes : Bytes) : Part where
  headers :=
    .unfolded (.disposition "Content-Disposition".toList [' '] "form-data".toList parameters [])::
      (contentType.map (fun value =>
        Header.unfolded (.contentType "Content-Type".toList (' ' :: value.toList)))).toList
  body := some bytes

def nameParameter (name : String) : Parameter := { key := "name".toList, sent := name.toList }

def filenameParameter (filename : String) : Parameter :=
  { key := "filename".toList, sent := filename.toList }

def reportPart : Part :=
  formPart [nameParameter "file",filenameParameter "report.txt"] (some "text/plain") (utf8 "report")

def notePart : Part := formPart [nameParameter "note"] none (utf8 "done")

/-- A field `avatar` whose file is called `file`, with the file name in front. -/
def avatarPart : Part := formPart [filenameParameter "file",nameParameter "avatar"] none (utf8 "picture")

def readForm (preamble : List (List Char)) (first : Part) (others : List Part) :
    Except EvidenceError MultipartEvidence :=
  readEvidenceMultipart asciiLibrary (some (contentTypeHeader "x" false))
    [encodeBody "x" preamble first others []] 1000

private theorem unfolded_wellFormed {f : Field} (h : f.WellFormed) : (Header.unfolded f).WellFormed :=
  ⟨h,List.append_nil f.text,fun _ hl => absurd hl List.not_mem_nil⟩

private theorem parameter_wellFormed {key value : String} (hkey : key.toList.all isTokenChar = true)
    (hvalue : isQuotedText value.toList = true) :
    ({ key := key.toList, sent := value.toList } : Parameter).WellFormed :=
  ⟨by simp [isSpacing,isBlank],hkey,fun _ => hvalue,nofun⟩

private theorem formPart_wellFormed {parameters : List Parameter} {contentType : Option String}
    {bytes : Bytes} (hparameters : ∀ p ∈ parameters,p.WellFormed)
    (htype : ∀ value ∈ contentType,value.toList.all (fun c => !(['\r','\n'].contains c)) = true)
    (hbytes : ¬delimiter "x" <:+: CRLF++(formPart parameters contentType bytes).bytes) :
    (formPart parameters contentType bytes).WellFormed "x" := by
  have hdisposition : "Content-Disposition".toList.map Char.toLower =
      "content-disposition".toList := by decide
  have htypeLabel : "Content-Type".toList.map Char.toLower = "content-type".toList := by decide
  refine ⟨rfl,?_,hbytes⟩
  intro h hh
  rcases List.mem_cons.mp hh with rfl | hh
  · exact unfolded_wellFormed ⟨hdisposition,by decide,by decide,hparameters,rfl⟩
  · obtain ⟨value,hvalue,rfl⟩ := Option.map_eq_some_iff.mp (Option.mem_toList.mp hh)
    refine unfolded_wellFormed ⟨htypeLabel,?_⟩
    rw [List.all_cons,htype value hvalue]
    decide

theorem reportPart_wellFormed : reportPart.WellFormed "x" := by
  apply formPart_wellFormed
  · intro p hp
    rcases List.mem_cons.mp hp with rfl | hp
    · exact parameter_wellFormed (by decide) (by decide)
    · obtain rfl := List.mem_singleton.mp hp
      exact parameter_wellFormed (by decide) (by decide)
  · intro value hvalue
    obtain rfl := Option.some.inj hvalue
    decide
  · decide +kernel

theorem notePart_wellFormed : notePart.WellFormed "x" := by
  apply formPart_wellFormed
  · intro p hp
    obtain rfl := List.mem_singleton.mp hp
    exact parameter_wellFormed (by decide) (by decide)
  · exact nofun
  · decide +kernel

theorem avatarPart_wellFormed : avatarPart.WellFormed "x" := by
  apply formPart_wellFormed
  · intro p hp
    rcases List.mem_cons.mp hp with rfl | hp
    · exact parameter_wellFormed (by decide) (by decide)
    · obtain rfl := List.mem_singleton.mp hp
      exact parameter_wellFormed (by decide) (by decide)
  · exact nofun
  · decide +kernel

/-- A line before the first delimiter. -/
def greeting : List (List Char) := ["A form".toList]

private theorem greeting_isPreamble : IsPreamble "x" greeting := by
  refine ⟨?_,by decide +kernel⟩
  intro l hl
  obtain rfl := List.mem_singleton.mp hl
  decide

private theorem reportPart_plainlySent : PlainlySent greeting reportPart [] where
  only := rfl
  noEmptyLine := List.not_mem_nil
  noHeader l hl := by
    obtain rfl := List.mem_singleton.mp hl
    decide
  body := Option.some_ne_none _
  fieldName := .inl (by decide)
  filename := by
    refine ⟨_,_,_,_,[nameParameter "file"],filenameParameter "report.txt",[],_,rfl,rfl,rfl,?_,
      ⟨rfl,rfl,rfl,rfl⟩,rfl,rfl,by decide,by decide⟩
    intro r hr
    obtain rfl := List.mem_singleton.mp hr
    exact ⟨⟨rfl,rfl,rfl,rfl⟩,by decide,by decide,by decide⟩
  contentType h hheader := by
    obtain rfl := Option.some.inj hheader
    rfl

end Prototype

end BelLedger
