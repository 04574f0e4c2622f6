import BelLedger.MultipartLines

/-!
# Bodies of the form multipart/form-data

The parts as their senders mean them and the bytes that are sent. Header lines may be folded, quoted
values have escapes, comments stand between the tokens, and there may be text before the first delimiter
and behind the last one.
-/
namespace BelLedger.EvidenceMultipart
open DelimiterSearch

/-- A character of a `token`. -/
def isTokenChar (c : Char) : Bool :=
  33 ≤ c.toNat && c.toNat ≤ 126 &&
    !(['(',')','<','>','@',',',';',':','\\','"','/','[',']','?','='].contains c)

def isBlank (c : Char) : Bool := [' ','\t'].contains c

/-- Blanks and comments, which may be nested, with so many comments open. -/
def isSpacing : ℕ → List Char → Bool
  | n,[] => n = 0
  | 0,c::cs => if c = '(' then isSpacing 1 cs else isBlank c && isSpacing 0 cs
  | n + 1,'\\' :: c::cs => !(['\r','\n'].contains c) && isSpacing (n + 1) cs
  | n + 1,c::cs =>
    if c = '(' then isSpacing (n + 2) cs
    else if c = ')' then isSpacing n cs
    else !(['\\','\r','\n'].contains c) && isSpacing (n + 1) cs

/-- What stands between quotes: a quote or a backslash comes behind a backslash. -/
def isQuotedText : List Char → Bool
  | [] => true
  | '\\' :: c::cs => !(['\r','\n'].contains c) && isQuotedText cs
  | c::cs => !(['"','\\','\r','\n'].contains c) && isQuotedText cs

/-- The text that is meant. -/
def unescape : List Char → List Char
  | [] => []
  | '\\' :: c::cs => c::unescape cs
  | c::cs => c::unescape cs

/-- A parameter of Content-Disposition as it is sent, with the spacing between its tokens. -/
structure Parameter where
  beforeSemicolon : List Char := []
  afterSemicolon : List Char := [' ']
  key : List Char
  beforeEquals : List Char := []
  afterEquals : List Char := []
  quoted : Bool := true
  sent : List Char
  deriving DecidableEq

/-- A header field of a part: the name in any letters, and what stands behind the colon. -/
inductive Field
  | disposition (label spacing kind : List Char) (parameters : List Parameter) (trailing : List Char)
  | contentType (label value : List Char)
  | other (label value : List Char)

/-- A field with its division into lines: what stands on the first one behind the colon, and the lines
that continue it. -/
structure Header where
  field : Field
  first : List Char
  continuations : List (List Char) := []

/-- The padding stands behind the boundary in the delimiter line. Without a body no empty line comes
after the headers. -/
structure Part where
  padding : List Char := []
  headers : List Header
  body : Option Bytes

section Syntax

namespace Parameter

def value (p : Parameter) : List Char := if p.quoted then unescape p.sent else p.sent

def text (p : Parameter) : List Char :=
  p.beforeSemicolon++(';' :: (p.afterSemicolon++(p.key++(p.beforeEquals++('=' :: (p.afterEquals++
    (if p.quoted then '"' :: (p.sent++['"']) else p.sent)))))))

structure WellFormed (p : Parameter) : Prop where
  spacing : ∀ cs ∈ [p.beforeSemicolon,p.afterSemicolon,p.beforeEquals,p.afterEquals],
    isSpacing 0 cs = true
  key : p.key.all isTokenChar = true
  quotedText : p.quoted = true → isQuotedText p.sent = true
  token : p.quoted = false → p.sent.all isTokenChar = true

end Parameter

def parametersText (ps : List Parameter) : List Char := ps.flatMap Parameter.text

namespace Field

def label : Field → List Char
  | disposition label _ _ _ _ => label
  | contentType label _ => label
  | other label _ => label

/-- What stands behind the colon, on whatever lines. -/
def text : Field → List Char
  | disposition _ spacing kind parameters trailing =>
    spacing++(kind++(parametersText parameters++trailing))
  | contentType _ value => value
  | other _ value => value

/-- The field is called so, in letters of either case. -/
def Called (f : Field) (name : String) : Prop := f.label.map Char.toLower = name.toList

instance (f : Field) (name : String) : Decidable (f.Called name) :=
  inferInstanceAs (Decidable (f.label.map Char.toLower = name.toList))

def WellFormed : Field → Prop
  | f@(disposition _ spacing kind parameters trailing) => f.Called "content-disposition" ∧
    isSpacing 0 spacing = true ∧ kind.all isTokenChar = true ∧ (∀ p ∈ parameters,p.WellFormed) ∧
    isSpacing 0 trailing = true
  | f@(contentType _ value) => f.Called "content-type" ∧
    value.all (fun c => !(['\r','\n'].contains c)) = true
  | f@(other label value) => label.all isTokenChar = true ∧ ¬f.Called "content-disposition" ∧
    ¬f.Called "content-type" ∧ value.all (fun c => !(['\r','\n'].contains c)) = true

end Field

namespace Header

/-- A header on one line. -/
def unfolded (f : Field) : Header := ⟨f,f.text,[]⟩

def line (h : Header) : List Char := h.field.label++(':' :: h.first)

def lines (h : Header) : List (List Char) := h.line::h.continuations

/-- A line begins with a blank if it continues another one. -/
structure WellFormed (h : Header) : Prop where
  field : h.field.WellFormed
  folded : h.first++h.continuations.flatten = h.field.text
  continued : ∀ l ∈ h.continuations,(l.head?.any isBlank) = true

end Header

namespace Part

def header (p : Part) (name : String) : Option Header :=
  p.headers.find? (fun h => h.field.Called name)

def parameters (p : Part) : List Parameter :=
  match (p.header "content-disposition").map Header.field with
  | some (.disposition _ _ _ parameters _) => parameters
  | _ => []

/-- The value of the parameter with the key. -/
def parameter (p : Part) (key : String) : Option String :=
  (p.parameters.find? (fun q => q.key.map Char.toLower = key.toList)).map
    (fun q => String.ofList q.value)

def fieldName (p : Part) : Option String := p.parameter "name"

def filename (p : Part) : Option String := p.parameter "filename"

/-- The media type in small letters. -/
def mediaType (lib : NodeLibrary) (p : Part) : String :=
  mediaTypeOf lib ((p.header "content-type").map (fun h => h.field.text))

def content (p : Part) : Bytes := p.body.getD []

def lines (p : Part) : List (List Char) := p.headers.flatMap Header.lines

/-- The header lines, and the body behind an empty line. -/
def bytes (p : Part) : Bytes :=
  textLines p.lines++(match p.body with
    | none => []
    | some body => CRLF++body)

/-- What follows the boundary. -/
def encapsulated (p : Part) : Bytes := utf8 (String.ofList p.padding)++(CRLF++p.bytes)

/-- No delimiter occurs in a part. -/
structure WellFormed (boundary : String) (p : Part) : Prop where
  padding : p.padding.all isBlank = true
  headers : ∀ h ∈ p.headers,h.WellFormed
  bytes : ¬delimiter boundary <:+: CRLF++p.bytes

end Part

/-- The parts behind the first, each behind a delimiter. -/
def laterParts (boundary : String) (others : List Part) : Bytes :=
  others.flatMap (fun p => delimiter boundary++p.encapsulated)

/-- The body as it is sent, with lines before its first delimiter and an epilogue behind the closing
one. -/
def encodeBody (boundary : String) (preamble : List (List Char)) (first : Part) (others : List Part)
    (epilogue : Bytes) : Bytes :=
  textLines preamble++(dashBoundary boundary++(first.encapsulated++(laterParts boundary others++
    (delimiter boundary++(utf8 "--"++epilogue)))))

/-- No delimiter occurs in the lines before the first one. -/
structure IsPreamble (boundary : String) (preamble : List (List Char)) : Prop where
  lines : ∀ l ∈ preamble,'\r' ∉ l
  bytes : ¬delimiter boundary <:+: CRLF++textLines preamble

end Syntax

example : unescape "a\\\"b".toList = "a\"b".toList := by decide

section Lines

theorem notMem_of_token {cs : List Char} {c : Char} (h : cs.all isTokenChar = true)
    (hc : isTokenChar c = false) : c ∉ cs := by
  intro hmem
  rw [List.all_eq_true.mp h c hmem] at hc
  cases hc

theorem cr_notMem_spacing {n : ℕ} {cs : List Char} (h : isSpacing n cs = true) : '\r' ∉ cs := by
  have hparen : '\r' ≠ '(' ∧ '\r' ≠ ')' ∧ '\r' ≠ '\\' ∧ isBlank '\r' = false := by decide
  fun_induction isSpacing n cs with
  | case1 n => exact List.not_mem_nil
  | case2 cs ih => simpa using ih h
  | case3 c cs hc ih =>
    rw [Bool.and_eq_true] at h
    rw [List.mem_cons,not_or]
    refine ⟨?_,ih h.2⟩
    rintro rfl
    exact absurd h.1 (by decide)
  | case4 n c cs ih =>
    rw [Bool.and_eq_true] at h
    have hc : c ≠ '\r' := by
      rintro rfl
      exact absurd h.1 (by decide)
    simpa [Ne.symm hc] using ih h.2
  | case5 n cs hback ih => simpa using ih h
  | case6 n cs hback hopen ih => simpa using ih h
  | case7 n c cs hback hopen hclose ih =>
    rw [Bool.and_eq_true] at h
    have hc : c ≠ '\r' := by
      rintro rfl
      exact absurd h.1 (by decide)
    simpa [Ne.symm hc] using ih h.2

theorem cr_notMem_quotedText {cs : List Char} (h : isQuotedText cs = true) : '\r' ∉ cs := by
  fun_induction isQuotedText cs with
  | case1 => exact List.not_mem_nil
  | case2 c cs ih =>
    rw [Bool.and_eq_true] at h
    have hc : c ≠ '\r' := by
      rintro rfl
      exact absurd h.1 (by decide)
    simpa [Ne.symm hc] using ih h.2
  | case3 c cs hback ih =>
    rw [Bool.and_eq_true] at h
    have hc : c ≠ '\r' := by
      rintro rfl
      exact absurd h.1 (by decide)
    simpa [Ne.symm hc] using ih h.2

theorem Parameter.WellFormed.cr_notMem_text {q : Parameter} (hwell : q.WellFormed) :
    '\r' ∉ q.text := by
  have hspacing : ∀ cs ∈ [q.beforeSemicolon,q.afterSemicolon,q.beforeEquals,q.afterEquals],
      '\r' ∉ cs := fun cs hcs => cr_notMem_spacing (hwell.spacing cs hcs)
  simp only [List.forall_mem_cons] at hspacing
  obtain ⟨hbefore,hafter,hequals,hvalue,-⟩ := hspacing
  have hkey : '\r' ∉ q.key := notMem_of_token hwell.key (by decide)
  unfold Parameter.text
  cases hquoted : q.quoted with
  | false =>
    have hsent : '\r' ∉ q.sent := notMem_of_token (hwell.token hquoted) (by decide)
    simp [hbefore,hafter,hequals,hvalue,hkey,hsent]
  | true =>
    have hsent : '\r' ∉ q.sent := cr_notMem_quotedText (hwell.quotedText hquoted)
    simp [hbefore,hafter,hequals,hvalue,hkey,hsent]

variable {f : Field} {h : Header} {p : Part} {name : String}

private theorem notMem_label_of_called {q : Char} (hq : q.isAlpha = false) (hcalled : f.Called name)
    (hname : q ∉ name.toList) : q ∉ f.label := by
  intro hmem
  apply hname
  rw [← hcalled,← (toLower_eq_mark_iff hq).mpr rfl]
  exact List.mem_map_of_mem hmem

/-- No name of a header has a colon or a line break. -/
theorem Field.WellFormed.notMem_label (hwell : f.WellFormed) {q : Char} (hq : q = ':' ∨ q = '\r') :
    q ∉ f.label := by
  have hmark : q.isAlpha = false ∧ isTokenChar q = false ∧ q ∉ "content-disposition".toList ∧
      q ∉ "content-type".toList := by
    rcases hq with rfl | rfl
    · decide
    · decide
  obtain ⟨halpha,htoken,hdisposition,htype⟩ := hmark
  cases f with
  | disposition label spacing kind parameters trailing =>
    exact notMem_label_of_called halpha hwell.1 hdisposition
  | contentType label value => exact notMem_label_of_called halpha hwell.1 htype
  | other label value => exact notMem_of_token hwell.1 htoken

theorem Field.WellFormed.cr_notMem_text (hwell : f.WellFormed) : '\r' ∉ f.text := by
  cases f with
  | disposition label spacing kind parameters trailing =>
    obtain ⟨-,hspacing,hkind,hparameters,htrailing⟩ := hwell
    have hlist : '\r' ∉ parametersText parameters := by
      intro hmem
      obtain ⟨q,hq,hc⟩ := List.mem_flatMap.mp hmem
      exact (hparameters q hq).cr_notMem_text hc
    simp [Field.text,cr_notMem_spacing hspacing,notMem_of_token hkind (c := '\r') (by decide),hlist,
      cr_notMem_spacing htrailing]
  | contentType label value => exact notMem_of_all hwell.2 (by decide)
  | other label value => exact notMem_of_all hwell.2.2.2 (by decide)

theorem Header.WellFormed.lines (hwell : h.WellFormed) : ∀ l ∈ h.lines,'\r' ∉ l ∧ l ≠ [] := by
  have htext := hwell.field.cr_notMem_text
  rw [← hwell.folded,List.mem_append,not_or] at htext
  intro l hl
  rcases List.mem_cons.mp hl with rfl | hl
  · simp [Header.line,hwell.field.notMem_label (.inr rfl),htext.1]
  · refine ⟨fun hc => htext.2 (List.mem_flatten.mpr ⟨l,hl,hc⟩),?_⟩
    rintro rfl
    exact absurd (hwell.continued [] hl) (by simp)

theorem Part.WellFormed.lines {boundary : String} (hwell : p.WellFormed boundary) :
    ∀ l ∈ p.lines,'\r' ∉ l ∧ l ≠ [] := by
  intro l hl
  obtain ⟨h,hh,hl⟩ := List.mem_flatMap.mp hl
  exact (hwell.headers h hh).lines l hl

theorem isHeader_line (hwell : h.field.WellFormed) (hname : ':' ∉ name.toList) :
    isHeader name h.line = decide (h.field.Called name) := by
  rw [isHeader,Header.line,stripPrefix_mark (by decide) hname (hwell.notMem_label (.inl rfl))]
  by_cases hcalled : h.field.label.map Char.toLower = name.toList
  · simp [Field.Called,hcalled]
  · simp [Field.Called,hcalled]

/-- A line that does not begin with the first letter of the name is no header of the name. -/
theorem isHeader_eq_false {l : List Char} {c : Char} {cs : List Char} (hname : name.toList = c::cs)
    (hl : ∀ c' ∈ l.head?,c'.toLower ≠ c) : isHeader name l = false := by
  rw [isHeader,hname]
  cases l with
  | nil => rfl
  | cons c' l =>
    have hc : ¬c'.toLower = c := hl c' rfl
    rw [List.cons_append,stripPrefix,if_neg hc]
    rfl

/-- The line that is found is the first one of the first header of the name. -/
theorem find_lines (hwell : ∀ h ∈ p.headers,h.WellFormed) {cs : List Char}
    (hname : name.toList = 'c' :: cs) (hcolon : ':' ∉ name.toList) :
    p.lines.find? (isHeader name) = (p.header name).map Header.line := by
  have hlines : ∀ hs : List Header,(∀ h ∈ hs,h.WellFormed) →
      (hs.flatMap Header.lines).find? (isHeader name) =
        (hs.find? (fun h => h.field.Called name)).map Header.line := by
    intro hs hwell
    induction hs with
    | nil => rfl
    | cons h hs ih =>
      have hh := hwell h List.mem_cons_self
      have hrest := ih (fun h' hmem => hwell h' (List.mem_cons_of_mem h hmem))
      have hcontinued : h.continuations.find? (isHeader name) = none := by
        rw [List.find?_eq_none]
        intro l hl
        rw [isHeader_eq_false hname]
        · exact Bool.false_ne_true
        · intro c hc
          have hblank := hh.continued l hl
          rw [Option.mem_def.mp hc] at hblank
          have hmark : c = ' ' ∨ c = '\t' := by simpa [isBlank] using hblank
          rcases hmark with rfl | rfl
          · decide
          · decide
      rw [List.flatMap_cons,Header.lines,List.cons_append,List.find?_cons,List.find?_append,hcontinued,
        Option.none_or,hrest,List.find?_cons,isHeader_line hh.field hcolon]
      split
      · rfl
      · rfl
  exact hlines p.headers hwell

end Lines

section Division
variable {boundary : String} {preamble : List (List Char)} {first : Part} {others : List Part}
  {epilogue : Bytes}

/-- The first delimiter line, behind the preamble. -/
def delimiterLine (boundary : String) (first : Part) : List Char :=
  ("--"++boundary).toList++first.padding

/-- What follows the header lines of the first part. -/
def afterHeaders (boundary : String) (first : Part) (others : List Part) (epilogue : Bytes) : Bytes :=
  (match first.body with
    | none => []
    | some body => CRLF++body)++
    (laterParts boundary others++(delimiter boundary++(utf8 "--"++epilogue)))

theorem encodeBody_eq :
    encodeBody boundary preamble first others epilogue =
      textLines (preamble++(delimiterLine boundary first::first.lines))++
        afterHeaders boundary first others epilogue := by
  have hline : utf8 (String.ofList (delimiterLine boundary first)) =
      dashBoundary boundary++utf8 (String.ofList first.padding) := by
    rw [delimiterLine,String.ofList_append,String.ofList_toList,utf8_append,dashBoundary]
  simp only [encodeBody,textLines_append,textLines_cons,hline,Part.encapsulated,Part.bytes,
    afterHeaders,List.append_assoc]

theorem delimiterLine_wellFormed (hb : IsBoundary boundary) (hpadding : first.padding.all isBlank = true) :
    '\r' ∉ delimiterLine boundary first ∧ delimiterLine boundary first ≠ [] := by
  have hblank : '\r' ∉ first.padding := by
    intro hmem
    exact absurd (List.all_eq_true.mp hpadding '\r' hmem) (by decide)
  simp [delimiterLine,hb.cr_notMem,hblank]

/-- The delimiter behind a text without one is the closing one only when two hyphens follow it. -/
theorem clear_delimiter (hb : IsBoundary boundary) {x y : Bytes} (hx : ¬delimiter boundary <:+: x)
    (hy : ¬utf8 "--" <+: y) : Clear (delimiter boundary++utf8 "--") (x++delimiter boundary) y := by
  have hcr := cr_notMem_delimiter hb.cr_notMem
  rw [clear_append]
  refine ⟨clear_of_notInfix hcr hx,?_,clear_of_notMem hcr⟩
  intro hprefix
  exact hy ((List.prefix_append_right_inj (delimiter boundary)).mp hprefix)

/-- Blanks or a line break stand behind the delimiter of a part. -/
theorem Part.WellFormed.not_closing {p : Part} (hwell : p.WellFormed boundary) (rest : Bytes) :
    ¬utf8 "--" <+: p.encapsulated++rest := by
  have hhyphen : utf8 "--" = [45,45] := by decide
  rw [hhyphen,Part.encapsulated,utf8_ofList]
  have hpadding := hwell.padding
  cases hp : p.padding with
  | nil =>
    intro hprefix
    have hbyte : (45 : UInt8) = 13 := (List.cons_prefix_cons.mp hprefix).1
    exact absurd hbyte (by decide)
  | cons c cs =>
    rw [hp,List.all_cons,Bool.and_eq_true] at hpadding
    have hmark : c = ' ' ∨ c = '\t' := by simpa [isBlank] using hpadding.1
    intro hprefix
    rcases hmark with rfl | rfl
    · have hbyte : (45 : UInt8) = 32 := (List.cons_prefix_cons.mp hprefix).1
      exact absurd hbyte (by decide)
    · have hbyte : (45 : UInt8) = 9 := (List.cons_prefix_cons.mp hprefix).1
      exact absurd hbyte (by decide)

/-- A delimiter follows the first part, which is the closing one when there is no other part. -/
theorem laterParts_append (hothers : ∀ p ∈ others,p.WellFormed boundary) (epilogue : Bytes) :
    ∃ y,laterParts boundary others++(delimiter boundary++(utf8 "--"++epilogue)) =
        delimiter boundary++y ∧
      ((others = [] ∧ y = utf8 "--"++epilogue) ∨ (others ≠ [] ∧ ¬utf8 "--" <+: y)) := by
  cases others with
  | nil => exact ⟨_,rfl,.inl ⟨rfl,rfl⟩⟩
  | cons p ps =>
    refine ⟨p.encapsulated++(laterParts boundary ps++(delimiter boundary++(utf8 "--"++epilogue))),
      by simp [laterParts],.inr ⟨List.cons_ne_nil p ps,?_⟩⟩
    exact (hothers p List.mem_cons_self).not_closing _

/-- A text before the closing delimiter with a delimiter in it is read with the file. -/
theorem delimiter_infix_of_cut {x y bytes after : Bytes} (hx : delimiter boundary <:+: CRLF++x)
    (hclear : Clear (delimiter boundary++utf8 "--") x y)
    (hcut : cut? (delimiter boundary++utf8 "--") (x++y) = some (bytes,after)) :
    delimiter boundary <:+: CRLF++bytes := by
  rw [cut_append hclear,Option.map_eq_some_iff] at hcut
  obtain ⟨pieces,-,hpieces⟩ := hcut
  obtain ⟨rfl,-⟩ := Prod.mk.inj hpieces
  rw [← List.append_assoc]
  exact hx.trans (List.prefix_append _ _).isInfix

/-- The content of a part does not go on over a delimiter. -/
theorem Part.WellFormed.notInfix_content {p : Part} (hwell : p.WellFormed boundary) :
    ¬delimiter boundary <:+: CRLF++p.content := by
  intro hinside
  apply hwell.bytes
  apply hinside.trans
  rw [Part.bytes,Part.content]
  cases p.body with
  | none => exact (List.prefix_append CRLF _).isInfix
  | some body =>
    rw [← List.append_assoc]
    exact (List.suffix_append _ _).isInfix

end Division

end BelLedger.EvidenceMultipart
