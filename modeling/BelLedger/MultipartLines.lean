import BelLedger.MultipartParser

/-!
# Where the parser divides a body

The lines up to the first empty line are the header block, and the file ends at the closing delimiter
behind it.
-/
namespace BelLedger.EvidenceMultipart
open DelimiterSearch

def dashBoundary (boundary : String) : Bytes := utf8 ("--"++boundary)

def delimiter (boundary : String) : Bytes := CRLF++dashBoundary boundary

/-- Lines as they are sent, each with its line break. -/
def textLines (ls : List (List Char)) : Bytes :=
  ls.flatMap (fun l => utf8 (String.ofList l)++CRLF)

/-- A boundary may be given in quotes. -/
def contentTypeHeader (boundary : String) (quoted : Bool) : String :=
  if quoted then "multipart/form-data; boundary=\""++boundary++"\""
  else "multipart/form-data; boundary="++boundary

def IsBoundary (boundary : String) : Prop :=
  boundary ≠ "" ∧ boundary.toList.all (fun c => !(['"',';','\r','\n'].contains c)) = true

instance (boundary : String) : Decidable (IsBoundary boundary) :=
  inferInstanceAs (Decidable (_ ∧ _))

theorem notMem_of_all {cs marks : List Char} {c : Char}
    (h : cs.all (fun c => !(marks.contains c)) = true) (hc : c ∈ marks) : c ∉ cs := by
  intro hmem
  have hnot := List.all_eq_true.mp h c hmem
  simp [hc] at hnot

theorem IsBoundary.cr_notMem {boundary : String} (h : IsBoundary boundary) :
    '\r' ∉ boundary.toList := notMem_of_all h.2 (by decide)

section Lines

@[simp] theorem utf8_empty : utf8 "" = [] := by decide

@[simp] theorem textLines_nil : textLines [] = [] := rfl

@[simp] theorem textLines_cons (l : List Char) (ls : List (List Char)) :
    textLines (l::ls) = utf8 (String.ofList l)++(CRLF++textLines ls) := by
  simp [textLines]

@[simp] theorem textLines_append (ls ls' : List (List Char)) :
    textLines (ls++ls') = textLines ls++textLines ls' := List.flatMap_append

private theorem utf8_lines (l : List Char) (ls : List (List Char)) :
    utf8 (String.ofList (l++ls.flatMap (fun l => '\r' :: '\n' :: l))) =
      utf8 (String.ofList l)++
        (ls.map (fun l => utf8 (String.ofList l))).flatMap (fun l => 13::10::l) := by
  have hreturn : String.utf8EncodeChar '\r' = [13] := by decide
  have hfeed : String.utf8EncodeChar '\n' = [10] := by decide
  induction ls generalizing l with
  | nil => simp
  | cons l' ls ih =>
    have hrest := ih l'
    simp only [utf8_ofList,List.flatMap_append,List.flatMap_cons,List.map_cons,hreturn,hfeed] at hrest ⊢
    simp only [List.cons_append,List.nil_append,List.append_cancel_left_eq] at hrest ⊢
    rw [hrest]

/-- The line breaks may be counted before the lines instead of behind them. -/
theorem lineBreaks (ls : List (List Char)) (rest : Bytes) :
    CRLF++(textLines ls++rest) =
      (ls.map (fun l => utf8 (String.ofList l))).flatMap (fun l => 13::10::l)++(CRLF++rest) := by
  induction ls with
  | nil => rfl
  | cons l ls ih =>
    simp only [textLines_cons,List.map_cons,List.flatMap_cons,List.append_assoc] at ih ⊢
    rw [ih]
    rfl

theorem cr_notMem_utf8 {l : List Char} (h : '\r' ∉ l) : 13 ∉ utf8 (String.ofList l) :=
  notMem_utf8 h rfl (by decide)

theorem utf8_ne_nil {l : List Char} (h : l ≠ []) : utf8 (String.ofList l) ≠ [] := by
  obtain ⟨c,cs,rfl⟩ := List.exists_cons_of_ne_nil h
  rw [utf8_ofList,Ne,List.flatMap_eq_nil_iff]
  intro hnil
  exact absurd (hnil c List.mem_cons_self) String.utf8EncodeChar_ne_nil

theorem cr_notMem_delimiter {boundary : String} (hb : '\r' ∉ boundary.toList) : 13 ∉ 10::dashBoundary boundary := by
  have hdash : 13 ∉ dashBoundary boundary := by
    rw [dashBoundary,← String.ofList_toList (s := "--"++boundary)]
    apply cr_notMem_utf8
    simpa using hb
  simpa using hdash

end Lines

section Division
variable {boundary : String} {l : List Char} {ls : List (List Char)} {rest : Bytes}

/-- What the parser makes of lines of which none behind the first is empty, an empty line, and what
follows it. -/
theorem parseBody_textLines {lib : NodeLibrary} {maxFileSizeBytes : ℕ} {result : MultipartEvidence}
    (hl : '\r' ∉ l) (hls : ∀ l ∈ ls,'\r' ∉ l ∧ l ≠ []) :
    parseBody lib boundary maxFileSizeBytes (textLines (l::ls)++(CRLF++rest)) = .ok result ↔
      (∃ after,cut? (delimiter boundary++utf8 "--") rest = some (result.bytes,after)) ∧
        partFilename (l::ls) = .ok result.filename ∧ result.bytes.length ≤ maxFileSizeBytes ∧
        result.contentType = partType lib (l::ls) := by
  have hblock : textLines (l::ls)++(CRLF++rest) =
      utf8 (String.ofList (l++ls.flatMap (fun l => '\r' :: '\n' :: l)))++((CRLF++CRLF)++rest) := by
    rw [utf8_lines,textLines_cons]
    simp only [List.append_assoc]
    rw [lineBreaks ls (CRLF++rest)]
  have hclear : Clear (CRLF++CRLF)
      (utf8 (String.ofList (l++ls.flatMap (fun l => '\r' :: '\n' :: l)))) ((CRLF++CRLF)++rest) := by
    rw [utf8_lines]
    apply clear_lines (by decide) (cr_notMem_utf8 hl)
    intro bytes hbytes
    obtain ⟨line,hline,rfl⟩ := List.mem_map.mp hbytes
    exact ⟨cr_notMem_utf8 (hls line hline).1,utf8_ne_nil (hls line hline).2⟩
  have hmarker : CRLF++utf8 ("--"++boundary)++utf8 "--" = delimiter boundary++utf8 "--" := rfl
  rw [hblock,parseBody,cut_eq_of_clear hclear]
  dsimp only
  rw [decodeUtf8_utf8,String.toList_ofList,splitAtPair_lines hl (fun l h => (hls l h).1),hmarker]
  cases cut? (delimiter boundary++utf8 "--") rest with
  | none => simp
  | some pieces =>
    obtain ⟨bytes,after⟩ := pieces
    dsimp only
    rw [CheckedCalls.ok_bind_iff]
    simp only [CheckedCalls.revertIf_bind_eq_ok,CheckedCalls.ok_pure_iff]
    constructor
    · rintro ⟨filename,hfilename,hsize,rfl⟩
      exact ⟨⟨after,rfl⟩,hfilename,Nat.le_of_not_lt hsize,rfl⟩
    · rintro ⟨⟨after',hcut⟩,hfilename,hsize,htype⟩
      obtain ⟨rfl,-⟩ := Prod.mk.inj (Option.some.inj hcut)
      refine ⟨result.filename,hfilename,Nat.not_lt.mpr hsize,?_⟩
      rw [← htype]

/-- The file name is taken from the first line of Content-Disposition, when a `name="` introduces the
field of a file there. -/
theorem partFilename_eq_ok_iff {lines : List (List Char)} {filename : String} :
    partFilename lines = .ok filename ↔
      (∃ name,Introduces "name" (dispositionOf lines) name ∧ String.ofList name ∈ ["file","evidence"]) ∧
        Introduces "filename" (dispositionOf lines) filename.toList := by
  have hname : ∀ value,firstMatch (parameterPattern "name") (dispositionOf lines) = some value ↔
      Introduces "name" (dispositionOf lines) value := fun _ => firstMatch_eq_some_iff (by decide)
  have hfilename : firstMatch (parameterPattern "filename") (dispositionOf lines) =
      some filename.toList ↔ Introduces "filename" (dispositionOf lines) filename.toList :=
    firstMatch_eq_some_iff (by decide)
  simp only [← hname,← hfilename]
  unfold partFilename
  dsimp only
  cases firstMatch (parameterPattern "filename") (dispositionOf lines) with
  | none => simp
  | some found =>
    have hsame : String.ofList found = filename ↔ found = filename.toList := by
      rw [← String.toList_inj,String.toList_ofList]
    cases firstMatch (parameterPattern "name") (dispositionOf lines) with
    | none => simp
    | some name =>
      by_cases hfield : String.ofList name ∈ ["file","evidence"]
      · simp only [if_pos hfield,Except.ok.injEq,hsame,Option.some.injEq]
        exact ⟨fun h => ⟨⟨name,rfl,hfield⟩,h⟩,fun h => h.2⟩
      · simp only [if_neg hfield,Option.some.injEq]
        constructor
        · exact nofun
        · rintro ⟨⟨name,rfl,hmem⟩,-⟩
          exact absurd hmem hfield

end Division

section Requests
variable {boundary : String}

private theorem firstMatch_boundary_skip {pre : List Char}
    (h : pre.all (fun c => c.toLower != 'b') = true)
    (rest : List Char) :
    firstMatch boundaryPattern (pre++rest) = firstMatch boundaryPattern rest := by
  induction pre with
  | nil => rfl
  | cons c pre ih =>
    rw [List.all_cons,Bool.and_eq_true,bne_iff_ne] at h
    have hb : "boundary=".toList = 'b' :: "oundary=".toList := by decide
    have hnone : boundaryPattern (c::(pre++rest)) = none := by
      rw [boundaryPattern,hb,stripPrefix,if_neg h.1]
      rfl
    rw [List.cons_append,firstMatch,hnone,Option.none_or]
    exact ih h.2

private theorem firstMatch_of_some {rest value : List Char} (h : boundaryPattern rest = some value) :
    firstMatch boundaryPattern rest = some value := by
  cases rest with
  | nil => exact h
  | cons c cs =>
    rw [firstMatch,h]
    rfl

/-- The boundary is found, with or without quotes around it. -/
theorem firstMatch_contentTypeHeader (hb : IsBoundary boundary) (quoted : Bool) :
    firstMatch boundaryPattern (contentTypeHeader boundary quoted).toList = some boundary.toList := by
  have hne : boundary.toList ≠ [] := by
    rw [Ne,String.toList_eq_nil_iff]
    exact hb.1
  have hquote : '"' ∉ boundary.toList := notMem_of_all hb.2 (by decide)
  have hsemicolon : ';' ∉ boundary.toList := notMem_of_all hb.2 (by decide)
  have hvalue : ∀ rest,(quotedBoundary rest).or (plainBoundary rest) = some boundary.toList →
      firstMatch boundaryPattern
        ("multipart/form-data; ".toList++("boundary=".toList++rest)) = some boundary.toList := by
    intro rest hrest
    rw [firstMatch_boundary_skip (by decide)]
    apply firstMatch_of_some
    rw [boundaryPattern,stripPrefix_append (by decide)]
    exact hrest
  cases quoted with
  | true =>
    have htext : (contentTypeHeader boundary true).toList = "multipart/form-data; ".toList++
        ("boundary=".toList++('"' :: (boundary.toList++['"']))) := by
      simp [contentTypeHeader]
    rw [htext]
    apply hvalue
    rw [quotedBoundary,untilQuote_append hquote]
    simp [hne]
  | false =>
    have htext : (contentTypeHeader boundary false).toList = "multipart/form-data; ".toList++
        ("boundary=".toList++boundary.toList) := by
      simp [contentTypeHeader]
    rw [htext]
    apply hvalue
    have htake : boundary.toList.takeWhile (fun c => c != ';') = boundary.toList := by
      rw [List.takeWhile_eq_self_iff]
      intro c hc
      simp only [bne_iff_ne]
      rintro rfl
      exact hsemicolon hc
    obtain ⟨c,cs,hc⟩ := List.exists_cons_of_ne_nil hne
    have hfirst : quotedBoundary boundary.toList = none := by
      rw [hc] at hquote ⊢
      unfold quotedBoundary
      split
      · rename_i heq
        obtain rfl := (List.cons.inj heq).1
        exact absurd List.mem_cons_self hquote
      · rfl
    rw [hfirst,plainBoundary,htake]
    simp [hne]

/-- A request with the body in chunks of any division. -/
theorem readEvidenceMultipart_eq (lib : NodeLibrary) (maxFileSizeBytes : ℕ)
    (hb : IsBoundary boundary) (quoted : Bool) (chunks : List Bytes) :
    readEvidenceMultipart lib (some (contentTypeHeader boundary quoted)) chunks maxFileSizeBytes =
      if maxFileSizeBytes + 32 * 1024 < chunks.flatten.length then
        .error (.PayloadTooLargeError "Uploaded file exceeds the configured size limit")
      else parseBody lib boundary maxFileSizeBytes chunks.flatten := by
  rw [readEvidenceMultipart,Option.getD_some,firstMatch_contentTypeHeader hb]
  dsimp only
  rw [readChunks_eq chunks (Nat.zero_le _),Nat.zero_add,String.ofList_toList]
  by_cases hlong : maxFileSizeBytes + 32 * 1024 < chunks.flatten.length
  · rw [if_pos hlong,if_pos hlong]
  · rw [if_neg hlong,if_neg hlong]

end Requests

end BelLedger.EvidenceMultipart
