import BelLedger.MultipartLines

/-!
# The upload of one file

A request that carries one file is read back exactly, whatever bytes the file has and however the
request is divided into chunks.
-/
namespace BelLedger
open DelimiterSearch EvidenceMultipart

/-- The body of a request with one file. -/
def encodeFile (boundary filename contentType : String) (bytes epilogue : Bytes) : Bytes :=
  utf8 ("--"++boundary++"\r\n"++
    "Content-Disposition: form-data; name=\"file\"; filename=\""++filename++"\"\r\n"++
    "Content-Type: "++contentType++"\r\n\r\n")++
    (bytes++(utf8 ("\r\n--"++boundary++"--")++epilogue))

namespace EvidenceMultipart

/-- The lines before the empty line. -/
def fileLines (boundary filename contentType : String) : List (List Char) :=
  [("--"++boundary).toList,
   ("Content-Disposition: form-data; name=\"file\"; filename=\""++filename++"\"").toList,
   ("Content-Type: "++contentType).toList]

section Upload
variable {boundary filename contentType : String} {bytes epilogue : Bytes}

theorem encodeFile_eq :
    encodeFile boundary filename contentType bytes epilogue =
      textLines (fileLines boundary filename contentType)++
        (CRLF++(bytes++((delimiter boundary++utf8 "--")++epilogue))) := by
  have hbreak : CRLF = utf8 "\r\n" := by decide
  -- the literals of the encoding at their line breaks
  have hquote : "\"\r\n" = "\""++"\r\n" := by decide
  have hempty : "\r\n\r\n" = "\r\n"++"\r\n" := by decide
  have hdashes : "\r\n--" = "\r\n"++"--" := by decide
  simp only [encodeFile,fileLines,textLines_cons,textLines_nil,String.ofList_toList,dashBoundary,
    delimiter,hbreak,hquote,hempty,hdashes]
  simp only [utf8_append,List.append_assoc,List.nil_append]

private theorem jsTrim_blank (cs : List Char) :
    jsTrim (String.ofList (' ' :: cs)) = jsTrim (String.ofList cs) := by
  have hblank : isJsSpace ' ' = true := by decide
  rw [jsTrim,jsTrim,String.toList_ofList,String.toList_ofList,List.dropWhile_cons_of_pos hblank]

private theorem find_fileLines {name : String} (hname : ∃ c cs,name.toList = c::cs ∧ c ≠ '-') :
    (fileLines boundary filename contentType).find? (isHeader name) =
      ((fileLines boundary filename contentType).drop 1).find? (isHeader name) := by
  obtain ⟨c,cs,hc,hdash⟩ := hname
  have hfirst : isHeader name ("--"++boundary).toList = false := by
    rw [isHeader,hc,String.toList_append]
    simp [stripPrefix,Ne.symm hdash]
  rw [fileLines,List.find?_cons,hfirst]
  rfl

private theorem dispositionOf_fileLines :
    dispositionOf (fileLines boundary filename contentType) =
      "Content-Disposition: form-data; name=".toList++('"' :: ("file".toList++('"' ::
        ("; filename=".toList++('"' :: (filename.toList++['"'])))))) := by
  have hline : isHeader "content-disposition"
      ("Content-Disposition: form-data; name=\"file\"; filename=\""++filename++"\"").toList =
      true := by
    simp [isHeader,stripPrefix]
  rw [dispositionOf,find_fileLines ⟨'c',_,rfl,by decide⟩,fileLines,List.drop_one,List.tail_cons,
    List.find?_cons,hline]
  simp

/-- The field is that of a file, and the file name is found. -/
theorem partFilename_fileLines (hname : '"' ∉ filename.toList) :
    partFilename (fileLines boundary filename contentType) = .ok filename := by
  rw [partFilename_eq_ok_iff,dispositionOf_fileLines]
  refine ⟨⟨"file".toList,?_,by decide⟩,?_⟩
  · rw [← firstMatch_eq_some_iff (by decide),firstMatch_quote (by decide) (by decide),
      if_pos (by decide)]
    exact untilQuote_append (by decide) _
  · rw [← firstMatch_eq_some_iff (by decide),firstMatch_quote (by decide) (by decide),
      if_neg (by decide),firstMatch_quote (by decide) (by decide),if_neg (by decide),
      firstMatch_quote (by decide) (by decide),if_pos (by decide)]
    exact untilQuote_append hname _

theorem partType_fileLines (lib : NodeLibrary) (hlower : ∀ s,s ≠ "" → lib.toLowerCase s ≠ "")
    (hblank : jsTrim contentType ≠ "") :
    partType lib (fileLines boundary filename contentType) = lib.toLowerCase (jsTrim contentType) := by
  have hdisposition : isHeader "content-type"
      ("Content-Disposition: form-data; name=\"file\"; filename=\""++filename++"\"").toList =
      false := by
    simp [isHeader,stripPrefix]
  have htype : isHeader "content-type" ("Content-Type: "++contentType).toList = true := by
    simp [isHeader,stripPrefix]
  have hvalue : jsTrim (String.ofList (afterColon ("Content-Type: "++contentType).toList)) =
      jsTrim contentType := by
    have hafter : afterColon ("Content-Type: "++contentType).toList = ' ' :: contentType.toList := by
      simp [afterColon]
    rw [hafter,jsTrim_blank,String.ofList_toList]
  rw [partType,typeHeaderOf,find_fileLines ⟨'c',_,rfl,by decide⟩,fileLines,List.drop_one,
    List.tail_cons,List.find?_cons,hdisposition,List.find?_cons,htype,Option.map_some,mediaTypeOf,
    hvalue,if_neg (hlower _ hblank)]

theorem clear_content (hb : IsBoundary boundary)
    (hbytes : ¬utf8 ("\r\n--"++boundary++"--") <:+: bytes) :
    Clear (delimiter boundary++utf8 "--") bytes ((delimiter boundary++utf8 "--")++epilogue) := by
  have hmarker : utf8 ("\r\n--"++boundary++"--") = delimiter boundary++utf8 "--" := by
    have hdashes : "\r\n--" = "\r\n"++"--" := by decide
    have hbreak : CRLF = utf8 "\r\n" := by decide
    simp only [delimiter,dashBoundary,hbreak,hdashes,utf8_append,List.append_assoc]
  rw [hmarker] at hbytes
  have hrest : 13 ∉ 10::(dashBoundary boundary++utf8 "--") := by
    have hhyphens : (13 : UInt8) ∉ utf8 "--" := by decide
    have hdelimiter := cr_notMem_delimiter hb.cr_notMem
    rw [List.mem_cons,not_or] at hdelimiter
    simpa [hhyphens] using hdelimiter.2
  have hclear := clear_of_notInfix (e := []) (y := epilogue) hrest hbytes
  rw [List.append_nil] at hclear
  exact hclear

end Upload

/-- The size of a file that is taken is within the limit. -/
theorem parseBody_length {lib : NodeLibrary} {boundary : String} {maxFileSizeBytes : ℕ} {body : Bytes}
    {result : MultipartEvidence}
    (h : parseBody lib boundary maxFileSizeBytes body = .ok result) :
    result.bytes.length ≤ maxFileSizeBytes := by
  unfold parseBody at h
  split at h
  · cases h
  · split at h
    · cases h
    · obtain ⟨filename,-,h⟩ := CheckedCalls.ok_bind_iff.mp h
      rw [CheckedCalls.revertIf_bind_eq_ok] at h
      obtain ⟨hsize,h⟩ := h
      obtain rfl := CheckedCalls.ok_pure_iff.mp h
      exact Nat.le_of_not_lt hsize

theorem readEvidenceMultipart_length {lib : NodeLibrary} {header : Option String}
    {chunks : List Bytes} {maxFileSizeBytes : ℕ} {result : MultipartEvidence}
    (h : readEvidenceMultipart lib header chunks maxFileSizeBytes = .ok result) :
    result.bytes.length ≤ maxFileSizeBytes := by
  unfold readEvidenceMultipart at h
  split at h
  · cases h
  · split at h
    · cases h
    · exact parseBody_length h

/-- A body that is too long is refused, whatever its header says. -/
theorem readEvidenceMultipart_refuses {lib : NodeLibrary} {header : Option String}
    {chunks : List Bytes} {maxFileSizeBytes : ℕ}
    (h : maxFileSizeBytes + 32 * 1024 < chunks.flatten.length) :
    ∃ e,readEvidenceMultipart lib header chunks maxFileSizeBytes = .error e := by
  unfold readEvidenceMultipart
  split
  · exact ⟨_,rfl⟩
  · rw [readChunks_eq chunks (Nat.zero_le _),Nat.zero_add,if_pos h]
    exact ⟨_,rfl⟩

end EvidenceMultipart

/-- One file is read back exactly; of any other request no more than the limit is taken, and a body that
is longer by more than 32 KiB is refused. -/
theorem multipart_round_trip {lib : NodeLibrary} (hlower : ∀ s,s ≠ "" → lib.toLowerCase s ≠ "")
    (maxFileSizeBytes : ℕ) :
    (∀ (boundary filename contentType : String) (quoted : Bool) (bytes epilogue : Bytes)
        (chunks : List Bytes),IsBoundary boundary →
      filename.toList.all (fun c => !(['"','\r','\n'].contains c)) = true →
      contentType.toList.all (fun c => !(['\r','\n'].contains c)) = true →
      jsTrim contentType ≠ "" →
      bytes.length ≤ maxFileSizeBytes →
      ¬utf8 ("\r\n--"++boundary++"--") <:+: bytes →
      (encodeFile boundary filename contentType bytes epilogue).length ≤ bytes.length + 32 * 1024 →
      chunks.flatten = encodeFile boundary filename contentType bytes epilogue →
      readEvidenceMultipart lib (some (contentTypeHeader boundary quoted)) chunks maxFileSizeBytes =
        .ok ⟨bytes,filename,lib.toLowerCase (jsTrim contentType)⟩) ∧
    (∀ header chunks result,
      readEvidenceMultipart lib header chunks maxFileSizeBytes = .ok result →
      result.bytes.length ≤ maxFileSizeBytes) ∧
    ∀ header chunks,maxFileSizeBytes + 32 * 1024 < chunks.flatten.length →
      ∃ e,readEvidenceMultipart lib header chunks maxFileSizeBytes = .error e := by
  refine ⟨?_,fun _ _ _ h => readEvidenceMultipart_length h,
    fun _ _ h => readEvidenceMultipart_refuses h⟩
  intro boundary filename contentType quoted bytes epilogue chunks hb hname htype hblank hsize hbytes
    hframe hchunks
  have hshort : ¬maxFileSizeBytes + 32 * 1024 < chunks.flatten.length := by
    rw [hchunks]
    omega
  have hquote : '"' ∉ filename.toList := notMem_of_all hname (by decide)
  have hreturn : '\r' ∉ filename.toList := notMem_of_all hname (by decide)
  have htypeReturn : '\r' ∉ contentType.toList := notMem_of_all htype (by decide)
  rw [readEvidenceMultipart_eq lib maxFileSizeBytes hb,if_neg hshort,hchunks,encodeFile_eq,fileLines,
    parseBody_textLines]
  · exact ⟨⟨epilogue,cut_eq_of_clear (clear_content hb hbytes)⟩,partFilename_fileLines hquote,hsize,
      (partType_fileLines lib hlower hblank).symm⟩
  · simpa using hb.cr_notMem
  · intro l hl
    rcases List.mem_cons.mp hl with rfl | hl
    · exact ⟨by simpa using hreturn,by simp⟩
    · obtain rfl := List.mem_singleton.mp hl
      exact ⟨by simpa using htypeReturn,by simp⟩

section Prototype

/-- Small letters of ASCII. -/
def asciiLibrary : NodeLibrary where
  sha256 _ := 0
  toLowerCase s := String.ofList (s.toList.map Char.toLower)

private theorem asciiLibrary_toLowerCase (s : String) (hs : s ≠ "") :
    asciiLibrary.toLowerCase s ≠ "" := by
  intro h
  apply hs
  have hlist := congrArg String.toList h
  simpa [asciiLibrary] using hlist

/-- A file with an empty line and the boundary of its own request in it. -/
def quotingFile : Bytes := utf8 "first\r\n\r\n--x\r\nsecond\r\n--x-"

def quotingRequest : Bytes :=
  encodeFile "x" "report.txt" " Text/Plain " quotingFile (utf8 "\r\n")

/-- The request in chunks, with a border in the closing delimiter. -/
theorem multipart_round_trip_quoting :
    readEvidenceMultipart asciiLibrary (some (contentTypeHeader "x" true))
      [quotingRequest.take 100,[],(quotingRequest.drop 100).take 32,quotingRequest.drop 132] 64 =
      .ok ⟨quotingFile,"report.txt","text/plain"⟩ := by
  have hread := (multipart_round_trip asciiLibrary_toLowerCase 64).1 "x" "report.txt" " Text/Plain "
    true quotingFile (utf8 "\r\n")
    [quotingRequest.take 100,[],(quotingRequest.drop 100).take 32,quotingRequest.drop 132]
    (by decide) (by decide) (by decide) (by decide +kernel) (by decide +kernel) (by decide +kernel)
    (by decide +kernel) (by decide +kernel)
  have htype : asciiLibrary.toLowerCase (jsTrim " Text/Plain ") = "text/plain" := by decide +kernel
  rw [hread,htype]

end Prototype

end BelLedger
