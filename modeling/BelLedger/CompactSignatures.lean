import BelLedger.CheckedCalls
import BelLedger.ContractTypes
import BelLedger.HexTexts

/-!
# The compact signature format

What the development wallet writes and the backend reads: `yParity`, `r` and `s` in hexadecimal,
with the range checks that leave one form for each signature. `getBytes` of ethers is a parameter.
-/
namespace BelLedger
open CheckedCalls

namespace CompactSignatures

def SIGNATURE_BYTES : ℕ := 65

/-- The order of secp256k1. -/
def SECP256K1_N : ℕ := 0xFFFFFFFFFFFFFFFFFFFFFFFFFFFFFFFEBAAEDCE6AF48A03BBFD25E8CD0364141

def SECP256K1_HALF_N : ℕ := SECP256K1_N / 2

/-- `Buffer.from(bytes).toString("hex")` -/
def bytesHex (bytes : Bytes) : List Char := bytes.flatMap (fun b => paddedHex 2 b.toNat)

/-- The parts of a signature, `r` and `s` as texts. -/
structure Signature where
  yParity : ℕ
  r : String
  s : String
  deriving DecidableEq

section Decoding
variable (getBytes : String → Except String Bytes)

def canonicalHex (value : String) (bytes : ℕ) (label : String) : Except String Bytes := do
  revertIf (value.toList.take 2 ≠ ['0','x'])
    (label++" must use 0x-prefixed hexadecimal encoding")
  let hex := value.toList.drop 2
  revertIf (¬(hex.length = bytes * 2 ∧ hex.all isHexDigit = true))
    (label++" must be exactly "++toString bytes++" bytes of hexadecimal data")
  getBytes ("0x"++String.ofList hex)

/-- The checks of `parseCompactSignature`, and its result. -/
def signatureOf (bytes : Bytes) : Except String Signature := do
  let yParity := bytes.head?
  revertIf (yParity ≠ some 0 ∧ yParity ≠ some 1) "signature yParity must be 0 or 1"
  let hex := bytesHex bytes
  let r := hexValue ((hex.drop 2).take 64)
  let s := hexValue (hex.drop 66)
  revertIf (r < 1 ∨ SECP256K1_N ≤ r) "signature r is outside secp256k1 range"
  revertIf (s < 1 ∨ SECP256K1_HALF_N < s) "signature s is zero or not low-s"
  pure { yParity := (yParity.getD 0).toNat
         r := "0x"++String.ofList ((hex.drop 2).take 64)
         s := "0x"++String.ofList (hex.drop 66) }

def parseCompactSignature (signature : String) : Except String Signature := do
  let bytes ← canonicalHex getBytes signature SIGNATURE_BYTES "signature"
  signatureOf bytes

end Decoding

/-- `s.padStart(n, c)` -/
def padStart (n : ℕ) (c : Char) (s : List Char) : List Char := List.replicate (n - s.length) c++s

/-- The text that `signChallenge` makes of the parts. -/
def compact (parsed : Signature) : String :=
  "0x"++String.ofList (padStart 2 '0' (Nat.toDigits 16 parsed.yParity))++
    String.ofList (parsed.r.toList.drop 2)++String.ofList (parsed.s.toList.drop 2)

/-- The bytes that hexadecimal digits denote two by two. -/
def hexBytes : List Char → Bytes
  | a::b::cs => UInt8.ofNat (hexValue [a,b])::hexBytes cs
  | _ => []

/-- What `getBytes` is documented to do with the data that it accepts. -/
def ReadsHex (getBytes : String → Except String Bytes) : Prop :=
  ∀ digits : List Char,digits.length % 2 = 0 → (∀ c ∈ digits,isHexDigit c = true) →
    getBytes ("0x"++String.ofList digits) = .ok (hexBytes digits)

/-- The prefix and 64 digits of a number. -/
def IsWord (text : String) (n : ℕ) : Prop :=
  ∃ digits : List Char,text = "0x"++String.ofList digits ∧ digits.length = 64 ∧
    (∀ c ∈ digits,isHexDigit c = true) ∧ hexValue digits = n

structure Signature.Denotes (sig : Signature) (yParity r s : ℕ) : Prop where
  yParity : sig.yParity = yParity
  r : IsWord sig.r r
  s : IsWord sig.s s

/-- The digits of an accepted text: one byte, and two words in their ranges. -/
structure InRange (digits : List Char) : Prop where
  length : digits.length = 130
  hex : ∀ c ∈ digits,isHexDigit c = true
  yParity : hexValue (digits.take 2) ≤ 1
  r_pos : 1 ≤ hexValue ((digits.drop 2).take 64)
  r_lt : hexValue ((digits.drop 2).take 64) < SECP256K1_N
  s_pos : 1 ≤ hexValue (digits.drop 66)
  s_le : hexValue (digits.drop 66) ≤ SECP256K1_HALF_N

def lowerCase (cs : List Char) : List Char := cs.map Char.toLower

theorem hexValue_lowerCase {cs : List Char} (h : ∀ c ∈ cs,isHexDigit c = true) :
    hexValue (lowerCase cs) = hexValue cs := by
  rw [lowerCase,← paddedHex_hexValue h,hexValue_paddedHex,Nat.mod_eq_of_lt (hexValue_lt h)]

theorem isHexDigit_lowerCase {cs : List Char} (h : ∀ c ∈ cs,isHexDigit c = true) :
    ∀ c ∈ lowerCase cs,isHexDigit c = true := by
  intro c hc
  rw [lowerCase,← paddedHex_hexValue h] at hc
  exact isHexDigit_of_mem_paddedHex hc

/-- Reading digits and writing the bytes again leaves the digits, in lower case. -/
theorem bytesHex_hexBytes {digits : List Char} (hlength : digits.length % 2 = 0)
    (hhex : ∀ c ∈ digits,isHexDigit c = true) : bytesHex (hexBytes digits) = lowerCase digits := by
  induction digits using hexBytes.induct with
  | case1 a b cs ih =>
    have hcs : ∀ c ∈ cs,isHexDigit c = true :=
      fun c hc => hhex c (List.mem_cons_of_mem _ (List.mem_cons_of_mem _ hc))
    have hpair : ∀ c ∈ [a,b],isHexDigit c = true :=
      fun c hc => hhex c (List.mem_append_left cs hc)
    have hrest := ih (by simp only [List.length_cons] at hlength; omega) hcs
    have hlt := hexValue_lt hpair
    have hbyte : (UInt8.ofNat (hexValue [a,b])).toNat = hexValue [a,b] := by
      simp only [UInt8.toNat_ofNat',Nat.reducePow]
      exact Nat.mod_eq_of_lt hlt
    have hfirst := paddedHex_hexValue hpair
    rw [hexBytes,bytesHex,List.flatMap_cons,hbyte]
    rw [bytesHex] at hrest
    rw [hrest]
    exact congrArg (·++lowerCase cs) hfirst
  | case2 cs hcs =>
    match cs,hcs with
    | [],_ => rfl
    | [c],_ => cases hlength
    | a::b::cs,hcs => exact absurd rfl (hcs a b cs)

theorem toList_prefixed (digits : List Char) :
    ("0x"++String.ofList digits).toList = '0' :: 'x' :: digits := by
  simp

section Decoding
variable {getBytes : String → Except String Bytes} {text : String} {sig : Signature}

theorem canonicalHex_eq_ok (hget : ReadsHex getBytes) {bytes : Bytes} :
    canonicalHex getBytes text SIGNATURE_BYTES "signature" = .ok bytes ↔
      ∃ digits : List Char,text = "0x"++String.ofList digits ∧ digits.length = 130 ∧
        (∀ c ∈ digits,isHexDigit c = true) ∧ bytes = hexBytes digits := by
  unfold canonicalHex
  rw [revertIf_bind_eq_ok,not_not,revertIf_bind_eq_ok,not_not,List.all_eq_true]
  constructor
  · rintro ⟨htake,⟨hlength,hhex⟩,hbytes⟩
    have htext : text = "0x"++String.ofList (text.toList.drop 2) := by
      apply String.toList_injective
      rw [toList_prefixed]
      conv_lhs => rw [← List.take_append_drop 2 text.toList,htake]
      rfl
    have hread := hget (text.toList.drop 2) (by rw [hlength]; rfl) hhex
    exact ⟨_,htext,hlength,hhex,Except.ok.inj (hbytes.symm.trans hread)⟩
  · rintro ⟨digits,rfl,hlength,hhex,rfl⟩
    rw [toList_prefixed]
    exact ⟨rfl,⟨hlength,hhex⟩,hget digits (by rw [hlength]) hhex⟩

private theorem head?_hexBytes {digits : List Char} (hlength : digits.length = 130) :
    (hexBytes digits).head? = some (UInt8.ofNat (hexValue (digits.take 2))) := by
  match digits,hlength with
  | a::b::cs,_ => rfl

private theorem toNat_firstByte {digits : List Char} (hlength : digits.length = 130)
    (hhex : ∀ c ∈ digits,isHexDigit c = true) :
    (UInt8.ofNat (hexValue (digits.take 2))).toNat = hexValue (digits.take 2) := by
  have hfirst : ∀ c ∈ digits.take 2,isHexDigit c = true :=
    fun c hc => hhex c (List.mem_of_mem_take hc)
  have hlt := hexValue_lt hfirst
  rw [List.length_take,hlength] at hlt
  simp only [UInt8.toNat_ofNat',Nat.reducePow]
  exact Nat.mod_eq_of_lt hlt

private theorem isParity (b : UInt8) :
    ¬(some b ≠ some 0 ∧ some b ≠ some 1) ↔ b.toNat ≤ 1 := by
  rw [ne_eq,ne_eq,Option.some_inj,Option.some_inj,← UInt8.toNat_inj,← UInt8.toNat_inj]
  change ¬(¬b.toNat = 0 ∧ ¬b.toNat = 1) ↔ b.toNat ≤ 1
  omega

/-- The result for the digits of a text. -/
def Signature.ofDigits (digits : List Char) : Signature :=
  ⟨hexValue (digits.take 2),"0x"++String.ofList (lowerCase ((digits.drop 2).take 64)),
    "0x"++String.ofList (lowerCase (digits.drop 66))⟩

theorem signatureOf_hexBytes {digits : List Char} (hlength : digits.length = 130)
    (hhex : ∀ c ∈ digits,isHexDigit c = true) :
    signatureOf (hexBytes digits) = .ok sig ↔ InRange digits ∧ sig = .ofDigits digits := by
  have hread := bytesHex_hexBytes (by rw [hlength]) hhex
  have hr : hexValue (((lowerCase digits).drop 2).take 64) =
      hexValue ((digits.drop 2).take 64) := by
    rw [lowerCase,← List.map_drop,← List.map_take]
    exact hexValue_lowerCase (fun c hc => hhex c (List.mem_of_mem_drop (List.mem_of_mem_take hc)))
  have hs : hexValue ((lowerCase digits).drop 66) = hexValue (digits.drop 66) := by
    rw [lowerCase,← List.map_drop]
    exact hexValue_lowerCase (fun c hc => hhex c (List.mem_of_mem_drop hc))
  have hy := toNat_firstByte hlength hhex
  have hparity := isParity (UInt8.ofNat (hexValue (digits.take 2)))
  rw [hy] at hparity
  unfold signatureOf
  rw [head?_hexBytes hlength,hread,revertIf_bind_eq_ok,hparity,revertIf_bind_eq_ok,
    revertIf_bind_eq_ok,hr,hs,not_or,not_or,Nat.not_lt,Nat.not_le,Nat.not_lt,Nat.not_lt]
  constructor
  · rintro ⟨hparity,⟨hr1,hrN⟩,⟨hs1,hsN⟩,hsig⟩
    refine ⟨⟨hlength,hhex,hparity,hr1,hrN,hs1,hsN⟩,?_⟩
    rw [← Except.ok.inj hsig,Signature.ofDigits,Option.getD_some,hy,lowerCase,← List.map_drop,
      ← List.map_take,← List.map_drop]
    rfl
  · rintro ⟨hrange,rfl⟩
    refine ⟨hrange.yParity,⟨hrange.r_pos,hrange.r_lt⟩,⟨hrange.s_pos,hrange.s_le⟩,?_⟩
    rw [Signature.ofDigits,Option.getD_some,hy,lowerCase,← List.map_drop,← List.map_take,
      ← List.map_drop]
    rfl

/-- What is accepted, and what it is read as. -/
theorem parseCompactSignature_eq_ok (hget : ReadsHex getBytes) :
    parseCompactSignature getBytes text = .ok sig ↔ ∃ digits : List Char,
      text = "0x"++String.ofList digits ∧ InRange digits ∧ sig = .ofDigits digits := by
  unfold parseCompactSignature
  rw [ok_bind_iff]
  constructor
  · rintro ⟨bytes,hbytes,hsig⟩
    obtain ⟨digits,rfl,hlength,hhex,rfl⟩ := (canonicalHex_eq_ok hget).mp hbytes
    exact ⟨digits,rfl,(signatureOf_hexBytes hlength hhex).mp hsig⟩
  · rintro ⟨digits,rfl,hrange,hsig⟩
    exact ⟨_,(canonicalHex_eq_ok hget).mpr ⟨digits,rfl,hrange.length,hrange.hex,rfl⟩,
      (signatureOf_hexBytes hrange.length hrange.hex).mpr ⟨hrange,hsig⟩⟩

end Decoding

theorem IsWord.unique {text : String} {m n : ℕ} (hm : IsWord text m) (hn : IsWord text n) :
    m = n := by
  obtain ⟨digits,rfl,-,-,rfl⟩ := hm
  obtain ⟨digits',htext,-,-,rfl⟩ := hn
  have hdigits := congrArg String.toList htext
  rw [toList_prefixed,toList_prefixed] at hdigits
  rw [(List.cons.inj (List.cons.inj hdigits).2).2]

theorem isWord_lowerCase {digits : List Char} (hlength : digits.length = 64)
    (hhex : ∀ c ∈ digits,isHexDigit c = true) :
    IsWord ("0x"++String.ofList (lowerCase digits)) (hexValue digits) :=
  ⟨lowerCase digits,rfl,by rw [lowerCase,List.length_map,hlength],isHexDigit_lowerCase hhex,
    hexValue_lowerCase hhex⟩

theorem InRange.denotes {digits : List Char} (h : InRange digits) :
    (Signature.ofDigits digits).Denotes (hexValue (digits.take 2))
      (hexValue ((digits.drop 2).take 64)) (hexValue (digits.drop 66)) := by
  refine ⟨rfl,isWord_lowerCase ?_ ?_,isWord_lowerCase ?_ ?_⟩
  · rw [List.length_take,List.length_drop,h.length]
    rfl
  · exact fun c hc => h.hex c (List.mem_of_mem_drop (List.mem_of_mem_take hc))
  · rw [List.length_drop,h.length]
  · exact fun c hc => h.hex c (List.mem_of_mem_drop hc)

theorem Signature.Denotes.unique {sig : Signature} {y y' r r' s s' : ℕ} (h : sig.Denotes y r s)
    (h' : sig.Denotes y' r' s') : y = y' ∧ r = r' ∧ s = s' :=
  ⟨h.yParity.symm.trans h'.yParity,h.r.unique h'.r,h.s.unique h'.s⟩

/-- The digits of the text of a signature. -/
theorem compact_eq {sig : Signature} {y r s : ℕ} (h : sig.Denotes y r s) (hy : y ≤ 1) :
    ∃ digits : List Char,compact sig = "0x"++String.ofList digits ∧ digits.length = 130 ∧
      (∀ c ∈ digits,isHexDigit c = true) ∧ hexValue (digits.take 2) = y ∧
      hexValue ((digits.drop 2).take 64) = r ∧ hexValue (digits.drop 66) = s := by
  obtain ⟨rDigits,hr,hrlength,hrhex,rfl⟩ := h.r
  obtain ⟨sDigits,hs,hslength,hshex,rfl⟩ := h.s
  obtain ⟨yDigits,hyText,hylength,hyhex,hyvalue⟩ : ∃ digits : List Char,
      padStart 2 '0' (Nat.toDigits 16 y) = digits ∧ digits.length = 2 ∧
        (∀ c ∈ digits,isHexDigit c = true) ∧ hexValue digits = y := by
    have hcases : y = 0 ∨ y = 1 := by omega
    rcases hcases with rfl | rfl
    · exact ⟨_,rfl,by decide,List.all_eq_true.mp (by decide),by decide⟩
    · exact ⟨_,rfl,by decide,List.all_eq_true.mp (by decide),by decide⟩
  have hdrop2 : (yDigits++(rDigits++sDigits)).drop 2 = rDigits++sDigits := by
    rw [← hylength,List.drop_left]
  have hdrop66 : (yDigits++(rDigits++sDigits)).drop 66 = sDigits := by
    have hsum : 66 = 2 + 64 := rfl
    rw [hsum,← List.drop_drop,hdrop2,← hrlength,List.drop_left]
  refine ⟨yDigits++(rDigits++sDigits),?_,?_,?_,?_,?_,?_⟩
  · rw [compact,h.yParity,hyText,hr,hs,toList_prefixed,toList_prefixed,String.ofList_append,
      String.ofList_append,String.append_assoc,String.append_assoc]
    rfl
  · rw [List.length_append,List.length_append,hylength,hrlength,hslength]
  · intro c hc
    rcases List.mem_append.mp hc with hc | hc
    · exact hyhex c hc
    · rcases List.mem_append.mp hc with hc | hc
      · exact hrhex c hc
      · exact hshex c hc
  · rw [← hylength,List.take_left,hyvalue]
  · rw [hdrop2,← hrlength,List.take_left]
  · rw [hdrop66]

section Canonical
variable {getBytes : String → Except String Bytes}

/-- Of both signs of `s` one is above the half. -/
theorem half_lt_or {s : ℕ} (h : s ≤ SECP256K1_HALF_N) : SECP256K1_HALF_N < SECP256K1_N - s := by
  have hodd : SECP256K1_N = 2 * SECP256K1_HALF_N + 1 := by decide
  omega

/-- The digits of a text are determined by what it is read as, up to their case. -/
theorem lowerCase_digits {digits : List Char} (h : InRange digits) :
    lowerCase digits = paddedHex 2 (hexValue (digits.take 2))++
      (paddedHex 64 (hexValue ((digits.drop 2).take 64))++
        paddedHex 64 (hexValue (digits.drop 66))) := by
  have hpart : ∀ (part : List Char) (k : ℕ),part.length = k → (∀ c ∈ part,c ∈ digits) →
      paddedHex k (hexValue part) = lowerCase part := by
    rintro part k rfl hsub
    exact paddedHex_hexValue (fun c hc => h.hex c (hsub c hc))
  have hlength := h.length
  have hsplit : digits = digits.take 2++((digits.drop 2).take 64++digits.drop 66) := by
    have hsum : 66 = 2 + 64 := rfl
    rw [hsum,← List.drop_drop,List.take_append_drop,List.take_append_drop]
  rw [hpart _ 2,hpart _ 64,hpart _ 64]
  · conv_lhs => rw [hsplit]
    simp only [lowerCase,List.map_append]
  · rw [List.length_drop,hlength]
  · exact fun c hc => List.mem_of_mem_drop hc
  · rw [List.length_take,List.length_drop,hlength]
    rfl
  · exact fun c hc => List.mem_of_mem_drop (List.mem_of_mem_take hc)
  · rw [List.length_take,hlength]
    rfl
  · exact fun c hc => List.mem_of_mem_take hc

/-- The format has one text for each signature, up to the case of its digits. -/
theorem compact_signature_canonical (hget : ReadsHex getBytes) :
    (∀ text,(∃ sig,parseCompactSignature getBytes text = .ok sig) ↔
      ∃ digits : List Char,text = "0x"++String.ofList digits ∧ InRange digits) ∧
    (∀ sig y r s,sig.Denotes y r s → y ≤ 1 → 1 ≤ r → r < SECP256K1_N → 1 ≤ s →
      s ≤ SECP256K1_HALF_N →
      ∃ sig',parseCompactSignature getBytes (compact sig) = .ok sig' ∧ sig'.Denotes y r s) ∧
    (∀ text text' sig sig' y r s,parseCompactSignature getBytes text = .ok sig →
      parseCompactSignature getBytes text' = .ok sig' → sig.Denotes y r s → sig'.Denotes y r s →
      lowerCase text.toList = lowerCase text'.toList) ∧
    ∀ sig sig' y y' r s,y ≤ 1 → y' ≤ 1 → 1 ≤ s → s < SECP256K1_N → sig.Denotes y r s →
      sig'.Denotes y' r (SECP256K1_N - s) →
      ¬((∃ a,parseCompactSignature getBytes (compact sig) = .ok a) ∧
        ∃ b,parseCompactSignature getBytes (compact sig') = .ok b) := by
  refine ⟨?_,?_,?_,?_⟩
  · intro text
    constructor
    · rintro ⟨sig,hsig⟩
      obtain ⟨digits,htext,hrange,-⟩ := (parseCompactSignature_eq_ok hget).mp hsig
      exact ⟨digits,htext,hrange⟩
    · rintro ⟨digits,htext,hrange⟩
      exact ⟨_,(parseCompactSignature_eq_ok hget).mpr ⟨digits,htext,hrange,rfl⟩⟩
  · intro sig y r s hsig hy hr1 hrN hs1 hsN
    obtain ⟨digits,htext,hlength,hhex,rfl,rfl,rfl⟩ := compact_eq hsig hy
    have hrange : InRange digits := ⟨hlength,hhex,hy,hr1,hrN,hs1,hsN⟩
    exact ⟨_,(parseCompactSignature_eq_ok hget).mpr ⟨digits,htext,hrange,rfl⟩,hrange.denotes⟩
  · intro text text' sig sig' y r s hparse hparse' hsig hsig'
    obtain ⟨digits,rfl,hrange,rfl⟩ := (parseCompactSignature_eq_ok hget).mp hparse
    obtain ⟨digits',rfl,hrange',rfl⟩ := (parseCompactSignature_eq_ok hget).mp hparse'
    obtain ⟨hy,hr,hs⟩ := hrange.denotes.unique hsig
    obtain ⟨hy',hr',hs'⟩ := hrange'.denotes.unique hsig'
    have hdigits : lowerCase digits = lowerCase digits' := by
      rw [lowerCase_digits hrange,lowerCase_digits hrange',hy,hr,hs,hy',hr',hs']
    rw [toList_prefixed,toList_prefixed]
    exact congrArg (fun cs => '0' :: 'x' :: cs) hdigits
  · rintro sig sig' y y' r s hy hy' hs1 hsN hsig hsig' ⟨⟨a,ha⟩,⟨b,hb⟩⟩
    have hlow : ∀ {sig a y s},Signature.Denotes sig y r s → y ≤ 1 →
        parseCompactSignature getBytes (compact sig) = .ok a → s ≤ SECP256K1_HALF_N := by
      intro sig a y s hsig hy ha
      obtain ⟨digits,htext,-,-,-,-,hs⟩ := compact_eq hsig hy
      obtain ⟨digits',htext',hrange,-⟩ := (parseCompactSignature_eq_ok hget).mp ha
      have hdigits := congrArg String.toList (htext.symm.trans htext')
      rw [toList_prefixed,toList_prefixed] at hdigits
      rw [← hs,(List.cons.inj (List.cons.inj hdigits).2).2]
      exact hrange.s_le
    have hhigh := half_lt_or (hlow hsig hy ha)
    exact absurd (hlow hsig' hy' hb) (Nat.not_le.mpr hhigh)

end Canonical

theorem isWord_paddedHex {n : ℕ} (h : n < 16 ^ 64) :
    IsWord ("0x"++String.ofList (paddedHex 64 n)) n := by
  refine ⟨paddedHex 64 n,rfl,length_paddedHex 64 n,fun c hc => isHexDigit_of_mem_paddedHex hc,?_⟩
  rw [hexValue_paddedHex,Nat.mod_eq_of_lt h]

/-- The data that `getBytes` accepts, and the error for all other texts. -/
def readBytes (text : String) : Except String Bytes :=
  let digits := text.toList.drop 2
  if text.toList.take 2 = ['0','x'] ∧ digits.length % 2 = 0 ∧ digits.all isHexDigit = true then
    .ok (hexBytes digits)
  else .error "invalid BytesLike value"

theorem readsHex_readBytes : ReadsHex readBytes := by
  intro digits heven hhex
  unfold readBytes
  rw [toList_prefixed]
  exact if_pos ⟨rfl,heven,List.all_eq_true.mpr hhex⟩

/-- The signature with parity 1, `r = 7` and `s = 5` is read back. -/
theorem compact_signature_read : ∃ sig,
    parseCompactSignature readBytes (compact ⟨1,"0x"++String.ofList (paddedHex 64 7),
      "0x"++String.ofList (paddedHex 64 5)⟩) = .ok sig ∧ sig.Denotes 1 7 5 := by
  apply (compact_signature_canonical readsHex_readBytes).2.1 _ 1 7 5
  · exact ⟨rfl,isWord_paddedHex (by decide),isWord_paddedHex (by decide)⟩
  · decide
  · decide
  · decide
  · decide
  · decide

end CompactSignatures
end BelLedger
