import BelLedger.ContractTypes

/-!
# Texts as UTF-8 bytes

`Buffer.from(s)` of a text is the bytes that a contract string has. `toString("utf8")` reads bytes
back; a sequence that no character has becomes one replacement character, up to the byte that breaks
it.
-/
namespace BelLedger

@[simp] theorem utf8_append (a b : String) : utf8 (a++b) = utf8 a++utf8 b := by
  simp [utf8,String.toByteArray_append,ByteArray.data_append]

theorem utf8_ofList (cs : List Char) :
    utf8 (String.ofList cs) = cs.flatMap String.utf8EncodeChar := by
  simp [utf8,List.utf8Encode]

theorem utf8_eq_flatMap (s : String) : utf8 s = s.toList.flatMap String.utf8EncodeChar := by
  rw [← utf8_ofList,String.ofList_toList]

/-- The byte of a character of ASCII. -/
def asciiByte (c : Char) : UInt8 := UInt8.ofNat c.toNat

theorem utf8EncodeChar_ascii {c : Char} (h : c.toNat < 128) :
    String.utf8EncodeChar c = [asciiByte c] := by
  have hle : c.val.toNat ≤ 0x7f := Nat.lt_succ_iff.mp h
  rw [String.utf8EncodeChar]
  exact if_pos hle

theorem utf8_ascii {cs : List Char} (h : ∀ c ∈ cs,c.toNat < 128) :
    utf8 (String.ofList cs) = cs.map asciiByte := by
  induction cs with
  | nil => rfl
  | cons c cs ih =>
    have hrest := ih (fun d hd => h d (List.mem_cons_of_mem c hd))
    rw [utf8_ofList] at hrest ⊢
    rw [List.flatMap_cons,hrest,utf8EncodeChar_ascii (h c List.mem_cons_self)]
    rfl

/-- A byte of ASCII stands for its own character only. -/
theorem toNat_of_mem_utf8EncodeChar {c : Char} {b : UInt8} (hb : b ∈ String.utf8EncodeChar c)
    (hascii : b.toNat < 128) : c.toNat = b.toNat := by
  have hbyte : ∀ n : ℕ,128 ≤ n % 256 → b ≠ UInt8.ofNat n := by
    rintro n hn rfl
    simp only [UInt8.toNat_ofNat',Nat.reducePow] at hascii
    omega
  by_cases hc : c.toNat < 128
  · rw [utf8EncodeChar_ascii hc,List.mem_singleton] at hb
    subst hb
    simp only [asciiByte,UInt8.toNat_ofNat',Nat.reducePow]
    omega
  · -- the bytes of any other character start at 128
    have hle : ¬c.val.toNat ≤ 0x7f := by
      change ¬c.toNat ≤ 127
      omega
    exfalso
    rw [String.utf8EncodeChar] at hb
    rw [if_neg hle] at hb
    split at hb
    · simp only [List.mem_cons,List.not_mem_nil,or_false] at hb
      rcases hb with h | h
      · exact hbyte _ (by omega) h
      · exact hbyte _ (by omega) h
    · split at hb
      · simp only [List.mem_cons,List.not_mem_nil,or_false] at hb
        rcases hb with h | h | h
        · exact hbyte _ (by omega) h
        · exact hbyte _ (by omega) h
        · exact hbyte _ (by omega) h
      · simp only [List.mem_cons,List.not_mem_nil,or_false] at hb
        rcases hb with h | h | h | h
        · exact hbyte _ (by omega) h
        · exact hbyte _ (by omega) h
        · exact hbyte _ (by omega) h
        · exact hbyte _ (by omega) h

/-- Nor does a text without a character of ASCII have its byte. -/
theorem notMem_utf8 {cs : List Char} {c : Char} (hc : c ∉ cs) {b : UInt8} (hb : b.toNat = c.toNat)
    (hascii : b.toNat < 128) : b ∉ utf8 (String.ofList cs) := by
  rw [utf8_ofList]
  intro hmem
  obtain ⟨c',hc',hbyte⟩ := List.mem_flatMap.mp hmem
  have hsame : c'.toNat = c.toNat := (toNat_of_mem_utf8EncodeChar hbyte hascii).trans hb
  exact hc (Char.toNat_inj.mp hsame ▸ hc')

/-- A character of which some bytes are still to come: their number, the bits read so far, and the
bounds of the next byte. -/
structure PendingChar where
  needed : ℕ
  codePoint : ℕ
  lower : ℕ
  upper : ℕ

/-- The first byte of a character. -/
def firstByte (b : ℕ) : List Char × Option PendingChar :=
  if b < 0x80 then ([Char.ofNat b],none)
  else if 0xC2 ≤ b ∧ b ≤ 0xDF then ([],some ⟨1,b - 0xC0,0x80,0xBF⟩)
  else if 0xE0 ≤ b ∧ b ≤ 0xEF then
    ([],some ⟨2,b - 0xE0,if b = 0xE0 then 0xA0 else 0x80,if b = 0xED then 0x9F else 0xBF⟩)
  else if 0xF0 ≤ b ∧ b ≤ 0xF4 then
    ([],some ⟨3,b - 0xF0,if b = 0xF0 then 0x90 else 0x80,if b = 0xF4 then 0x8F else 0xBF⟩)
  else (['\ufffd'],none)

/-- A byte out of bounds ends the character before it, and is read again. -/
def nextByte (p : PendingChar) (b : ℕ) : List Char × Option PendingChar :=
  if p.lower ≤ b ∧ b ≤ p.upper then
    let codePoint := 64 * p.codePoint + (b - 0x80)
    if p.needed ≤ 1 then ([Char.ofNat codePoint],none)
    else ([],some ⟨p.needed - 1,codePoint,0x80,0xBF⟩)
  else ('\ufffd'::(firstByte b).1,(firstByte b).2)

def decodeBytes : Option PendingChar → Bytes → List Char
  | none,[] => []
  | some _,[] => ['\ufffd']
  | none,b::bs => (firstByte b.toNat).1++decodeBytes (firstByte b.toNat).2 bs
  | some p,b::bs => (nextByte p b.toNat).1++decodeBytes (nextByte p b.toNat).2 bs

/-- `bytes.toString("utf8")` -/
def decodeUtf8 (bytes : Bytes) : String := String.ofList (decodeBytes none bytes)

private theorem toNat_byte {n : ℕ} (h : n < 256) : (UInt8.ofNat n).toNat = n := by
  simp only [UInt8.toNat_ofNat',Nat.reducePow]
  omega

private theorem nextByte_last {p : PendingChar} {x : ℕ} (hneeded : p.needed = 1)
    (hlower : p.lower ≤ x + 0x80) (hupper : x + 0x80 ≤ p.upper) :
    nextByte p (x + 0x80) = ([Char.ofNat (64 * p.codePoint + x)],none) := by
  rw [nextByte,if_pos ⟨hlower,hupper⟩]
  dsimp only
  rw [if_pos (Nat.le_of_eq hneeded),Nat.add_sub_cancel]

private theorem nextByte_more {p : PendingChar} {k x : ℕ} (hneeded : p.needed = k + 2)
    (hlower : p.lower ≤ x + 0x80) (hupper : x + 0x80 ≤ p.upper) :
    nextByte p (x + 0x80) = ([],some ⟨k + 1,64 * p.codePoint + x,0x80,0xBF⟩) := by
  rw [nextByte,if_pos ⟨hlower,hupper⟩]
  dsimp only
  rw [if_neg (by omega),Nat.add_sub_cancel,hneeded]
  rfl

private theorem firstByte_two {a : ℕ} (h2 : 2 ≤ a) (h : a < 0x20) :
    firstByte (a + 0xc0) = ([],some ⟨1,a,0x80,0xBF⟩) := by
  rw [firstByte,if_neg (by omega),if_pos (by omega),Nat.add_sub_cancel]

private theorem firstByte_three {a : ℕ} (h : a < 0x10) :
    firstByte (a + 0xe0) =
      ([],some ⟨2,a,if a = 0 then 0xA0 else 0x80,if a = 13 then 0x9F else 0xBF⟩) := by
  rw [firstByte,if_neg (by omega),if_neg (by omega),if_pos (by omega),Nat.add_sub_cancel]
  simp

private theorem firstByte_four {a : ℕ} (h : a < 5) :
    firstByte (a + 0xf0) =
      ([],some ⟨3,a,if a = 0 then 0x90 else 0x80,if a = 4 then 0x8F else 0xBF⟩) := by
  rw [firstByte,if_neg (by omega),if_neg (by omega),if_neg (by omega),if_pos (by omega),
    Nat.add_sub_cancel]
  simp

/-- A character is read back, whatever comes after it. -/
theorem decodeBytes_utf8EncodeChar (c : Char) (bs : Bytes) :
    decodeBytes none (String.utf8EncodeChar c++bs) = c::decodeBytes none bs := by
  have hvalid : c.val.toNat < 0xD800 ∨ (0xDFFF < c.val.toNat ∧ c.val.toNat < 0x110000) := c.valid
  have hchar : Char.ofNat c.val.toNat = c := Char.ofNat_toNat c
  rw [String.utf8EncodeChar]
  -- one case for each length of the sequence
  generalize c.val.toNat = v at hvalid hchar ⊢
  split
  · rw [List.singleton_append,decodeBytes,toNat_byte (by omega),firstByte,if_pos (by omega),hchar]
    rfl
  · split
    · have hvalue : 64 * (v / 64 % 0x20) + v % 0x40 = v := by omega
      simp only [List.cons_append,List.nil_append]
      rw [decodeBytes,toNat_byte (by omega),firstByte_two (by omega) (by omega),decodeBytes,
        toNat_byte (by omega),nextByte_last rfl (by simp) (by simp; omega)]
      simp only [List.cons_append,List.nil_append,hvalue,hchar]
    · split
      · have hvalue : 64 * (64 * (v / 4096 % 0x10) + v / 64 % 0x40) + v % 0x40 = v := by omega
        simp only [List.cons_append,List.nil_append]
        rw [decodeBytes,toNat_byte (by omega),firstByte_three (by omega),decodeBytes,
          toNat_byte (by omega),
          nextByte_more rfl (by simp; split <;> omega) (by simp; split <;> omega),
          decodeBytes,toNat_byte (by omega),nextByte_last rfl (by simp) (by simp; omega)]
        simp only [List.cons_append,List.nil_append,hvalue,hchar]
      · have hvalue : 64 * (64 * (64 * (v / 262144 % 0x08) + v / 4096 % 0x40) + v / 64 % 0x40) +
            v % 0x40 = v := by omega
        simp only [List.cons_append,List.nil_append]
        rw [decodeBytes,toNat_byte (by omega),firstByte_four (by omega),decodeBytes,
          toNat_byte (by omega),
          nextByte_more rfl (by simp; split <;> omega) (by simp; split <;> omega),
          decodeBytes,toNat_byte (by omega),nextByte_more rfl (by simp) (by simp; omega),
          decodeBytes,toNat_byte (by omega),nextByte_last rfl (by simp) (by simp; omega)]
        simp only [List.cons_append,List.nil_append,hvalue,hchar]

@[simp] theorem decodeUtf8_utf8 (s : String) : decodeUtf8 (utf8 s) = s := by
  have hlist : ∀ cs : List Char,decodeBytes none (cs.flatMap String.utf8EncodeChar) = cs := by
    intro cs
    induction cs with
    | nil => rfl
    | cons c cs ih => rw [List.flatMap_cons,decodeBytes_utf8EncodeChar,ih]
  rw [decodeUtf8,utf8_eq_flatMap,hlist,String.ofList_toList]

example : decodeBytes none [0xE2,0x82,0x41] = ['\ufffd','A'] := by decide

end BelLedger
