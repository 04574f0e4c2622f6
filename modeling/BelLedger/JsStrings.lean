import Mathlib.Data.Nat.Notation
import Mathlib.Data.List.DropRight
import Mathlib.Tactic.Common

/-!
# The string operations of the services

A JavaScript string is a `String`: a string with a lone surrogate cannot be ABI-encoded, so no call
made from one reaches the chain. White space is what `String.prototype.trim` strips.
-/
namespace BelLedger

/-- WhiteSpace and LineTerminator of the language standard. -/
def isJsSpace (c : Char) : Bool :=
  (9 ≤ c.toNat && c.toNat ≤ 13) || c.toNat == 32 || c.toNat == 160 || c.toNat == 0x1680 ||
    (0x2000 ≤ c.toNat && c.toNat ≤ 0x200a) || c.toNat == 0x2028 || c.toNat == 0x2029 ||
    c.toNat == 0x202f || c.toNat == 0x205f || c.toNat == 0x3000 || c.toNat == 0xfeff

/-- `s.trim()`. -/
def jsTrim (s : String) : String :=
  String.ofList ((s.toList.dropWhile isJsSpace).rdropWhile isJsSpace)

def Trimmed (s : String) : Prop := jsTrim s = s

instance (s : String) : Decidable (Trimmed s) := inferInstanceAs (Decidable (jsTrim s = s))

/-- What is left after both ends are stripped does not start with white space. -/
private theorem dropWhile_rdropWhile (l : List Char) :
    ((l.dropWhile isJsSpace).rdropWhile isJsSpace).dropWhile isJsSpace =
      (l.dropWhile isJsSpace).rdropWhile isJsSpace := by
  rw [List.dropWhile_eq_self_iff]
  intro hpos
  have hkept := List.rdropWhile_prefix isJsSpace (l := l.dropWhile isJsSpace)
  have hlt : 0 < (l.dropWhile isJsSpace).length := Nat.lt_of_lt_of_le hpos hkept.length_le
  have hhead : ¬isJsSpace (l.dropWhile isJsSpace)[0] = true :=
    List.dropWhile_eq_self_iff.mp (List.dropWhile_idempotent isJsSpace l) hlt
  rwa [hkept.getElem hpos]

@[simp] theorem trimmed_jsTrim (s : String) : Trimmed (jsTrim s) := by
  unfold Trimmed jsTrim
  rw [String.toList_ofList,dropWhile_rdropWhile,List.rdropWhile_idempotent]

theorem trimmed_of_no_space {s : String} (h : ∀ c ∈ s.toList,isJsSpace c = false) : Trimmed s := by
  have hdrop : s.toList.dropWhile isJsSpace = s.toList := by
    rw [List.dropWhile_eq_self_iff]
    intro hpos
    rw [h _ (List.getElem_mem hpos)]
    decide
  have hrdrop : s.toList.rdropWhile isJsSpace = s.toList := by
    rw [List.rdropWhile_eq_self_iff]
    intro hne
    rw [h _ (List.getLast_mem hne)]
    decide
  unfold Trimmed jsTrim
  rw [hdrop,hrdrop,String.ofList_toList]

/-- The visible characters of ASCII are no white space. -/
private theorem isJsSpace_of_visible {c : Char} (h : 33 ≤ c.toNat ∧ c.toNat ≤ 126) :
    isJsSpace c = false := by
  simp only [isJsSpace,Bool.or_eq_false_iff,Bool.and_eq_false_iff,decide_eq_false_iff_not,
    beq_eq_false_iff_ne]
  omega

private theorem isJsSpace_of_isDigit {c : Char} (h : c.isDigit = true) : isJsSpace c = false := by
  apply isJsSpace_of_visible
  have hrange : 48 ≤ c.toNat ∧ c.toNat ≤ 57 := Char.isDigit_iff_toNat.mp h
  omega

theorem isUpper_iff {c : Char} : c.isUpper = true ↔ 65 ≤ c.toNat ∧ c.toNat ≤ 90 := by
  change decide (c.val ≥ 65 ∧ c.val ≤ 90) = true ↔ _
  rw [decide_eq_true_eq]
  exact and_congr UInt32.le_iff_toNat_le UInt32.le_iff_toNat_le

theorem isLower_iff {c : Char} : c.isLower = true ↔ 97 ≤ c.toNat ∧ c.toNat ≤ 122 := by
  change (decide (c.val ≥ 97) && decide (c.val ≤ 122)) = true ↔ _
  rw [Bool.and_eq_true,decide_eq_true_eq,decide_eq_true_eq]
  exact and_congr UInt32.le_iff_toNat_le UInt32.le_iff_toNat_le

theorem isAlpha_iff {c : Char} : c.isAlpha = true ↔
    (65 ≤ c.toNat ∧ c.toNat ≤ 90) ∨ (97 ≤ c.toNat ∧ c.toNat ≤ 122) := by
  change (c.isUpper || c.isLower) = true ↔ _
  rw [Bool.or_eq_true,isUpper_iff,isLower_iff]

theorem isAlphanum_iff {c : Char} : c.isAlphanum = true ↔
    c.isAlpha = true ∨ (48 ≤ c.toNat ∧ c.toNat ≤ 57) := by
  change (c.isAlpha || c.isDigit) = true ↔ _
  rw [Bool.or_eq_true]
  exact or_congr_right Char.isDigit_iff_toNat
/-- A name followed by a decimal number has nothing to trim. -/
theorem trimmed_append_repr {name : String} (hname : ∀ c ∈ name.toList,isJsSpace c = false) (n : ℕ) :
    Trimmed (name++toString n) := by
  apply trimmed_of_no_space
  intro c hc
  rw [String.toList_append,List.mem_append] at hc
  rcases hc with hc | hc
  · exact hname c hc
  · apply isJsSpace_of_isDigit
    apply Nat.isDigit_of_mem_toDigits (b := 10) (n := n) (by decide) (by decide)
    simpa [toString,Nat.repr] using hc

/-- A digit of either case, as the `i` flag and the class `[0-9a-fA-F]` accept it. -/
def hexDigit? (c : Char) : Option ℕ :=
  if '0' ≤ c ∧ c ≤ '9' then some (c.toNat - 48)
  else if 'a' ≤ c ∧ c ≤ 'f' then some (c.toNat - 87)
  else if 'A' ≤ c ∧ c ≤ 'F' then some (c.toNat - 55)
  else none

def isHexDigit (c : Char) : Bool := (hexDigit? c).isSome

theorem isHexDigit_range {c : Char} (h : isHexDigit c = true) :
    (48 ≤ c.toNat ∧ c.toNat ≤ 57) ∨ (97 ≤ c.toNat ∧ c.toNat ≤ 102) ∨
      (65 ≤ c.toNat ∧ c.toNat ≤ 70) := by
  unfold isHexDigit hexDigit? at h
  split at h
  · rename_i hdigit
    exact .inl hdigit
  · split at h
    · rename_i hlower
      exact .inr (.inl hlower)
    · split at h
      · rename_i hupper
        exact .inr (.inr hupper)
      · cases h

theorem isJsSpace_of_isHexDigit {c : Char} (h : isHexDigit c = true) : isJsSpace c = false := by
  have hrange := isHexDigit_range h
  apply isJsSpace_of_visible
  omega

/-- The number a string of hexadecimal digits denotes, most significant digit first. -/
def hexValue (cs : List Char) : ℕ := cs.foldl (fun n c => 16 * n + (hexDigit? c).getD 0) 0

/-- `/^[0-9a-f]{64}$/i` and `/^[0-9a-fA-F]{64}$/`. -/
def isHex64 (s : String) : Bool := s.toList.length == 64 && s.toList.all isHexDigit

/-- `/^\d+$/`. -/
def isDecimal (s : String) : Bool := !s.toList.isEmpty && s.toList.all Char.isDigit

def decimalValue (s : String) : ℕ := s.toList.foldl (fun n c => 10 * n + (c.toNat - 48)) 0

theorem isDecimal_toString (n : ℕ) : isDecimal (toString n) = true := by
  have hne : Nat.toDigits 10 n ≠ [] := Nat.toDigits_ne_nil
  have hdigits : ∀ c ∈ Nat.toDigits 10 n,c.isDigit = true :=
    fun c hc => Nat.isDigit_of_mem_toDigits (by decide) (by decide) hc
  simpa [isDecimal,toString,Nat.repr,hne] using hdigits

theorem decimalValue_toString (n : ℕ) : decimalValue (toString n) = n := by
  have hvalue : decimalValue (toString n) = Nat.ofDigitChars 10 (Nat.toDigits 10 n) 0 := by
    simp [decimalValue,Nat.ofDigitChars_eq_foldl,toString,Nat.repr]
  rw [hvalue,Nat.ofDigitChars_ten_toDigits]

end BelLedger
