import BelLedger.JsStrings
import Mathlib.Algebra.Group.Nat.Defs
import Mathlib.Data.List.Basic

/-!
# Hexadecimal texts of a fixed length

The digest of a hash as `digest("hex")` writes it, and that reading it gives the number back.
-/
namespace BelLedger

/-- The last `k` hexadecimal digits of a number, in lower case. -/
def paddedHex : ℕ → ℕ → List Char
  | 0,_ => []
  | k + 1,n => paddedHex k (n / 16)++[Nat.digitChar (n % 16)]

private theorem hexDigit?_digitChar : ∀ d < 16,hexDigit? (Nat.digitChar d) = some d := by decide

theorem isHexDigit_of_mem_paddedHex {k n : ℕ} {c : Char} (hc : c ∈ paddedHex k n) :
    isHexDigit c = true := by
  induction k generalizing n with
  | zero => cases hc
  | succ k ih =>
    rw [paddedHex,List.mem_append,List.mem_singleton] at hc
    rcases hc with hc | rfl
    · exact ih hc
    · rw [isHexDigit,hexDigit?_digitChar _ (Nat.mod_lt n (by decide))]
      rfl

theorem hexValue_append (cs : List Char) (c : Char) :
    hexValue (cs++[c]) = 16 * hexValue cs + (hexDigit? c).getD 0 := by
  simp [hexValue]

/-- The digits denote the number they were written from. -/
theorem hexValue_paddedHex (k n : ℕ) : hexValue (paddedHex k n) = n % 16 ^ k := by
  induction k generalizing n with
  | zero =>
    rw [Nat.pow_zero,Nat.mod_one]
    rfl
  | succ k ih =>
    have hlast : hexDigit? (Nat.digitChar (n % 16)) = some (n % 16) :=
      hexDigit?_digitChar _ (Nat.mod_lt n (by decide))
    calc hexValue (paddedHex (k + 1) n) = 16 * (n / 16 % 16 ^ k) + n % 16 := by
          simp only [paddedHex,hexValue_append,ih,hlast,Option.getD_some]
      _ = n % 16 ^ (k + 1) := by
          rw [pow_succ',Nat.mod_mul]
          omega

@[simp] theorem length_paddedHex (k n : ℕ) : (paddedHex k n).length = k := by
  induction k generalizing n with
  | zero => rfl
  | succ k ih => simp [paddedHex,ih]

/-- The sixteen digits that are written. -/
def hexSymbols : List Char := "0123456789abcdef".toList

private theorem digitChar_mem_hexSymbols : ∀ d < 16,Nat.digitChar d ∈ hexSymbols := by decide

theorem mem_hexSymbols_of_mem_paddedHex {k n : ℕ} {c : Char} (hc : c ∈ paddedHex k n) :
    c ∈ hexSymbols := by
  induction k generalizing n with
  | zero => cases hc
  | succ k ih =>
    rw [paddedHex,List.mem_append,List.mem_singleton] at hc
    rcases hc with hc | rfl
    · exact ih hc
    · exact digitChar_mem_hexSymbols _ (Nat.mod_lt n (by decide))

/-- The digits one by one, the most significant first. -/
theorem paddedHex_eq_map (k n : ℕ) :
    paddedHex k n = (List.range k).map (fun i => Nat.digitChar (n / 16 ^ (k - 1 - i) % 16)) := by
  induction k generalizing n with
  | zero => rfl
  | succ k ih =>
    have hfront : ∀ i ∈ List.range k,
        Nat.digitChar (n / 16 / 16 ^ (k - 1 - i) % 16) =
          Nat.digitChar (n / 16 ^ (k + 1 - 1 - i) % 16) := by
      intro i hi
      have hexp : k + 1 - 1 - i = (k - 1 - i) + 1 := by
        have := List.mem_range.mp hi
        omega
      rw [hexp,pow_succ',Nat.div_div_eq_div_mul]
    rw [paddedHex,ih,List.map_congr_left hfront,List.range_succ,List.map_append]
    simp

/-- The digits two by two. -/
theorem paddedHex_eq_flatMap (k n : ℕ) :
    paddedHex (2 * k) n = (List.range k).flatMap (fun i =>
      [Nat.digitChar (n / 2 ^ (8 * (k - 1 - i) + 4) % 16),
        Nat.digitChar (n / 2 ^ (8 * (k - 1 - i)) % 16)]) := by
  induction k generalizing n with
  | zero => rfl
  | succ k ih =>
    have hshift : ∀ i ∈ List.range k,∀ e,
        n / 16 / 16 / 2 ^ (8 * (k - 1 - i) + e) = n / 2 ^ (8 * (k + 1 - 1 - i) + e) := by
      intro i hi e
      have hexp : 8 * (k + 1 - 1 - i) + e = 8 + (8 * (k - 1 - i) + e) := by
        have := List.mem_range.mp hi
        omega
      rw [Nat.div_div_eq_div_mul n 16 16,Nat.div_div_eq_div_mul,hexp,pow_add 2 8]
      rfl
    have hfront : ∀ i ∈ List.range k,
        [Nat.digitChar (n / 16 / 16 / 2 ^ (8 * (k - 1 - i) + 4) % 16),
          Nat.digitChar (n / 16 / 16 / 2 ^ (8 * (k - 1 - i)) % 16)] =
        [Nat.digitChar (n / 2 ^ (8 * (k + 1 - 1 - i) + 4) % 16),
          Nat.digitChar (n / 2 ^ (8 * (k + 1 - 1 - i)) % 16)] := by
      intro i hi
      have hlow := hshift i hi 0
      rw [Nat.add_zero,Nat.add_zero] at hlow
      rw [hshift i hi 4,hlow]
    have htwo : 2 * (k + 1) = 2 * k + 1 + 1 := by omega
    rw [htwo,paddedHex,paddedHex,ih,List.flatMap_congr hfront,List.range_succ,List.flatMap_append]
    simp

/-- What is checked for one character; the digits are among the first 128. -/
private theorem digitChar_of_hexDigit? : ∀ n < 128,
    (hexDigit? (Char.ofNat n)).all (fun d => d < 16 && Nat.digitChar d == (Char.ofNat n).toLower) =
      true := by decide

private theorem toNat_lt_of_isHexDigit {c : Char} (h : isHexDigit c = true) : c.toNat < 128 := by
  rcases isHexDigit_range h with hrange | hrange | hrange
  · omega
  · omega
  · omega

theorem hexDigit?_lt {c : Char} (h : isHexDigit c = true) :
    ∃ d < 16,hexDigit? c = some d ∧ Nat.digitChar d = c.toLower := by
  obtain ⟨d,hd⟩ := Option.isSome_iff_exists.mp h
  have hchar := digitChar_of_hexDigit? c.toNat (toNat_lt_of_isHexDigit h)
  rw [Char.ofNat_toNat,hd,Option.all_some,Bool.and_eq_true,decide_eq_true_eq,beq_iff_eq] at hchar
  exact ⟨d,hchar.1,hd,hchar.2⟩

/-- Digits of either case, written again from the number they denote, are in lower case. -/
theorem paddedHex_hexValue {cs : List Char} (h : ∀ c ∈ cs,isHexDigit c = true) :
    paddedHex cs.length (hexValue cs) = cs.map Char.toLower := by
  induction cs using List.reverseRecOn with
  | nil => rfl
  | append_singleton cs c ih =>
    have hfront := ih (fun d hd => h d (List.mem_append_left _ hd))
    obtain ⟨d,hlt,hd,hchar⟩ := hexDigit?_lt (h c (by simp))
    have hdiv : (16 * hexValue cs + d) / 16 = hexValue cs := by omega
    have hmod : (16 * hexValue cs + d) % 16 = d := by omega
    rw [List.length_append,List.length_singleton,hexValue_append,hd,Option.getD_some,paddedHex,hdiv,
      hmod,hfront,hchar,List.map_append]
    rfl

theorem hexValue_lt {cs : List Char} (h : ∀ c ∈ cs,isHexDigit c = true) :
    hexValue cs < 16 ^ cs.length := by
  induction cs using List.reverseRecOn with
  | nil => decide
  | append_singleton cs c ih =>
    have hfront := ih (fun d hd => h d (List.mem_append_left _ hd))
    obtain ⟨d,hlt,hd,-⟩ := hexDigit?_lt (h c (by simp))
    rw [List.length_append,List.length_singleton,hexValue_append,hd,Option.getD_some,pow_succ]
    omega

/-- `digest("hex")` of 32 bytes. -/
def hexText (digest : BitVec 256) : String := String.ofList (paddedHex 64 digest.toNat)

theorem toList_hexText (digest : BitVec 256) :
    (hexText digest).toList = paddedHex 64 digest.toNat := String.toList_ofList

theorem hexValue_hexText (digest : BitVec 256) : hexValue (hexText digest).toList = digest.toNat := by
  rw [toList_hexText,hexValue_paddedHex,Nat.mod_eq_of_lt]
  exact digest.isLt

theorem hexText_injective : Function.Injective hexText := by
  intro a b h
  apply BitVec.eq_of_toNat_eq
  rw [← hexValue_hexText,h,hexValue_hexText]

theorem trimmed_hexText (digest : BitVec 256) : Trimmed (hexText digest) := by
  apply trimmed_of_no_space
  intro c hc
  rw [toList_hexText] at hc
  exact isJsSpace_of_isHexDigit (isHexDigit_of_mem_paddedHex hc)

/-- No digest starts with the prefix that a number literal has. -/
theorem hexText_no_prefix (digest : BitVec 256) {x : Char} (hx : isHexDigit x = false) :
    (hexText digest).toList.take 2 ≠ ['0',x] := by
  intro htake
  have hmem : x ∈ (hexText digest).toList := by
    apply List.mem_of_mem_take (i := 2)
    simp [htake]
  rw [toList_hexText] at hmem
  rw [isHexDigit_of_mem_paddedHex hmem] at hx
  cases hx

end BelLedger
