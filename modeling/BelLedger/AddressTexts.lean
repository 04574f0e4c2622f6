import BelLedger.HexTexts
import BelLedger.IdentityContracts
import BelLedger.Utf8Texts
import BelLedger.ValidatorRegistry

/-!
# Addresses as audit ids

The validator registry writes an address with a loop of its own, the identity registry with
OpenZeppelin's. Both texts are the digits of the address, most significant first.
-/
namespace BelLedger

/-- An address as a text: the prefix, and forty digits. -/
def addressText (a : Address) : String := "0x"++String.ofList (paddedHex 40 a.toNat)

private theorem toNat_lt_of_mem_hexSymbols : ∀ c ∈ hexSymbols,c.toNat < 128 := by
  have hall : hexSymbols.all (fun c => c.toNat < 128) = true := by decide
  intro c hc
  exact of_decide_eq_true (List.all_eq_true.mp hall c hc)

theorem utf8_addressText (a : Address) :
    utf8 (addressText a) = utf8 "0x"++(paddedHex 40 a.toNat).map asciiByte := by
  have hascii : ∀ c ∈ paddedHex 40 a.toNat,c.toNat < 128 :=
    fun c hc => toNat_lt_of_mem_hexSymbols c (mem_hexSymbols_of_mem_paddedHex hc)
  rw [addressText,utf8_append,utf8_ascii hascii]

theorem length_utf8_addressText (a : Address) : (utf8 (addressText a)).length = 42 := by
  rw [utf8_addressText,List.length_append,List.length_map,length_paddedHex]
  rfl

theorem hexValue_address (a : Address) : hexValue (paddedHex 40 a.toNat) = a.toNat := by
  have hsize : 2 ^ 160 = 16 ^ 40 := by decide
  rw [hexValue_paddedHex,Nat.mod_eq_of_lt (hsize ▸ a.isLt)]

theorem addressText_injective : Function.Injective addressText := by
  intro a b h
  have hdigits : paddedHex 40 a.toNat = paddedHex 40 b.toNat :=
    String.ofList_injective (String.append_right_inj _ |>.mp h)
  apply BitVec.eq_of_toNat_eq
  rw [← hexValue_address a,hdigits,hexValue_address]

private theorem symbol_eq : ∀ d < 16,
    (utf8 "0123456789abcdef").getD d 0 = asciiByte (Nat.digitChar d) := by decide

/-- OpenZeppelin's text. -/
theorem toHexString_eq (a : Address) : toHexString a = utf8 (addressText a) := by
  rw [utf8_addressText,toHexString,paddedHex_eq_map,List.map_map]
  congr 1
  apply List.map_congr_left
  intro i _
  exact symbol_eq _ (Nat.mod_lt _ (by decide))

theorem length_toHexString (a : Address) : (toHexString a).length = 42 := by
  rw [toHexString_eq,length_utf8_addressText]

namespace ValidatorRegistry

/-- `symbols` read at the nibble that starts at bit `e` of the address. -/
private theorem symbol_nibble (a : Address) (e : ℕ) :
    symbol ((a >>> e) &&& 0xf) = asciiByte (Nat.digitChar (a.toNat / 2 ^ e % 16)) := by
  have hnibble : ((a >>> e) &&& 0xf).toNat = a.toNat / 2 ^ e % 16 := by
    rw [BitVec.toNat_and,BitVec.toNat_ushiftRight,Nat.shiftRight_eq_div_pow]
    exact Nat.and_two_pow_sub_one_eq_mod _ 4
  rw [symbol,hnibble]
  exact symbol_eq _ (Nat.mod_lt _ (by decide))

/-- Rounds that fill a buffer two bytes at a time, behind a prefix of two bytes. -/
private theorem foldl_set_pairs (x y : UInt8) (f g : ℕ → UInt8) (n m : ℕ) :
    (List.range n).foldl (fun buffer i => (buffer.set (2 + i * 2) (f i)).set (3 + i * 2) (g i))
        ([x,y]++List.replicate (2 * n + m) 0) =
      [x,y]++(List.range n).flatMap (fun i => [f i,g i])++List.replicate m 0 := by
  induction n generalizing m with
  | zero => simp
  | succ n ih =>
    have hroom : 2 * (n + 1) + m = 2 * n + (m + 2) := by omega
    have hlength : ([x,y]++(List.range n).flatMap (fun i => [f i,g i])).length = 2 + n * 2 := by
      simp
      omega
    rw [List.range_succ,List.foldl_append,hroom,ih]
    simp only [List.foldl_cons,List.foldl_nil]
    have hfirst : 2 + n * 2 - (2 + n * 2) = 0 := Nat.sub_self _
    have hsecond : 3 + n * 2 - (2 + n * 2) = 1 := by omega
    rw [List.set_append_right _ _ (by omega),List.set_append_right _ _ (by omega),hlength,hfirst,
      hsecond,List.replicate_succ,List.replicate_succ,List.flatMap_append]
    simp

theorem vmHex_eq (a : Address) : vmHex a = utf8 (addressText a) := by
  have hfold := foldl_set_pairs 48 120 (fun i => symbol ((a >>> (8 * (19 - i) + 4)) &&& 0xf))
    (fun i => symbol ((a >>> (8 * (19 - i))) &&& 0xf)) 20 0
  have hdigits : (paddedHex 40 a.toNat).map asciiByte = (List.range 20).flatMap (fun i =>
      [symbol ((a >>> (8 * (19 - i) + 4)) &&& 0xf),symbol ((a >>> (8 * (19 - i))) &&& 0xf)]) := by
    rw [paddedHex_eq_flatMap 20,List.map_flatMap]
    apply List.flatMap_congr
    intro i _
    rw [symbol_nibble,symbol_nibble]
    rfl
  have hstart : utf8 "0x" = [48,120] := by decide
  rw [utf8_addressText,vmHex,hdigits,hstart]
  rw [List.replicate_zero,List.append_nil] at hfold
  exact hfold

theorem length_vmHex (a : Address) : (vmHex a).length = 42 := by
  rw [vmHex_eq,length_utf8_addressText]

/-- The id of a validator in the audit trail: its text, its number, and that of a wallet. -/
theorem vmHex_faithful :
    (∀ a : Address,(vmHex a).length = 42 ∧ ∃ digits : List Char,
        vmHex a = utf8 ("0x"++String.ofList digits) ∧ digits.length = 40 ∧
          (∀ c ∈ digits,c ∈ "0123456789abcdef".toList) ∧ hexValue digits = a.toNat) ∧
      Function.Injective vmHex ∧ ∀ a : Address,vmHex a = toHexString a := by
  refine ⟨?_,?_,?_⟩
  · intro a
    exact ⟨length_vmHex a,paddedHex 40 a.toNat,vmHex_eq a,length_paddedHex 40 a.toNat,
      fun c hc => mem_hexSymbols_of_mem_paddedHex hc,hexValue_address a⟩
  · intro a b h
    rw [vmHex_eq,vmHex_eq] at h
    exact addressText_injective (utf8_injective h)
  · intro a
    rw [vmHex_eq,toHexString_eq]

end ValidatorRegistry
end BelLedger
