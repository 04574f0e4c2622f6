import BelLedger.JsStrings

/-!
# JavaScript strings by their code units

A string may hold a surrogate that is no half of a pair. Read by code points it is a list of
characters and lone surrogates, which has the same code units.
-/
namespace BelLedger

abbrev CodeUnits := List UInt16

def isLeadSurrogate (u : UInt16) : Bool := 0xD800 ≤ u.toNat && u.toNat ≤ 0xDBFF

def isTrailSurrogate (u : UInt16) : Bool := 0xDC00 ≤ u.toNat && u.toNat ≤ 0xDFFF

inductive CodePoint
  | scalar (c : Char)
  | surrogate (u : UInt16)

/-- `UTF16EncodeCodePoint` of a character. -/
def utf16Char (c : Char) : CodeUnits :=
  if c.toNat < 0x10000 then [UInt16.ofNat c.toNat]
  else [UInt16.ofNat (0xD800 + (c.toNat - 0x10000) / 0x400),
    UInt16.ofNat (0xDC00 + (c.toNat - 0x10000) % 0x400)]

/-- A text as a JavaScript string. -/
def utf16 (s : String) : CodeUnits := s.toList.flatMap utf16Char

def CodePoint.units : CodePoint → CodeUnits
  | .scalar c => utf16Char c
  | .surrogate u => [u]

/-- A code unit that is not half of a pair. -/
def CodePoint.ofUnit (u : UInt16) : CodePoint :=
  if isLeadSurrogate u = true ∨ isTrailSurrogate u = true then .surrogate u
  else .scalar (Char.ofNat u.toNat)

/-- `UTF16SurrogatePairToCodePoint` -/
def CodePoint.ofPair (u v : UInt16) : CodePoint :=
  .scalar (Char.ofNat (0x10000 + ((u.toNat - 0xD800) * 0x400 + (v.toNat - 0xDC00))))

/-- `StringToCodePoints` -/
def codePoints : CodeUnits → List CodePoint
  | [] => []
  | [u] => [.ofUnit u]
  | u::v::us =>
    if isLeadSurrogate u = true ∧ isTrailSurrogate v = true then .ofPair u v::codePoints us
    else .ofUnit u::codePoints (v::us)

private theorem toNat_ofNat {n : ℕ} (h : n < 0xD800 ∨ (0xDFFF < n ∧ n < 0x110000)) :
    (Char.ofNat n).toNat = n := by
  have hvalid : n.isValidChar := h
  rw [Char.ofNat,dif_pos hvalid]
  rfl

@[simp] theorem units_ofUnit (u : UInt16) : (CodePoint.ofUnit u).units = [u] := by
  unfold CodePoint.ofUnit
  split
  · rfl
  · rename_i hnone
    simp only [isLeadSurrogate,isTrailSurrogate,Bool.and_eq_true,decide_eq_true_eq] at hnone
    have hlt := u.toNat_lt
    have hchar : (Char.ofNat u.toNat).toNat = u.toNat := toNat_ofNat (by omega)
    rw [CodePoint.units,utf16Char,hchar,if_pos (by omega),UInt16.ofNat_toNat]

theorem units_ofPair {u v : UInt16} (hu : isLeadSurrogate u = true)
    (hv : isTrailSurrogate v = true) : (CodePoint.ofPair u v).units = [u,v] := by
  simp only [isLeadSurrogate,isTrailSurrogate,Bool.and_eq_true,decide_eq_true_eq] at hu hv
  have hchar := toNat_ofNat (n := 0x10000 + ((u.toNat - 0xD800) * 0x400 + (v.toNat - 0xDC00)))
    (by omega)
  have hlead : 0xD800 + (0x10000 + ((u.toNat - 0xD800) * 0x400 + (v.toNat - 0xDC00)) - 0x10000) /
      0x400 = u.toNat := by omega
  have htrail : 0xDC00 + (0x10000 + ((u.toNat - 0xD800) * 0x400 + (v.toNat - 0xDC00)) - 0x10000) %
      0x400 = v.toNat := by omega
  rw [CodePoint.ofPair,CodePoint.units,utf16Char,hchar,if_neg (by omega),hlead,htrail,
    UInt16.ofNat_toNat,UInt16.ofNat_toNat]

/-- Nothing is lost by reading a string by code points. -/
theorem flatMap_units_codePoints (us : CodeUnits) :
    (codePoints us).flatMap CodePoint.units = us := by
  induction us using codePoints.induct with
  | case1 => rfl
  | case2 u => simp [codePoints]
  | case3 u v us hpair ih =>
    rw [codePoints,if_pos hpair,List.flatMap_cons,units_ofPair hpair.1 hpair.2,ih]
    rfl
  | case4 u v us hpair ih =>
    rw [codePoints,if_neg hpair,List.flatMap_cons,units_ofUnit,ih]
    rfl

theorem codePoints_injective : Function.Injective codePoints := by
  intro us vs h
  rw [← flatMap_units_codePoints us,h,flatMap_units_codePoints]

end BelLedger
