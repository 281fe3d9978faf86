import Mathlib.Data.List.GetD
import Mathlib.Tactic

/-!
# Cyclic redundancy registers

A reflected shift register takes one bit at a time, the lowest bit first, and
xors its polynomial in whenever a one falls out.  The shift is linear, and it is
injective when the polynomial has its top bit, so that up to `width` bits are
told apart by the register they leave.
-/

namespace Nexolab

namespace ShiftRegister

variable {width : ℕ} (polynomial : BitVec width)

def shift (crc : BitVec width) : BitVec width :=
  if crc.getLsbD 0 then (crc >>> 1) ^^^ polynomial else crc >>> 1

def bitValue (bit : Bool) : BitVec width := (BitVec.ofBool bit).setWidth width

def absorbBit (crc : BitVec width) (bit : Bool) : BitVec width :=
  shift polynomial (crc ^^^ bitValue bit)

def absorb (crc : BitVec width) (bits : List Bool) : BitVec width :=
  bits.foldl (absorbBit polynomial) crc

def number (bits : List Bool) : BitVec width :=
  bits.foldr (fun bit rest => (rest <<< 1) ^^^ bitValue bit) 0

variable {polynomial} {crc other : BitVec width} {bits : List Bool}

theorem shift_zero : shift polynomial 0 = 0 := by simp [shift]

theorem shift_xor (crc other : BitVec width) :
    shift polynomial (crc ^^^ other) = shift polynomial crc ^^^ shift polynomial other := by
  unfold shift
  rw [BitVec.getLsbD_xor, BitVec.ushiftRight_xor_distrib]
  cases crc.getLsbD 0 <;> cases other.getLsbD 0 <;>
    simp [BitVec.xor_assoc, BitVec.xor_comm polynomial]

theorem getLsbD_shift_top (htop : polynomial.getLsbD (width - 1) = true) :
    (shift polynomial crc).getLsbD (width - 1) = crc.getLsbD 0 := by
  have hpos : 0 < width := by
    by_contra hzero
    have hwidth : width = 0 := by omega
    subst hwidth
    simp at htop
  have hout : (crc >>> 1).getLsbD (width - 1) = false := by
    rw [BitVec.getLsbD_ushiftRight]
    exact BitVec.getLsbD_of_ge _ _ (by omega)
  unfold shift
  split_ifs with hlow
  · rw [BitVec.getLsbD_xor, hout, htop, hlow]
    rfl
  · rw [hout, Bool.eq_false_of_not_eq_true hlow]

theorem shift_injective (htop : polynomial.getLsbD (width - 1) = true) :
    Function.Injective (shift polynomial) := by
  intro first second hsame
  have hlow : first.getLsbD 0 = second.getLsbD 0 := by
    rw [← getLsbD_shift_top htop, hsame, getLsbD_shift_top htop]
  have hrest : first >>> 1 = second >>> 1 := by
    unfold shift at hsame
    rw [hlow] at hsame
    split_ifs at hsame
    · simpa using congrArg (· ^^^ polynomial) hsame
    · exact hsame
  apply BitVec.eq_of_getLsbD_eq
  intro index _
  cases index with
  | zero => exact hlow
  | succ index =>
    have hbit := congrArg (fun value => value.getLsbD index) hrest
    simpa [BitVec.getLsbD_ushiftRight, Nat.add_comm] using hbit

theorem number_getLsbD (bits : List Bool) (index : ℕ) :
    (number bits : BitVec width).getLsbD index =
      (decide (index < width) && bits.getD index false) := by
  induction bits generalizing index with
  | nil => simp [number]
  | cons bit rest ih =>
    have hcons : (number (bit :: rest) : BitVec width) = (number rest <<< 1) ^^^ bitValue bit := rfl
    rw [hcons, BitVec.getLsbD_xor, BitVec.getLsbD_shiftLeft]
    cases index with
    | zero => simp [bitValue]
    | succ index => simp [ih, bitValue]; grind

theorem shift_number (bits : List Bool) (hlen : bits.length < width) :
    shift polynomial (number bits <<< 1) = number bits := by
  unfold shift
  rw [if_neg (by simp)]
  apply BitVec.eq_of_getLsbD_eq
  intro index hindex
  rw [BitVec.getLsbD_ushiftRight, BitVec.getLsbD_shiftLeft, Nat.add_sub_cancel_left, number_getLsbD]
  by_cases hlast : 1 + index < width
  · simp [hlast]
  · rw [List.getD_eq_default _ _ (by omega), Bool.and_false, Bool.and_false]

theorem absorb_eq (hlen : bits.length ≤ width) :
    absorb polynomial crc bits = (shift polynomial)^[bits.length] (crc ^^^ number bits) := by
  induction bits generalizing crc with
  | nil => simp [absorb, number]
  | cons bit rest ih =>
    rw [List.length_cons] at hlen
    have hcons : absorb polynomial crc (bit :: rest) =
        absorb polynomial (shift polynomial (crc ^^^ bitValue bit)) rest := rfl
    have hnumber : (number (bit :: rest) : BitVec width) =
        bitValue bit ^^^ (number rest <<< 1) := BitVec.xor_comm _ _
    rw [hcons, ih (by omega), List.length_cons, Function.iterate_succ_apply, hnumber,
      ← BitVec.xor_assoc, shift_xor _ (number rest <<< 1),
      shift_number rest (by omega)]

theorem absorb_append (before after : List Bool) :
    absorb polynomial crc (before ++ after) =
      absorb polynomial (absorb polynomial crc before) after :=
  List.foldl_append

theorem absorb_injective (htop : polynomial.getLsbD (width - 1) = true)
    (hsame : absorb polynomial crc bits = absorb polynomial other bits) : crc = other := by
  induction bits generalizing crc other with
  | nil => exact hsame
  | cons bit rest ih => simpa using shift_injective htop (ih hsame)

theorem eq_of_absorb_eq (htop : polynomial.getLsbD (width - 1) = true)
    {received : List Bool} (hlen : bits.length ≤ width) (hsame : received.length = bits.length)
    (habs : absorb polynomial crc received = absorb polynomial crc bits) :
    received = bits := by
  rw [absorb_eq hlen, absorb_eq (hsame ▸ hlen), hsame] at habs
  have hnumber : (number received : BitVec width) = number bits :=
    (BitVec.xor_right_inj crc).mp ((shift_injective htop).iterate _ habs)
  apply List.ext_getElem hsame
  intro index hreceived hindex
  have hbit : (number received : BitVec width).getLsbD index =
      (number bits : BitVec width).getLsbD index := by rw [hnumber]
  rw [number_getLsbD, number_getLsbD, decide_eq_true (by omega)] at hbit
  simpa [hindex, hreceived] using hbit

theorem absorb_cons (bit : Bool) :
    absorb polynomial crc (bit :: bits) =
      absorb polynomial (absorbBit polynomial crc bit) bits :=
  rfl

theorem absorbBit_xor (bit flip : Bool) :
    absorbBit polynomial (crc ^^^ other) (xor bit flip) =
      absorbBit polynomial crc bit ^^^ absorbBit polynomial other flip := by
  have hbit : (bitValue (xor bit flip) : BitVec width) = bitValue bit ^^^ bitValue flip := by
    cases bit <;> cases flip <;> simp [bitValue]
  unfold absorbBit
  rw [← shift_xor, hbit]
  congr 1
  ac_rfl

/-- The register of the flipped bits is flipped by the register of the pattern. -/
theorem absorb_xor {pattern : List Bool} (hlen : pattern.length = bits.length) :
    absorb polynomial (crc ^^^ other) (List.zipWith xor bits pattern) =
      absorb polynomial crc bits ^^^ absorb polynomial other pattern := by
  induction bits generalizing crc other pattern with
  | nil => simp_all [absorb]
  | cons bit rest ih =>
    cases pattern with
    | nil => cases hlen
    | cons flip pattern =>
      rw [List.zipWith_cons_cons, absorb_cons, absorbBit_xor, ih (by simpa using hlen),
        absorb_cons, absorb_cons]

theorem absorb_unset (hunset : true ∉ bits) :
    absorb polynomial crc bits = (shift polynomial)^[bits.length] crc := by
  induction bits generalizing crc with
  | nil => rfl
  | cons bit rest ih =>
    rw [List.mem_cons, not_or] at hunset
    have hbit : bit = false := by simpa using hunset.1
    rw [absorb_cons, ih hunset.2, hbit]
    simp [absorbBit, bitValue]

end ShiftRegister

end Nexolab
