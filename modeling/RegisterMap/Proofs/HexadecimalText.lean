import RegisterMap.Proofs.Gathering
import RegisterMap.Proofs.NumberText
import RegisterMap.Proofs.Spacing

/-!
# Hexadecimal numbers in a text

A text is read as a hexadecimal number exactly if it is written as one (`Description.IsHexadecimalText`): blanks
around it apart, a minus sign or none, a mark or none, and digits of a number of at most 127 bits.  Signs and
marks come once at most and in that order, since neither is a digit.

Numbers are written in this form, with or without zeros that fill the front (`isHexadecimal_zeros_append`).
That they are read back follows from the form alone, and no reader is opened for it.
-/

namespace RegisterMap
namespace Numeral

theorem toList_hex (n : Nat) : (hex n).toList = '0' :: 'x' :: hexDigits n := by
  simp [hex, String.toList_append]

theorem spells_zeros_append (k n : Nat) : Spells 16 (List.replicate k '0' ++ hexDigits n) n :=
  (natural?_eq_some_iff (by decide)).mp (natural?_zeros_append k n)

/-- What is written after the mark is a number, however many zeros come first. -/
theorem isHexadecimal_zeros_append (k n : Nat) :
    IsHexadecimal ('0' :: 'x' :: (List.replicate k '0' ++ hexDigits n)) n :=
  ⟨[], ['0', 'x'], _, n, rfl, by simp, spells_zeros_append k n, .inl ⟨rfl, rfl⟩⟩

/-- There are no blanks in a number. -/
theorem IsHexadecimal.isBlank_eq_false {cs : List Char} {v : Int} (h : IsHexadecimal cs v) :
    ∀ c ∈ cs, Text.isBlank c = false := by
  obtain ⟨sign, mark, digits, n, rfl, hmark, hdigits, hsign⟩ := h
  obtain ⟨hminus, hzero, hx, hX⟩ : Text.isBlank '-' = false ∧ Text.isBlank '0' = false ∧
      Text.isBlank 'x' = false ∧ Text.isBlank 'X' = false := by decide
  have hfront : ∀ c ∈ sign ++ mark, Text.isBlank c = false := by
    simp only [List.mem_cons, List.not_mem_nil, or_false] at hmark
    rcases hsign with ⟨rfl, -⟩ | ⟨rfl, -⟩ <;> rcases hmark with rfl | rfl | rfl <;>
      simp [hminus, hzero, hx, hX]
  intro c hc
  rcases List.mem_append.mp hc with hc | hc
  · exact hfront c hc
  · obtain ⟨d, hd⟩ := hdigits.exists_digit (by decide) hc
    exact isBlank_of_digit? hd

end Numeral

namespace Description

/-- The text is a hexadecimal number of at most 127 bits, perhaps with blanks around it. -/
def IsHexadecimalText (value : String) (v : Int) : Prop :=
  ∃ core, Text.TrimsTo value.toList core ∧ Numeral.IsHexadecimal core v ∧ v.natAbs ≤ 2 ^ 127 - 1

/-- The bound is stated as a largest number here, and as the first number beyond it where the digits are
read. -/
theorem hexNumber?_trimChars_eq_some_iff {value : String} {v : Int} :
    hexNumber? (Text.trimChars value.toList) = some v ↔ IsHexadecimalText value v := by
  have hlimit : v.natAbs < 2 ^ 127 ↔ v.natAbs ≤ 2 ^ 127 - 1 := by omega
  rw [Numeral.hexNumber?_eq_some_iff, hlimit]
  constructor
  · rintro ⟨hnumber, hle⟩
    exact ⟨_, Text.trimsTo_trimChars value.toList, hnumber, hle⟩
  · rintro ⟨core, hcore, hnumber, hle⟩
    rw [hcore.trimChars_eq]
    exact ⟨hnumber, hle⟩

theorem hexadecimal_eq_ok_iff_text {what owner value : String} {v : Int} :
    hexadecimal what owner value = .ok v ↔ IsHexadecimalText value v := by
  rw [hexadecimal_eq_ok_iff, hexNumber?_trimChars_eq_some_iff]

/-- A text that is no number is refused, and the fault shows it. -/
theorem hexadecimal_eq_error_iff {what owner value : String} {fault : Fault} :
    hexadecimal what owner value = .error fault ↔
      fault = .malformed what value owner ∧ ¬ ∃ v, IsHexadecimalText value v := by
  have hread : (∃ v, IsHexadecimalText value v) ↔ ∃ v, hexadecimal what owner value = .ok v :=
    exists_congr fun _ => hexadecimal_eq_ok_iff_text.symm
  rw [hread]
  unfold hexadecimal
  split
  · simp
  · simp [eq_comm]

/-- What is written has no blanks around it, so that trimming leaves it as it is. -/
theorem isHexadecimalText_of_toList {value : String} {n : Nat} {cs : List Char}
    (hvalue : value.toList = cs) (hnumber : Numeral.IsHexadecimal cs n) (hn : n ≤ 2 ^ 127 - 1) :
    IsHexadecimalText value n := by
  refine ⟨cs, ?_, hnumber, hn⟩
  rw [hvalue, ← Text.trimChars_eq_iff]
  exact Text.trimChars_eq_self hnumber.isBlank_eq_false

theorem isHexadecimalText_hex {n : Nat} (hn : n ≤ 2 ^ 127 - 1) :
    IsHexadecimalText (Numeral.hex n) n :=
  isHexadecimalText_of_toList (Numeral.toList_hex n) (Numeral.isHexadecimal_zeros_append 0 n) hn

theorem isHexadecimalText_hexPadded {n : Nat} (hn : n ≤ 2 ^ 127 - 1) :
    IsHexadecimalText (Numeral.hexPadded n) n :=
  isHexadecimalText_of_toList (Numeral.toList_hexPadded n) (Numeral.isHexadecimal_zeros_append _ n) hn

/-- Exactly the hexadecimal numbers are read, each as its value, and all other texts are refused as malformed.
So what is written of a word of 64 bits is read back, with zeros before it or not. -/
theorem hexadecimal_exact (what owner : String) :
    (∀ value v, hexadecimal what owner value = .ok v ↔ IsHexadecimalText value v) ∧
      (∀ value fault, hexadecimal what owner value = .error fault ↔
        fault = .malformed what value owner ∧ ¬ ∃ v, IsHexadecimalText value v) ∧
      ∀ n : UInt64, hexadecimal what owner (Numeral.hex n.toNat) = .ok n.toNat ∧
        hexadecimal what owner (Numeral.hexPadded n.toNat) = .ok n.toNat := by
  refine ⟨fun _ _ => hexadecimal_eq_ok_iff_text, fun _ _ => hexadecimal_eq_error_iff, fun n => ?_⟩
  -- A word of 64 bits is well within the 127 that are read.
  have hn : n.toNat ≤ 2 ^ 127 - 1 := by
    have hlt := n.toNat_lt
    omega
  exact ⟨hexadecimal_eq_ok_iff_text.mpr (isHexadecimalText_hex hn),
    hexadecimal_eq_ok_iff_text.mpr (isHexadecimalText_hexPadded hn)⟩

/-- The largest number, one beyond it, and signs and marks that come twice or in the wrong order. -/
example :
    hexadecimal "offset" "R" " -0X7fffFFFFffffFFFFffffFFFFffffFFFF " = .ok (-(2 ^ 127 - 1)) ∧
      ∀ value ∈ ["0x80000000000000000000000000000000", "--4", "+4", "0x-4", "0x0x4", "x4", "0x", "-", ""],
        hexadecimal "offset" "R" value = .error (.malformed "offset" value "R") := by
  decide +kernel

end Description
end RegisterMap
