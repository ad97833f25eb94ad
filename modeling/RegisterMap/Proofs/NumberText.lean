import Mathlib.Data.List.Induction
import Mathlib.Data.Nat.Digits.Defs
import RegisterMap.Proofs.Numerals

/-!
# How numbers are written

What a text looks like that is read as a number, said without the readers: digits of a base, letters among
them in either case, with the value that the positions give them (`Numeral.Spells`); a sign before them in a
decimal number (`Numeral.IsDecimal`); a minus sign and a mark in a hexadecimal one
(`Numeral.IsHexadecimal`).

Each reader takes exactly the texts of its form whose value fits (`Numeral.signed?_eq_some_iff`,
`Numeral.hexNumber?_eq_some_iff`).  A text has one form only, since no sign is a digit and neither is the
letter of a mark.
-/

namespace RegisterMap
namespace Numeral

open Description (withoutHexMark hexMagnitude? hexNumber?)

/-! ### Digits -/

/-- The character is the digit, in either case. -/
def IsDigitOf (base : Nat) (c : Char) (d : Nat) : Prop :=
  d < base ∧ (c = d.digitChar ∨ c = d.digitChar.toUpper)

theorem digit?_of_le {base : Nat} (hbase : base ≤ 16) {c : Char} {d : Nat} :
    digit? base c = some d ↔ d < base ∧ digit? 16 c = some d := by
  simp only [digit?, Option.ite_none_right_eq_some, Option.some.injEq]
  split_ifs <;> omega

/-- No character beyond these is a digit, so that they can be gone through. -/
theorem digit?_sixteen_ascii :
    ∀ n < 128, ∀ d ∈ digit? 16 (Char.ofNat n),
      Char.ofNat n = d.digitChar ∨ Char.ofNat n = d.digitChar.toUpper := by
  decide

theorem digit?_eq_some_iff {base : Nat} (hbase : base ≤ 16) {c : Char} {d : Nat} :
    digit? base c = some d ↔ IsDigitOf base c d := by
  rw [digit?_of_le hbase, IsDigitOf]
  refine and_congr_right fun hd => ?_
  constructor
  · intro h
    -- A digit is one of the characters below 128, among which it was looked up.
    have hrange := (cases_of_digit? h).2
    have hascii := digit?_sixteen_ascii c.toNat (by omega) d
    rw [Char.ofNat_toNat] at hascii
    exact hascii h
  · have hdigits : ∀ d < 16, digit? 16 d.digitChar = some d ∧
        digit? 16 d.digitChar.toUpper = some d := by decide
    obtain ⟨hlower, hupper⟩ := hdigits d (by omega)
    rintro (rfl | rfl)
    · exact hlower
    · exact hupper

/-- The reader takes the digits from the front, where the library has the last one first. -/
theorem ofDigits_eq (base : Nat) (digits : List Nat) :
    ofDigits base digits = Nat.ofDigits base digits.reverse := by
  induction digits using List.reverseRecOn with
  | nil => rfl
  | append_singleton digits d ih =>
      rw [ofDigits_append_singleton, ih, List.reverse_append, List.reverse_singleton,
        List.singleton_append, Nat.ofDigits_cons, Nat.mul_comm, Nat.add_comm]

/-- The characters are digits, one or more, that stand for the number in that base. -/
def Spells (base : Nat) (cs : List Char) (n : Nat) : Prop :=
  ∃ digits, digits ≠ [] ∧ List.Forall₂ (IsDigitOf base) cs digits ∧
    Nat.ofDigits base digits.reverse = n

theorem Spells.ne_nil {base : Nat} {cs : List Char} {n : Nat} (h : Spells base cs n) : cs ≠ [] := by
  obtain ⟨digits, hne, hall, -⟩ := h
  rintro rfl
  exact hne (List.forall₂_nil_left_iff.mp hall)

/-- A text is read as a number in a base exactly if it spells one. -/
theorem natural?_eq_some_iff {base : Nat} (hbase : base ≤ 16) {cs : List Char} {n : Nat} :
    natural? base cs = some n ↔ Spells base cs n := by
  have hdigits : ∀ digits, cs.mapM (digit? base) = some digits ↔
      List.Forall₂ (IsDigitOf base) cs digits := by
    intro digits
    rw [mapM_eq_some_iff]
    simp only [digit?_eq_some_iff hbase]
  rw [natural?]
  split
  · next hempty =>
    simp only [reduceCtorEq, false_iff]
    exact fun h => h.ne_nil (List.isEmpty_iff.mp hempty)
  · next hempty =>
    simp only [Option.map_eq_some_iff, hdigits, ofDigits_eq]
    constructor
    · rintro ⟨digits, hall, rfl⟩
      refine ⟨digits, ?_, hall, rfl⟩
      rintro rfl
      exact hempty (List.isEmpty_iff.mpr (List.forall₂_nil_right_iff.mp hall))
    · rintro ⟨digits, -, hall, rfl⟩
      exact ⟨digits, hall, rfl⟩

theorem Spells.exists_digit {base : Nat} (hbase : base ≤ 16) {cs : List Char} {n : Nat}
    (h : Spells base cs n) {c : Char} (hc : c ∈ cs) : ∃ d, digit? base c = some d := by
  obtain ⟨digits, -, hall, -⟩ := h
  have hread : cs.mapM (digit? base) = some digits := by
    rw [mapM_eq_some_iff]
    exact hall.imp fun _ _ => (digit?_eq_some_iff hbase).mpr
  exact exists_of_mapM_eq_some hread c hc

/-- A number does not begin with a sign. -/
theorem Spells.head?_ne {base : Nat} (hbase : base ≤ 16) {cs : List Char} {n : Nat}
    (h : Spells base cs n) : cs.head? ≠ some '-' ∧ cs.head? ≠ some '+' := by
  have hsign : ∀ c, cs.head? = some c → 48 ≤ c.toNat := by
    intro c hc
    obtain ⟨d, hd⟩ := h.exists_digit hbase (List.mem_of_head? hc)
    have hrange := (cases_of_digit? hd).2
    omega
  exact ⟨fun hminus => absurd (hsign _ hminus) (by decide),
    fun hplus => absurd (hsign _ hplus) (by decide)⟩

/-- Signs and digits are all that a number is written with. -/
theorem mem_of_unsigned? {base bits n : Nat} (hbase : base ≤ 16) {cs : List Char}
    (h : unsigned? base bits cs = some n) {c : Char} (hc : c ∈ cs) :
    c = '+' ∨ ∃ d, digit? base c = some d := by
  unfold unsigned? at h
  obtain ⟨hread, -⟩ := Option.filter_eq_some_iff.mp h
  have hspells := (natural?_eq_some_iff hbase).mp hread
  split at hspells
  · rcases List.mem_cons.mp hc with rfl | hc
    · exact .inl rfl
    · exact .inr (hspells.exists_digit hbase hc)
  · exact .inr (hspells.exists_digit hbase hc)

/-! ### Decimal numbers -/

/-- The text is a decimal number: a sign or none, and digits. -/
def IsDecimal (cs : List Char) (v : Int) : Prop :=
  ∃ sign digits n, cs = sign ++ digits ∧ Spells 10 digits n ∧
    ((sign = [] ∨ sign = ['+']) ∧ v = n ∨ sign = ['-'] ∧ v = -(n : Int))

theorem integer?_unsigned (base : Nat) {cs : List Char} (hminus : cs.head? ≠ some '-')
    (hplus : cs.head? ≠ some '+') : integer? base cs = (natural? base cs).map Int.ofNat := by
  unfold integer?
  split
  · exact absurd rfl hminus
  · exact absurd rfl hplus
  · rfl

/-- Which of the signs a text begins with is decided by its first character alone. -/
theorem integer?_eq_some_iff {cs : List Char} {v : Int} :
    integer? 10 cs = some v ↔ IsDecimal cs v := by
  have hnatural : ∀ {digits n}, natural? 10 digits = some n ↔ Spells 10 digits n :=
    natural?_eq_some_iff (by decide)
  constructor
  · intro h
    unfold integer? at h
    split at h
    all_goals obtain ⟨n, hn, rfl⟩ := Option.map_eq_some_iff.mp h
    · next digits => exact ⟨['-'], digits, n, rfl, hnatural.mp hn, .inr ⟨rfl, rfl⟩⟩
    · next digits => exact ⟨['+'], digits, n, rfl, hnatural.mp hn, .inl ⟨.inr rfl, rfl⟩⟩
    · exact ⟨[], cs, n, rfl, hnatural.mp hn, .inl ⟨.inl rfl, rfl⟩⟩
  · rintro ⟨sign, digits, n, rfl, hdigits, ⟨rfl | rfl, rfl⟩ | ⟨rfl, rfl⟩⟩
    · obtain ⟨hminus, hplus⟩ := hdigits.head?_ne (by decide)
      rw [List.nil_append, integer?_unsigned 10 hminus hplus]
      exact Option.map_eq_some_iff.mpr ⟨n, hnatural.mpr hdigits, rfl⟩
    · exact Option.map_eq_some_iff.mpr ⟨n, hnatural.mpr hdigits, rfl⟩
    · exact Option.map_eq_some_iff.mpr ⟨n, hnatural.mpr hdigits, rfl⟩

theorem signed?_eq_some_iff {bits : Nat} {cs : List Char} {v : Int} :
    signed? 10 bits cs = some v ↔ IsDecimal cs v ∧ fitsSigned bits v = true := by
  rw [signed?, Option.filter_eq_some_iff, integer?_eq_some_iff]

/-! ### Hexadecimal numbers -/

/-- The text is a hexadecimal number: a minus sign or none, a mark or none, and digits. -/
def IsHexadecimal (cs : List Char) (v : Int) : Prop :=
  ∃ sign mark digits n, cs = sign ++ mark ++ digits ∧ mark ∈ [[], ['0', 'x'], ['0', 'X']] ∧
    Spells 16 digits n ∧ (sign = [] ∧ v = n ∨ sign = ['-'] ∧ v = -(n : Int))

/-- A mark is taken away once, and only if there is one. -/
theorem withoutHexMark_append {mark digits : List Char} {n : Nat}
    (hmark : mark ∈ [[], ['0', 'x'], ['0', 'X']]) (h : Spells 16 digits n) :
    withoutHexMark (mark ++ digits) = digits := by
  have hdigit := fun c (hc : c ∈ digits) => h.exists_digit (by decide) hc
  simp only [List.mem_cons, List.not_mem_nil, or_false] at hmark
  rcases hmark with rfl | rfl | rfl
  · -- No number begins with a mark: its letter is not a digit.
    rw [List.nil_append]
    unfold withoutHexMark
    split
    · obtain ⟨d, hd⟩ := hdigit 'x' (by simp)
      exact absurd hd (by simp [show digit? 16 'x' = none by decide])
    · obtain ⟨d, hd⟩ := hdigit 'X' (by simp)
      exact absurd hd (by simp [show digit? 16 'X' = none by decide])
    · rfl
  · rfl
  · rfl

theorem exists_mark (cs : List Char) :
    ∃ mark, mark ∈ [[], ['0', 'x'], ['0', 'X']] ∧ cs = mark ++ withoutHexMark cs := by
  unfold withoutHexMark
  split
  · exact ⟨['0', 'x'], by simp, rfl⟩
  · exact ⟨['0', 'X'], by simp, rfl⟩
  · exact ⟨[], by simp, rfl⟩

theorem hexMagnitude?_eq_some_iff {cs : List Char} {n : Nat} :
    hexMagnitude? cs = some n ↔
      (∃ mark digits, cs = mark ++ digits ∧ mark ∈ [[], ['0', 'x'], ['0', 'X']] ∧
        Spells 16 digits n) ∧ n < 2 ^ 127 := by
  rw [hexMagnitude?, Option.filter_eq_some_iff, natural?_eq_some_iff (by decide), fitsUnsigned,
    decide_eq_true_eq]
  refine and_congr ?_ Iff.rfl
  constructor
  · intro h
    -- The reader has decided on the mark, and the rest spells the number.
    obtain ⟨mark, hmark, hcs⟩ := exists_mark cs
    exact ⟨mark, _, hcs, hmark, h⟩
  · rintro ⟨mark, digits, rfl, hmark, h⟩
    rwa [withoutHexMark_append hmark h]

theorem hexNumber?_unsigned {cs : List Char} (hminus : cs.head? ≠ some '-') :
    hexNumber? cs = (hexMagnitude? cs).map Int.ofNat := by
  unfold hexNumber?
  split
  · exact absurd rfl hminus
  · rfl

/-- A text is read as a hexadecimal number exactly if it has that form and a magnitude of at most 127
bits.  The bound is the same for both signs. -/
theorem hexNumber?_eq_some_iff {cs : List Char} {v : Int} :
    hexNumber? cs = some v ↔ IsHexadecimal cs v ∧ v.natAbs < 2 ^ 127 := by
  constructor
  · intro h
    unfold hexNumber? at h
    split at h
    all_goals
      obtain ⟨n, hn, rfl⟩ := Option.map_eq_some_iff.mp h
      obtain ⟨⟨mark, digits, rfl, hmark, hdigits⟩, hlt⟩ := hexMagnitude?_eq_some_iff.mp hn
    · exact ⟨⟨['-'], mark, digits, n, rfl, hmark, hdigits, .inr ⟨rfl, rfl⟩⟩, by simpa using hlt⟩
    · exact ⟨⟨[], mark, digits, n, rfl, hmark, hdigits, .inl ⟨rfl, rfl⟩⟩, by simpa using hlt⟩
  · rintro ⟨⟨sign, mark, digits, n, rfl, hmark, hdigits, hvalue⟩, hlt⟩
    have hmagnitude : hexMagnitude? (mark ++ digits) = some n := by
      refine hexMagnitude?_eq_some_iff.mpr ⟨⟨mark, digits, rfl, hmark, hdigits⟩, ?_⟩
      rcases hvalue with ⟨-, rfl⟩ | ⟨-, rfl⟩ <;> simpa using hlt
    rcases hvalue with ⟨rfl, rfl⟩ | ⟨rfl, rfl⟩
    · rw [List.nil_append, hexNumber?_unsigned]
      · exact Option.map_eq_some_iff.mpr ⟨n, hmagnitude, rfl⟩
      · -- Neither a mark nor a digit is a sign.
        simp only [List.mem_cons, List.not_mem_nil, or_false] at hmark
        rcases hmark with rfl | rfl | rfl
        · exact (hdigits.head?_ne (by decide)).1
        · simp
        · simp
    · exact Option.map_eq_some_iff.mpr ⟨n, hmagnitude, rfl⟩

theorem fitsSigned_iff (bits : Nat) {v : Int} :
    fitsSigned (bits + 1) v = true ↔ -2 ^ bits ≤ v ∧ v < 2 ^ bits := by
  have hsize : (wordSize bits : Int) = 2 ^ bits := by exact_mod_cast rfl
  rw [fitsSigned, Nat.add_sub_cancel, hsize, Bool.and_eq_true, decide_eq_true_eq,
    decide_eq_true_eq]

end Numeral
end RegisterMap
