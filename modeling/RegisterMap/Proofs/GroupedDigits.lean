import RegisterMap.Header.Vocabulary
import RegisterMap.Proofs.CapitalWords
import RegisterMap.Proofs.Numerals

/-!
# Digits in groups

Constants are written with their digits in groups of four.  Groups are counted from the last digit, so four
digits more at the end are one group more (`grouped_append_four`), and all groups but the first have four
digits (`Header.InFours`).  Underscores only come in between (`filter_grouped`), hence a constant is read back
as the value it was written for (`readConstant?_constant`).
-/

namespace RegisterMap

namespace Numeral

/-! ### Hexadecimal digits -/

/-- The digits of a hexadecimal number in lower case. -/
def lowerDigits : List Char :=
  "0123456789abcdef".toList

theorem digitChar_mem_lowerDigits : ∀ d < 16, d.digitChar ∈ lowerDigits := by
  decide

theorem mem_lowerDigits_of_mem_hexDigits {n : Nat} {c : Char} (h : c ∈ hexDigits n) :
    c ∈ lowerDigits := by
  induction n using Nat.strongRecOn with
  | ind n ih =>
      by_cases hn : n < 16
      · rw [hexDigits_of_lt hn, List.mem_singleton] at h
        rw [h]
        exact digitChar_mem_lowerDigits n hn
      · rw [hexDigits_of_le (by omega), List.mem_append, List.mem_singleton] at h
        rcases h with hfront | rfl
        · exact ih (n / 16) (by omega) hfront
        · exact digitChar_mem_lowerDigits (n % 16) (by omega)

/-- A number does not begin with zero, unless it is zero. -/
theorem head?_hexDigits_ne {n : Nat} (h : 0 < n) : (hexDigits n).head? ≠ some '0' := by
  have hdigit : ∀ d < 16, 0 < d → d.digitChar ≠ '0' := by decide
  induction n using Nat.strongRecOn with
  | ind n ih =>
      by_cases hn : n < 16
      · rw [hexDigits_of_lt hn, List.head?_cons, Ne, Option.some.injEq]
        exact hdigit n hn h
      · rw [hexDigits_of_le (by omega), List.head?_append_of_ne_nil _ (hexDigits_ne_nil _)]
        exact ih (n / 16) (by omega) (by omega)

theorem underscore_not_mem_hexDigits (n : Nat) : '_' ∉ hexDigits n := fun h =>
  absurd (mem_lowerDigits_of_mem_hexDigits h) (by decide)

end Numeral

namespace Header

/-! ### Groups -/

/-- As long as a group is not full, its digits come out as they are. -/
theorem groupReversed_append (group rest : List Char) {done : Nat}
    (h : done + group.length ≤ 4) :
    groupReversed done (group ++ rest) = group ++ groupReversed (done + group.length) rest := by
  induction group generalizing done with
  | nil => rfl
  | cons c group ih =>
      rw [List.length_cons] at h
      rw [List.cons_append, groupReversed, ih (by omega), List.length_cons, List.cons_append]
      · rw [Nat.add_assoc, Nat.add_comm 1]
      · omega

/-- After a full group, an underscore comes before the next digit. -/
theorem groupReversed_four {digits : List Char} (h : digits ≠ []) :
    groupReversed 4 digits = '_' :: groupReversed 0 digits := by
  cases digits with
  | nil => exact absurd rfl h
  | cons c rest => rfl

theorem grouped_of_length_le {digits : List Char} (h : digits.length ≤ 4) :
    grouped digits = digits := by
  have hlength : 0 + digits.reverse.length ≤ 4 := by rw [List.length_reverse]; omega
  have hgroup := groupReversed_append digits.reverse [] hlength
  rw [List.append_nil, groupReversed, List.append_nil] at hgroup
  rw [grouped, hgroup, List.reverse_reverse]

/-- Four digits more at the end are one group more. -/
theorem grouped_append_four {digits group : List Char} (hdigits : digits ≠ [])
    (hgroup : group.length = 4) : grouped (digits ++ group) = grouped digits ++ '_' :: group := by
  have hlength : 0 + group.reverse.length = 4 := by rw [List.length_reverse]; omega
  rw [grouped, grouped, List.reverse_append, groupReversed_append _ _ (Nat.le_of_eq hlength), hlength,
    groupReversed_four (by simpa using hdigits)]
  simp

/-- Digits are cut into a group of one to four and further groups of four. -/
theorem exists_groups {digits : List Char} (h : digits ≠ []) :
    ∃ (first : List Char) (rest : List (List Char)), digits = first ++ rest.flatten ∧
      grouped digits = first ++ rest.flatMap ('_' :: ·) ∧
      (1 ≤ first.length ∧ first.length ≤ 4) ∧ ∀ group ∈ rest, group.length = 4 := by
  -- The induction takes four digits from the end, and so is on the length.
  induction hn : digits.length using Nat.strongRecOn generalizing digits with
  | ind n ih =>
      have hpos : 1 ≤ digits.length := List.length_pos_iff.mpr h
      by_cases hlength : digits.length ≤ 4
      · exact ⟨digits, [], by simp, by simp [grouped_of_length_le hlength], ⟨hpos, hlength⟩, by simp⟩
      · -- The last four digits are a group, and there are digits before them.
        obtain ⟨front, group, rfl, hgroup⟩ :
            ∃ front group, digits = front ++ group ∧ group.length = 4 :=
          ⟨_, _, (List.take_append_drop (digits.length - 4) digits).symm, by
            rw [List.length_drop]; omega⟩
        rw [List.length_append] at hn hlength
        have hfront : front ≠ [] := by
          rintro rfl
          simp [hgroup] at hlength
        obtain ⟨first, rest, hdigits, hgrouped, hfirst, hrest⟩ :=
          ih front.length (by omega) hfront rfl
        refine ⟨first, rest ++ [group], ?_, ?_, hfirst, ?_⟩
        · simp [hdigits]
        · simp [grouped_append_four hfront hgroup, hgrouped]
        · intro g hg
          rcases List.mem_append.mp hg with hg | hg
          · exact hrest g hg
          · rw [List.mem_singleton.mp hg, hgroup]

theorem intercalate_groups (first : List Char) (rest : List (List Char)) :
    ['_'].intercalate (first :: rest) = first ++ rest.flatMap ('_' :: ·) := by
  induction rest generalizing first with
  | nil => simp
  | cons group rest ih =>
      rw [List.intercalate_cons_cons, ih, List.flatMap_cons]
      simp

/-- Cut at the underscores, the groups come out again. -/
theorem pieces_groups {first : List Char} {rest : List (List Char)}
    (h : ∀ group ∈ first :: rest, '_' ∉ group) :
    Text.pieces (· == '_') (first ++ rest.flatMap ('_' :: ·)) = first :: rest := by
  rw [Text.pieces_eq_splitOnP, ← intercalate_groups]
  exact List.splitOn_intercalate '_' h (List.cons_ne_nil first rest)

/-- Cut at its underscores, the text is in groups of four, but for the first group, which may be shorter. -/
def InFours (cs : List Char) : Prop :=
  ∃ first rest, Text.pieces (· == '_') cs = first :: rest ∧
    (1 ≤ first.length ∧ first.length ≤ 4) ∧ ∀ group ∈ rest, group.length = 4

theorem inFours_grouped {digits : List Char} (hne : digits ≠ []) (h : '_' ∉ digits) :
    InFours (grouped digits) := by
  obtain ⟨first, rest, hdigits, hgrouped, hfirst, hrest⟩ := exists_groups hne
  refine ⟨first, rest, ?_, hfirst, hrest⟩
  rw [hgrouped]
  -- An underscore in a group would be one among the digits.
  refine pieces_groups fun group hgroup hmem => h ?_
  rw [hdigits, ← List.flatten_cons]
  exact List.mem_flatten.mpr ⟨group, hgroup, hmem⟩

/-! ### Digits and underscores -/

/-- Underscores are put in and nothing else is done to the digits. -/
theorem filter_groupReversed (done : Nat) (digits : List Char) :
    (groupReversed done digits).filter (· != '_') = digits.filter (· != '_') := by
  fun_induction groupReversed done digits with
  | case1 => rfl
  | case2 c rest ih => simp [List.filter_cons, ih]
  | case3 done c rest hdone ih => simp [List.filter_cons, ih]

/-- Without the underscores, the digits are as they were. -/
theorem filter_grouped {digits : List Char} (h : '_' ∉ digits) :
    (grouped digits).filter (· != '_') = digits := by
  rw [grouped, List.filter_reverse, filter_groupReversed, List.filter_reverse, List.reverse_reverse,
    List.filter_eq_self]
  intro c hc
  rw [bne_iff_ne]
  rintro rfl
  exact h hc

theorem mem_of_mem_grouped {digits : List Char} (h : '_' ∉ digits) {c : Char}
    (hc : c ∈ grouped digits) : c = '_' ∨ c ∈ digits := by
  by_cases hunderscore : c = '_'
  · exact .inl hunderscore
  · rw [← filter_grouped h]
    exact .inr (List.mem_filter.mpr ⟨hc, bne_iff_ne.mpr hunderscore⟩)

theorem head?_grouped {digits : List Char} (h : digits ≠ []) :
    (grouped digits).head? = digits.head? := by
  obtain ⟨first, rest, hdigits, hgrouped, hfirst, -⟩ := exists_groups h
  have hne : first ≠ [] := List.length_pos_iff.mp hfirst.1
  rw [hgrouped, hdigits, List.head?_append_of_ne_nil _ hne, List.head?_append_of_ne_nil _ hne]

theorem getLast?_grouped (digits : List Char) : (grouped digits).getLast? = digits.getLast? := by
  rw [grouped, List.getLast?_reverse, ← List.head?_reverse]
  cases digits.reverse with
  | nil => rfl
  | cons c rest => rfl

/-! ### Constants -/

theorem toList_constant_of_le {value : Nat} (h : value ≤ 9) :
    (constant value).toList = [value.digitChar] := by
  rw [constant, if_pos h, Nat.toString_eq_repr, Nat.toList_repr, Nat.toDigits_of_lt_base (by omega)]

theorem toList_constant_of_lt {value : Nat} (h : 9 < value) :
    (constant value).toList = '0' :: 'x' :: grouped (Numeral.hexDigits value) := by
  rw [constant, if_neg (by omega), String.toList_ofList]

/-- A constant as it is read: without the underscores, in hexadecimal after the mark and else in decimal. -/
def readConstant? (text : String) : Option Nat :=
  match text.toList.filter (· != '_') with
  | '0' :: 'x' :: digits => Numeral.natural? 16 digits
  | digits => Numeral.natural? 10 digits

theorem readConstant?_constant (value : Nat) : readConstant? (constant value) = some value := by
  by_cases h : value ≤ 9
  · have hdigit : ∀ d ≤ 9, [d.digitChar].filter (· != '_') = [d.digitChar] ∧
        Numeral.natural? 10 [d.digitChar] = some d := by decide
    obtain ⟨hfilter, hread⟩ := hdigit value h
    rw [readConstant?, toList_constant_of_le h, hfilter]
    -- One digit alone is no mark.
    split
    · next heq => simp at heq
    · exact hread
  · have hfilter : (constant value).toList.filter (· != '_') =
        '0' :: 'x' :: Numeral.hexDigits value := by
      rw [toList_constant_of_lt (by omega), List.filter_cons_of_pos (by decide),
        List.filter_cons_of_pos (by decide),
        filter_grouped (Numeral.underscore_not_mem_hexDigits value)]
    rw [readConstant?, hfilter]
    exact Numeral.natural?_hexDigits value

/-- A constant is read back as its value, so no two values are written alike.  From ten on, what follows the
mark `0x` are digits in groups of four, in lower case and without a zero in front, and underscores only
between groups. -/
theorem constant_faithful :
    (∀ value : Nat, readConstant? (constant value) = some value) ∧ Function.Injective constant ∧
      ∀ value : Nat, 9 < value → ∃ digits, (constant value).toList = '0' :: 'x' :: digits ∧
        InFours digits ∧ (∀ c ∈ digits, c = '_' ∨ c ∈ Numeral.lowerDigits) ∧
        digits.head? ≠ some '0' ∧ digits.head? ≠ some '_' ∧ digits.getLast? ≠ some '_' := by
  refine ⟨readConstant?_constant, fun a b hab => ?_, fun value hvalue => ?_⟩
  · have hread := readConstant?_constant a
    rw [hab, readConstant?_constant b] at hread
    exact (Option.some.inj hread).symm
  · have hne := Numeral.hexDigits_ne_nil value
    have hplain := Numeral.underscore_not_mem_hexDigits value
    refine ⟨_, toList_constant_of_lt hvalue, inFours_grouped hne hplain, ?_, ?_, ?_, ?_⟩
    · exact fun c hc => (mem_of_mem_grouped hplain hc).imp_right
        Numeral.mem_lowerDigits_of_mem_hexDigits
    · rw [head?_grouped hne]
      exact Numeral.head?_hexDigits_ne (by omega)
    · rw [head?_grouped hne]
      exact fun hhead => hplain (List.mem_of_head? hhead)
    · rw [getLast?_grouped]
      exact fun hlast => hplain (List.mem_of_getLast? hlast)

/-- The smallest value with five digits, which needs a group of one digit. -/
theorem constant_faithful_five_digits :
    9 < 65536 ∧ ∃ digits, (constant 65536).toList = '0' :: 'x' :: digits ∧ InFours digits ∧
      (∀ c ∈ digits, c = '_' ∨ c ∈ Numeral.lowerDigits) ∧
      digits.head? ≠ some '0' ∧ digits.head? ≠ some '_' ∧ digits.getLast? ≠ some '_' :=
  ⟨by decide, constant_faithful.2.2 65536 (by decide)⟩

/-- Around the first value in hexadecimal and the first with two groups, and the largest of 64 bits. -/
example :
    [9, 10, 65535, 65536, 2 ^ 64 - 1].map constant =
      ["9", "0xa", "0xffff", "0x1_0000", "0xffff_ffff_ffff_ffff"] := by
  decide

end Header
end RegisterMap
