import Mathlib.Data.List.Forall2
import RegisterMap.Description.Parts

/-!
# Numerals

The digits that a number is written with are read as that number (`natural?_toDigits`), in hexadecimal also
with zeros before them (`natural?_zeros_append`).
-/

namespace RegisterMap

/-- All of a list can be read exactly if each member can, to the result at its own place. -/
theorem mapM_eq_some_iff {α β : Type} {f : α → Option β} {as : List α} {bs : List β} :
    as.mapM f = some bs ↔ List.Forall₂ (fun a b => f a = some b) as bs := by
  induction as generalizing bs with
  | nil => cases bs <;> simp
  | cons a as ih =>
      rw [List.mapM_cons]
      simp only [Option.bind_eq_bind, Option.bind_eq_some_iff, Option.pure_def, Option.some.injEq]
      constructor
      · rintro ⟨b, hb, rest, hrest, rfl⟩
        exact .cons hb (ih.mp hrest)
      · intro h
        cases h with
        | cons hb hrest => exact ⟨_, hb, _, ih.mpr hrest, rfl⟩

theorem isSome_mapM_iff {α β : Type} {f : α → Option β} {as : List α} :
    (as.mapM f).isSome = true ↔ ∀ a ∈ as, (f a).isSome = true := by
  induction as with
  | nil => simp
  | cons a as ih =>
      rw [List.mapM_cons, List.forall_mem_cons, ← ih]
      cases f a with
      | none => simp
      | some b => cases as.mapM f <;> simp

theorem exists_of_mapM_eq_some {α β : Type} {f : α → Option β} {as : List α} {bs : List β}
    (h : as.mapM f = some bs) : ∀ a ∈ as, ∃ b, f a = some b := by
  have hsome : (as.mapM f).isSome = true := by rw [h]; rfl
  exact fun a ha => Option.isSome_iff_exists.mp (isSome_mapM_iff.mp hsome a ha)

namespace Text

theorem trimChars_eq_self {cs : List Char} (h : ∀ c ∈ cs, isBlank c = false) :
    trimChars cs = cs := by
  have hfront : Stops isBlank cs := fun c hc => h c (List.mem_of_mem_head? hc)
  have hback : Stops isBlank cs.reverse := fun c hc =>
    h c (List.mem_reverse.mp (List.mem_of_mem_head? hc))
  rw [trimChars, dropWhile_of_stops hfront, dropWhile_of_stops hback, List.reverse_reverse]

end Text

namespace Numeral

/-! ### Digits -/

/-- A digit is a figure or one of the first letters, and its value is below the base. -/
theorem cases_of_digit? {base v : Nat} {c : Char} (h : digit? base c = some v) :
    v < base ∧ ((48 ≤ c.toNat ∧ c.toNat ≤ 57) ∨ (65 ≤ c.toNat ∧ c.toNat ≤ 102 ∧ 10 ≤ v)) := by
  have hle : ∀ a b : Char, a ≤ b ↔ a.toNat ≤ b.toNat := fun a b => by
    rw [Char.le_def, UInt32.le_iff_toNat_le]
    rfl
  simp only [digit?, Option.ite_none_right_eq_some, Option.some.injEq, hle, Char.reduceToNat] at h
  obtain ⟨hlt, hvalue⟩ := h
  split_ifs at hlt hvalue <;> omega

theorem isDigit_of_digit?_ten {v : Nat} {c : Char} (h : digit? 10 c = some v) :
    c.isDigit = true := by
  obtain ⟨hlt, hfigure | hletter⟩ := cases_of_digit? h
  · simp only [Char.isDigit, Bool.and_eq_true, decide_eq_true_eq, ge_iff_le,
      UInt32.le_iff_toNat_le]
    exact hfigure
  · omega

/-- A digit is not taken away where blanks are. -/
theorem isBlank_of_digit? {base v : Nat} {c : Char} (h : digit? base c = some v) :
    Text.isBlank c = false := by
  obtain ⟨-, hrange⟩ := cases_of_digit? h
  simp only [Text.isBlank, Bool.or_eq_false_iff, Bool.and_eq_false_iff, decide_eq_false_iff_not,
    beq_eq_false_iff_ne]
  omega

theorem digit?_digitChar {base n : Nat} (hbase : base ≤ 16) (h : n < base) :
    digit? base n.digitChar = some n := by
  -- There are so few bases and digits that all of them can be tried.
  have hdigits : ∀ base ≤ 16, ∀ n < base, digit? base n.digitChar = some n := by decide
  exact hdigits base hbase n h

/-! ### Numbers read back -/

theorem ofDigits_append_singleton (base : Nat) (digits : List Nat) (d : Nat) :
    ofDigits base (digits ++ [d]) = ofDigits base digits * base + d := by
  rw [ofDigits, List.foldl_append]
  rfl

/-- The last digit is the remainder, and those before it are the digits of the quotient. -/
theorem exists_mapM_toDigits {base : Nat} (hbase : 1 < base) (hbase' : base ≤ 16) (n : Nat) :
    ∃ digits, (Nat.toDigits base n).mapM (digit? base) = some digits ∧ ofDigits base digits = n := by
  induction n using Nat.strongRecOn with
  | ind n ih =>
      by_cases hn : n < base
      · refine ⟨[n], ?_, by simp [ofDigits]⟩
        rw [Nat.toDigits_of_lt_base hn]
        simp [digit?_digitChar hbase' hn]
      · obtain ⟨digits, hdigits, hvalue⟩ := ih (n / base) (Nat.div_lt_self (by omega) hbase)
        refine ⟨digits ++ [n % base], ?_, ?_⟩
        · rw [Nat.toDigits_of_base_le hbase (by omega), List.mapM_append, hdigits]
          simp [digit?_digitChar hbase' (Nat.mod_lt n (by omega))]
        · rw [ofDigits_append_singleton, hvalue]
          exact Nat.div_add_mod' n base

/-- A number is read back from its digits. -/
theorem natural?_toDigits {base : Nat} (hbase : 1 < base) (hbase' : base ≤ 16) (n : Nat) :
    natural? base (Nat.toDigits base n) = some n := by
  obtain ⟨digits, hdigits, hvalue⟩ := exists_mapM_toDigits hbase hbase' n
  have hne : (Nat.toDigits base n).isEmpty = false := by simp
  rw [natural?, hne, hdigits, if_neg Bool.false_ne_true, Option.map_some, hvalue]

/-! ### Hexadecimal numbers -/

theorem hexDigits_of_lt {n : Nat} (h : n < 16) : hexDigits n = [n.digitChar] :=
  Nat.toDigits_of_lt_base h

theorem hexDigits_of_le {n : Nat} (h : 16 ≤ n) :
    hexDigits n = hexDigits (n / 16) ++ [(n % 16).digitChar] :=
  Nat.toDigits_of_base_le (by decide) h

theorem hexDigits_ne_nil (n : Nat) : hexDigits n ≠ [] :=
  Nat.toDigits_ne_nil

theorem natural?_hexDigits (n : Nat) : natural? 16 (hexDigits n) = some n :=
  natural?_toDigits (by decide) (by decide) n

/-- A zero alone is a number, so that something has to follow it. -/
theorem natural?_zero_cons {cs : List Char} (h : cs ≠ []) :
    natural? 16 ('0' :: cs) = natural? 16 cs := by
  have hzero : digit? 16 '0' = some 0 := by decide
  have hempty : cs.isEmpty = false := by simpa using h
  rw [natural?, natural?, List.mapM_cons, hzero, hempty]
  cases cs.mapM (digit? 16) with
  | none => rfl
  | some digits => simp [ofDigits]

/-- Zeros before a number do not change it. -/
theorem natural?_zeros_append (k n : Nat) :
    natural? 16 (List.replicate k '0' ++ hexDigits n) = some n := by
  induction k with
  | zero => exact natural?_hexDigits n
  | succ k ih =>
      rw [List.replicate_succ, List.cons_append, natural?_zero_cons, ih]
      simp [hexDigits_ne_nil n]

theorem toList_hexPadded (n : Nat) :
    (hexPadded n).toList =
      '0' :: 'x' :: (List.replicate (8 - (hexDigits n).length) '0' ++ hexDigits n) := by
  simp [hexPadded, String.toList_append]

end Numeral
end RegisterMap
