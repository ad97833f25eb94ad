import RegisterMap.Text.Pieces
import RegisterMap.Text.Upper

/-!
# What upper case cannot bring in

Upper-case forms come from tables, and a table does not show at a glance what it never gives.  If no entry
of the tables lies in some ranges of code points, then a character outside of them has no upper-case form
with a character in them (`avoids_of_mem_upperChar`).  So upper case makes no blank and no backslash of what
is neither, and it leaves no small letter of ASCII anywhere.
-/

namespace RegisterMap
namespace Text

/-- The code point is in none of the ranges, each given by its first and its last. -/
def Avoids (ranges : List (Nat × Nat)) (n : Nat) : Prop :=
  ∀ range ∈ ranges, n < range.1 ∨ range.2 < n

instance (ranges : List (Nat × Nat)) (n : Nat) : Decidable (Avoids ranges n) :=
  inferInstanceAs (Decidable (∀ range ∈ ranges, n < range.1 ∨ range.2 < n))

/-- The run moves none of its code points into the ranges. -/
def CaseRun.Avoids (r : CaseRun) (ranges : List (Nat × Nat)) : Prop :=
  ∀ range ∈ ranges, r.run.last + r.offset < range.1 ∨ range.2 < r.run.first + r.offset

instance (r : CaseRun) (ranges : List (Nat × Nat)) : Decidable (r.Avoids ranges) :=
  inferInstanceAs (Decidable (∀ range ∈ ranges,
    r.run.last + r.offset < range.1 ∨ range.2 < r.run.first + r.offset))

/-- No entry of the tables gives a code point in the ranges, upper case in ASCII does not move into them, and
neither does zero lie in them, for which a number that is no code point is taken. -/
def UpperTablesAvoid (ranges : List (Nat × Nat)) : Prop :=
  Avoids ranges 0 ∧
    (∀ n < 0x80, Avoids ranges n → Avoids ranges (Char.ofNat n).toUpper.toNat) ∧
    (∀ r ∈ upperSingles, r.Avoids ranges) ∧
    ∀ entry ∈ upperSpecials, ∀ n ∈ entry.2, Avoids ranges n

instance (ranges : List (Nat × Nat)) : Decidable (UpperTablesAvoid ranges) :=
  inferInstanceAs (Decidable (_ ∧ _))

theorem avoids_ofNat {ranges : List (Nat × Nat)} {n : Nat} (hzero : Avoids ranges 0)
    (h : Avoids ranges n) : Avoids ranges (Char.ofNat n).toNat := by
  by_cases hvalid : n.isValidChar
  · rw [Char.ofNat, dif_pos hvalid]
    exact h
  · rw [Char.ofNat, dif_neg hvalid]
    exact hzero

theorem mem_of_lookup_eq_some {specials : List (Nat × List Nat)} {n : Nat} {form : List Nat}
    (h : specials.lookup n = some form) : (n, form) ∈ specials := by
  obtain ⟨before, after, rfl, -⟩ := List.lookup_eq_some_iff.mp h
  exact List.mem_append_right _ List.mem_cons_self

/-- Where the tables avoid the ranges, so does the upper-case form of a character outside of them. -/
theorem avoids_of_mem_upperChar {ranges : List (Nat × Nat)} (htables : UpperTablesAvoid ranges)
    {c d : Char} (hc : Avoids ranges c.toNat) (hd : d ∈ upperChar c) : Avoids ranges d.toNat := by
  obtain ⟨hzero, hascii, hsingles, hspecials⟩ := htables
  unfold upperChar convert at hd
  split at hd
  · next hsmall =>
    obtain rfl := List.mem_singleton.mp hd
    have hupper := hascii c.toNat hsmall hc
    rwa [Char.ofNat_toNat] at hupper
  · split at hd
    · next form hform =>
      obtain ⟨n, hn, rfl⟩ := List.mem_map.mp hd
      exact avoids_ofNat hzero (hspecials _ (mem_of_lookup_eq_some hform) n hn)
    · split at hd
      · next r hfind =>
        obtain rfl := List.mem_singleton.mp hd
        have hcontains := List.find?_some hfind
        simp only [Run.contains, Bool.and_eq_true, decide_eq_true_eq] at hcontains
        refine avoids_ofNat hzero fun range hrange => ?_
        -- The code point lies between the ends of its run, and moves along with them.
        have hends := hsingles r (List.mem_of_find?_eq_some hfind) range hrange
        have hpositive := hzero range hrange
        omega
      · obtain rfl := List.mem_singleton.mp hd
        exact hc

/-- Upper case takes no character away. -/
theorem upperChar_ne_nil (c : Char) : upperChar c ≠ [] := by
  have hspecials : ∀ entry ∈ upperSpecials, entry.2 ≠ [] := by decide
  unfold upperChar
  split
  · exact List.cons_ne_nil _ _
  · unfold convert
    split
    · next form hform => simpa using hspecials _ (mem_of_lookup_eq_some hform)
    · split
      · exact List.cons_ne_nil _ _
      · exact List.cons_ne_nil _ _

/-! ### Blanks -/

/-- The ranges that blanks are in. -/
def blankRanges : List (Nat × Nat) :=
  [(9, 13), (0x20, 0x20), (0x85, 0x85), (0xA0, 0xA0), (0x1680, 0x1680), (0x2000, 0x200A),
    (0x2028, 0x2029), (0x202F, 0x202F), (0x205F, 0x205F), (0x3000, 0x3000)]

theorem isBlank_eq_false_iff {c : Char} : isBlank c = false ↔ Avoids blankRanges c.toNat := by
  simp only [isBlank, Avoids, blankRanges, List.forall_mem_cons, List.not_mem_nil, false_implies,
    implies_true, and_true, Bool.or_eq_false_iff, Bool.and_eq_false_iff, decide_eq_false_iff_not,
    beq_eq_false_iff_ne]
  omega

theorem upperTablesAvoid_blankRanges : UpperTablesAvoid blankRanges := by
  decide +kernel

/-- Upper case makes no blank of a character that is none. -/
theorem isBlank_of_mem_upperChar {c d : Char} (hc : isBlank c = false) (hd : d ∈ upperChar c) :
    isBlank d = false := by
  rw [isBlank_eq_false_iff] at hc ⊢
  exact avoids_of_mem_upperChar upperTablesAvoid_blankRanges hc hd

/-! ### Backslashes -/

theorem avoids_singleton_iff {n m : Nat} : Avoids [(m, m)] n ↔ n ≠ m := by
  simp only [Avoids, List.forall_mem_singleton]
  omega

theorem upperTablesAvoid_backslash : UpperTablesAvoid [(0x5C, 0x5C)] := by
  decide +kernel

theorem upperChar_backslash : upperChar '\\' = ['\\'] := by
  decide

theorem backslash_mem_upperChar_iff {c : Char} : '\\' ∈ upperChar c ↔ c = '\\' := by
  constructor
  · intro h
    by_cases hc : c.toNat = 0x5C
    · exact Char.toNat_inj.mp hc
    · have havoids := avoids_of_mem_upperChar upperTablesAvoid_backslash (avoids_singleton_iff.mpr hc) h
      exact absurd rfl (avoids_singleton_iff.mp havoids)
  · rintro rfl
    rw [upperChar_backslash]
    exact List.mem_singleton_self _

/-! ### Small letters -/

/-- The range that the small letters of ASCII are in. -/
def smallLetters : List (Nat × Nat) :=
  [(0x61, 0x7A)]

theorem upperTablesAvoid_smallLetters : UpperTablesAvoid smallLetters := by
  decide +kernel

/-- No upper-case form has a small letter of ASCII in it, whatever it is the form of. -/
theorem avoids_smallLetters_of_mem_upperChar {c d : Char} (hd : d ∈ upperChar c) :
    Avoids smallLetters d.toNat := by
  by_cases hc : c.toNat < 0x80
  · have hascii : ∀ n < 0x80, Avoids smallLetters (Char.ofNat n).toUpper.toNat := by decide
    have hupper := hascii c.toNat hc
    rw [Char.ofNat_toNat] at hupper
    rw [upperChar, if_pos hc, List.mem_singleton] at hd
    rwa [hd]
  · -- Beyond ASCII there is no small letter to begin with, and the tables bring in none.
    have hbeyond : Avoids smallLetters c.toNat := by
      rw [smallLetters, Avoids, List.forall_mem_singleton]
      omega
    exact avoids_of_mem_upperChar upperTablesAvoid_smallLetters hbeyond hd

end Text
end RegisterMap
