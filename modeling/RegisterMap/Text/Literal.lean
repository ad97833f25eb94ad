/-!
# Literal text

The two ways in which a reader meets literal text: at the front of what is left to read, and further on,
where everything before it is passed over.
-/

namespace RegisterMap
namespace Text

/-- What follows `mark`, if the text begins with it. -/
def after? : List Char → List Char → Option (List Char)
  | [], text => some text
  | _ :: _, [] => none
  | m :: mark, c :: text => if m = c then after? mark text else none

/-- What stands before and after the first place where `mark` begins. -/
def until? (mark : List Char) (text : List Char) : Option (List Char × List Char) :=
  match after? mark text with
  | some rest => some ([], rest)
  | none =>
    match text with
    | [] => none
    | c :: text => (until? mark text).map fun (before, rest) => (c :: before, rest)

theorem after?_eq_some_iff {mark text rest : List Char} :
    after? mark text = some rest ↔ text = mark ++ rest := by
  induction mark generalizing text with
  | nil => simp [after?]
  | cons m mark ih =>
    cases text with
    | nil => simp [after?]
    | cons c text =>
      by_cases h : m = c
      · simp [after?, h, ih]
      · have h' : c ≠ m := fun e => h e.symm
        simp [after?, h, h']

theorem until?_eq_some {mark text before rest : List Char}
    (h : until? mark text = some (before, rest)) : text = before ++ mark ++ rest := by
  induction text generalizing before with
  | nil =>
    unfold until? at h
    split at h
    · next hmark =>
      obtain ⟨rfl, rfl⟩ := by simpa using h
      simpa using after?_eq_some_iff.mp hmark
    · simp at h
  | cons c text ih =>
    unfold until? at h
    split at h
    · next hmark =>
      obtain ⟨rfl, rfl⟩ := by simpa using h
      simpa using after?_eq_some_iff.mp hmark
    · obtain ⟨⟨first, last⟩, hrest, heq⟩ := Option.map_eq_some_iff.mp h
      obtain ⟨rfl, rfl⟩ := by simpa using heq
      simp [ih hrest]

theorem length_until?_le {mark text before rest : List Char}
    (h : until? mark text = some (before, rest)) : rest.length ≤ text.length := by
  rw [until?_eq_some h]
  simp
  omega

end Text
end RegisterMap
