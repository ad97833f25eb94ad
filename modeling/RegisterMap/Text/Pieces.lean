/-!
# Pieces and words of a text

Cutting a text at its separators.  A text with `n` separators has `n + 1` pieces, some of them perhaps
empty; the words of a text are its pieces that are not.
-/

namespace RegisterMap
namespace Text

/-! ### Pieces -/

/-- The stretches of a text between the characters that `isSeparator` picks out. -/
def pieces (isSeparator : Char → Bool) : List Char → List (List Char)
  | [] => [[]]
  | c :: rest =>
    if isSeparator c then
      [] :: pieces isSeparator rest
    else
      match pieces isSeparator rest with
      | [] => [[c]]
      | piece :: more => (c :: piece) :: more

/-- The non-empty stretches of a text between separators. -/
def wordsBy (isSeparator : Char → Bool) (cs : List Char) : List (List Char) :=
  (pieces isSeparator cs).filter (!·.isEmpty)

theorem pieces_ne_nil (isSeparator : Char → Bool) (cs : List Char) :
    pieces isSeparator cs ≠ [] := by
  cases cs with
  | nil => simp [pieces]
  | cons c rest =>
    simp only [pieces]
    split
    · simp
    · split <;> simp

theorem eq_false_of_mem_pieces {isSeparator : Char → Bool} {cs piece : List Char}
    (hpiece : piece ∈ pieces isSeparator cs) : ∀ c ∈ piece, isSeparator c = false := by
  induction cs generalizing piece with
  | nil =>
      rw [pieces, List.mem_singleton] at hpiece
      simp [hpiece]
  | cons first rest ih =>
      obtain ⟨next, more, hpieces⟩ :=
        List.exists_cons_of_ne_nil (pieces_ne_nil isSeparator rest)
      rw [hpieces] at ih
      rw [pieces, hpieces] at hpiece
      by_cases hfirst : isSeparator first = true
      · rw [if_pos hfirst] at hpiece
        rcases List.mem_cons.mp hpiece with rfl | hrest
        · simp
        · exact ih hrest
      · -- A character that separates nothing goes in front of the first piece of the rest.
        rw [if_neg hfirst] at hpiece
        rcases List.mem_cons.mp hpiece with rfl | hmore
        · rw [List.forall_mem_cons]
          exact ⟨eq_false_of_ne_true hfirst, ih List.mem_cons_self⟩
        · exact ih (List.mem_cons_of_mem next hmore)

/-! ### Where a scan stops -/

/-- The text does not go on with a character of that class. -/
def Stops (p : Char → Bool) (text : List Char) : Prop :=
  ∀ c ∈ text.head?, p c = false

theorem stops_cons {p : Char → Bool} {c : Char} {text : List Char} :
    Stops p (c :: text) ↔ p c = false := by
  simp [Stops]

theorem dropWhile_of_stops {p : Char → Bool} {text : List Char} (h : Stops p text) :
    text.dropWhile p = text := by
  cases text with
  | nil => rfl
  | cons c text => rw [List.dropWhile_cons, stops_cons.mp h]; rfl

theorem takeWhile_of_stops {p : Char → Bool} {text : List Char} (h : Stops p text) :
    text.takeWhile p = [] := by
  cases text with
  | nil => rfl
  | cons c text => rw [List.takeWhile_cons, stops_cons.mp h]; rfl

/-! ### Blank characters

Which characters separate words, and what a text is once the blanks around it are gone.
-/

/-- The character separates words: the Unicode property White_Space. -/
def isBlank (c : Char) : Bool :=
  let n := c.toNat
  (9 ≤ n && n ≤ 13) || n == 0x20 || n == 0x85 || n == 0xA0 || n == 0x1680 ||
    (0x2000 ≤ n && n ≤ 0x200A) || n == 0x2028 || n == 0x2029 || n == 0x202F || n == 0x205F ||
    n == 0x3000

/-- A list of characters without the blanks at its two ends. -/
def trimChars (cs : List Char) : List Char :=
  ((cs.dropWhile isBlank).reverse.dropWhile isBlank).reverse

/-- A text without the blanks at its two ends. -/
def trim (s : String) : String :=
  String.ofList (trimChars s.toList)

/-- The words of a text, in order. -/
def words (cs : List Char) : List (List Char) :=
  wordsBy isBlank cs

end Text
end RegisterMap
