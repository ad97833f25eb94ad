import Mathlib.Data.List.TakeWhile
import RegisterMap.Header.Vocabulary
import RegisterMap.Proofs.CapitalWords

/-!
# The words of comment lines

A comment line is a mark and words with single spaces between them.  Filling lines looks only at their
text; here the words of each line are kept apart (`fillWords`), so that what is said about a line can be
said about its words.  The lines of a comment are those of its words (`comment_eq_map`), which are the words
of the description in their order, cut into pieces of at least one (`flatten_wordLines`,
`ne_nil_of_mem_wordLines`).
-/

namespace RegisterMap
namespace Text

/-! ### Words and blanks -/

/-- A blank divides the words of a text into those before it and those after it. -/
theorem words_append_cons {c : Char} (h : isBlank c = true) (before after : List Char) :
    words (before ++ c :: after) = words before ++ words after := by
  simp only [words, wordsBy, pieces_eq_splitOnP]
  rw [List.splitOnP_append_cons before after h, List.filter_append]

theorem words_cons_of_isBlank {c : Char} (h : isBlank c = true) (rest : List Char) :
    words (c :: rest) = words rest :=
  words_append_cons h [] rest

/-- A text of blanks has no words. -/
theorem words_eq_nil {cs : List Char} (h : ∀ c ∈ cs, isBlank c = true) : words cs = [] := by
  induction cs with
  | nil => rfl
  | cons c rest ih =>
      rw [List.forall_mem_cons] at h
      rw [words_cons_of_isBlank h.1, ih h.2]

theorem words_dropWhile (cs : List Char) : words (cs.dropWhile isBlank) = words cs := by
  induction cs with
  | nil => rfl
  | cons c rest ih =>
      rw [List.dropWhile_cons]
      split
      · next h => rw [ih, words_cons_of_isBlank h]
      · rfl

/-- Before the blanks at its end, a text without blanks at its front is what trimming leaves. -/
theorem exists_blanks_trimChars (cs : List Char) :
    ∃ blanks, cs.dropWhile isBlank = trimChars cs ++ blanks ∧ ∀ c ∈ blanks, isBlank c = true := by
  have hsplit := congrArg List.reverse
    (List.takeWhile_append_dropWhile (p := isBlank) (l := (cs.dropWhile isBlank).reverse))
  rw [List.reverse_append, List.reverse_reverse] at hsplit
  refine ⟨_, hsplit.symm, ?_⟩
  intro c hc
  exact List.mem_takeWhile_imp (List.mem_reverse.mp hc)

/-- The blanks that trimming takes away separate nothing. -/
theorem words_trimChars (cs : List Char) : words (trimChars cs) = words cs := by
  obtain ⟨blanks, hsplit, hblanks⟩ := exists_blanks_trimChars cs
  rw [← words_dropWhile cs, hsplit]
  cases blanks with
  | nil => rw [List.append_nil]
  | cons c rest =>
      rw [List.forall_mem_cons] at hblanks
      rw [words_append_cons hblanks.1, words_eq_nil hblanks.2, List.append_nil]

theorem isBlank_of_trimChars_eq_cons {cs rest : List Char} {c : Char} (h : trimChars cs = c :: rest) :
    isBlank c = false := by
  obtain ⟨blanks, hsplit, -⟩ := exists_blanks_trimChars cs
  have hhead := List.head?_dropWhile_not isBlank cs
  rw [hsplit, h] at hhead
  exact hhead

/-- Characters that separate nothing join the first piece of what follows them. -/
theorem pieces_append {isSeparator : Char → Bool} {front : List Char}
    (hfront : ∀ c ∈ front, isSeparator c = false) {rest piece : List Char}
    {more : List (List Char)} (hrest : pieces isSeparator rest = piece :: more) :
    pieces isSeparator (front ++ rest) = (front ++ piece) :: more := by
  induction front with
  | nil => exact hrest
  | cons c front ih =>
      rw [List.forall_mem_cons] at hfront
      rw [List.cons_append, pieces, if_neg (by simp [hfront.1]), ih hfront.2]
      rfl

/-- A word at the front of a text goes on up to the first blank. -/
theorem exists_words_append (rest : List Char) :
    ∃ tail more, ∀ front : List Char, front ≠ [] → (∀ c ∈ front, isBlank c = false) →
      words (front ++ rest) = (front ++ tail) :: more := by
  obtain ⟨piece, pieces', hpieces⟩ := List.exists_cons_of_ne_nil (pieces_ne_nil isBlank rest)
  -- How the rest is cut does not depend on what comes before it; only its first piece is joined to that.
  refine ⟨piece, pieces'.filter (!·.isEmpty), ?_⟩
  intro front hne hfront
  rw [words, wordsBy, pieces_append hfront hpieces, List.filter_cons_of_pos]
  simp [hne]

end Text

namespace Header

/-! ### Words in lines -/

/-- Words with a space between neighbours. -/
def joinWords (words : List String) : String :=
  String.intercalate " " words

/-- A comment line that holds the words. -/
def commentLine (indent : String) (words : List String) : String :=
  commentMark indent ++ joinWords words

theorem joinWords_singleton (word : String) : joinWords [word] = word :=
  String.intercalate_singleton

theorem joinWords_concat {words : List String} (h : words ≠ []) (word : String) :
    joinWords (words ++ [word]) = joinWords words ++ " " ++ word := by
  rw [joinWords, String.intercalate_append_of_ne_nil h (List.cons_ne_nil word []),
    String.intercalate_singleton]
  rfl

/-- The words of each line that is filled, where the current line holds the words `held`. -/
def fillWords (mark : String) (width : Nat) (held : List String) : List String → List (List String)
  | [] => [held]
  | word :: rest =>
    if mark.utf8ByteSize + (joinWords held).utf8ByteSize + 1 + word.utf8ByteSize ≤ width then
      fillWords mark width (held ++ [word]) rest
    else
      held :: fillWords mark width [word] rest

section
variable (mark : String) (width : Nat)

/-- Lines are filled with texts as they are with the words in them. -/
theorem fill_joinWords {held : List String} (hheld : held ≠ []) (words : List String) :
    fill mark width (joinWords held) words =
      (fillWords mark width held words).map fun line => mark ++ joinWords line := by
  induction words generalizing held with
  | nil => rfl
  | cons word rest ih =>
      rw [fill, fillWords]
      split
      · rw [← joinWords_concat hheld, ih (by simp)]
      -- The line is closed, and the next one begins with the word alone.
      · have hnext := ih (List.cons_ne_nil word [])
        rw [joinWords_singleton] at hnext
        rw [List.map_cons, hnext]

/-- No word is lost, repeated or moved. -/
theorem flatten_fillWords (held words : List String) :
    (fillWords mark width held words).flatten = held ++ words := by
  induction words generalizing held with
  | nil => simp [fillWords]
  | cons word rest ih =>
      rw [fillWords]
      split
      · rw [ih, List.append_assoc, List.singleton_append]
      · rw [List.flatten_cons, ih, List.singleton_append]

theorem ne_nil_of_mem_fillWords {held : List String} (hheld : held ≠ []) {words line : List String}
    (h : line ∈ fillWords mark width held words) : line ≠ [] := by
  induction words generalizing held with
  | nil =>
      rw [fillWords, List.mem_singleton] at h
      rwa [h]
  | cons word rest ih =>
      rw [fillWords] at h
      split at h
      · exact ih (by simp) h
      · rcases List.mem_cons.mp h with rfl | h
        · exact hheld
        · exact ih (List.cons_ne_nil word []) h

/-- On a page without any width each word has a line of its own. -/
theorem fillWords_zero (held words : List String) :
    fillWords mark 0 held words = held :: words.map ([·]) := by
  induction words generalizing held with
  | nil => rfl
  | cons word rest ih => rw [fillWords, if_neg (by omega), ih, List.map_cons]

end

section
variable (text indent : String) (width : Nat)

/-- The words of each line of a comment. -/
def wordLines : List (List String) :=
  match commentWords text with
  | [] => []
  | word :: rest => fillWords (commentMark indent) width [word] rest

theorem comment_eq_map :
    comment text indent width = (wordLines text indent width).map (commentLine indent) := by
  unfold comment wordLines
  cases commentWords text with
  | nil => rfl
  | cons word rest =>
      have hfill := fill_joinWords (commentMark indent) width (List.cons_ne_nil word []) rest
      rw [joinWords_singleton] at hfill
      exact hfill

theorem flatten_wordLines : (wordLines text indent width).flatten = commentWords text := by
  unfold wordLines
  cases commentWords text with
  | nil => rfl
  | cons word rest => exact flatten_fillWords (commentMark indent) width [word] rest

theorem wordLines_zero : wordLines text indent 0 = (commentWords text).map ([·]) := by
  unfold wordLines
  cases commentWords text with
  | nil => rfl
  | cons word rest => exact fillWords_zero (commentMark indent) [word] rest

end

theorem ne_nil_of_mem_wordLines {text indent : String} {width : Nat} {line : List String}
    (h : line ∈ wordLines text indent width) : line ≠ [] := by
  unfold wordLines at h
  split at h
  · cases h
  · next word rest hwords => exact ne_nil_of_mem_fillWords _ _ (List.cons_ne_nil word []) h

theorem ne_empty_of_mem_commentWords {text word : String} (h : word ∈ commentWords text) :
    word ≠ "" := by
  obtain ⟨cs, hcs, rfl⟩ := List.mem_map.mp h
  have hne : cs ≠ [] := by simpa using (List.mem_filter.mp hcs).2
  rintro hempty
  exact hne (by simpa using congrArg String.toList hempty)

end Header
end RegisterMap
