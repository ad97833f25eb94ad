import Mathlib.Data.List.Chain
import RegisterMap.Proofs.Spacing
import RegisterMap.Proofs.UpperCase

/-!
# Comment lines are filled greedily

Which lines the words of a description go on, said without the loop that fills them (`FillsGreedily`): no word
is lost, a line of two words or more is no wider than the page, and no line has room for the first word of the
next one.  These rules leave no choice (`FillsGreedily.eq_fillWords`), also on pages narrower than the mark or
than a word, where a word has a line of its own and that line is too wide.

A line is extended by a word or closed by it.  The first needs that the word fits and the second that it does
not, which are the two rules about widths; the inductions below carry the words that the open line holds.
-/

namespace RegisterMap
namespace Header

/-- The lines hold the words, as many on each as the width allows. -/
structure FillsGreedily (indent : String) (width : Nat) (words : List String)
    (lines : List (List String)) : Prop where
  /-- No word is lost, repeated or moved. -/
  flatten_eq : lines.flatten = words
  ne_nil : ∀ line ∈ lines, line ≠ []
  /-- Only a line of one word may be wider than the page. -/
  fits : ∀ line ∈ lines, 2 ≤ line.length → (commentLine indent line).utf8ByteSize ≤ width
  /-- With the first word of the next line a line would be wider than the page. -/
  full : lines.IsChain fun line next =>
    ∀ word ∈ next.head?, width < (commentLine indent line).utf8ByteSize + 1 + word.utf8ByteSize

section
variable (indent : String)

theorem utf8ByteSize_commentLine (words : List String) :
    (commentLine indent words).utf8ByteSize =
      (commentMark indent).utf8ByteSize + (joinWords words).utf8ByteSize :=
  String.utf8ByteSize_append

theorem utf8ByteSize_commentLine_concat {words : List String} (h : words ≠ []) (word : String) :
    (commentLine indent (words ++ [word])).utf8ByteSize =
      (commentLine indent words).utf8ByteSize + 1 + word.utf8ByteSize := by
  have hspace : " ".utf8ByteSize = 1 := rfl
  rw [utf8ByteSize_commentLine, utf8ByteSize_commentLine, joinWords_concat h,
    String.utf8ByteSize_append, String.utf8ByteSize_append, hspace]
  omega

/-- More words make a line wider. -/
theorem utf8ByteSize_commentLine_le {words : List String} (h : words ≠ []) (more : List String) :
    (commentLine indent words).utf8ByteSize ≤ (commentLine indent (words ++ more)).utf8ByteSize := by
  induction more generalizing words with
  | nil => rw [List.append_nil]
  | cons word more ih =>
      have hword := utf8ByteSize_commentLine_concat indent h word
      have hmore : _ ≤ (commentLine indent (words ++ [word] ++ more)).utf8ByteSize := ih (by simp)
      rw [List.append_assoc, List.singleton_append] at hmore
      omega

/-! ### What filling does -/

/-- The word goes on the open line, which then is no wider than the page, or else it begins the next. -/
theorem fillWords_cons (width : Nat) (held : List String) (word : String) (rest : List String) :
    fillWords (commentMark indent) width held (word :: rest) =
      if (commentLine indent held).utf8ByteSize + 1 + word.utf8ByteSize ≤ width then
        fillWords (commentMark indent) width (held ++ [word]) rest
      else
        held :: fillWords (commentMark indent) width [word] rest := by
  rw [fillWords, utf8ByteSize_commentLine]

variable {indent} {width : Nat} {held : List String}

theorem head?_of_mem_head?_fillWords (hheld : held ≠ []) {words line : List String}
    (h : line ∈ (fillWords (commentMark indent) width held words).head?) :
    line.head? = held.head? := by
  induction words generalizing held with
  | nil =>
      obtain rfl : held = line := Option.some.inj h
      rfl
  | cons word rest ih =>
      rw [fillWords_cons] at h
      split at h
      · rw [ih (by simp) h, List.head?_append_of_ne_nil held hheld]
      · obtain rfl : held = line := Option.some.inj h
        rfl

/-- A line grows by a word only if it then is no wider than the page. -/
theorem fits_of_mem_fillWords (hheld : held ≠ [])
    (hfits : 2 ≤ held.length → (commentLine indent held).utf8ByteSize ≤ width)
    {words line : List String} (h : line ∈ fillWords (commentMark indent) width held words)
    (hlength : 2 ≤ line.length) : (commentLine indent line).utf8ByteSize ≤ width := by
  induction words generalizing held with
  | nil =>
      obtain rfl := List.mem_singleton.mp h
      exact hfits hlength
  | cons word rest ih =>
      rw [fillWords_cons] at h
      split at h
      · next hle =>
        refine ih (by simp) (fun _ => ?_) h
        rwa [utf8ByteSize_commentLine_concat indent hheld]
      · -- The word that begins the next line is alone on it, so that nothing is asked of its width.
        rcases List.mem_cons.mp h with rfl | h
        · exact hfits hlength
        · exact ih (List.cons_ne_nil word []) (fun htwo => absurd htwo (by simp)) h

/-- A line is closed only by a word that it has no room for, and that word is the first of the next line.
-/
theorem full_fillWords (hheld : held ≠ []) (words : List String) :
    (fillWords (commentMark indent) width held words).IsChain fun line next =>
      ∀ word ∈ next.head?,
        width < (commentLine indent line).utf8ByteSize + 1 + word.utf8ByteSize := by
  induction words generalizing held with
  | nil => exact List.isChain_singleton held
  | cons word rest ih =>
      rw [fillWords_cons]
      split
      · exact ih (by simp)
      · next hnot =>
        refine List.isChain_cons.mpr ⟨?_, ih (List.cons_ne_nil word [])⟩
        intro next hnext first hfirst
        -- However the next line goes on, it begins with the word that closed this one.
        rw [head?_of_mem_head?_fillWords (List.cons_ne_nil word []) hnext] at hfirst
        obtain rfl : word = first := Option.some.inj hfirst
        omega

theorem fillsGreedily_fillWords (word : String) (rest : List String) :
    FillsGreedily indent width (word :: rest)
      (fillWords (commentMark indent) width [word] rest) where
  flatten_eq := flatten_fillWords (commentMark indent) width [word] rest
  ne_nil _ := ne_nil_of_mem_fillWords _ _ (List.cons_ne_nil word [])
  fits _ hline :=
    fits_of_mem_fillWords (List.cons_ne_nil word []) (fun htwo => absurd htwo (by simp)) hline
  full := full_fillWords (List.cons_ne_nil word []) rest

/-! ### The rules leave no choice -/

theorem FillsGreedily.tail {words line : List String} {lines : List (List String)}
    (h : FillsGreedily indent width words (line :: lines)) :
    FillsGreedily indent width lines.flatten lines where
  flatten_eq := rfl
  ne_nil := (List.forall_mem_cons.mp h.ne_nil).2
  fits := (List.forall_mem_cons.mp h.fits).2
  full := h.full.tail

theorem FillsGreedily.lines_eq_nil {lines : List (List String)}
    (h : FillsGreedily indent width [] lines) : lines = [] := by
  cases lines with
  | nil => rfl
  | cons line lines =>
      have hnil := List.flatten_eq_nil_iff.mp h.flatten_eq line List.mem_cons_self
      exact absurd hnil (h.ne_nil line List.mem_cons_self)

/-- Lines that obey the rules, of which the first begins with the words `held`, are those that are filled. -/
theorem FillsGreedily.eq_fillWords (hheld : held ≠ []) {words more : List String}
    {lines : List (List String)}
    (h : FillsGreedily indent width (held ++ words) ((held ++ more) :: lines)) :
    (held ++ more) :: lines = fillWords (commentMark indent) width held words := by
  have hflatten : more ++ lines.flatten = words := by
    have hall := h.flatten_eq
    rw [List.flatten_cons, List.append_assoc] at hall
    exact List.append_cancel_left hall
  induction words generalizing held more lines with
  | nil =>
      obtain ⟨rfl, hnone⟩ := List.append_eq_nil_iff.mp hflatten
      have htail := h.tail
      rw [hnone] at htail
      rw [htail.lines_eq_nil, List.append_nil, fillWords]
  | cons word rest ih =>
      rw [fillWords_cons]
      cases more with
      | nil =>
          -- The line is closed, and the word begins the next one, since no line is empty.
          rw [List.nil_append] at hflatten
          have htail := h.tail
          rw [hflatten] at htail
          cases lines with
          | nil => cases hflatten
          | cons next lines =>
              obtain ⟨first, tail, rfl⟩ :=
                List.exists_cons_of_ne_nil (htail.ne_nil next List.mem_cons_self)
              obtain ⟨rfl, hrest⟩ := List.cons.inj hflatten
              have hfull := (List.isChain_cons_cons.mp h.full).1 first rfl
              rw [List.append_nil] at hfull ⊢
              rw [if_neg (by omega)]
              exact congrArg (held :: ·) (ih (List.cons_ne_nil first []) htail hrest)
      | cons first more =>
          obtain ⟨rfl, hrest⟩ := List.cons.inj hflatten
          -- The line goes on after the word, and all of it fits.
          have hlength : 2 ≤ (held ++ first :: more).length := by
            have hpos := List.length_pos_iff.mpr hheld
            rw [List.length_append, List.length_cons]
            omega
          have hfits := h.fits _ List.mem_cons_self hlength
          have hsplit (ws : List String) : held ++ first :: ws = held ++ [first] ++ ws := by simp
          have hle := utf8ByteSize_commentLine_le indent (List.append_ne_nil_of_left_ne_nil hheld [first])
            more
          rw [hsplit] at hfits
          rw [utf8ByteSize_commentLine_concat indent hheld] at hle
          rw [if_pos (by omega), hsplit]
          rw [hsplit rest, hsplit more] at h
          exact ih (by simp) h hrest

end

section
variable (text indent : String) (width : Nat)

/-- The rules about lines have one solution, which is the result of the loop. -/
theorem fillsGreedily_iff {lines : List (List String)} :
    FillsGreedily indent width (commentWords text) lines ↔ lines = wordLines text indent width := by
  unfold wordLines
  cases commentWords text with
  | nil =>
      constructor
      · exact FillsGreedily.lines_eq_nil
      · rintro rfl
        exact ⟨rfl, by simp, by simp, List.isChain_nil⟩
  | cons word rest =>
      constructor
      · intro h
        cases lines with
        | nil => cases h.flatten_eq
        | cons line lines =>
            obtain ⟨first, more, rfl⟩ :=
              List.exists_cons_of_ne_nil (h.ne_nil line List.mem_cons_self)
            obtain ⟨rfl, -⟩ := List.cons.inj h.flatten_eq
            exact FillsGreedily.eq_fillWords (List.cons_ne_nil first []) h
      · rintro rfl
        exact fillsGreedily_fillWords word rest

/-! ### The words of a description -/

theorem capitalize_eq (cs : List Char) :
    capitalize cs = (cs.take 1).flatMap Text.upperChar ++ cs.drop 1 := by
  cases cs with
  | nil => rfl
  | cons c rest => simp [capitalize]

theorem spaced_commentWords :
    Text.Spaced (capitalize (Text.trimChars text.toList)) ((commentWords text).map String.toList) := by
  apply Text.words_eq_iff.mp
  rw [commentWords, List.map_map]
  simp [Function.comp_def]

/-- Upper case makes no blank of a character, so that only a blank description has no words. -/
theorem commentWords_eq_nil_iff : commentWords text = [] ↔ Text.AllBlank text.toList := by
  have htrims := Text.trimsTo_trimChars text.toList
  rw [← htrims.eq_nil_iff, commentWords, List.map_eq_nil_iff, Text.words_eq_nil_iff]
  cases hcore : Text.trimChars text.toList with
  | nil => exact iff_of_true (List.forall_mem_nil _) rfl
  | cons c rest =>
      -- What the first character becomes is not empty, and what is in it is no blank.
      obtain ⟨d, tail, hd⟩ := List.exists_cons_of_ne_nil (Text.upperChar_ne_nil c)
      have hmem : d ∈ Text.upperChar c := by
        rw [hd]
        exact List.mem_cons_self
      have hblank := Text.isBlank_of_mem_upperChar (Text.isBlank_of_trimChars_eq_cons hcore) hmem
      refine iff_of_false (fun hall => ?_) (List.cons_ne_nil c rest)
      have hd := hall d (List.mem_append_left rest hmem)
      rw [hblank] at hd
      cases hd

theorem comment_eq_nil_iff : comment text indent width = [] ↔ Text.AllBlank text.toList := by
  rw [comment_eq_map, List.map_eq_nil_iff, ← commentWords_eq_nil_iff, ← flatten_wordLines text indent width,
    List.flatten_eq_nil_iff]
  constructor
  · intro h
    simp [h]
  · intro h
    rw [List.eq_nil_iff_forall_not_mem]
    exact fun line hline => ne_nil_of_mem_wordLines hline (h line hline)

/-- A description is wrapped greedily and without loss, at every width.

Its words are those of the trimmed text with the first character in upper case; each line of the comment is the
mark and words of it with single spaces between them, and which words go on which line is settled by the rules:
every word in its place, a line of several words no wider than the page, none with room for one word more.
There is no line exactly if the description is blank. -/
theorem comment_fillsGreedily :
    ∃ (core : List Char) (words : List String) (lines : List (List String)),
      Text.TrimsTo text.toList core ∧
      Text.Spaced ((core.take 1).flatMap Text.upperChar ++ core.drop 1)
        (words.map String.toList) ∧
      comment text indent width = lines.map (fun line => indent ++ "// " ++ " ".intercalate line) ∧
      (∀ lines', FillsGreedily indent width words lines' ↔ lines' = lines) ∧
      (comment text indent width = [] ↔ Text.AllBlank text.toList) := by
  refine ⟨Text.trimChars text.toList, commentWords text, wordLines text indent width,
    Text.trimsTo_trimChars text.toList, ?_, comment_eq_map text indent width,
    fun _ => fillsGreedily_iff text indent width, comment_eq_nil_iff text indent width⟩
  rw [← capitalize_eq]
  exact spaced_commentWords text

end

/-- The page has no room for the long word, which has a line of its own; the letter that it begins with has
two capitals for its upper-case form. -/
example : comment " ßteel  beam\twith\u3000a veryverylongword \n x" "  " 15 =
    ["  // SSteel", "  // beam with", "  // a", "  // veryverylongword", "  // x"] := by
  decide +kernel

end Header
end RegisterMap
