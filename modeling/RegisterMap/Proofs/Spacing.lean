import RegisterMap.Proofs.CommentLines

/-!
# Words and the blanks around them

Trimming a text and cutting it into words are scans.  What they find is said here of the text itself: a text
is what trimming leaves with blanks on both sides (`TrimsTo`), and it is its words in order with blanks around
and between them (`Spaced`).  Both relations leave one result only, which is that of the scan
(`trimChars_eq_iff`, `words_eq_iff`).
-/

namespace RegisterMap
namespace Text

/-- All of the characters are blanks. -/
def AllBlank (cs : List Char) : Prop :=
  ∀ c ∈ cs, isBlank c = true

theorem allBlank_append {cs ds : List Char} : AllBlank (cs ++ ds) ↔ AllBlank cs ∧ AllBlank ds :=
  List.forall_mem_append

/-! ### Trimming -/

/-- `core` is the text without the blanks at its two ends. -/
structure TrimsTo (cs core : List Char) : Prop where
  surrounded : ∃ before after, cs = before ++ core ++ after ∧ AllBlank before ∧ AllBlank after
  head : ∀ c ∈ core.head?, isBlank c = false
  last : ∀ c ∈ core.getLast?, isBlank c = false

theorem trimsTo_trimChars (cs : List Char) : TrimsTo cs (trimChars cs) := by
  refine ⟨?_, ?_, ?_⟩
  · obtain ⟨after, hsplit, hafter⟩ := exists_blanks_trimChars cs
    refine ⟨cs.takeWhile isBlank, after, ?_, fun c => List.mem_takeWhile_imp, hafter⟩
    rw [List.append_assoc, ← hsplit, List.takeWhile_append_dropWhile]
  · intro c hc
    obtain ⟨rest, hrest⟩ := List.head?_eq_some_iff.mp hc
    exact isBlank_of_trimChars_eq_cons hrest
  · -- The end of the text is the front of the reversed one, which the second scan has left.
    intro c hc
    rw [trimChars, List.getLast?_reverse] at hc
    have hhead := List.head?_dropWhile_not isBlank (cs.dropWhile isBlank).reverse
    rw [Option.mem_def.mp hc] at hhead
    exact hhead

/-- Only one part of a text is between blanks and has none at its ends. -/
theorem TrimsTo.trimChars_eq {cs core : List Char} (h : TrimsTo cs core) : trimChars cs = core := by
  obtain ⟨before, after, rfl, hbefore, hafter⟩ := h.surrounded
  rw [trimChars, List.append_assoc, List.dropWhile_append_of_pos hbefore]
  cases core with
  | nil => rw [List.nil_append, List.dropWhile_eq_nil_iff.mpr hafter]; rfl
  | cons c rest =>
      -- The first scan stops at the first character of `core`, and the second one at its last.
      have hfront : (c :: rest ++ after).dropWhile isBlank = c :: rest ++ after :=
        dropWhile_of_stops h.head
      have hafter' : AllBlank after.reverse := fun d hd => hafter d (List.mem_reverse.mp hd)
      have hback : (c :: rest).reverse.dropWhile isBlank = (c :: rest).reverse :=
        dropWhile_of_stops fun d hd => h.last d (by rwa [List.head?_reverse] at hd)
      rw [hfront, List.reverse_append, List.dropWhile_append_of_pos hafter', hback,
        List.reverse_reverse]

theorem trimChars_eq_iff {cs core : List Char} : trimChars cs = core ↔ TrimsTo cs core := by
  constructor
  · rintro rfl
    exact trimsTo_trimChars cs
  · exact TrimsTo.trimChars_eq

/-- Nothing is left exactly of a text of blanks. -/
theorem TrimsTo.eq_nil_iff {cs core : List Char} (h : TrimsTo cs core) : core = [] ↔ AllBlank cs := by
  obtain ⟨before, after, rfl, hbefore, hafter⟩ := h.surrounded
  simp only [allBlank_append, hbefore, hafter, true_and, and_true]
  constructor
  · rintro rfl
    exact List.forall_mem_nil _
  · intro hcore
    cases core with
    | nil => rfl
    | cons c rest => simpa [h.head c rfl] using hcore c List.mem_cons_self

/-! ### Words -/

/-- A word is a character or more, none of them a blank. -/
def IsWord (word : List Char) : Prop :=
  word ≠ [] ∧ ∀ c ∈ word, isBlank c = false

/-- The text is the words in order, with blanks around them and at least one between neighbours. -/
inductive Spaced : List Char → List (List Char) → Prop
  | nil {blanks : List Char} (hblanks : AllBlank blanks) : Spaced blanks []
  /-- After a word the text is at its end, or a blank comes next. -/
  | cons {blanks word rest : List Char} {words : List (List Char)} (hblanks : AllBlank blanks)
      (hword : IsWord word) (hnext : ∀ c ∈ rest.head?, isBlank c = true) (hrest : Spaced rest words) :
      Spaced (blanks ++ word ++ rest) (word :: words)

theorem words_of_isWord {word : List Char} (h : IsWord word) : words word = [word] := by
  have hpieces : pieces isBlank (word ++ []) = [word ++ []] := pieces_append h.2 rfl
  rw [List.append_nil] at hpieces
  rw [words, wordsBy, hpieces, List.filter_cons_of_pos (by simpa using h.1), List.filter_nil]

/-- A text can be cut into words in one way only. -/
theorem Spaced.words_eq {cs : List Char} {ws : List (List Char)} (h : Spaced cs ws) :
    words cs = ws := by
  induction h with
  | nil hblanks => exact words_eq_nil hblanks
  | @cons blanks word rest ws hblanks hword hnext hrest ih =>
      rw [← words_dropWhile, List.append_assoc, List.dropWhile_append_of_pos hblanks, words_dropWhile]
      cases rest with
      | nil =>
          obtain rfl : [] = ws := ih
          rw [List.append_nil, words_of_isWord hword]
      | cons c rest =>
          have hc := hnext c rfl
          rw [words_append_cons hc, words_of_isWord hword, ← words_cons_of_isBlank hc, ih]
          rfl

theorem Spaced.blank_cons {c : Char} (hc : isBlank c = true) {cs : List Char} {ws : List (List Char)}
    (h : Spaced cs ws) : Spaced (c :: cs) ws := by
  cases h with
  | nil hblanks => exact .nil (List.forall_mem_cons.mpr ⟨hc, hblanks⟩)
  | cons hblanks hword hnext hrest =>
      exact .cons (List.forall_mem_cons.mpr ⟨hc, hblanks⟩) hword hnext hrest

theorem isWord_singleton {c : Char} (hc : isBlank c = false) : IsWord [c] :=
  ⟨List.cons_ne_nil c [], List.forall_mem_singleton.mpr hc⟩

/-- A character that is no blank belongs to the word that the text begins with, or is a word before it. -/
theorem Spaced.exists_cons {c : Char} (hc : isBlank c = false) {cs : List Char}
    {ws : List (List Char)} (h : Spaced cs ws) : ∃ ws', Spaced (c :: cs) ws' := by
  have hnone : AllBlank [] := List.forall_mem_nil _
  cases h with
  | nil hblanks =>
      have hnext : ∀ d ∈ cs.head?, isBlank d = true := fun d hd => hblanks d (List.mem_of_head? hd)
      exact ⟨[[c]], .cons hnone (isWord_singleton hc) hnext (.nil hblanks)⟩
  | @cons blanks word rest ws hblanks hword hnext hrest =>
      cases blanks with
      | nil =>
          have hlonger : IsWord (c :: word) :=
            ⟨List.cons_ne_nil c word, List.forall_mem_cons.mpr ⟨hc, hword.2⟩⟩
          exact ⟨(c :: word) :: ws, .cons hnone hlonger hnext hrest⟩
      | cons b blanks =>
          have hb : ∀ d ∈ (b :: blanks ++ word ++ rest).head?, isBlank d = true := by
            simpa using hblanks b List.mem_cons_self
          exact ⟨[c] :: word :: ws,
            .cons hnone (isWord_singleton hc) hb (.cons hblanks hword hnext hrest)⟩

theorem exists_spaced (cs : List Char) : ∃ ws, Spaced cs ws := by
  induction cs with
  | nil => exact ⟨[], .nil (List.forall_mem_nil _)⟩
  | cons c cs ih =>
      obtain ⟨ws, hws⟩ := ih
      cases hc : isBlank c with
      | true => exact ⟨ws, hws.blank_cons hc⟩
      | false => exact hws.exists_cons hc

theorem words_eq_iff {cs : List Char} {ws : List (List Char)} : words cs = ws ↔ Spaced cs ws := by
  constructor
  · rintro rfl
    obtain ⟨ws, hws⟩ := exists_spaced cs
    rwa [hws.words_eq]
  · exact Spaced.words_eq

/-- A text has no words exactly if it has nothing but blanks. -/
theorem words_eq_nil_iff {cs : List Char} : words cs = [] ↔ AllBlank cs := by
  constructor
  · intro h
    cases words_eq_iff.mp h with
    | nil hblanks => exact hblanks
  · exact words_eq_nil

end Text
end RegisterMap
