import RegisterMap.Proofs.CommentLines
import RegisterMap.Proofs.DescriptionLines
import RegisterMap.Proofs.UpperCase

/-!
# Where comment lines end

In C a backslash at the end of a line joins the next line to it.  A comment line that ends in one takes the
declaration after it into the comment.

Descriptions are shown as they are, apart from blanks and the case of the first letter, and a backslash is
not set apart from the end of a line.  So a comment line ends in a backslash exactly if the last word on it
does.  Which words are last on their lines depends on the width; over all widths it may be any word, so that
no line ends in a backslash exactly if no word of the description does (`endsInBackslash_descriptions`).
-/

namespace RegisterMap
namespace Header

/-- The last character is a backslash. -/
def endsInBackslash (cs : List Char) : Bool :=
  cs.getLast? == some '\\'

theorem endsInBackslash_append {cs : List Char} (before : List Char) (h : cs ≠ []) :
    endsInBackslash (before ++ cs) = endsInBackslash cs := by
  rw [endsInBackslash, List.getLast?_append_of_ne_nil before h]
  rfl

theorem endsInBackslash_upperChar (c : Char) :
    endsInBackslash (Text.upperChar c) = endsInBackslash [c] := by
  by_cases hc : c = '\\'
  · rw [hc, Text.upperChar_backslash]
  · have hnone {cs : List Char} (h : '\\' ∉ cs) : endsInBackslash cs = false :=
      beq_eq_false_iff_ne.mpr fun hlast => h (List.mem_of_getLast? hlast)
    rw [hnone (mt Text.backslash_mem_upperChar_iff.mp hc), hnone (by simp [Ne.symm hc])]

/-! ### Lines and their words -/

theorem endsInBackslash_commentLine (indent : String) (words : List String) {last : String}
    (h : last ≠ "") :
    endsInBackslash (commentLine indent (words ++ [last])).toList = endsInBackslash last.toList := by
  have hlast : last.toList ≠ [] := by simpa using h
  -- Whatever comes before the last word on its line is of no account.
  have hline : ∃ before, commentLine indent (words ++ [last]) = before ++ last := by
    by_cases hwords : words = []
    · exact ⟨commentMark indent, by rw [hwords, List.nil_append, commentLine, joinWords_singleton]⟩
    · exact ⟨commentMark indent ++ joinWords words ++ " ", by
        rw [commentLine, joinWords_concat hwords]
        simp only [String.append_assoc]⟩
  obtain ⟨before, hbefore⟩ := hline
  rw [hbefore, String.toList_append, endsInBackslash_append before.toList hlast]

/-- A comment line ends as the last word on it does. -/
theorem exists_last_of_mem_wordLines {text indent : String} {width : Nat} {words : List String}
    (h : words ∈ wordLines text indent width) :
    ∃ last ∈ commentWords text, words.getLast? = some last ∧
      endsInBackslash (commentLine indent words).toList = endsInBackslash last.toList := by
  rcases List.eq_nil_or_concat words with hnil | ⟨init, last, rfl⟩
  · exact absurd hnil (ne_nil_of_mem_wordLines h)
  · have hmem : last ∈ commentWords text := by
      rw [← flatten_wordLines text indent width]
      exact List.mem_flatten.mpr ⟨_, h, by simp⟩
    rw [List.concat_eq_append]
    exact ⟨last, hmem, List.getLast?_concat,
      endsInBackslash_commentLine indent init (ne_empty_of_mem_commentWords hmem)⟩

/-! ### Words and descriptions -/

/-- Upper case for the first character leaves the ends of words as they are. -/
theorem map_endsInBackslash_capitalize {c : Char} (hc : Text.isBlank c = false) (rest : List Char) :
    (Text.words (capitalize (c :: rest))).map endsInBackslash =
      (Text.words (c :: rest)).map endsInBackslash := by
  -- Only the first word has another front, and it keeps its end unless it is a single character.
  obtain ⟨tail, more, hwords⟩ := Text.exists_words_append rest
  have hupper : Text.words (capitalize (c :: rest)) = (Text.upperChar c ++ tail) :: more :=
    hwords (Text.upperChar c) (Text.upperChar_ne_nil c) fun d hd =>
      Text.isBlank_of_mem_upperChar hc hd
  have hplain : Text.words (c :: rest) = ([c] ++ tail) :: more :=
    hwords [c] (List.cons_ne_nil c []) (by simpa using hc)
  have hends : endsInBackslash (Text.upperChar c ++ tail) = endsInBackslash ([c] ++ tail) := by
    by_cases htail : tail = []
    · subst htail
      rw [List.append_nil, List.append_nil, endsInBackslash_upperChar]
    · rw [endsInBackslash_append _ htail, endsInBackslash_append _ htail]
  rw [hupper, hplain, List.map_cons, List.map_cons, hends]

/-- The words that a comment shows end as those of the description do. -/
theorem map_endsInBackslash_commentWords (text : String) :
    (commentWords text).map (fun word => endsInBackslash word.toList) =
      (Text.words text.toList).map endsInBackslash := by
  have hchars : (commentWords text).map (fun word => endsInBackslash word.toList) =
      (Text.words (capitalize (Text.trimChars text.toList))).map endsInBackslash := by
    rw [commentWords, List.map_map]
    simp only [Function.comp_def, String.toList_ofList]
  rw [hchars, ← Text.words_trimChars text.toList]
  cases htrim : Text.trimChars text.toList with
  | nil => rfl
  | cons c rest =>
      exact map_endsInBackslash_capitalize (Text.isBlank_of_trimChars_eq_cons htrim) rest

/-- No line ends in a backslash at any width exactly if no word of the description does. -/
theorem forall_comment_iff (text indent : String) :
    (∀ width, ∀ line ∈ comment text indent width, endsInBackslash line.toList = false) ↔
      ∀ word ∈ Text.words text.toList, endsInBackslash word = false := by
  have hwords : (∀ word ∈ Text.words text.toList, endsInBackslash word = false) ↔
      ∀ word ∈ commentWords text, endsInBackslash word.toList = false := by
    rw [← List.forall_mem_map (P := (· = false)), ← map_endsInBackslash_commentWords,
      List.forall_mem_map]
  rw [hwords]
  constructor
  · -- At width zero every word is the last on its line.
    intro h word hword
    have hline : commentLine indent [word] ∈ comment text indent 0 := by
      rw [comment_eq_map, wordLines_zero, List.map_map]
      exact List.mem_map_of_mem hword
    rw [← endsInBackslash_commentLine indent [] (ne_empty_of_mem_commentWords hword)]
    exact h 0 _ hline
  · intro h width line hline
    rw [comment_eq_map] at hline
    obtain ⟨words, hmem, rfl⟩ := List.mem_map.mp hline
    obtain ⟨last, hlast, -, hends⟩ := exists_last_of_mem_wordLines hmem
    rw [hends]
    exact h last hlast

/-! ### Headers -/

/-- No line of a header that shows a description ends in a backslash, at any width, exactly if no word of
any description does. -/
theorem forall_described_iff (d : Device) (banner : List String) :
    (∀ width line, .description line ∈ (ofDevice ⟨width, banner⟩ d).sections.flatten →
        endsInBackslash line.toList = false) ↔
      ∀ text ∈ d.descriptions, ∀ word ∈ Text.words text.toList, endsInBackslash word = false := by
  simp only [← mem_described_iff]
  constructor
  · intro h text htext
    obtain ⟨indent, hshown⟩ := exists_indent_of_mem_descriptions htext
    rw [← forall_comment_iff text indent]
    exact fun width line hline => h width line (hshown ⟨width, banner⟩ hline)
  · intro h width line hline
    obtain ⟨text, htext, indent, -, hmem⟩ := exists_text_of_mem_described _ hline
    exact (forall_comment_iff text indent).mpr (h text htext) width line hmem

/-- Where a backslash ends a comment line.

A line ends in one exactly if the last word on it does, and the words end as those of the description.  So no
line of a comment ends in a backslash, whatever the width, exactly if no word of its description does, and
this carries over to all comments of a header that show descriptions. -/
theorem endsInBackslash_descriptions :
    (∀ text indent width, ∃ lines : List (List String),
        comment text indent width = lines.map (commentLine indent) ∧
        lines.flatten = commentWords text ∧
        (lines.flatten.map fun word => endsInBackslash word.toList) =
          (Text.words text.toList).map endsInBackslash ∧
        ∀ words ∈ lines, ∃ last, words.getLast? = some last ∧
          endsInBackslash (commentLine indent words).toList = endsInBackslash last.toList) ∧
      (∀ text indent,
        (∀ width, ∀ line ∈ comment text indent width, endsInBackslash line.toList = false) ↔
          ∀ word ∈ Text.words text.toList, endsInBackslash word = false) ∧
      (∀ format d line, .description line ∈ (ofDevice format d).sections.flatten →
        ∃ text ∈ d.descriptions, ∃ indent, IsIndent indent ∧
          line ∈ comment text indent format.commentWidth) ∧
      ∀ d banner,
        (∀ width line, .description line ∈ (ofDevice ⟨width, banner⟩ d).sections.flatten →
          endsInBackslash line.toList = false) ↔
          ∀ text ∈ d.descriptions, ∀ word ∈ Text.words text.toList, endsInBackslash word = false := by
  refine ⟨?_, forall_comment_iff, ?_, forall_described_iff⟩
  · intro text indent width
    refine ⟨wordLines text indent width, comment_eq_map text indent width,
      flatten_wordLines text indent width, ?_, ?_⟩
    · rw [flatten_wordLines, map_endsInBackslash_commentWords]
    · intro words hwords
      obtain ⟨last, -, hlast, hends⟩ := exists_last_of_mem_wordLines hwords
      exact ⟨last, hlast, hends⟩
  · intro format d line hline
    exact exists_text_of_mem_described format (mem_described_iff.mpr hline)

/-- A device with a field whose description ends in a backslash. -/
def splicedBoard : Device :=
  ⟨"P1", "C0",
    [⟨"U", "port", [⟨"CR", "control", 32, 0, [⟨"EN", "enable \\", 0, 1, .readWrite, 0⟩]⟩], []⟩]⟩

theorem validated_splicedBoard : splicedBoard.Validated := by
  have hfield : (⟨"EN", "enable \\", 0, 1, .readWrite, 0⟩ : Bitfield).Validated :=
    ⟨⟨"EN", "enable \\", 0, 1, .readWrite, 0⟩, by cbv⟩
  have hregister : (⟨"CR", "control", 32, 0, [⟨"EN", "enable \\", 0, 1, .readWrite, 0⟩]⟩ :
      Register).Validated :=
    ⟨⟨"CR", "control", 32, 0, _⟩, List.forall_mem_singleton.mpr hfield, by cbv⟩
  refine ⟨⟨"P1", "C0", splicedBoard.peripherals⟩, ?_, rfl⟩
  rw [splicedBoard, List.forall_mem_singleton]
  exact ⟨⟨"U", "port", _, []⟩, List.forall_mem_singleton.mpr hregister, by simp, by cbv⟩

/-- The comment of the field ends in a backslash, which joins the declaration of the field to it. -/
theorem endsInBackslash_splicedBoard :
    splicedBoard.Validated ∧
      comment "enable \\" "    " 100 = ["    // Enable \\"] ∧
      endsInBackslash "    // Enable \\".toList = true ∧
      .description "    // Enable \\" ∈ (ofDevice .standard splicedBoard).sections.flatten ∧
      ["    // Enable \\", "    uint32_t EN : 1;  // RW, reset: 0"] <:+:
        (ofDevice .standard splicedBoard).sections.flatten.map Line.text := by
  exact ⟨validated_splicedBoard, by decide +kernel, by decide +kernel, by decide +kernel,
    by decide +kernel⟩

end Header
end RegisterMap
