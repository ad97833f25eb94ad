import Mathlib.Data.List.Basic
import RegisterMap.Header.Vocabulary

/-!
# Capital words

Names run together into one part of a type name lose the marks between their words.  Names of capital
words can be told apart all the same: each word begins with a capital letter and has no other one after
it is put into lower case, so that the capitals show where the words begin
(`flatMap_camelWord_injective`).
-/

namespace RegisterMap

namespace Text

theorem pieces_eq_splitOnP (isSeparator : Char → Bool) (cs : List Char) :
    pieces isSeparator cs = cs.splitOnP isSeparator := by
  induction cs with
  | nil => rfl
  | cons c rest ih =>
      rw [pieces, List.splitOnP_cons_eq_if_modifyHead, ← ih]
      obtain ⟨piece, more, hpieces⟩ := List.exists_cons_of_ne_nil (pieces_ne_nil isSeparator rest)
      rw [hpieces]
      rfl

/-- Separators that agree on a text cut it in the same way. -/
theorem pieces_congr {p q : Char → Bool} {cs : List Char} (h : ∀ c ∈ cs, p c = q c) :
    pieces p cs = pieces q cs := by
  induction cs with
  | nil => rfl
  | cons c rest ih =>
      rw [List.forall_mem_cons] at h
      rw [pieces, pieces, h.1, ih h.2]

theorem exists_mem_pieces (isSeparator : Char → Bool) {cs : List Char} {c : Char} (h : c ∈ cs)
    (hc : isSeparator c = false) : ∃ piece ∈ pieces isSeparator cs, c ∈ piece := by
  induction cs with
  | nil => cases h
  | cons first rest ih =>
      obtain ⟨piece, more, hpieces⟩ := List.exists_cons_of_ne_nil (pieces_ne_nil isSeparator rest)
      rw [hpieces] at ih
      rw [pieces, hpieces]
      rcases List.mem_cons.mp h with rfl | hrest
      · rw [hc]
        exact ⟨c :: piece, by simp, by simp⟩
      -- The first character is a piece of its own or joins the first piece.
      · obtain ⟨found, hfound, hmem⟩ := ih hrest
        by_cases hfirst : isSeparator first = true
        · rw [if_pos hfirst]
          exact ⟨found, List.mem_cons_of_mem _ hfound, hmem⟩
        · rw [if_neg hfirst]
          rcases List.mem_cons.mp hfound with rfl | hmore
          · exact ⟨first :: found, by simp, List.mem_cons_of_mem _ hmem⟩
          · exact ⟨found, List.mem_cons_of_mem _ hmore, hmem⟩

end Text

namespace Header

/-! ### Capital words -/

/-- The character may stand in a capital word. -/
def isWordChar (c : Char) : Bool :=
  c.isUpper || c.isDigit

/-- A capital letter, and after it capital letters and digits. -/
def isCapitalWord : List Char → Bool
  | [] => false
  | first :: rest => first.isUpper && rest.all isWordChar

/-- The name is capital words with one underscore between neighbours. -/
def isConventional (name : String) : Bool :=
  (Text.pieces (· == '_') name.toList).all isCapitalWord

theorem toNat_lt_of_isWordChar {c : Char} (h : isWordChar c = true) : c.toNat < 128 := by
  have hcapital : c.isUpper = decide (c.val ≥ 'A'.val ∧ c.val ≤ 'Z'.val) := rfl
  simp only [isWordChar, hcapital, Char.isDigit, Bool.or_eq_true, Bool.and_eq_true,
    decide_eq_true_eq, ge_iff_le, UInt32.le_iff_toNat_le] at h
  have hupper : 'Z'.val.toNat = 90 := rfl
  have hdigit : '9'.val.toNat = 57 := rfl
  have hnat : c.toNat = c.val.toNat := rfl
  omega

/-- What holds of the characters of capital words by their number holds of them all. -/
theorem of_isWordChar {P : Char → Prop}
    (h : ∀ n < 128, isWordChar (Char.ofNat n) = true → P (Char.ofNat n)) {c : Char}
    (hc : isWordChar c = true) : P c := by
  have hc' := h c.toNat (toNat_lt_of_isWordChar hc)
  rw [Char.ofNat_toNat] at hc'
  exact hc' hc

theorem isLower_of_isWordChar {c : Char} (h : isWordChar c = true) : Text.isLower c = false :=
  of_isWordChar (P := fun c => Text.isLower c = false) (by decide +kernel) h

theorem toUpper_of_isWordChar {c : Char} (h : isWordChar c = true) : c.toUpper = c :=
  of_isWordChar (P := fun c => c.toUpper = c) (by decide +kernel) h

theorem isUpper_toLower {c : Char} (h : isWordChar c = true) : c.toLower.isUpper = false :=
  of_isWordChar (P := fun c => c.toLower.isUpper = false) (by decide +kernel) h

theorem toUpper_toLower {c : Char} (h : isWordChar c = true) : c.toLower.toUpper = c :=
  of_isWordChar (P := fun c => c.toLower.toUpper = c) (by decide +kernel) h

theorem isWordBreak_of_isWordChar {c : Char} (h : isWordChar c = true) : isWordBreak c = false :=
  of_isWordChar (P := fun c => isWordBreak c = false) (by decide +kernel) h

theorem isWordChar_of_mem {word : List Char} (h : isCapitalWord word = true) :
    ∀ c ∈ word, isWordChar c = true := by
  cases word with
  | nil => simp
  | cons first rest =>
      simp only [isCapitalWord, Bool.and_eq_true, List.all_eq_true] at h
      rw [List.forall_mem_cons]
      exact ⟨by simp [isWordChar, h.1], h.2⟩

theorem flatMap_lowerChar {cs : List Char} (h : ∀ c ∈ cs, isWordChar c = true) :
    cs.flatMap Text.lowerChar = cs.map Char.toLower := by
  rw [← List.flatMap_singleton' (cs.map Char.toLower), List.flatMap_map]
  refine List.flatMap_congr fun c hc => ?_
  rw [Text.lowerChar, if_pos (toNat_lt_of_isWordChar (h c hc))]

/-- Of a capital word the first letter stays and the rest is put into lower case. -/
theorem camelWord_of_isCapitalWord {first : Char} {rest : List Char}
    (h : isCapitalWord (first :: rest) = true) :
    camelWord (first :: rest) = first :: rest.map Char.toLower := by
  have hchars := isWordChar_of_mem h
  have hupper : isUpperWord (first :: rest) = true := by
    have hfirst : Text.isUpper first = true := by
      simp only [isCapitalWord, Bool.and_eq_true] at h
      simp [Text.isUpper, h.1]
    have hlower : (first :: rest).any Text.isLower = false := by
      rw [List.any_eq_false]
      intro c hc
      simp [isLower_of_isWordChar (hchars c hc)]
    rw [isUpperWord, hlower]
    simp [hfirst]
  rw [List.forall_mem_cons] at hchars
  rw [camelWord, if_pos hupper, flatMap_lowerChar hchars.2, Text.upperChar,
    if_pos (toNat_lt_of_isWordChar hchars.1), toUpper_of_isWordChar hchars.1]
  rfl

/-- What a capital word is and what it becomes. -/
theorem exists_of_isCapitalWord {word : List Char} (h : isCapitalWord word = true) :
    ∃ first rest, word = first :: rest ∧ first.isUpper = true ∧
      (∀ c ∈ rest, isWordChar c = true) ∧ camelWord word = first :: rest.map Char.toLower := by
  cases word with
  | nil => cases h
  | cons first rest =>
      have hparts := h
      simp only [isCapitalWord, Bool.and_eq_true, List.all_eq_true] at hparts
      exact ⟨first, rest, rfl, hparts.1, hparts.2, camelWord_of_isCapitalWord h⟩

/-! ### Words run together -/

theorem takeWhile_flatMap_camelWord {words : List (List Char)}
    (h : ∀ word ∈ words, isCapitalWord word = true) :
    (words.flatMap camelWord).takeWhile (!·.isUpper) = [] := by
  cases words with
  | nil => rfl
  | cons word more =>
      obtain ⟨first, rest, -, hfirst, -, hcamel⟩ :=
        exists_of_isCapitalWord (h word List.mem_cons_self)
      rw [List.flatMap_cons, hcamel]
      simp [hfirst]

/-- After its first letter a word reaches as far as there is no capital. -/
theorem takeWhile_map_toLower_append {rest : List Char} {words : List (List Char)}
    (hrest : ∀ c ∈ rest, isWordChar c = true) (h : ∀ word ∈ words, isCapitalWord word = true) :
    (rest.map Char.toLower ++ words.flatMap camelWord).takeWhile (!·.isUpper) =
      rest.map Char.toLower := by
  rw [List.takeWhile_append_of_pos, takeWhile_flatMap_camelWord h, List.append_nil]
  intro c hc
  obtain ⟨c', hc', rfl⟩ := List.mem_map.mp hc
  simp [isUpper_toLower (hrest c' hc')]

/-- Nothing is lost by lower case: capitals and digits come back in upper case. -/
theorem map_toLower_injective {cs ds : List Char} (hcs : ∀ c ∈ cs, isWordChar c = true)
    (hds : ∀ d ∈ ds, isWordChar d = true) (h : cs.map Char.toLower = ds.map Char.toLower) :
    cs = ds := by
  have hback : ∀ {es : List Char}, (∀ e ∈ es, isWordChar e = true) →
      (es.map Char.toLower).map Char.toUpper = es := by
    intro es hes
    rw [List.map_map]
    exact (List.map_congr_left fun e he => toUpper_toLower (hes e he)).trans es.map_id'
  rw [← hback hcs, h, hback hds]

/-- Capital words can be told apart after they are run together. -/
theorem flatMap_camelWord_injective {words words' : List (List Char)}
    (h : ∀ word ∈ words, isCapitalWord word = true)
    (h' : ∀ word ∈ words', isCapitalWord word = true)
    (heq : words.flatMap camelWord = words'.flatMap camelWord) : words = words' := by
  induction words generalizing words' with
  | nil =>
      cases words' with
      | nil => rfl
      | cons word' more' =>
          obtain ⟨first, rest, -, -, -, hcamel⟩ :=
            exists_of_isCapitalWord (h' word' List.mem_cons_self)
          rw [List.flatMap_cons, hcamel] at heq
          cases heq
  | cons word more ih =>
      rw [List.forall_mem_cons] at h
      obtain ⟨first, rest, hword, -, hrest, hcamel⟩ := exists_of_isCapitalWord h.1
      cases words' with
      | nil =>
          rw [List.flatMap_cons, hcamel] at heq
          cases heq
      | cons word' more' =>
          rw [List.forall_mem_cons] at h'
          obtain ⟨first', rest', hword', -, hrest', hcamel'⟩ := exists_of_isCapitalWord h'.1
          rw [List.flatMap_cons, List.flatMap_cons, hcamel, hcamel', List.cons_append,
            List.cons_append, List.cons.injEq] at heq
          -- Both words end where the next capital stands.
          have hlower : rest.map Char.toLower = rest'.map Char.toLower := by
            rw [← takeWhile_map_toLower_append hrest h.2, heq.2,
              takeWhile_map_toLower_append hrest' h'.2]
          have hmore : more = more' := by
            have htail := heq.2
            rw [hlower] at htail
            exact ih h.2 h'.2 (List.append_cancel_left htail)
          rw [hword, hword', heq.1, map_toLower_injective hrest hrest' hlower, hmore]

/-! ### Conventional names -/

/-- The words of a conventional name are what stands between its underscores. -/
theorem wordsBy_of_isConventional {name : String} (h : isConventional name = true) :
    Text.wordsBy isWordBreak name.toList = name.toList.splitOn '_' := by
  rw [isConventional, List.all_eq_true] at h
  have hbreak : ∀ c ∈ name.toList, isWordBreak c = (c == '_') := by
    intro c hc
    by_cases hmark : (c == '_') = true
    · simp [isWordBreak, hmark]
    · rw [Bool.not_eq_true] at hmark
      -- A character other than an underscore stands in one of the words.
      obtain ⟨piece, hpiece, hmem⟩ := Text.exists_mem_pieces (· == '_') hc hmark
      rw [hmark, isWordBreak_of_isWordChar (isWordChar_of_mem (h piece hpiece) c hmem)]
  rw [Text.wordsBy, Text.pieces_congr hbreak, List.filter_eq_self.mpr, Text.pieces_eq_splitOnP]
  · rfl
  · intro piece hpiece
    have hword := h piece hpiece
    cases piece with
    | nil => cases hword
    | cons => rfl

theorem isCapitalWord_of_isConventional {name : String} (h : isConventional name = true) :
    ∀ word ∈ name.toList.splitOn '_', isCapitalWord word = true := by
  rw [isConventional, List.all_eq_true, Text.pieces_eq_splitOnP] at h
  exact h

theorem splitOn_injective {cs ds : List Char} (h : cs.splitOn '_' = ds.splitOn '_') : cs = ds := by
  have hjoined := congrArg ['_'].intercalate h
  rwa [List.intercalate_splitOn, List.intercalate_splitOn] at hjoined

theorem toList_camelCase {name : String} (h : isConventional name = true) :
    (camelCase name).toList = (name.toList.splitOn '_').flatMap camelWord := by
  rw [camelCase, String.toList_ofList, wordsBy_of_isConventional h]

/-- Conventional names are told apart by the type names made from them. -/
theorem camelCase_inj {name name' : String} (h : isConventional name = true)
    (h' : isConventional name' = true) : camelCase name = camelCase name' ↔ name = name' := by
  constructor
  · intro heq
    have hwords := congrArg String.toList heq
    rw [toList_camelCase h, toList_camelCase h'] at hwords
    exact String.toList_injective (splitOn_injective (flatMap_camelWord_injective
      (isCapitalWord_of_isConventional h) (isCapitalWord_of_isConventional h') hwords))
  · rintro rfl
    rfl

theorem splitOn_join (cs ds : List Char) :
    (cs ++ '_' :: ds).splitOn '_' = cs.splitOn '_' ++ ds.splitOn '_' :=
  List.splitOn_append_cons_self cs ds

/-- Two names run together can be told apart as far as the two can with an underscore between them. -/
theorem camelCase_append_inj {p r p' r' : String} (hp : isConventional p = true)
    (hr : isConventional r = true) (hp' : isConventional p' = true)
    (hr' : isConventional r' = true) :
    camelCase p ++ camelCase r = camelCase p' ++ camelCase r' ↔
      p.toList ++ '_' :: r.toList = p'.toList ++ '_' :: r'.toList := by
  -- An underscore between the names adds a place to cut at, and nothing to the words.
  have hjoin : ∀ {q s : String}, isConventional q = true → isConventional s = true →
      (camelCase q ++ camelCase s).toList =
        ((q.toList ++ '_' :: s.toList).splitOn '_').flatMap camelWord := by
    intro q s hq hs
    rw [String.toList_append, toList_camelCase hq, toList_camelCase hs, splitOn_join,
      List.flatMap_append]
  have hwords : ∀ {q s : String}, isConventional q = true → isConventional s = true →
      ∀ word ∈ (q.toList ++ '_' :: s.toList).splitOn '_', isCapitalWord word = true := by
    intro q s hq hs
    rw [splitOn_join, List.forall_mem_append]
    exact ⟨isCapitalWord_of_isConventional hq, isCapitalWord_of_isConventional hs⟩
  constructor
  · intro heq
    have htexts := congrArg String.toList heq
    rw [hjoin hp hr, hjoin hp' hr'] at htexts
    exact splitOn_injective
      (flatMap_camelWord_injective (hwords hp hr) (hwords hp' hr') htexts)
  · intro heq
    apply String.toList_injective
    rw [hjoin hp hr, hjoin hp' hr', heq]

end Header
end RegisterMap
