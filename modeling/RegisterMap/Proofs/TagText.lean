import Mathlib.Data.List.Infix
import Mathlib.Data.List.TakeWhile
import RegisterMap.Markup.Document
import RegisterMap.Markup.Grammar
import RegisterMap.Text.Pieces

/-!
# Readers of tags and their grammar

Each reader of a part of a document takes the longest piece that it can, or the piece up to the first
closing mark, and never goes back on that.  The lemmas here say that nothing is missed by it: a reader
finds a piece at the front of a text exactly if the grammar has one there.

A greedy reader is exact because of what follows in a document: no blank, bracket or equals sign goes on
with a name.  A search is exact because the last character of a closing mark occurs nowhere else in it,
so that two marks cannot overlap.
-/

namespace RegisterMap
namespace Text

/-- A mark whose last character occurs once in it cannot begin before another one and end inside it. -/
theorem prefix_of_prefix_append {init before rest : List Char} {c : Char} (hc : c ∉ init)
    (hne : before ≠ []) (h : init ++ [c] <+: before ++ ((init ++ [c]) ++ rest)) :
    init ++ [c] <+: before := by
  obtain ⟨after, hafter⟩ := h
  rcases List.append_eq_append_iff.mp hafter with ⟨bs, hbefore, -⟩ | ⟨bs, hmark, hrest⟩
  · exact ⟨bs, hbefore.symm⟩
  · rcases List.eq_nil_or_concat bs with rfl | ⟨inner, d, rfl⟩
    · rw [List.append_nil] at hmark
      exact ⟨[], by rw [List.append_nil, hmark]⟩
    · rw [List.concat_eq_append, ← List.append_assoc] at hmark
      obtain ⟨hinit, hlast⟩ := List.append_inj' hmark rfl
      obtain rfl : c = d := by simpa using hlast
      -- Both marks are laid side by side; where the earlier one ends, the later one has its `init`.
      rw [List.concat_eq_append, List.append_assoc, List.append_assoc] at hrest
      exfalso
      rcases List.append_eq_append_iff.mp hrest with ⟨as, hinner, -⟩ | ⟨as, hinit', has⟩
      · have hlength := congrArg List.length hinit
        rw [hinner] at hlength
        simp only [List.length_append] at hlength
        have := List.length_pos_iff.mpr hne
        omega
      · cases as with
        | nil =>
            have hlength := congrArg List.length hinit
            rw [hinit'] at hlength
            simp only [List.length_append, List.length_nil] at hlength
            have := List.length_pos_iff.mpr hne
            omega
        | cons a as =>
            obtain ⟨rfl, -⟩ := List.cons.inj has
            apply hc
            rw [hinit']
            simp

/-- A search stops at the first mark.  It does not stop earlier, since a mark that began earlier would
have to end in `before`. -/
theorem until?_append {init before : List Char} {c : Char} (hc : c ∉ init)
    (h : ¬ init ++ [c] <:+: before) (rest : List Char) :
    until? (init ++ [c]) (before ++ ((init ++ [c]) ++ rest)) = some (before, rest) := by
  induction before with
  | nil =>
      have hafter : after? (init ++ [c]) ([] ++ ((init ++ [c]) ++ rest)) = some rest :=
        after?_eq_some_iff.mpr rfl
      unfold until?
      rw [hafter]
  | cons b before ih =>
      have hafter : after? (init ++ [c]) (b :: before ++ ((init ++ [c]) ++ rest)) = none := by
        rw [Option.eq_none_iff_forall_ne_some]
        intro last hlast
        apply h
        apply List.IsPrefix.isInfix
        exact prefix_of_prefix_append hc (List.cons_ne_nil b before)
          ⟨last, (after?_eq_some_iff.mp hlast).symm⟩
      unfold until?
      rw [hafter, List.cons_append]
      simp only
      rw [ih fun hinside => h (hinside.trans (List.infix_cons (List.infix_refl before)))]
      rfl

/-- What a search passes over has no mark in it, as it would have stopped there. -/
theorem not_infix_of_until? {mark text before rest : List Char} (hne : mark ≠ [])
    (h : until? mark text = some (before, rest)) : ¬ mark <:+: before := by
  induction text generalizing before with
  | nil =>
      unfold until? at h
      split at h
      · obtain ⟨rfl, -⟩ := by simpa using h
        rwa [List.infix_nil]
      · simp at h
  | cons c text ih =>
      unfold until? at h
      split at h
      · obtain ⟨rfl, -⟩ := by simpa using h
        rwa [List.infix_nil]
      · next hnone =>
        obtain ⟨⟨first, last⟩, huntil, heq⟩ := Option.map_eq_some_iff.mp h
        obtain ⟨rfl, rfl⟩ := by simpa using heq
        rw [List.infix_cons_iff]
        -- A mark inside begins with this character, where it would have been found, or later on.
        rintro (⟨more, hmore⟩ | hinside)
        · have htext : c :: text = mark ++ (more ++ (mark ++ last)) := by
            rw [until?_eq_some huntil, ← List.append_assoc, hmore]
            simp
          rw [after?_eq_some_iff.mpr htext] at hnone
          cases hnone
        · exact ih huntil hinside

/-- A search finds what stands before the mark exactly if the mark is not in there. -/
theorem until?_eq_some_iff {init text before rest : List Char} {c : Char} (hc : c ∉ init) :
    until? (init ++ [c]) text = some (before, rest) ↔
      text = before ++ ((init ++ [c]) ++ rest) ∧ ¬ init ++ [c] <:+: before := by
  constructor
  · intro h
    rw [until?_eq_some h, List.append_assoc]
    exact ⟨rfl, not_infix_of_until? (by simp) h⟩
  · rintro ⟨rfl, h⟩
    exact until?_append hc h rest

theorem until?_singleton_eq_some_iff {c : Char} {text before rest : List Char} :
    until? [c] text = some (before, rest) ↔ text = before ++ ([c] ++ rest) ∧ c ∉ before := by
  rw [← List.singleton_infix_iff]
  exact until?_eq_some_iff List.not_mem_nil

end Text

namespace Markup

open Grammar
open Text (Stops stops_cons dropWhile_of_stops takeWhile_of_stops)

/-! ### Passages -/

namespace Passage

/-- All closing marks end in the bracket, and have it nowhere else. -/
theorem closing_eq (passage : Passage) : ∃ init, passage.closing = init ++ ['>'] ∧ '>' ∉ init := by
  cases passage with
  | comment => exact ⟨['-', '-'], rfl, by decide⟩
  | instruction => exact ⟨['?'], rfl, by decide⟩
  | characterData => exact ⟨[']', ']'], rfl, by decide⟩
  | doctype => exact ⟨[], rfl, by decide⟩

theorem close?_eq_some_iff {passage : Passage} {text rest : List Char} :
    passage.close? text = some rest ↔
      ∃ body, FreeOf passage.closing body ∧ text = body ++ (passage.closing ++ rest) := by
  obtain ⟨init, hclosing, hinit⟩ := passage.closing_eq
  simp only [close?, Option.map_eq_some_iff, Prod.exists, hclosing, Text.until?_eq_some_iff hinit,
    FreeOf]
  constructor
  · rintro ⟨body, _, ⟨htext, hbody⟩, rfl⟩
    exact ⟨body, hbody, htext⟩
  · rintro ⟨body, hbody, htext⟩
    exact ⟨body, rest, ⟨htext, hbody⟩, rfl⟩

/-- No opening mark begins another one. -/
theorem after?_opening_of_ne {p q : Passage} (h : p ≠ q) (rest : List Char) :
    Text.after? p.opening (q.opening ++ rest) = none := by
  cases p <;> cases q <;> first | exact absurd rfl h | simp [opening, Text.after?]

/-- The order in which passages are tried does not matter, since no two of them open alike. -/
theorem open?_eq_some_iff {allowed : List Passage} {passage : Passage} {text rest : List Char} :
    open? allowed text = some (passage, rest) ↔
      passage ∈ allowed ∧ text = passage.opening ++ rest := by
  induction allowed with
  | nil => simp [open?]
  | cons first others ih =>
      rw [open?, List.mem_cons]
      cases hafter : Text.after? first.opening text with
      | some last =>
          have htext := Text.after?_eq_some_iff.mp hafter
          simp only [Option.some.injEq, Prod.mk.injEq]
          constructor
          · rintro ⟨rfl, rfl⟩
            exact ⟨.inl rfl, htext⟩
          · rintro ⟨-, hpassage⟩
            by_cases hne : first = passage
            · subst hne
              exact ⟨rfl, List.append_cancel_left (htext.symm.trans hpassage)⟩
            -- A passage that opens the text is not passed over for an earlier one of the list.
            · rw [hpassage, after?_opening_of_ne hne] at hafter
              cases hafter
      | none =>
          simp only [ih]
          constructor
          · rintro ⟨hmem, htext⟩
            exact ⟨.inr hmem, htext⟩
          · rintro ⟨rfl | hmem, htext⟩
            · rw [Text.after?_eq_some_iff.mpr htext] at hafter
              cases hafter
            · exact ⟨hmem, htext⟩

/-- A passage is opened and closed exactly if there is one in the text. -/
theorem exists_close?_iff {allowed : List Passage} {passage : Passage} {text rest : List Char} :
    (∃ inner, open? allowed text = some (passage, inner) ∧ passage.close? inner = some rest) ↔
      passage ∈ allowed ∧ ∃ used, PassageText passage used ∧ text = used ++ rest := by
  simp only [open?_eq_some_iff, close?_eq_some_iff]
  constructor
  · rintro ⟨inner, ⟨hmem, rfl⟩, body, hbody, rfl⟩
    exact ⟨hmem, _, .mk passage body hbody, by simp⟩
  · rintro ⟨hmem, used, ⟨body, hbody⟩, rfl⟩
    exact ⟨_, ⟨hmem, by simp⟩, body, hbody, rfl⟩

end Passage

/-! ### Names and blanks -/

theorem skipSpace_append {space text : List Char} (hspace : Spaces space)
    (htext : Stops isSpace text) : skipSpace (space ++ text) = text := by
  rw [skipSpace, List.dropWhile_append_of_pos hspace]
  exact dropWhile_of_stops htext

theorem exists_spaces (text : List Char) : ∃ space, Spaces space ∧ text = space ++ skipSpace text :=
  ⟨text.takeWhile isSpace, fun _ => List.mem_takeWhile_imp, List.takeWhile_append_dropWhile.symm⟩

/-- A name is read to its end if the text after it does not go on with it. -/
theorem name?_append {name rest : List Char} (hname : Name name) (hrest : Stops isNameChar rest) :
    name? (name ++ rest) = some (name, rest) := by
  cases hname with
  | mk c tail hstart htail =>
      rw [List.cons_append, name?, if_pos hstart, List.takeWhile_append_of_pos htail,
        List.dropWhile_append_of_pos htail, takeWhile_of_stops hrest, dropWhile_of_stops hrest,
        List.append_nil]

theorem eq_append_of_name? {text name rest : List Char} (h : name? text = some (name, rest)) :
    Name name ∧ text = name ++ rest := by
  cases text with
  | nil => simp [name?] at h
  | cons c text =>
      rw [name?] at h
      split at h
      · next hstart =>
        obtain ⟨rfl, rfl⟩ := by simpa using h
        refine ⟨.mk c _ hstart fun _ => List.mem_takeWhile_imp, ?_⟩
        rw [List.cons_append, List.takeWhile_append_dropWhile]
      · simp at h

theorem name?_of_stops {text : List Char} (h : Stops isNameStart text) : name? text = none := by
  cases text with
  | nil => rfl
  | cons c text => rw [name?, stops_cons.mp h]; rfl

theorem stops_of_name {name : List Char} (h : Name name) {p : Char → Bool}
    (hp : ∀ c, isNameStart c = true → p c = false) (rest : List Char) : Stops p (name ++ rest) := by
  cases h with
  | mk c tail hstart htail => exact stops_cons.mpr (hp c hstart)

theorem stops_append {p : Char → Bool} (hp : ∀ c, isSpace c = true → p c = false)
    {space text : List Char} (hspace : Spaces space) (htext : Stops p text) :
    Stops p (space ++ text) := by
  cases space with
  | nil => exact htext
  | cons c space => exact stops_cons.mpr (hp c (hspace c List.mem_cons_self))

theorem isNameChar_of_isSpace (c : Char) (h : isSpace c = true) : isNameChar c = false := by
  simp only [isSpace, Bool.or_eq_true, beq_iff_eq] at h
  rcases h with ((rfl | rfl) | rfl) | rfl <;> decide

theorem isSpace_of_isNameStart (c : Char) (h : isNameStart c = true) : isSpace c = false := by
  rw [Bool.eq_false_iff]
  intro hspace
  simp only [isSpace, Bool.or_eq_true, beq_iff_eq] at hspace
  rcases hspace with ((rfl | rfl) | rfl) | rfl <;> exact absurd h (by decide)

/-! ### Attributes -/

/-- A value may hold the quotes of the other kind, but not its own. -/
theorem quoted?_eq_some_iff {text value rest : List Char} :
    quoted? text = some (value, rest) ↔
      ∃ quote, (quote = '\x22' ∨ quote = '\x27') ∧ quote ∉ value ∧
        text = [quote] ++ (value ++ ([quote] ++ rest)) := by
  unfold quoted?
  split
  · next inner =>
    rw [Text.until?_singleton_eq_some_iff]
    constructor
    · rintro ⟨rfl, hvalue⟩
      exact ⟨'\x22', .inl rfl, hvalue, rfl⟩
    · rintro ⟨quote, -, hvalue, htext⟩
      obtain ⟨rfl, hinner⟩ := List.cons.inj htext
      exact ⟨hinner, hvalue⟩
  · next inner =>
    rw [Text.until?_singleton_eq_some_iff]
    constructor
    · rintro ⟨rfl, hvalue⟩
      exact ⟨'\x27', .inr rfl, hvalue, rfl⟩
    · rintro ⟨quote, -, hvalue, htext⟩
      obtain ⟨rfl, hinner⟩ := List.cons.inj htext
      exact ⟨hinner, hvalue⟩
  · next hdouble hsingle =>
    simp only [reduceCtorEq, false_iff]
    -- A text with a quote in front was taken by one of the two cases above.
    rintro ⟨quote, rfl | rfl, -, rfl⟩
    · exact hdouble _ rfl
    · exact hsingle _ rfl

/-- The steps of reading an attribute. -/
theorem attribute?_eq_some_iff_steps {text rest : List Char} {entry : String × String} :
    attribute? text = some (entry, rest) ↔
      ∃ key r s value quote, name? text = some (key, r) ∧ skipSpace r = ['='] ++ s ∧
        (quote = '\x22' ∨ quote = '\x27') ∧ quote ∉ value ∧
        skipSpace s = [quote] ++ (value ++ ([quote] ++ rest)) ∧
        entry = (String.ofList key, String.ofList (decode value)) := by
  simp only [attribute?, bind, Option.bind_eq_some_iff, Prod.exists, Text.after?_eq_some_iff,
    quoted?_eq_some_iff, pure, Option.some.injEq, Prod.mk.injEq]
  constructor
  · rintro ⟨key, r, hname, s, hs, value, _, ⟨quote, hquote, hvalue, htext⟩, rfl, rfl⟩
    exact ⟨key, r, s, value, quote, hname, hs, hquote, hvalue, htext, rfl⟩
  · rintro ⟨key, r, s, value, quote, hname, hs, hquote, hvalue, htext, rfl⟩
    exact ⟨key, r, hname, s, hs, value, rest, ⟨quote, hquote, hvalue, htext⟩, rfl, rfl⟩

/-- Each part of an attribute ends where a character follows that cannot belong to it. -/
theorem attribute?_append {text : List Char} {entry : String × String}
    (h : AttributeText text entry) (rest : List Char) :
    attribute? (text ++ rest) = some (entry, rest) := by
  obtain ⟨key, before, after, value, quote, hkey, hbefore, hafter, hquote, hvalue⟩ := h
  simp only [List.append_assoc]
  refine attribute?_eq_some_iff_steps.mpr ⟨key, _, _, value, quote, name?_append hkey ?_,
    skipSpace_append hbefore ?_, hquote, hvalue, skipSpace_append hafter ?_, rfl⟩
  · exact stops_append isNameChar_of_isSpace hbefore (stops_cons.mpr (by decide))
  · exact stops_cons.mpr (by decide)
  · rcases hquote with rfl | rfl <;> exact stops_cons.mpr (by decide)

theorem eq_append_of_attribute? {text rest : List Char} {entry : String × String}
    (h : attribute? text = some (entry, rest)) :
    ∃ used, AttributeText used entry ∧ text = used ++ rest := by
  obtain ⟨key, r, s, value, quote, hname, hr, hquote, hvalue, hs, rfl⟩ :=
    attribute?_eq_some_iff_steps.mp h
  obtain ⟨hkey, rfl⟩ := eq_append_of_name? hname
  obtain ⟨before, hbefore, hbefore'⟩ := exists_spaces r
  obtain ⟨after, hafter, hafter'⟩ := exists_spaces s
  refine ⟨_, .mk key before after value quote hkey hbefore hafter hquote hvalue, ?_⟩
  rw [hbefore', hr, hafter', hs]
  simp

theorem stops_of_attributeText {text : List Char} {entry : String × String}
    (h : AttributeText text entry) (rest : List Char) : Stops isSpace (text ++ rest) := by
  obtain ⟨key, before, after, value, quote, hkey, -, -, -, -⟩ := h
  simp only [List.append_assoc]
  exact stops_of_name hkey isSpace_of_isNameStart _

theorem attributes_cons_some {c : Char} {text rest : List Char} {entry : String × String}
    (hc : isSpace c = true) (h : attribute? (skipSpace text) = some (entry, rest)) :
    attributes (c :: text) = (entry :: (attributes rest).1, (attributes rest).2) := by
  rw [attributes, if_pos hc]
  split
  · next heq =>
    obtain ⟨rfl, rfl⟩ := by simpa using h.symm.trans heq
    rfl
  · next heq =>
    rw [h] at heq
    cases heq

theorem attributes_cons_none {c : Char} {text : List Char}
    (h : attribute? (skipSpace text) = none) : attributes (c :: text) = ([], c :: text) := by
  rw [attributes]
  split
  · split
    · next heq =>
      rw [h] at heq
      cases heq
    · rfl
  · rfl

theorem attribute?_of_stops {text : List Char} (h : Stops isNameStart text) :
    attribute? text = none := by
  rw [attribute?, name?_of_stops h]
  rfl

/-- Blanks before the end of a tag are no attribute. -/
theorem attributes_of_stops {space text : List Char} (hspace : Spaces space)
    (hblank : Stops isSpace text) (hname : Stops isNameStart text) :
    attributes (space ++ text) = ([], space ++ text) := by
  cases space with
  | nil =>
      cases text with
      | nil => rw [List.append_nil, attributes]
      | cons c text =>
          rw [List.nil_append, attributes, stops_cons.mp hblank]
          rfl
  | cons c space =>
      rw [List.cons_append]
      apply attributes_cons_none
      rw [skipSpace_append (fun d hd => hspace d (List.mem_cons_of_mem c hd)) hblank]
      exact attribute?_of_stops hname

/-- Attributes are read to the last one, and the blanks after it are left for the end of the tag. -/
theorem attributes_append {used space text : List Char} {entries : List (String × String)}
    (h : AttributeList used entries) (hspace : Spaces space) (hblank : Stops isSpace text)
    (hname : Stops isNameStart text) :
    attributes (used ++ (space ++ text)) = (entries, space ++ text) := by
  induction h with
  | nil =>
      rw [List.nil_append]
      exact attributes_of_stops hspace hblank hname
  | cons blanks first rest entry entries hblanks hne hfirst _ ih =>
      cases blanks with
      | nil => exact absurd rfl hne
      | cons c blanks =>
          have hskip : skipSpace (blanks ++ (first ++ (rest ++ (space ++ text)))) =
              first ++ (rest ++ (space ++ text)) :=
            skipSpace_append (fun d hd => hblanks d (List.mem_cons_of_mem c hd))
              (stops_of_attributeText hfirst _)
          -- The reader skips blanks before it reads, so its input is the text before they are skipped.
          have hread := attribute?_append hfirst (rest ++ (space ++ text))
          rw [← hskip] at hread
          simp only [List.append_assoc, List.cons_append]
          rw [attributes_cons_some (hblanks c List.mem_cons_self) hread, ih]

/-- Attributes end a name. -/
theorem stops_attributes {used text : List Char} {entries : List (String × String)}
    (h : AttributeList used entries) (htext : Stops isNameChar text) :
    Stops isNameChar (used ++ text) := by
  cases h with
  | nil => exact htext
  | cons space first rest entry entries hspace hne _ _ =>
      cases space with
      | nil => exact absurd rfl hne
      | cons c space => exact stops_cons.mpr (isNameChar_of_isSpace c (hspace c List.mem_cons_self))

/-- Reading attributes never fails: it takes as many as there are, which may be none. -/
theorem eq_append_of_attributes (text : List Char) :
    ∃ used, AttributeList used (attributes text).1 ∧ text = used ++ (attributes text).2 := by
  fun_induction attributes text with
  | case1 => exact ⟨[], .nil, rfl⟩
  | case2 c rest hc entry rest' h entries last heq ih =>
      obtain ⟨used, hused, hrest'⟩ := ih
      obtain ⟨first, hfirst, hskip⟩ := eq_append_of_attribute? h
      obtain ⟨space, hspace, hrest⟩ := exists_spaces rest
      rw [heq] at hused hrest'
      refine ⟨(c :: space) ++ first ++ used, .cons _ first used entry entries ?_ ?_ hfirst hused, ?_⟩
      · intro d hd
        rcases List.mem_cons.mp hd with rfl | hd
        · exact hc
        · exact hspace d hd
      · simp
      · rw [hrest, hskip, hrest']
        simp
  | case3 => exact ⟨[], .nil, rfl⟩
  | case4 => exact ⟨[], .nil, rfl⟩

/-! ### Start tags and end tags -/

/-- The end of a start tag, which may close its element as well. -/
def tagEnd (closed : Bool) : List Char :=
  if closed then ['/', '>'] else ['>']

theorem stops_tagEnd {p : Char → Bool} (hslash : p '/' = false) (hbracket : p '>' = false)
    (closed : Bool) (rest : List Char) : Stops p (tagEnd closed ++ rest) := by
  cases closed with
  | true => exact stops_cons.mpr hslash
  | false => exact stops_cons.mpr hbracket

theorem startTag_append {attributes space : List Char} {entries : List (String × String)}
    (hattributes : AttributeList attributes entries) (hspace : Spaces space) (tag : String)
    (closed : Bool) (rest : List Char) :
    startTag tag (attributes ++ (space ++ (tagEnd closed ++ rest))) =
      .ok (⟨tag, entries, []⟩, closed, rest) := by
  have hblank : Stops isSpace (tagEnd closed ++ rest) :=
    stops_tagEnd (by decide) (by decide) closed rest
  rw [startTag, attributes_append hattributes hspace hblank
    (stops_tagEnd (by decide) (by decide) closed rest)]
  simp only
  rw [skipSpace_append hspace hblank]
  cases closed <;> rfl

theorem eq_append_of_startTag {tag : String} {text rest : List Char} {e : Element} {closed : Bool}
    (h : startTag tag text = .ok (e, closed, rest)) :
    ∃ attributes space entries, AttributeList attributes entries ∧ Spaces space ∧
      e = ⟨tag, entries, []⟩ ∧ text = attributes ++ (space ++ (tagEnd closed ++ rest)) := by
  -- Attributes first, then blanks; only then is it decided whether the tag closes its element.
  obtain ⟨used, hused, htext⟩ := eq_append_of_attributes text
  obtain ⟨space, hspace, hlast⟩ := exists_spaces (attributes text).2
  rw [startTag] at h
  simp only at h
  split at h
  · next heq =>
    obtain ⟨rfl, rfl, rfl⟩ := by simpa using h
    exact ⟨used, space, _, hused, hspace, rfl, by rw [htext, hlast, heq]; rfl⟩
  · next heq =>
    obtain ⟨rfl, rfl, rfl⟩ := by simpa using h
    exact ⟨used, space, _, hused, hspace, rfl, by rw [htext, hlast, heq]; rfl⟩
  · simp at h

theorem tagName?_append {name rest : List Char} (hname : Name name)
    (hrest : Stops isNameChar rest) :
    tagName? ('<' :: (name ++ rest)) = some (String.ofList name, rest) := by
  rw [tagName?, name?_append hname hrest]
  rfl

theorem eq_append_of_tagName? {tag : String} {text rest : List Char}
    (h : tagName? text = some (tag, rest)) :
    ∃ name, Name name ∧ tag = String.ofList name ∧ text = '<' :: (name ++ rest) := by
  unfold tagName? at h
  split at h
  · next inner =>
    obtain ⟨⟨name, last⟩, hread, heq⟩ := Option.map_eq_some_iff.mp h
    obtain ⟨rfl, rfl⟩ := by simpa using heq
    obtain ⟨hname, rfl⟩ := eq_append_of_name? hread
    exact ⟨name, hname, rfl, rfl⟩
  · simp at h

/-- An end tag: the name of its element, and blanks after it. -/
inductive EndTagText (tag : String) : List Char → Prop
  | mk (space : List Char) (hspace : Spaces space) :
      EndTagText tag (['<', '/'] ++ tag.toList ++ space ++ ['>'])

theorem endTag_eq_ok_iff {tag : String} {text rest : List Char} :
    endTag tag text = .ok rest ↔ ∃ used, EndTagText tag used ∧ text = used ++ rest := by
  constructor
  · intro h
    unfold endTag at h
    split at h
    · simp at h
    · next inner hopen =>
      split at h
      · simp at h
      · next last htag =>
        obtain ⟨space, hspace, hlast⟩ := exists_spaces last
        split at h
        · next heq =>
          obtain rfl := by simpa using h
          refine ⟨_, .mk space hspace, ?_⟩
          rw [Text.after?_eq_some_iff.mp hopen, Text.after?_eq_some_iff.mp htag, hlast, heq]
          simp
        · simp at h
  · rintro ⟨used, ⟨space, hspace⟩, rfl⟩
    simp only [List.append_assoc]
    have hopen : Text.after? ['<', '/'] (['<', '/'] ++ (tag.toList ++ (space ++ (['>'] ++ rest)))) =
        some (tag.toList ++ (space ++ (['>'] ++ rest))) :=
      Text.after?_eq_some_iff.mpr rfl
    have htag : Text.after? tag.toList (tag.toList ++ (space ++ (['>'] ++ rest))) =
        some (space ++ (['>'] ++ rest)) :=
      Text.after?_eq_some_iff.mpr rfl
    have hskip : skipSpace (space ++ (['>'] ++ rest)) = '>' :: rest :=
      skipSpace_append hspace (stops_cons.mpr (by decide))
    unfold endTag
    rw [hopen]
    simp only
    rw [htag]
    simp only
    rw [hskip]
    rfl

end Markup
end RegisterMap
