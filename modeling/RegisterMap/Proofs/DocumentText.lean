import RegisterMap.Proofs.Outcome
import RegisterMap.Proofs.TagText

/-!
# Reading documents and their grammar

A text is read as a document with a tree exactly if the grammar derives it with that tree.

The reader of content keeps the elements that are open in a list and the grammar has a derivation inside a
derivation, so each direction needs a statement that speaks of the open elements as well.  Whatever
element is on top and whatever is below it, a piece that the grammar derives is read off the front of the
text and leaves its trace in the top element.  Conversely a run of the reader that ends has
completed the content of the top element and of all below it (`Closes`).
-/

namespace RegisterMap
namespace Markup

open Grammar

/-- The element with more children, after those that it has. -/
def Element.withChildren (e : Element) (children : List Element) : Element :=
  { e with children := e.children ++ children }

@[simp] theorem Element.withChildren_nil (e : Element) : e.withChildren [] = e := by
  cases e
  rw [withChildren, List.append_nil]

theorem Element.withChildren_append (e : Element) (children more : List Element) :
    e.withChildren (children ++ more) = (e.withChildren children).withChildren more := by
  simp [withChildren]

theorem Element.withChildren_cons (e child : Element) (children : List Element) :
    e.withChildren (child :: children) = (e.withChild child).withChildren children := by
  simp [withChildren, withChild]

/-! ### What begins at a place -/

theorem Passage.exists_opening (passage : Passage) :
    ∃ c rest, passage.opening = '<' :: c :: rest ∧ (c = '!' ∨ c = '?') := by
  cases passage with
  | comment => exact ⟨_, _, rfl, .inl rfl⟩
  | instruction => exact ⟨_, _, rfl, .inr rfl⟩
  | characterData => exact ⟨_, _, rfl, .inl rfl⟩
  | doctype => exact ⟨_, _, rfl, .inl rfl⟩

theorem Passage.open?_eq_none (allowed : List Passage) {text : List Char}
    (h : ∀ c rest, text = '<' :: c :: rest → c ≠ '!' ∧ c ≠ '?') :
    Passage.open? allowed text = none := by
  rw [Option.eq_none_iff_forall_ne_some]
  rintro ⟨passage, rest⟩ hopen
  obtain ⟨-, rfl⟩ := Passage.open?_eq_some_iff.mp hopen
  obtain ⟨c, tail, hopening, hc⟩ := passage.exists_opening
  rw [hopening] at h
  obtain ⟨hbang, hquestion⟩ := h c (tail ++ rest) rfl
  rcases hc with rfl | rfl
  · exact hbang rfl
  · exact hquestion rfl

/-- No passage begins where a tag does. -/
theorem open?_of_name (allowed : List Passage) {name : List Char} (h : Name name)
    (rest : List Char) : Passage.open? allowed ('<' :: (name ++ rest)) = none := by
  apply Passage.open?_eq_none
  obtain ⟨c, tail, hstart, -⟩ := h
  intro d inner heq
  obtain ⟨rfl, -⟩ := by simpa using heq
  constructor
  · rintro rfl
    exact absurd hstart (by decide)
  · rintro rfl
    exact absurd hstart (by decide)

theorem open?_of_ne (allowed : List Passage) {c : Char} (h : c ≠ '<') (rest : List Char) :
    Passage.open? allowed (c :: rest) = none := by
  apply Passage.open?_eq_none
  intro d inner heq
  exact absurd (List.cons.inj heq).1 h

theorem tagName?_of_ne {c : Char} (h : c ≠ '<') (rest : List Char) :
    tagName? (c :: rest) = none := by
  unfold tagName?
  split
  · next heq => exact absurd (List.cons.inj heq).1 h
  · rfl

theorem eq_append_of_textRun? {text rest : List Char} (h : textRun? text = some rest) :
    ∃ used, CharacterData used ∧ text = used ++ rest := by
  unfold textRun? at h
  split at h
  · cases h
  · next c inner =>
    split at h
    · cases h
    · next hc =>
      obtain rfl := Option.some.inj h
      refine ⟨c :: inner.takeWhile (· != '<'), ?_, ?_⟩
      · intro d hd
        rcases List.mem_cons.mp hd with rfl | hd
        · exact hc
        · simpa using List.mem_takeWhile_imp hd
      · rw [List.cons_append, List.takeWhile_append_dropWhile]

theorem tagName?_of_startTag {name attributes space : List Char}
    {entries : List (String × String)} (hname : Name name)
    (hattributes : AttributeList attributes entries) (hspace : Spaces space) (closed : Bool)
    (rest : List Char) :
    tagName? ('<' :: (name ++ (attributes ++ (space ++ (tagEnd closed ++ rest))))) =
      some (String.ofList name, attributes ++ (space ++ (tagEnd closed ++ rest))) := by
  apply tagName?_append hname
  apply stops_attributes hattributes
  apply stops_append isNameChar_of_isSpace hspace
  exact stops_tagEnd (by decide) (by decide) closed rest

/-! ### One step of the reader of content -/

variable {top : Element} {outer : List Element} {text rest : List Char}

/-- The reader of content as an equation. -/
theorem content_eq (top : Element) (outer : List Element) (text : List Char) :
    content top outer text =
      match Passage.open? Passage.inElement text with
      | some (passage, rest) =>
        (match passage.close? rest with
        | some rest => content top outer rest
        | none => .error ⟨.unclosedInside passage, rest⟩)
      | none =>
        match tagName? text with
        | some (tag, rest) =>
          (match startTag tag rest with
          | .ok (child, true, rest) => content (top.withChild child) outer rest
          | .ok (child, false, rest) => content child (top :: outer) rest
          | .error stop => .error stop)
        | none =>
          match textRun? text with
          | some rest => content top outer rest
          | none =>
            match endTag top.tag text with
            | .ok rest =>
              (match outer with
              | [] => .ok (top, rest)
              | parent :: outer => content (parent.withChild top) outer rest)
            | .error stop => .error stop := by
  fun_cases content top outer text <;> simp_all

theorem content_of_passage {passage : Passage} {used : List Char}
    (hmem : passage ∈ Passage.inElement) (hused : PassageText passage used) :
    content top outer (used ++ rest) = content top outer rest := by
  have hpassage : ∃ inner, Passage.open? Passage.inElement (used ++ rest) = some (passage, inner) ∧
      passage.close? inner = some rest :=
    Passage.exists_close?_iff.mpr ⟨hmem, used, hused, rfl⟩
  obtain ⟨inner, hopen, hclose⟩ := hpassage
  rw [content_eq]
  simp only [hopen, hclose]

/-- Where a start tag begins it is read; it closes its element or leaves it open. -/
theorem content_of_startTag {name attributes space : List Char} {entries : List (String × String)}
    (hname : Name name) (hattributes : AttributeList attributes entries) (hspace : Spaces space)
    (closed : Bool) :
    content top outer ('<' :: (name ++ (attributes ++ (space ++ (tagEnd closed ++ rest))))) =
      if closed then content (top.withChild ⟨String.ofList name, entries, []⟩) outer rest
      else content ⟨String.ofList name, entries, []⟩ (top :: outer) rest := by
  have hopen := open?_of_name Passage.inElement hname
    (attributes ++ (space ++ (tagEnd closed ++ rest)))
  have htag := tagName?_of_startTag hname hattributes hspace closed rest
  have hstart := startTag_append hattributes hspace (String.ofList name) closed rest
  rw [content_eq]
  simp only [hopen, htag, hstart]
  cases closed <;> rfl

/-- Character data are skipped up to the next bracket in one step. -/
theorem content_of_ne {c : Char} (h : c ≠ '<') :
    content top outer (c :: text) = content top outer (text.dropWhile (· != '<')) := by
  have hrun : textRun? (c :: text) = some (text.dropWhile (· != '<')) := by
    rw [textRun?, if_neg h]
  rw [content_eq]
  simp only [open?_of_ne _ h, tagName?_of_ne h, hrun]

theorem content_dropWhile :
    content top outer (text.dropWhile (· != '<')) = content top outer text := by
  cases text with
  | nil => rfl
  | cons c text =>
      by_cases h : c = '<'
      · rw [List.dropWhile_cons_of_neg (by simp [h])]
      · rw [List.dropWhile_cons_of_pos (by simp [h]), content_of_ne h]

/-- The grammar may cut character data anywhere, while the reader takes all up to the next bracket: both
come to the same, since what is left is skipped as well. -/
theorem content_of_characterData {used : List Char} (hused : CharacterData used) :
    content top outer (used ++ rest) = content top outer rest := by
  induction used with
  | nil => rfl
  | cons c used ih =>
      rw [List.cons_append, content_of_ne (hused c List.mem_cons_self), content_dropWhile]
      exact ih fun d hd => hused d (List.mem_cons_of_mem c hd)

/-- Nothing else begins where an end tag does. -/
theorem reads_nothing_of_endTagText {tag : String} {used : List Char} (h : EndTagText tag used)
    (rest : List Char) :
    Passage.open? Passage.inElement (used ++ rest) = none ∧ tagName? (used ++ rest) = none ∧
      textRun? (used ++ rest) = none := by
  obtain ⟨space, hspace⟩ := h
  simp only [List.append_assoc]
  refine ⟨Passage.open?_eq_none _ ?_, ?_, rfl⟩
  · intro c inner heq
    obtain ⟨rfl, -⟩ := List.cons.inj (List.cons.inj heq).2
    decide
  · have hname : name? ('/' :: (tag.toList ++ (space ++ (['>'] ++ rest)))) = none :=
      name?_of_stops (Text.stops_cons.mpr (by decide))
    rw [List.cons_append, List.cons_append, List.nil_append, tagName?, hname]
    rfl

/-- An end tag completes the top element. -/
theorem content_of_endTag {used : List Char} (hused : EndTagText top.tag used) :
    content top outer (used ++ rest) =
      match outer with
      | [] => .ok (top, rest)
      | parent :: outer => content (parent.withChild top) outer rest := by
  have hend : endTag top.tag (used ++ rest) = .ok rest :=
    endTag_eq_ok_iff.mpr ⟨used, hused, rfl⟩
  obtain ⟨hopen, htag, hrun⟩ := reads_nothing_of_endTagText hused rest
  rw [content_eq]
  simp only [hopen, htag, hrun, hend]

/-! ### What the grammar derives is read -/

/-- Whatever is open, the text is read off the front and its element becomes the last child of the top
element. -/
def ReadsElement (used : List Char) (e : Element) : Prop :=
  ∀ top outer rest, content top outer (used ++ rest) = content (top.withChild e) outer rest

/-- Whatever is open, the text is read off the front and its elements become the last children of the top
element. -/
def ReadsContent (used : List Char) (children : List Element) : Prop :=
  ∀ top outer rest, content top outer (used ++ rest) = content (top.withChildren children) outer rest

theorem readsElement_single {tag attributes space : List Char} {entries : List (String × String)}
    (htag : Name tag) (hattributes : AttributeList attributes entries) (hspace : Spaces space) :
    ReadsElement (['<'] ++ tag ++ attributes ++ space ++ ['/', '>'])
      ⟨String.ofList tag, entries, []⟩ := by
  intro top outer rest
  simp only [List.append_assoc]
  exact content_of_startTag htag hattributes hspace true

/-- The content of an open element and its end tag complete it. -/
theorem content_of_rest {tag inner last : List Char} {children : List Element}
    (hinner : ReadsContent inner children) (hlast : Spaces last)
    (entries : List (String × String)) (outer : List Element) (rest : List Char) :
    content ⟨String.ofList tag, entries, []⟩ outer
        (inner ++ (['<', '/'] ++ (tag ++ (last ++ (['>'] ++ rest))))) =
      match outer with
      | [] => .ok (⟨String.ofList tag, entries, children⟩, rest)
      | parent :: outer =>
        content (parent.withChild ⟨String.ofList tag, entries, children⟩) outer rest := by
  have hend : EndTagText (String.ofList tag) (['<', '/'] ++ tag ++ last ++ ['>']) := by
    have hmk : EndTagText (String.ofList tag)
        (['<', '/'] ++ (String.ofList tag).toList ++ last ++ ['>']) := .mk last hlast
    rwa [String.toList_ofList] at hmk
  calc
    content ⟨String.ofList tag, entries, []⟩ outer
        (inner ++ (['<', '/'] ++ (tag ++ (last ++ (['>'] ++ rest)))))
    _ = content ⟨String.ofList tag, entries, children⟩ outer
          ((['<', '/'] ++ tag ++ last ++ ['>']) ++ rest) := by
      rw [hinner]
      simp [Element.withChildren]
    _ = _ := content_of_endTag hend

theorem readsElement_paired {tag attributes space inner last : List Char}
    {entries : List (String × String)} {children : List Element} (htag : Name tag)
    (hattributes : AttributeList attributes entries) (hspace : Spaces space)
    (hinner : ReadsContent inner children) (hlast : Spaces last) :
    ReadsElement (['<'] ++ tag ++ attributes ++ space ++ ['>'] ++ inner ++ ['<', '/'] ++ tag ++
      last ++ ['>']) ⟨String.ofList tag, entries, children⟩ := by
  intro top outer rest
  simp only [List.append_assoc]
  have hstart : content top outer ('<' :: (tag ++ (attributes ++ (space ++ (tagEnd false ++
      (inner ++ (['<', '/'] ++ (tag ++ (last ++ (['>'] ++ rest)))))))))) = _ :=
    content_of_startTag htag hattributes hspace false
  exact hstart.trans (content_of_rest hinner hlast entries (top :: outer) rest)

theorem readsContent_nil : ReadsContent [] [] := by
  intro top outer rest
  rw [List.nil_append, Element.withChildren_nil]

theorem readsContent_passage {passage : Passage} {used more : List Char} {children : List Element}
    (hmem : passage ∈ Passage.inElement) (hused : PassageText passage used)
    (hmore : ReadsContent more children) : ReadsContent (used ++ more) children := by
  intro top outer rest
  rw [List.append_assoc, content_of_passage hmem hused]
  exact hmore top outer rest

theorem readsContent_data {used more : List Char} {children : List Element}
    (hused : CharacterData used) (hmore : ReadsContent more children) :
    ReadsContent (used ++ more) children := by
  intro top outer rest
  rw [List.append_assoc, content_of_characterData hused]
  exact hmore top outer rest

theorem readsContent_element {used more : List Char} {e : Element} {children : List Element}
    (hused : ReadsElement used e) (hmore : ReadsContent more children) :
    ReadsContent (used ++ more) (e :: children) := by
  intro top outer rest
  rw [List.append_assoc, hused, Element.withChildren_cons]
  exact hmore (top.withChild e) outer rest

/-- The induction goes over elements and content at once, with one case for each rule of the grammar. -/
theorem readsContent_of_contentText {used : List Char} {children : List Element}
    (h : ContentText used children) : ReadsContent used children := by
  refine @ContentText.rec (fun used e _ => ReadsElement used e)
    (fun used children _ => ReadsContent used children) ?_ ?_ ?_ ?_ ?_ ?_ used children h
  · intro tag attributes space entries htag hattributes hspace
    exact readsElement_single htag hattributes hspace
  · intro tag attributes space inner last entries children htag hattributes hspace _ hlast hinner
    exact readsElement_paired htag hattributes hspace hinner hlast
  · exact readsContent_nil
  · intro passage text rest children hmem htext _ hrest
    exact readsContent_passage hmem htext hrest
  · intro text rest children htext _ hrest
    exact readsContent_data htext hrest
  · intro text rest e children _ _ htext hrest
    exact readsContent_element htext hrest

/-! ### What is read is derived by the grammar -/

/-- The text completes the content of the top element and of all below it, the last of which becomes
`e`. -/
inductive Closes : Element → List Element → List Char → Element → Prop
  | last (top : Element) (inner final : List Char) (children : List Element)
      (hinner : ContentText inner children) (hfinal : EndTagText top.tag final) :
      Closes top [] (inner ++ final) (top.withChildren children)
  | next (top parent : Element) (outer : List Element) (inner final more : List Char)
      (children : List Element) (e : Element) (hinner : ContentText inner children)
      (hfinal : EndTagText top.tag final)
      (hmore : Closes (parent.withChild (top.withChildren children)) outer more e) :
      Closes top (parent :: outer) (inner ++ final ++ more) e

/-- A piece of content that leaves `new` in the top element may come first. -/
theorem closes_append (new : List Element) {top e : Element} {outer : List Element}
    {used more : List Char}
    (hused : ∀ inner children, ContentText inner children →
      ContentText (used ++ inner) (new ++ children))
    (h : Closes (top.withChildren new) outer more e) : Closes top outer (used ++ more) e := by
  cases h with
  | last _ inner final children hinner hfinal =>
      rw [← List.append_assoc, ← Element.withChildren_append]
      exact .last top _ final _ (hused inner children hinner) hfinal
  | next _ parent outer inner final more children _ hinner hfinal hmore =>
      rw [← Element.withChildren_append] at hmore
      rw [← List.append_assoc, ← List.append_assoc]
      exact .next top parent outer _ final more _ e (hused inner children hinner) hfinal hmore

theorem closes_of_passage {top e : Element} {outer : List Element} {passage : Passage}
    {used more : List Char} (hmem : passage ∈ Passage.inElement) (hused : PassageText passage used)
    (h : Closes top outer more e) : Closes top outer (used ++ more) e := by
  refine closes_append [] ?_ ?_
  · intro inner children hinner
    exact .passage passage used inner children hmem hused hinner
  · rwa [Element.withChildren_nil]

theorem closes_of_characterData {top e : Element} {outer : List Element} {used more : List Char}
    (hused : CharacterData used) (h : Closes top outer more e) :
    Closes top outer (used ++ more) e := by
  refine closes_append [] ?_ ?_
  · intro inner children hinner
    exact .data used inner children hused hinner
  · rwa [Element.withChildren_nil]

theorem closes_of_elementText {top child e : Element} {outer : List Element}
    {used more : List Char} (hused : ElementText used child)
    (h : Closes (top.withChild child) outer more e) : Closes top outer (used ++ more) e := by
  refine closes_append [child] ?_ h
  intro inner children hinner
  exact .element used inner child children hused hinner

/-- An end tag leaves it to what follows to close the elements below. -/
theorem closes_of_endTag {top parent e : Element} {outer : List Element} {final more : List Char}
    (hfinal : EndTagText top.tag final) (h : Closes (parent.withChild top) outer more e) :
    Closes top (parent :: outer) (final ++ more) e := by
  rw [← Element.withChildren_nil top] at h
  exact .next top parent outer [] final more [] e .nil hfinal h

/-- A child that its own start tag opened is complete where the text that closes it is. -/
theorem closes_of_startTag {top e : Element} {outer : List Element}
    {name attributes space more : List Char} {entries : List (String × String)} (hname : Name name)
    (hattributes : AttributeList attributes entries) (hspace : Spaces space)
    (h : Closes ⟨String.ofList name, entries, []⟩ (top :: outer) more e) :
    Closes top outer ('<' :: (name ++ (attributes ++ (space ++ (tagEnd false ++ more))))) e := by
  cases h with
  | next _ _ _ inner final more children _ hinner hfinal hmore =>
      obtain ⟨last, hlast⟩ := hfinal
      have hchild := ElementText.paired name attributes space inner last entries children hname
        hattributes hspace hinner hlast
      simpa [tagEnd] using closes_of_elementText hchild hmore

/-- The induction follows the reader, with one case for each of its branches. -/
theorem closes_of_content {top : Element} {outer : List Element} {text rest : List Char}
    {e : Element} (h : content top outer text = .ok (e, rest)) :
    ∃ used, Closes top outer used e ∧ text = used ++ rest := by
  fun_induction content top outer text with
  | case1 top outer text passage inner hopen more hclose ih =>
      -- A passage.
      obtain ⟨used, hused, rfl⟩ := ih h
      obtain ⟨hmem, piece, hpiece, rfl⟩ := Passage.exists_close?_iff.mp ⟨inner, hopen, hclose⟩
      exact ⟨piece ++ used, closes_of_passage hmem hpiece hused, by simp⟩
  | case2 => cases h
  | case3 top outer text hopen tag inner htag child more hstart ih =>
      -- An element that its start tag closes.
      obtain ⟨used, hused, rfl⟩ := ih h
      obtain ⟨name, hname, rfl, rfl⟩ := eq_append_of_tagName? htag
      obtain ⟨attributes, space, entries, hattributes, hspace, rfl, rfl⟩ :=
        eq_append_of_startTag hstart
      have hchild := ElementText.single name attributes space entries hname hattributes hspace
      exact ⟨_, closes_of_elementText hchild hused, by simp [tagEnd]⟩
  | case4 top outer text hopen tag inner htag child more hstart ih =>
      -- An element that stays open: what completes it stands at the front of what is read after it.
      obtain ⟨used, hused, rfl⟩ := ih h
      obtain ⟨name, hname, rfl, rfl⟩ := eq_append_of_tagName? htag
      obtain ⟨attributes, space, entries, hattributes, hspace, rfl, rfl⟩ :=
        eq_append_of_startTag hstart
      exact ⟨_, closes_of_startTag hname hattributes hspace hused, by simp⟩
  | case5 => cases h
  | case6 top outer text hopen htag more hrun ih =>
      -- Character data.
      obtain ⟨used, hused, rfl⟩ := ih h
      obtain ⟨piece, hpiece, rfl⟩ := eq_append_of_textRun? hrun
      exact ⟨piece ++ used, closes_of_characterData hpiece hused, by simp⟩
  | case7 top text hopen htag hrun more hend =>
      -- The end tag of the last open element.
      obtain ⟨rfl, rfl⟩ := by simpa using h
      obtain ⟨final, hfinal, rfl⟩ := endTag_eq_ok_iff.mp hend
      refine ⟨final, ?_, rfl⟩
      simpa using Closes.last top [] final [] .nil hfinal
  | case8 top text hopen htag hrun more hend parent outer ih =>
      -- The end tag of an element inside another one.
      obtain ⟨used, hused, rfl⟩ := ih h
      obtain ⟨final, hfinal, rfl⟩ := endTag_eq_ok_iff.mp hend
      exact ⟨final ++ used, closes_of_endTag hfinal hused, by simp⟩
  | case9 => cases h

/-! ### Documents -/

theorem root_of_startTag {name attributes space : List Char} {entries : List (String × String)}
    (hname : Name name) (hattributes : AttributeList attributes entries) (hspace : Spaces space)
    (closed : Bool) (rest : List Char) :
    root ('<' :: (name ++ (attributes ++ (space ++ (tagEnd closed ++ rest))))) =
      if closed then .ok (⟨String.ofList name, entries, []⟩, rest)
      else content ⟨String.ofList name, entries, []⟩ [] rest := by
  rw [root, tagName?_of_startTag hname hattributes hspace closed rest]
  simp only
  rw [startTag_append hattributes hspace]
  cases closed <;> rfl

/-- The reader of the root finds an element exactly if the grammar has one there. -/
theorem root_eq_ok_iff {text rest : List Char} {e : Element} :
    root text = .ok (e, rest) ↔ ∃ used, ElementText used e ∧ text = used ++ rest := by
  constructor
  · intro h
    unfold root at h
    split at h
    · cases h
    · next tag inner htag =>
      obtain ⟨name, hname, rfl, rfl⟩ := eq_append_of_tagName? htag
      split at h
      · next hstart =>
        obtain ⟨rfl, rfl⟩ := by simpa using h
        obtain ⟨attributes, space, entries, hattributes, hspace, rfl, rfl⟩ :=
          eq_append_of_startTag hstart
        exact ⟨_, .single name attributes space entries hname hattributes hspace, by simp [tagEnd]⟩
      · next hstart =>
        obtain ⟨attributes, space, entries, hattributes, hspace, rfl, rfl⟩ :=
          eq_append_of_startTag hstart
        obtain ⟨used, hused, rfl⟩ := closes_of_content h
        -- With no element around it, what closes the root is its own end tag.
        cases hused with
        | last _ inner final children hinner hfinal =>
            obtain ⟨last, hlast⟩ := hfinal
            exact ⟨_, .paired name attributes space inner last entries children hname hattributes
              hspace hinner hlast, by simp [tagEnd]⟩
      · cases h
  · rintro ⟨used, hused, rfl⟩
    cases hused with
    | single tag attributes space entries htag hattributes hspace =>
        simp only [List.append_assoc]
        exact root_of_startTag htag hattributes hspace true rest
    | paired tag attributes space inner last entries children htag hattributes hspace hinner hlast =>
        simp only [List.append_assoc]
        have hstart := root_of_startTag htag hattributes hspace false
          (inner ++ (['<', '/'] ++ (tag ++ (last ++ (['>'] ++ rest)))))
        exact hstart.trans
          (content_of_rest (readsContent_of_contentText hinner) hlast entries [] rest)

/-- The reader of what surrounds the root as an equation. -/
theorem surroundings_eq (allowed : List Passage) (text : List Char) :
    surroundings allowed text =
      match Passage.open? allowed text with
      | some (passage, rest) =>
        (match passage.close? rest with
        | some rest => surroundings allowed rest
        | none => .error ⟨.unclosedOutside passage, rest⟩)
      | none =>
        match text with
        | [] => .ok []
        | c :: rest => if isSpace c then surroundings allowed rest else .ok (c :: rest) := by
  fun_cases surroundings allowed text <;> simp_all

/-- What surrounds the root is read off the front piece by piece, since no two kinds of pieces begin
alike. -/
theorem surroundings_append {allowed : List Passage} {used : List Char}
    (h : Surroundings allowed used) (rest : List Char) :
    surroundings allowed (used ++ rest) = surroundings allowed rest := by
  induction h with
  | nil => rfl
  | space c more hspace _ ih =>
      have hne : c ≠ '<' := by
        rintro rfl
        exact absurd hspace (by decide)
      rw [List.cons_append, surroundings_eq]
      simp only [open?_of_ne allowed hne, hspace, if_true]
      exact ih
  | passage passage text more hmem htext _ ih =>
      obtain ⟨inner, hopen, hclose⟩ :=
        Passage.exists_close?_iff.mpr ⟨hmem, text, htext, List.append_assoc text more rest⟩
      rw [surroundings_eq]
      simp only [hopen, hclose]
      exact ih

theorem surroundings_nil (allowed : List Passage) : surroundings allowed [] = .ok [] := by
  have hopen : Passage.open? allowed [] = none := Passage.open?_eq_none allowed (by simp)
  rw [surroundings_eq]
  simp only [hopen]

theorem exists_name_of_elementText {used : List Char} {e : Element} (h : ElementText used e) :
    ∃ name more, Name name ∧ used = '<' :: (name ++ more) := by
  cases h with
  | single tag attributes space entries htag hattributes hspace =>
      exact ⟨tag, attributes ++ space ++ ['/', '>'], htag, by simp⟩
  | paired tag attributes space inner last entries children htag hattributes hspace hinner hlast =>
      exact ⟨tag, attributes ++ space ++ ['>'] ++ inner ++ ['<', '/'] ++ tag ++ last ++ ['>'], htag,
        by simp⟩

/-- An element ends what comes before the root. -/
theorem surroundings_of_elementText (allowed : List Passage) {used : List Char} {e : Element}
    (h : ElementText used e) (rest : List Char) :
    surroundings allowed (used ++ rest) = .ok (used ++ rest) := by
  obtain ⟨name, more, hname, rfl⟩ := exists_name_of_elementText h
  rw [List.cons_append, List.append_assoc, surroundings_eq]
  simp only [open?_of_name allowed hname]
  rfl

theorem eq_append_of_surroundings {allowed : List Passage} {text rest : List Char}
    (h : surroundings allowed text = .ok rest) :
    ∃ used, Surroundings allowed used ∧ text = used ++ rest := by
  fun_induction surroundings allowed text with
  | case1 text passage inner hopen more hclose ih =>
      obtain ⟨used, hused, rfl⟩ := ih h
      obtain ⟨hmem, piece, hpiece, rfl⟩ := Passage.exists_close?_iff.mp ⟨inner, hopen, hclose⟩
      exact ⟨piece ++ used, .passage passage piece used hmem hpiece hused, by simp⟩
  | case2 => cases h
  | case3 =>
      obtain rfl := Except.ok.inj h
      exact ⟨[], .nil, rfl⟩
  | case4 c inner _ hc ih =>
      obtain ⟨used, hused, rfl⟩ := ih h
      exact ⟨c :: used, .space c used hc hused, rfl⟩
  | case5 =>
      obtain rfl := Except.ok.inj h
      exact ⟨[], .nil, rfl⟩

/-- A document is an element with surroundings on both sides and nothing else. -/
theorem document_eq_ok_iff {text : List Char} {e : Element} :
    document text = .ok e ↔ DocumentText text e := by
  constructor
  · intro h
    simp only [document, bind_eq_ok_iff, Prod.exists] at h
    -- The three readers go on from one another, and nothing may be left after the last one.
    obtain ⟨_, hstart, root, _, hroot, rest, hend, hlast⟩ := h
    obtain ⟨before, hbefore, rfl⟩ := eq_append_of_surroundings hstart
    obtain ⟨used, hused, rfl⟩ := root_eq_ok_iff.mp hroot
    obtain ⟨after, hafter, rfl⟩ := eq_append_of_surroundings hend
    cases rest with
    | nil =>
        obtain rfl := Except.ok.inj hlast
        rw [List.append_nil, ← List.append_assoc]
        exact .mk before used after root hbefore hused hafter
    | cons c rest => cases hlast
  · rintro ⟨before, used, after, e, hbefore, hused, hafter⟩
    have hstart : surroundings Passage.beforeRoot (before ++ used ++ after) = .ok (used ++ after) := by
      rw [List.append_assoc, surroundings_append hbefore, surroundings_of_elementText _ hused]
    have hend : surroundings Passage.afterRoot after = .ok [] := by
      have happend := surroundings_append hafter []
      rwa [List.append_nil, surroundings_nil] at happend
    simp only [document, bind_eq_ok_iff, Prod.exists]
    exact ⟨_, hstart, e, after, root_eq_ok_iff.mpr ⟨used, hused, rfl⟩, [], hend, rfl⟩

theorem exists_head_of_documentText {text : List Char} {e : Element} (h : DocumentText text e) :
    ∃ c rest, text = c :: rest ∧ (isSpace c = true ∨ c = '<') := by
  obtain ⟨before, used, after, e, hbefore, hused, -⟩ := h
  cases hbefore with
  | nil =>
      obtain ⟨name, more, -, rfl⟩ := exists_name_of_elementText hused
      exact ⟨'<', _, rfl, .inr rfl⟩
  | space c more hspace _ => exact ⟨c, _, rfl, .inl hspace⟩
  | passage passage text more _ htext _ =>
      obtain ⟨body, -⟩ := htext
      obtain ⟨c, tail, hopening, -⟩ := passage.exists_opening
      rw [hopening]
      exact ⟨'<', _, rfl, .inr rfl⟩

/-- A document does not begin with a byte order mark of its own. -/
theorem withoutMark_of_documentText {text : List Char} {e : Element} (h : DocumentText text e) :
    withoutMark text = text := by
  obtain ⟨c, rest, rfl, hc⟩ := exists_head_of_documentText h
  unfold withoutMark
  split
  · next heq =>
    obtain ⟨rfl, -⟩ := List.cons.inj heq
    rcases hc with hc | hc
    · exact absurd hc (by decide)
    · exact absurd hc (by decide)
  · rfl

/-- A text is read as a document with a tree exactly if the grammar derives it with that tree. -/
theorem parse_eq_ok_iff_derives {text : String} {e : Element} :
    parse text = .ok e ↔ Derives text.toList e := by
  rw [parse_eq_ok_iff, document_eq_ok_iff]
  constructor
  · intro h
    unfold withoutMark at h
    split at h
    · next rest heq =>
      rw [heq]
      exact .marked rest e h
    · exact .plain _ e h
  · intro h
    generalize text.toList = chars at h
    cases h with
    | plain chars e h =>
        rwa [withoutMark_of_documentText h]
    | marked rest e h => exact h

end Markup
end RegisterMap
