import RegisterMap.Proofs.ReadingFrame

/-!
# Rejected instances

A selection takes effect on the top document alone, and there it does what a writer of the document could
do: an instance that it rejects counts as a placeholder, as if its identifier were empty.  So reading with
a selection is reading everything from a source in which the rejected instances are blanked
(`device_eq_device_blanked`), whichever way that ends.

This takes addresses that are unsigned words of 64 bits, for a selection looks at the address of every
identified instance while reading everything looks at those of no placeholder.
-/

namespace RegisterMap

open Markup (Element)

namespace Description

/-- The selection rejects the instance: it is identified, and it is not admitted at its address. -/
def isRejected (selection : Selection) (e : Element) : Bool :=
  e.isIdentified &&
    (e.attribute? "id").any fun id => (address? e).any fun address =>
      !selection.admits address.toNat id

/-- The attribute, without its value if it is an identifier. -/
def blankEntry (entry : String × String) : String × String :=
  if entry.1 == "id" then (entry.1, "") else entry

/-- The attributes of an element, the identifier empty if it is a rejected instance. -/
def blankedAttributes (selection : Selection) (e : Element) : List (String × String) :=
  if e.tag == "instance" && isRejected selection e then e.attributes.map blankEntry
  else e.attributes

/-- The tree with the identifiers of its rejected instances made empty. -/
def blankRejected (selection : Selection) (e : Element) : Element :=
  e.mapAttributes (blankedAttributes selection)

/-- The document with the identifiers of the rejected instances under its first processor made empty. -/
def blankDocument (selection : Selection) (root : Element) : Element :=
  (root.mapFirst "cpu" (blankRejected selection)).getD root

/-- `root'` is the document with its rejected instances blanked: those under its first processor, or all
of them wherever they are, as long as the document is not an instance itself. -/
def IsBlankOf (selection : Selection) (root root' : Element) : Prop :=
  root' = blankDocument selection root ∨
    (root.tag ≠ "instance" ∧ root' = blankRejected selection root)

/-- `blanked` is the source with the document at `path` blanked.  Other paths to that document may give it
in either form, and all else is the same. -/
structure IsBlanked (selection : Selection) (path : Path) (source blanked : Source) : Prop where
  same : blanked.same = source.same
  top : (∃ failure, source.load path = .error failure ∧ blanked.load path = .error failure) ∨
    ∃ root root', source.load path = .ok root ∧ blanked.load path = .ok root' ∧
      IsBlankOf selection root root'
  other : ∀ q, blanked.load q = source.load q ∨
    ∃ root root', source.load path = .ok root ∧ source.load q = .ok root ∧
      blanked.load q = .ok root' ∧ IsBlankOf selection root root'

/-- The address of the element can be read, as an unsigned word of 64 bits. -/
def HasAddress (e : Element) : Prop :=
  ∃ address ∈ address? e, 0 ≤ address ∧ address < Numeral.wordSize 64

instance (e : Element) : Decidable (HasAddress e) :=
  inferInstanceAs (Decidable (∃ address ∈ address? e, _))

variable {selection : Selection}

/-! ### Documents -/

theorem blankedAttributes_of_ne {e : Element} (h : e.tag ≠ "instance") :
    blankedAttributes selection e = e.attributes := by
  simp [blankedAttributes, h]

theorem bare_blankRejected {e : Element} (h : e.tag ≠ "instance") :
    (blankRejected selection e).bare = e.bare :=
  Element.bare_mapAttributes (blankedAttributes_of_ne h)

/-- Blanking changes only what is left out of an instance anyway. -/
theorem withoutPlacements_blankRejected (e : Element) :
    (blankRejected selection e).withoutPlacements = e.withoutPlacements := by
  refine Element.mapAttributes_mapAttributes (fun e => ?_) e
  unfold Element.keptAttributes
  rw [Element.tag_mapAttributes, Element.attributes_mapAttributes]
  by_cases htag : e.tag = "instance"
  · simp [htag]
  · rw [blankedAttributes_of_ne htag]

theorem withoutPlacements_blankDocument (selection : Selection) (root : Element) :
    (blankDocument selection root).withoutPlacements = root.withoutPlacements := by
  unfold blankDocument
  cases hfirst : root.mapFirst "cpu" (blankRejected selection) with
  | none => rfl
  | some root' =>
      exact Element.mapAttributes_mapFirst withoutPlacements_blankRejected
        (fun _ _ _ _ => rfl) hfirst

theorem bare_blankDocument (selection : Selection) (root : Element) :
    (blankDocument selection root).bare = root.bare := by
  unfold blankDocument
  cases hfirst : root.mapFirst "cpu" (blankRejected selection) with
  | none => rfl
  | some root' =>
      rcases Element.mapFirst_eq_some_iff.mp hfirst with ⟨htag, rfl⟩ | ⟨-, children, -, rfl⟩
      · refine bare_blankRejected ?_
        rw [htag]
        decide
      · rfl

/-- The first processor of a blanked document is the blanked processor. -/
theorem processor_blankDocument (selection : Selection) (root : Element) :
    processor (blankDocument selection root) = blankRejected selection <$> processor root := by
  have htag := (Element.bare_eq_iff.mp (bare_blankDocument selection root)).1
  unfold processor
  rw [htag]
  unfold blankDocument
  cases hfirst : root.mapFirst "cpu" (blankRejected selection) with
  | none =>
      rw [Option.getD_none, Element.descendants_eq_nil_of_mapFirst hfirst]
      rfl
  | some root' =>
      obtain ⟨cpu, hcpu, hcpu'⟩ :=
        Element.head?_descendants_mapFirst (fun _ => Element.tag_mapAttributes _) hfirst
      rw [Option.getD_some, hcpu, hcpu']
      rfl

theorem IsBlankOf.bare {root root' : Element} (h : IsBlankOf selection root root') :
    root'.bare = root.bare := by
  rcases h with rfl | ⟨htag, rfl⟩
  · exact bare_blankDocument selection root
  · exact bare_blankRejected htag

theorem IsBlankOf.withoutPlacements {root root' : Element} (h : IsBlankOf selection root root') :
    root'.withoutPlacements = root.withoutPlacements := by
  rcases h with rfl | ⟨-, rfl⟩
  · exact withoutPlacements_blankDocument selection root
  · exact withoutPlacements_blankRejected root

/-- A definition is the same after its document is blanked, if it is the top document as well. -/
theorem IsBlankOf.sameDefinition {root root' : Element} (h : IsBlankOf selection root root') :
    SameDefinition root root' where
  bare := h.bare.symm
  registers := by
    rw [← registers_withoutPlacements, ← h.withoutPlacements, registers_withoutPlacements]

theorem IsBlankOf.processor {root root' : Element} (h : IsBlankOf selection root root') :
    processor root' = blankRejected selection <$> processor root := by
  rcases h with rfl | ⟨-, rfl⟩
  · exact processor_blankDocument selection root
  · unfold Description.processor
    rw [blankRejected, Element.descendants_mapAttributes, List.head?_map,
      Element.tag_mapAttributes]
    cases (root.descendants "cpu").head? with
    | none => rfl
    | some cpu => rfl

/-! ### References -/

theorem exists_id_of_isIdentified {e : Element} (h : e.isIdentified = true) :
    ∃ id, e.attribute? "id" = some id := by
  unfold Element.isIdentified at h
  split at h
  · next id hid => exact ⟨id, hid⟩
  · cases h

theorem eq_all_of_isTrivial (h : selection.isTrivial = true) : selection = Selection.all := by
  obtain ⟨included, excluded, names⟩ := selection
  simp only [Selection.isTrivial, Bool.and_eq_true, List.isEmpty_iff] at h
  obtain ⟨⟨rfl, rfl⟩, rfl⟩ := h
  rfl

/-- With an address that is a word the selection can always decide, even the one that does not look. -/
theorem isAdmitted_of_address {e : Element} {id : String} {address : Int}
    (h : address? e = some address) (hnonneg : 0 ≤ address)
    (hlt : address < Numeral.wordSize 64) :
    isAdmitted selection id e = .ok (selection.admits address.toNat id) := by
  unfold isAdmitted
  split
  · next htrivial =>
    rw [eq_all_of_isTrivial htrivial]
    rfl
  · obtain ⟨value, hvalue, hnumber⟩ := Option.bind_eq_some_iff.mp h
    have hfits : address.toNat < Numeral.wordSize 64 := by omega
    rw [require_eq_ok_iff.mpr hvalue, ok_bind, hexadecimal_eq_ok_iff.mpr hnumber, ok_bind]
    simp [takes, Numeral.fitsUnsigned, hnonneg, hfits, pure, Except.pure]

theorem isAdmitted_all (id : String) (e : Element) : isAdmitted Selection.all id e = .ok true :=
  rfl

theorem result_reference_of_not_isIdentified {base : Path} {e : Element}
    (h : e.isIdentified = false) : (reference selection base e).result = .ok none := by
  simp only [reference, h, Bool.false_eq_true, if_false, Traced.result_bind, Traced.result_note,
    Traced.result_pure, ok_bind]

/-- An admitted instance refers to a document, relative to the base; one that is not admitted to none. -/
theorem result_reference_of_isAdmitted {base : Path} {e : Element} {id : String} {admitted : Bool}
    (hidentified : e.isIdentified = true) (hid : e.attribute? "id" = some id)
    (h : isAdmitted selection id e = .ok admitted) :
    (reference selection base e).result =
      if admitted then
        (fun href => some ⟨base.join ⟨href⟩, e⟩) <$> (require e "href").mapError Failure.ofFault
      else .ok none := by
  have hrequire : require e "id" = .ok id := require_eq_ok_iff.mpr hid
  simp only [reference, hidentified, if_true, Traced.result_bind, Traced.result_ofFault, hrequire, h,
    mapError_ok, ok_bind]
  cases admitted with
  | true =>
      simp only [if_true, Traced.result_bind, Traced.result_ofFault, Traced.result_pure]
      exact (map_eq_pure_bind _ _).symm
  | false => rfl

/-- The first of several identifiers counts, and all of them are blanked. -/
theorem lookup_blankEntry {attributes : List (String × String)} {id : String}
    (h : attributes.lookup "id" = some id) :
    (attributes.map blankEntry).lookup "id" = some "" := by
  induction attributes with
  | nil => simp at h
  | cons entry rest ih =>
      obtain ⟨key, value⟩ := entry
      by_cases hkey : key = "id"
      · subst hkey
        rfl
      · have hne : ("id" == key) = false := by simpa using fun h => hkey h.symm
        have hentry : blankEntry (key, value) = (key, value) := by simp [blankEntry, hkey]
        rw [List.lookup_cons, hne] at h
        rw [List.map_cons, hentry, List.lookup_cons, hne]
        exact ih h

/-- A blanked instance is a placeholder. -/
theorem isIdentified_blankRejected {e : Element} (htag : e.tag = "instance")
    (h : isRejected selection e = true) : (blankRejected selection e).isIdentified = false := by
  have hidentified : e.isIdentified = true := (Bool.and_eq_true_iff.mp h).1
  obtain ⟨id, hid⟩ := exists_id_of_isIdentified hidentified
  have hblank : (blankRejected selection e).attribute? "id" = some "" := by
    rw [Element.attribute?, blankRejected, Element.attributes_mapAttributes, blankedAttributes, htag,
      h]
    exact lookup_blankEntry hid
  rw [Element.isIdentified, hblank]
  decide

theorem bare_blankRejected_of_not_isRejected {e : Element} (h : isRejected selection e = false) :
    (blankRejected selection e).bare = e.bare := by
  refine Element.bare_mapAttributes ?_
  rw [blankedAttributes, h, Bool.and_false]
  rfl

/-- An instance refers to the same document whether the selection passes over it or it is blanked. -/
theorem reference_blankRejected {base : Path} {e : Element} (htag : e.tag = "instance")
    (h : e.isIdentified = true → HasAddress e) :
    Option.map Reference.bare <$> (reference selection base e).result =
      Option.map Reference.bare <$>
        (reference Selection.all base (blankRejected selection e)).result := by
  cases hidentified : e.isIdentified with
  | false =>
      have hrejected : isRejected selection e = false := by
        rw [isRejected, hidentified, Bool.false_and]
      have hbare := bare_blankRejected_of_not_isRejected hrejected
      rw [result_reference_of_not_isIdentified hidentified,
        result_reference_of_not_isIdentified ((isIdentified_congr hbare).trans hidentified)]
  | true =>
      obtain ⟨id, hid⟩ := exists_id_of_isIdentified hidentified
      obtain ⟨address, haddress, hnonneg, hlt⟩ := h hidentified
      have hrejected : isRejected selection e = !selection.admits address.toNat id := by
        rw [isRejected, hidentified, hid, haddress]
        rfl
      rw [result_reference_of_isAdmitted hidentified hid
        (isAdmitted_of_address haddress hnonneg hlt)]
      cases hadmitted : selection.admits address.toNat id with
      | false =>
          rw [hadmitted] at hrejected
          rw [result_reference_of_not_isIdentified (isIdentified_blankRejected htag hrejected)]
          rfl
      | true =>
          rw [hadmitted] at hrejected
          -- Nothing is blanked here, and reading everything asks for no address.
          have hbare := bare_blankRejected_of_not_isRejected hrejected
          rw [result_reference_of_isAdmitted ((isIdentified_congr hbare).trans hidentified)
            ((attribute?_congr hbare "id").trans hid) (isAdmitted_all _ _)]
          rw [if_pos rfl, if_pos rfl, require_congr hbare]
          cases (require e "href").mapError Failure.ofFault with
          | error failure => rfl
          | ok href =>
              show Except.ok (some _) = Except.ok (some _)
              simp only [Reference.bare, hbare]

/-! ### Devices -/

/-- Instances are gathered by the documents they refer to, so that it is enough that the references are
the same. -/
theorem bare_resolve_blankRejected {source blanked : Source} {base : Path} {cpu : Element}
    (hsame : blanked.same = source.same)
    (h : ∀ e ∈ cpu.descendants "instance", e.isIdentified = true → HasAddress e) :
    List.map Group.bare <$> (resolve source selection base cpu).result =
      List.map Group.bare <$>
        (resolve blanked Selection.all base (blankRejected selection cpu)).result := by
  rw [bare_resolve, bare_resolve, hsame, blankRejected, Element.descendants_mapAttributes,
    List.mapM_map]
  congr 1
  exact mapM_congr fun e he =>
    reference_blankRejected (Element.tag_of_mem_descendants he) (h e he)

/-- Where each identified instance under the first processor has an address, reading with a selection ends
as reading everything does after the rejected instances are blanked: with the same device, or with the
same failure in the same contexts. -/
theorem device_eq_device_blanked {source blanked : Source} {path : Path}
    (hblanked : IsBlanked selection path source blanked)
    (haddress : ∀ root cpu, source.load path = .ok root → processor root = .ok cpu →
      ∀ e ∈ cpu.descendants "instance", e.isIdentified = true → HasAddress e) :
    (device source selection path).result = (device blanked Selection.all path).result := by
  have hdefinition : ∀ group,
      (definition source group).result = (definition blanked group).result := by
    -- Definitions are read from other paths, which may lead back to the blanked document.
    intro group
    refine definition_congr ?_
    rcases hblanked.other group.path with hsame | ⟨root, root', -, hroot, hroot', hblank⟩
    · exact .inl hsame.symm
    · exact .inr ⟨root, root', hroot, hroot', hblank.sameDefinition⟩
  rw [result_device, result_device]
  -- From here on the two readings go side by side, each step ending in the same failure or in results
  -- that differ only in what no later step looks at.
  rcases hblanked.top with ⟨failure, hload, hload'⟩ | ⟨root, root', hload, hload', hblank⟩
  · rw [hload, hload', error_bind, error_bind]
  · rw [hload, hload', ok_bind, ok_bind, hblank.processor]
    cases hcpu : processor root with
    | error fault =>
        show (((Except.error fault).mapError Failure.ofFault >>= _).mapError _) =
          (((Except.error fault).mapError Failure.ofFault >>= _).mapError _)
        rw [mapError_error, error_bind, error_bind]
    | ok cpu =>
        show (((resolve source selection (baseOf path) cpu).result >>= _).mapError _) =
          (((resolve blanked Selection.all (baseOf path)
            (blankRejected selection cpu)).result >>= _).mapError _)
        have hcpuTag : cpu.tag ≠ "instance" := by
          rw [processor_eq_ok_iff] at hcpu
          rw [Element.tag_of_mem_descendants (List.mem_of_mem_head? hcpu)]
          decide
        refine congrArg (Except.mapError _) (bind_congr_of_map (List.map Group.bare)
          (bare_resolve_blankRejected hblanked.same (haddress root cpu hload hcpu)) ?_)
        intro groups groups' h
        exact assemble_congr hblank.bare.symm (bare_blankRejected hcpuTag).symm h hdefinition

/-! ### Archives -/

/-- An archive is blanked by putting the text of the blanked document in place of the document. -/
theorem isBlanked_insert {archive : Archive} {path : Path} {text blankText : String}
    {root root' : Element} (hget : archive.get? path = some text)
    (hparse : Markup.parse text = .ok root) (hparse' : Markup.parse blankText = .ok root')
    (hblank : IsBlankOf selection root root') :
    IsBlanked selection path archive.source (archive.insert path blankText).source := by
  have hload : archive.source.load path = .ok root :=
    Archive.load_eq_ok_iff.mpr ⟨text, hget, hparse⟩
  have hfound : ∀ q : Path, q.normalize = path.normalize →
      (archive.insert path blankText).source.load q = .ok root' := by
    intro q hq
    refine Archive.load_eq_ok_iff.mpr ⟨blankText, ?_, hparse'⟩
    rw [Archive.get?_insert, if_pos hq]
  refine ⟨rfl, .inr ⟨root, root', hload, hfound path rfl, hblank⟩, fun q => ?_⟩
  · by_cases hq : q.normalize = path.normalize
    · have hload' : archive.source.load q = .ok root := by
        refine Archive.load_eq_ok_iff.mpr ⟨text, ?_, hparse⟩
        rw [← hget, Archive.get?, Archive.get?, hq]
      exact .inr ⟨root, root', hload, hload', hfound q hq, hblank⟩
    · refine .inl (Archive.load_congr ?_)
      rw [Archive.get?_insert, if_neg hq]

/-- The board without the identifier of the instance that its selection rejects. -/
def blankBoardText : String :=
  "<device partnum='P1'><cpu id='C0'><instance href='x.xml'/>
    <instance id='T1' href='t.xml' baseaddr='0x20' size='8'/>
    <bus><instance id='U0' href='u.xml' baseaddr='0x40' size='4'/></bus>
    <instance id='T0' href='../d/t.xml' baseaddr='0x10' size='8'/>
    <instance id='' href='x.xml' baseaddr='0x80' size='4'/></cpu></device>"

set_option maxRecDepth 4000 in
theorem parse_blankBoard :
    Markup.parse blankBoardText =
      .ok (blankDocument boardSelection ⟨"device", [("partnum", "P1")], [boardCpu]⟩) := by
  rw [Markup.parse_eq_ok_iff, show blankBoardText.toList = _ from String.toList_ofList]
  decide +kernel

theorem isBlanked_board :
    IsBlanked boardSelection ⟨"d/top.xml"⟩ boardArchive.source
      (boardArchive.insert ⟨"d/top.xml"⟩ blankBoardText).source := by
  obtain ⟨text, hget, hparse⟩ := Archive.load_eq_ok_iff.mp load_board
  exact isBlanked_insert hget hparse parse_blankBoard (.inl rfl)

theorem hasAddress_board :
    ∀ e ∈ boardCpu.descendants "instance", e.isIdentified = true → HasAddress e := by
  decide +kernel

/-- The blanked board is read without a selection as the board is with one. -/
theorem device_blankBoard :
    IsBlanked boardSelection ⟨"d/top.xml"⟩ boardArchive.source
        (boardArchive.insert ⟨"d/top.xml"⟩ blankBoardText).source ∧
      (∀ e ∈ boardCpu.descendants "instance", e.isIdentified = true → HasAddress e) ∧
      (device boardArchive.source boardSelection ⟨"d/top.xml"⟩).result = .ok board ∧
      (device (boardArchive.insert ⟨"d/top.xml"⟩ blankBoardText).source Selection.all
        ⟨"d/top.xml"⟩).result = .ok board := by
  refine ⟨isBlanked_board, hasAddress_board, device_board, ?_⟩
  rw [← device_eq_device_blanked isBlanked_board ?_]
  · exact device_board
  · intro root cpu hroot hcpu
    obtain rfl := Except.ok.inj (load_board.symm.trans hroot)
    have hfirst : processor ⟨"device", [("partnum", "P1")], [boardCpu]⟩ = .ok boardCpu := by
      decide +kernel
    obtain rfl := Except.ok.inj (hfirst.symm.trans hcpu)
    exact hasAddress_board

end Description
end RegisterMap
