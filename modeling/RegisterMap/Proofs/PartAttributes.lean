import RegisterMap.Proofs.Gathering
import RegisterMap.Proofs.NumberText

/-!
# Attributes of fields and instances

What an element has to say to be read as a bit field or as an instance, and what is made of it.  The
attributes are told apart from the rules about them: `FieldAttributes.Of` and `PlacementAttributes.Of` say
what the element holds, `FieldAttributes.Agree` and `PlacementAttributes.Agree` which values go together.

A range is given twice in both, by its two ends and by its length.  The rules compare the numbers themselves,
of any size, and a part is read with exactly the range that both say.
-/

namespace RegisterMap
namespace Description

open Markup (Element)

/-! ### Numbers in attributes -/

/-- The attribute is a decimal number for a signed word of 64 bits, perhaps with blanks around it. -/
def HasDecimal (e : Element) (key : String) (v : Int) : Prop :=
  ∃ text, e.attribute? key = some text ∧ Numeral.IsDecimal (Text.trimChars text.toList) v ∧
    -2 ^ 63 ≤ v ∧ v < 2 ^ 63

/-- The attribute is a hexadecimal number, perhaps with blanks around it. -/
def HasHexadecimal (e : Element) (key : String) (v : Int) : Prop :=
  ∃ text, e.attribute? key = some text ∧ Numeral.IsHexadecimal (Text.trimChars text.toList) v

/-- The attribute is a hexadecimal number that fits a signed word of 64 bits. -/
def HasHexadecimalWord (e : Element) (key : String) (v : Int) : Prop :=
  HasHexadecimal e key v ∧ -2 ^ 63 ≤ v ∧ v < 2 ^ 63

theorem decimal_eq_ok_iff {what owner value : String} {v : Int} :
    decimal what owner value = .ok v ↔
      Numeral.IsDecimal (Text.trimChars value.toList) v ∧ -2 ^ 63 ≤ v ∧ v < 2 ^ 63 := by
  have hsigned : Numeral.signed? 10 64 (Text.trimChars value.toList) = some v ↔ _ :=
    Numeral.signed?_eq_some_iff
  rw [Numeral.fitsSigned_iff 63] at hsigned
  rw [← hsigned, decimal]
  split
  · next n h => simp [h]
  · next h => simp [h]

theorem decimalAttribute_eq_ok_iff {e : Element} {owner key : String} {v : Int} :
    decimalAttribute e owner key = .ok v ↔ HasDecimal e key v := by
  simp only [decimalAttribute, bind_eq_ok_iff, require_eq_ok_iff, decimal_eq_ok_iff, HasDecimal]

/-- A hexadecimal attribute is read if its value has at most 127 bits. -/
theorem exists_hexadecimal_iff {e : Element} (what owner : String) {key : String} {v : Int} :
    (∃ text, e.attribute? key = some text ∧ hexadecimal what owner text = .ok v) ↔
      HasHexadecimal e key v ∧ v.natAbs < 2 ^ 127 := by
  simp only [hexadecimal_eq_ok_iff, Numeral.hexNumber?_eq_some_iff, HasHexadecimal]
  constructor
  · rintro ⟨text, htext, hnumber, hlt⟩
    exact ⟨⟨text, htext, hnumber⟩, hlt⟩
  · rintro ⟨⟨text, htext, hnumber⟩, hlt⟩
    exact ⟨text, htext, hnumber, hlt⟩

/-- A number that fits a word of 64 bits has no more than 127. -/
theorem exists_narrow_iff {e : Element} (owner : String) {key : String} {v : Int} :
    (∃ text, e.attribute? key = some text ∧
        ∃ n, hexadecimal key owner text = .ok n ∧ narrow key owner n = .ok v) ↔
      HasHexadecimalWord e key v := by
  have hread : HasHexadecimal e key v ∧ v.natAbs < 2 ^ 127 ↔ _ :=
    (exists_hexadecimal_iff key owner).symm
  simp only [narrow_eq_ok_iff, Numeral.fitsSigned_iff 63]
  constructor
  · rintro ⟨text, htext, _, hnumber, rfl, hfits⟩
    exact ⟨(hread.mpr ⟨text, htext, hnumber⟩).1, hfits⟩
  · rintro ⟨hnumber, hfits⟩
    obtain ⟨text, htext, hnumber⟩ := hread.mp ⟨hnumber, by omega⟩
    exact ⟨text, htext, v, hnumber, rfl, hfits⟩

theorem addressAttribute_eq_ok_iff {e : Element} {owner key : String} {v : Int} :
    addressAttribute e owner key = .ok v ↔ HasHexadecimalWord e key v := by
  simp only [addressAttribute, bind_eq_ok_iff, require_eq_ok_iff, exists_narrow_iff]

/-! ### Fields -/

/-- What an element says about a field, its numbers as they are read. -/
structure FieldAttributes where
  id : String
  /-- The lowest bit. -/
  lowest : Int
  width : Int
  /-- The highest bit. -/
  highest : Int
  description : String
  code : String
  reset : Int

/-- The element says so. -/
structure FieldAttributes.Of (a : FieldAttributes) (e : Element) : Prop where
  id : e.attribute? "id" = some a.id
  lowest : HasDecimal e "end" a.lowest
  width : HasDecimal e "width" a.width
  highest : HasDecimal e "begin" a.highest
  description : e.attribute? "description" = some a.description
  code : e.attribute? "rwaccess" = some a.code
  reset : HasHexadecimal e "resetval" a.reset

/-- What is said makes a field: it has a name, its bits are counted in the same way twice, the code is one
of those for an access, and the reset value fits the bits. -/
structure FieldAttributes.Agree (a : FieldAttributes) : Prop where
  named : a.id ≠ ""
  lowest_nonneg : 0 ≤ a.lowest
  width_pos : 1 ≤ a.width
  range : a.highest - a.lowest = a.width - 1
  code_mem : a.code ∈ ["R", "RO", "W", "WO", "RW", ""]
  reset_nonneg : 0 ≤ a.reset
  reset_lt : a.reset < 2 ^ min a.width.toNat 64

/-- The field has what is said, and takes exactly the bits from the lowest to the highest. -/
structure FieldAttributes.Give (a : FieldAttributes) (f : Bitfield) : Prop where
  name_eq : f.name = a.id
  description_eq : f.description = Text.trim a.description
  bitOffset_eq : (f.bitOffset : Int) = a.lowest
  bitEnd_eq : (f.bitEnd : Int) = a.highest + 1
  bitWidth_eq : (f.bitWidth : Int) = a.width
  access_eq : Access.ofCode? a.code = some f.access
  resetValue_eq : (f.resetValue : Int) = a.reset

theorem access_eq_ok_iff {code owner : String} {a : Access} :
    access code owner = .ok a ↔ Access.ofCode? code = some a := by
  unfold access
  split
  · next b h => simp [h]
  · next h => simp [h]

/-- An empty code is one for an access as well, while other spellings are none. -/
theorem exists_ofCode?_iff {code : String} :
    (∃ a, Access.ofCode? code = some a) ↔ code ∈ ["R", "RO", "W", "WO", "RW", ""] := by
  simp only [Access.ofCode?, List.mem_cons, List.not_mem_nil, or_false]
  split_ifs <;> simp <;> tauto

theorem describe_eq_ok_iff {e : Element} {description : String} :
    describe e = .ok description ↔
      ∃ text, e.attribute? "description" = some text ∧ Text.trim text = description := by
  simp only [describe, bind_eq_ok_iff, require_eq_ok_iff, pure_eq_ok_iff]

theorem toNat_lt_resetLimit_iff {reset : Int} (hreset : 0 ≤ reset) (width : Nat) :
    reset.toNat < Bitfield.resetLimit width ↔ reset < 2 ^ min width 64 := by
  obtain ⟨n, rfl⟩ := Int.eq_ofNat_of_zero_le hreset
  rw [Int.toNat_natCast]
  exact_mod_cast Iff.rfl

/-- A value that fits its bits fits the 127 bits that are read. -/
theorem FieldAttributes.Agree.natAbs_reset_lt {a : FieldAttributes} (h : a.Agree) :
    a.reset.natAbs < 2 ^ 127 := by
  have hpow : (2 : Int) ^ min a.width.toNat 64 ≤ 2 ^ 64 :=
    pow_le_pow_right₀ (by decide) (Nat.min_le_right _ _)
  have hlt := h.reset_lt
  have hnonneg := h.reset_nonneg
  omega

/-- What is said gives one field. -/
theorem FieldAttributes.Agree.give_iff {a : FieldAttributes} (h : a.Agree) {f : Bitfield} :
    a.Give f ↔ ∃ access, Access.ofCode? a.code = some access ∧
      f = ⟨a.id, Text.trim a.description, a.lowest.toNat, a.width.toNat, access,
        a.reset.toNat⟩ := by
  have hlowest := h.lowest_nonneg
  have hwidth := h.width_pos
  have hrange := h.range
  have hreset := h.reset_nonneg
  constructor
  · intro hgive
    refine ⟨f.access, hgive.access_eq, ?_⟩
    rw [← hgive.name_eq, ← hgive.description_eq, ← hgive.bitOffset_eq, ← hgive.bitWidth_eq,
      ← hgive.resetValue_eq]
    rfl
  · rintro ⟨access, haccess, rfl⟩
    exact
      { name_eq := rfl
        description_eq := rfl
        bitOffset_eq := Int.toNat_of_nonneg hlowest
        bitEnd_eq := by
          show ((a.lowest.toNat + a.width.toNat : Nat) : Int) = a.highest + 1
          omega
        bitWidth_eq := Int.toNat_of_nonneg (by omega)
        access_eq := haccess
        resetValue_eq := Int.toNat_of_nonneg hreset }

/-- A field is read off an element exactly if what the element says makes a field, and then it is the one
that is said. -/
theorem bitfield_eq_ok_iff {e : Element} {f : Bitfield} :
    bitfield e = .ok f ↔ ∃ a : FieldAttributes, a.Of e ∧ a.Agree ∧ a.Give f := by
  simp only [bitfield, bind_eq_ok_iff, exists_unit_iff, ensure_eq_ok_iff, require_eq_ok_iff,
    decimalAttribute_eq_ok_iff, describe_eq_ok_iff, access_eq_ok_iff, checked_eq_ok_iff,
    Bitfield.validate_eq_ok_iff]
  constructor
  · rintro ⟨id, hid, lowest, hlowest, width, hwidth, highest, hhighest, hrange, _,
      ⟨description, hdescription, rfl⟩, code, hcode, access, haccess, text, htext, reset, hreset,
      hname, hnonneg, hpos, hreset_nonneg, hlimit, rfl⟩
    obtain ⟨hhex, -⟩ := (exists_hexadecimal_iff "reset value" id).mp ⟨text, htext, hreset⟩
    have hagree : FieldAttributes.Agree ⟨id, lowest, width, highest, description, code, reset⟩ :=
      { named := hname
        lowest_nonneg := hnonneg
        width_pos := hpos
        range := hrange
        code_mem := exists_ofCode?_iff.mp ⟨access, haccess⟩
        reset_nonneg := hreset_nonneg
        reset_lt := (toNat_lt_resetLimit_iff hreset_nonneg _).mp hlimit }
    exact ⟨_, ⟨hid, hlowest, hwidth, hhighest, hdescription, hcode, hhex⟩, hagree,
      hagree.give_iff.mpr ⟨access, haccess, rfl⟩⟩
  · rintro ⟨a, hof, hagree, hgive⟩
    obtain ⟨access, haccess, rfl⟩ := hagree.give_iff.mp hgive
    -- Reading the reset value takes a bound of its own, which its bits give.
    obtain ⟨text, htext, hreset⟩ := (exists_hexadecimal_iff "reset value" a.id).mpr
      ⟨hof.reset, hagree.natAbs_reset_lt⟩
    have hlimit := (toNat_lt_resetLimit_iff hagree.reset_nonneg a.width.toNat).mpr hagree.reset_lt
    exact ⟨a.id, hof.id, _, hof.lowest, _, hof.width, _, hof.highest, hagree.range, _,
      ⟨_, hof.description, rfl⟩, _, hof.code, _, haccess, _, htext, _, hreset, hagree.named,
      hagree.lowest_nonneg, hagree.width_pos, hagree.reset_nonneg, hlimit, rfl⟩

theorem exists_bitfield_iff {e : Element} :
    (∃ f, bitfield e = .ok f) ↔ ∃ a : FieldAttributes, a.Of e ∧ a.Agree := by
  simp only [bitfield_eq_ok_iff]
  constructor
  · rintro ⟨f, a, hof, hagree, -⟩
    exact ⟨a, hof, hagree⟩
  · rintro ⟨a, hof, hagree⟩
    obtain ⟨access, haccess⟩ := exists_ofCode?_iff.mpr hagree.code_mem
    exact ⟨_, a, hof, hagree, hagree.give_iff.mpr ⟨access, haccess, rfl⟩⟩

/-! ### Instances -/

/-- What an element says about an instance, its numbers as they are read. -/
structure PlacementAttributes where
  id : String
  /-- The first address. -/
  first : Int
  size : Int
  /-- The last address, if the element gives it. -/
  last? : Option Int

/-- The element says so. -/
structure PlacementAttributes.Of (a : PlacementAttributes) (e : Element) : Prop where
  id : e.attribute? "id" = some a.id
  first : HasHexadecimalWord e "baseaddr" a.first
  size : HasHexadecimalWord e "size" a.size
  last : (e.attribute? "endaddr" = none ∧ a.last? = none) ∨
    ∃ last, a.last? = some last ∧ HasHexadecimalWord e "endaddr" last

/-- What is said makes an instance of the definition: it has a name, its addresses are counted in the same
way twice where they are given twice, and its number, if its name has one, is an index. -/
structure PlacementAttributes.Agree (a : PlacementAttributes) (definition : String) : Prop where
  named : a.id ≠ ""
  first_nonneg : 0 ≤ a.first
  size_pos : 1 ≤ a.size
  range : ∀ last ∈ a.last?, last - a.first = a.size - 1
  index : ∀ index ∈ instanceIndex? a.id definition, 0 ≤ index ∧ index ≤ 65535

/-- The instance has what is said, and takes exactly the addresses from the first to the last. -/
structure PlacementAttributes.Give (a : PlacementAttributes) (definition : String) (i : Instance) :
    Prop where
  name_eq : i.name = a.id
  index_eq : i.index = (instanceIndex? a.id definition).map Int.toNat
  address_eq : (i.address : Int) = a.first
  size_eq : (i.size : Int) = a.size
  endAddress_eq : (i.endAddress : Int) = a.last?.getD (a.first + a.size - 1)

/-- The last address is taken from the element if it gives one, and is computed otherwise. -/
theorem lastAddress_eq_ok_iff {e : Element} {name : String} {first size last : Int} :
    lastAddress e name first size = .ok last ↔
      (e.attribute? "endaddr" = none ∧ last = first + size - 1) ∨ HasHexadecimalWord e "endaddr" last := by
  rw [← exists_narrow_iff name, lastAddress]
  cases htext : e.attribute? "endaddr" with
  | none => simp [eq_comm]
  | some text => simp [bind_eq_ok_iff]

theorem PlacementAttributes.Agree.give_iff {a : PlacementAttributes} {definition : String}
    (h : a.Agree definition) {i : Instance} :
    a.Give definition i ↔
      i = ⟨a.id, (instanceIndex? a.id definition).map Int.toNat, a.first.toNat, a.size.toNat⟩ := by
  have hfirst := h.first_nonneg
  have hsize := h.size_pos
  constructor
  · intro hgive
    rw [← hgive.index_eq, ← hgive.name_eq, ← hgive.address_eq, ← hgive.size_eq]
    rfl
  · rintro rfl
    refine
      { name_eq := rfl
        index_eq := rfl
        address_eq := Int.toNat_of_nonneg hfirst
        size_eq := Int.toNat_of_nonneg (by omega)
        endAddress_eq := ?_ }
    -- The last address is not kept in an instance, but follows from the size.
    show ((a.first.toNat + (a.size.toNat - 1) : Nat) : Int) = _
    cases hlast : a.last? with
    | none =>
        rw [Option.getD_none]
        omega
    | some last =>
        have hrange := h.range last hlast
        rw [Option.getD_some]
        omega

/-- An instance is read off an element exactly if what the element says makes one of the definition, and
then it is the one that is said. -/
theorem placement_eq_ok_iff {definition : String} {e : Element} {i : Instance} :
    placement definition e = .ok i ↔
      ∃ a : PlacementAttributes, a.Of e ∧ a.Agree definition ∧ a.Give definition i := by
  simp only [placement, bind_eq_ok_iff, exists_unit_iff, ensure_eq_ok_iff, require_eq_ok_iff,
    addressAttribute_eq_ok_iff, lastAddress_eq_ok_iff, checked_eq_ok_iff,
    Instance.validate_eq_ok_iff]
  constructor
  · rintro ⟨id, hid, first, hfirst, size, hsize, last, hlast, hrange, hname, hindex, hnonneg, hpos,
      rfl⟩
    have hindex' : ∀ index ∈ instanceIndex? id definition, 0 ≤ index ∧ index ≤ 65535 := by
      intro index hmem
      obtain ⟨hnonneg, hle⟩ := hindex index hmem
      unfold maxIndex at hle
      omega
    -- Whether the last address was computed or read is not to be seen from its value.
    rcases hlast with ⟨hnone, rfl⟩ | hlast
    · have hagree : PlacementAttributes.Agree ⟨id, first, size, none⟩ definition :=
        ⟨hname, hnonneg, hpos, by simp, hindex'⟩
      exact ⟨_, ⟨hid, hfirst, hsize, .inl ⟨hnone, rfl⟩⟩, hagree, hagree.give_iff.mpr rfl⟩
    · have hagree : PlacementAttributes.Agree ⟨id, first, size, some last⟩ definition :=
        ⟨hname, hnonneg, hpos, by simpa using hrange, hindex'⟩
      exact ⟨_, ⟨hid, hfirst, hsize, .inr ⟨last, rfl, hlast⟩⟩, hagree, hagree.give_iff.mpr rfl⟩
  · rintro ⟨a, hof, hagree, hgive⟩
    obtain rfl := hagree.give_iff.mp hgive
    have hindex : ∀ index ∈ instanceIndex? a.id definition, 0 ≤ index ∧ index.toNat ≤ maxIndex := by
      intro index hmem
      obtain ⟨hnonneg, hle⟩ := hagree.index index hmem
      unfold maxIndex
      omega
    -- Without a last address of its own the instance has the one that its size gives it.
    have hlast : ∃ last, ((e.attribute? "endaddr" = none ∧ last = a.first + a.size - 1) ∨
        HasHexadecimalWord e "endaddr" last) ∧ last - a.first = a.size - 1 := by
      rcases hof.last with ⟨hnone, -⟩ | ⟨last, hsome, haddress⟩
      · exact ⟨a.first + a.size - 1, .inl ⟨hnone, rfl⟩, by omega⟩
      · exact ⟨last, .inr haddress, hagree.range last hsome⟩
    obtain ⟨last, hlast, hrange⟩ := hlast
    exact ⟨a.id, hof.id, _, hof.first, _, hof.size, last, hlast, hrange, hagree.named, hindex,
      hagree.first_nonneg, hagree.size_pos, rfl⟩

theorem exists_placement_iff {definition : String} {e : Element} :
    (∃ i, placement definition e = .ok i) ↔
      ∃ a : PlacementAttributes, a.Of e ∧ a.Agree definition := by
  simp only [placement_eq_ok_iff]
  constructor
  · rintro ⟨i, a, hof, hagree, -⟩
    exact ⟨a, hof, hagree⟩
  · rintro ⟨a, hof, hagree⟩
    exact ⟨_, a, hof, hagree, hagree.give_iff.mpr rfl⟩

/-- A field and an instance are read off an element exactly if what it says of them twice agrees, and take
the range that it says. -/
theorem parts_agree_with_attributes (e : Element) :
    ((∃ f, bitfield e = .ok f) ↔ ∃ a : FieldAttributes, a.Of e ∧ a.Agree) ∧
      (∀ f, bitfield e = .ok f ↔ ∃ a : FieldAttributes, a.Of e ∧ a.Agree ∧ a.Give f) ∧
      ∀ definition,
        ((∃ i, placement definition e = .ok i) ↔
          ∃ a : PlacementAttributes, a.Of e ∧ a.Agree definition) ∧
        ∀ i, placement definition e = .ok i ↔
          ∃ a : PlacementAttributes, a.Of e ∧ a.Agree definition ∧ a.Give definition i :=
  ⟨exists_bitfield_iff, fun _ => bitfield_eq_ok_iff,
    fun _ => ⟨exists_placement_iff, fun _ => placement_eq_ok_iff⟩⟩

end Description
end RegisterMap
