import RegisterMap.Machine
import RegisterMap.Proofs.Gathering
import RegisterMap.Proofs.HandleArrays
import RegisterMap.Proofs.NumberText
import RegisterMap.Proofs.OffsetGroup
import RegisterMap.Proofs.PartAttributes
import RegisterMap.Proofs.Validation

/-!
# Words are wide enough

Where the numbers of a draft are those of a signed word of 64 bits, and its reset value one of 128 bits,
no operation of the computations in words leaves its word: each of them gives what the model says
(`Machine.Exact`).

Positions, sizes and addresses that pass their checks are below `2 ^ 63`, so that the sum of two of them
is below `2 ^ 64`.  The loops need more than that only for the number of the next unused part, which
grows by one with each gap: since gaps are at different positions, it is bounded by those.
-/

namespace RegisterMap

/-! ### Numbers in words -/

/-- The numbers of the draft are numbers of their words. -/
structure Bitfield.Draft.InWords (d : Bitfield.Draft) : Prop where
  bitOffset : Numeral.fitsSigned 64 d.bitOffset = true
  bitWidth : Numeral.fitsSigned 64 d.bitWidth = true
  resetValue : Numeral.fitsSigned 128 d.resetValue = true

/-- The field was made from a draft in words. -/
def Bitfield.InWords (f : Bitfield) : Prop :=
  ∃ d : Draft, d.InWords ∧ d.validate = .ok f

/-- The numbers of the draft are numbers of their words, as are those of its fields. -/
structure Register.Draft.InWords (d : Register.Draft) : Prop where
  bitWidth : Numeral.fitsSigned 64 d.bitWidth = true
  addressOffset : Numeral.fitsSigned 64 d.addressOffset = true
  bitfields : ∀ f ∈ d.bitfields, f.InWords

/-- The register was made from a draft in words. -/
def Register.InWords (r : Register) : Prop :=
  ∃ d : Draft, d.InWords ∧ d.validate = .ok r

/-- The numbers of the draft are numbers of their words. -/
structure Instance.Draft.InWords (d : Instance.Draft) : Prop where
  index : ∀ index ∈ d.index, Numeral.fitsSigned 64 index = true
  address : Numeral.fitsSigned 64 d.address = true
  size : Numeral.fitsSigned 64 d.size = true

/-- The instance was made from a draft in words. -/
def Instance.InWords (i : Instance) : Prop :=
  ∃ d : Draft, d.InWords ∧ d.validate = .ok i

/-- The registers and instances of the draft were made from drafts in words. -/
structure Peripheral.Draft.InWords (d : Peripheral.Draft) : Prop where
  registers : ∀ r ∈ d.registers, r.InWords
  instances : ∀ i ∈ d.instances, i.InWords

/-- The peripheral was made from a draft in words. -/
def Peripheral.InWords (p : Peripheral) : Prop :=
  ∃ d : Draft, d.InWords ∧ d.validate = .ok p

theorem toNat_lt_of_fitsSigned {value : Int} (h : Numeral.fitsSigned 64 value = true) :
    value.toNat < 2 ^ 63 := by
  have := ((Numeral.fitsSigned_iff 63).mp h).2
  omega

namespace Bitfield

variable {f : Bitfield}

theorem InWords.bitOffset_lt (h : f.InWords) : f.bitOffset < 2 ^ 63 := by
  obtain ⟨d, hwords, hd⟩ := h
  obtain ⟨-, -, -, -, -, rfl⟩ := validate_eq_ok_iff.mp hd
  exact toNat_lt_of_fitsSigned hwords.bitOffset

theorem InWords.bitWidth_lt (h : f.InWords) : f.bitWidth < 2 ^ 63 := by
  obtain ⟨d, hwords, hd⟩ := h
  obtain ⟨-, -, -, -, -, rfl⟩ := validate_eq_ok_iff.mp hd
  exact toNat_lt_of_fitsSigned hwords.bitWidth

end Bitfield

namespace Register

variable {r : Register}

theorem InWords.wellFormed (h : r.InWords) : r.WellFormed := by
  obtain ⟨d, hwords, hd⟩ := h
  refine Validated.wellFormed ⟨d, fun f hf => ?_, hd⟩
  obtain ⟨draft, -, hdraft⟩ := hwords.bitfields f hf
  exact ⟨draft, hdraft⟩

theorem InWords.addressOffset_lt (h : r.InWords) : r.addressOffset < 2 ^ 63 := by
  obtain ⟨d, hwords, hd⟩ := h
  obtain ⟨-, -, -, -, -, -, -, rfl⟩ := validate_eq_ok_iff.mp hd
  exact toNat_lt_of_fitsSigned hwords.addressOffset

theorem InWords.bitfields (h : r.InWords) : ∀ f ∈ r.bitfields, f.InWords := by
  obtain ⟨d, hwords, hd⟩ := h
  obtain ⟨-, -, -, -, -, -, -, rfl⟩ := validate_eq_ok_iff.mp hd
  exact fun f hf => hwords.bitfields f ((isStableSort_sortFields d.bitfields).perm.mem_iff.mp hf)

/-- Of the numbers of a register its width alone is bounded by more than its word: there are only four
widths. -/
theorem InWords.byteWidth_bounds (h : r.InWords) : 1 ≤ r.byteWidth ∧ r.byteWidth ≤ 8 :=
  div_eight_of_mem_widths r.bitWidth h.wellFormed.bitWidth_mem

end Register

namespace Instance

variable {i : Instance}

theorem InWords.wellFormed (h : i.InWords) : i.WellFormed := by
  obtain ⟨d, -, hd⟩ := h
  exact Validated.wellFormed ⟨d, hd⟩

theorem InWords.address_lt (h : i.InWords) : i.address < 2 ^ 63 := by
  obtain ⟨d, hwords, hd⟩ := h
  obtain ⟨-, -, -, -, rfl⟩ := validate_eq_ok_iff.mp hd
  exact toNat_lt_of_fitsSigned hwords.address

theorem InWords.size_lt (h : i.InWords) : i.size < 2 ^ 63 := by
  obtain ⟨d, hwords, hd⟩ := h
  obtain ⟨-, -, -, -, rfl⟩ := validate_eq_ok_iff.mp hd
  exact toNat_lt_of_fitsSigned hwords.size

end Instance

namespace Peripheral

variable {p : Peripheral}

theorem InWords.registers (h : p.InWords) : ∀ r ∈ p.registers, r.InWords := by
  obtain ⟨d, hwords, hd⟩ := h
  obtain ⟨-, -, -, -, rfl⟩ := validate_eq_ok_iff.mp hd
  exact fun r hr =>
    hwords.registers r ((isStableSort_sortRegisters d.registers).perm.mem_iff.mp hr)

theorem InWords.instances (h : p.InWords) : ∀ i ∈ p.instances, i.InWords := by
  obtain ⟨d, hwords, hd⟩ := h
  obtain ⟨-, -, -, -, rfl⟩ := validate_eq_ok_iff.mp hd
  exact fun i hi =>
    hwords.instances i ((isStableSort_sortInstances d.instances).perm.mem_iff.mp hi)

theorem InWords.registers_ordered (h : p.InWords) :
    p.registers.Pairwise fun r s => r.addressOffset ≤ s.addressOffset := by
  obtain ⟨d, -, hd⟩ := h
  obtain ⟨-, -, -, -, rfl⟩ := validate_eq_ok_iff.mp hd
  exact (isStableSort_sortRegisters d.registers).ordered

theorem InWords.indices_nodup (h : p.InWords) : (p.instances.filterMap Instance.index).Nodup := by
  obtain ⟨d, -, hd⟩ := h
  obtain ⟨-, -, hnodup, -, rfl⟩ := validate_eq_ok_iff.mp hd
  have hperm := (isStableSort_sortInstances d.instances).perm
  exact (hperm.filterMap Instance.index).nodup_iff.mpr hnodup

end Peripheral

namespace Machine

open Markup (Element)

/-! ### Steps and operations -/

section

variable {ε α β : Type}

theorem operate_bind {result : Option α} {a : α} (h : result = some a) (f : α → Machine ε β) :
    (operate result >>= f) = f a := by
  subst h
  rfl

/-- A sequence in words comes out as the model's if each of its steps does. -/
theorem bind_eq_step {m : Machine ε α} {result : Except ε α} {f : α → Machine ε β}
    {g : α → Except ε β} (hm : m = step result) (hf : ∀ a, result = .ok a → f a = step (g a)) :
    (m >>= f) = step (result >>= g) := by
  subst hm
  cases result with
  | error e => rfl
  | ok a => exact hf a rfl

/-- The parts of a list are read one after the other, and the first that fails ends the reading in both.
-/
theorem mapM_eq_step {f : α → Machine ε β} {g : α → Except ε β} (h : ∀ a, f a = step (g a))
    (as : List α) : as.mapM f = step (as.mapM g) := by
  induction as with
  | nil => rfl
  | cons a as ih =>
      rw [List.mapM_cons, List.mapM_cons]
      refine bind_eq_step (h a) fun b _ => ?_
      exact bind_eq_step ih fun bs _ => rfl

theorem checked_eq_step {m : Machine Violation α} {result : Except Violation α}
    (h : m = step result) : checked m = step (Description.checked result) := by
  subst h
  rfl

theorem ensure_congr {p q : Prop} [Decidable p] [Decidable q] (h : p ↔ q) (e : ε) :
    ensure p e = ensure q e := by
  unfold ensure
  simp only [h]

end

theorem fitsUnsigned_word_iff {n : Nat} : Numeral.fitsUnsigned 64 n = true ↔ n < 2 ^ 64 := by
  have hsize : Numeral.wordSize 64 = 2 ^ 64 := rfl
  rw [Numeral.fitsUnsigned, hsize, decide_eq_true_eq]

theorem add_eq {a b : Nat} (h : a + b < 2 ^ 64) : add a b = some (a + b) :=
  if_pos (fitsUnsigned_word_iff.mpr h)

theorem sub_eq {a b : Nat} (h : b ≤ a) : sub a b = some (a - b) :=
  if_pos h

theorem mod_eq {a b : Nat} (h : b ≠ 0) : mod a b = some (a % b) :=
  if_neg h

theorem wide_eq {value : Int} (hlow : -2 ^ 127 ≤ value) (hhigh : value < 2 ^ 127) :
    wide value = some value :=
  if_pos ((Numeral.fitsSigned_iff 127).mpr ⟨hlow, hhigh⟩)

/-! ### Checks -/

theorem bitEnd_eq {f : Bitfield} (h : f.InWords) : bitEnd f = some f.bitEnd := by
  have hoffset := h.bitOffset_lt
  have hwidth := h.bitWidth_lt
  exact add_eq (by omega)

theorem endOffset_eq {r : Register} (h : r.InWords) : endOffset r = some r.endOffset := by
  have hoffset := h.addressOffset_lt
  have hwidth := h.byteWidth_bounds.2
  exact add_eq (by omega)

/-- The size of an instance is positive, so that nothing goes below zero where its last address is formed.
-/
theorem endAddress_eq {i : Instance} (h : i.InWords) : endAddress i = some i.endAddress := by
  have haddress := h.address_lt
  have hsize := h.size_lt
  rw [endAddress, sub_eq h.wellFormed.size_pos]
  exact add_eq (by omega)

/-- The one that is shifted leaves the word for widths from 127 on.  For these the comparison is not made.
-/
theorem exceedsWidth_eq (width : Nat) (value : Int) :
    exceedsWidth width value =
      some (decide (width < 127 ∧ (Numeral.wordSize width : Int) ≤ value)) := by
  unfold exceedsWidth
  split
  · next hwidth =>
    have hlt : Numeral.wordSize width < 2 ^ 127 := Nat.pow_lt_pow_right (by decide) hwidth
    rw [shiftOne, wide_eq (by omega) (by omega)]
    simp [hwidth]
  · next hwidth => simp [hwidth]

/-- A value fits its field if it is one of a word and none that the shifted one rules out. -/
theorem fits_iff {value : Int} (hvalue : 0 ≤ value) (width : Nat) :
    (Numeral.fitsUnsigned 64 value.toNat = true ∧
        decide (width < 127 ∧ (Numeral.wordSize width : Int) ≤ value) = false) ↔
      value.toNat < Bitfield.resetLimit width := by
  rw [fitsUnsigned_word_iff, decide_eq_false_iff_not, Bitfield.resetLimit]
  by_cases hwidth : width ≤ 64
  · have hle : Numeral.wordSize width ≤ 2 ^ 64 := Nat.pow_le_pow_right (by decide) hwidth
    rw [Nat.min_eq_left hwidth]
    omega
  -- Beyond the word the limit is that of the word, which the first of the two tests has seen to.
  · have hsize : Numeral.wordSize 64 = 2 ^ 64 := rfl
    have hle : 2 ^ 64 ≤ Numeral.wordSize width := Nat.pow_le_pow_right (by decide) (by omega)
    rw [Nat.min_eq_right (by omega), hsize]
    omega

/-- Nothing is assumed of the draft: a width that is too large for the shift is passed over, and all other
checks compare without computing. -/
theorem validateField_eq (d : Bitfield.Draft) : validateField d = step d.validate := by
  unfold validateField Bitfield.Draft.validate
  refine bind_eq_step rfl fun _ _ => ?_
  refine bind_eq_step rfl fun bitOffset _ => ?_
  refine bind_eq_step rfl fun bitWidth _ => ?_
  refine bind_eq_step rfl fun _ _ => ?_
  refine bind_eq_step rfl fun _ hreset => ?_
  have hreset := (ensure_eq_ok_iff _ _).mp hreset
  rw [operate_bind (exceedsWidth_eq bitWidth d.resetValue)]
  refine bind_eq_step ?_ fun _ _ => rfl
  rw [ensure_congr (fits_iff hreset bitWidth)]

theorem checkFields_eq (owner : String) (reached : Nat) {fields : List Bitfield}
    (h : ∀ f ∈ fields, f.InWords) :
    checkFields owner reached fields = step (Register.checkFields owner reached fields) := by
  induction fields generalizing reached with
  | nil => rfl
  | cons f rest ih =>
      rw [List.forall_mem_cons] at h
      rw [checkFields, Register.checkFields]
      split
      · rfl
      · rw [operate_bind (bitEnd_eq h.1)]
        exact ih f.bitEnd h.2

/-- The offset is divided by the width in bytes only after the width is known to be one of those allowed,
none of which is less than a byte. -/
theorem validateRegister_eq {d : Register.Draft} (h : d.InWords) :
    validateRegister d = step d.validate := by
  have hfields : ∀ f ∈ Register.sortFields d.bitfields, f.InWords := fun f hf =>
    h.bitfields f ((Register.isStableSort_sortFields d.bitfields).perm.mem_iff.mp hf)
  unfold validateRegister Register.Draft.validate
  refine bind_eq_step rfl fun _ _ => ?_
  refine bind_eq_step rfl fun bitWidth hwidth => ?_
  refine bind_eq_step rfl fun addressOffset _ => ?_
  -- The divisor is known not to be zero from the check that came before.
  obtain ⟨-, hmem, rfl⟩ := Register.checkWidth_eq_ok_iff.mp hwidth
  have hdivisor := (Register.div_eight_of_mem_widths _ hmem).1
  rw [operate_bind (mod_eq (by omega))]
  refine bind_eq_step rfl fun _ _ => ?_
  refine bind_eq_step (checkFields_eq d.name 0 hfields) fun reached _ => ?_
  exact bind_eq_step rfl fun _ _ => rfl

theorem checkExtent_eq (owner : String) (size : Nat) {registers : List Register}
    (h : ∀ r ∈ registers, r.InWords) :
    checkExtent owner size registers = step (Peripheral.checkExtent owner size registers) := by
  induction registers with
  | nil => rfl
  | cons r rest ih =>
      rw [List.forall_mem_cons] at h
      rw [checkExtent, operate_bind (endOffset_eq h.1), Peripheral.checkExtent, List.find?_cons]
      by_cases hbeyond : size < r.endOffset
      · rw [if_pos hbeyond, decide_eq_true hbeyond]
      · rw [if_neg hbeyond, decide_eq_false hbeyond, ih h.2, Peripheral.checkExtent]

theorem checkPlacement_eq (owner : String) {registers : List Register} (instances : List Instance)
    (h : ∀ r ∈ registers, r.InWords) :
    checkPlacement owner registers instances =
      step (Peripheral.checkPlacement owner registers instances) := by
  cases instances with
  | nil => rfl
  | cons first rest => exact bind_eq_step rfl fun _ _ => checkExtent_eq owner first.size h

theorem validatePeripheral_eq {d : Peripheral.Draft} (h : d.InWords) :
    validatePeripheral d = step d.validate := by
  have hregisters : ∀ r ∈ Peripheral.sortRegisters d.registers, r.InWords := fun r hr =>
    h.registers r ((Peripheral.isStableSort_sortRegisters d.registers).perm.mem_iff.mp hr)
  unfold validatePeripheral Peripheral.Draft.validate
  refine bind_eq_step rfl fun _ _ => ?_
  exact bind_eq_step (checkPlacement_eq d.name _ hregisters) fun _ _ => rfl

/-! ### Layouts -/

/-- No more slots are unused before the cursor than there are bits. -/
theorem bitSlots_eq (width : Nat) {cursor index : Nat} {fields : List Bitfield}
    (hindex : index ≤ cursor) (hwords : ∀ f ∈ fields, f.InWords)
    (hcursor : ∀ f ∈ fields, cursor ≤ f.bitOffset)
    (hordered : fields.Pairwise fun f g => f.bitEnd ≤ g.bitOffset) :
    bitSlots width cursor index fields = some (RegisterMap.bitSlots width cursor index fields) := by
  induction fields generalizing cursor index with
  | nil =>
      rw [bitSlots, RegisterMap.bitSlots]
      split
      · next hgap =>
        rw [sub_eq (Nat.le_of_lt hgap)]
        rfl
      · rfl
  | cons f rest ih =>
      rw [List.forall_mem_cons] at hwords hcursor
      obtain ⟨hnext, hordered⟩ := List.pairwise_cons.mp hordered
      have hoffset := hwords.1.bitOffset_lt
      have hreached : f.bitOffset ≤ f.bitEnd := Nat.le_add_right _ _
      -- The number of the next slot grows by one only where the cursor moves by one at least.
      rw [bitSlots, RegisterMap.bitSlots, bitEnd_eq hwords.1]
      split
      · next hgap =>
        have hrest := ih (show index + 1 ≤ f.bitEnd by omega) hwords.2 hnext hordered
        rw [sub_eq (Nat.le_of_lt hgap), add_eq (show index + 1 < 2 ^ 64 by omega)]
        simp only [Option.bind_eq_bind, Option.bind_some, hrest]
        rfl
      · have hrest := ih (show index ≤ f.bitEnd by omega) hwords.2 hnext hordered
        simp only [Option.bind_eq_bind, Option.bind_some, hrest]
        rfl

theorem bitLayout_eq {r : Register} (h : r.InWords) : bitLayout r = some r.bitLayout :=
  bitSlots_eq r.bitWidth (Nat.le_refl 0) h.bitfields (fun _ _ => Nat.zero_le _) h.wellFormed.ordered

/-- No padding so far has a larger number than the least offset that the groups to come may have.  The
cursor would not do as a bound: it moves back where registers overlap. -/
theorem place_eq (peripheral : String) (size? : Option Nat) (cursor : Nat) {index least : Nat}
    {groups : List (Register × List Register)} (hindex : index ≤ least)
    (hwords : ∀ g ∈ groups, g.1.InWords) (hleast : ∀ g ∈ groups, least ≤ g.1.addressOffset)
    (hincreasing : groups.Pairwise fun g h => g.1.addressOffset < h.1.addressOffset) :
    place peripheral size? cursor index groups =
      some (ByteLayout.place peripheral (size?.getD 0) cursor index groups) := by
  induction groups generalizing cursor index least with
  | nil =>
      cases size? with
      | none => simp [place, ByteLayout.place, ByteLayout.padding]
      | some size =>
          by_cases hgap : cursor < size
          · simp [place, ByteLayout.place, ByteLayout.padding, hgap, sub_eq (Nat.le_of_lt hgap),
              Nat.max_eq_right (Nat.le_of_lt hgap)]
          · simp [place, ByteLayout.place, ByteLayout.padding, hgap,
              Nat.max_eq_left (Nat.le_of_not_lt hgap)]
  | cons g groups ih =>
      obtain ⟨first, others⟩ := g
      simp only [List.forall_mem_cons, List.pairwise_cons] at hwords hleast hincreasing
      obtain ⟨hnext, hincreasing⟩ := hincreasing
      have hoffset := hwords.1.addressOffset_lt
      have hspan := hwords.1.byteWidth_bounds.2
      have hend : add first.addressOffset first.byteWidth =
          some (first.addressOffset + first.byteWidth) := add_eq (by omega)
      -- The groups that follow are beyond the offset of this one.
      have hrest := fun number (hnumber : number ≤ first.addressOffset + 1) =>
        ih (first.addressOffset + first.byteWidth) hnumber hwords.2 hnext hincreasing
      simp only [place, ByteLayout.place, ByteLayout.padding, Member.offset_ofGroup,
        Member.span_ofGroup, hend]
      by_cases hgap : cursor < first.addressOffset
      · have hnumber : add index 1 = some (index + 1) := add_eq (by omega)
        simp [hgap, sub_eq (Nat.le_of_lt hgap), hnumber, hrest (index + 1) (by omega)]
      · simp [hgap, hrest index (by omega)]

theorem byteLayout_eq {p : Peripheral} (h : p.InWords) : byteLayout p = some p.byteLayout := by
  have hgrouping := isOffsetGrouping_groupByOffset h.registers_ordered
  exact place_eq p.name p.instanceSize? 0 (Nat.le_refl 0)
    (fun g hg => h.registers g.1 (hgrouping.first_mem hg)) (fun _ _ => Nat.zero_le _)
    hgrouping.increasing

/-! ### Handles -/

/-- The slots after each of the instances is written into the one at its index. -/
def filled (slots : List (Option String)) (entries : List (Instance × Nat)) :
    List (Option String) :=
  entries.foldl (fun slots entry => slots.set entry.2 (some (Text.upper entry.1.name))) slots

theorem foldlM_put (slots : List (Option String)) {entries : List (Instance × Nat)}
    (h : ∀ entry ∈ entries, entry.2 < slots.length) :
    entries.foldlM (fun slots entry => put slots entry.2 (some (Text.upper entry.1.name))) slots =
      some (filled slots entries) := by
  induction entries generalizing slots with
  | nil => rfl
  | cons entry entries ih =>
      rw [List.forall_mem_cons] at h
      rw [List.foldlM_cons, put, if_pos h.1]
      exact ih _ (by simpa using h.2)

/-- An instance stays where it is written, since no other one has its index. -/
theorem getElem?_filled {instances : List Instance} {indices : List Nat}
    (h : instances.map Instance.index = indices.map some) (hnodup : indices.Nodup)
    {slots : List (Option String)} (hbelow : ∀ n ∈ indices, n < slots.length) (k : Nat) :
    (filled slots (instances.zip indices))[k]? =
      match instances.find? fun i => i.index == some k with
      | some i => some (some (Text.upper i.name))
      | none => slots[k]? := by
  induction instances generalizing indices slots with
  | nil => rfl
  | cons i instances ih =>
      cases indices with
      | nil => cases h
      | cons n indices =>
          obtain ⟨hindex, hrest⟩ := List.cons.inj h
          obtain ⟨hfresh, hnodup⟩ := List.nodup_cons.mp hnodup
          rw [List.forall_mem_cons] at hbelow
          have hbelow' : ∀ m ∈ indices, m < (slots.set n (some (Text.upper i.name))).length := by
            simpa using hbelow.2
          have hfilled := ih hrest hnodup hbelow'
          -- What is written first is overwritten only by an instance of the same index, and there is
          -- none.
          rw [List.zip_cons_cons, filled, List.foldl_cons, ← filled, hfilled, List.find?_cons,
            hindex]
          by_cases hk : n = k
          · subst hk
            have hnone : (instances.find? fun j => j.index == some n) = none := by
              rw [List.find?_eq_none]
              intro j hj hsame
              have hmem : j.index ∈ indices.map some := hrest ▸ List.mem_map_of_mem hj
              rw [beq_iff_eq.mp hsame] at hmem
              exact hfresh (by simpa using hmem)
            simp [hnone, hbelow.1]
          · have hother : (some n == some k) = false := by simpa using hk
            rw [hother, List.getElem?_set_ne hk]

/-- Writing the instances one after the other into empty slots gives what looking up each index among them
gives. -/
theorem slotsOf_eq {p : Peripheral} {indices : List Nat}
    (h : p.instances.mapM Instance.index = some indices) (hnodup : indices.Nodup)
    (hne : indices ≠ []) (hle : ∀ n ∈ indices, n ≤ maxIndex) :
    slotsOf p.instances indices = some (Header.HandleArray.slotsOf p.instances indices) := by
  obtain ⟨hlargest, hmax⟩ := Header.foldl_max_eq hne
  have hlength : add (indices.foldl max 0) 1 = some (indices.foldl max 0 + 1) := by
    have := hle _ hlargest
    unfold maxIndex at this
    exact add_eq (by omega)
  have hbelow : ∀ n ∈ indices,
      n < (List.replicate (indices.foldl max 0 + 1) (none : Option String)).length := by
    intro n hn
    rw [List.length_replicate]
    exact Nat.lt_succ_of_le (hmax n hn)
  have hentries : ∀ entry ∈ p.instances.zip indices,
      entry.2 < (List.replicate (indices.foldl max 0 + 1) (none : Option String)).length :=
    fun entry hentry => hbelow entry.2 (List.of_mem_zip hentry).2
  rw [slotsOf, hlength, Option.bind_eq_bind, Option.bind_some, foldlM_put _ hentries,
    Option.some.injEq]
  refine List.ext_getElem? fun k => ?_
  rw [getElem?_filled (Header.map_index_of_mapM h) hnodup hbelow, Header.HandleArray.slotsOf,
    List.getElem?_map]
  by_cases hk : k < indices.foldl max 0 + 1
  · rw [List.getElem?_range hk]
    cases hfind : p.instances.find? fun i => i.index == some k with
    | none => simp [hfind, hk]
    | some i => simp [hfind]
  · -- No instance has an index beyond the largest one.
    have hnone : (p.instances.find? fun i => i.index == some k) = none := by
      rw [List.find?_eq_none]
      intro i hi hindex
      have hmem := (Header.mem_indices_of_mapM h).mpr ⟨i, hi, beq_iff_eq.mp hindex⟩
      exact hk (Nat.lt_succ_of_le (hmax k hmem))
    simp [hnone, hk]

theorem index_le {p : Peripheral} (h : p.InWords) {indices : List Nat}
    (hindices : p.instances.mapM Instance.index = some indices) : ∀ n ∈ indices, n ≤ maxIndex := by
  intro n hn
  obtain ⟨i, hi, hindex⟩ := (Header.mem_indices_of_mapM hindices).mp hn
  exact (h.instances i hi).wellFormed.index_le n hindex

theorem handleArray?_eq {p : Peripheral} (h : p.InWords) :
    handleArray? p = some (Header.HandleArray.ofPeripheral? p) := by
  unfold handleArray? Header.HandleArray.ofPeripheral?
  cases hindices : p.instances.mapM Instance.index with
  | none => rfl
  | some indices =>
      have hnodup := h.indices_nodup
      rw [Header.filterMap_index_of_mapM hindices] at hnodup
      by_cases hseveral : 1 < indices.length
      · have hne : indices ≠ [] := List.ne_nil_of_length_pos (by omega)
        simp only [if_pos hseveral, slotsOf_eq hindices hnodup hne (index_le h hindices)]
        rfl
      · simp only [if_neg hseveral]

/-- An array has at most as many slots as there are indices. -/
theorem length_slots_le {p : Peripheral} (h : p.InWords) {a : Header.HandleArray}
    (ha : Header.HandleArray.ofPeripheral? p = some a) : a.slots.length ≤ 65536 := by
  unfold Header.HandleArray.ofPeripheral? at ha
  split at ha
  · cases ha
  · next indices hindices =>
    split at ha
    · next hseveral =>
      obtain rfl := Option.some.inj ha
      have hne : indices ≠ [] := List.ne_nil_of_length_pos (by omega)
      have hle := index_le h hindices _ (Header.foldl_max_eq hne).1
      unfold maxIndex at hle
      simp only [Header.HandleArray.slotsOf, List.length_map, List.length_range]
      omega
    · cases ha

/-! ### Reading -/

/-- The two tell a sign in a different place: the one before it reads, the other by not reading it as a
digit. -/
theorem magnitude?_eq (cs : List Char) :
    magnitude? cs = (Description.hexMagnitude? cs).map Int.ofNat := by
  have hfits : ∀ n : Nat, Numeral.fitsUnsigned 127 n = Numeral.fitsSigned 128 (n : Int) := by
    intro n
    have hsize : Numeral.wordSize 127 = 2 ^ 127 := rfl
    rw [Bool.eq_iff_iff, Numeral.fitsSigned_iff 127, Numeral.fitsUnsigned, decide_eq_true_eq, hsize]
    omega
  rw [magnitude?, Description.hexMagnitude?]
  by_cases hsign : (Description.withoutHexMark cs).head? = some '+' ∨
      (Description.withoutHexMark cs).head? = some '-'
  · -- A sign is no digit.
    rw [if_pos hsign]
    cases hread : Numeral.natural? 16 (Description.withoutHexMark cs) with
    | none => rfl
    | some n =>
        have hspells := (Numeral.natural?_eq_some_iff (by decide)).mp hread
        obtain ⟨hminus, hplus⟩ := hspells.head?_ne (by decide)
        exact absurd hsign (by simp [hminus, hplus])
  · rw [not_or] at hsign
    rw [if_neg (by simp [hsign])]
    ext v
    rw [Numeral.signed?, Option.filter_eq_some_iff, Numeral.integer?_unsigned 16 hsign.2 hsign.1,
      Option.map_eq_some_iff, Option.map_eq_some_iff]
    constructor
    · rintro ⟨⟨n, hn, rfl⟩, hv⟩
      exact ⟨n, Option.filter_eq_some_iff.mpr ⟨hn, (hfits n).trans hv⟩, rfl⟩
    · rintro ⟨n, hn, rfl⟩
      obtain ⟨hn, hv⟩ := Option.filter_eq_some_iff.mp hn
      exact ⟨⟨n, hn, rfl⟩, (hfits n).symm.trans hv⟩

/-- A magnitude has at most 127 bits, so that its negative is in the word too. -/
theorem hexNumber_minus (cs : List Char) :
    hexNumber ('-' :: cs) = some (Description.hexNumber? ('-' :: cs)) := by
  rw [hexNumber, magnitude?_eq]
  cases hmagnitude : Description.hexMagnitude? cs with
  | none =>
      rw [Description.hexNumber?, hmagnitude]
      rfl
  | some n =>
      have hlt := (Numeral.hexMagnitude?_eq_some_iff.mp hmagnitude).2
      have hwide : wide (-(n : Int)) = some (-(n : Int)) := wide_eq (by omega) (by omega)
      rw [Description.hexNumber?, hmagnitude]
      exact congrArg (Option.map some) hwide

theorem hexNumber_unsigned {cs : List Char} (h : cs.head? ≠ some '-') :
    hexNumber cs = some (Description.hexNumber? cs) := by
  unfold hexNumber
  split
  · exact absurd rfl h
  · rw [magnitude?_eq, Numeral.hexNumber?_unsigned h]

theorem hexNumber_eq (cs : List Char) : hexNumber cs = some (Description.hexNumber? cs) := by
  by_cases hminus : cs.head? = some '-'
  · obtain ⟨rest, rfl⟩ := List.head?_eq_some_iff.mp hminus
    exact hexNumber_minus rest
  · exact hexNumber_unsigned hminus

theorem hexadecimal_eq (what owner value : String) :
    hexadecimal what owner value = step (Description.hexadecimal what owner value) := by
  rw [hexadecimal, operate_bind (hexNumber_eq _), Description.hexadecimal]
  cases Description.hexNumber? (Text.trimChars value.toList) with
  | none => rfl
  | some n => rfl

theorem bounds_of_decimalAttribute {e : Element} {owner key : String} {v : Int}
    (h : Description.decimalAttribute e owner key = .ok v) : -2 ^ 63 ≤ v ∧ v < 2 ^ 63 := by
  obtain ⟨text, -, -, hbounds⟩ := Description.decimalAttribute_eq_ok_iff.mp h
  exact hbounds

theorem bounds_of_addressAttribute {e : Element} {owner key : String} {v : Int}
    (h : Description.addressAttribute e owner key = .ok v) : -2 ^ 63 ≤ v ∧ v < 2 ^ 63 :=
  (Description.addressAttribute_eq_ok_iff.mp h).2

/-- The positions that are compared come from words of 64 bits, and their sum is formed in one of 128. -/
theorem bitfield_eq (e : Element) : bitfield e = step (Description.bitfield e) := by
  unfold bitfield Description.bitfield
  refine bind_eq_step rfl fun name _ => ?_
  refine bind_eq_step rfl fun bitOffset hoffset => ?_
  refine bind_eq_step rfl fun bitWidth hwidth => ?_
  refine bind_eq_step rfl fun highest hhighest => ?_
  have hoffset := bounds_of_decimalAttribute hoffset
  have hwidth := bounds_of_decimalAttribute hwidth
  have hhighest := bounds_of_decimalAttribute hhighest
  rw [operate_bind (wide_eq (by omega) (by omega)), operate_bind (wide_eq (by omega) (by omega))]
  refine bind_eq_step rfl fun _ _ => ?_
  refine bind_eq_step rfl fun description _ => ?_
  refine bind_eq_step rfl fun code _ => ?_
  refine bind_eq_step rfl fun access _ => ?_
  refine bind_eq_step rfl fun text _ => ?_
  refine bind_eq_step (hexadecimal_eq _ _ _) fun resetValue _ => ?_
  exact checked_eq_step (validateField_eq _)

/-- What is read is in words, so that whatever is made of it is as well. -/
theorem inWords_of_bitfield {e : Element} {f : Bitfield} (h : Description.bitfield e = .ok f) :
    f.InWords := by
  simp only [Description.bitfield, bind_eq_ok_iff, Description.checked_eq_ok_iff] at h
  obtain ⟨name, -, bitOffset, hoffset, bitWidth, hwidth, highest, -, _, -, description, -, code, -,
    access, -, text, -, resetValue, hreset, hvalid⟩ := h
  have hreset := Description.hexadecimal_eq_ok_iff.mp hreset
  have hbounds := (Numeral.hexNumber?_eq_some_iff.mp hreset).2
  refine ⟨_, ⟨?_, ?_, ?_⟩, hvalid⟩
  · exact (Numeral.fitsSigned_iff 63).mpr (bounds_of_decimalAttribute hoffset)
  · exact (Numeral.fitsSigned_iff 63).mpr (bounds_of_decimalAttribute hwidth)
  · exact (Numeral.fitsSigned_iff 127).mpr (show -2 ^ 127 ≤ resetValue ∧ resetValue < 2 ^ 127 by omega)

theorem register_eq (e : Element) : register e = step (Description.register e) := by
  unfold register Description.register
  refine bind_eq_step rfl fun name _ => ?_
  refine bind_eq_step rfl fun text _ => ?_
  refine bind_eq_step (hexadecimal_eq _ _ _) fun offset _ => ?_
  refine bind_eq_step rfl fun description _ => ?_
  refine bind_eq_step rfl fun bitWidth hwidth => ?_
  refine bind_eq_step rfl fun addressOffset hoffset => ?_
  refine bind_eq_step (mapM_eq_step bitfield_eq _) fun bitfields hfields => ?_
  refine checked_eq_step (validateRegister_eq ⟨?_, ?_, ?_⟩)
  · exact (Numeral.fitsSigned_iff 63).mpr (bounds_of_decimalAttribute hwidth)
  · exact (Description.narrow_eq_ok_iff.mp hoffset).2
  · exact Description.forall_mem_of_forall₂ (mapM_eq_ok_iff.mp hfields) fun _ _ _ =>
      inWords_of_bitfield

theorem addressAttribute_eq (e : Element) (owner key : String) :
    addressAttribute e owner key = step (Description.addressAttribute e owner key) := by
  unfold addressAttribute Description.addressAttribute
  refine bind_eq_step rfl fun text _ => ?_
  exact bind_eq_step (hexadecimal_eq _ _ _) fun _ _ => rfl

section

variable {e : Element} {name : String} {first size last : Int}

theorem lastAddress_eq (hfirst : -2 ^ 63 ≤ first ∧ first < 2 ^ 63)
    (hsize : -2 ^ 63 ≤ size ∧ size < 2 ^ 63) :
    lastAddress e name first size = step (Description.lastAddress e name first size) := by
  unfold lastAddress Description.lastAddress
  cases e.attribute? "endaddr" with
  | some text => exact bind_eq_step (hexadecimal_eq _ _ _) fun _ _ => rfl
  | none =>
      dsimp only
      rw [operate_bind (wide_eq (by omega) (by omega)), wide_eq (by omega) (by omega)]
      rfl

/-- An address that is read is in its word.  One that is computed may be outside of it by one bit. -/
theorem bounds_of_lastAddress (h : Description.lastAddress e name first size = .ok last)
    (hfirst : -2 ^ 63 ≤ first ∧ first < 2 ^ 63) (hsize : -2 ^ 63 ≤ size ∧ size < 2 ^ 63) :
    -2 ^ 65 ≤ last ∧ last < 2 ^ 65 := by
  rcases Description.lastAddress_eq_ok_iff.mp h with ⟨-, rfl⟩ | ⟨-, hbounds⟩
  · omega
  · omega

end

theorem placement_eq (definition : String) (e : Element) :
    placement definition e = step (Description.placement definition e) := by
  unfold placement Description.placement
  refine bind_eq_step rfl fun name _ => ?_
  refine bind_eq_step (addressAttribute_eq _ _ _) fun first hfirst => ?_
  refine bind_eq_step (addressAttribute_eq _ _ _) fun size hsize => ?_
  have hfirst := bounds_of_addressAttribute hfirst
  have hsize := bounds_of_addressAttribute hsize
  refine bind_eq_step (lastAddress_eq hfirst hsize) fun last hlast => ?_
  have hlast := bounds_of_lastAddress hlast hfirst hsize
  rw [operate_bind (wide_eq (by omega) (by omega)), operate_bind (wide_eq (by omega) (by omega))]
  exact bind_eq_step rfl fun _ _ => rfl

/-! ### All together -/

/-- The computations in words give what the model says, on all that is made from drafts in words and on all
elements of a description. -/
structure Exact : Prop where
  fieldCheck : ∀ d : Bitfield.Draft, d.InWords → (validateField d).run = some d.validate
  fieldEnd : ∀ f : Bitfield, f.InWords → bitEnd f = some f.bitEnd
  registerCheck : ∀ d : Register.Draft, d.InWords → (validateRegister d).run = some d.validate
  registerEnd : ∀ r : Register, r.InWords → endOffset r = some r.endOffset
  bits : ∀ r : Register, r.InWords → bitLayout r = some r.bitLayout
  instanceEnd : ∀ i : Instance, i.InWords → endAddress i = some i.endAddress
  peripheralCheck : ∀ d : Peripheral.Draft, d.InWords → (validatePeripheral d).run = some d.validate
  bytes : ∀ p : Peripheral, p.InWords → byteLayout p = some p.byteLayout
  /-- Each instance has a slot of its own, and there are not too many of them. -/
  array : ∀ p : Peripheral, p.InWords →
    handleArray? p = some (Header.HandleArray.ofPeripheral? p) ∧
      ∀ a ∈ Header.HandleArray.ofPeripheral? p, a.slots.length ≤ 65536
  number : ∀ cs : List Char, hexNumber cs = some (Description.hexNumber? cs)
  fieldReading : ∀ e : Element, (bitfield e).run = some (Description.bitfield e)
  registerReading : ∀ e : Element, (register e).run = some (Description.register e)
  instanceReading : ∀ (definition : String) (e : Element),
    (placement definition e).run = some (Description.placement definition e)

/-- No operation leaves its word. -/
theorem words_suffice : Exact where
  fieldCheck d _ := congrArg ExceptT.run (validateField_eq d)
  fieldEnd _ h := bitEnd_eq h
  registerCheck _ h := congrArg ExceptT.run (validateRegister_eq h)
  registerEnd _ h := endOffset_eq h
  bits _ h := bitLayout_eq h
  instanceEnd _ h := endAddress_eq h
  peripheralCheck _ h := congrArg ExceptT.run (validatePeripheral_eq h)
  bytes _ h := byteLayout_eq h
  array _ h := ⟨handleArray?_eq h, fun _ ha => length_slots_le h ha⟩
  number := hexNumber_eq
  fieldReading e := congrArg ExceptT.run (bitfield_eq e)
  registerReading e := congrArg ExceptT.run (register_eq e)
  instanceReading definition e := congrArg ExceptT.run (placement_eq definition e)

/-- The field that ends the furthest: it is in no register, but its end is formed before that shows. -/
def furthestField : Bitfield :=
  ⟨"TOP", "", 2 ^ 63 - 1, 2 ^ 63 - 1, .readWrite, 2 ^ 64 - 1⟩

/-- A register of that one field. -/
def furthestDraft : Register.Draft :=
  ⟨"WIDE", "", 64, 2 ^ 63 - 8, [furthestField]⟩

theorem inWords_furthestField : furthestField.InWords := by
  refine ⟨⟨"TOP", "", 2 ^ 63 - 1, 2 ^ 63 - 1, .readWrite, 2 ^ 64 - 1⟩, ⟨?_, ?_, ?_⟩, ?_⟩
  · decide
  · decide
  · decide
  · exact Bitfield.validate_eq_ok_iff.mpr ⟨by decide, by decide, by decide, by decide, by decide, rfl⟩

theorem inWords_furthestDraft : furthestDraft.InWords where
  bitWidth := by decide
  addressOffset := by decide
  bitfields := by
    intro f hf
    obtain rfl := List.mem_singleton.mp hf
    exact inWords_furthestField

/-- The furthest end is two below the limit of the word, and is in the message about the register. -/
theorem words_suffice_furthest :
    bitEnd furthestField = some (2 ^ 64 - 2) ∧
      (validateRegister furthestDraft).run =
        some (.error (.overflow (2 ^ 64 - 2) 64 "WIDE")) := by
  refine ⟨words_suffice.fieldEnd _ inWords_furthestField, ?_⟩
  rw [words_suffice.registerCheck _ inWords_furthestDraft]
  decide +kernel

end Machine
end RegisterMap
