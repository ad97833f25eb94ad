import RegisterMap.Header.Placement
import RegisterMap.Proofs.OffsetGroup
import RegisterMap.Proofs.Validation

/-!
# When a struct's assertions hold

A layout advances by the size of the first register of each member; C places a member by its own
alignment and goes on after its own size.  The two agree exactly if no group of registers begins before
the first register of the group in front of it ends, no group holds a register wider than its first, and
the size of the instances is a multiple of the largest register (`Peripheral.Fits`).

The proof follows the layout with two cursors: `cursor`, where the layout is, and `start`, where C is.
C is never behind (`le_placeEnd_place`), and one byte of difference at any point is a false assertion at
the next register or at the end (`placed_place_iff`).
-/

namespace RegisterMap
namespace Header

/-! ## Rounding and maxima -/

theorem le_roundUp (n alignment : Nat) : n ≤ roundUp n alignment :=
  Nat.le_add_right _ _

theorem roundUp_of_dvd {n alignment : Nat} (h : alignment ∣ n) : roundUp n alignment = n := by
  simp [roundUp, Nat.mod_eq_zero_of_dvd h]

/-- What is added is the rest to the next multiple. -/
theorem dvd_roundUp (n : Nat) {alignment : Nat} (h : 0 < alignment) :
    alignment ∣ roundUp n alignment := by
  by_cases hn : n % alignment = 0
  · rw [roundUp_of_dvd (Nat.dvd_of_mod_eq_zero hn)]
    exact Nat.dvd_of_mod_eq_zero hn
  · have hlt := Nat.mod_lt n h
    have hfill : (alignment - n % alignment) % alignment = alignment - n % alignment :=
      Nat.mod_eq_of_lt (by omega)
    have hsum : roundUp n alignment = alignment * (n / alignment + 1) := by
      have hdiv := Nat.div_add_mod n alignment
      rw [roundUp, hfill, Nat.mul_add, Nat.mul_one]
      omega
    rw [hsum]
    exact Nat.dvd_mul_right _ _

/-- A number at or above a limit rounds to the limit only if it is the limit already. -/
theorem roundUp_eq_iff {n alignment limit : Nat} (h : 0 < alignment) (hle : limit ≤ n) :
    roundUp n alignment = limit ↔ n = limit ∧ alignment ∣ limit := by
  constructor
  · intro heq
    have hn := le_roundUp n alignment
    have hdvd := dvd_roundUp n h
    rw [heq] at hdvd
    exact ⟨by omega, hdvd⟩
  · rintro ⟨rfl, hdvd⟩
    exact roundUp_of_dvd hdvd

theorem largest_le_iff {least n : Nat} {numbers : List Nat} :
    largest least numbers ≤ n ↔ least ≤ n ∧ ∀ m ∈ numbers, m ≤ n := by
  unfold largest
  induction numbers generalizing least with
  | nil => simp
  | cons m numbers ih =>
      rw [List.foldl_cons, ih, List.forall_mem_cons]
      constructor
      · rintro ⟨hmax, hall⟩
        exact ⟨by omega, by omega, hall⟩
      · rintro ⟨hleast, hm, hall⟩
        exact ⟨by omega, hall⟩

theorem le_largest (least : Nat) (numbers : List Nat) : least ≤ largest least numbers :=
  (largest_le_iff.mp le_rfl).1

theorem le_largest_of_mem {least m : Nat} {numbers : List Nat} (h : m ∈ numbers) :
    m ≤ largest least numbers :=
  (largest_le_iff.mp le_rfl).2 m h

/-! ## The member of a group -/

variable (format : Format) (p : Peripheral)

/-- The struct member for a group of registers. -/
def groupMember (g : Register × List Register) : StructMember :=
  StructMember.ofMember format p (Member.ofGroup g.1 g.2)

/-- The fields of the member are the registers of its group. -/
theorem fields_groupMember (g : Register × List Register) :
    ∃ indent, (groupMember format p g).fields =
      (groupRegisters g).map (StructField.ofRegister format indent p) := by
  obtain ⟨first, others⟩ := g
  cases others with
  | nil => exact ⟨StructMember.indent, rfl⟩
  | cons second more => exact ⟨StructMember.unionIndent, rfl⟩

/-- The size of the largest register of a group. -/
def groupWidth (g : Register × List Register) : Nat :=
  largest 1 ((groupRegisters g).map Register.byteWidth)

theorem byteWidth_le_groupWidth (g : Register × List Register) :
    g.1.byteWidth ≤ groupWidth g :=
  le_largest_of_mem (List.mem_map_of_mem List.mem_cons_self)

/-- The first register of a group is as large as the group exactly if none of the others is larger. -/
theorem groupWidth_eq_iff {g : Register × List Register} (hpos : 0 < g.1.byteWidth) :
    groupWidth g = g.1.byteWidth ↔ ∀ r ∈ g.2, r.byteWidth ≤ g.1.byteWidth := by
  have hle : groupWidth g ≤ g.1.byteWidth ↔ ∀ r ∈ g.2, r.byteWidth ≤ g.1.byteWidth := by
    unfold groupWidth
    rw [largest_le_iff, List.forall_mem_map, groupRegisters, List.forall_mem_cons]
    constructor
    · rintro ⟨-, -, hall⟩
      exact hall
    · intro hall
      exact ⟨hpos, le_rfl, hall⟩
  rw [← hle]
  exact ⟨fun h => h.le, fun h => le_antisymm h (byteWidth_le_groupWidth g)⟩

theorem alignment_groupMember {g : Register × List Register} (hpos : 0 < g.1.byteWidth) :
    (groupMember format p g).alignment = groupWidth g := by
  obtain ⟨first, others⟩ := g
  cases others with
  | nil => exact (Nat.max_eq_right hpos).symm
  | cons second more =>
      show largest 1 (List.map _ (List.map _ (first :: second :: more))) = _
      rw [List.map_map]
      rfl

/-- A member is as large as it is aligned: both are those of its largest register. -/
theorem size_groupMember {g : Register × List Register} (hpos : 0 < g.1.byteWidth) :
    (groupMember format p g).size = groupWidth g := by
  obtain ⟨first, others⟩ := g
  cases others with
  | nil => exact (Nat.max_eq_right hpos).symm
  | cons second more =>
      show largest 0 (List.map _ (List.map _ (first :: second :: more))) = _
      rw [List.map_map]
      -- The two maxima differ only in what they start from, and the first register is above both.
      show List.foldl max (max 0 first.byteWidth) _ = List.foldl max (max 1 first.byteWidth) _
      rw [Nat.max_eq_right (Nat.zero_le _), Nat.max_eq_right hpos]
      rfl

/-! ## One step of the layout -/

/-- The struct members for the layout of groups from the cursor on. -/
def layoutMembers (limit cursor index : Nat) (groups : List (Register × List Register)) :
    List StructMember :=
  (ByteLayout.place p.name limit cursor index groups).members.map (StructMember.ofMember format p)

/-- Unused bytes have no alignment, so C and the layout go on by the same amount. -/
theorem placeFields_padding (start index cursor offset : Nat) (rest : List StructMember) :
    placeFields start ((ByteLayout.padding index cursor offset).map
      (StructMember.ofMember format p) ++ rest) =
      placeFields (start + (offset - cursor)) rest := by
  unfold ByteLayout.padding
  split
  · show [] ++ placeFields (roundUp start 1 + (offset - cursor)) rest = _
    rw [roundUp_of_dvd (Nat.one_dvd start)]
    rfl
  · next h => simp [Nat.sub_eq_zero_of_le (Nat.le_of_not_lt h)]

theorem placeEnd_padding (start index cursor offset : Nat) (rest : List StructMember) :
    placeEnd start ((ByteLayout.padding index cursor offset).map
      (StructMember.ofMember format p) ++ rest) =
      placeEnd (start + (offset - cursor)) rest := by
  unfold ByteLayout.padding
  split
  · show placeEnd (roundUp start 1 + (offset - cursor)) rest = _
    rw [roundUp_of_dvd (Nat.one_dvd start)]
  · next h => simp [Nat.sub_eq_zero_of_le (Nat.le_of_not_lt h)]

/-- Where C puts a group when the layout has come to `cursor` and C to `start`. -/
def landing (start cursor : Nat) (g : Register × List Register) : Nat :=
  roundUp (start + (g.1.addressOffset - cursor)) (groupWidth g)

/-- C does not put a group before its offset, having come at least as far as the layout. -/
theorem addressOffset_le_landing {start cursor : Nat} (hle : cursor ≤ start)
    (g : Register × List Register) : g.1.addressOffset ≤ landing start cursor g := by
  have := le_roundUp (start + (g.1.addressOffset - cursor)) (groupWidth g)
  unfold landing
  omega

/-- If C puts a group where it belongs, then it was where the layout was, and the group is not behind. -/
theorem landing_eq {start cursor : Nat} (hle : cursor ≤ start) {g : Register × List Register}
    (h : landing start cursor g = g.1.addressOffset) :
    start = cursor ∧ cursor ≤ g.1.addressOffset := by
  have := le_roundUp (start + (g.1.addressOffset - cursor)) (groupWidth g)
  unfold landing at h
  omega

theorem landing_of_aligned {cursor : Nat} {g : Register × List Register}
    (hle : cursor ≤ g.1.addressOffset) (hdvd : groupWidth g ∣ g.1.addressOffset) :
    landing cursor cursor g = g.1.addressOffset := by
  unfold landing
  rw [Nat.add_sub_cancel' hle, roundUp_of_dvd hdvd]

variable (limit index : Nat)

theorem layoutMembers_cons (cursor : Nat) (g : Register × List Register)
    (groups : List (Register × List Register)) :
    layoutMembers format p limit cursor index (g :: groups) =
      (ByteLayout.padding index cursor g.1.addressOffset).map (StructMember.ofMember format p) ++
        groupMember format p g :: layoutMembers format p limit g.1.endOffset
          (index + (ByteLayout.padding index cursor g.1.addressOffset).length) groups := by
  obtain ⟨first, others⟩ := g
  simp only [layoutMembers, ByteLayout.place, List.map_append, List.map_cons,
    Member.offset_ofGroup, Member.span_ofGroup]
  rfl

theorem placeEnd_nil (start cursor : Nat) :
    placeEnd start (layoutMembers format p limit cursor index []) = start + (limit - cursor) := by
  have h := placeEnd_padding format p start index cursor limit []
  rwa [List.append_nil] at h

theorem placeFields_nil (start cursor : Nat) :
    placeFields start (layoutMembers format p limit cursor index []) = [] := by
  have h := placeFields_padding format p start index cursor limit []
  rwa [List.append_nil] at h

theorem placeEnd_cons (start cursor : Nat) {g : Register × List Register}
    (hpos : 0 < g.1.byteWidth) (groups : List (Register × List Register)) :
    placeEnd start (layoutMembers format p limit cursor index (g :: groups)) =
      placeEnd (landing start cursor g + groupWidth g) (layoutMembers format p limit g.1.endOffset
        (index + (ByteLayout.padding index cursor g.1.addressOffset).length) groups) := by
  rw [layoutMembers_cons, placeEnd_padding, placeEnd, alignment_groupMember format p hpos,
    size_groupMember format p hpos]
  rfl

theorem placeFields_cons (start cursor : Nat) {g : Register × List Register}
    (hpos : 0 < g.1.byteWidth) (groups : List (Register × List Register)) :
    placeFields start (layoutMembers format p limit cursor index (g :: groups)) =
      (groupMember format p g).fields.map (fun f => (f, landing start cursor g)) ++
        placeFields (landing start cursor g + groupWidth g)
          (layoutMembers format p limit g.1.endOffset
            (index + (ByteLayout.padding index cursor g.1.addressOffset).length) groups) := by
  rw [layoutMembers_cons, placeFields_padding, placeFields, alignment_groupMember format p hpos,
    size_groupMember format p hpos]
  rfl

/-! ## The whole layout -/

/-- What validation says of a group: one offset, a first register aligned to its own size, and an end
within the limit. -/
structure SoundGroup (limit : Nat) (g : Register × List Register) : Prop where
  same : ∀ r ∈ groupRegisters g, r.addressOffset = g.1.addressOffset
  byteWidth_pos : 0 < g.1.byteWidth
  aligned : g.1.byteWidth ∣ g.1.addressOffset
  bounded : g.1.endOffset ≤ limit

variable {limit}

/-- C, once it is not behind the layout, ends at the limit or beyond it. -/
theorem le_placeEnd_place {start cursor : Nat} (hle : cursor ≤ start)
    {groups : List (Register × List Register)} (hgroups : ∀ g ∈ groups, SoundGroup limit g) :
    limit ≤ placeEnd start (layoutMembers format p limit cursor index groups) := by
  induction groups generalizing start cursor index with
  | nil =>
      rw [placeEnd_nil]
      omega
  | cons g groups ih =>
      rw [List.forall_mem_cons] at hgroups
      rw [placeEnd_cons format p limit index start cursor hgroups.1.byteWidth_pos]
      have hlanding := addressOffset_le_landing hle g
      have hwidth := byteWidth_le_groupWidth g
      have hnext : g.1.endOffset ≤ landing start cursor g + groupWidth g := by
        unfold Register.endOffset
        omega
      -- The induction hypothesis is for the two new cursors, of which that of C is still not behind.
      exact ih _ hnext hgroups.2

/-- The fields of a group are in place exactly if the group is. -/
theorem placed_group_iff {spot : Nat} {g : Register × List Register} (hg : SoundGroup limit g) :
    (∀ place ∈ (groupMember format p g).fields.map (fun f => (f, spot)),
      place.2 = place.1.offset) ↔ spot = g.1.addressOffset := by
  obtain ⟨indent, hfields⟩ := fields_groupMember format p g
  rw [hfields, List.map_map, List.forall_mem_map]
  constructor
  · intro hall
    exact hall g.1 List.mem_cons_self
  · rintro rfl r hr
    exact (hg.same r hr).symm

/-- With C not behind the layout, every field is in place and the last member ends at the limit exactly
if C is where the layout is, no group begins before the first register in front of it ends, and none holds
a register wider than its first. -/
theorem placed_place_iff {start cursor : Nat} (hle : cursor ≤ start) (hlimit : cursor ≤ limit)
    {groups : List (Register × List Register)} (hgroups : ∀ g ∈ groups, SoundGroup limit g) :
    (∀ place ∈ placeFields start (layoutMembers format p limit cursor index groups),
        place.2 = place.1.offset) ∧
      placeEnd start (layoutMembers format p limit cursor index groups) = limit ↔
    start = cursor ∧ (∀ g ∈ groups.head?, cursor ≤ g.1.addressOffset) ∧
      groups.IsChain (fun g h => g.1.endOffset ≤ h.1.addressOffset) ∧
      ∀ g ∈ groups, ∀ r ∈ g.2, r.byteWidth ≤ g.1.byteWidth := by
  induction groups generalizing start cursor index with
  | nil =>
      rw [placeFields_nil, placeEnd_nil]
      simp only [List.not_mem_nil, false_implies, implies_true, true_and, List.head?_nil,
        Option.not_mem_none, List.isChain_nil, and_true]
      omega
  | cons g groups ih =>
      rw [List.forall_mem_cons] at hgroups
      -- One group is placed by both, and the induction hypothesis takes over where they have come to.
      obtain ⟨hg, hrest⟩ := hgroups
      have hwidth := byteWidth_le_groupWidth g
      have hlanding := addressOffset_le_landing hle g
      have hnext : g.1.endOffset ≤ landing start cursor g + groupWidth g := by
        unfold Register.endOffset
        omega
      rw [placeFields_cons format p limit index start cursor hg.byteWidth_pos,
        placeEnd_cons format p limit index start cursor hg.byteWidth_pos,
        List.forall_mem_append, placed_group_iff format p hg, and_assoc, ih _ hnext hg.bounded hrest,
        List.isChain_cons, List.forall_mem_cons, ← groupWidth_eq_iff hg.byteWidth_pos]
      simp only [List.head?_cons, Option.mem_some_iff, forall_eq']
      constructor
      · rintro ⟨hat, hcursor, hhead, hchain, hall⟩
        obtain ⟨hstart, hbehind⟩ := landing_eq hle hat
        -- C went on by the widest register and the layout by the first; they meet only if that is one.
        have hfirst : groupWidth g = g.1.byteWidth := by
          unfold Register.endOffset at hcursor
          omega
        exact ⟨hstart, hbehind, ⟨hhead, hchain⟩, hfirst, hall⟩
      · rintro ⟨rfl, hbehind, ⟨hhead, hchain⟩, hfirst, hall⟩
        have hat := landing_of_aligned hbehind (hfirst ▸ hg.aligned)
        refine ⟨hat, ?_, hhead, hchain, hall⟩
        rw [hat, hfirst]
        rfl

/-! ## The struct of a peripheral -/

theorem places_fields (start : Nat) (members : List StructMember) :
    (placeFields start members).map Prod.fst = members.flatMap StructMember.fields := by
  induction members generalizing start with
  | nil => rfl
  | cons m members ih =>
      rw [placeFields, List.map_append, ih, List.flatMap_cons, List.map_map]
      congr 1
      exact List.map_id _

/-- Unused bytes ask for no alignment of their own. -/
theorem alignment_ofMember_le_iff {n : Nat} (hn : 1 ≤ n) (m : Member) :
    (StructMember.ofMember format p m).alignment ≤ n ↔ ∀ r ∈ m.registers, r.byteWidth ≤ n := by
  cases m with
  | unused index offset size =>
      simpa [StructMember.ofMember, StructMember.alignment, Member.registers] using hn
  | register r =>
      simp [StructMember.ofMember, StructMember.alignment, Member.registers,
        StructField.ofRegister]
  | union first others =>
      show largest 1 (List.map _ (List.map _ (first :: others))) ≤ n ↔ _
      rw [largest_le_iff, List.map_map, List.forall_mem_map]
      exact ⟨fun h => h.2, fun h => ⟨hn, h⟩⟩

/-- A struct is aligned to its largest register. -/
theorem alignment_ofPeripheral :
    (Struct.ofPeripheral format p).alignment = largest 1 (p.registers.map Register.byteWidth) := by
  refine eq_of_forall_ge_iff fun n => ?_
  unfold Struct.alignment
  rw [largest_le_iff, largest_le_iff, List.forall_mem_map, List.forall_mem_map]
  refine and_congr_right fun hn => ?_
  show (∀ m ∈ p.byteLayout.members.map (StructMember.ofMember format p), m.alignment ≤ n) ↔ _
  rw [List.forall_mem_map, ← Peripheral.registers_byteLayout]
  simp only [alignment_ofMember_le_iff format p hn, List.mem_flatMap]
  exact ⟨fun h r ⟨m, hm, hr⟩ => h m hm r hr, fun h m hm r hr => h r ⟨m, hm, hr⟩⟩

theorem largest_dvd_iff {numbers : List Nat} (hpos : ∀ m ∈ numbers, 0 < m) (n : Nat) :
    largest 1 numbers ∣ n ↔ ∀ m ∈ numbers.max?, m ∣ n := by
  cases numbers with
  | nil => simp [largest]
  | cons m numbers =>
      have hm : max 1 m = m := Nat.max_eq_right (hpos m List.mem_cons_self)
      simp only [largest, List.foldl_cons, hm, List.max?_cons', Option.mem_some_iff, forall_eq']

end Header

/-- The registers of a peripheral can be laid out in C as they are: no group begins before the first
register of the group in front of it ends, the first register of a group is its widest, and the size is a
multiple of the largest register. -/
structure Peripheral.Fits (p : Peripheral) (size : Nat) : Prop where
  apart : (groupByOffset p.registers).IsChain fun g h =>
    g.1.addressOffset + g.1.byteWidth ≤ h.1.addressOffset
  widest_first : ∀ g ∈ groupByOffset p.registers, ∀ r ∈ g.2, r.byteWidth ≤ g.1.byteWidth
  size_multiple : ∀ width ∈ (p.registers.map Register.byteWidth).max?, width ∣ size

namespace Header

/-- What a group needs to be laid out is what the check of its peripheral has seen to. -/
theorem soundGroup_of_wellFormed {p : Peripheral} {size : Nat} (h : p.WellFormed)
    (hsize : p.instanceSize? = some size) :
    ∀ g ∈ groupByOffset p.registers, SoundGroup size g := by
  intro g hg
  obtain ⟨i, hi, rfl⟩ := Option.map_eq_some_iff.mp hsize
  have hgrouping := isOffsetGrouping_groupByOffset h.registers_ordered
  have hmem := hgrouping.first_mem hg
  exact
    { same := hgrouping.same g hg
      byteWidth_pos := (h.registers _ hmem).byteWidth_pos
      aligned := (h.registers _ hmem).aligned
      bounded := h.bounded _ hmem i (List.mem_of_head? hi) }

/-- The assertions about the struct of a validated peripheral with instances are its size and the place
of each of its fields, and they all hold exactly if the registers fit, grouped by their offsets. -/
theorem holds_ofPeripheral_iff (format : Format) {p : Peripheral} (hp : p.Validated) {size : Nat}
    (hsize : p.instanceSize? = some size) :
    IsOffsetGrouping p.registers (groupByOffset p.registers) ∧
      (Struct.ofPeripheral format p).assertions =
        .size (peripheralType p) size :: (Struct.ofPeripheral format p).places.map
          (fun place => .offset (peripheralType p) place.1.name place.1.offset) ∧
      ((Struct.ofPeripheral format p).Holds ↔ p.Fits size) := by
  have hwf := hp.wellFormed
  have hsound := soundGroup_of_wellFormed hwf hsize
  have hlayout : p.byteLayout.size = size := by
    rw [Peripheral.byteLayout, hsize]
    exact ByteLayout.size_place _ _ (Nat.zero_le _) fun g hg => (hsound g hg).bounded
  have hmembers : (Struct.ofPeripheral format p).members =
      layoutMembers format p size 0 0 (groupByOffset p.registers) := by
    show p.byteLayout.members.map _ = _
    rw [Peripheral.byteLayout, hsize]
    rfl
  have hasserted : (Struct.ofPeripheral format p).size? = some size := by
    show p.instanceSize?.map (fun _ => p.byteLayout.size) = some size
    rw [hsize, hlayout]
    rfl
  refine ⟨isOffsetGrouping_groupByOffset hwf.registers_ordered, ?_, ?_⟩
  · have hfields := places_fields 0 (Struct.ofPeripheral format p).members
    unfold Struct.assertions Struct.fields Struct.places
    rw [hasserted, ← hfields, List.map_map]
    rfl
  · have hpos : ∀ width ∈ p.registers.map Register.byteWidth, 0 < width := by
      rw [List.forall_mem_map]
      exact fun r hr => (hwf.registers r hr).byteWidth_pos
    -- Since C is never behind, rounding the size cannot repair a difference.
    have hend := le_placeEnd_place format p 0 (Nat.zero_le 0) hsound
    have hplaced := placed_place_iff format p 0 (Nat.zero_le 0) (Nat.zero_le size) hsound
    simp only [Struct.Holds, hasserted, Option.some.injEq, forall_eq', Struct.sizeof,
      alignment_ofPeripheral, Struct.places, hmembers, roundUp_eq_iff (le_largest 1 _) hend,
      largest_dvd_iff hpos]
    constructor
    · rintro ⟨⟨hat, hmultiple⟩, hall⟩
      obtain ⟨-, -, hchain, hfirst⟩ := hplaced.mp ⟨hall, hat⟩
      exact ⟨hchain, hfirst, hmultiple⟩
    · rintro ⟨hchain, hfirst, hmultiple⟩
      obtain ⟨hall, hat⟩ := hplaced.mpr ⟨rfl, fun _ _ => Nat.zero_le _, hchain, hfirst⟩
      exact ⟨⟨hat, hmultiple⟩, hall⟩

/-- A serial port: two registers at one offset with the wider one first, a gap, and room at the end. -/
def serialPort : Peripheral where
  name := "UART"
  description := "serial port"
  registers := [⟨"RX", "receive", 32, 0, []⟩, ⟨"TX", "transmit", 16, 0, []⟩,
    ⟨"STAT", "status", 32, 8, []⟩]
  instances := [⟨"UART0", some 0, 0x40001000, 16⟩]

theorem validated_serialPort : serialPort.Validated := by
  refine ⟨⟨"UART", "serial port", [⟨"RX", "receive", 32, 0, []⟩, ⟨"STAT", "status", 32, 8, []⟩,
    ⟨"TX", "transmit", 16, 0, []⟩], serialPort.instances⟩, ?_, ?_, by cbv⟩
  · simp only [List.forall_mem_cons, List.not_mem_nil, false_implies, implies_true, and_true]
    exact ⟨⟨⟨"RX", "receive", 32, 0, []⟩, by simp, by cbv⟩,
      ⟨⟨"STAT", "status", 32, 8, []⟩, by simp, by cbv⟩,
      ⟨⟨"TX", "transmit", 16, 0, []⟩, by simp, by cbv⟩⟩
  · simp only [serialPort, List.forall_mem_cons, List.not_mem_nil, false_implies, implies_true,
      and_true]
    exact ⟨⟨"UART0", some 0, 0x40001000, 16⟩, by cbv⟩

theorem holds_serialPort :
    serialPort.Validated ∧ serialPort.instanceSize? = some 16 ∧
      (Struct.ofPeripheral .standard serialPort).Holds := by
  refine ⟨validated_serialPort, rfl, ?_⟩
  rw [(holds_ofPeripheral_iff .standard validated_serialPort rfl).2.2]
  exact ⟨by decide, by decide, by decide⟩

end Header
end RegisterMap
