import Mathlib.Algebra.GroupWithZero.Nat
import Mathlib.Data.List.Chain
import RegisterMap.Header.Overlay
import RegisterMap.Proofs.Validation

/-!
# Bit layouts account for every bit

The slots of a validated register's layout follow one another from bit zero to the register's width
(`Register.IsTiledBy`).  They are the fields in order and, wherever bits are left between them, one unused
slot.  So the declarations made from them, packed one after another into a storage unit, put each field on
its own bits and fill the unit (`Header.Overlay.Fills`).

A layout is built from one step: a gap up to where the next part begins, then that part.  The lemmas
about `BitSlot.gap` are what each of the inductions over the fields needs.
-/

namespace RegisterMap

/-- The stretches, each given by its start and its size, follow one another from `start` on and end at
`stop`. -/
def Tiles (start : Nat) (stretches : List (Nat × Nat)) (stop : Nat) : Prop :=
  match stretches with
  | [] => start = stop
  | (offset, size) :: rest => offset = start ∧ Tiles (start + size) rest stop

/-- Stretches that follow one another add up to the distance between their two ends. -/
theorem Tiles.sum_eq {start stop : Nat} {stretches : List (Nat × Nat)}
    (h : Tiles start stretches stop) : start + (stretches.map Prod.snd).sum = stop := by
  induction stretches generalizing start with
  | nil => exact h
  | cons stretch rest ih =>
      have hrest := ih h.2
      rw [List.map_cons, List.sum_cons]
      omega

namespace BitSlot

/-- The position after the slot's most significant bit. -/
def bitEnd (s : BitSlot) : Nat :=
  s.bitOffset + s.bitWidth

/-- The slot's first bit and its number of bits. -/
def stretch (s : BitSlot) : Nat × Nat :=
  (s.bitOffset, s.bitWidth)

/-- The field in the slot. -/
def field? : BitSlot → Option Bitfield
  | field f => some f
  | unused _ _ _ => none

/-- The number of an unused slot. -/
def index? : BitSlot → Option Nat
  | field _ => none
  | unused index _ _ => some index

/-- An unused slot from the cursor up to an offset, if there are bits between them. -/
def gap (index cursor offset : Nat) : List BitSlot :=
  if cursor < offset then [.unused index cursor (offset - cursor)] else []

theorem field?_gap (index cursor offset : Nat) : (gap index cursor offset).filterMap field? = [] := by
  unfold gap
  split <;> rfl

theorem index?_gap (index cursor offset : Nat) :
    (gap index cursor offset).filterMap index? =
      List.range' index (gap index cursor offset).length := by
  unfold gap
  split <;> rfl

/-- A gap leads from the cursor to where the next part begins. -/
theorem tiles_gap_append {index cursor offset stop : Nat} (hle : cursor ≤ offset)
    (rest : List BitSlot) :
    Tiles cursor ((gap index cursor offset ++ rest).map stretch) stop ↔
      Tiles offset (rest.map stretch) stop := by
  unfold gap
  split
  · next hlt =>
    have hend : cursor + (offset - cursor) = offset := by omega
    simp only [List.singleton_append, List.map_cons, stretch, bitOffset, bitWidth, Tiles, true_and,
      hend]
  · next hnot =>
    have heq : cursor = offset := by omega
    rw [heq, List.nil_append]

theorem bitWidth_pos_of_mem_gap {index cursor offset : Nat} {s : BitSlot}
    (h : s ∈ gap index cursor offset) : 0 < s.bitWidth := by
  unfold gap at h
  split at h
  · obtain rfl := List.mem_singleton.mp h
    show 0 < offset - cursor
    omega
  · cases h

end BitSlot

theorem bitSlots_nil (width cursor index : Nat) :
    bitSlots width cursor index [] = BitSlot.gap index cursor width :=
  rfl

/-- One step of a layout: the gap before a field, the field itself, and the rest from its end on. -/
theorem bitSlots_cons (width cursor index : Nat) (f : Bitfield) (rest : List Bitfield) :
    bitSlots width cursor index (f :: rest) =
      BitSlot.gap index cursor f.bitOffset ++ .field f ::
        bitSlots width f.bitEnd (index + (BitSlot.gap index cursor f.bitOffset).length) rest := by
  rw [bitSlots, BitSlot.gap]
  split <;> rfl

/-- The slots of a layout hold its fields, in order. -/
theorem field?_bitSlots (width cursor index : Nat) (fields : List Bitfield) :
    (bitSlots width cursor index fields).filterMap BitSlot.field? = fields := by
  induction fields generalizing cursor index with
  | nil => exact BitSlot.field?_gap index cursor width
  | cons f rest ih =>
      rw [bitSlots_cons, List.filterMap_append, BitSlot.field?_gap, List.nil_append]
      exact congrArg (f :: ·) (ih _ _)

/-- The unused slots of a layout are numbered from `index` on. -/
theorem index?_bitSlots (width cursor index : Nat) (fields : List Bitfield) :
    ∃ count, (bitSlots width cursor index fields).filterMap BitSlot.index? =
      List.range' index count := by
  induction fields generalizing cursor index with
  | nil => exact ⟨_, BitSlot.index?_gap index cursor width⟩
  | cons f rest ih =>
      obtain ⟨count, hrest⟩ := ih f.bitEnd (index + (BitSlot.gap index cursor f.bitOffset).length)
      -- The gap takes one number or none, and the slots after it are numbered from there on.
      refine ⟨(BitSlot.gap index cursor f.bitOffset).length + count, ?_⟩
      rw [bitSlots_cons, List.filterMap_append, BitSlot.index?_gap, ← List.range'_append_1]
      exact congrArg _ hrest

theorem bitWidth_pos_of_mem_bitSlots {width cursor index : Nat} {fields : List Bitfield}
    (hfields : ∀ f ∈ fields, 0 < f.bitWidth) {s : BitSlot}
    (hs : s ∈ bitSlots width cursor index fields) : 0 < s.bitWidth := by
  induction fields generalizing cursor index with
  | nil => exact BitSlot.bitWidth_pos_of_mem_gap hs
  | cons f rest ih =>
      rw [List.forall_mem_cons] at hfields
      rw [bitSlots_cons, List.mem_append, List.mem_cons] at hs
      rcases hs with hgap | rfl | hrest
      · exact BitSlot.bitWidth_pos_of_mem_gap hgap
      · exact hfields.1
      · exact ih hfields.2 hrest

/-- No unused slot stands next to another one: a field separates them. -/
theorem isChain_bitSlots (width cursor index : Nat) (fields : List Bitfield) :
    (bitSlots width cursor index fields).IsChain fun s t => s.index? = none ∨ t.index? = none := by
  induction fields generalizing cursor index with
  | nil =>
      rw [bitSlots_nil, BitSlot.gap]
      split
      · exact List.isChain_singleton _
      · exact List.isChain_nil
  | cons f rest ih =>
      have hfield : (BitSlot.field f :: bitSlots width f.bitEnd
          (index + (BitSlot.gap index cursor f.bitOffset).length) rest).IsChain
          fun s t => s.index? = none ∨ t.index? = none :=
        List.isChain_cons.mpr ⟨fun _ _ => .inl rfl, ih _ _⟩
      rw [bitSlots_cons]
      -- The gap has one slot at most, and the field comes right after it.
      unfold BitSlot.gap at hfield ⊢
      split
      · next hlt =>
        rw [if_pos hlt] at hfield
        exact List.isChain_cons_cons.mpr ⟨.inr rfl, hfield⟩
      · next hnot =>
        rw [if_neg hnot] at hfield
        exact hfield

/-- Fields that come in order from the cursor on and end within the width leave no bit uncovered. -/
theorem tiles_bitSlots {width cursor : Nat} (index : Nat) {fields : List Bitfield}
    (hcursor : cursor ≤ width) (hall : ∀ f ∈ fields, cursor ≤ f.bitOffset ∧ f.bitEnd ≤ width)
    (hpairs : fields.Pairwise fun f g => f.bitEnd ≤ g.bitOffset) :
    Tiles cursor ((bitSlots width cursor index fields).map BitSlot.stretch) width := by
  induction fields generalizing cursor index with
  | nil =>
      have hgap : Tiles cursor ((BitSlot.gap index cursor width ++ []).map BitSlot.stretch) width :=
        (BitSlot.tiles_gap_append hcursor []).mpr rfl
      rwa [List.append_nil] at hgap
  | cons f rest ih =>
      obtain ⟨⟨hoffset, hend⟩, hrest⟩ := List.forall_mem_cons.mp hall
      obtain ⟨hnext, hpairs⟩ := List.pairwise_cons.mp hpairs
      rw [bitSlots_cons, BitSlot.tiles_gap_append hoffset, List.map_cons]
      -- The field's own end is the cursor for what comes after it.
      refine ⟨rfl, ?_⟩
      exact ih _ hend (fun g hg => ⟨hnext g hg, (hrest g hg).2⟩) hpairs

/-- The slots account for each bit of the register: they follow one another from bit zero to its width,
the fields among them are its fields in order, and the others are gaps, numbered from zero on, none of
them empty or next to another one. -/
structure Register.IsTiledBy (r : Register) (slots : List BitSlot) : Prop where
  tiles : Tiles 0 (slots.map BitSlot.stretch) r.bitWidth
  total : (slots.map BitSlot.bitWidth).sum = r.bitWidth
  fields : slots.filterMap BitSlot.field? = r.bitfields
  unused_pos : ∀ index offset width, .unused index offset width ∈ slots → 0 < width
  unused_apart : slots.IsChain fun s t => s.index? = none ∨ t.index? = none
  unused_numbered :
    slots.filterMap BitSlot.index? = List.range (slots.filterMap BitSlot.index?).length

theorem Register.WellFormed.isTiledBy {r : Register} (h : r.WellFormed) :
    r.IsTiledBy r.bitLayout := by
  have htiles : Tiles 0 (r.bitLayout.map BitSlot.stretch) r.bitWidth :=
    tiles_bitSlots 0 (Nat.zero_le _) (fun f hf => ⟨Nat.zero_le _, h.bounded f hf⟩) h.ordered
  have hsum := htiles.sum_eq
  obtain ⟨count, hcount⟩ := index?_bitSlots r.bitWidth 0 0 r.bitfields
  rw [Nat.zero_add, List.map_map] at hsum
  refine
    { tiles := htiles
      total := hsum
      fields := field?_bitSlots r.bitWidth 0 0 r.bitfields
      unused_pos := ?_
      unused_apart := isChain_bitSlots r.bitWidth 0 0 r.bitfields
      unused_numbered := ?_ }
  · intro index offset width hmem
    exact bitWidth_pos_of_mem_bitSlots (fun f hf => (h.fields f hf).bitWidth_pos) hmem
  · unfold Register.bitLayout
    rw [hcount, List.length_range', List.range_eq_range']

namespace Header

/-- The declarations with the bits that they take, from the first one up to the one after the last, when
they are packed one after another from bit `start` upwards. -/
def pack (start : Nat) : List BitMember → List (BitMember × Nat × Nat)
  | [] => []
  | m :: rest => (m, start, start + m.width) :: pack (start + m.width) rest

theorem BitMember.width_ofSlot (format : Format) (s : BitSlot) :
    (BitMember.ofSlot format s).width = s.bitWidth := by
  cases s <;> rfl

/-- Declarations for slots that follow one another take the bits of their slots. -/
theorem pack_of_tiles (format : Format) {start stop : Nat} {slots : List BitSlot}
    (h : Tiles start (slots.map BitSlot.stretch) stop) :
    pack start (slots.map (BitMember.ofSlot format)) =
      slots.map fun s => (BitMember.ofSlot format s, s.bitOffset, s.bitEnd) := by
  induction slots generalizing start with
  | nil => rfl
  | cons s rest ih =>
      obtain ⟨hstart, hrest⟩ := h
      simp only [List.map_cons, pack, BitMember.width_ofSlot]
      rw [ih hrest]
      subst hstart
      rfl

/-- Packed from bit zero upwards, the declarations of the overlay put each field of the register on the
field's own bits and fill the storage unit, which has the register's width. -/
structure Overlay.Fills (o : Overlay) (format : Format) (r : Register) : Prop where
  unit : 8 * o.storage.bytes = r.bitWidth
  packed : pack 0 o.members =
    r.bitLayout.map fun s => (BitMember.ofSlot format s, s.bitOffset, s.bitEnd)
  landed : ∀ f ∈ r.bitfields,
    (BitMember.ofSlot format (.field f), f.bitOffset, f.bitEnd) ∈ pack 0 o.members
  filled : (o.members.map BitMember.width).sum = 8 * o.storage.bytes

theorem bytes_ofBits {width : Nat} (h : width ∈ Register.widths) :
    8 * (Storage.ofBits width).bytes = width := by
  simp only [Register.widths, List.mem_cons, List.not_mem_nil, or_false] at h
  rcases h with rfl | rfl | rfl | rfl <;> rfl

theorem Overlay.fills_ofRegister (format : Format) (p : Peripheral) {r : Register}
    (h : r.WellFormed) : (Overlay.ofRegister format p r).Fills format r := by
  have htiled := h.isTiledBy
  have hunit : 8 * (Storage.ofBits r.bitWidth).bytes = r.bitWidth := bytes_ofBits h.bitWidth_mem
  have hpacked : pack 0 (Overlay.ofRegister format p r).members = _ :=
    pack_of_tiles format htiled.tiles
  refine { unit := hunit, packed := hpacked, landed := ?_, filled := ?_ }
  · intro f hf
    rw [← htiled.fields] at hf
    obtain ⟨s, hs, hfield⟩ := List.mem_filterMap.mp hf
    rw [hpacked]
    refine List.mem_map.mpr ⟨s, hs, ?_⟩
    cases s with
    | field g =>
        obtain rfl := Option.some.inj hfield
        rfl
    | unused index offset width => cases hfield
  -- Declarations are as wide as their slots, which add up to the width of the register.
  · show ((r.bitLayout.map (BitMember.ofSlot format)).map BitMember.width).sum =
      8 * (Storage.ofBits r.bitWidth).bytes
    rw [hunit, ← htiled.total, List.map_map]
    congr 2
    funext s
    exact BitMember.width_ofSlot format s

end Header

/-- The layout of a validated register accounts for each of its bits exactly once, and its declarations
put each field where it belongs. -/
theorem Register.bitLayout_fills (format : Header.Format) (p : Peripheral) {r : Register}
    (hr : r.Validated) :
    r.IsTiledBy r.bitLayout ∧ (Header.Overlay.ofRegister format p r).Fills format r :=
  ⟨hr.wellFormed.isTiledBy, Header.Overlay.fills_ofRegister format p hr.wellFormed⟩

/-- A register with bits left before, between and after its fields. -/
def gappedRegister : Register where
  name := "CTL"
  description := "control"
  bitWidth := 16
  addressOffset := 4
  bitfields := [⟨"EN", "enable", 2, 3, .readWrite, 5⟩, ⟨"MODE", "mode", 8, 2, .readOnly, 0⟩]

theorem validated_gappedRegister : gappedRegister.Validated := by
  refine ⟨⟨"CTL", "control", 16, 4, [⟨"MODE", "mode", 8, 2, .readOnly, 0⟩,
    ⟨"EN", "enable", 2, 3, .readWrite, 5⟩]⟩, ?_, by cbv⟩
  simp only [List.forall_mem_cons, List.not_mem_nil, false_implies, implies_true, and_true]
  exact ⟨⟨⟨"MODE", "mode", 8, 2, .readOnly, 0⟩, by cbv⟩,
    ⟨⟨"EN", "enable", 2, 3, .readWrite, 5⟩, by cbv⟩⟩

theorem bitLayout_gappedRegister :
    gappedRegister.Validated ∧
      gappedRegister.bitLayout.map BitSlot.stretch = [(0, 2), (2, 3), (5, 3), (8, 2), (10, 6)] ∧
      gappedRegister.IsTiledBy gappedRegister.bitLayout ∧
      (Header.Overlay.ofRegister .standard ⟨"TIMER", "timer", [gappedRegister], []⟩
        gappedRegister).Fills .standard gappedRegister :=
  ⟨validated_gappedRegister, by decide,
    Register.bitLayout_fills .standard _ validated_gappedRegister⟩

end RegisterMap
