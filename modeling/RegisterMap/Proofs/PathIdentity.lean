import RegisterMap.Proofs.Reading
import RegisterMap.Proofs.Walks

/-!
# The identity of paths

When two paths name one document.  A normal form is reached by folding the steps of a path one by one into
a stack (`Path.folded`).  The stack only ever holds names upon the root or names upon a run of `..`
(`Path.IsFolded`), which is what a normal form looks like.

Two facts carry the rest.  A normal form is read back as the steps it was written from
(`Path.components_normalize`), and to fold these once more changes nothing.  So a path and its normal form
can stand for each other in front of any further steps, and a document is found under all spellings of its
path.

That the normal form is the right one is said without it: two paths have one normal form exactly if they
lead to the same place from each directory (`Path.normalize_eq_iff`), as long as every name leads where it
says.
-/

namespace RegisterMap

theorem Text.pieces_append_cons {isSeparator : Char → Bool} {separator : Char}
    (h : isSeparator separator = true) (front rest : List Char) :
    pieces isSeparator (front ++ separator :: rest) =
      pieces isSeparator front ++ pieces isSeparator rest := by
  rw [pieces_eq_splitOnP, pieces_eq_splitOnP, pieces_eq_splitOnP]
  exact List.splitOnP_append_cons front rest h

namespace Path

/-! ### Steps behind a slash -/

/-- The step is read off its own text, wherever that stands behind a slash. -/
structure Component.IsLegible (step : Component) : Prop where
  read : ofSegment? step.text.toList = some step
  no_slash : '/' ∉ step.text.toList

theorem Component.toList_text {segment : List Char} {step : Component}
    (h : ofSegment? segment = some step) : step.text.toList = segment := by
  unfold ofSegment? at h
  split at h
  · cases h
  · cases h
  · cases h
    rfl
  · cases h
    exact String.toList_ofList

/-- The steps of a path without what it begins at. -/
def steps (p : Path) : List Component :=
  p.segments.filterMap Component.ofSegment?

/-- A step of a path is a name without a slash, or `..`: what else stands between slashes is left out. -/
theorem isLegible_of_mem_steps {p : Path} {step : Component} (h : step ∈ p.steps) :
    step.IsLegible := by
  obtain ⟨segment, hsegment, hread⟩ := List.mem_filterMap.mp h
  have htext := Component.toList_text hread
  exact ⟨htext ▸ hread, htext ▸ not_mem_of_mem_segments hsegment⟩

theorem Component.IsLegible.ne_root {step : Component} (h : step.IsLegible) : step ≠ .root := by
  rintro rfl
  cases h.read

/-- A path begins at the root, or with a dot, or with its first step. -/
theorem components_cases (p : Path) :
    (p.isAbsolute = true ∧ p.components = .root :: p.steps) ∨
      (p.isAbsolute = false ∧ (p.components = p.steps ∨ p.components = .current :: p.steps)) := by
  obtain ⟨first, rest, hsegments⟩ :=
    List.exists_cons_of_ne_nil (Text.pieces_ne_nil (· == '/') p.text.toList)
  change p.segments = first :: rest at hsegments
  have hempty : Component.ofSegment? [] = none := rfl
  have hdot : Component.ofSegment? ['.'] = none := rfl
  rw [isAbsolute_of_segments hsegments, components, steps, hsegments, List.filterMap_cons]
  by_cases hfirst : first = []
  · cases rest with
    | nil => simp [hfirst, hempty]
    | cons second more => simp [hfirst, hempty]
  · by_cases hcurrent : first = ['.']
    · simp [hcurrent, hdot]
    · simp [hfirst, hcurrent, List.filterMap_cons]

/-! ### Steps that are kept -/

/-- The steps that are kept of a path, the last one first. -/
def folded (p : Path) : List Component :=
  p.components.foldl foldStep []

theorem normalize_eq (p : Path) : p.normalize = ofComponents p.folded.reverse :=
  rfl

/-- What a path begins at is kept if it is the root, and else is nothing. -/
theorem folded_eq (p : Path) :
    p.folded = p.steps.foldl foldStep (if p.isAbsolute then [.root] else []) := by
  rcases components_cases p with ⟨habsolute, hp⟩ | ⟨habsolute, hp | hp⟩ <;>
    rw [folded, hp, habsolute] <;> rfl

/-- Kept steps are names upon the root, or names upon a run of `..`. -/
def IsFolded (kept : List Component) : Prop :=
  ∃ (names : List String) (base : List Component), kept = names.map Component.name ++ base ∧
    (base = [.root] ∨ ∃ count, base = List.replicate count .parent)

/-- A `..` takes away the last name, is dropped at the root, and joins the run of its like otherwise. -/
theorem isFolded_foldStep {kept : List Component} {step : Component} (h : IsFolded kept)
    (hstep : step ≠ .root) : IsFolded (foldStep kept step) := by
  obtain ⟨names, base, rfl, hbase⟩ := h
  cases step with
  | root => exact absurd rfl hstep
  | current => exact ⟨names, base, rfl, hbase⟩
  | name text => exact ⟨text :: names, base, rfl, hbase⟩
  | parent =>
      cases names with
      | cons name names => exact ⟨names, base, rfl, hbase⟩
      | nil =>
          rcases hbase with rfl | ⟨count, rfl⟩
          · exact ⟨[], [.root], rfl, .inl rfl⟩
          · refine ⟨[], List.replicate (count + 1) .parent, ?_, .inr ⟨count + 1, rfl⟩⟩
            cases count <;> rfl

theorem isFolded_foldl {kept steps : List Component} (h : IsFolded kept)
    (hsteps : ∀ step ∈ steps, step ≠ .root) : IsFolded (steps.foldl foldStep kept) := by
  induction steps generalizing kept with
  | nil => exact h
  | cons step steps ih =>
      rw [List.forall_mem_cons] at hsteps
      exact ih (isFolded_foldStep h hsteps.1) hsteps.2

theorem isFolded_folded (p : Path) : IsFolded p.folded := by
  rw [folded_eq]
  refine isFolded_foldl ?_ fun step hstep => (isLegible_of_mem_steps hstep).ne_root
  split
  · exact ⟨[], [.root], rfl, .inl rfl⟩
  · exact ⟨[], [], rfl, .inr ⟨0, rfl⟩⟩

theorem mem_of_mem_foldStep {kept : List Component} {step other : Component}
    (h : other ∈ foldStep kept step) : other ∈ kept ∨ other = step := by
  cases step with
  | root => exact (List.mem_cons.mp h).symm
  | current => exact .inl h
  | name text => exact (List.mem_cons.mp h).symm
  | parent =>
      cases kept with
      | nil => exact (List.mem_cons.mp h).symm
      | cons top outer =>
          cases top with
          | root => exact .inl h
          | current => exact (List.mem_cons.mp h).symm
          | parent => exact (List.mem_cons.mp h).symm
          | name text => exact .inl (List.mem_cons_of_mem _ h)

/-- Folding adds no step of its own. -/
theorem mem_of_mem_foldl {kept steps : List Component} {step : Component}
    (h : step ∈ steps.foldl foldStep kept) : step ∈ kept ∨ step ∈ steps := by
  induction steps generalizing kept with
  | nil => exact .inl h
  | cons first steps ih =>
      rcases ih h with hkept | hrest
      · rcases mem_of_mem_foldStep hkept with hkept | rfl
        · exact .inl hkept
        · exact .inr List.mem_cons_self
      · exact .inr (List.mem_cons_of_mem first hrest)

theorem isLegible_of_mem_folded {p : Path} {step : Component} (h : step ∈ p.folded)
    (hne : step ≠ .root) : step.IsLegible := by
  rw [folded_eq] at h
  rcases mem_of_mem_foldl h with hstart | hstep
  · split at hstart
    · exact absurd (List.mem_singleton.mp hstart) hne
    · cases hstart
  · exact isLegible_of_mem_steps hstep

/-- What is kept is not folded any further. -/
theorem foldl_reverse_of_isFolded {kept : List Component} (h : IsFolded kept) :
    kept.reverse.foldl foldStep [] = kept := by
  obtain ⟨names, base, rfl, hbase⟩ := h
  induction names with
  | cons name names ih =>
      rw [List.map_cons, List.cons_append, List.reverse_cons, List.foldl_append, ih]
      rfl
  | nil =>
      rcases hbase with rfl | ⟨count, rfl⟩
      · rfl
      · induction count with
        | zero => rfl
        | succ count ih =>
            rw [List.map_nil, List.nil_append] at ih ⊢
            rw [List.replicate_succ, List.reverse_cons, List.foldl_append, ih]
            cases count <;> rfl

/-! ### Normal forms are read back -/

theorem segments_ofComponents {steps : List Component} (hne : steps ≠ [])
    (hroot : steps ≠ [.root]) (h : ∀ step ∈ steps, '/' ∉ step.text.toList) :
    (ofComponents steps).segments = steps.map fun step => step.text.toList := by
  have htext : ofComponents steps = ofSegments (steps.map fun step => step.text.toList) := by
    rw [ofComponents, ofSegments, Path.mk.injEq, ← String.toList_inj, String.toList_intercalate,
      String.toList_ofList, String.toList_ofList, List.map_map]
    · rfl
    · exact hroot
  rw [htext]
  refine segments_ofSegments (by simpa using hne) ?_
  simpa using h

theorem filterMap_ofSegment?_text {steps : List Component} (h : ∀ step ∈ steps, step.IsLegible) :
    (steps.map fun step => step.text.toList).filterMap Component.ofSegment? = steps := by
  rw [List.filterMap_map]
  have hread : ∀ step ∈ steps,
      (Component.ofSegment? ∘ fun step => step.text.toList) step = some step :=
    fun step hstep => (h step hstep).read
  rw [List.filterMap_congr hread, List.filterMap_some]

/-- Steps that can be read back begin neither with an empty segment nor with a dot, so that nothing is put
in front of them. -/
theorem components_ofComponents {steps : List Component} (h : ∀ step ∈ steps, step.IsLegible) :
    (ofComponents steps).components = steps := by
  cases steps with
  | nil => rfl
  | cons first rest =>
      have hfirst := h first List.mem_cons_self
      have hsegments := segments_ofComponents (List.cons_ne_nil first rest)
        (fun heq => hfirst.ne_root (List.cons.inj heq).1) fun step hstep => (h step hstep).no_slash
      have hsteps := filterMap_ofSegment?_text h
      have hempty : first.text.toList ≠ [] := by
        intro heq
        have hread := hfirst.read
        rw [heq] at hread
        cases hread
      have hcurrent : first.text.toList ≠ ['.'] := by
        intro heq
        have hread := hfirst.read
        rw [heq] at hread
        cases hread
      rw [components, hsegments]
      simpa [hempty, hcurrent] using hsteps

theorem components_ofComponents_root {steps : List Component}
    (h : ∀ step ∈ steps, step.IsLegible) :
    (ofComponents (.root :: steps)).components = .root :: steps := by
  cases steps with
  | nil => rfl
  | cons first rest =>
      have hslash : ∀ step ∈ Component.root :: first :: rest, '/' ∉ step.text.toList :=
        List.forall_mem_cons.mpr ⟨by decide, fun step hstep => (h step hstep).no_slash⟩
      have hsegments := segments_ofComponents (List.cons_ne_nil _ _) (by simp) hslash
      have hsteps := filterMap_ofSegment?_text h
      have hroot : Component.root.text.toList = [] := rfl
      rw [components, hsegments, List.map_cons, hroot]
      simpa using hsteps

theorem components_normalize (p : Path) : p.normalize.components = p.folded.reverse := by
  -- Names and `..` can be read back; the root can be only in front, where nothing is before its slash.
  have hlegible := fun step (hstep : step ∈ p.folded) => isLegible_of_mem_folded hstep
  obtain ⟨names, base, hfolded, hbase⟩ := isFolded_folded p
  have hnames : ∀ step ∈ (names.map Component.name).reverse, step.IsLegible := by
    intro step hstep
    obtain ⟨text, htext, rfl⟩ := List.mem_map.mp (List.mem_reverse.mp hstep)
    refine hlegible _ ?_ (by simp)
    rw [hfolded]
    exact List.mem_append_left _ (List.mem_map_of_mem htext)
  rw [normalize_eq, hfolded, List.reverse_append]
  rcases hbase with rfl | ⟨count, rfl⟩
  · exact components_ofComponents_root hnames
  · refine components_ofComponents ?_
    intro step hstep
    rcases List.mem_append.mp hstep with hparent | hname
    · obtain rfl := List.eq_of_mem_replicate (List.mem_reverse.mp hparent)
      exact ⟨rfl, by decide⟩
    · exact hnames step hname

theorem folded_normalize (p : Path) : p.normalize.folded = p.folded := by
  rw [folded, components_normalize]
  exact foldl_reverse_of_isFolded (isFolded_folded p)

theorem normalize_normalize (p : Path) : p.normalize.normalize = p.normalize := by
  rw [normalize_eq, folded_normalize, normalize_eq]

/-- No step of the path is a dot, and a `..` only follows other ones at the front of a path that does not
begin at the root. -/
structure IsNormal (p : Path) : Prop where
  no_current : .current ∉ p.components
  parents_first : ∃ count rest, p.components = List.replicate count .parent ++ rest ∧ .parent ∉ rest
  no_parent : p.isAbsolute = true → .parent ∉ p.components

theorem isNormal_normalize (p : Path) : p.normalize.IsNormal := by
  obtain ⟨names, base, hfolded, hbase⟩ := isFolded_folded p
  have hcomponents : p.normalize.components = base.reverse ++ (names.map Component.name).reverse := by
    rw [components_normalize, hfolded, List.reverse_append]
  rcases hbase with rfl | ⟨count, rfl⟩
  · refine ⟨?_, ⟨0, _, hcomponents, by simp⟩, fun _ => ?_⟩
    · rw [hcomponents]
      simp
    · rw [hcomponents]
      simp
  · rw [List.reverse_replicate] at hcomponents
    refine ⟨?_, ⟨count, _, hcomponents, by simp⟩, fun habsolute => ?_⟩
    · rw [hcomponents]
      simp
    · rcases components_cases p.normalize with ⟨-, hroot⟩ | ⟨hrelative, -⟩
      · -- Nothing that is kept is the root here.
        have hmem : Component.root ∈ p.normalize.components := by
          rw [hroot]
          exact List.mem_cons_self
        rw [hcomponents] at hmem
        simp at hmem
      · rw [habsolute] at hrelative
        cases hrelative

/-! ### Joined paths -/

theorem join_of_text_eq_empty {base : Path} (h : base.text = "") (p : Path) : base.join p = p := by
  simp [join, h]

/-- A path is joined to a base behind a slash, which is the base's own if that ends in one. -/
theorem exists_front_of_join {base p : Path} (hbase : base.text ≠ "") (hp : p.isAbsolute = false) :
    ∃ front, (base.join p).text.toList = front ++ '/' :: p.text.toList ∧
      (base.text.toList = front ∨ base.text.toList = front ++ ['/']) := by
  unfold join
  rw [hp, Bool.false_or, if_neg (by simpa using hbase)]
  split
  · next hslash =>
    obtain ⟨front, hfront⟩ := List.getLast?_eq_some_iff.mp (beq_iff_eq.mp hslash)
    refine ⟨front, ?_, .inr hfront⟩
    rw [String.toList_append, hfront, List.append_assoc]
    rfl
  · refine ⟨base.text.toList, ?_, .inl rfl⟩
    rw [String.toList_append, String.toList_append, List.append_assoc]
    rfl

/-- The steps of a joined path are those of both, whether or not there is a slash to put between them. -/
theorem steps_join {p : Path} (base : Path) (hp : p.isAbsolute = false) :
    (base.join p).steps = base.steps ++ p.steps := by
  by_cases hbase : base.text = ""
  · have hnone : base.steps = [] := by
      rw [steps, segments, hbase]
      rfl
    rw [join_of_text_eq_empty hbase, hnone, List.nil_append]
  · obtain ⟨front, hjoin, hfront⟩ := exists_front_of_join hbase hp
    have hpieces : ∀ rest, Text.pieces (· == '/') (front ++ '/' :: rest) =
        Text.pieces (· == '/') front ++ Text.pieces (· == '/') rest :=
      Text.pieces_append_cons (by decide) front
    simp only [steps, segments, hjoin, hpieces, List.filterMap_append]
    rcases hfront with hfront | hfront
    · rw [hfront]
    · -- A slash at the end adds an empty segment, which is no step.
      rw [hfront, hpieces, List.filterMap_append]
      exact congrArg (· ++ _) (List.append_nil _).symm

theorem isAbsolute_join {p : Path} (base : Path) (hp : p.isAbsolute = false) :
    (base.join p).isAbsolute = base.isAbsolute := by
  by_cases hbase : base.text = ""
  · rw [join_of_text_eq_empty hbase, hp, isAbsolute, hbase]
    rfl
  · obtain ⟨front, hjoin, hfront⟩ := exists_front_of_join hbase hp
    rw [isAbsolute, isAbsolute, hjoin]
    rcases hfront with hfront | hfront
    · cases front with
      | nil => exact absurd (String.toList_eq_nil_iff.mp hfront) hbase
      | cons c front => rw [hfront]; rfl
    · rw [hfront]
      cases front <;> rfl

/-- A path that begins at the root stands for itself; the steps of any other one are folded into what is kept
of the base. -/
theorem folded_join (base p : Path) :
    (base.join p).folded =
      if p.isAbsolute then p.folded else p.steps.foldl foldStep base.folded := by
  cases habsolute : p.isAbsolute with
  | true =>
      have hjoin : base.join p = p := by simp [join, habsolute]
      rw [hjoin]
      rfl
  | false =>
      rw [folded_eq, steps_join base habsolute, isAbsolute_join base habsolute, List.foldl_append,
        ← folded_eq]
      rfl

/-- A base may be replaced by its normal form before anything is joined to it. -/
theorem normalize_join (base p : Path) :
    (base.join p).normalize = (base.normalize.join p).normalize := by
  rw [normalize_eq, normalize_eq, folded_join, folded_join, folded_normalize]

/-! ### Where paths lead -/

/-- The place that a step leads to from another one.  A place is given by the names on the way to it from
the root, the last one first. -/
def Component.follow (place : List String) : Component → List String
  | root => []
  | current => place
  | parent => place.tail
  | name text => text :: place

/-- The place that a path leads to from a directory, if all names on the way are those of directories. -/
def destination (p : Path) (start : List String) : List String :=
  p.components.foldl Component.follow start

/-- Folding a step and following it come to the same place.  The `..` after a name leads back to where the
name was followed from, and at the root it leads nowhere. -/
theorem foldl_follow_foldStep (kept : List Component) (step : Component) (start : List String) :
    (foldStep kept step).reverse.foldl Component.follow start =
      Component.follow (kept.reverse.foldl Component.follow start) step := by
  have hpush : ∀ top outer, (top :: outer).reverse.foldl Component.follow start =
      Component.follow (outer.reverse.foldl Component.follow start) top := by
    intro top outer
    rw [List.reverse_cons, List.foldl_append]
    rfl
  cases step with
  | root => exact hpush .root kept
  | current => rfl
  | name text => exact hpush (.name text) kept
  | parent =>
      cases kept with
      | nil => rfl
      | cons top outer =>
          cases top with
          | root => rw [foldStep, hpush]; rfl
          | current => exact hpush .parent (.current :: outer)
          | parent => exact hpush .parent (.parent :: outer)
          | name text => rw [foldStep, hpush]; rfl

theorem foldl_follow_foldl (steps kept : List Component) (start : List String) :
    (steps.foldl foldStep kept).reverse.foldl Component.follow start =
      steps.foldl Component.follow (kept.reverse.foldl Component.follow start) := by
  induction steps generalizing kept with
  | nil => rfl
  | cons step steps ih => rw [List.foldl_cons, List.foldl_cons, ih, foldl_follow_foldStep]

/-- What is kept of a path leads where the path does. -/
theorem destination_eq (p : Path) (start : List String) :
    p.destination start = p.folded.reverse.foldl Component.follow start :=
  (foldl_follow_foldl p.components [] start).symm

theorem destination_normalize (p : Path) (start : List String) :
    p.normalize.destination start = p.destination start := by
  rw [destination_eq, folded_normalize, ← destination_eq]

theorem foldl_follow_names (names : List String) (base : List Component) (start : List String) :
    (names.map Component.name ++ base).reverse.foldl Component.follow start =
      names ++ base.reverse.foldl Component.follow start := by
  induction names with
  | nil => rfl
  | cons name names ih =>
      rw [List.map_cons, List.cons_append, List.reverse_cons, List.foldl_append, ih]
      rfl

/-- A `..` in the root stays in the root, as dropping from an empty list does. -/
theorem foldl_follow_parents (count : Nat) (start : List String) :
    (List.replicate count Component.parent).reverse.foldl Component.follow start =
      start.drop count := by
  induction count with
  | zero => rfl
  | succ count ih =>
      rw [List.replicate_succ, List.reverse_cons, List.foldl_append, ih]
      exact List.tail_drop

/-- A path that begins at the root leads to one place only, and any other one to places of any depth. -/
theorem not_forall_eq_append_drop (names names' : List String) (count : Nat) :
    ¬∀ start : List String, names = names' ++ start.drop count := by
  intro h
  -- A directory so deep that more names than there are stay after the climb.
  have hlength := congrArg List.length (h (List.replicate (count + names.length + 1) ""))
  rw [List.length_append, List.length_drop, List.length_replicate] at hlength
  omega

/-- How far a path climbs shows in the directories that are left of a deep one. -/
theorem eq_of_append_drop_eq {names names' : List String} {count count' : Nat}
    (hle : count ≤ count')
    (h : ∀ start : List String, names ++ start.drop count = names' ++ start.drop count') :
    names = names' ∧ count = count' := by
  -- Out of a directory that is just deep enough, only the names of the second path are left.
  have hdeep : ∀ text, names ++ List.replicate (count' - count) text = names' := by
    intro text
    have hstart := h (List.replicate count' text)
    rwa [List.drop_replicate, List.drop_replicate, Nat.sub_self, List.replicate_zero,
      List.append_nil] at hstart
  have hsame := List.append_cancel_left ((hdeep "a").trans (hdeep "b").symm)
  have hcount : count' - count = 0 := by
    by_contra hpos
    have hmem : "a" ∈ List.replicate (count' - count) "b" :=
      hsame ▸ List.mem_replicate.mpr ⟨hpos, rfl⟩
    exact absurd (List.eq_of_mem_replicate hmem) (by decide)
  have hnames := hdeep "a"
  rw [hcount, List.replicate_zero, List.append_nil] at hnames
  exact ⟨hnames, by omega⟩

/-- Kept steps that lead to the same place from each directory are the same. -/
theorem eq_of_foldl_follow_eq {kept kept' : List Component} (h : IsFolded kept) (h' : IsFolded kept')
    (heq : ∀ start, kept.reverse.foldl Component.follow start =
      kept'.reverse.foldl Component.follow start) : kept = kept' := by
  obtain ⟨names, base, rfl, hbase⟩ := h
  obtain ⟨names', base', rfl, hbase'⟩ := h'
  have hroot : ∀ start, [Component.root].reverse.foldl Component.follow start = [] := fun _ => rfl
  simp only [foldl_follow_names] at heq
  -- Each of the two begins at the root or climbs; if only one of them climbs they part in a deep
  -- directory.
  rcases hbase with rfl | ⟨count, rfl⟩ <;> rcases hbase' with rfl | ⟨count', rfl⟩ <;>
    simp only [hroot, foldl_follow_parents, List.append_nil, forall_const] at heq
  · rw [heq]
  · exact absurd heq (not_forall_eq_append_drop names names' count')
  · exact absurd (fun start => (heq start).symm) (not_forall_eq_append_drop names' names count)
  · rcases Nat.le_total count count' with hle | hle
    · obtain ⟨rfl, rfl⟩ := eq_of_append_drop_eq hle heq
      rfl
    · obtain ⟨rfl, rfl⟩ := eq_of_append_drop_eq hle fun start => (heq start).symm
      rfl

/-- Paths have one normal form exactly if they lead to the same place from each directory. -/
theorem normalize_eq_iff {p q : Path} :
    p.normalize = q.normalize ↔ ∀ start, p.destination start = q.destination start := by
  constructor
  · intro h start
    rw [← destination_normalize p, h, destination_normalize]
  · intro h
    have hfolded : p.folded = q.folded := by
      refine eq_of_foldl_follow_eq (isFolded_folded p) (isFolded_folded q) ?_
      intro start
      rw [← destination_eq, ← destination_eq, h]
    rw [normalize_eq, normalize_eq, hfolded]

end Path

/-! ### Documents under their paths -/

namespace Archive

/-- The archive that a sequence of documents gives, put into it one after another. -/
def ofInsertions (insertions : List (Path × String)) : Archive :=
  insertions.foldl (fun archive entry => archive.insert entry.1 entry.2) empty

/-- The text was put in under some spelling of the path, and nothing under any of them after it. -/
def IsLastText (insertions : List (Path × String)) (p : Path) (text : String) : Prop :=
  ∃ before path after, insertions = before ++ (path, text) :: after ∧
    path.normalize = p.normalize ∧ ∀ entry ∈ after, entry.1.normalize ≠ p.normalize

theorem get?_ofInsertions_concat (insertions : List (Path × String)) (path p : Path)
    (text : String) :
    (ofInsertions (insertions ++ [(path, text)])).get? p =
      if p.normalize = path.normalize then some text else (ofInsertions insertions).get? p := by
  rw [ofInsertions, List.foldl_append]
  exact get?_insert (ofInsertions insertions) path p text

theorem get?_ofInsertions_eq_none_iff {insertions : List (Path × String)} {p : Path} :
    (ofInsertions insertions).get? p = none ↔
      ∀ entry ∈ insertions, entry.1.normalize ≠ p.normalize := by
  induction insertions using List.reverseRecOn with
  | nil => simp [ofInsertions, empty, get?]
  | append_singleton insertions entry ih =>
      obtain ⟨path, text⟩ := entry
      rw [get?_ofInsertions_concat, List.forall_mem_append, List.forall_mem_singleton, ← ih]
      split_ifs with hpath
      · simp [hpath]
      · exact (and_iff_left (Ne.symm hpath)).symm

/-- A new text hides those put in before it under the same path, and no other ones. -/
theorem isLastText_concat_iff {insertions : List (Path × String)} {path p : Path}
    {last text : String} :
    IsLastText (insertions ++ [(path, last)]) p text ↔
      (path.normalize = p.normalize ∧ last = text) ∨
        (path.normalize ≠ p.normalize ∧ IsLastText insertions p text) := by
  constructor
  · rintro ⟨before, q, after, hsplit, hq, hafter⟩
    -- Either nothing comes after the text, which then is the new one, or the new one does.
    rcases List.eq_nil_or_concat after with rfl | ⟨after, entry, rfl⟩
    · obtain ⟨-, hentry⟩ := List.append_inj' hsplit rfl
      obtain ⟨rfl, rfl⟩ := Prod.mk.inj (List.singleton_inj.mp hentry)
      exact .inl ⟨hq, rfl⟩
    · rw [List.concat_eq_append] at hsplit hafter
      rw [← List.cons_append, ← List.append_assoc] at hsplit
      obtain ⟨rfl, hentry⟩ := List.append_inj' hsplit rfl
      rw [List.forall_mem_append, List.forall_mem_singleton, ← List.singleton_inj.mp hentry]
        at hafter
      exact .inr ⟨hafter.2, before, q, after, rfl, hq, hafter.1⟩
  · rintro (⟨hpath, rfl⟩ | ⟨hpath, before, q, after, rfl, hq, hafter⟩)
    · exact ⟨insertions, path, [], rfl, hpath, by simp⟩
    · refine ⟨before, q, after ++ [(path, last)], by simp, hq, ?_⟩
      rw [List.forall_mem_append, List.forall_mem_singleton]
      exact ⟨hafter, hpath⟩

/-- What is found is the text that was put in last.  The induction is on the insertions from the last one
back. -/
theorem get?_ofInsertions_eq_some_iff {insertions : List (Path × String)} {p : Path}
    {text : String} :
    (ofInsertions insertions).get? p = some text ↔ IsLastText insertions p text := by
  induction insertions using List.reverseRecOn with
  | nil => simp [ofInsertions, empty, get?, IsLastText]
  | append_singleton insertions entry ih =>
      obtain ⟨path, last⟩ := entry
      rw [get?_ofInsertions_concat, isLastText_concat_iff, ← ih]
      split_ifs with hpath
      · simp [hpath]
      · simp [Ne.symm hpath]

theorem read_eq_ok_iff_get? {archive : Archive} {p : Path} {text : String} :
    archive.source.read p = .ok text ↔ archive.get? p = some text := by
  cases hget : archive.get? p <;> simp [source, hget]

theorem read_eq_error_iff_get? {archive : Archive} {p : Path} :
    archive.source.read p = .error (.unknown p) ↔ archive.get? p = none := by
  cases hget : archive.get? p <;> simp [source, hget]

/-- Paths with one normal form find the same document. -/
theorem get?_eq_of_same {archive : Archive} {p q : Path} (h : archive.source.same p q = true) :
    archive.get? p = archive.get? q := by
  have hnormal : p.normalize = q.normalize := beq_iff_eq.mp h
  rw [get?, get?, hnormal]

end Archive

/-- The identity of paths is consistent: a normal form is its own, has no dot and no `..` but in front,
stands for its path as a base of any other one, and says where the path leads.  So an archive has under
each path the text that was put in last under any spelling of it. -/
theorem Path.identity_consistent :
    (∀ p : Path, p.normalize.normalize = p.normalize ∧ p.normalize.IsNormal) ∧
      (∀ p q : Path, p.normalize = q.normalize ↔
        ∀ start, p.destination start = q.destination start) ∧
      (∀ base p : Path, (base.join p).normalize = (base.normalize.join p).normalize) ∧
      (∀ (insertions : List (Path × String)) (p : Path),
        (∀ text, (Archive.ofInsertions insertions).source.read p = .ok text ↔
          Archive.IsLastText insertions p text) ∧
        ((Archive.ofInsertions insertions).source.read p = .error (.unknown p) ↔
          ∀ entry ∈ insertions, entry.1.normalize ≠ p.normalize)) ∧
      ∀ (archive : Archive) (p q : Path), archive.source.same p q = true →
        (∃ text, archive.source.read p = .ok text ∧ archive.source.read q = .ok text) ∨
          (archive.source.read p = .error (.unknown p) ∧
            archive.source.read q = .error (.unknown q)) := by
  refine ⟨fun p => ⟨normalize_normalize p, isNormal_normalize p⟩, fun p q => normalize_eq_iff,
    normalize_join, fun insertions p => ⟨fun text => ?_, ?_⟩, fun archive p q hsame => ?_⟩
  · rw [Archive.read_eq_ok_iff_get?, Archive.get?_ofInsertions_eq_some_iff]
  · rw [Archive.read_eq_error_iff_get?, Archive.get?_ofInsertions_eq_none_iff]
  · have hget := Archive.get?_eq_of_same hsame
    cases hq : archive.get? q with
    | none =>
        rw [hq] at hget
        exact .inr ⟨Archive.read_eq_error_iff_get?.mpr hget, Archive.read_eq_error_iff_get?.mpr hq⟩
    | some text =>
        rw [hq] at hget
        exact .inl ⟨text, Archive.read_eq_ok_iff_get?.mpr hget,
          Archive.read_eq_ok_iff_get?.mpr hq⟩

/-- Documents put in under several spellings of two paths. -/
def respelled : List (Path × String) :=
  [(⟨"dev/UART.xml"⟩, "<old/>"), (⟨"dev//x/.././UART.xml"⟩, "<module/>"), (⟨"dev/GPIO.xml"⟩, "<port/>")]

theorem Path.identity_respelled :
    Archive.IsLastText respelled ⟨"dev/./UART.xml"⟩ "<module/>" ∧
      (Archive.ofInsertions respelled).source.same ⟨"dev/./UART.xml"⟩ ⟨"./dev/UART.xml/"⟩ = true ∧
      ∃ text, (Archive.ofInsertions respelled).source.read ⟨"dev/./UART.xml"⟩ = .ok text ∧
        (Archive.ofInsertions respelled).source.read ⟨"./dev/UART.xml/"⟩ = .ok text := by
  obtain ⟨-, -, -, hread, hsame⟩ := Path.identity_consistent
  have htext : (Archive.ofInsertions respelled).source.read ⟨"dev/./UART.xml"⟩ = .ok "<module/>" := by
    decide
  have heq : (Archive.ofInsertions respelled).source.same ⟨"dev/./UART.xml"⟩ ⟨"./dev/UART.xml/"⟩ =
      true := by
    decide
  refine ⟨((hread respelled _).1 _).mp htext, heq, ?_⟩
  rcases hsame _ _ _ heq with hfound | ⟨hnone, -⟩
  · exact hfound
  · rw [htext] at hnone
    cases hnone

end RegisterMap
