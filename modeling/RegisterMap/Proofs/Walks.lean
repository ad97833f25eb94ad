import Mathlib.Data.List.DropRight
import RegisterMap.FileTree
import RegisterMap.Proofs.CapitalWords
import RegisterMap.Proofs.Outcome

/-!
# Walks

Where a path leads in a file tree.  A walk goes through directories only, so one file more or less changes
no walk but those that end at it (`walk_of_agreeOff`).

A path therefore leads to a file that has been renamed to it (`locate_of_renameTarget`).  It does not lead
to a new file in its own directory, unless that file could be renamed to it
(`renameTarget_of_locate`).  The latter needs to know the directory that a file is written in: it is the
one in which the path takes its last step (`eq_of_locate_outputDirectory`).
-/

namespace RegisterMap

/-! ### Segments of paths -/

namespace Path

theorem dropIdle_concat (segments : List (List Char)) (segment : List Char) :
    dropIdle (segments ++ [segment]) =
      if isStep segment then segments ++ [segment] else dropIdle segments := by
  cases hstep : isStep segment with
  | false => exact List.rdropWhile_concat_pos (!isStep ·) segments segment (by simp [hstep])
  | true => exact List.rdropWhile_concat_neg (!isStep ·) segments segment (by simp [hstep])

/-- Whether a segment is kept depends on what follows: an idle one in front of a step stays. -/
theorem dropIdle_cons (segment : List Char) (segments : List (List Char)) :
    dropIdle (segment :: segments) =
      if dropIdle segments = [] then dropIdle [segment] else segment :: dropIdle segments := by
  simp only [dropIdle, List.reverse_cons, List.dropWhile_append, List.isEmpty_iff,
    List.reverse_eq_nil_iff, List.reverse_nil, List.nil_append]
  split_ifs <;> simp

theorem dropIdle_dropIdle (segments : List (List Char)) :
    dropIdle (dropIdle segments) = dropIdle segments :=
  List.rdropWhile_idempotent (!isStep ·) segments

theorem not_mem_of_mem_segments {p : Path} {segment : List Char} (h : segment ∈ p.segments) :
    '/' ∉ segment := by
  intro hslash
  simpa using Text.eq_false_of_mem_pieces h '/' hslash

theorem segments_ofSegments {segments : List (List Char)} (hne : segments ≠ [])
    (h : ∀ segment ∈ segments, '/' ∉ segment) : (ofSegments segments).segments = segments := by
  rw [Path.segments, ofSegments, String.toList_ofList, Text.pieces_eq_splitOnP]
  exact List.splitOn_intercalate '/' h hne

theorem isAbsolute_of_segments {p : Path} {first : List Char} {rest : List (List Char)}
    (h : p.segments = first :: rest) : p.isAbsolute = decide (first = [] ∧ rest ≠ []) := by
  unfold isAbsolute
  unfold segments at h
  cases htext : p.text.toList with
  | nil =>
      rw [htext, Text.pieces] at h
      cases h
      rfl
  | cons c cs =>
      obtain ⟨piece, more, hpieces⟩ :=
        List.exists_cons_of_ne_nil (Text.pieces_ne_nil (· == '/') cs)
      by_cases hslash : c = '/'
      · rw [htext, Text.pieces, if_pos (by simpa using hslash), hpieces] at h
        cases h
        simp [hslash]
      · rw [htext, Text.pieces, if_neg (by simpa using hslash), hpieces] at h
        cases h
        simp [hslash]

theorem dropStep_concat {last : List Char} (hlast : isStep last = true)
    (segments : List (List Char)) :
    dropStep (segments ++ [last]) = dropIdle segments := by
  rw [dropStep, dropIdle_concat, if_pos hlast, List.dropLast_concat]

theorem text_ofSegments_ne {first : List Char} {rest : List (List Char)}
    (h : ¬(first = [] ∧ rest = [])) : (ofSegments (first :: rest)).text ≠ "" := by
  cases rest with
  | nil => simpa [ofSegments] using h
  | cons second more => simp [ofSegments, List.intercalate_cons_cons]

/-- The parent of a path is what stands before its last step, without what takes no step at the end of
that; of the root and a name it is the root. -/
theorem parent?_of_segments {p : Path} {first last : List Char} {inner : List (List Char)}
    (hp : p.segments = first :: inner ++ [last]) (hlast : isStep last = true) :
    p.parent? = some (if first = [] ∧ dropIdle inner = [] then ⟨"/"⟩
      else ofSegments (first :: dropIdle inner)) := by
  have hkept : dropIdle (inner ++ [last]) = inner ++ [last] := by
    rw [dropIdle_concat, if_pos hlast]
  have hdrop := dropStep_concat hlast
  unfold parent?
  rw [hp]
  by_cases hroot : first = []
  · by_cases hinner : dropIdle inner = []
    · simp [hroot, hkept, hdrop, hinner]
    · simp [hroot, hkept, hdrop, hinner]
  -- An empty first segment and a dot are kept, while any other one can only be a step.
  · by_cases hcurrent : first = ['.']
    · simp [hcurrent, hkept, hdrop]
    · have hfirst : isStep first = true := by simp [isStep, hroot, hcurrent]
      have hone : dropIdle [first] = [first] := by simp [dropIdle, hfirst]
      have hwhole : dropStep (first :: inner ++ [last]) = first :: dropIdle inner := by
        rw [hdrop, dropIdle_cons, hone]
        split_ifs with hinner
        · rw [hinner]
        · rfl
      rw [List.cons_append] at hwhole ⊢
      simp [hroot, hcurrent, hwhole]

theorem parent?_of_segments_eq_singleton {p : Path} {last : List Char} (hp : p.segments = [last])
    (hlast : isStep last = true) : p.parent? = some ⟨""⟩ := by
  have hne : last ≠ [] ∧ last ≠ ['.'] := by simpa [isStep] using hlast
  have hdrop : dropStep [last] = [] := dropStep_concat hlast []
  unfold parent?
  rw [hp]
  simp [hne, hdrop, ofSegments, List.intercalate]

end Path

namespace FileTree

variable {tree tree' : FileTree} {place l : Location}

/-! ### Entries -/

theorem entry?_put_self (hplace : place ≠ []) (entry : Entry) :
    entry? (tree.put place entry) place = some entry := by
  unfold entry?
  simp [put, hplace]

theorem entry?_put_of_ne (h : l ≠ place) (entry : Entry) :
    entry? (tree.put place entry) l = tree.entry? l := by
  have hne : (l == place) = false := by simpa using h
  unfold entry?
  simp [put, List.lookup_cons, hne, lookup_filter_of_ne h]

theorem remove_put (tree : FileTree) (place : Location) (entry : Entry) :
    (tree.put place entry).remove place = tree.remove place := by
  simp [remove, put]

theorem remove_of_entry?_eq_none (hplace : place ≠ []) (h : tree.entry? place = none) :
    tree.remove place = tree := by
  unfold entry? at h
  rw [if_neg hplace, List.lookup_eq_none_iff] at h
  have hkept : tree.entries.filter (·.1 != place) = tree.entries :=
    List.filter_eq_self.mpr fun e he => by rw [bne_comm]; exact h e he
  rw [remove, hkept]

/-- The trees have one working directory, and the same entries but for one place. -/
structure AgreeOff (place : Location) (tree tree' : FileTree) : Prop where
  entry?_eq : ∀ l, l ≠ place → tree'.entry? l = tree.entry? l
  workingDirectory_eq : tree'.workingDirectory = tree.workingDirectory

theorem AgreeOff.symm (h : AgreeOff place tree tree') : AgreeOff place tree' tree :=
  ⟨fun l hl => (h.entry?_eq l hl).symm, h.workingDirectory_eq.symm⟩

theorem AgreeOff.trans {tree'' : FileTree} (h : AgreeOff place tree tree')
    (h' : AgreeOff place tree' tree'') : AgreeOff place tree tree'' :=
  ⟨fun l hl => (h'.entry?_eq l hl).trans (h.entry?_eq l hl),
    h'.workingDirectory_eq.trans h.workingDirectory_eq⟩

theorem AgreeOff.put (tree : FileTree) (place : Location) (entry : Entry) :
    AgreeOff place tree (tree.put place entry) :=
  ⟨fun _ hl => entry?_put_of_ne hl entry, rfl⟩

theorem AgreeOff.start_eq (h : AgreeOff place tree tree') (p : Path) :
    tree'.start p = tree.start p := by
  simp only [start, h.workingDirectory_eq]

/-! ### Walks -/

/-- A step is taken from a directory: to itself, to the one that holds it, or to something in it. -/
theorem step_eq_ok_iff {segment : List Char} {next : Location} :
    tree.step l segment = .ok next ↔ tree.entry? l = some .directory ∧
      (Path.isStep segment = false ∧ next = l ∨
        segment = ['.', '.'] ∧ next = l.dropLast ∨
        Path.isStep segment = true ∧ segment ≠ ['.', '.'] ∧
          (String.ofList segment).utf8ByteSize ≤ maxNameSize ∧
          (tree.entry? (l ++ [String.ofList segment])).isSome ∧
          next = l ++ [String.ofList segment]) := by
  unfold step
  cases hentry : tree.entry? l with
  | none => simp
  | some entry =>
      cases entry with
      | file identity text => simp
      | directory =>
          by_cases hidle : segment = [] ∨ segment = ['.']
          · have hstep : Path.isStep segment = false := by
              rcases hidle with rfl | rfl <;> rfl
            have hparent : segment ≠ ['.', '.'] := by
              rcases hidle with rfl | rfl <;> decide
            simp [hidle, hstep, hparent, @eq_comm _ next]
          · have hstep : Path.isStep segment = true := by
              simpa [Path.isStep] using hidle
            by_cases hparent : segment = ['.', '.']
            · simp [hparent, Path.isStep, @eq_comm _ next]
            · by_cases hsize : maxNameSize < (String.ofList segment).utf8ByteSize
              · simp [hidle, hstep, hparent, hsize, Nat.not_le.mpr hsize]
              · by_cases hsome : (tree.entry? (l ++ [String.ofList segment])).isSome
                · simp [hidle, hstep, hparent, hsize, hsome, Nat.le_of_not_lt hsize, @eq_comm _ next]
                · simp [hidle, hstep, hparent, hsize, hsome]

theorem entry?_of_step {segment : List Char} {next : Location}
    (h : tree.step l segment = .ok next) : tree.entry? l = some .directory :=
  (step_eq_ok_iff.mp h).1

/-- A step that begins and ends at other places is the same in both trees. -/
theorem step_of_agreeOff (hagree : AgreeOff place tree tree') {segment : List Char}
    {next : Location} (hl : l ≠ place) (hnext : next ≠ place)
    (h : tree.step l segment = .ok next) : tree'.step l segment = .ok next := by
  rw [step_eq_ok_iff] at h ⊢
  obtain ⟨hdirectory, hidle | hparent | ⟨hstep, hparent, hsize, hsome, rfl⟩⟩ := h
  · exact ⟨(hagree.entry?_eq l hl).trans hdirectory, .inl hidle⟩
  · exact ⟨(hagree.entry?_eq l hl).trans hdirectory, .inr (.inl hparent)⟩
  · rw [hagree.entry?_eq l hl, hagree.entry?_eq _ hnext]
    exact ⟨hdirectory, .inr (.inr ⟨hstep, hparent, hsize, hsome, rfl⟩)⟩

theorem walk_append (tree : FileTree) (l : Location) (before after : List (List Char)) :
    tree.walk l (before ++ after) = tree.walk l before >>= (tree.walk · after) := by
  induction before generalizing l with
  | nil => rfl
  | cons segment rest ih =>
      rw [List.cons_append, walk, walk, bind_assoc]
      simp only [ih]

/-- No walk goes on from a place that is not a directory. -/
theorem eq_nil_of_walk {segments : List (List Char)} {last : Location}
    (hplace : tree.entry? place ≠ some .directory) (h : tree.walk place segments = .ok last) :
    segments = [] := by
  cases segments with
  | nil => rfl
  | cons segment rest =>
      obtain ⟨next, hstep, -⟩ := bind_eq_ok_iff.mp h
      exact absurd (entry?_of_step hstep) hplace

/-- A walk that does not end at the place passes it by, as only directories are gone through; so it is the
same in both trees. -/
theorem walk_of_agreeOff (hagree : AgreeOff place tree tree')
    (hplace : tree.entry? place ≠ some .directory) {segments : List (List Char)} {last : Location}
    (hlast : last ≠ place) (h : tree.walk l segments = .ok last) :
    tree'.walk l segments = .ok last := by
  induction segments generalizing l with
  | nil => exact h
  | cons segment rest ih =>
      obtain ⟨next, hstep, hrest⟩ := bind_eq_ok_iff.mp h
      have hl : l ≠ place := by
        rintro rfl
        exact hplace (entry?_of_step hstep)
      -- Were the next place the one in question, the walk could only end there.
      have hnext : next ≠ place := by
        rintro rfl
        have hnil := eq_nil_of_walk hplace hrest
        rw [hnil] at hrest
        exact hlast (Except.ok.inj hrest).symm
      exact bind_eq_ok_iff.mpr ⟨next, step_of_agreeOff hagree hl hnext hstep, ih hrest⟩

/-- A path that does not lead to the place leads where it did. -/
theorem locate_of_agreeOff (hagree : AgreeOff place tree tree')
    (hplace : tree.entry? place ≠ some .directory) {p : Path} {last : Location}
    (hlast : last ≠ place) (h : tree.locate p = .ok last) : tree'.locate p = .ok last := by
  obtain ⟨_, hcheck, hwalk⟩ := bind_eq_ok_iff.mp h
  rw [← hagree.start_eq] at hwalk
  exact bind_eq_ok_iff.mpr ⟨_, hcheck, walk_of_agreeOff hagree hplace hlast hwalk⟩

/-- Segments at the end that take no step may be left out. -/
theorem walk_dropIdle {segments : List (List Char)} {last : Location}
    (h : tree.walk l segments = .ok last) : tree.walk l (Path.dropIdle segments) = .ok last := by
  induction segments using List.reverseRecOn generalizing last with
  | nil => exact h
  | append_singleton rest segment ih =>
      rw [Path.dropIdle_concat]
      split_ifs with hstep
      · exact h
      · rw [walk_append] at h
        obtain ⟨next, hnext, hlast⟩ := bind_eq_ok_iff.mp h
        obtain ⟨final, hfinal, hend⟩ := bind_eq_ok_iff.mp hlast
        -- A segment that takes no step is neither `..` nor a name.
        have hsame : final = next := by
          obtain ⟨-, ⟨-, hsame⟩ | ⟨rfl, -⟩ | ⟨hstep', -⟩⟩ := step_eq_ok_iff.mp hfinal
          · exact hsame
          · exact absurd rfl hstep
          · exact absurd hstep' hstep
        rw [← Except.ok.inj hend, hsame]
        exact ih hnext

/-! ### The directory of a path -/

/-- The directory that a file is written in is named by the path without its last step, up to segments
that take none. -/
theorem dropIdle_outputDirectory {p : Path} {init : List (List Char)} {last : List Char}
    (hp : p.segments = init ++ [last]) (hlast : Path.isStep last = true) :
    Path.dropIdle (outputDirectory p).segments = Path.dropIdle init ∧
      (outputDirectory p).isAbsolute = p.isAbsolute := by
  cases init with
  | nil =>
      -- A name alone has no directory before it, and is looked for in the current one.
      have hparent := Path.parent?_of_segments_eq_singleton hp hlast
      have hdirectory : outputDirectory p = ⟨"."⟩ := by rw [outputDirectory, hparent]; rfl
      have habsolute : p.isAbsolute = false := by simp [Path.isAbsolute_of_segments hp]
      rw [hdirectory, habsolute]
      exact ⟨by decide, by decide⟩
  | cons first inner =>
      have hparent := Path.parent?_of_segments hp hlast
      -- Of the segments before the name, the root alone is left, or there is something to go to.
      by_cases hroot : first = [] ∧ Path.dropIdle inner = []
      · rw [if_pos hroot] at hparent
        have hdirectory : outputDirectory p = ⟨"/"⟩ := by rw [outputDirectory, hparent]; rfl
        have habsolute : p.isAbsolute = true := by simp [Path.isAbsolute_of_segments hp, hroot.1]
        rw [hdirectory, habsolute, Path.dropIdle_cons, if_pos hroot.2, hroot.1]
        exact ⟨by decide, by decide⟩
      · rw [if_neg hroot] at hparent
        have hdirectory : outputDirectory p = Path.ofSegments (first :: Path.dropIdle inner) := by
          rw [outputDirectory, hparent]
          exact if_neg (Path.text_ofSegments_ne hroot)
        have hsegments : (outputDirectory p).segments = first :: Path.dropIdle inner := by
          rw [hdirectory]
          refine Path.segments_ofSegments (List.cons_ne_nil _ _) fun segment hsegment => ?_
          have hmem : segment ∈ first :: inner :=
            (List.cons_subset_cons first (List.rdropWhile_prefix _ inner).subset) hsegment
          exact Path.not_mem_of_mem_segments (hp ▸ List.mem_append_left _ hmem)
        refine ⟨?_, ?_⟩
        · rw [hsegments, Path.dropIdle_cons, Path.dropIdle_dropIdle, ← Path.dropIdle_cons]
        · rw [Path.isAbsolute_of_segments hsegments, Path.isAbsolute_of_segments hp]
          by_cases hfirst : first = []
          · have hinner : Path.dropIdle inner ≠ [] := fun h => hroot ⟨hfirst, h⟩
            simp [hfirst, hinner]
          · simp [hfirst]

/-- The temporary file for a path is in the directory in which the path takes its last step. -/
theorem eq_of_locate_outputDirectory {p : Path} {init : List (List Char)} {last : List Char}
    {directory outer : Location} (hp : p.segments = init ++ [last])
    (hlast : Path.isStep last = true)
    (hdirectory : tree.locate (outputDirectory p) = .ok directory)
    (houter : tree.walk (tree.start p) init = .ok outer) : directory = outer := by
  obtain ⟨hidle, habsolute⟩ := dropIdle_outputDirectory hp hlast
  obtain ⟨-, -, hwalk⟩ := bind_eq_ok_iff.mp hdirectory
  have hstart : tree.start (outputDirectory p) = tree.start p := by
    simp only [start, habsolute]
  rw [hstart] at hwalk
  have hleft := walk_dropIdle hwalk
  rw [hidle, walk_dropIdle houter] at hleft
  exact (Except.ok.inj hleft).symm

/-! ### Places to rename to -/

theorem checkDirectory_eq_ok_iff {directory : Location} :
    tree.checkDirectory l = .ok directory ↔ tree.entry? l = some .directory ∧ directory = l := by
  unfold checkDirectory
  cases hentry : tree.entry? l with
  | none => simp
  | some entry =>
      cases entry with
      | directory => simp [eq_comm]
      | file identity text => simp

/-- The last step of a path without a slash after it is its last segment. -/
theorem target?_eq_some_iff {p : Path} {init : List (List Char)} {name : List Char} :
    target? p = some ⟨init, name, false⟩ ↔ p.segments = init ++ [name] ∧ name ≠ [] := by
  unfold target?
  rcases List.eq_nil_or_concat p.segments with hnil | ⟨outer, last, hlast⟩
  · simp [hnil]
  · rw [hlast, List.concat_eq_append, List.append_singleton_inj]
    simp only [List.reverse_append, List.reverse_singleton, List.singleton_append,
      List.getLast?_append, List.getLast?_singleton, Option.some_or]
    by_cases hempty : last = []
    · -- A slash follows the last step.
      cases hrest : (last :: outer.reverse).dropWhile List.isEmpty with
      | nil => simp [hempty]
      | cons found rest => simp [hempty, @eq_comm _ [] name]
    · rw [List.dropWhile_cons_of_neg (by simpa using hempty)]
      simp only [List.reverse_reverse, Option.some.injEq, Target.mk.injEq]
      constructor
      · rintro ⟨rfl, rfl, -⟩
        exact ⟨⟨rfl, rfl⟩, hempty⟩
      · rintro ⟨⟨rfl, rfl⟩, -⟩
        exact ⟨rfl, rfl, by simpa using hempty⟩

/-- What it takes for a file to be renamed to a place under a path. -/
theorem renameTarget_eq_ok_iff {p : Path} :
    tree.renameTarget p = .ok place ↔ checkPath p = .ok () ∧
      ∃ init name directory, p.segments = init ++ [name] ∧ Path.isStep name = true ∧
        name ≠ ['.', '.'] ∧ (String.ofList name).utf8ByteSize ≤ maxNameSize ∧
        tree.walk (tree.start p) init = .ok directory ∧
        tree.entry? directory = some .directory ∧
        place = directory ++ [String.ofList name] ∧ tree.entry? place ≠ some .directory := by
  unfold renameTarget
  rw [bind_eq_ok_iff, exists_unit_iff]
  refine and_congr_right fun _ => ?_
  constructor
  · intro h
    cases htarget : target? p with
    | none => simp [htarget] at h
    | some target =>
        obtain ⟨init, name, slash⟩ := target
        simp only [htarget, bind_eq_ok_iff, exists_unit_iff, ensure_eq_ok_iff, pure_eq_ok_iff,
          checkDirectory_eq_ok_iff] at h
        obtain ⟨directory, hwalk, _, ⟨hdirectory, rfl⟩, ⟨hcurrent, hparent⟩, hsize, rfl, hplace,
          rfl⟩ := h
        obtain ⟨hsegments, hname⟩ := target?_eq_some_iff.mp htarget
        exact ⟨init, name, _, hsegments, by simp [Path.isStep, hname, hcurrent], hparent, hsize,
          hwalk, hdirectory, rfl, hplace⟩
  · rintro ⟨init, name, directory, hsegments, hstep, hparent, hsize, hwalk, hdirectory, rfl, hplace⟩
    -- A segment is a step if it is neither empty nor the current directory, and both are refused.
    have hname : name ≠ [] ∧ name ≠ ['.'] := by simpa [Path.isStep] using hstep
    rw [target?_eq_some_iff.mpr ⟨hsegments, hname.1⟩]
    simp only [bind_eq_ok_iff, exists_unit_iff, ensure_eq_ok_iff, pure_eq_ok_iff,
      checkDirectory_eq_ok_iff]
    exact ⟨directory, hwalk, directory, ⟨hdirectory, rfl⟩, ⟨hname.2, hparent⟩, hsize, trivial,
      hplace, rfl⟩

/-- A path leads to the place that a file has been renamed to under it. -/
theorem locate_of_renameTarget {p : Path} (hagree : AgreeOff place tree tree')
    (htarget : tree.renameTarget p = .ok place) (hfile : (tree'.entry? place).isSome) :
    tree'.locate p = .ok place := by
  obtain ⟨hcheck, init, name, directory, hsegments, hstep, hparent, hsize, hwalk, hdirectory, rfl,
    hplace⟩ := renameTarget_eq_ok_iff.mp htarget
  have hne : directory ≠ directory ++ [String.ofList name] := by simp
  have hwalk' := walk_of_agreeOff hagree hplace hne hwalk
  have hlast : tree'.step directory name = .ok (directory ++ [String.ofList name]) :=
    step_eq_ok_iff.mpr ⟨(hagree.entry?_eq _ hne).trans hdirectory,
      .inr (.inr ⟨hstep, hparent, hsize, hfile, rfl⟩)⟩
  refine bind_eq_ok_iff.mpr ⟨(), hcheck, ?_⟩
  rw [hsegments, walk_append, hagree.start_eq, hwalk', ok_bind, walk, hlast]
  rfl

/-- A path leads to no new file in its directory, unless that file could be renamed to it. -/
theorem renameTarget_of_locate {p : Path} {directory : Location} {name : String}
    (hagree : AgreeOff (directory ++ [name]) tree tree')
    (hold : tree.entry? (directory ++ [name]) = none)
    (hnew : tree'.entry? (directory ++ [name]) ≠ some .directory)
    (hdirectory : tree.locate (outputDirectory p) = .ok directory)
    (h : tree'.locate p = .ok (directory ++ [name])) :
    tree.renameTarget p = .ok (directory ++ [name]) := by
  obtain ⟨_, hcheck, hwalk⟩ := bind_eq_ok_iff.mp h
  obtain ⟨init, last, hsegments⟩ : ∃ init last, p.segments = init ++ [last] :=
    ⟨_, _, (List.dropLast_concat_getLast (Text.pieces_ne_nil _ _)).symm⟩
  rw [hsegments, walk_append] at hwalk
  obtain ⟨outer, houter, hwalk⟩ := bind_eq_ok_iff.mp hwalk
  obtain ⟨next, hnext, hwalk⟩ := bind_eq_ok_iff.mp hwalk
  obtain rfl : next = directory ++ [name] := Except.ok.inj hwalk
  have hentry := entry?_of_step hnext
  have hne : outer ≠ directory ++ [name] := fun heq => hnew (heq ▸ hentry)
  -- The way up to the last step does not touch the new file, so it was there before.
  have houter' := walk_of_agreeOff hagree.symm hnew hne houter
  rw [hagree.start_eq] at houter'
  have hentry' := (hagree.symm.entry?_eq outer hne).trans hentry
  obtain ⟨-, ⟨-, hidle⟩ | ⟨rfl, hparent⟩ | ⟨hstep, hparent, hsize, -, hname⟩⟩ :=
    step_eq_ok_iff.mp hnext
  · exact absurd hidle.symm hne
  · -- The directory of the path is the one that the two dots lead out of.
    obtain rfl := eq_of_locate_outputDirectory hsegments rfl hdirectory houter'
    have hlength := congrArg List.length hparent
    simp only [List.length_append, List.length_singleton, List.length_dropLast] at hlength
    omega
  · rw [renameTarget_eq_ok_iff]
    exact ⟨hcheck, init, last, outer, hsegments, hstep, hparent, hsize, houter', hentry', hname,
      by simp [hold]⟩

end FileTree
end RegisterMap
