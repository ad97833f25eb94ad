import Mathlib.Data.List.Nodup
import Mathlib.Data.List.Perm.Subperm
import RegisterMap.Proofs.Walks

/-!
# Writing a file

What `FileTree.write` leaves of a tree.  There are three ways for it to end (`Written`, `written_write`):
the text is at the place that the path names and all else is as before; or the temporary file is left
over, because it could not be renamed; or nothing has changed at all.

A text that is written is what the path leads to afterwards (`Written.read`).  Without that, everything
that there was is as before, and the path leads to no new file (`Written.kept`).
-/

namespace RegisterMap
namespace FileTree

variable {tree tree' : FileTree} {place : Location} {p : Path} {text : String}

/-! ### Names of temporary files -/

theorem temporaryStem_append_injective :
    Function.Injective fun n => temporaryStem ++ String.ofList (List.replicate n 'X') := by
  intro m n h
  have hlength := congrArg String.length h
  simpa using hlength

/-- There is one candidate more than there are entries, so that one of them is free. -/
theorem entry?_temporaryName (tree : FileTree) (directory : Location) :
    tree.entry? (directory ++ [tree.temporaryName directory]) = none := by
  set names := (List.range (tree.entries.length + 1)).map fun n =>
    temporaryStem ++ String.ofList (List.replicate n 'X') with hnames
  have hfree : ∃ name ∈ names, (tree.entry? (directory ++ [name])).isNone := by
    -- Were all of them taken, the entries would have more places than there are entries.
    by_contra! htaken
    have hnodup : (names.map fun name => directory ++ [name]).Nodup := by
      refine (List.nodup_range.map temporaryStem_append_injective).map ?_
      intro a b hab
      simpa using hab
    have hsub : (names.map fun name => directory ++ [name]) ⊆ tree.entries.map Prod.fst := by
      intro location hlocation
      obtain ⟨name, hname, rfl⟩ := List.mem_map.mp hlocation
      have hsome := htaken name hname
      unfold entry? at hsome
      simp only [List.append_eq_nil_iff, List.cons_ne_nil, and_false, if_false,
        Bool.not_eq_true, Option.isNone_eq_false_iff, List.lookup_isSome_iff] at hsome
      obtain ⟨e, he, hkey⟩ := hsome
      exact List.mem_map.mpr ⟨e, he, (beq_iff_eq.mp hkey).symm⟩
    have hle := (List.subperm_of_subset hnodup hsub).length_le
    simp only [hnames, List.length_map, List.length_range] at hle
    omega
  obtain ⟨found, hfound⟩ := Option.isSome_iff_exists.mp (List.find?_isSome.mpr hfree)
  have hname : tree.temporaryName directory = found := by
    rw [temporaryName, ← hnames, hfound, Option.getD_some]
  rw [hname]
  simpa using List.find?_some hfound

/-! ### What is left of a tree -/

/-- The three ways for a text to be written under a path, or not. -/
inductive Written (tree : FileTree) (p : Path) (text : String) :
    FileTree → Except WriteFault Unit → Prop
  /-- The text is at the place that the path names, and all else is as before. -/
  | inPlace {tree' : FileTree} {place : Location} {identity : Nat}
      (htarget : tree.renameTarget p = .ok place) (hagree : AgreeOff place tree tree')
      (hfile : tree'.entry? place = some (.file identity text)) : Written tree p text tree' (.ok ())
  /-- The text is in a temporary file that could not be renamed, and all else is as before. -/
  | leftOver {tree' : FileTree} {directory : Location} {identity : Nat} {fault : SystemFault}
      (hdirectory : tree.locate (outputDirectory p) = .ok directory)
      (hagree : AgreeOff (directory ++ [tree.temporaryName directory]) tree tree')
      (hfile : tree'.entry? (directory ++ [tree.temporaryName directory]) =
        some (.file identity text))
      (htarget : tree.renameTarget p ≠ .ok (directory ++ [tree.temporaryName directory])) :
      Written tree p text tree' (.error (.rename p fault))
  /-- The text is not written, and everything is as before. -/
  | nowhere {fault : WriteFault} : Written tree p text tree (.error fault)

theorem create_eq_ok {refusals : Refusals} (h : tree.create refusals place = .ok tree') :
    tree' = tree.addFile place "" := by
  unfold create at h
  cases hrefused : refusals.create place with
  | some fault => simp [hrefused] at h
  | none => simpa [hrefused, eq_comm] using h

/-- A file that is filled stays the same file: only its text is replaced. -/
theorem fill_eq_ok {refusals : Refusals} (h : tree.fill refusals place text = .ok tree') :
    ∃ identity, tree' = tree.put place (.file identity text) := by
  unfold fill at h
  cases hrefused : refusals.fill place text with
  | some fault => simp [hrefused] at h
  | none =>
      cases hentry : tree.entry? place with
      | none => simp [hrefused, hentry] at h
      | some entry =>
          cases entry with
          | directory => simp [hrefused, hentry] at h
          | file identity before =>
              simp only [hrefused, hentry, Except.ok.injEq] at h
              exact ⟨identity, h.symm⟩

/-- A new file that is renamed is at its new place, and no longer at its old one. -/
theorem agreeOff_of_rename {refusals : Refusals} {filled : FileTree} {temporary : Location}
    {entry : Entry} (hplace : place ≠ []) (hfilled : AgreeOff temporary tree filled)
    (hentry : filled.entry? temporary = some entry) (hremove : filled.remove temporary = tree)
    (h : filled.rename refusals temporary place = .ok tree') :
    AgreeOff place tree tree' ∧ tree'.entry? place = some entry := by
  unfold rename at h
  by_cases hsame : temporary = place
  · simp only [hsame, if_true, Except.ok.injEq] at h
    subst h hsame
    exact ⟨hfilled, hentry⟩
  · cases hrefused : refusals.rename temporary place with
    | some fault => simp [hsame, hrefused] at h
    | none =>
        simp only [hsame, if_false, hrefused, hentry, hremove, Except.ok.injEq] at h
        subst h
        exact ⟨.put _ _ _, entry?_put_self hplace entry⟩

theorem rename_self (tree : FileTree) (refusals : Refusals) (place : Location) :
    tree.rename refusals place place = .ok tree := by
  simp [rename]

theorem locate_of_temporaryDirectory {directory : Location}
    (h : tree.temporaryDirectory p = .ok directory) :
    tree.locate (outputDirectory p) = .ok directory := by
  obtain ⟨_, -, hlocate⟩ := bind_eq_ok_iff.mp h
  obtain ⟨found, hfound, hcheck⟩ := bind_eq_ok_iff.mp hlocate
  rw [hfound, (checkDirectory_eq_ok_iff.mp hcheck).2]

/-- Nothing can be renamed to the root. -/
theorem ne_nil_of_renameTarget (h : tree.renameTarget p = .ok place) : place ≠ [] := by
  obtain ⟨-, init, name, directory, -, -, -, -, -, -, rfl, -⟩ := renameTarget_eq_ok_iff.mp h
  simp

/-! ### The steps of a writing -/

variable {refusals : Refusals} {created filled : FileTree} {temporary : Temporary}
  {fault : SystemFault}

/-- A temporary file is new, and it is in the directory that the path leads to. -/
theorem createTemporary_eq_ok (h : tree.createTemporary refusals p = .ok (temporary, created)) :
    ∃ directory, tree.locate (outputDirectory p) = .ok directory ∧
      temporary = ⟨directory ++ [tree.temporaryName directory], tree⟩ ∧
      created = tree.addFile temporary.place "" := by
  obtain ⟨directory, hdirectory, h⟩ := bind_eq_ok_iff.mp h
  obtain ⟨added, hcreate, h⟩ := bind_eq_ok_iff.mp h
  cases h
  exact ⟨directory, locate_of_temporaryDirectory hdirectory, rfl, create_eq_ok hcreate⟩

theorem run_attempt_of_error {α : Type} {action : FileTree → Except SystemFault (α × FileTree)}
    (h : action tree = .error fault) : (attempt action).run tree = (.error fault, tree) := by
  simp only [StateT.run, attempt, h]

theorem run_attempt_of_ok {α : Type} {action : FileTree → Except SystemFault (α × FileTree)} {a : α}
    (h : action tree = .ok (a, tree')) : (attempt action).run tree = (.ok a, tree') := by
  simp only [StateT.run, attempt, h]

theorem run_write (tree : FileTree) (refusals : Refusals) (p : Path) (text : String) :
    ((host refusals).write p text).run tree = (tree.write refusals p text).swap := by
  rw [write, Prod.swap_swap]

theorem run_create_of_ok (h : tree.createTemporary refusals p = .ok (temporary, created)) :
    ((host refusals).create p).run tree = (.ok temporary, created) := by
  simp only [host]
  exact run_attempt_of_ok h

theorem run_fill_of_ok (h : created.fill refusals temporary.place text = .ok filled) :
    ((host refusals).fill temporary text).run created = (.ok (), filled) := by
  simp only [host]
  exact run_attempt_of_ok (by rw [h, ok_bind]; rfl)

theorem write_of_create_error (text : String)
    (h : tree.createTemporary refusals p = .error fault) :
    tree.write refusals p text = (tree, .error (.temporary (outputDirectory p) fault)) := by
  have hcreate : ((host refusals).create p).run tree = (.error fault, tree) := by
    simp only [host]
    exact run_attempt_of_error h
  rw [write, Host.write, run_bind_of_run_eq hcreate]
  rfl

/-- A temporary file that cannot be filled is taken away again. -/
theorem write_of_fill_error
    (hcreate : tree.createTemporary refusals p = .ok (temporary, created))
    (h : created.fill refusals temporary.place text = .error fault) :
    tree.write refusals p text =
      (created.remove temporary.place, .error (.filling (outputDirectory p) fault)) := by
  have hfill : ((host refusals).fill temporary text).run created = (.error fault, created) := by
    simp only [host]
    exact run_attempt_of_error (by rw [h, error_bind])
  rw [write, Host.write, run_bind_of_run_eq (run_create_of_ok hcreate), run_bind_of_run_eq hfill]
  rfl

/-- A temporary file that cannot be renamed stays. -/
theorem write_of_rename_error
    (hcreate : tree.createTemporary refusals p = .ok (temporary, created))
    (hfill : created.fill refusals temporary.place text = .ok filled)
    (h : temporary.before.renameTarget p >>= filled.rename refusals temporary.place =
      .error fault) :
    tree.write refusals p text = (filled, .error (.rename p fault)) := by
  have hrename : ((host refusals).rename temporary p).run filled = (.error fault, filled) := by
    simp only [host]
    exact run_attempt_of_error (by rw [h, error_bind])
  rw [write, Host.write, run_bind_of_run_eq (run_create_of_ok hcreate),
    run_bind_of_run_eq (run_fill_of_ok hfill), run_bind_of_run_eq hrename]
  rfl

theorem write_of_rename
    (hcreate : tree.createTemporary refusals p = .ok (temporary, created))
    (hfill : created.fill refusals temporary.place text = .ok filled)
    (h : temporary.before.renameTarget p >>= filled.rename refusals temporary.place = .ok tree') :
    tree.write refusals p text = (tree', .ok ()) := by
  have hrename : ((host refusals).rename temporary p).run filled = (.ok (), tree') := by
    simp only [host]
    exact run_attempt_of_ok (by rw [h, ok_bind]; rfl)
  rw [write, Host.write, run_bind_of_run_eq (run_create_of_ok hcreate),
    run_bind_of_run_eq (run_fill_of_ok hfill), run_bind_of_run_eq hrename]
  rfl

/-- A step that fails leaves the tree as the steps before it have made it, or as it was at first. -/
theorem written_write (tree : FileTree) (refusals : Refusals) (p : Path) (text : String) :
    Written tree p text (tree.write refusals p text).1 (tree.write refusals p text).2 := by
  cases hcreate : tree.createTemporary refusals p with
  | error fault =>
      rw [write_of_create_error text hcreate]
      exact .nowhere
  | ok created =>
      obtain ⟨temporary, created⟩ := created
      obtain ⟨directory, hlocate, rfl, rfl⟩ := createTemporary_eq_ok hcreate
      have hremove := remove_of_entry?_eq_none (by simp) (entry?_temporaryName tree directory)
      set place := directory ++ [tree.temporaryName directory] with hplace
      cases hfill : (tree.addFile place "").fill refusals place text with
      | error fault =>
          rw [write_of_fill_error hcreate hfill, addFile, remove_put, hremove]
          exact .nowhere
      | ok filled =>
          obtain ⟨identity, rfl⟩ := fill_eq_ok hfill
          set filled := (tree.addFile place "").put place (.file identity text)
          have hfilled : AgreeOff place tree filled := .trans (.put _ _ _) (.put _ _ _)
          have hfile : filled.entry? place = some (.file identity text) :=
            entry?_put_self (by simp [hplace]) _
          -- Its name was free, so the tree without the temporary file is the tree from before.
          have hfilled' : filled.remove place = tree := by
            rw [remove_put, addFile, remove_put, hremove]
          cases hrename : tree.renameTarget p >>= filled.rename refusals place with
          | error fault =>
              rw [write_of_rename_error hcreate hfill hrename]
              refine .leftOver hlocate hfilled hfile fun htarget => ?_
              -- If the path named the temporary file, that would be renamed to itself, which never fails.
              rw [htarget, ok_bind, rename_self] at hrename
              cases hrename
          | ok renamed =>
              rw [write_of_rename hcreate hfill hrename]
              obtain ⟨target, htarget, hmove⟩ := bind_eq_ok_iff.mp hrename
              obtain ⟨hagree, hmoved⟩ := agreeOff_of_rename (ne_nil_of_renameTarget htarget)
                hfilled hfile hfilled' hmove
              exact .inPlace htarget hagree hmoved

/-! ### What the path leads to -/

theorem read_eq_ok_iff :
    tree.read p = .ok text ↔ ∃ place identity, tree.locate p = .ok place ∧
      tree.entry? place = some (.file identity text) := by
  unfold read
  rw [bind_eq_ok_iff]
  refine exists_congr fun place => ?_
  cases hentry : tree.entry? place with
  | none => simp
  | some entry =>
      cases entry with
      | directory => simp
      | file identity before => simp

/-- A text that is not written in place leaves everything that there was, and nothing new at the path. -/
theorem Written.kept {fault : WriteFault} (h : Written tree p text tree' (.error fault)) :
    (∀ place entry, tree.entry? place = some entry → tree'.entry? place = some entry) ∧
      ∀ found, tree'.read p = .ok found → tree.read p = .ok found := by
  cases h with
  | @leftOver _ directory identity fault hdirectory hagree hfile htarget =>
      have hfresh := entry?_temporaryName tree directory
      refine ⟨fun place entry hentry => ?_, fun found hfound => ?_⟩
      · rw [hagree.entry?_eq place, hentry]
        rintro rfl
        rw [hfresh] at hentry
        cases hentry
      · obtain ⟨place, other, hlocate, hentry⟩ := read_eq_ok_iff.mp hfound
        -- A path that leads to the temporary file would be one that it could have been renamed to.
        have hplace : place ≠ directory ++ [tree.temporaryName directory] := by
          rintro rfl
          exact htarget (renameTarget_of_locate hagree hfresh (by simp [hfile]) hdirectory hlocate)
        exact read_eq_ok_iff.mpr ⟨place, other,
          locate_of_agreeOff hagree.symm (by simp [hfile]) hplace hlocate,
          (hagree.entry?_eq place hplace).symm.trans hentry⟩
  | nowhere => exact ⟨fun _ _ hentry => hentry, fun _ hfound => hfound⟩

/-- A text that is written in place is what the path leads to. -/
theorem Written.read (h : Written tree p text tree' (.ok ())) :
    ∃ place, tree'.locate p = .ok place ∧ tree'.read p = .ok text ∧ AgreeOff place tree tree' := by
  cases h with
  | @inPlace _ place identity htarget hagree hfile =>
      have hlocate := locate_of_renameTarget hagree htarget (by simp [hfile])
      exact ⟨place, hlocate, read_eq_ok_iff.mpr ⟨place, identity, hlocate, hfile⟩, hagree⟩

/-- What is new in the tree after a failure is the temporary file, and it could not be renamed. -/
theorem Written.eq_temporary {fault : WriteFault} (h : Written tree p text tree' (.error fault))
    {place : Location} {entry : Entry} (hold : tree.entry? place = none)
    (hnew : tree'.entry? place = some entry) :
    ∃ directory cause, tree.locate (outputDirectory p) = .ok directory ∧
      place = directory ++ [tree.temporaryName directory] ∧ fault = .rename p cause := by
  cases h with
  | @leftOver _ directory identity cause hdirectory hagree hfile htarget =>
      refine ⟨directory, cause, hdirectory, ?_, rfl⟩
      by_contra hplace
      rw [hagree.entry?_eq place hplace, hold] at hnew
      cases hnew
  | nowhere =>
      rw [hold] at hnew
      cases hnew

end FileTree
end RegisterMap
