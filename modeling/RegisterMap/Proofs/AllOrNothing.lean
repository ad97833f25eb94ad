import RegisterMap.Command.Run
import RegisterMap.Proofs.AddedCheck
import RegisterMap.Proofs.FileWriting

/-!
# All or nothing

What a run that asks for a header does to the files, whatever the tree is like and whatever the system
refuses; `run` is the case in which it refuses nothing that the tree allows.

If it succeeds, the header is at the path that was asked for and nothing else has changed.  If it fails,
or is only to check, everything is as it was, but for a temporary file that could not be renamed
(`AllOrNothing`).  A check finds out whether there is a header, and how long it is, or fails as the run
itself does (`CheckAgrees`).
-/

namespace RegisterMap
namespace Command

variable {refusals : FileTree.Refusals} {tree : FileTree} {options : Options}
  {arguments : List String}

/-- Nothing has come of a header that was asked for, but perhaps a temporary file. -/
structure LeavesFiles (refusals : FileTree.Refusals) (tree : FileTree) (options : Options)
    (tree' : FileTree) : Prop where
  /-- Everything that there was is as it was. -/
  kept : ∀ place entry, tree.entry? place = some entry → tree'.entry? place = some entry
  /-- There is no new file at the output path. -/
  not_created : ∀ path text, options.output? = some path → tree'.read path = .ok text →
    tree.read path = .ok text
  /-- What is new is the temporary file in the output directory, and only if it could not be renamed. -/
  temporary : ∀ place entry, tree.entry? place = none → tree'.entry? place = some entry →
    ∃ header path directory fault, options.check = false ∧
      (options.header (tree.source refusals)).result = .ok header ∧ options.output? = some path ∧
      tree.locate (FileTree.outputDirectory path) = .ok directory ∧
      place = directory ++ [tree.temporaryName directory] ∧
      (tree.write refusals path header).2 = .error (.rename path fault)

/-- What a run that asks for a header does to the files of a tree. -/
structure AllOrNothing (refusals : FileTree.Refusals) (tree : FileTree) (options : Options)
    (outcome : Outcome) : Prop where
  exit_eq : outcome.exit = 0 ∨ outcome.exit = 1
  /-- On success the output path holds the header, and no other place has changed. -/
  all : options.check = false → outcome.exit = 0 → ∃ header path place,
    (options.header (tree.source refusals)).result = .ok header ∧ options.output? = some path ∧
      outcome.tree.locate path = .ok place ∧ outcome.tree.read path = .ok header ∧
      FileTree.AgreeOff place tree outcome.tree
  nothing : outcome.exit = 1 ∨ options.check = true →
    LeavesFiles refusals tree options outcome.tree

/-- What a check says of a header, beside a run that asks for the same one. -/
structure CheckAgrees (refusals : FileTree.Refusals) (tree : FileTree) (options : Options)
    (run check : Outcome) : Prop where
  exit_eq_zero_iff : check.exit = 0 ↔
    ∃ header, (options.header (tree.source refusals)).result = .ok header
  /-- Behind the log stands the size of the header in bytes. -/
  stdout_eq : ∀ header, (options.header (tree.source refusals)).result = .ok header →
    check.stdout = report options.verbosity (options.header (tree.source refusals)).events ++
      s!"Would generate {header.utf8ByteSize} bytes\n"
  /-- Where there is no header, both fail in the same way. -/
  failed : ∀ failure, (options.header (tree.source refusals)).result = .error failure →
    run.exit = 1 ∧ check.exit = 1 ∧ check.stderr = run.stderr

theorem runUnder_eq_execute (h : parseArguments arguments = .ok (.generate options)) :
    runUnder refusals tree arguments = .ofAction tree (execute (FileTree.host refusals) options) := by
  rw [runUnder, program, h]

@[simp]
theorem ofAction_pure (tree : FileTree) (reply : Reply) :
    Outcome.ofAction tree (pure reply) = ⟨reply, tree⟩ :=
  rfl

/-- Actions follow one another on the tree that each of them leaves. -/
theorem ofAction_bind {α : Type} {action : StateM FileTree α} {next : α → StateM FileTree Reply}
    {a : α} {tree' : FileTree} (h : action.run tree = (a, tree')) :
    Outcome.ofAction tree (action >>= next) = .ofAction tree' (next a) := by
  rw [Outcome.ofAction, run_bind_of_run_eq h]
  rfl

/-- To look at the documents changes nothing. -/
theorem run_source (refusals : FileTree.Refusals) (tree : FileTree) (path : Path) :
    ((FileTree.host refusals).source path).run tree = (tree.source refusals, tree) :=
  rfl

/-- Without a header nothing is done to the tree. -/
theorem execute_of_error {failure : Failure}
    (h : (options.header (tree.source refusals)).result = .error failure) :
    Outcome.ofAction tree (execute (FileTree.host refusals) options) =
      ⟨⟨1, report options.verbosity (options.header (tree.source refusals)).events,
        failureLine failure.message⟩, tree⟩ := by
  rw [execute, ofAction_bind (run_source refusals tree _)]
  simp only [h, ofAction_pure]

theorem execute_of_ok {header : String}
    (h : (options.header (tree.source refusals)).result = .ok header) :
    Outcome.ofAction tree (execute (FileTree.host refusals) options) =
      .ofAction tree (deliver (FileTree.host refusals) options
        (report options.verbosity (options.header (tree.source refusals)).events) header) := by
  rw [execute, ofAction_bind (run_source refusals tree _)]
  simp only [h]

theorem leavesFiles_self (refusals : FileTree.Refusals) (tree : FileTree) (options : Options) :
    LeavesFiles refusals tree options tree where
  kept _ _ hentry := hentry
  not_created _ _ _ hread := hread
  temporary place entry hold hnew := by
    rw [hold] at hnew
    cases hnew

/-- A header is only checked, or it is written, or the writing fails. -/
theorem allOrNothing_deliver {header log : String}
    (hheader : (options.header (tree.source refusals)).result = .ok header)
    (houtput : options.check = false → options.output?.isSome) :
    AllOrNothing refusals tree options
      (.ofAction tree (deliver (FileTree.host refusals) options log header)) := by
  unfold deliver Options.target?
  cases hcheck : options.check with
  | true => exact ⟨.inl rfl, by simp [hcheck], fun _ => leavesFiles_self refusals tree options⟩
  | false =>
      obtain ⟨path, hpath⟩ := Option.isSome_iff_exists.mp (houtput hcheck)
      have hwritten := FileTree.written_write tree refusals path header
      simp only [Bool.false_eq_true, if_false, hpath]
      cases hwrite : tree.write refusals path header with
      | mk tree' result =>
          have hrun : ((FileTree.host refusals).write path header).run tree = (result, tree') := by
            rw [FileTree.run_write, hwrite, Prod.swap_prod_mk]
          rw [hwrite] at hwritten
          rw [ofAction_bind hrun]
          cases result with
          | ok done =>
              obtain ⟨place, hlocate, hread, hagree⟩ := hwritten.read
              exact ⟨.inl rfl,
                fun _ _ => ⟨header, path, place, hheader, hpath, hlocate, hread, hagree⟩,
                by simp [hcheck]⟩
          | error fault =>
              obtain ⟨hkept, hread⟩ := hwritten.kept
              refine ⟨.inr rfl, by simp, fun _ => ⟨hkept, ?_, ?_⟩⟩
              -- The path that was asked for is the one that was to be written to.
              · intro path' text hpath'
                cases hpath.symm.trans hpath'
                exact hread text
              · intro place entry hold hnew
                obtain ⟨directory, cause, hdirectory, hplace, rfl⟩ := hwritten.eq_temporary hold hnew
                exact ⟨header, path, directory, cause, hcheck, hheader, hpath, hdirectory, hplace,
                  by rw [hwrite]⟩

theorem allOrNothing_execute (houtput : options.check = false → options.output?.isSome) :
    AllOrNothing refusals tree options
      (.ofAction tree (execute (FileTree.host refusals) options)) := by
  cases hresult : (options.header (tree.source refusals)).result with
  | error failure =>
      rw [execute_of_error hresult]
      exact ⟨.inr rfl, by simp, fun _ => leavesFiles_self refusals tree options⟩
  | ok header =>
      rw [execute_of_ok hresult]
      exact allOrNothing_deliver hresult houtput

/-- A check looks at nothing that a run would not look at. -/
theorem checkAgrees_execute :
    CheckAgrees refusals tree options
      (.ofAction tree (execute (FileTree.host refusals) options))
      (.ofAction tree (execute (FileTree.host refusals) { options with check := true })) := by
  cases hresult : (options.header (tree.source refusals)).result with
  | error failure =>
      -- The header does not depend on the flag, so that both runs fail with the same words.
      have hcheck := @execute_of_error refusals tree { options with check := true } failure hresult
      rw [execute_of_error hresult, hcheck]
      exact ⟨by simp [hresult], by simp [hresult], fun _ _ => ⟨rfl, rfl, rfl⟩⟩
  | ok header =>
      have hcheck := @execute_of_ok refusals tree { options with check := true } header hresult
      rw [hcheck]
      refine ⟨iff_of_true rfl ⟨header, hresult⟩, ?_, by simp [hresult]⟩
      intro header' hheader'
      cases hresult.symm.trans hheader'
      rfl

/-- A command line that asks for a header writes it and nothing else, or leaves the files alone.  With
`--check` added to it, which in front is always possible, it tells whether there is a header. -/
theorem allOrNothing_runUnder (refusals : FileTree.Refusals) (tree : FileTree)
    (h : parseArguments arguments = .ok (.generate options)) :
    AllOrNothing refusals tree options (runUnder refusals tree arguments) ∧
      (∀ before after options', arguments = before ++ after →
        parseArguments (before ++ "--check" :: after) = .ok (.generate options') →
        CheckAgrees refusals tree options (runUnder refusals tree arguments)
          (runUnder refusals tree (before ++ "--check" :: after))) ∧
      (options.check = false →
        ∃ options', parseArguments ("--check" :: arguments) = .ok (.generate options')) := by
  have hreads := readArguments_eq_generate_iff.mp h
  rw [runUnder_eq_execute h]
  refine ⟨allOrNothing_execute hreads.output?_isSome, ?_, fun hcheck => ?_⟩
  · rintro before after options' rfl h'
    obtain ⟨-, rfl⟩ := hreads.eq_of_insert (readArguments_eq_generate_iff.mp h')
    rw [runUnder_eq_execute h']
    exact checkAgrees_execute
  · exact ⟨_, readArguments_eq_generate_iff.mpr (hreads.cons_check rfl hcheck)⟩

/-- A directory with the description of a device that has no peripherals. -/
def bareTree : FileTree :=
  ⟨[(["work"], .directory),
    (["work", "board.xml"], .file 1 "<device partnum='BOARD'><cpu id='C'/></device>")], ["work"]⟩

def bareOptions (output : String) : Options :=
  ⟨⟨"board.xml"⟩, some ⟨output⟩, false, [], .standard, 0⟩

/-- The header can be written as `board.h`, and checked.  No file can be renamed to `board.h/.`, so that a
temporary one is left over. -/
theorem allOrNothing_bareTree :
    (runUnder .none bareTree ["--ti-xml", "board.xml", "-o", "board.h"]).exit = 0 ∧
      AllOrNothing .none bareTree (bareOptions "board.h")
        (runUnder .none bareTree ["--ti-xml", "board.xml", "-o", "board.h"]) ∧
      CheckAgrees .none bareTree (bareOptions "board.h")
        (runUnder .none bareTree ["--ti-xml", "board.xml", "-o", "board.h"])
        (runUnder .none bareTree ["--ti-xml", "board.xml", "-o", "board.h", "--check"]) ∧
      (runUnder .none bareTree ["--ti-xml", "board.xml", "-o", "board.h/."]).exit = 1 ∧
      (runUnder .none bareTree ["--ti-xml", "board.xml", "-o", "board.h/."]).tree ≠ bareTree ∧
      AllOrNothing .none bareTree (bareOptions "board.h/.")
        (runUnder .none bareTree ["--ti-xml", "board.xml", "-o", "board.h/."]) := by
  have hwritten := allOrNothing_runUnder .none bareTree
    (show parseArguments ["--ti-xml", "board.xml", "-o", "board.h"] =
      .ok (.generate (bareOptions "board.h")) from rfl)
  have hleft := allOrNothing_runUnder .none bareTree
    (show parseArguments ["--ti-xml", "board.xml", "-o", "board.h/."] =
      .ok (.generate (bareOptions "board.h/.")) from rfl)
  exact ⟨by decide +kernel, hwritten.1, hwritten.2.1 _ [] _ (List.append_nil _).symm rfl,
    by decide +kernel, by decide +kernel, hleft.1⟩

end Command
end RegisterMap
