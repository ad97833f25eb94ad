import RegisterMap.Proofs.ReadingFrame

/-!
# The first failure

A description is read in order, and reading ends at the first thing that is wrong.  So a failure names the
document that was under way, and of the documents that this one refers to the first that fails
(`firstFailure_of_device`); what is wrong there is the first that applies of a short list of causes
(`FailsFirst`).  The documents that would have been read after it have no part in the failure: they may be
others, or may not be there at all.
-/

namespace RegisterMap

open Markup (Element)

/-- A wider context stands in front of the message. -/
theorem Failure.message_within (context : Context) (failure : Failure) :
    (failure.within context).message = context.message ++ ": " ++ failure.message := by
  obtain ⟨contexts, cause⟩ := failure
  cases contexts with
  | nil => simp [message, within]
  | cons first rest => simp [message, within]

namespace Description

/-! ### Definitions -/

/-- Reading fails at the element, and at none before it. -/
def FirstFails {α : Type} (read : Element → Except Fault α) (elements : List Element) (e : Element)
    (fault : Fault) : Prop :=
  ∃ before after, elements = before ++ e :: after ∧ (∀ x ∈ before, ∃ a, read x = .ok a) ∧
    read e = .error fault

/-- What is wrong with a definition, in words.  Each cause takes that none of those before it applies: the
document is there, it can be parsed, its root has an identifier, its registers can be read, then its
instances, it has a description, and its parts go together. -/
inductive FailsFirst (archive : Archive) (group : Group) : String → Prop
  | unreadable (hget : archive.get? group.path = none) :
      FailsFirst archive group
        ("failed to read " ++ group.path.text ++ ": " ++ (group.path.text ++ " not found"))
  | unparsable {text : String} {fault : Markup.SyntaxFault}
      (hget : archive.get? group.path = some text) (hparse : Markup.parse text = .error fault) :
      FailsFirst archive group ("failed to parse " ++ group.path.text ++ ": " ++ fault.message)
  | unidentified {root : Element} (hload : archive.source.load group.path = .ok root)
      (hid : root.attribute? "id" = none) :
      FailsFirst archive group (Fault.missing root.tag "id").message
  | register {root e : Element} {name : String} {fault : Fault}
      (hload : archive.source.load group.path = .ok root) (hid : root.attribute? "id" = some name)
      (hfirst : FirstFails register (root.descendants "register") e fault) :
      FailsFirst archive group
        ("while processing register " ++ (e.attribute? "id").getD "<unnamed>" ++ ": " ++
          fault.message)
  | placement {root e : Element} {name : String} {fault : Fault}
      (hload : archive.source.load group.path = .ok root) (hid : root.attribute? "id" = some name)
      (hregisters : ∀ x ∈ root.descendants "register", ∃ r, register x = .ok r)
      (hfirst : FirstFails (placement name) group.elements e fault) :
      FailsFirst archive group
        ("while processing instance " ++ (e.attribute? "id").getD "<unnamed>" ++ ": " ++
          fault.message)
  | undescribed {root : Element} {name : String}
      (hload : archive.source.load group.path = .ok root) (hid : root.attribute? "id" = some name)
      (hregisters : ∀ x ∈ root.descendants "register", ∃ r, register x = .ok r)
      (hplacements : ∀ x ∈ group.elements, ∃ i, placement name x = .ok i)
      (hdescription : root.attribute? "description" = none) :
      FailsFirst archive group (Fault.missing root.tag "description").message
  | violation {root : Element} {draft : Peripheral.Draft} {violation : Violation}
      (hload : archive.source.load group.path = .ok root)
      (hid : root.attribute? "id" = some draft.name)
      (hregisters : List.Forall₂ (fun x r => register x = .ok r) (root.descendants "register")
        draft.registers)
      (hplacements : List.Forall₂ (fun x i => placement draft.name x = .ok i) group.elements
        draft.instances)
      (hdescription : describe root = .ok draft.description)
      (hinvalid : draft.validate = .error violation) :
      FailsFirst archive group violation.message

theorem require_eq_error_iff {e : Element} {key : String} {fault : Fault} :
    require e key = .error fault ↔ e.attribute? key = none ∧ .missing e.tag key = fault := by
  unfold require
  split
  · next v h => simp [h]
  · next h => simp [h]

/-- A description may be empty but not absent. -/
theorem describe_eq_error_iff {e : Element} {fault : Fault} :
    describe e = .error fault ↔
      e.attribute? "description" = none ∧ .missing e.tag "description" = fault := by
  rw [describe, bind_eq_error_iff, require_eq_error_iff]
  constructor
  · rintro (h | ⟨text, -, hpure⟩)
    · exact h
    · cases hpure
  · exact .inl

/-- A list of elements is read up to the first that fails, and the failure names that one. -/
theorem mapM_within_eq_error_iff {α : Type} {read : Element → Except Fault α}
    {context : Element → Context} {elements : List Element} {failure : Failure} :
    (elements.mapM fun e =>
        (read e).mapError fun fault => (Failure.ofFault fault).within (context e)) =
      .error failure ↔
    ∃ e fault, FirstFails read elements e fault ∧
      (Failure.ofFault fault).within (context e) = failure := by
  simp only [mapM_eq_error_iff, mapError_eq_ok_iff, mapError_eq_error_iff, FirstFails]
  constructor
  · rintro ⟨before, e, after, hsplit, hbefore, fault, hfault, rfl⟩
    exact ⟨e, fault, ⟨before, after, hsplit, hbefore, hfault⟩, rfl⟩
  · rintro ⟨e, fault, ⟨before, after, hsplit, hbefore, hfault⟩, rfl⟩
    exact ⟨before, e, after, hsplit, hbefore, fault, hfault, rfl⟩

theorem forall_of_forall₂ {α : Type} {read : Element → Except Fault α} {elements : List Element}
    {as : List α} (h : List.Forall₂ (fun e a => read e = .ok a) elements as) :
    ∀ e ∈ elements, ∃ a, read e = .ok a := by
  intro e he
  obtain ⟨a, -, ha⟩ := exists_of_mem_forall₂ h he
  exact ⟨a, ha⟩

/-- A document that is not to be had is not there, or it cannot be parsed. -/
theorem failsFirst_of_load {archive : Archive} {group : Group} {failure : Failure}
    (h : archive.source.load group.path = .error failure) :
    FailsFirst archive group failure.message := by
  unfold Source.load at h
  cases hget : archive.get? group.path with
  | none =>
      simp only [Archive.source, hget, Except.error.injEq] at h
      rw [← h]
      exact .unreadable hget
  | some text =>
      simp only [Archive.source, hget] at h
      cases hparse : Markup.parse text with
      | error fault =>
          rw [hparse, Except.error.injEq] at h
          rw [← h]
          exact .unparsable hget hparse
      | ok root =>
          rw [hparse] at h
          cases h

/-- A definition that is not read fails by the first thing that is wrong with it. -/
theorem failsFirst_of_definition {archive : Archive} {group : Group} {failure : Failure}
    (h : (definition archive.source group).result = .error failure) :
    FailsFirst archive group failure.message := by
  simp only [definition, Traced.result_bind, Traced.result_ofExcept, Traced.result_ofFault,
    Traced.result_note, bind_eq_error_iff, mapError_eq_error_iff, mapError_eq_ok_iff,
    require_eq_ok_iff, require_eq_error_iff, registers_eq_ok_iff, placements_eq_ok_iff,
    describe_eq_error_iff, exists_unit_iff] at h
  -- One step of the reader after the other: either it is the one that fails, or it has given something
  -- and the failure comes later.
  rcases h with hload | ⟨root, hload, h⟩
  · exact failsFirst_of_load hload
  rcases h with ⟨_, ⟨hid, rfl⟩, rfl⟩ | ⟨name, hid, h⟩
  · exact .unidentified hload hid
  rcases h with hregisters | ⟨rs, hregisters, h⟩
  · obtain ⟨e, fault, hfirst, rfl⟩ := mapM_within_eq_error_iff.mp hregisters
    rw [Failure.message_within]
    exact .register hload hid hfirst
  rcases h with hplacements | ⟨is, hplacements, h⟩
  · obtain ⟨e, fault, hfirst, rfl⟩ := mapM_within_eq_error_iff.mp hplacements
    rw [Failure.message_within]
    exact .placement hload hid (forall_of_forall₂ hregisters) hfirst
  rcases h with hnote | ⟨-, h⟩
  · cases hnote
  rcases h with ⟨_, ⟨hdescription, rfl⟩, rfl⟩ | ⟨description, hdescription, fault, hinvalid, rfl⟩
  · exact .undescribed hload hid (forall_of_forall₂ hregisters) (forall_of_forall₂ hplacements)
      hdescription
  · obtain ⟨violation, hviolation, rfl⟩ := mapError_eq_error_iff.mp hinvalid
    have hnamed : root.attribute? "id" =
        some (⟨name, description, rs, is⟩ : Peripheral.Draft).name := hid
    exact .violation hload hnamed hregisters hplacements hdescription hviolation

/-! ### References -/

/-- The documents that instance elements refer to, with the elements that do so. -/
structure Resolves (base : Path) (nodes : List Element) (groups : List Group) : Prop where
  /-- There is one group for each document, in the order in which they are first referred to. -/
  order : groups.map (·.path.normalize) = (nodes.filterMap (target? base)).eraseDups
  /-- A group holds the elements of its document, in their order. -/
  elements : ∀ g ∈ groups, g.elements = nodes.filter (target? base · = some g.path.normalize)
  /-- The path of a document is as its first element has it. -/
  path : ∀ g ∈ groups, ∃ first ∈ g.elements.head?, ∃ href,
    first.attribute? "href" = some href ∧ g.path = base.join ⟨href⟩

/-- The path of a group is that of its first reference. -/
theorem exists_first_of_mem_groupReferences (same : Path → Path → Bool)
    (references : List Reference) :
    ∀ g ∈ groupReferences same references, ∃ r ∈ references,
      g.elements.head? = some r.element ∧ g.path = r.path := by
  induction references using List.reverseRecOn with
  | nil => simp [groupReferences]
  | append_singleton references r ih =>
      have hold : ∀ g ∈ groupReferences same references, ∃ r' ∈ references ++ [r],
          g.elements.head? = some r'.element ∧ g.path = r'.path := by
        intro g hg
        obtain ⟨r', hr', hfirst⟩ := ih g hg
        exact ⟨r', List.mem_append_left _ hr', hfirst⟩
      rw [groupReferences_append_singleton]
      rcases addReference_cases same (groupReferences same references) r with
        ⟨-, heq⟩ | ⟨before, g, after, hgroups, -, -, heq⟩
      · rw [heq, List.forall_mem_append]
        exact ⟨hold, by simp⟩
      · rw [hgroups, List.forall_mem_append, List.forall_mem_cons] at hold
        obtain ⟨hbefore, ⟨r', hr', hhead, hpath⟩, hafter⟩ := hold
        rw [heq, List.forall_mem_append, List.forall_mem_cons]
        -- A group that takes one more reference keeps its path, and its first element stays first.
        refine ⟨hbefore, ⟨r', hr', ?_, hpath⟩, hafter⟩
        rw [List.head?_append, hhead]
        rfl

/-- Groups of an archive are told apart by normal forms, so that no two of them have the same one. -/
theorem resolves_of_resolve {archive : Archive} {selection : Selection} {base : Path}
    {cpu : Element} {groups : List Group}
    (h : (resolve archive.source selection base cpu).result = .ok groups) :
    Resolves base ((cpu.descendants "instance").filter (isIncluded selection)) groups ∧
      (groups.map (·.path.normalize)).Nodup := by
  obtain ⟨references, rfl, hgrouped⟩ := grouped_of_resolve h
  refine ⟨⟨hgrouped.keys, hgrouped.members, ?_⟩, hgrouped.grouping.distinct⟩
  intro g hg
  obtain ⟨r, hr, hhead, hpath⟩ := exists_first_of_mem_groupReferences _ _ g hg
  obtain ⟨href, hhref, hjoin⟩ := hgrouped.path r hr
  exact ⟨r.element, hhead, href, hhref, hpath.trans hjoin⟩

/-! ### Devices -/

/-- Definitions that are read up to one that fails make the device fail as that one does. -/
theorem device_eq_error_of_definition {source : Source} {selection : Selection} {path : Path}
    {root cpu : Element} {before after : List Group} {g : Group} {own : Failure}
    (hroot : source.load path = .ok root) (hcpu : processor root = .ok cpu)
    (hgroups : (resolve source selection (baseOf path) cpu).result = .ok (before ++ g :: after))
    (hbefore : ∀ x ∈ before, ∃ p, (definition source x).result = .ok p)
    (hown : (definition source g).result = .error own) :
    (device source selection path).result =
      .error ((own.within (.document g.path)).within (.document path)) := by
  have hfails : ((before ++ g :: after).mapM fun group =>
      (definition source group).result.mapError (Failure.within (.document group.path))) =
        .error (own.within (.document g.path)) := by
    rw [mapM_eq_error_iff]
    refine ⟨before, g, after, rfl, fun x hx => ?_, by rw [hown, mapError_error]⟩
    obtain ⟨p, hp⟩ := hbefore x hx
    exact ⟨p, by rw [hp, mapError_ok]⟩
  rw [result_device, hroot, ok_bind, hcpu, mapError_ok, ok_bind, hgroups, ok_bind, assemble, hfails,
    error_bind, mapError_error]

/-- The two archives hold the same, but perhaps not at the paths of those groups.  At the path of the top
document they hold the same in any case. -/
def DiffersOnlyAt (groups : List Group) (path : Path) (archive archive' : Archive) : Prop :=
  ∀ q : Path, q.normalize ∉ groups.map (·.path.normalize) ∨ q.normalize = path.normalize →
    archive'.get? q = archive.get? q

/-- Where a definition fails, there is a first one that does. -/
theorem exists_first_failure {source : Source} {groups : List Group}
    (h : ∃ g ∈ groups, ∃ own, (definition source g).result = .error own) :
    ∃ before g after own, groups = before ++ g :: after ∧
      (∀ x ∈ before, ∃ p, (definition source x).result = .ok p) ∧
      (definition source g).result = .error own := by
  -- Reading all of them stops at the first that fails, if there is one.
  cases hall : groups.mapM fun g => (definition source g).result with
  | ok ps =>
      obtain ⟨g, hg, own, hown⟩ := h
      obtain ⟨p, -, hp⟩ := exists_of_mem_forall₂ (mapM_eq_ok_iff.mp hall) hg
      rw [hown] at hp
      cases hp
  | error own =>
      obtain ⟨before, g, after, hsplit, hbefore, hown⟩ := mapM_eq_error_iff.mp hall
      exact ⟨before, g, after, own, hsplit, hbefore, hown⟩

/-- Archives that differ only at the groups after one give the same for it and for those before it. -/
theorem definition_eq_of_differsOnlyAt {before after : List Group} {g : Group} {path : Path}
    {archive archive' : Archive}
    (hdistinct : ((before ++ g :: after).map (·.path.normalize)).Nodup)
    (h : DiffersOnlyAt after path archive archive') :
    ∀ x ∈ before ++ [g],
      (definition archive'.source x).result = (definition archive.source x).result := by
  -- The groups have different normal forms, so `x` is at none of those that come after.
  intro x hx
  rw [List.append_cons, List.map_append, List.nodup_append] at hdistinct
  have hnotin : x.path.normalize ∉ after.map (·.path.normalize) := fun hmem =>
    hdistinct.2.2 _ (List.mem_map_of_mem hx) _ hmem rfl
  exact definition_congr (.inl (Archive.load_congr (h x.path (.inl hnotin))))

/-- A failure to read a device names its document first.  If the references of that document are resolved
and one of the definitions fails, the failure is that of the first one that does: the message goes on with
its path and with the first thing that is wrong with it, and the definitions after it may be replaced or
removed. -/
theorem firstFailure_of_device (archive : Archive) (selection : Selection) (path : Path) :
    (∀ failure, (device archive.source selection path).result = .error failure →
      ∃ rest, failure.message = "while processing " ++ path.text ++ ": " ++ rest) ∧
    ∀ root cpu groups, archive.source.load path = .ok root → processor root = .ok cpu →
      (resolve archive.source selection (baseOf path) cpu).result = .ok groups →
      Resolves (baseOf path) ((cpu.descendants "instance").filter (isIncluded selection)) groups ∧
      ((∃ g ∈ groups, ∃ own, (definition archive.source g).result = .error own) →
        ∃ before g after own failure, groups = before ++ g :: after ∧
          (∀ x ∈ before, ∃ p, (definition archive.source x).result = .ok p) ∧
          (definition archive.source g).result = .error own ∧ FailsFirst archive g own.message ∧
          (device archive.source selection path).result = .error failure ∧
          failure.message = "while processing " ++ path.text ++ ": " ++
            ("while processing " ++ g.path.text ++ ": " ++ own.message) ∧
          ∀ archive', DiffersOnlyAt after path archive archive' →
            (device archive'.source selection path).result = .error failure) := by
  refine ⟨fun failure h => ?_, fun root cpu groups hroot hcpu hgroups => ?_⟩
  · rw [result_device, mapError_eq_error_iff] at h
    obtain ⟨cause, -, rfl⟩ := h
    exact ⟨cause.message, Failure.message_within _ _⟩
  obtain ⟨hresolves, hdistinct⟩ := resolves_of_resolve hgroups
  refine ⟨hresolves, fun hfails => ?_⟩
  obtain ⟨before, g, after, own, rfl, hbefore, hown⟩ := exists_first_failure hfails
  refine ⟨before, g, after, own, _, rfl, hbefore, hown, failsFirst_of_definition hown,
    device_eq_error_of_definition hroot hcpu hgroups hbefore hown, ?_, fun archive' h => ?_⟩
  · rw [Failure.message_within, Failure.message_within]
    rfl
  · -- The top document is the same, and so are the references; then come the same definitions.
    have hroot' : archive'.source.load path = .ok root :=
      (Archive.load_congr (h path (.inr rfl))).trans hroot
    have hsame := definition_eq_of_differsOnlyAt hdistinct h
    rw [List.forall_mem_append, List.forall_mem_singleton] at hsame
    refine device_eq_error_of_definition hroot' hcpu hgroups (fun x hx => ?_) (hsame.2.trans hown)
    obtain ⟨p, hp⟩ := hbefore x hx
    exact ⟨p, (hsame.1 x hx).trans hp⟩

/-! ### A board with two faults -/

/-- A port, a clock whose definition has a register without an identifier, and an instance without a
definition. -/
def faultyText : String :=
  "<device partnum='P1'><cpu id='C0'>
    <instance id='U0' href='u.xml' baseaddr='0x40' size='4'/>
    <instance id='K0' href='./k.xml' baseaddr='0x50' size='8'/>
    <instance id='X0' href='x.xml' baseaddr='0x80' size='4'/></cpu></device>"

def clockText : String :=
  "<module id='K'><register id='RATE' width='32' offset='0' description='rate'/>
    <register width='32' offset='4' description='drift'/></module>"

def faultyArchive : Archive :=
  ((Archive.empty.insert ⟨"d/top.xml"⟩ faultyText).insert ⟨"d/u.xml"⟩ portText).insert ⟨"d/k.xml"⟩
    clockText

def clock0 : Element :=
  ⟨"instance", [("id", "K0"), ("href", "./k.xml"), ("baseaddr", "0x50"), ("size", "8")], []⟩

def unknown0 : Element :=
  ⟨"instance", [("id", "X0"), ("href", "x.xml"), ("baseaddr", "0x80"), ("size", "4")], []⟩

def faultyCpu : Element :=
  ⟨"cpu", [("id", "C0")], [port0, clock0, unknown0]⟩

set_option maxRecDepth 4000 in
theorem load_faulty :
    faultyArchive.source.load ⟨"d/top.xml"⟩ =
      .ok ⟨"device", [("partnum", "P1")], [faultyCpu]⟩ := by
  rw [Archive.load_eq_ok_iff]
  refine ⟨faultyText, ?_, Markup.parse_eq_ok_iff.mpr ?_⟩
  · rw [faultyArchive, Archive.get?_insert, if_neg (by decide), Archive.get?_insert,
      if_neg (by decide), Archive.get?_insert, if_pos rfl]
  · rw [show faultyText.toList = _ from String.toList_ofList]
    decide +kernel

def portGroup : Group :=
  ⟨⟨"d/u.xml"⟩, [port0]⟩

def clockGroup : Group :=
  ⟨⟨"d/./k.xml"⟩, [clock0]⟩

def unknownGroup : Group :=
  ⟨⟨"d/x.xml"⟩, [unknown0]⟩

theorem resolve_faulty :
    (resolve faultyArchive.source Selection.all (baseOf ⟨"d/top.xml"⟩) faultyCpu).result =
      .ok [portGroup, clockGroup, unknownGroup] := by
  decide +kernel

theorem definition_portGroup :
    (definition faultyArchive.source portGroup).result = .ok port := by
  decide +kernel

def clockRoot : Element :=
  ⟨"module", [("id", "K")],
    [⟨"register", [("id", "RATE"), ("width", "32"), ("offset", "0"), ("description", "rate")], []⟩,
      ⟨"register", [("width", "32"), ("offset", "4"), ("description", "drift")], []⟩]⟩

set_option maxRecDepth 4000 in
theorem load_clock : faultyArchive.source.load clockGroup.path = .ok clockRoot := by
  rw [Archive.load_eq_ok_iff]
  refine ⟨clockText, ?_, Markup.parse_eq_ok_iff.mpr ?_⟩
  · rw [faultyArchive, Archive.get?_insert, if_pos (by decide)]
  · rw [show clockText.toList = _ from String.toList_ofList]
    decide +kernel

theorem definition_clockGroup :
    (definition faultyArchive.source clockGroup).result =
      .error ⟨[.register none], .fault (.missing "register" "id")⟩ := by
  rw [definition, Traced.result_bind, Traced.result_ofExcept, load_clock, ok_bind]
  decide +kernel

theorem differsOnlyAt_faulty :
    DiffersOnlyAt [unknownGroup] ⟨"d/top.xml"⟩ faultyArchive
      (faultyArchive.insert ⟨"d/x.xml"⟩ portText) := by
  intro q hq
  have htop : (⟨"d/top.xml"⟩ : Path).normalize ≠ (⟨"d/x.xml"⟩ : Path).normalize := by
    decide
  rw [Archive.get?_insert, if_neg]
  intro hx
  rcases hq with hother | htop'
  · exact hother (hx ▸ List.mem_singleton_self _)
  · exact htop (htop'.symm.trans hx)

/-- Reading stops at the clock, and a definition for the last instance changes nothing about that. -/
theorem firstFailure_faulty :
    ∃ failure, (device faultyArchive.source Selection.all ⟨"d/top.xml"⟩).result = .error failure ∧
      failure.message = "while processing d/top.xml: while processing d/./k.xml: " ++
        "while processing register <unnamed>: missing \"id\" in <register>" ∧
      (device (faultyArchive.insert ⟨"d/x.xml"⟩ portText).source Selection.all
        ⟨"d/top.xml"⟩).result = .error failure := by
  have hcpu : processor ⟨"device", [("partnum", "P1")], [faultyCpu]⟩ = .ok faultyCpu := by
    simp [processor, Element.descendants, Element.search, faultyCpu]
  obtain ⟨-, hfails⟩ := (firstFailure_of_device faultyArchive Selection.all ⟨"d/top.xml"⟩).2 _
    faultyCpu _ load_faulty hcpu resolve_faulty
  obtain ⟨before, g, after, own, failure, hsplit, hbefore, hown, -, hdevice, hmessage, hlater⟩ :=
    hfails ⟨clockGroup, by simp, _, definition_clockGroup⟩
  -- The port is read and the clock is not, so that the clock is the first to fail.
  have hfirst : before = [portGroup] ∧ g = clockGroup ∧ after = [unknownGroup] := by
    cases before with
    | nil =>
        obtain ⟨rfl, -⟩ := List.cons.inj hsplit
        rw [definition_portGroup] at hown
        cases hown
    | cons first before =>
        obtain ⟨rfl, hrest⟩ := List.cons.inj hsplit
        cases before with
        | nil =>
            obtain ⟨rfl, rfl⟩ := List.cons.inj hrest
            exact ⟨rfl, rfl, rfl⟩
        | cons second before =>
            obtain ⟨rfl, -⟩ := List.cons.inj hrest
            obtain ⟨p, hp⟩ := hbefore clockGroup (by simp)
            rw [definition_clockGroup] at hp
            cases hp
  obtain ⟨rfl, rfl, rfl⟩ := hfirst
  rw [definition_clockGroup] at hown
  obtain rfl := Except.error.inj hown
  refine ⟨failure, hdevice, ?_, hlater _ differsOnlyAt_faulty⟩
  rw [hmessage]
  decide

end Description
end RegisterMap
