import RegisterMap.Command.Arguments
import RegisterMap.Proofs.Outcome

/-!
# The flag that asks for a check

What `--check` changes when it is added to a command line that asks for a header: the request is the same
but for that flag (`Reads.eq_of_insert`).  In front of all other arguments it is accepted whenever it has
not been there before (`Reads.cons_check`).

`Reads` says how a command line that asks for a header is read, and leaves out those that ask for
something else or are mistaken.  An argument either is the flag or takes no notice of it
(`readArgument_withCheck`), so two readings that differ in the flag stay in step.
-/

namespace RegisterMap
namespace Command

/-- The draft with a check asked for or not. -/
def Draft.withCheck (d : Draft) (check : Bool) : Draft :=
  { d with check }

/-- The step with a check asked for or not. -/
def Step.withCheck (check : Bool) : Step → Step
  | next d => next (d.withCheck check)
  | needs d setting => needs (d.withCheck check) setting
  | done request => done request

variable {d d' : Draft} {options options' : Options} {arguments : List String}

/-! ### One argument -/

/-- A setting takes no notice of whether a check has been asked for. -/
theorem Draft.set_withCheck (d : Draft) (check : Bool) (setting : Setting) (value : String) :
    (d.withCheck check).set setting value = (d.set setting value).map (·.withCheck check) := by
  cases setting with
  | description =>
      by_cases hset : d.description?.isSome <;> by_cases hempty : value = "" <;>
        simp [Draft.set, Draft.withCheck, hset, hempty, Except.map]
  | output =>
      by_cases hset : d.output?.isSome <;> by_cases hempty : value = "" <;>
        simp [Draft.set, Draft.withCheck, hset, hempty, Except.map]
  | exclude => rfl
  | commentWidth =>
      by_cases hset : d.commentWidth?.isSome <;>
        cases hwidth : Numeral.unsigned? 10 64 value.toList <;>
          simp [Draft.set, Draft.withCheck, hset, hwidth, Except.map]
  | banner => rfl

/-- No flag but the one for a check takes notice of it. -/
theorem Draft.raise_withCheck (d : Draft) (check : Bool) {flag : Flag} (hflag : flag ≠ .check) :
    (d.withCheck check).raise flag = (d.raise flag).map (Sum.map (·.withCheck check) id) := by
  cases flag with
  | check => exact absurd rfl hflag
  | verbose => rfl
  | help => rfl
  | version => rfl

theorem Opt.ofLetter?_ne_check (letter : Char) : Opt.ofLetter? letter ≠ some (.flag .check) := by
  unfold Opt.ofLetter?
  split_ifs <;> simp

/-- The flag has no letter, hence letters take no notice of it either. -/
theorem readLetters_withCheck (d : Draft) (check : Bool) (letters : List Char) :
    readLetters (d.withCheck check) letters = (readLetters d letters).map (Step.withCheck check) := by
  induction letters generalizing d with
  | nil => rfl
  | cons letter rest ih =>
      unfold readLetters
      cases hletter : Opt.ofLetter? letter with
      | none => rfl
      | some option =>
          cases option with
          | setting setting =>
              simp only
              split_ifs
              · rfl
              · rw [Draft.set_withCheck]
                cases d.set setting (attachedValue rest) <;> rfl
          | flag flag =>
              -- No letter stands for the flag that is set here, so that the two do not interfere.
              have hflag : flag ≠ .check := fun h => Opt.ofLetter?_ne_check letter (h ▸ hletter)
              simp only
              rw [Draft.raise_withCheck d check hflag]
              cases hraise : d.raise flag with
              | error fault => rfl
              | ok result =>
                  cases result with
                  | inl next => exact ih next
                  | inr request => rfl

/-- What has been asked for so far enters into a long option only where it is set. -/
theorem readLong_cases (cs : List Char) :
    (∃ fault, ∀ d, readLong d cs = .error fault) ∨
      (∃ setting, ∀ d, readLong d cs = .ok (.needs d setting)) ∨
      (∃ setting value, ∀ d, readLong d cs = (d.set setting value).map .next) ∨
      ∃ flag, ∀ d, readLong d cs = (d.raise flag).map (Sum.elim .next .done) := by
  unfold readLong
  obtain ⟨name, value?⟩ := splitLong cs
  cases hname : Opt.ofName? name with
  | none => exact .inl ⟨_, fun _ => by simp only [hname]; rfl⟩
  | some option =>
      cases option with
      | setting setting =>
          cases value? with
          | none => exact .inr (.inl ⟨setting, fun _ => by simp only [hname]⟩)
          | some value => exact .inr (.inr (.inl ⟨setting, value, fun _ => by simp only [hname]⟩))
      | flag flag =>
          cases value? with
          | some value => exact .inl ⟨_, fun _ => by simp only [hname]; rfl⟩
          | none =>
              refine .inr (.inr (.inr ⟨flag, fun d => ?_⟩))
              simp only [hname]
              cases hraise : d.raise flag with
              | error fault => rfl
              | ok result => cases result <;> rfl

/-- A long option is the flag for a check, which may be given only once, or takes no notice of it. -/
theorem readLong_withCheck (cs : List Char) :
    (∀ (d : Draft) (check : Bool),
      readLong (d.withCheck check) cs = (readLong d cs).map (Step.withCheck check)) ∨
    ∀ d : Draft, readLong d cs =
      if d.check then .error (.repeatedFlag .check) else .ok (.next (d.withCheck true)) := by
  rcases readLong_cases cs with ⟨fault, h⟩ | ⟨setting, h⟩ | ⟨setting, value, h⟩ | ⟨flag, h⟩
  · exact .inl fun _ _ => by rw [h, h]; rfl
  · exact .inl fun _ _ => by rw [h, h]; rfl
  · refine .inl fun d check => ?_
    rw [h, h, Draft.set_withCheck]
    cases d.set setting value <;> rfl
  -- Of the four forms of a long option only this one can be the flag.
  · by_cases hflag : flag = .check
    · refine .inr fun d => ?_
      rw [h, hflag, Draft.raise]
      split_ifs <;> rfl
    · refine .inl fun d check => ?_
      rw [h, h, Draft.raise_withCheck d check hflag]
      cases d.raise flag with
      | error fault => rfl
      | ok result => cases result <;> rfl

/-- An argument is the flag for a check, which may be given only once, or takes no notice of it. -/
theorem readArgument_withCheck (argument : List Char) :
    (∀ (d : Draft) (check : Bool),
      readArgument (d.withCheck check) argument =
        (readArgument d argument).map (Step.withCheck check)) ∨
    ∀ d : Draft, readArgument d argument =
      if d.check then .error (.repeatedFlag .check) else .ok (.next (d.withCheck true)) := by
  unfold readArgument
  split
  · exact readLong_withCheck _
  · exact .inl fun d check => readLetters_withCheck d check _
  · exact .inl fun _ _ => rfl

/-! ### Command lines that ask for a header -/

/-- The command line is read to its end, from a draft on, and asks for a header with those options. -/
inductive Reads : Draft → List String → Options → Prop
  | nil {d : Draft} {options : Options} (hfinish : d.finish = .ok (.generate options)) :
      Reads d [] options
  | dashes {d : Draft} {options : Options} (hfinish : d.finish = .ok (.generate options)) :
      Reads d ["--"] options
  | next {d d' : Draft} {options : Options} {argument : String} {rest : List String}
      (hdashes : argument ≠ "--") (hread : readArgument d argument.toList = .ok (.next d'))
      (hrest : Reads d' rest options) : Reads d (argument :: rest) options
  | value {d d' d'' : Draft} {options : Options} {argument value : String} {rest : List String}
      {setting : Setting} (hdashes : argument ≠ "--")
      (hread : readArgument d argument.toList = .ok (.needs d' setting))
      (hvalue : isOption value.toList = false) (hset : d'.set setting value = .ok d'')
      (hrest : Reads d'' rest options) : Reads d (argument :: value :: rest) options

theorem Draft.raise_ne_generate (d : Draft) (flag : Flag) (options : Options) :
    d.raise flag ≠ .ok (.inr (.generate options)) := by
  cases flag with
  | check => unfold Draft.raise; split_ifs <;> simp
  | verbose | help | version => simp [Draft.raise]

theorem readLetters_ne_generate (d : Draft) (letters : List Char) (options : Options) :
    readLetters d letters ≠ .ok (.done (.generate options)) := by
  induction letters generalizing d with
  | nil => simp [readLetters]
  | cons letter rest ih =>
      unfold readLetters
      cases Opt.ofLetter? letter with
      | none => simp
      | some option =>
          cases option with
          | setting setting =>
              simp only
              split_ifs
              · simp
              · cases d.set setting (attachedValue rest) <;> simp [Except.map]
          | flag flag =>
              simp only
              intro h
              obtain ⟨result, hraise, hresult⟩ := bind_eq_ok_iff.mp h
              cases result with
              | inl next => exact ih next hresult
              | inr request =>
                  cases hresult
                  exact Draft.raise_ne_generate d flag options hraise

theorem readLong_ne_generate (d : Draft) (cs : List Char) (options : Options) :
    readLong d cs ≠ .ok (.done (.generate options)) := by
  rcases readLong_cases cs with ⟨fault, h⟩ | ⟨setting, h⟩ | ⟨setting, value, h⟩ | ⟨flag, h⟩
  · simp [h]
  · simp [h]
  · rw [h]
    cases d.set setting value <;> simp [Except.map]
  · rw [h]
    cases hraise : d.raise flag with
    | error fault => simp [Except.map]
    | ok result =>
        cases result with
        | inl next => simp [Except.map]
        | inr request =>
            intro hdone
            cases hdone
            exact Draft.raise_ne_generate d flag options hraise

/-- No argument ends the reading with a header asked for. -/
theorem readArgument_ne_generate (d : Draft) (argument : List Char) (options : Options) :
    readArgument d argument ≠ .ok (.done (.generate options)) := by
  unfold readArgument
  split
  · exact readLong_ne_generate d _ options
  · exact readLetters_ne_generate d _ options
  · simp

theorem Reads.of_readArguments (h : readArguments d arguments = .ok (.generate options)) :
    Reads d arguments options := by
  fun_induction readArguments d arguments with
  | case1 d => exact .nil h
  | case2 d => exact .dashes h
  | case3 => cases h
  | case4 => cases h
  -- A request that is complete before the end asks for help or for the version.
  | case5 d argument rest _ request hread =>
      cases h
      exact absurd hread (readArgument_ne_generate d _ options)
  | case6 d argument rest hdashes d' hread ih => exact .next hdashes hread (ih h)
  | case7 => cases h
  | case8 => cases h
  | case9 => cases h
  | case10 d argument hdashes d' setting hread value rest hvalue d'' hset ih =>
      exact .value hdashes hread (by simpa using hvalue) hset (ih h)

theorem Reads.readArguments_eq (h : Reads d arguments options) :
    readArguments d arguments = .ok (.generate options) := by
  induction h with
  | nil hfinish => simpa [readArguments] using hfinish
  | dashes hfinish => simpa [readArguments] using hfinish
  | next hdashes hread _ ih =>
      unfold readArguments
      simpa [hdashes, hread] using ih
  | value hdashes hread hvalue hset _ ih =>
      simpa [readArguments, hdashes, hread, hvalue, hset] using ih

theorem readArguments_eq_generate_iff :
    readArguments d arguments = .ok (.generate options) ↔ Reads d arguments options :=
  ⟨Reads.of_readArguments, Reads.readArguments_eq⟩

theorem Reads.unique (h : Reads d arguments options) (h' : Reads d arguments options') :
    options = options' := by
  have heq := h.readArguments_eq.symm.trans h'.readArguments_eq
  cases heq
  rfl

theorem reads_dashes_iff {rest : List String} :
    Reads d ("--" :: rest) options ↔ rest = [] ∧ d.finish = .ok (.generate options) := by
  rw [← readArguments_eq_generate_iff]
  unfold readArguments
  cases rest <;> simp

theorem reads_iff_of_next {argument : String} {rest : List String} (hdashes : argument ≠ "--")
    (hread : readArgument d argument.toList = .ok (.next d')) :
    Reads d (argument :: rest) options ↔ Reads d' rest options := by
  rw [← readArguments_eq_generate_iff, ← readArguments_eq_generate_iff]
  conv_lhs => unfold readArguments
  simp [hdashes, hread]

theorem reads_iff_of_needs {argument value : String} {rest : List String} {setting : Setting}
    (hdashes : argument ≠ "--")
    (hread : readArgument d argument.toList = .ok (.needs d' setting)) :
    Reads d (argument :: value :: rest) options ↔ isOption value.toList = false ∧
      ∃ d'', d'.set setting value = .ok d'' ∧ Reads d'' rest options := by
  simp only [← readArguments_eq_generate_iff]
  conv_lhs => unfold readArguments
  cases hvalue : isOption value.toList <;> cases hset : d'.set setting value <;>
    simp [hdashes, hread, hvalue, hset]

theorem not_reads_of_error {argument : String} {rest : List String} {fault : UsageFault}
    (hdashes : argument ≠ "--") (hread : readArgument d argument.toList = .error fault) :
    ¬Reads d (argument :: rest) options := by
  rw [← readArguments_eq_generate_iff]
  unfold readArguments
  simp [hdashes, hread]

theorem Draft.finish_eq_ok_iff :
    d.finish = .ok (.generate options) ↔ ∃ description, d.description? = some description ∧
      (d.check = false → d.output?.isSome) ∧ options = ⟨description, d.output?, d.check, d.excluded,
        ⟨d.commentWidth?.getD Header.Format.standard.commentWidth, d.banner⟩, d.verbosity⟩ := by
  unfold Draft.finish
  cases hdescription : d.description? with
  | none => simp
  | some description =>
      cases houtput : d.output? <;> cases hcheck : d.check <;> simp [eq_comm]

/-- A header that is not only to be checked has a path to be written to. -/
theorem Reads.output?_isSome (h : Reads d arguments options) (hcheck : options.check = false) :
    options.output?.isSome := by
  induction h with
  | nil hfinish | dashes hfinish =>
      obtain ⟨_, -, houtput, rfl⟩ := Draft.finish_eq_ok_iff.mp hfinish
      exact houtput hcheck
  | next _ _ _ ih | value _ _ _ _ _ ih => exact ih hcheck

/-! ### Readings that differ in the flag -/

theorem Draft.finish_withCheck (h : d.finish = .ok (.generate options)) :
    options.check = d.check ∧
      (d.withCheck true).finish = .ok (.generate { options with check := true }) := by
  obtain ⟨description, hdescription, -, rfl⟩ := Draft.finish_eq_ok_iff.mp h
  refine ⟨rfl, Draft.finish_eq_ok_iff.mpr ⟨description, hdescription, nofun, rfl⟩⟩

theorem Draft.check_of_eq_withCheck {check : Bool} (h : d = d.withCheck check) : d.check = check := by
  rw [h]
  rfl

theorem Draft.set_eq_ok {setting : Setting} {value : String} (h : d.set setting value = .ok d') :
    d'.check = d.check ∧
      ∀ check, (d.withCheck check).set setting value = .ok (d'.withCheck check) := by
  have hset : ∀ check, (d.withCheck check).set setting value = .ok (d'.withCheck check) := by
    intro check
    rw [Draft.set_withCheck, h]
    rfl
  refine ⟨?_, hset⟩
  -- To set the flag to what it is changes nothing, so that it can be read off the result.
  have hsame : Except.ok d' = Except.ok (d'.withCheck d.check) := h.symm.trans (hset d.check)
  exact Draft.check_of_eq_withCheck (Except.ok.inj hsame)

theorem readArgument_eq_needs {argument : List Char} {setting : Setting}
    (h : readArgument d argument = .ok (.needs d' setting)) :
    d'.check = d.check ∧ ∀ check,
      readArgument (d.withCheck check) argument = .ok (.needs (d'.withCheck check) setting) := by
  rcases readArgument_withCheck argument with hblind | hflag
  · have hread : ∀ check,
        readArgument (d.withCheck check) argument = .ok (.needs (d'.withCheck check) setting) := by
      intro check
      rw [hblind, h]
      rfl
    have hsame := h.symm.trans (hread d.check)
    simp only [Except.ok.injEq, Step.needs.injEq, and_true] at hsame
    exact ⟨Draft.check_of_eq_withCheck hsame, hread⟩
  · rw [hflag] at h
    split_ifs at h
    cases h

/-- An argument that is dealt with is the flag itself, or is dealt with in the same way whether or not a
check has been asked for. -/
theorem readArgument_eq_next {argument : List Char}
    (h : readArgument d argument = .ok (.next d')) :
    (d'.check = d.check ∧ ∀ check,
      readArgument (d.withCheck check) argument = .ok (.next (d'.withCheck check))) ∨
    (d.check = false ∧ d'.check = true ∧
      readArgument (d.withCheck true) argument = .error (.repeatedFlag .check)) := by
  rcases readArgument_withCheck argument with hblind | hflag
  · have hread : ∀ check,
        readArgument (d.withCheck check) argument = .ok (.next (d'.withCheck check)) := by
      intro check
      rw [hblind, h]
      rfl
    have hsame := h.symm.trans (hread d.check)
    simp only [Except.ok.injEq, Step.next.injEq] at hsame
    exact .inl ⟨Draft.check_of_eq_withCheck hsame, hread⟩
  · rw [hflag] at h
    split_ifs at h with hcheck
    cases h
    exact .inr ⟨by simpa using hcheck, rfl, by rw [hflag]; rfl⟩

/-- A check that has been asked for stays so. -/
theorem Reads.check_of_check (h : Reads d arguments options) (hcheck : d.check = true) :
    options.check = true := by
  induction h with
  | nil hfinish | dashes hfinish => rw [(Draft.finish_withCheck hfinish).1, hcheck]
  | next _ hread _ ih =>
      rcases readArgument_eq_next hread with ⟨hsame, -⟩ | ⟨hnot, -⟩
      · exact ih (hsame.trans hcheck)
      · rw [hcheck] at hnot
        cases hnot
  | value _ hread _ hset _ ih =>
      exact ih ((Draft.set_eq_ok hset).1.trans ((readArgument_eq_needs hread).1.trans hcheck))

/-- With a check asked for beforehand, a command line asks for the same and for a check, or for a check
twice. -/
theorem Reads.withCheck (h : Reads d arguments options) (hcheck : d.check = false) :
    (options.check = false ∧ Reads (d.withCheck true) arguments { options with check := true }) ∨
      (options.check = true ∧ ∀ options', ¬Reads (d.withCheck true) arguments options') := by
  induction h with
  | nil hfinish =>
      obtain ⟨hsame, hfinish'⟩ := Draft.finish_withCheck hfinish
      exact .inl ⟨hsame.trans hcheck, .nil hfinish'⟩
  | dashes hfinish =>
      obtain ⟨hsame, hfinish'⟩ := Draft.finish_withCheck hfinish
      exact .inl ⟨hsame.trans hcheck, .dashes hfinish'⟩
  | next hdashes hread hrest ih =>
      rcases readArgument_eq_next hread with ⟨hsame, hread'⟩ | ⟨-, hcheck', hrepeated⟩
      · simpa only [reads_iff_of_next hdashes (hread' true)] using ih (hsame.trans hcheck)
      -- This argument is the flag, which now comes a second time.
      · exact .inr ⟨hrest.check_of_check hcheck', fun _ => not_reads_of_error hdashes hrepeated⟩
  | value hdashes hread hvalue hset _ ih =>
      obtain ⟨hsame, hread'⟩ := readArgument_eq_needs hread
      obtain ⟨hsame', hset'⟩ := Draft.set_eq_ok hset
      simpa [reads_iff_of_needs hdashes (hread' true), hvalue, hset' true] using
        ih (hsame'.trans (hsame.trans hcheck))

/-! ### The added flag -/

theorem readArgument_check (d : Draft) :
    readArgument d "--check".toList =
      if d.check then .error (.repeatedFlag .check) else .ok (.next (d.withCheck true)) := by
  cases hcheck : d.check <;>
    simp [readArgument, readLong, splitLong, Opt.ofName?, Draft.raise, Draft.withCheck, hcheck] <;> rfl

/-- In front of the other arguments the flag is read first. -/
theorem reads_check_cons_iff :
    Reads d ("--check" :: arguments) options ↔
      d.check = false ∧ Reads (d.withCheck true) arguments options := by
  have hread := readArgument_check d
  cases hcheck : d.check with
  | true =>
      rw [hcheck, if_pos rfl] at hread
      simpa using not_reads_of_error (by decide) hread
  | false =>
      rw [hcheck, if_neg (by decide)] at hread
      rw [reads_iff_of_next (by decide) hread, and_iff_right rfl]

/-- In front of the other arguments the flag is accepted unless it is given a second time. -/
theorem Reads.cons_check (h : Reads d arguments options) (hcheck : d.check = false)
    (hno : options.check = false) :
    Reads d ("--check" :: arguments) { options with check := true } := by
  rcases h.withCheck hcheck with ⟨-, hread⟩ | ⟨hyes, -⟩
  · exact reads_check_cons_iff.mpr ⟨hcheck, hread⟩
  · rw [hno] at hyes
    cases hyes

/-- The flag, added anywhere, changes what is asked for in nothing but itself. -/
theorem Reads.eq_of_insert {before after : List String} (h : Reads d (before ++ after) options)
    (h' : Reads d (before ++ "--check" :: after) options') :
    options.check = false ∧ options' = { options with check := true } := by
  -- The value of an option is read together with it, so that up to two arguments are left behind at once.
  induction hlength : before.length using Nat.strongRecOn generalizing before d with
  | ind n ih =>
      cases before with
      | nil =>
          obtain ⟨hcheck, hrest⟩ := reads_check_cons_iff.mp h'
          rcases h.withCheck hcheck with ⟨hno, hread⟩ | ⟨-, hnone⟩
          · exact ⟨hno, hrest.unique hread⟩
          · exact absurd hrest (hnone options')
      | cons argument before =>
          rw [List.cons_append] at h h'
          generalize hwhole : before ++ after = whole at h
          cases h with
          -- After two dashes nothing may follow, and here the flag would.
          | dashes _ =>
              obtain ⟨hnil, -⟩ := reads_dashes_iff.mp h'
              simp at hnil
          | next hdashes hread hrest =>
              subst hwhole
              rw [reads_iff_of_next hdashes hread] at h'
              have hlt : before.length < n := by rw [← hlength, List.length_cons]; omega
              exact ih before.length hlt hrest h' rfl
          | value hdashes hread hvalue hset hrest =>
              cases before with
              | nil =>
                  -- The flag stands where a value is expected, and no value begins with a dash.
                  rw [List.nil_append, reads_iff_of_needs hdashes hread] at h'
                  exact absurd h'.1 (by decide)
              | cons value before =>
                  cases hwhole
                  rw [List.cons_append, reads_iff_of_needs hdashes hread] at h'
                  obtain ⟨-, d'', hset', h'⟩ := h'
                  rw [hset] at hset'
                  cases hset'
                  have hlt : before.length < n := by
                    rw [← hlength, List.length_cons, List.length_cons]
                    omega
                  exact ih before.length hlt hrest h' rfl

end Command
end RegisterMap
