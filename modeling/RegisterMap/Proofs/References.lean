import RegisterMap.Proofs.NumberText
import RegisterMap.Proofs.TagText

/-!
# References are replaced one by one

Decoding a text replaces each reference in it by the character that the reference names, and leaves all
else as it is.  What stands before a reference has no influence on it and what stands after it neither
(`decode_append_reference`), although an ampersand is paired with the next semicolon wherever that is: a
pair that reaches into a reference holds its ampersand, and nothing that holds one names a character.

Decoding a text from its front there are two ways to go on, past a reference and past a single character
(`decode_reference`, `decode_of_not_begins`), and `reference_induction` is the induction over them.
-/

namespace RegisterMap
namespace Markup

/-! ### What references name -/

/-- The names of the characters that markup itself uses. -/
def predefined : List (List Char × Char) :=
  [(['a', 'm', 'p'], '&'), (['l', 't'], '<'), (['g', 't'], '>'), (['q', 'u', 'o', 't'], '\x22'),
    (['a', 'p', 'o', 's'], '\x27')]

/-- What stands between `&` and `;` names a character: by one of the predefined names, or by the number
of the character, in decimal after `#` or in hexadecimal after `#x` or `#X`. -/
inductive Names : List Char → Char → Prop
  | predefined {name : List Char} {c : Char} (h : (name, c) ∈ predefined) : Names name c
  | decimal {digits : List Char} {c : Char}
      (h : Numeral.unsigned? 10 32 digits = some c.toNat) : Names ('#' :: digits) c
  | hexadecimal {mark : Char} {digits : List Char} {c : Char} (hmark : mark = 'x' ∨ mark = 'X')
      (h : Numeral.unsigned? 16 32 digits = some c.toNat) : Names ('#' :: mark :: digits) c

theorem scalar?_eq_some_iff {n : Nat} {c : Char} : scalar? n = some c ↔ n = c.toNat := by
  unfold scalar?
  constructor
  · intro h
    split at h
    · next hvalid =>
      obtain rfl := Option.some.inj h
      rw [Char.ofNat, dif_pos hvalid]
      rfl
    · cases h
  · rintro rfl
    have hvalid : c.toNat.isValidChar := c.valid
    rw [if_pos hvalid, Char.ofNat_toNat]

theorem bind_scalar?_eq_some_iff {number? : Option Nat} {c : Char} :
    number?.bind scalar? = some c ↔ number? = some c.toNat := by
  simp only [Option.bind_eq_some_iff, scalar?_eq_some_iff, exists_eq_right]

/-- What is between the ampersand and the semicolon is decoded exactly if it names a character. -/
theorem reference?_eq_some_iff {body : List Char} {c : Char} :
    reference? body = some c ↔ Names body c := by
  constructor
  · intro h
    unfold reference? at h
    split at h
    · cases h; exact .predefined (by decide)
    · cases h; exact .predefined (by decide)
    · cases h; exact .predefined (by decide)
    · cases h; exact .predefined (by decide)
    · cases h; exact .predefined (by decide)
    · exact .hexadecimal (.inl rfl) (bind_scalar?_eq_some_iff.mp h)
    · exact .hexadecimal (.inr rfl) (bind_scalar?_eq_some_iff.mp h)
    · exact .decimal (bind_scalar?_eq_some_iff.mp h)
    · cases h
  · intro h
    cases h with
    | predefined h =>
        simp only [Markup.predefined, List.mem_cons, List.not_mem_nil, or_false, Prod.mk.injEq] at h
        rcases h with ⟨rfl, rfl⟩ | ⟨rfl, rfl⟩ | ⟨rfl, rfl⟩ | ⟨rfl, rfl⟩ | ⟨rfl, rfl⟩ <;> rfl
    | hexadecimal hmark h =>
        rcases hmark with rfl | rfl
        · exact bind_scalar?_eq_some_iff.mpr h
        · exact bind_scalar?_eq_some_iff.mpr h
    | @decimal digits _ h =>
        -- A decimal number does not begin as the mark of a hexadecimal one does.
        have hmark {mark : Char} (hplus : mark ≠ '+') (hdigit : Numeral.digit? 10 mark = none)
            (rest : List Char) (heq : digits = mark :: rest) : False := by
          subst heq
          rcases Numeral.mem_of_unsigned? (by decide) h List.mem_cons_self with rfl | ⟨v, hv⟩
          · exact hplus rfl
          · rw [hdigit] at hv
            cases hv
        rw [reference?]
        · exact bind_scalar?_eq_some_iff.mpr h
        · exact hmark (by decide) (by decide)
        · exact hmark (by decide) (by decide)

/-- Nothing that names a character holds an ampersand or a semicolon. -/
theorem Names.not_mem {body : List Char} {c : Char} (h : Names body c) : '&' ∉ body ∧ ';' ∉ body := by
  have hnumber {base n : Nat} {digits : List Char} (hbase : base ≤ 16)
      (hdigits : Numeral.unsigned? base 32 digits = some n) : '&' ∉ digits ∧ ';' ∉ digits := by
    constructor
    all_goals
      intro hmem
      rcases Numeral.mem_of_unsigned? hbase hdigits hmem with hplus | ⟨v, hv⟩
      · exact absurd hplus (by decide)
      · have hrange := (Numeral.cases_of_digit? hv).2
        simp only [Char.reduceToNat] at hrange
        omega
  cases h with
  | predefined h =>
      have hall : ∀ entry ∈ Markup.predefined, '&' ∉ entry.1 ∧ ';' ∉ entry.1 := by decide
      exact hall _ h
  | decimal h => simpa using hnumber (by decide) h
  | hexadecimal hmark h => rcases hmark with rfl | rfl <;> simpa using hnumber (by decide) h

/-! ### Decoding from the front -/

/-- The text begins with a reference. -/
def BeginsReference (text : List Char) : Prop :=
  ∃ body c rest, Names body c ∧ text = '&' :: (body ++ ';' :: rest)

/-- There is a reference in the text. -/
def HoldsReference (text : List Char) : Prop :=
  ∃ before rest, BeginsReference rest ∧ text = before ++ rest

theorem decode_reference {body : List Char} {c : Char} (h : Names body c) (rest : List Char) :
    decode ('&' :: (body ++ ';' :: rest)) = c :: decode rest := by
  have huntil : Text.until? [';'] (body ++ ';' :: rest) = some (body, rest) :=
    Text.until?_singleton_eq_some_iff.mpr ⟨rfl, h.not_mem.2⟩
  rw [decode, if_pos rfl]
  split
  · next hnone =>
    rw [huntil] at hnone
    cases hnone
  · next body' rest' hsome =>
    rw [huntil] at hsome
    cases hsome
    rw [reference?_eq_some_iff.mpr h]

theorem decode_of_not_begins {c : Char} {rest : List Char} (h : ¬BeginsReference (c :: rest)) :
    decode (c :: rest) = c :: decode rest := by
  rw [decode]
  split
  · next hc =>
    split
    · rfl
    · next body after huntil =>
      obtain ⟨hrest, -⟩ := Text.until?_singleton_eq_some_iff.mp huntil
      -- The ampersand is paired with a semicolon, but what is between them names nothing.
      have hnone : reference? body = none := by
        rw [Option.eq_none_iff_forall_ne_some]
        intro d hd
        exact h ⟨body, d, after, reference?_eq_some_iff.mp hd, by rw [hc, hrest]; rfl⟩
      rw [hnone]
  · rfl

theorem not_begins_of_ne {c : Char} (h : c ≠ '&') (rest : List Char) :
    ¬BeginsReference (c :: rest) := by
  rintro ⟨body, d, after, -, heq⟩
  exact h (List.cons.inj heq).1

/-- Induction over a text as decoding goes through it: past a reference, or past one character that does
not begin one. -/
@[elab_as_elim]
theorem reference_induction {P : List Char → Prop} (nil : P [])
    (reference : ∀ body c rest, Names body c → P rest → P ('&' :: (body ++ ';' :: rest)))
    (single : ∀ c rest, ¬BeginsReference (c :: rest) → P rest → P (c :: rest)) (text : List Char) :
    P text := by
  induction hlength : text.length using Nat.strongRecOn generalizing text with
  | ind length ih =>
      subst hlength
      by_cases hbegins : BeginsReference text
      · obtain ⟨body, c, rest, hbody, rfl⟩ := hbegins
        refine reference body c rest hbody (ih rest.length ?_ rest rfl)
        simp only [List.length_cons, List.length_append]
        omega
      · cases text with
        | nil => exact nil
        | cons c rest => exact single c rest hbegins (ih rest.length (by simp) rest rfl)

/-- A reference that begins in a text does not end inside another one that follows the text. -/
theorem begins_of_begins_append {text body rest : List Char} (hne : text ≠ [])
    (h : BeginsReference (text ++ '&' :: (body ++ ';' :: rest))) : BeginsReference text := by
  obtain ⟨body', c, rest', hbody', heq⟩ := h
  obtain ⟨first, more, rfl⟩ := List.exists_cons_of_ne_nil hne
  obtain ⟨rfl, htail⟩ := List.cons.inj heq
  rcases List.append_eq_append_iff.mp htail with ⟨extra, rfl, hextra⟩ | ⟨extra, rfl, hextra⟩
  · -- Its body would hold the ampersand of the one that follows.
    cases extra with
    | nil => exact absurd (List.cons.inj hextra).1 (by decide)
    | cons d extra =>
        obtain ⟨rfl, -⟩ := List.cons.inj hextra
        exact absurd (List.mem_append_right more List.mem_cons_self) hbody'.not_mem.1
  · cases extra with
    | nil => exact absurd (List.cons.inj hextra).1 (by decide)
    | cons d extra =>
        obtain ⟨rfl, -⟩ := List.cons.inj hextra
        exact ⟨body', c, extra, hbody', rfl⟩

/-! ### References in a text -/

/-- A reference is replaced by what it names, and the text on either side is decoded by itself. -/
theorem decode_append_reference {body : List Char} {c : Char} (h : Names body c)
    (before rest : List Char) :
    decode (before ++ '&' :: (body ++ ';' :: rest)) = decode before ++ c :: decode rest := by
  induction before using reference_induction with
  | nil => rw [List.nil_append, decode_reference h, decode, List.nil_append]
  | reference body' c' rest' h' ih =>
      have hassoc : '&' :: (body' ++ ';' :: rest') ++ '&' :: (body ++ ';' :: rest) =
          '&' :: (body' ++ ';' :: (rest' ++ '&' :: (body ++ ';' :: rest))) := by simp
      rw [hassoc, decode_reference h', decode_reference h', ih, List.cons_append]
  | single c' rest' hbegins ih =>
      have hbegins' : ¬BeginsReference (c' :: (rest' ++ '&' :: (body ++ ';' :: rest))) :=
        fun hwhole => hbegins (begins_of_begins_append (List.cons_ne_nil c' rest') hwhole)
      rw [List.cons_append, decode_of_not_begins hbegins', decode_of_not_begins hbegins, ih,
        List.cons_append]

/-- A reference is longer than what it names. -/
theorem length_decode_le (text : List Char) : (decode text).length ≤ text.length := by
  induction text using reference_induction with
  | nil => rw [decode]
  | reference body c rest h ih =>
      rw [decode_reference h]
      simp only [List.length_cons, List.length_append]
      omega
  | single c rest h ih =>
      rw [decode_of_not_begins h, List.length_cons, List.length_cons]
      omega

/-- A text comes out as it is exactly if there is no reference in it. -/
theorem decode_eq_self_iff (text : List Char) : decode text = text ↔ ¬HoldsReference text := by
  constructor
  · rintro hself ⟨before, _, ⟨body, c, rest, h, rfl⟩, rfl⟩
    -- A reference takes up three characters at least, in place of the one that it names.
    have hlength := congrArg List.length hself
    rw [decode_append_reference h] at hlength
    have hbefore := length_decode_le before
    have hrest := length_decode_le rest
    simp only [List.length_append, List.length_cons] at hlength
    omega
  · intro hnone
    induction text using reference_induction with
    | nil => rw [decode]
    | reference body c rest h ih => exact absurd ⟨[], _, ⟨body, c, rest, h, rfl⟩, rfl⟩ hnone
    | single c rest h ih =>
        have hrest : ¬HoldsReference rest := by
          rintro ⟨before, after, hbegins, rfl⟩
          exact hnone ⟨c :: before, after, hbegins, rfl⟩
        rw [decode_of_not_begins h, ih hrest]

/-! ### Escaped texts -/

/-- A character as it is written in markup: by its name if it is one of those that markup itself uses. -/
def escapeChar (c : Char) : List Char :=
  match predefined.find? fun entry => entry.2 == c with
  | some (name, _) => '&' :: (name ++ [';'])
  | none => [c]

/-- A text as it is written in markup. -/
def escape (text : List Char) : List Char :=
  text.flatMap escapeChar

theorem decode_escapeChar_append (c : Char) (rest : List Char) :
    decode (escapeChar c ++ rest) = c :: decode rest := by
  unfold escapeChar
  split
  · next name d hfind =>
    have hmem := List.mem_of_find?_eq_some hfind
    have hd : d = c := by simpa using List.find?_some hfind
    subst hd
    have hassoc : '&' :: (name ++ [';']) ++ rest = '&' :: (name ++ ';' :: rest) := by simp
    rw [hassoc, decode_reference (.predefined hmem)]
  · next hfind =>
    have hc : c ≠ '&' := by
      rintro rfl
      cases hfind
    rw [List.singleton_append, decode_of_not_begins (not_begins_of_ne hc rest)]

theorem decode_escape (text : List Char) : decode (escape text) = text := by
  induction text with
  | nil => rw [escape, List.flatMap_nil, decode]
  | cons c rest ih =>
      rw [escape, List.flatMap_cons, decode_escapeChar_append]
      exact congrArg (c :: ·) ih

/-- Decoding replaces each reference by the character it names, whatever stands around it, changes nothing
else, and undoes escaping. -/
theorem decode_replaces_references :
    (∀ before body c rest, Names body c →
      decode (before ++ '&' :: (body ++ ';' :: rest)) = decode before ++ c :: decode rest) ∧
      (∀ text, ¬HoldsReference text ↔ decode text = text) ∧
      ∀ text, decode (escape text) = text :=
  ⟨fun before _ _ rest h => decode_append_reference h before rest,
    fun text => (decode_eq_self_iff text).symm, decode_escape⟩

/-- An ampersand whose next semicolon is that of a reference, and a reference that names an ampersand and
so makes the look of another one. -/
theorem decode_strayText :
    Names ['#', 'x', '2', '6'] '&' ∧
      decode (['R', '&', 'D'] ++ '&' :: (['#', 'x', '2', '6'] ++ ';' :: ['l', 't', ';'])) =
        ['R', '&', 'D', '&', 'l', 't', ';'] := by
  have hnames : Names ['#', 'x', '2', '6'] '&' := .hexadecimal (.inl rfl) (by decide)
  refine ⟨hnames, ?_⟩
  rw [decode_replaces_references.1 _ _ _ _ hnames]
  decide +kernel

end Markup
end RegisterMap
