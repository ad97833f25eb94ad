/-!
# Tables of characters

A property of characters, or a mapping between them, is kept as a short list of runs.
-/

namespace RegisterMap
namespace Text

/-! ### Runs of code points

A run holds the code points from `first` to `last` in equal steps: step one is an interval, step two takes
every other one, as where upper and lower case alternate.
-/

/-- The code points `first`, `first + step`, … up to `last`. -/
structure Run where
  first : Nat
  last : Nat
  step : Nat
deriving Repr, DecidableEq

/-- The code point is one of the run's. -/
def Run.contains (r : Run) (n : Nat) : Bool :=
  decide (r.first ≤ n) && decide (n ≤ r.last) && (n - r.first) % r.step == 0

/-- The character is in one of the runs. -/
def Run.cover (runs : List Run) (c : Char) : Bool :=
  runs.any (·.contains c.toNat)

/-! ### Case tables

A case mapping is kept as runs of characters that move by one and the same offset, and a short list of
characters that become several.
-/

/-- The code points of a run, each of which moves by `offset`. -/
structure CaseRun where
  run : Run
  offset : Int
deriving Repr, DecidableEq

/-- The character that a code point moves to. -/
def CaseRun.target (r : CaseRun) (n : Nat) : Char :=
  Char.ofNat (n + r.offset).toNat

/-- The form of a character under a case table: as the special entry says, else moved by the run that
holds it, else unchanged. -/
def convert (singles : List CaseRun) (specials : List (Nat × List Nat)) (c : Char) : List Char :=
  match specials.lookup c.toNat with
  | some form => form.map Char.ofNat
  | none =>
    match singles.find? (·.run.contains c.toNat) with
    | some r => [r.target c.toNat]
    | none => [c]

end Text
end RegisterMap
