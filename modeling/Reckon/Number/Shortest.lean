import Reckon.Number.Magnitude

namespace Reckon

namespace Magnitude

def reads (m : Magnitude) (d : Decimal) : Bool := ofDecimal d == m

/-- The neighbour of the exact value that reads back, on the grid of multiples of `unit` in its last place.
Of two such neighbours the nearer, and of two equally near ones the upper. -/
def neighbour? (m : Magnitude) (exact : Decimal) (unit : Nat) : Option Decimal :=
  let beyond := exact.coefficient % unit
  let below : Decimal := ⟨exact.coefficient - beyond, exact.places⟩
  let above : Decimal := ⟨below.coefficient + unit, exact.places⟩
  if m.reads below then
    if m.reads above && unit ≤ 2 * beyond then some above else some below
  else if m.reads above then some above
  else none

def firstNeighbour (m : Magnitude) (exact : Decimal) : Nat → Decimal
  | 0 => exact
  | size + 1 => (m.neighbour? exact (10 ^ (size + 1))).getD (m.firstNeighbour exact size)

theorem reads_iff {m : Magnitude} {d : Decimal} : m.reads d = true ↔ ofDecimal d = m := by
  simp [reads]

theorem ofDecimal_neighbour? {m : Magnitude} {exact d : Decimal} {unit : Nat}
    (hit : m.neighbour? exact unit = some d) : ofDecimal d = m := by
  unfold neighbour? at hit
  dsimp only at hit
  split at hit
  · rename_i below
    split at hit
    · rename_i above
      cases hit
      exact reads_iff.1 (Bool.and_eq_true_iff.1 above).1
    · cases hit
      exact reads_iff.1 below
  · split at hit
    · rename_i above
      cases hit
      exact reads_iff.1 above
    · cases hit

theorem ofDecimal_firstNeighbour {m : Magnitude} {exact : Decimal} (same : ofDecimal exact = m) (size : Nat) :
    ofDecimal (m.firstNeighbour exact size) = m := by
  induction size with
  | zero => exact same
  | succ size ih =>
    unfold firstNeighbour
    cases hit : m.neighbour? exact (10 ^ (size + 1)) with
    | none => exact ih
    | some d => exact ofDecimal_neighbour? hit

/-- The shortest decimal that is read as this finite magnitude, of several such the nearest. -/
def shortest (m : Magnitude) : Decimal :=
  let exact := m.toDecimal
  m.firstNeighbour exact exact.coefficient.repr.length

theorem ofDecimal_shortest (m : Magnitude) : ofDecimal m.shortest = m :=
  ofDecimal_firstNeighbour m.ofDecimal_toDecimal _

end Magnitude

end Reckon
