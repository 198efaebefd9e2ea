/-!
# Numbers in bytes

Binary files write numbers with the lowest byte first. A field that reaches beyond the end of its
bytes is read as if zeros followed.
-/

namespace Tablesmith.Binary

/-- The number that bytes write, the lowest first. -/
def number : List UInt8 → Nat
  | [] => 0
  | byte :: rest => byte.toNat + 256 * number rest

def slice (offset length : Nat) (bytes : List UInt8) : List UInt8 :=
  (bytes.drop offset).take length

def field (offset length : Nat) (bytes : List UInt8) : Nat :=
  number (slice offset length bytes)

/-- The numbers of four bytes each; bytes left over at the end are ignored. -/
def words : List UInt8 → List Nat
  | a :: b :: c :: d :: rest => number [a, b, c, d] :: words rest
  | _ => []

/-- Splits bytes into pieces of one size; the last may be shorter. -/
def chunks (size : Nat) (bytes : List UInt8) : List (List UInt8) :=
  if size = 0 ∨ bytes = [] then []
  else bytes.take size :: chunks size (bytes.drop size)
termination_by bytes.length
decreasing_by
  rename_i some_left
  have : bytes.length ≠ 0 := by
    intro none_left
    exact some_left (.inr (List.length_eq_zero_iff.1 none_left))
  simp only [List.length_drop]
  omega

end Tablesmith.Binary
