import LedStudio.Value

/-!
# The order of a set

A set keeps its members at places. A number looks for a free one from its remainder on; members that
are no numbers stay in the order in which they came.
-/

namespace LedStudio.Yaml

/-- The number of places for so many members: a power of two, more than twice as many if there are
five or more. -/
def placeCount (members : Nat) : Nat :=
  if members < 5 then 8 else Nat.pow 2 (Nat.log2 (2 * members) + 1)

/-- The prime number that the sizes of numbers are reduced by. -/
def modulus : Nat := Nat.pow 2 61 - 1

/-- The remainder of a number whose denominator is a power of two. Two to the power 61 leaves one,
so a half to the power `k` is two to the power that makes `k` a multiple of 61. -/
def residue (q : Rat) : Nat :=
  q.num.natAbs % modulus * Nat.pow 2 (60 * (Nat.log2 q.den % 61) % 61) % modulus

/-- The number that decides on the place of a number. It has the number's sign, and is never minus
one. -/
def placeKey? (v : Value) : Option Int :=
  match v with
  | .float (.infinite negative) => some (if negative then -314159 else 314159)
  | .float .negZero => some 0
  | v => v.exactNumber?.map fun q =>
      let key : Int := if q < 0 then -residue q else residue q
      if key = -1 then -2 else key

/-- The first free place from one on: in the row of ten that begins there, if the places go as far,
and else further on, by steps that depend on what is left of the key. -/
def freePlace (count : Nat) (taken : List Nat) : (fuel : Nat) → (left place : Nat) → Nat
  | 0, _, place => place
  | fuel + 1, left, place =>
    let row := if place + 9 < count then (List.range 10).map (place + ·) else [place]
    match row.find? fun p => !taken.contains p with
    | some p => p
    | none =>
      freePlace count taken fuel (left / 32) ((place * 5 + 1 + left / 32) % count)

/-- Puts a member between those with places before and after its own. -/
def insertPlaced (new : Nat × Value) : List (Nat × Value) → List (Nat × Value)
  | [] => [new]
  | m :: rest => if new.1 < m.1 then new :: m :: rest else m :: insertPlaced new rest

/-- Gives a member its place among the others. -/
def placeMember (count : Nat) (placed : List (Nat × Value)) (v : Value) (key : Int) :
    List (Nat × Value) :=
  let left := (key % Nat.pow 2 64).toNat
  insertPlaced (freePlace count (placed.map (·.1)) (16 + count) left (left % count), v) placed

/-- The members of a set in order: numbers by the places that they find one after the other,
others as they came. -/
def memberOrder (members : List Value) : List Value :=
  match members.mapM fun v => (placeKey? v).map fun key => (v, key) with
  | some keyed =>
    let count := placeCount members.length
    (keyed.foldl (fun placed (v, key) => placeMember count placed v key) []).map (·.2)
  | none => members

end LedStudio.Yaml
