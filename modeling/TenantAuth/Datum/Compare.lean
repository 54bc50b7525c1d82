import TenantAuth.Datum.Basic
import TenantAuth.Fault

/-!
Equality, order and members of dynamic values. Values are equal when they agree as data (numbers by
value, mappings key by key whatever their order), and are ordered only within a kind, so sorting
values of different kinds fails. Going through a value gives the items of a container, the keys of a
mapping or the characters of a text.
-/

namespace TenantAuth

namespace Datum

mutual

/-- Whether two values are equal as data. -/
def equal : Datum → Datum → Bool
  | .list xs, .list ys => equalItems xs ys
  | .tuple xs, .tuple ys => equalItems xs ys
  | .dict es, .dict fs => es.length == fs.length && equalEntries es fs
  | .set xs, .set ys => xs.length == ys.length && equalMembers xs ys
  | .cycle _ a, b => equal a b
  | a, .cycle _ b => equal a b
  | .list _, _ => false
  | .tuple _, _ => false
  | .dict _, _ => false
  | .set _, _ => false
  | a, b => sameKey a b

/-- Whether two sequences are equal item by item. -/
def equalItems : List Datum → List Datum → Bool
  | [], [] => true
  | x :: xs, y :: ys => equal x y && equalItems xs ys
  | _, _ => false

/-- Whether every member of the first set is equal to a member of the second. -/
def equalMembers : List Datum → List Datum → Bool
  | [], _ => true
  | x :: xs, ys => anyEqual x ys && equalMembers xs ys

/-- Whether a value is equal to an item of a sequence. -/
def anyEqual (x : Datum) : List Datum → Bool
  | [] => false
  | y :: ys => equal x y || anyEqual x ys

/-- Whether every entry of the first mapping has an equal value under its key in the second. -/
def equalEntries : List (Datum × Datum) → List (Datum × Datum) → Bool
  | [], _ => true
  | (k, v) :: rest, fs =>
    (match lookup fs k with
      | some w => equal v w
      | Option.none => false) && equalEntries rest fs

end

/-- Whether a value is equal to one of a list. -/
def memberOf (x : Datum) (xs : List Datum) : Bool := xs.any (equal x)

/-- The members of a value, in order. -/
def members : Datum → Except Fault (List Datum)
  | .list xs => .ok xs
  | .dict es => .ok (es.map (·.1))
  | .set xs => .ok xs
  | .tuple xs => .ok xs
  | .cycle _ d => members d
  | .str s => .ok (s.toList.map fun c => .str c.toString)
  | .bytes bs => .ok (bs.map fun b => .int b.toNat)
  | _ => .error .wrongType

/-- The kind of value an ordering compares within. -/
def orderKind : Datum → Nat
  | .bool _ | .int _ | .float _ => 0
  | .str _ => 1
  | .bytes _ => 2
  | .moment m => 4 + m.kind
  | _ => 3

/-- Whether one sequence of codes comes no later than another in dictionary order. -/
def codesNoLater : List Nat → List Nat → Bool
  | [], _ => true
  | _ :: _, [] => false
  | a :: as, b :: bs => a < b || (a == b && codesNoLater as bs)

/-- Whether `a` comes no later than `b`, for two values of one ordered kind. -/
def noLater (a b : Datum) : Bool :=
  match a.asNumber?, b.asNumber?, a, b with
  | some (.inl m), some (.inl n), _, _ => m ≤ n
  | some (.inr x), some (.inr y), _, _ => x ≤ y
  | some (.inl m), some (.inr y), _, _ => Double.compareInt? y m != some .lt
  | some (.inr x), some (.inl n), _, _ => Double.compareInt? x n != some .gt
  | _, _, .str s, .str t => codesNoLater (s.toList.map Char.toNat) (t.toList.map Char.toNat)
  | _, _, .bytes s, .bytes t => codesNoLater (s.map UInt8.toNat) (t.map UInt8.toNat)
  | _, _, .moment s, .moment t => s.position ≤ t.position
  | _, _, _, _ => true

/-- Values in ascending order; values of different kinds, or an absent value among
others, cannot be ordered. -/
def sorted (xs : List Datum) : Except Fault (List Datum) :=
  match xs with
  | [] | [_] => .ok xs
  | x :: rest =>
    if x.orderKind == 3 || rest.any (fun y => y.orderKind != x.orderKind) then .error .wrongType
    else .ok (xs.mergeSort noLater)

end Datum

end TenantAuth
