import TenantAuth.Numeric.Binary64
import TenantAuth.Calendar.Moment

/-!
Dynamic documents: the values a JSON text, a YAML text or a request body carries before a
schema gives them a type. A YAML document may also hold sets, tuples and containers that
contain themselves. A mapping keeps its entries in insertion order and never holds two
equal keys, where keys are equal as values: the integer one, the double one and `true` name
the same entry, and a later assignment to a key keeps the key's first spelling and position.
-/

namespace TenantAuth

/-- A dynamic document value. -/
inductive Datum where
  /-- The absent value. -/
  | none
  /-- A truth value. -/
  | bool (b : Bool)
  /-- An integer of any size. -/
  | int (n : Int)
  /-- A binary64 floating-point number. -/
  | float (x : Float)
  /-- Unicode text. -/
  | str (s : String)
  /-- Raw bytes, as a binary YAML scalar gives them. -/
  | bytes (b : List UInt8)
  /-- A date, or a date and time, as a YAML timestamp gives it. -/
  | moment (m : Moment)
  /-- A sequence. -/
  | list (items : List Datum)
  /-- A mapping in insertion order. -/
  | dict (entries : List (Datum × Datum))
  /-- A set, its members in the order they were added. -/
  | set (items : List Datum)
  /-- A tuple, as an ordered map gives each of its entries. -/
  | tuple (items : List Datum)
  /-- A sequence or mapping that contains itself: `anchor` names it, and `d` is its value,
  each place where it contains itself unfolded a few times over. -/
  | cycle (anchor : String) (d : Datum)
deriving Inhabited

namespace Datum

/-- The numeric reading of a key: truth values count as zero and one. -/
def asNumber? : Datum → Option (Int ⊕ Float)
  | .bool b => some (.inl (if b then 1 else 0))
  | .int n => some (.inl n)
  | .float x => some (.inr x)
  | _ => Option.none

/-- Two numbers are equal in value. -/
def numbersAgree : Int ⊕ Float → Int ⊕ Float → Bool
  | .inl m, .inl n => m == n
  | .inl m, .inr x => Double.compareInt? x m == some .eq
  | .inr x, .inl n => Double.compareInt? x n == some .eq
  | .inr x, .inr y => x == y

/-- Two keys name the same mapping entry. Numbers (truth values included) compare by
value, text and bytes by content, moments as moments, and the absent value only with
itself. -/
def sameKey (a b : Datum) : Bool :=
  match a.asNumber?, b.asNumber? with
  | some x, some y => numbersAgree x y
  | _, _ =>
    match a, b with
    | .none, .none => true
    | .str s, .str t => s == t
    | .bytes s, .bytes t => s == t
    | .moment s, .moment t => s.sameAs t
    | _, _ => false

/-- A value without the wrappers that mark a container containing itself. -/
def unwrap : Datum → Datum
  | .cycle _ d => d.unwrap
  | d => d

/-- Whether a value can be a mapping key: sequences, mappings and sets cannot, nor a tuple
holding one of them. -/
def isKey : Datum → Bool
  | .list _ => false
  | .dict _ => false
  | .set _ => false
  | .cycle _ _ => false
  | .tuple items => items.attach.all fun ⟨x, _⟩ => x.isKey
  | _ => true

/-- The value stored under a key, if any. -/
def lookup (entries : List (Datum × Datum)) (key : Datum) : Option Datum :=
  (entries.find? (fun e => sameKey e.1 key)).map (·.2)

/-- Assigns a value to a key: an existing equal key keeps its place and spelling, a new key
goes last. -/
def assign (entries : List (Datum × Datum)) (key value : Datum) : List (Datum × Datum) :=
  if entries.any (fun e => sameKey e.1 key) then
    entries.map (fun e => if sameKey e.1 key then (e.1, value) else e)
  else entries ++ [(key, value)]

/-- A mapping built by assigning the pairs in order. -/
def dictOf (pairs : List (Datum × Datum)) : Datum :=
  .dict (pairs.foldl (fun acc p => assign acc p.1 p.2) [])

/-- The value of a text-keyed field of a mapping. -/
def field? (d : Datum) (name : String) : Option Datum :=
  match d.unwrap with
  | .dict entries => lookup entries (.str name)
  | _ => Option.none

/-- Whether a mapping has a text-keyed field. -/
def hasField (d : Datum) (name : String) : Bool :=
  (d.field? name).isSome

/-- The truth of a value: the absent value, false, zero, and empty text, bytes, sequences,
mappings, sets and tuples are false; everything else, moments included, is true. -/
def truthy : Datum → Bool
  | .none => false
  | .bool b => b
  | .int n => n != 0
  | .float x => x != 0
  | .str s => !s.isEmpty
  | .bytes b => !b.isEmpty
  | .moment _ => true
  | .list items => !items.isEmpty
  | .dict entries => !entries.isEmpty
  | .set items => !items.isEmpty
  | .tuple items => !items.isEmpty
  | .cycle _ d => d.truthy

/-- The text a value holds, if it is text. -/
def asString? : Datum → Option String
  | .str s => some s
  | _ => Option.none

/-- The text a value holds, or nothing when it is absent or not text. -/
def textOrNone (d : Datum) : Option String := d.asString?

/-- The value of an optional text. -/
def ofOption : Option String → Datum
  | some s => .str s
  | Option.none => .none

/-- A mapping with text keys, in the given order. -/
def record (fields : List (String × Datum)) : Datum :=
  .dict (fields.map fun (k, v) => (.str k, v))

/-- The entries of a mapping, or none. -/
def entries? (d : Datum) : Option (List (Datum × Datum)) :=
  match d.unwrap with
  | .dict es => some es
  | _ => Option.none

@[simp] theorem truthy_str (s : String) : (Datum.str s).truthy = !s.isEmpty := rfl

@[simp] theorem unwrap_dict (es : List (Datum × Datum)) : (Datum.dict es).unwrap = .dict es := rfl

@[simp] theorem unwrap_list (xs : List Datum) : (Datum.list xs).unwrap = .list xs := rfl

@[simp] theorem field?_record_cons (k : String) (v : Datum) (rest : List (String × Datum)) :
    (record ((k, v) :: rest)).field? k = some v := by
  simp [record, field?, lookup, sameKey, asNumber?]

end Datum

end TenantAuth
