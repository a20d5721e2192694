import CommandCompiler.Decimal.Shortest
import CommandCompiler.Moment
/-!
# CommandCompiler.Value

Data whose shape is not known in advance: the content of a schema document, the
arguments of a call, the content of an artifact.

* `Value` : the data, with mappings and lists in document order;
* `Value.typeName` : what kind of data a value is, in one word;
* `Value.sameKey`, `putKey` : mappings as association lists that hold each key
  once;
* `valueAt?` : the value under a text key.
-/

namespace CommandCompiler

/-- Data whose shape is not known in advance. -/
inductive Value
  | null
  | bool (b : Bool)
  | int (n : Int)
  | float (x : Float)
  | str (s : String)
  | bytes (bs : List UInt8)
  | moment (m : Moment)
  | list (items : List Value)
  /-- A set, in the order in which its members were given. -/
  | set (members : List Value)
  /-- A mapping, in the order in which its keys were first given. One that may stand at several
  places has a number of its own, which tells it from others that look the same. -/
  | mapping (entries : List (Value × Value)) (number : Option Nat := none)
  deriving Inhabited, Repr

namespace Value

/-- The kind of a value, in one word. -/
def typeName : Value → String
  | null => "NoneType"
  | bool _ => "bool"
  | int _ => "int"
  | float _ => "float"
  | str _ => "str"
  | bytes _ => "bytes"
  | moment m => if m.clock.isSome then "datetime" else "date"
  | list _ => "list"
  | set _ => "set"
  | mapping _ _ => "dict"

/-- The integer that a floating-point number is, if it is one. -/
def wholeFloat? (x : Float) : Option Int :=
  if x == x.floor && !x.isInf then
    let b := Decimal.Binary.ofFloat x
    let magnitude :=
      Int.ofNat (b.mantissa * Nat.pow 2 b.exponent.toNat / Nat.pow 2 (-b.exponent).toNat)
    some (if x < 0 then -magnitude else magnitude)
  else none

/-- The integer that a value equals, if it is a number and equals one. Booleans count as zero and
one. -/
def whole? : Value → Option Int
  | bool b => some (if b then 1 else 0)
  | int n => some n
  | float x => wholeFloat? x
  | _ => none

/-- Whether two values are the same key. Numbers are compared by value, whatever their kind, and
what is no number is the same as nothing. -/
def sameKey : Value → Value → Bool
  | null, null => true
  | str s, str t => s == t
  | bytes a, bytes b => a == b
  | moment a, moment b => a.same b
  | a, b =>
    match a.whole?, b.whole? with
    | some m, some n => m == n
    | none, none => match a, b with
      | float x, float y => x == y
      | _, _ => false
    | _, _ => false

end Value

/-- Puts an entry into a mapping. A key that is there already keeps its place and gets the new
value. -/
def putKey (k v : Value) : List (Value × Value) → List (Value × Value)
  | [] => [(k, v)]
  | (k', v') :: rest => if k'.sameKey k then (k', v) :: rest else (k', v') :: putKey k v rest

/-- The value under a text key. -/
def valueAt? (key : String) : List (Value × Value) → Option Value
  | [] => none
  | (.str s, v) :: rest => if s = key then some v else valueAt? key rest
  | _ :: rest => valueAt? key rest

/-- What stands under a key is smaller than the mapping. -/
theorem sizeOf_valueAt? {key : String} {entries : List (Value × Value)} {v : Value}
    (h : valueAt? key entries = some v) : sizeOf v < sizeOf entries := by
  fun_induction valueAt? key entries with
  | case1 => simp at h
  | case2 rest v' => simp at h; subst h; simp; omega
  | case3 s v' rest _ ih => have := ih h; simp; omega
  | case4 e rest _ ih => have := ih h; simp; omega

end CommandCompiler
