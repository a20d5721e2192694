import CommandCompiler.Value
/-!
# CommandCompiler.Value.Equality

When two values are equal, however deep they are.

* `Value.equals` : numbers by value, whatever their kind; lists item by item;
  mappings entry by entry, in any order;
* `Value.equalsItself` : when a value is equal to itself;
* `Value.isTrue` : which values count as true.

Two mappings of the same size are equal when every entry of one is in the other,
because a mapping holds each key once.
-/

namespace CommandCompiler.Value

/-- The value under a key. -/
def underKey? (k : Value) (entries : List (Value × Value)) : Option Value :=
  (entries.find? fun e => e.1.sameKey k).map (·.2)

/-- Whether two sets have the same members. -/
def sameMembers (as bs : List Value) : Bool :=
  as.length == bs.length && as.all fun a => bs.any a.sameKey

mutual

/-- Whether two values are equal. -/
def equals : Value → Value → Bool
  | list as, list bs => itemsEqual as bs
  | set as, set bs => sameMembers as bs
  | mapping as _, mapping bs _ => as.length == bs.length && entriesWithin bs as
  | a, b => a.sameKey b

/-- Whether two lists are equal, item by item. -/
def itemsEqual : List Value → List Value → Bool
  | [], [] => true
  | a :: as, b :: bs => equals a b && itemsEqual as bs
  | _, _ => false

/-- Whether all of some entries are among others. -/
def entriesWithin (others : List (Value × Value)) : List (Value × Value) → Bool
  | [] => true
  | (k, v) :: rest =>
    match underKey? k others with
    | some w => equals v w && entriesWithin others rest
    | none => false

end

/-- Whether a value is equal to itself: everything but what is no number. In a collection nothing is
compared with itself. -/
def equalsItself : Value → Bool
  | float x => x == x
  | _ => true

/-- Whether a value counts as true: zeros and what is empty do not. -/
def isTrue : Value → Bool
  | null => false
  | bool b => b
  | int n => n != 0
  | float x => x != 0
  | str s => s != ""
  | bytes bs => !bs.isEmpty
  | moment _ => true
  | list items => !items.isEmpty
  | set members => !members.isEmpty
  | mapping entries _ => !entries.isEmpty

end CommandCompiler.Value
