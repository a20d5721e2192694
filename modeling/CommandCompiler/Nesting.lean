import CommandCompiler.Issue
import CommandCompiler.TypeRef.Kind
/-!
# CommandCompiler.Nesting

Decoding what may be nested in itself.

* `Place` : where in a decoder a value is met;
* `Nesting` : how deep a decoder is, and in which values;
* `Nesting.enter`, `Nesting.leave` : one value further in and out;
* `Decoder` : decoders that keep count.

A value that is met again at the same place inside itself is a loop, and so is
everything that stands too deep. What has once stood too deep is taken for a
loop wherever it is met later at that place.
-/

namespace CommandCompiler

/-- A place where values are met: what decoder is at work, and which kind of type it expects.
There is a decoder for each kind of type that holds types, and one for the outside. -/
structure Place where
  decoder : Option TypeRef.Kind
  kind : TypeRef.Kind
  deriving Repr, DecidableEq

namespace Place

/-- Whether a decoder leaves types of a kind to the decoder for that kind. The decoders stand in
the order of their kinds, the outside last, and each does itself what is left to none before it. -/
def handsOver (p : Place) : Bool :=
  match p.kind.rank?, p.decoder with
  | none, _ => false
  | some _, none => true
  | some r, some d => d.rank?.any (r < ·)

/-- The decoder that decodes the parts of what is met at a place. -/
def next (p : Place) : Option TypeRef.Kind := if p.handsOver then some p.kind else p.decoder

end Place

/-- How deep a decoder is, and the numbers of the values it has entered and not left, each with the
place of that. -/
structure Nesting where
  depth : Nat := 0
  inside : List (Nat × Place) := []
  deriving Repr, DecidableEq

namespace Nesting

/-- The depth from which nothing leads further in. -/
def limit : Nat := 255

/-- Goes into a value at a place, unless that is a loop. Values without a number are all
different. -/
def enter (n : Nesting) (p : Place) (number : Option Nat) : Bool × Nesting :=
  let keys := number.toList.map (·, p)
  if keys.any n.inside.contains then (false, n)
  else if n.depth < limit then (true, ⟨n.depth + 1, keys ++ n.inside⟩)
  else (false, ⟨n.depth, keys ++ n.inside⟩)

/-- Goes out of a value. -/
def leave (n : Nesting) (p : Place) (number : Option Nat) : Nesting :=
  ⟨n.depth - 1, number.elim n.inside fun i => n.inside.erase (i, p)⟩

end Nesting

/-- A decoder of something that may be nested. -/
def Decoder (α : Type) : Type := Nesting → Checked α × Nesting

namespace Decoder

variable {α β : Type}

/-- What can be said without regard to nesting. -/
def of (c : Checked α) : Decoder α := fun n => (c, n)

/-- Changes what the first of two steps gives. -/
def map (f : α → β) (l : Decoder α) : Decoder β := fun n =>
  let a := l n
  (a.1.map f, a.2)

/-- Two steps, one after the other, whose issues are kept. -/
def seq (l : Decoder (α → β)) (r : Decoder α) : Decoder β := fun n =>
  let f := l n
  let a := r f.2
  (f.1.seq a.1, a.2)

instance : Functor Decoder where
  map := map

instance : Applicative Decoder where
  pure a := of (.pass a)
  seq l r := seq l (r ())

/-- The same at the end of one more step: every path gets it in front. -/
def within (step : PathStep) (l : Decoder α) : Decoder α := fun n =>
  let a := l n
  (a.1.within step, a.2)

/-- Decodes every item; the paths of the issues start with the item's index, from `i` on. -/
def all (decode : β → Decoder α) (i : Nat) : List β → Decoder (List α)
  | [] => of (.pass [])
  | b :: bs => List.cons <$> (decode b).within (.index i) <*> all decode (i + 1) bs

/-- Decodes inside a value that is met at a place, unless that is a loop. -/
def inside (p : Place) (number : Option Nat) (l : Decoder α) : Decoder α := fun n =>
  match n.enter p number with
  | (false, n) => (.issue .recursionLoop, n)
  | (true, n) =>
    let a := l n
    (a.1, a.2.leave p number)

/-- Decodes inside a value, and inside it again where its kind has a decoder of its own. -/
def entering (p : Place) (number : Option Nat) (l : Decoder α) : Decoder α :=
  if p.handsOver then inside p number (inside ⟨some p.kind, p.kind⟩ number l)
  else inside p number l

/-- Tells one issue in place of whatever is found. -/
def instead (kind : IssueKind) (l : Decoder α) : Decoder α := fun n => (.issue kind, (l n).2)

/-- Decodes from the outside. -/
def run (l : Decoder α) : Checked α := (l {}).1

end Decoder

end CommandCompiler
