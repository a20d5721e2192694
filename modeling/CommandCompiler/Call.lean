import CommandCompiler.Value
/-!
# CommandCompiler.Call

Calls as the host delivers them, and the shape of the errors that go back to it.

* `Span`, `Call` : a call with its arguments evaluated;
* `Call.argument?`, `Call.at?`, `Call.flag?` : the arguments of a call;
* `LabeledError` : an error with a short label, a message and a place.
-/

namespace CommandCompiler

/-- A region of the host's input. -/
structure Span where
  start : Int
  stop : Int
  deriving Repr, DecidableEq

/-- A call with its arguments evaluated. A flag that was given without a value has the null value;
no name occurs twice. -/
structure Call where
  positional : List Value := []
  named : List (String × Value) := []
  /-- Where the name of the command stands. -/
  head : Option Span := none
  deriving Repr

/-- The argument at a position, null or not. A negative position counts from the end. -/
def Call.argument? (c : Call) : (index : Int) → Option Value
  | .ofNat n => c.positional[n]?
  | .negSucc n => c.positional.reverse[n]?

/-- The argument at a position; a null argument counts as absent. -/
def Call.at? (c : Call) (index : Int) : Option Value :=
  match c.argument? index with
  | some .null => none
  | v => v

/-- The argument of a name. -/
def Call.flag? (c : Call) (name : String) : Option Value := c.named.lookup name

/-- An error that the host shows with a short label and a longer message. -/
structure LabeledError where
  label : String
  msg : String
  span : Option Span := none
  deriving Repr, DecidableEq

/-- Label and message in one line. -/
def LabeledError.message (e : LabeledError) : String := s!"{e.label}: {e.msg}"

end CommandCompiler
