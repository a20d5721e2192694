import CommandCompiler.TypeRef.Parser
/-!
# CommandCompiler.TypeRef.Descent

The parser of types step by step, with a counter for the parameter lists that it is
in. It goes through the tokens from the first to the last and may never be at an
end, as far as the way it is written tells.

* `Descent` : the tokens that are left, and the counter;
* `Descent.readType` : one type, where each parameter list adds one to the counter
  and takes it away again after the closing bracket;
* `Descent.outcome` : what comes of a step.

A clock says for how long to wait for an outcome, and means nothing otherwise. A
budget, if there is one, bounds how many calls of `readType` are inside one another. A
call for which there is none left fails in a way of its own.
-/

namespace CommandCompiler

/-- Where a parser is: the tokens that are left, and in how many parameter lists it is. -/
structure Descent where
  left : List TypeToken
  depth : Nat
  deriving Repr, DecidableEq

namespace Descent

open TypeRef

/-- Why a parser stops: the tokens are at fault, or too many calls are inside one another. -/
inductive Stop
  | fault (f : Fault)
  | budgetSpent
  deriving Repr, DecidableEq

/-- What a parser does from where it is: it gives a result and is somewhere else, or it stops. There
is no outcome as long as it does neither. -/
abbrev Run := StateT Descent (ExceptT Stop Option)

/-- The next token, if there is one. -/
def peek : Run (Option TypeToken) := return (← get).left.head?

/-- Reads a token. -/
def advance : Run TypeToken := do
  match (← get).left with
  | [] => throw (.fault .unexpectedEnd)
  | t :: rest =>
    modify ({ · with left := rest })
    return t

/-- Counts a parameter list, and only then looks whether there are too many. -/
def enter : Run Unit := do
  modify fun s => { s with depth := s.depth + 1 }
  if maxDepth < (← get).depth then throw (.fault .tooDeep)

/-- Takes a parameter list from the count. -/
def leave : Run Unit := modify fun s => { s with depth := s.depth - 1 }

/-- Reads a closing bracket. -/
def close : Run Unit := do
  let found ← advance
  if found ≠ .closeAngle then throw (.fault (.expectedClose found))

/-- A result that has been found without looking at the tokens. -/
def settle {α : Type} : Except Fault α → Run α
  | .ok a => return a
  | .error f => throw (.fault f)

/-- Takes one call from the budget, and gives back what is left of it. -/
def spend (budget : Option Nat) : Run (Option Nat) :=
  if budget = some 0 then throw .budgetSpent else return budget.map (· - 1)

/-- What has not come to an end when the clock runs out. -/
def unfinished {α : Type} : Run α := fun _ => ExceptT.mk none

mutual

/-- Reads one type. The budget, if there is one, is for this call and those inside it. -/
def readType : (clock : Nat) → (budget : Option Nat) → Run TypeRef
  | 0, _ => unfinished
  | clock + 1, budget => do
    let inside ← spend budget
    match ← advance with
    | .word w =>
      if (← peek) = some .openAngle then
        let _ ← advance
        enter
        let params ← readParams clock inside
        close
        leave
        settle (ofGeneric w params)
      else settle (ofWord w)
    | found => throw (.fault (.expectedName found))

/-- Reads types for as long as there are commas between them. The calls for them stand beside each
other, so that each has all of the budget. -/
def readParams : (clock : Nat) → (budget : Option Nat) → Run (List TypeRef)
  | 0, _ => unfinished
  | clock + 1, budget => do
    let t ← readType clock budget
    if (← peek) = some .comma then
      let _ ← advance
      return t :: (← readParams clock budget)
    else return [t]

end

/-- What comes of a step, if anything does before the clock runs out. -/
def outcome {α : Type} (act : Run α) (s : Descent) : Option (Except Stop (α × Descent)) :=
  (act.run s).run

end Descent

end CommandCompiler
