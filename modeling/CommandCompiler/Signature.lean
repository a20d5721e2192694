/-!
# CommandCompiler.Signature

What the host is told about a command: its name, its documentation and its
parameters in order.

* `Shape`, `ParamRole`, `Parameter`, `Signature` : the description;
* `Signature.requiredPositional`, `optionalPositional`, `flags` : the
  parameters by the way in which they are supplied.
-/

namespace CommandCompiler

/-- What the value of a parameter looks like to the host. -/
inductive Shape
  | string
  | boolean
  deriving Repr, DecidableEq, Inhabited

/-- How a parameter is supplied in a call. -/
inductive ParamRole
  | required
  | optional
  /-- A flag that carries no value. -/
  | switch
  /-- A flag with a value. -/
  | named
  deriving Repr, DecidableEq, Inhabited

/-- One parameter of a command. -/
structure Parameter where
  name : String
  shape : Shape
  role : ParamRole
  usage : String := ""
  short : Option String := none
  deriving Repr, DecidableEq

/-- The description of one command. -/
structure Signature where
  name : String
  usage : String := ""
  params : List Parameter := []
  deriving Repr, DecidableEq

namespace Shape

/-- The word for a shape. -/
def tag : Shape → String
  | string => "String"
  | boolean => "Boolean"

/-- The shape of a word. -/
def ofTag? (s : String) : Option Shape := [string, boolean].find? (·.tag == s)

theorem ofTag?_tag (s : Shape) : ofTag? s.tag = some s := by cases s <;> decide

end Shape

namespace ParamRole

/-- The word for the role of a parameter. -/
def tag : ParamRole → String
  | required => "required"
  | optional => "optional"
  | switch => "switch"
  | named => "named"

/-- The role of a word. -/
def ofTag? (s : String) : Option ParamRole :=
  [required, optional, switch, named].find? (·.tag == s)

theorem ofTag?_tag (r : ParamRole) : ofTag? r.tag = some r := by cases r <;> decide

/-- Positional parameters are matched by their place in the call, the others by their name. -/
def isPositional : ParamRole → Bool
  | required | optional => true
  | switch | named => false

end ParamRole

namespace Signature

/-- The parameters that every call must supply. -/
def requiredPositional (s : Signature) : List Parameter :=
  s.params.filter (·.role == .required)

/-- The parameters that a call may supply by place. -/
def optionalPositional (s : Signature) : List Parameter :=
  s.params.filter (·.role == .optional)

/-- The parameters that a call may supply by name. -/
def flags (s : Signature) : List Parameter :=
  s.params.filter fun p => !p.role.isPositional

end Signature

end CommandCompiler
