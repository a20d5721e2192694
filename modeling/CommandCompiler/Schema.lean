import CommandCompiler.TypeRef
/-!
# CommandCompiler.Schema

What a plugin author declares: commands, their fields, and the role of each
field.

* `Role`, `Field`, `Variant`, `Schema` : the declarations;
* `Role.effective?` : the one role that counts among several.

Nothing here is checked: a `Schema` may repeat names, leave out roles or order
its fields in a way that does not compile.
-/

namespace CommandCompiler

/-- How a field is supplied in a call. -/
inductive Role
  | required
  | optional
  | flag
  deriving Repr, DecidableEq, Inhabited

/-- One argument of a command. -/
structure Field where
  name : String
  type : TypeRef
  roles : List Role := []
  usage : Option String := none
  short : Option String := none
  deriving Repr, DecidableEq

/-- One command: the name by which the host invokes it, its documentation, the class name of its
typed value if the author chose one, and its arguments in order. -/
structure Variant where
  name : Option String := none
  usage : Option String := none
  className : Option String := none
  fields : List Field := []
  deriving Repr, DecidableEq

/-- The commands that are compiled together. -/
structure Schema where
  commands : List Variant := []
  deriving Repr, DecidableEq

namespace Role

/-- The word for a role. -/
def tag : Role → String
  | required => "required"
  | optional => "optional"
  | flag => "flag"

/-- The roles, strongest first. -/
def precedence : List Role := [required, optional, flag]

/-- The role of a word. -/
def ofTag? (s : String) : Option Role := precedence.find? (·.tag == s)

/-- The strongest of the roles, whatever their order and however often each is given. -/
def effective? (roles : List Role) : Option Role := precedence.find? (· ∈ roles)

/-- No two roles share a word. -/
theorem ofTag?_tag (r : Role) : ofTag? r.tag = some r := by cases r <;> decide

theorem mem_precedence (r : Role) : r ∈ precedence := by cases r <;> decide

/-- Only a field without any role has no effective one. -/
theorem effective?_eq_none_iff {roles : List Role} : effective? roles = none ↔ roles = [] := by
  simp only [effective?, List.find?_eq_none, decide_eq_true_eq]
  constructor
  · intro h
    cases roles with
    | nil => rfl
    | cons r rest => exact absurd (List.mem_cons_self ..) (h r r.mem_precedence)
  · rintro rfl r _
    simp

/-- The effective role is one of the roles given. -/
theorem effective?_mem {roles : List Role} {r : Role} (h : effective? roles = some r) :
    r ∈ roles := by
  simpa using List.find?_some h

end Role

end CommandCompiler
