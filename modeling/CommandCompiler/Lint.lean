import CommandCompiler.Schema
/-!
# CommandCompiler.Lint

Advice on schemas that compile but read poorly: commands and parameters without
documentation, and fields with several roles.

* `Schema.warnings` : the advice, in the order of the document.
-/

namespace CommandCompiler

/-- A piece of advice. -/
inductive Warning
  | undocumentedCommand (context : String)
  | undocumentedParameter (context field : String)
  /-- The field has several roles, of which one counts. -/
  | severalRoles (context field : String) (roles : List Role) (winner : Role)
  deriving Repr, DecidableEq

/-- The words for several roles, joined by commas. -/
def roleList (roles : List Role) : String := ", ".intercalate (roles.map Role.tag)

/-- The wording of a piece of advice. -/
def Warning.message : Warning → String
  | undocumentedCommand context => s!"{context} has no usage text"
  | undocumentedParameter context field => s!"{context}: parameter '{field}' has no usage text"
  | severalRoles context field roles winner =>
    s!"{context}: field '{field}' has several role tags ({roleList roles}); " ++
    s!"treated as {winner.tag}"

/-- Whether a text is absent or empty. -/
def isMissing (usage : Option String) : Bool := usage.getD "" == ""

/-- The items without those that have come before, each where it first occurs. -/
def distinctRoles (seen : List Role) : List Role → List Role
  | [] => []
  | r :: rs => if r ∈ seen then distinctRoles seen rs else r :: distinctRoles (r :: seen) rs

/-- The advice on a field. -/
def Field.warnings (f : Field) (context : String) : List Warning :=
  let roles := distinctRoles [] f.roles
  (if isMissing f.usage then [.undocumentedParameter context f.name] else []) ++
  match roles, Role.effective? roles with
  | _ :: _ :: _, some winner => [.severalRoles context f.name roles winner]
  | _, _ => []

/-- How advice refers to the command at a position: by its name as written. -/
def Variant.lintContext (v : Variant) (position : Nat) : String :=
  match v.name with
  | none | some "" => s!"command #{position}"
  | some name => s!"command '{name}'"

/-- The advice on the command at a position. -/
def Variant.warnings (v : Variant) (position : Nat) : List Warning :=
  let context := v.lintContext position
  (if isMissing v.usage then [.undocumentedCommand context] else []) ++
    v.fields.flatMap (·.warnings context)

/-- The advice on a schema, which need not compile. -/
def Schema.warnings (s : Schema) : List Warning :=
  (s.commands.mapIdx fun i v => v.warnings i).flatten

end CommandCompiler
