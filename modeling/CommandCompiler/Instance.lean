import CommandCompiler.Binding
import CommandCompiler.Value.Display
import CommandCompiler.Value.Equality
/-!
# CommandCompiler.Instance

Command values in the hands of a handler.

* `Instance` : a command value and the attributes that it has now;
* `Instance.assign`, `AssignError` : assigning an attribute, and why it fails;
* `Instance.equals`, `CompareError` : when two of them are equal, and why that
  cannot be told.

The fields of a command value are frozen, and so is every name that could be a
field. A name that starts with an underscore is none: it is attached to the
value and does not count when values are compared, with a few exceptions.

* One name stands for all attributes together, and a value whose attributes are
  replaced under this name is compared by what it then has.
* The keeper of the values, a system outside, has names of its own. Two of them
  stand for what a value has beside its attributes, and that counts.
* The keeper looks for what it needs among the attributes first. An attribute
  with the name of a tool takes the place of the tool, and being a piece of data
  it fails to do the work.
-/

namespace CommandCompiler

/-- A command value and the attributes that it has now, by their names. -/
structure Instance where
  /-- The name of the system that keeps the value. -/
  keeper : String
  command : Command
  attributes : List (Value × Value)
  /-- What is kept beyond the fields. -/
  extra : Value := .null
  /-- What is kept out of sight. -/
  hidden : Value := .null
  deriving Repr

/-- Why an attribute cannot be assigned. -/
inductive AssignError
  /-- The name of the command belongs to the kind of value, not to the value. -/
  | sharedName (className : String)
  | frozen (issue : Issue)
  /-- All attributes together are a mapping. -/
  | notAMapping (found : Value)
  /-- The kind of a value is no piece of data. -/
  | notAKind (found : Value)
  /-- The attribute is computed. -/
  | computed (className name : String)
  /-- The attribute is the system's own. -/
  | unwritable (name : String)
  /-- What stands for the table of assigners is no table. -/
  | notATable (found : Value)
  /-- What stands for an assigner does not assign. -/
  | notAnAssigner (found : Value)
  /-- There is no instance, and so no attribute. -/
  | noAttribute (name : String)
  /-- There is no instance, but an attribute of this name all the same. -/
  | readOnly (name : String)
  deriving Repr

namespace AssignError

/-- Whether the assignment fails because a piece of data stands where none can. -/
def isAboutValue : AssignError → Bool
  | notAMapping _ | notAKind _ | notAnAssigner _ => true
  | _ => false

/-- The wording. -/
def message : AssignError → String
  | sharedName className =>
    s!"'command_name' is a ClassVar of `{className}` and cannot be set on an instance. " ++
    s!"If you want to set a value on the class, use `{className}.command_name = value`."
  | frozen _ => "Instance is frozen"
  | notAMapping found =>
    let kind := found.typeName
    s!"__dict__ must be set to a dictionary, not a '{kind}'"
  | notAKind found =>
    let kind := found.typeName
    s!"__class__ must be set to a class, not '{kind}' object"
  | computed className name => s!"property '{name}' of '{className}' object has no setter"
  | unwritable name => s!"attribute '{name}' of 'Command' objects is not writable"
  | notATable found =>
    let kind := found.typeName
    s!"'{kind}' object has no attribute 'get'"
  | notAnAssigner found =>
    let kind := found.typeName
    s!"'{kind}' object is not callable"
  | noAttribute name => s!"'NoneType' object has no attribute '{name}'"
  | readOnly name => s!"'NoneType' object attribute '{name}' is read-only"

/-- The names of the attributes that even nothing has. -/
def namesOfAbsent : List String :=
  ["__bool__", "__delattr__", "__dir__", "__doc__", "__eq__", "__format__", "__ge__",
   "__getattribute__", "__getstate__", "__gt__", "__hash__", "__init__", "__init_subclass__",
   "__le__", "__lt__", "__ne__", "__new__", "__reduce__", "__reduce_ex__", "__repr__",
   "__setattr__", "__sizeof__", "__str__", "__subclasshook__"]

/-- Why an attribute cannot be assigned where there is no instance. -/
def ofAbsent (name : String) (v : Value) : AssignError :=
  if name = "__class__" then notAKind v
  else if namesOfAbsent.contains name then readOnly name
  else noAttribute name

end AssignError

/-- Why it cannot be told whether instances are equal. -/
inductive CompareError
  /-- What stands for the record of origins is no mapping. -/
  | notARecord (found : Value)
  /-- The record of origins says nothing of the origin. -/
  | missingOrigin
  deriving Repr

/-- The key of the origin in the record of origins. -/
def CompareError.originKey : String := "origin"

/-- The wording. -/
def CompareError.message : CompareError → String
  | notARecord found => found.subscriptFault
  | missingOrigin => Text.quote originKey

namespace Instance

/-- A command value to which nothing has been attached. -/
def ofCommand (keeper : String) (c : Command) : Instance :=
  { keeper, command := c, attributes := c.fields.map fun f => (.str f.1, f.2.toValue) }

/-- The names of the fields. -/
def fieldNames (i : Instance) : List String := i.command.fields.map (·.1)

/-- The name that the keeper has for something. -/
def keepersName (i : Instance) (word : String) : String := "__" ++ i.keeper ++ "_" ++ word ++ "__"

/-! ## Assigning -/

/-- Assigns a name that has no rule of its own. -/
def attachPlain (i : Instance) (name : String) (v : Value) : Instance :=
  if name = i.keepersName "extra" then { i with extra := v }
  else if name = i.keepersName "private" then { i with hidden := v }
  else { i with attributes := putKey (.str name) v i.attributes }

/-- Assigns an attribute that is no field. -/
def attach (i : Instance) (name : String) (v : Value) : Except AssignError Instance :=
  match name with
  | "__dict__" =>
    match v with
    | .mapping entries _ => .ok { i with attributes := entries }
    | v => .error (.notAMapping v)
  | "__class__" => .error (.notAKind v)
  | "__fields__" | "__fields_set__" => .error (.computed i.command.className name)
  | "__weakref__" => .error (.unwritable name)
  | _ => .ok (i.attachPlain name v)

/-- What the attributes have in place of the assigner for a name: an entry in the table of
assigners, or else the one that finds an assigner for every name. -/
def assignerInPlace? (i : Instance) (name : String) : Except AssignError (Option Value) :=
  let finder? := valueAt? "_setattr_handler" i.attributes
  match valueAt? (i.keepersName "setattr_handlers") i.attributes with
  | none => .ok finder?
  | some (.mapping entries _) =>
    match valueAt? name entries with
    | none | some .null => .ok finder?
    | some v => .ok (some v)
  | some v => .error (.notATable v)

/-- Assigns an attribute. -/
def assign (i : Instance) (name : String) (v : Value) : Except AssignError Instance :=
  match i.assignerInPlace? name with
  | .error e => .error e
  | .ok (some found) => .error (.notAnAssigner found)
  | .ok none =>
    if name = "command_name" then .error (.sharedName i.command.className)
    else if name.toList.head? = some '_' then i.attach name v
    else .error (.frozen ⟨.frozenInstance, [.key name]⟩)

/-! ## Comparing -/

/-- The origin of an instance, if its attributes hold a record of origins that names one. -/
def origin? (i : Instance) : Except CompareError (Option Value) :=
  match valueAt? (i.keepersName "generic_metadata") i.attributes with
  | none => .ok none
  | some (.mapping entries _) =>
    match valueAt? CompareError.originKey entries with
    | none => .error .missingOrigin
    | some v => .ok (if v.isTrue then some v else none)
  | some v => .error (.notARecord v)

/-- Whether two instances are of the same kind, given their origins. Without an origin, an instance
is of the kind of its command. -/
def sameKind (i j : Instance) : Option Value → Option Value → Bool
  | none, none =>
    i.command.className == j.command.className && i.command.command == j.command.command
  | some v, some w => v.equals w
  | _, _ => false

/-- Whether two instances agree on a field, which either may lack. -/
def agreeOn (i j : Instance) (field : String) : Bool :=
  match valueAt? field i.attributes, valueAt? field j.attributes with
  | some v, some w => v.equals w
  | none, none => true
  | _, _ => false

/-- Whether two instances are equal: of the same kind, and with equal fields and parts. -/
def equals (i j : Instance) : Except CompareError Bool := do
  let origin ← i.origin?
  let origin' ← j.origin?
  return i.sameKind j origin origin' && i.hidden.equals j.hidden && i.extra.equals j.extra &&
    i.fieldNames.all (agreeOn i j)

/-- Whether an instance is equal to itself. Its attributes are, as they are the same ones; its
origin and its parts are compared. -/
def equalsItself (i : Instance) : Except CompareError Bool := do
  let origin ← i.origin?
  return origin.all Value.equalsItself && i.hidden.equalsItself && i.extra.equalsItself

end Instance

end CommandCompiler
