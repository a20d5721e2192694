import CommandCompiler.Value
/-!
# CommandCompiler.Json

JSON documents.

* `Json` : the content of a document, with the fields of an object in order;
* `Json.putField`, `Json.ofFields` : objects that hold each name once;
* `Json.field?` : the content of a field;
* `Json.toValue` : the content as data of unknown shape.
-/

namespace CommandCompiler

/-- The content of a JSON document. -/
inductive Json
  | null
  | bool (b : Bool)
  | int (n : Int)
  | float (x : Float)
  | str (s : String)
  | arr (items : List Json)
  | obj (fields : List (String × Json))
  deriving Inhabited, Repr

namespace Json

/-- Puts a field into an object. A name that is there already keeps its place and gets the new
content. -/
def putField (fields : List (String × Json)) (name : String) (v : Json) :
    List (String × Json) :=
  match fields with
  | [] => [(name, v)]
  | (name', v') :: rest =>
    if name' = name then (name', v) :: rest else (name', v') :: putField rest name v

/-- An object from its fields as written. Of several fields with one name the last counts. -/
def ofFields (fields : List (String × Json)) : Json :=
  .obj (fields.foldl (fun acc f => putField acc f.1 f.2) [])

/-- The content of a field of an object. -/
def field? : Json → String → Option Json
  | obj fields, name => fields.lookup name
  | _, _ => none

mutual

/-- The content as data of unknown shape. -/
def toValue : Json → Value
  | null => .null
  | bool b => .bool b
  | int n => .int n
  | float x => .float x
  | str s => .str s
  | arr items => .list (itemValues items)
  | obj fields => .mapping (fieldValues fields)

/-- The items of an array as data. -/
def itemValues : List Json → List Value
  | [] => []
  | v :: rest => v.toValue :: itemValues rest

/-- The fields of an object as data, with their names as text keys. -/
def fieldValues : List (String × Json) → List (Value × Value)
  | [] => []
  | (name, v) :: rest => (.str name, v.toValue) :: fieldValues rest

end

end Json

end CommandCompiler
