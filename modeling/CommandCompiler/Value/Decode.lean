import CommandCompiler.Issue
import CommandCompiler.Text.Utf8
import CommandCompiler.Value.Display
/-!
# CommandCompiler.Value.Decode

Decoders for the parts that documents are made of. Each turns a value into
something of a known shape, or says what is wrong with it.

* `text`, `textOrNull`, `wordOf`, `items` : leaves and lists;
* `member`, `memberOr` : the value under a key of a mapping;
* `onlyKeys`, `hasHalfKey` : a mapping has no further keys, and all can be looked at.
-/

namespace CommandCompiler.Value

variable {α : Type}

/-- Text, or bytes that spell text. -/
def text : Value → Checked String
  | str s => .pass s
  | bytes bs =>
    match Text.Utf8.decode bs with
    | .ok s => .pass (Text.holdText s)
    | .error _ => .issue .stringUnicode
  | _ => .issue .stringType

/-- Text, or nothing. -/
def textOrNull : Value → Checked (Option String)
  | null => .pass none
  | v => some <$> v.text

/-- A word of a fixed vocabulary. -/
def wordOf (ofWord? : String → Option α) : Value → Checked α
  | str s =>
    match ofWord? s with
    | some a => .pass a
    | none => .issue (if Text.hasHalf s then .stringUnicode else .enum)
  | _ => .issue .enum

/-- The items of a list. The members of a set pass for a list. -/
def items (decode : Value → Checked α) : Value → Checked (List α)
  | list vs | set vs => .all decode 0 vs
  | _ => .issue .listType

/-- A member that must be there. -/
def member (key : String) (decode : Value → Checked α) (entries : List (Value × Value)) :
    Checked α :=
  match valueAt? key entries with
  | some v => (decode v).within (.key key)
  | none => (Checked.issue .missing).within (.key key)

/-- A member that has a value of its own when it is not there. -/
def memberOr (key : String) (absent : α) (decode : Value → Checked α)
    (entries : List (Value × Value)) : Checked α :=
  match valueAt? key entries with
  | some v => (decode v).within (.key key)
  | none => .pass absent

/-- The least integer of 64 bits. -/
def leastIndex : Int := -0x8000000000000000

/-- The greatest integer of 64 bits. -/
def greatestIndex : Int := 0x7FFFFFFFFFFFFFFF

/-- Whether a path shows an integer as an index. -/
def isIndex (n : Int) : Bool := leastIndex ≤ n && n ≤ greatestIndex

/-- A mapping key as a step of a path. -/
def pathStep : Value → PathStep
  | bool b => .index (if b then 1 else 0)
  | int n => if isIndex n then .index n else .key (int n).keyText
  | v => .key v.keyText

/-- The issue with one key of a mapping that may have `known` keys only. -/
def keyIssue? (known : List String) : Value → Option Issue
  | str s => if s ∈ known then none else some ⟨.extraForbidden, [.key s]⟩
  | k => some ⟨.invalidKey, [k.pathStep]⟩

/-- Whether some key holds half a surrogate pair. -/
def hasHalfKey (entries : List (Value × Value)) : Bool :=
  entries.any fun e =>
    match e.1 with
    | str s => Text.hasHalf s
    | _ => false

/-- The mapping has `known` keys only. -/
def onlyKeys (known : List String) (entries : List (Value × Value)) : Checked Unit :=
  match entries.filterMap fun e => keyIssue? known e.1 with
  | [] => .pass ()
  | is => .fail is

end CommandCompiler.Value
