/-!
# CommandCompiler.Issue

What a document that does not have the expected layout is told: every issue in
it, each with the path to the place.

* `IssueKind`, `PathStep`, `Issue` : one issue;
* `Checked` : a decoded value, or the issues that prevent it;
* `Checked.within` : the same, one step further out;
* `Checked.all` : decoding every item of a list.

Decoders combine by `<*>`, which keeps the issues of both sides: a document is
told everything at once, in the order in which its parts were asked for.
-/

namespace CommandCompiler

/-- What is wrong at a place. -/
inductive IssueKind
  /-- A mandatory key is absent. -/
  | missing
  /-- A key that the layout does not know. -/
  | extraForbidden
  /-- A key that is not text. -/
  | invalidKey
  | stringType
  /-- Bytes in place of text that are not UTF-8. -/
  | stringUnicode
  | listType
  /-- Something other than a mapping where a part of the schema is due. -/
  | modelType
  /-- Not one of the words that may stand here. -/
  | enum
  /-- A type object without its kind. -/
  | unionTagNotFound
  /-- A type object of an unknown kind. -/
  | unionTagInvalid
  /-- Something other than a mapping where a type object is due. -/
  | modelAttributesType
  /-- A type object inside itself, or too deep in others. -/
  | recursionLoop
  /-- Text that does not satisfy the rule for this place; the message says why. -/
  | valueError (message : String)
  | boolType
  /-- A number or text that stands for neither truth value. -/
  | boolParsing
  /-- An assignment to a value that never changes. -/
  | frozenInstance
  deriving Repr, DecidableEq

/-- The code of a kind of issue. -/
def IssueKind.code : IssueKind → String
  | missing => "missing"
  | extraForbidden => "extra_forbidden"
  | invalidKey => "invalid_key"
  | stringType => "string_type"
  | stringUnicode => "string_unicode"
  | listType => "list_type"
  | modelType => "model_type"
  | enum => "enum"
  | unionTagNotFound => "union_tag_not_found"
  | unionTagInvalid => "union_tag_invalid"
  | modelAttributesType => "model_attributes_type"
  | recursionLoop => "recursion_loop"
  | valueError _ => "value_error"
  | boolType => "bool_type"
  | boolParsing => "bool_parsing"
  | frozenInstance => "frozen_instance"

/-- One step of a path into a document. -/
inductive PathStep
  | key (name : String)
  | index (i : Int)
  deriving Repr, DecidableEq

/-- Something wrong at the end of a path. -/
structure Issue where
  kind : IssueKind
  path : List PathStep := []
  deriving Repr, DecidableEq

/-- A decoded value, or every issue that prevents it. -/
inductive Checked (α : Type)
  | pass (a : α)
  | fail (issues : List Issue)
  deriving Repr

namespace Checked

variable {α β : Type}

/-- The decoded value, if there is one. -/
def toOption : Checked α → Option α
  | pass a => some a
  | fail _ => none

/-- The issues; a value has none. -/
def issues : Checked α → List Issue
  | pass _ => []
  | fail is => is

/-- One issue at this very place. -/
def issue (kind : IssueKind) : Checked α := fail [⟨kind, []⟩]

/-- Changes a decoded value. -/
def map (f : α → β) : Checked α → Checked β
  | pass a => pass (f a)
  | fail is => fail is

/-- Applies a decoded function to a decoded value and keeps the issues of both. -/
def seq : Checked (α → β) → Checked α → Checked β
  | pass f, pass a => pass (f a)
  | pass _, fail js => fail js
  | fail is, pass _ => fail is
  | fail is, fail js => fail (is ++ js)

instance : Functor Checked where
  map := map

instance : Applicative Checked where
  pure := pass
  seq f a := seq f (a ())

/-- The same at the end of one more step: every path gets it in front. -/
def within (step : PathStep) : Checked α → Checked α
  | pass a => pass a
  | fail is => fail (is.map fun i => { i with path := step :: i.path })

/-- Decodes every item; the paths of the issues start with the item's index, from `i` on. -/
def all (decode : β → Checked α) (i : Nat) : List β → Checked (List α)
  | [] => pass []
  | b :: bs => List.cons <$> (decode b).within (.index i) <*> all decode (i + 1) bs

@[simp] theorem map_eq (f : α → β) (c : Checked α) : f <$> c = c.map f := rfl

@[simp] theorem seq_eq (f : Checked (α → β)) (c : Checked α) : f <*> c = f.seq c := rfl

/-- A combination passes only if both sides do. -/
theorem seq_eq_pass {f : Checked (α → β)} {c : Checked α} {b : β} :
    f.seq c = pass b ↔ ∃ g a, f = pass g ∧ c = pass a ∧ g a = b := by
  cases f <;> cases c <;> simp [seq]

theorem map_eq_pass {f : α → β} {c : Checked α} {b : β} :
    c.map f = pass b ↔ ∃ a, c = pass a ∧ f a = b := by
  cases c <;> simp [map]

@[simp] theorem within_eq_pass {step : PathStep} {c : Checked α} {a : α} :
    c.within step = pass a ↔ c = pass a := by
  cases c <;> simp [within]

end Checked

end CommandCompiler
