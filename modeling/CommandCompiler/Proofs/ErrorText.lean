import CommandCompiler.SchemaError
import Mathlib.Data.List.Infix
/-!
# CommandCompiler.Proofs.ErrorText

**What an error tells.** Besides its kind an error has a command, perhaps a field, and
a message. `SchemaError.PointsTo` says of an error that all of these lead to a field
of a command, and `SchemaError.pointsTo_iff` that the data of the error decide it: the
message has in quotes the name of the command that the error belongs to, and the name
of the field that it concerns. Only a short name that is used twice is quoted in place
of its field.
-/

namespace CommandCompiler

/-! ## Quotes -/

/-- Whether a text has a part between single quotes. -/
def Text.Quotes (text part : String) : Prop := '\'' :: (part.toList ++ ['\'']) <:+: text.toList

namespace Text.Quotes

variable {text part : String}

theorem append (h : Quotes text part) (more : String) : Quotes (text ++ more) part := by
  rw [Quotes, String.toList_append]
  exact h.trans (List.prefix_append ..).isInfix

/-- A part is quoted where a quote comes before it and another one after it. -/
theorem intro {front back : String} (before : front.toList.getLast? = some '\'') (part : String)
    (after : back.toList.head? = some '\'') : Quotes (front ++ part ++ back) part := by
  obtain ⟨fs, hf⟩ := List.getLast?_eq_some_iff.mp before
  obtain ⟨bs, hb⟩ := List.head?_eq_some_iff.mp after
  refine ⟨fs, bs, ?_⟩
  rw [String.toList_append, String.toList_append, hf, hb]
  simp

end Text.Quotes

theorem getLast?_append {a b : String} {c : Char} (h : b.toList.getLast? = some c) :
    (a ++ b).toList.getLast? = some c := by
  rw [String.toList_append, List.getLast?_append, h]
  rfl

/-! ## Messages -/

/-- The label of a command has its name in quotes. -/
theorem CommandLabel.quotes_text {c : CommandLabel} {name : String} (h : c.name? = some name) :
    Text.Quotes c.text name := by
  cases c with
  | named given =>
      obtain rfl : given = name := Option.some.inj h
      exact .intro (by rfl) given (by rfl)
  | unnamed position => cases h

namespace SchemaError

variable {e : SchemaError}

open Text

/-- A message has the name of the command that the error belongs to in quotes. -/
theorem quotes_command {name : String} (h : e.command? = some name) : Quotes e.message name := by
  cases e with
  | missingCommandName position => cases h
  | duplicateCommandName given =>
      obtain rfl : given = name := Option.some.inj h
      exact .intro (by rfl) given (by rfl)
  | unclassified command field cause =>
      obtain rfl : command = some name := h
      exact (Quotes.intro (getLast?_append (by rfl)) name (by rfl)).append _
  | malformedShort c field short =>
      exact (((((CommandLabel.quotes_text h).append _).append _).append _).append _).append _
  | _ c _ =>
      exact (((CommandLabel.quotes_text h).append _).append _).append _

/-- A message has the name of the field that the error concerns in quotes, unless it has its short
name. -/
theorem quotes_field {field : String} (h : e.field? = some field) :
    Quotes e.message field ∨ ∃ c short, e = .repeatedShort c field short ∧
      Quotes e.message short := by
  cases e with
  | missingCommandName _ | invalidClassName _ _ | duplicateCommandName _ => cases h
  | repeatedShort c given short =>
      obtain rfl : given = field := Option.some.inj h
      exact .inr ⟨c, short, rfl, .intro (getLast?_append (by rfl)) short (by rfl)⟩
  | unclassified command given cause =>
      obtain rfl : given = field := Option.some.inj h
      refine .inl ?_
      cases command with
      | none => exact (Quotes.intro (by rfl) given (by rfl)).append _
      | some name =>
          exact (((Quotes.intro (by rfl) given (by rfl)).append _).append _).append _
  | malformedShort c given short =>
      obtain rfl : given = field := Option.some.inj h
      exact .inl (.intro (getLast?_append (by rfl)) given (by rfl))
  | _ c given =>
      obtain rfl : given = field := Option.some.inj h
      exact .inl (.intro (getLast?_append (by rfl)) given (by rfl))

/-- Whether an error leads to a field of a command, by its data and by its message. -/
structure PointsTo (c : CommandLabel) (field : String) (e : SchemaError) : Prop where
  ofCommand : e.command? = c.name?
  ofField : e.field? = some field
  quotesCommand : ∀ name ∈ c.name?, Quotes e.message name
  quotesField : Quotes e.message field ∨ ∃ d short, e = .repeatedShort d field short ∧
    Quotes e.message short

/-- **An error leads to the field that it concerns.** -/
theorem pointsTo_iff {c : CommandLabel} {field : String} :
    e.PointsTo c field ↔ e.command? = c.name? ∧ e.field? = some field := by
  constructor
  · exact fun h => ⟨h.ofCommand, h.ofField⟩
  · rintro ⟨ofCommand, ofField⟩
    exact
      { ofCommand, ofField
        quotesCommand := fun name hname => quotes_command (ofCommand.trans hname)
        quotesField := quotes_field ofField }

end SchemaError

end CommandCompiler
