import LivePreview.Json.Print
/-!
# What is written to the console

A running module may write any value. It crosses the border of the realm as text: a string as it is,
a value with a JSON form in that form, and anything else as it shows itself.
-/

namespace LivePreview

/-- A value that is written to the console. -/
inductive ConsoleArgument where
  | text (s : String)
  | json (value : Json)
  /-- A value without a JSON form, as it shows itself. -/
  | shown (s : String)

namespace ConsoleArgument

/-- The text of an argument. -/
def stringify : ConsoleArgument → String
  | text s => s
  | json (.str s) => s
  | json value => value.compact
  | shown s => s

/-- The argument for a value with its JSON form, if it has one, and its own text. -/
def ofValue (form : Option Json) (text : String) : ConsoleArgument :=
  match form with
  | some value => json value
  | none => shown text

/-- The message of a reason for which a promise was rejected: the one that it carries if it is an
object, or else its text. -/
def reasonMessage (reason : ConsoleArgument) : String :=
  match reason with
  | json value => ((value.get? "message").bind Json.str?).getD reason.stringify
  | _ => reason.stringify

end ConsoleArgument

end LivePreview
