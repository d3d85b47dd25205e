/-
Outlines: descriptions of values for programmers, with the names of their parts, on one line or
indented over several.
-/

namespace CircuitBreaker

/-- A description of a value. -/
inductive Outline
  /-- A value without parts. -/
  | atom (text : String)
  /-- A name and what it holds. -/
  | tuple (name : String) (parts : List Outline)
  /-- A name and what it holds, part by part with their names. -/
  | record (name : String) (fields : List (String × Outline))
  | list (items : List Outline)

namespace Outline

/-- A value that may be absent. -/
def optional {α : Type} (outline : α → Outline) : Option α → Outline
  | none => atom "None"
  | some a => tuple "Some" [outline a]

/-- A truth value. -/
def bool (b : Bool) : Outline := atom (if b then "true" else "false")

mutual

/-- The description on one line. -/
def inline : Outline → String
  | atom text => text
  | tuple name parts => name ++ "(" ++ inlineParts parts ++ ")"
  | record name fields => name ++ " \x7b " ++ inlineFields fields ++ " \x7d"
  | list items => "[" ++ inlineParts items ++ "]"

/-- Parts with commas between them. -/
def inlineParts : List Outline → String
  | [] => ""
  | [part] => part.inline
  | part :: parts => part.inline ++ ", " ++ inlineParts parts

/-- Named parts with commas between them. -/
def inlineFields : List (String × Outline) → String
  | [] => ""
  | [(name, part)] => name ++ ": " ++ part.inline
  | (name, part) :: fields => name ++ ": " ++ part.inline ++ ", " ++ inlineFields fields

end

mutual

/-- The description over several lines, with `margin` before each line but the first: every part
has lines of its own, four columns further in, and ends with a comma. -/
def indented (margin : String) : Outline → String
  | atom text => text
  | tuple name parts => name ++ "(\n" ++ indentedParts (margin ++ "    ") parts ++ margin ++ ")"
  | record name fields =>
    name ++ " \x7b\n" ++ indentedFields (margin ++ "    ") fields ++ margin ++ "\x7d"
  | list [] => "[]"
  | list items => "[\n" ++ indentedParts (margin ++ "    ") items ++ margin ++ "]"

/-- Parts, each with the lines of its own. -/
def indentedParts (margin : String) : List Outline → String
  | [] => ""
  | part :: parts => margin ++ part.indented margin ++ ",\n" ++ indentedParts margin parts

/-- Named parts, each with the lines of its own. -/
def indentedFields (margin : String) : List (String × Outline) → String
  | [] => ""
  | (name, part) :: fields =>
    margin ++ name ++ ": " ++ part.indented margin ++ ",\n" ++ indentedFields margin fields

end

end Outline

end CircuitBreaker
