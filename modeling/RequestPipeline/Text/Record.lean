import RequestPipeline.Text.Quoted

/-!
# Reports of values

Values are reported to people in one notation: a record by its name and fields, an optional value by
whether it is there.
-/

namespace RequestPipeline.Text

/-- The braces around the fields of a record. -/
def braced (fields : List String) : String := "\x7b " ++ ", ".intercalate fields ++ " \x7d"

/-- A field of a record. -/
def field (f : String × String) : String := f.1 ++ ": " ++ f.2

/-- A record with all its fields. -/
def record (name : String) (fields : List (String × String)) : String :=
  name ++ " " ++ braced (fields.map field)

/-- A record of which some fields are not told. -/
def partialRecord (name : String) (fields : List (String × String)) : String :=
  name ++ " " ++ braced (fields.map field ++ [".."])

/-- A value inside a named wrapper. -/
def wrapped (name content : String) : String := name ++ "(" ++ content ++ ")"

/-- An optional value. -/
def optional : Option String → String
  | none => "None"
  | some content => wrapped "Some" content

/-- A truth value. -/
def truth (b : Bool) : String := if b then "true" else "false"

end RequestPipeline.Text
