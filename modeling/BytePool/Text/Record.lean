/-! Texts of values made of named parts. -/
namespace BytePool.Text

/-- The members between square brackets, each parted from the next by a comma and a space. -/
def listing (members : List String) : String :=
  "[" ++ ", ".intercalate members ++ "]"

/-- The name, then the fields between braces, each as its name, a colon and its value. -/
def record (name : String) (fields : List (String × String)) : String :=
  name ++ " \x7b " ++ ", ".intercalate (fields.map fun field => field.1 ++ ": " ++ field.2) ++
    " \x7d"

/-- A value that may be missing. -/
def optional (value : Option String) : String :=
  match value with
  | none => "None"
  | some text => "Some(" ++ text ++ ")"

end BytePool.Text
