import TabNavigator.Text.Quoted

/-!
# Descriptions of values

A description names the kind of a value and its parts: a record with its fields
between braces, a value with its content in parentheses, a list in brackets. A
record may say that it leaves fields out.
-/

namespace TabNavigator.Text

/-- Texts with a comma between them. -/
def commaSeparated (parts : List String) : String :=
  String.intercalate ", " parts

/-- The named fields of a record. -/
def describeFields (fields : List (String × String)) : String :=
  commaSeparated (fields.map fun field => field.1 ++ ": " ++ field.2)

def describeRecord (name : String) (fields : List (String × String)) : String :=
  name ++ " \x7b " ++ describeFields fields ++ " \x7d"

/-- A record of which more is known than is told. -/
def describePartOf (name : String) (fields : List (String × String)) : String :=
  name ++ " \x7b " ++ describeFields fields ++ ", .. \x7d"

def describeTagged (name content : String) : String :=
  name ++ "(" ++ content ++ ")"

def describeList (parts : List String) : String :=
  "[" ++ commaSeparated parts ++ "]"

def describeOption : Option String → String
  | none => "None"
  | some content => describeTagged "Some" content

def describeBool (b : Bool) : String :=
  if b then "true" else "false"

end TabNavigator.Text
