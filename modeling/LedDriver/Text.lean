/-!
# Text forms

The shapes in which values are written for a reader: a record with named fields, a value wrapped
in the name of its kind, a sequence in brackets, a yes-or-no answer, and a number in base sixteen.
-/

namespace LedDriver.Text

/-- A yes-or-no answer is written as one lower-case word. -/
def truth (b : Bool) : String :=
  if b then "true" else "false"

/-- A sequence is written in square brackets, its items parted by a comma and a blank. -/
def sequence (items : List String) : String :=
  "[" ++ ", ".intercalate items ++ "]"

/-- A wrapped value is the name of its kind followed by the value in parentheses. -/
def wrapped (name value : String) : String :=
  name ++ "(" ++ value ++ ")"

/-- A field of a record is its name, a colon and its value. -/
def field (name value : String) : String :=
  name ++ ": " ++ value

/-- A record is its name and its fields in braces. -/
def record (name : String) (fields : List String) : String :=
  name ++ " \x7b " ++ ", ".intercalate fields ++ " \x7d"

/-- A number in base sixteen has the mark `0x` and lower-case digits. -/
def hex (n : Nat) : String :=
  "0x" ++ String.ofList (Nat.toDigits 16 n)

end LedDriver.Text
