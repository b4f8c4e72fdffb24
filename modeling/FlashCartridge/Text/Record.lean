/-!
# Records as text

A record is shown as its name and its fields in order, and a tuple as its name and its parts.
-/

namespace FlashCartridge
namespace Text

/-- A name with labelled fields in braces. -/
def record (name : String) (fields : List (String × String)) : String :=
  let shown := fields.map fun (label, value) => label ++ ": " ++ value
  name ++ " \x7b " ++ ", ".intercalate shown ++ " \x7d"

/-- A name with one part in parentheses. -/
def wrapped (name part : String) : String := name ++ "(" ++ part ++ ")"

end Text
end FlashCartridge
