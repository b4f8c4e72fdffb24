import FlashCartridge.Log
import FlashCartridge.Text.Lines
import FlashCartridge.Text.Plain

/-!
# Log messages as lines

A message is printed as plain text on a line of its own. A line feed inside of the message goes on
with a further line, which is indented so that no message looks like two.
-/

namespace FlashCartridge
namespace Log

/-- Text in which every line but the first is indented. -/
def indented (text : List Char) : List Char :=
  text.flatMap fun character =>
    if character = '\n' then '\n' :: List.replicate 4 ' ' else [character]

/-- The lines that a message takes. -/
def Entry.lines (entry : Entry) : List String :=
  (Text.lines (Text.plain (indented entry.text.toList ++ ['\n']))).map String.ofList

/-- The first line of a message. -/
def Entry.firstLine (entry : Entry) : String := entry.lines.headD ""

end Log
end FlashCartridge
