import FlashCartridge.Text.Hex
import FlashCartridge.Text.Printable

/-!
# Quoted text

Quoted text stands between double quotes. Double quotes, backslashes and control characters are
escaped, as is every character that would not show a mark of its own.
-/

namespace FlashCartridge
namespace Text

/-- A character by its code point. -/
def codePoint (character : Char) : String := "\\u\x7b" ++ hex 1 character.toNat ++ "\x7d"

/-- A character as it stands in quoted text. -/
def escaped (character : Char) : String :=
  if character = '\x00' then "\\0"
  else if character = '\t' then "\\t"
  else if character = '\r' then "\\r"
  else if character = '\n' then "\\n"
  else if character = '\x22' then "\\\x22"
  else if character = '\\' then "\\\\"
  else if isExtending character || !isPrintable character then codePoint character
  else character.toString

/-- Text between double quotes. -/
def quoted (text : String) : String :=
  "\x22" ++ String.join (text.toList.map escaped) ++ "\x22"

end Text
end FlashCartridge
