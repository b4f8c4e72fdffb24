/-!
# Sets of characters

A set of characters is given by ranges of code points.
-/

namespace FlashCartridge
namespace Text

/-- Whether a character lies in one of the ranges. The first and the last code point of a range
belong to it. -/
def inRanges (ranges : List (Nat × Nat)) (character : Char) : Bool :=
  ranges.any fun range => range.1 ≤ character.toNat && character.toNat ≤ range.2

end Text
end FlashCartridge
