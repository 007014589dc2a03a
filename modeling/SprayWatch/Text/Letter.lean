import SprayWatch.Text.LetterTable
/-!
# Letters and numbers

A word of the monitored tool ends where a character is neither a letter nor a number, in any script.
-/

namespace SprayWatch.Text

def inRanges (ranges : List (Nat × Nat)) (n : Nat) : Bool :=
  ranges.any fun r => r.1 ≤ n && n ≤ r.2

/-- Is the character a letter, a mark that belongs to words, or a number? -/
def isAlphanumeric (c : Char) : Bool :=
  if c.val < 128 then c.isAlphanum else inRanges alphanumericRanges c.val.toNat

end SprayWatch.Text
