/-!
# Reading bytes as text

Bytes are read as UTF-8.  Where they are not UTF-8, the longest beginning of a character that is
there, or else a single byte, is replaced by the replacement character, and reading goes on after it.
-/

namespace SprayWatch.Text

def replacement : Char := Char.ofNat 0xFFFD

def isContinuation (b : UInt8) : Bool := 0x80 ≤ b && b ≤ 0xBF

/-- Which second bytes may follow a first byte, and how many bytes the character has in all. -/
def leadByte? (b : UInt8) : Option (Nat × UInt8 × UInt8) :=
  if 0xC2 ≤ b && b ≤ 0xDF then some (2, 0x80, 0xBF)
  else if b == 0xE0 then some (3, 0xA0, 0xBF)
  else if b == 0xED then some (3, 0x80, 0x9F)
  else if 0xE1 ≤ b && b ≤ 0xEF then some (3, 0x80, 0xBF)
  else if b == 0xF0 then some (4, 0x90, 0xBF)
  else if 0xF1 ≤ b && b ≤ 0xF3 then some (4, 0x80, 0xBF)
  else if b == 0xF4 then some (4, 0x80, 0x8F)
  else none

def codePoint (lead : UInt8) (size : Nat) (rest : List UInt8) : Nat :=
  let first := lead.toNat % (if size = 2 then 32 else if size = 3 then 16 else 8)
  rest.foldl (fun n b => n * 64 + b.toNat % 64) first

/-- One step of reading: what the front of the bytes says, `none` for bytes that are no character,
and how many more bytes than the first it takes. -/
def readChar (b : UInt8) (rest : List UInt8) : Option Char × Nat :=
  if b < 0x80 then (some (Char.ofNat b.toNat), 0)
  else
    match leadByte? b with
    | none => (none, 0)
    | some (size, low, high) =>
      match rest with
      | c :: more =>
        if low ≤ c && c ≤ high then
          let follow := c :: (more.take (size - 2)).takeWhile isContinuation
          if follow.length = size - 1 then (some (Char.ofNat (codePoint b size follow)), size - 1)
          else (none, follow.length)
        else (none, 0)
      | [] => (none, 0)

/-- Every character of the bytes, `none` where they are no text. -/
def readChars : List UInt8 → List (Option Char)
  | [] => []
  | b :: rest =>
    let (c, more) := readChar b rest
    c :: readChars (rest.drop more)
termination_by bytes => bytes.length
decreasing_by
  simp only [List.length_drop, List.length_cons]
  omega

/-- The text of the bytes, with a replacement character wherever they are no text. -/
def ofBytesLossy (bytes : List UInt8) : String :=
  String.ofList ((readChars bytes).map (·.getD replacement))

def ofBytes? (bytes : List UInt8) : Option String :=
  ((readChars bytes).mapM id).map String.ofList

def toBytes (s : String) : List UInt8 := s.toUTF8.toList

end SprayWatch.Text
