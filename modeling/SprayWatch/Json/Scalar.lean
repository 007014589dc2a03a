import SprayWatch.Decimal.Shortest
import SprayWatch.Json.Cursor
/-!
# Words, strings and numbers

Numbers without a fraction or an exponent are whole as long as they fit into 64 bits.  All others
are fractions, put together from the digits and a power of ten by one multiplication or division.
-/

namespace SprayWatch.Json

def word : List UInt8 → Reader Unit
  | [] => pure ()
  | b :: bs => do
    match ← next? with
    | none => failHere .endInValue
    | some c => if c = b then word bs else failHere .expectedIdent

def wordRest (s : String) : Reader Unit := word (Text.toBytes s)

def hexDigit? (b : UInt8) : Option Nat :=
  if 48 ≤ b && b ≤ 57 then some (b.toNat - 48)
  else if 97 ≤ b && b ≤ 102 then some (b.toNat - 87)
  else if 65 ≤ b && b ≤ 70 then some (b.toNat - 55)
  else none

def hexFour : Reader Nat := do
  let bs := (← get).rest.take 4
  bs.forM fun _ => skip
  if bs.length < 4 then failHere .endInString
  else
    match bs.mapM hexDigit? with
    | some ds => return ds.foldl (fun n d => n * 16 + d) 0
    | none => failHere .invalidEscape

def stringByte : Reader UInt8 := do
  match ← next? with
  | some b => return b
  | none => failHere .endInString

/-- A character spelled by its number, or by two numbers when one does not hold it. -/
def unicodeEscape : Reader (List UInt8) := do
  let n ← hexFour
  if 0xDC00 ≤ n ∧ n ≤ 0xDFFF then failHere .loneSurrogate
  else if n < 0xD800 ∨ 0xDBFF < n then return Text.toBytes (String.singleton (Char.ofNat n))
  else
    if (← stringByte) ≠ 92 then failHere .unpairedSurrogate
    else if (← stringByte) ≠ 117 then failHere .unpairedSurrogate
    else
      let n' ← hexFour
      if n' < 0xDC00 ∨ 0xDFFF < n' then failHere .loneSurrogate
      else
        let code := (n - 0xD800) * 1024 + (n' - 0xDC00) + 0x10000
        return Text.toBytes (String.singleton (Char.ofNat code))

/-- The character that a backslash and what follows it stand for. -/
def escape : Reader (List UInt8) := do
  let b ← stringByte
  if b = 34 ∨ b = 92 ∨ b = 47 then return [b]
  else if b = 98 then return [8]
  else if b = 102 then return [12]
  else if b = 110 then return [10]
  else if b = 114 then return [13]
  else if b = 116 then return [9]
  else if b = 117 then unicodeEscape
  else failHere .invalidEscape

def stringBytes : Nat → List UInt8 → Reader (List UInt8)
  | 0, _ => failHere .endInString
  | fuel + 1, read => do
    match ← peek? with
    | none => failHere .endInString
    | some b =>
      skip
      if b = 34 then return read.reverse
      else if b = 92 then
        let bs ← escape
        stringBytes fuel (bs.reverse ++ read)
      else if b < 32 then failHere .controlCharacter
      else stringBytes fuel (b :: read)

def stringRest : Reader String := do
  let bs ← stringBytes (← remaining) []
  return Text.ofBytesLossy bs

/-- A number as it is read. -/
inductive Number where
  | natural (n : Nat)
  | negative (i : Int)
  | fraction (x : Float)

def Number.unexpected : Number → Unexpected
  | .natural n => .integer n
  | .negative i => .integer i
  | .fraction x => .fraction (Decimal.ofFloat x)

def isDigit (b : UInt8) : Bool := 48 ≤ b && b ≤ 57

def natMax : Nat := 18446744073709551615

def exponentMax : Nat := 2147483647

def scaleDown : Nat → Float → Int → Float × Int
  | 0, f, e => (f, e)
  | fuel + 1, f, e =>
    if e < -308 ∧ f != 0 then scaleDown fuel (f / Float.ofScientific 1 false 308) (e + 308)
    else (f, e)

def scaled (positive : Bool) (digits : Nat) (exponent : Int) : Reader Float := do
  let signed (f : Float) := if positive then f else -f
  let (f, e) := scaleDown (exponent.natAbs / 308 + 1) digits.toUInt64.toFloat exponent
  if f == 0 then return signed 0
  else if 308 < e then failHere .numberOutOfRange
  else if e < -308 then return signed 0
  else if 0 ≤ e then
    let g := f * Float.ofScientific 1 false e.toNat
    if g.isInf then failHere .numberOutOfRange else return signed g
  else return signed (f / Float.ofScientific 1 false (-e).toNat)

def countDigits : Nat → Nat → Reader Nat
  | 0, n => pure n
  | fuel + 1, n => do
    match ← peek? with
    | some b => if isDigit b then skip; countDigits fuel (n + 1) else return n
    | none => return n

def passDigits : Reader Nat := do countDigits (← remaining) 0

/-- Reads digits onto a number while it stays within a bound; how many were read. -/
def gather (bound : Nat) : Nat → Nat → Nat → Reader (Nat × Nat)
  | 0, n, read => pure (n, read)
  | fuel + 1, n, read => do
    match ← peek? with
    | some b =>
      let n' := n * 10 + (b.toNat - 48)
      if isDigit b && n' ≤ bound then skip; gather bound fuel n' (read + 1) else return (n, read)
    | none => return (n, read)

def nextIsDigit : Reader Bool := do
  return (← peek?).any isDigit

def nextIsExponent : Reader Bool := do
  let b ← peek?
  return b = some 101 || b = some 69

def exponentPart (positive : Bool) (digits : Nat) (exponent : Int) : Reader Float := do
  skip
  let b ← peek?
  let up := b ≠ some 45
  if b = some 43 ∨ b = some 45 then skip
  match ← next? with
  | none => failHere .endInValue
  | some b =>
    if !isDigit b then failHere .invalidNumber
    else
      let (e, _) ← gather exponentMax (← remaining) (b.toNat - 48) 0
      if ← nextIsDigit then
        skip
        if digits ≠ 0 ∧ up then failHere .numberOutOfRange
        else
          let _ ← passDigits
          return if positive then 0.0 else -0.0
      else scaled positive digits (if up then exponent + e else exponent - e)

def decimalPart (positive : Bool) (digits : Nat) (exponent : Int) : Reader Float := do
  skip
  let (n, read) ← gather natMax (← remaining) digits 0
  let full ← nextIsDigit
  if read = 0 ∧ !full then
    match ← peek? with
    | some _ => failNext .invalidNumber
    | none => failNext .endInValue
  else
    let _ ← passDigits
    if ← nextIsExponent then exponentPart positive n (exponent - read)
    else scaled positive n (exponent - read)

def numberRest (positive : Bool) (digits : Nat) : Reader Number := do
  match ← peek? with
  | some 46 => return .fraction (← decimalPart positive digits 0)
  | some 101 | some 69 => return .fraction (← exponentPart positive digits 0)
  | _ =>
    if positive then return .natural digits
    else if digits = 0 ∨ 9223372036854775808 < digits then return .fraction (-digits.toUInt64.toFloat)
    else return .negative (-(digits : Int))

def longNumber (positive : Bool) (digits : Nat) : Reader Number := do
  let n ← passDigits
  match ← peek? with
  | some 46 => return .fraction (← decimalPart positive digits n)
  | some 101 | some 69 => return .fraction (← exponentPart positive digits n)
  | _ => return .fraction (← scaled positive digits n)

def number (positive : Bool) : Reader Number := do
  match ← next? with
  | none => failHere .endInValue
  | some b =>
    if b = 48 then
      if ← nextIsDigit then failNext .invalidNumber else numberRest positive 0
    else if isDigit b then
      let (n, _) ← gather natMax (← remaining) (b.toNat - 48) 0
      if ← nextIsDigit then longNumber positive n else numberRest positive n
    else failHere .invalidNumber

/-- Fails because something else than the next value is wanted. -/
def failWrongType {α : Type} (wanted : String) : Reader α :=
  placed do
    match ← peek? with
    | some 110 => skip; wordRest "ull"; fail (.wrongType .null wanted)
    | some 116 => skip; wordRest "rue"; fail (.wrongType (.boolean true) wanted)
    | some 102 => skip; wordRest "alse"; fail (.wrongType (.boolean false) wanted)
    | some 45 => skip; fail (.wrongType (← number false).unexpected wanted)
    | some 34 => skip; fail (.wrongType (.text (← stringRest)) wanted)
    | some 91 => fail (.wrongType .sequence wanted)
    | some 123 => fail (.wrongType .map wanted)
    | some b =>
      if isDigit b then fail (.wrongType (← number true).unexpected wanted)
      else failNext .expectedValue
    | none => failNext .expectedValue

def valueByte : Reader UInt8 := do
  match ← peekValue? with
  | some b => return b
  | none => failNext .endInValue

def string (wanted : String) : Reader String := do
  if (← valueByte) = 34 then skip; stringRest else failWrongType wanted

def boolean : Reader Bool := do
  let b ← valueByte
  if b = 116 then skip; wordRest "rue"; return true
  else if b = 102 then skip; wordRest "alse"; return false
  else failWrongType "a boolean"

/-- A whole number from zero to a bound; `wanted` names the numbers of that size. -/
def Number.within (bound : Nat) (wanted : String) : Number → Except Cause Nat
  | .natural n => if n ≤ bound then .ok n else .error (.wrongValue (.integer n) wanted)
  | .negative i => .error (.wrongValue (.integer i) wanted)
  | .fraction x => .error (.wrongType (.fraction (Decimal.ofFloat x)) wanted)

def natural (bound : Nat) (wanted : String) : Reader Nat := do
  let b ← valueByte
  if b = 45 ∨ isDigit b then
    if b = 45 then skip
    let n ← number (b ≠ 45)
    match n.within bound wanted with
    | .ok n => return n
    | .error cause => failHere cause
  else failWrongType wanted

def optional {α : Type} (r : Reader α) : Reader (Option α) := do
  if (← peekValue?) = some 110 then skip; wordRest "ull"; return none
  else return some (← r)

end SprayWatch.Json
