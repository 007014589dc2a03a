import SprayWatch.Shell.Sum
import SprayWatch.Text.Utf8
/-!
# Formatted output

What the programs that repeat their arguments write: escapes with a backslash, and formats with a
percent sign for each argument.
-/

namespace SprayWatch.Machine

def controlOf? (c : Char) : Option UInt8 :=
  match c with
  | 'a' => some 7
  | 'b' => some 8
  | 'f' => some 12
  | 'n' => some 10
  | 'r' => some 13
  | 't' => some 9
  | 'v' => some 11
  | '\\' => some 92
  | _ => none

def isOctal (c : Char) : Bool := '0' ≤ c && c ≤ '7'

def octalValue (cs : List Char) : Nat := cs.foldl (fun n c => n * 8 + (c.toNat - '0'.toNat)) 0

def bytesOf (c : Char) : List UInt8 := Text.toBytes (String.singleton c)

/-- The bytes of a text with escapes, and whether the output ends there.  Octal numbers may have to
begin with a zero. -/
def unescape (zeroFirst : Bool) : Nat → List Char → List UInt8 × Bool
  | 0, _ => ([], false)
  | _, [] => ([], false)
  | n + 1, '\\' :: c :: rest =>
    let follow (bytes : List UInt8) (left : List Char) : List UInt8 × Bool :=
      let (more, stops) := unescape zeroFirst n left
      (bytes ++ more, stops)
    if c = 'c' then ([], true)
    else
      match controlOf? c with
      | some b => follow [b] rest
      | none =>
        if zeroFirst && c == '0' then
          let digits := (rest.take 3).takeWhile isOctal
          follow [(octalValue digits).toUInt8] (rest.drop digits.length)
        else if !zeroFirst && isOctal c then
          let digits := ((c :: rest).take 3).takeWhile isOctal
          follow [(octalValue digits).toUInt8] ((c :: rest).drop digits.length)
        else follow (bytesOf '\\' ++ bytesOf c) rest
  | n + 1, c :: rest =>
    let (more, stops) := unescape zeroFirst n rest
    (bytesOf c ++ more, stops)

def unescaped (zeroFirst : Bool) (s : String) : List UInt8 × Bool :=
  unescape zeroFirst (s.length + 1) s.toList

/-- How one argument is to be written. -/
structure Directive where
  left : Bool
  zeros : Bool
  plus : Bool
  width : Nat
  precision : Option Nat
  conversion : Char

def decimalValue (cs : List Char) : Nat := cs.foldl (fun n c => n * 10 + (c.toNat - '0'.toNat)) 0

/-- A directive, after its percent sign, and what follows it. -/
def directive? (cs : List Char) : Option (Directive × List Char) :=
  let flags := cs.takeWhile fun c => ['-', '+', ' ', '0', '#'].contains c
  let rest := cs.drop flags.length
  let width := rest.takeWhile Char.isDigit
  let rest := rest.drop width.length
  let (precision, rest) : Option Nat × List Char := match rest with
    | '.' :: more =>
      let digits := more.takeWhile Char.isDigit
      (some (decimalValue digits), more.drop digits.length)
    | _ => (none, rest)
  match rest with
  | c :: left =>
    some (⟨flags.contains '-', flags.contains '0', flags.contains '+', decimalValue width, precision,
      c⟩, left)
  | [] => none

def Directive.pad (d : Directive) (bytes : List UInt8) : List UInt8 :=
  let fill := List.replicate (d.width - bytes.length) (if d.zeros && !d.left then 48 else 32)
  if d.left then bytes ++ fill else fill ++ bytes

def Directive.number (d : Directive) (i : Int) : List UInt8 :=
  let base := match d.conversion with
    | 'o' => 8
    | 'x' | 'X' => 16
    | _ => 10
  let magnitude := if d.conversion = 'd' ∨ d.conversion = 'i' then i.natAbs
    else (i % 18446744073709551616).toNat
  let digits := Nat.toDigits base magnitude
  let digits := if d.conversion = 'X' then digits.map Char.toUpper else digits
  let digits := List.replicate (d.precision.getD 0 - digits.length) '0' ++ digits
  let sign := if (d.conversion = 'd' ∨ d.conversion = 'i') ∧ i < 0 then ['-']
    else if d.plus then ['+'] else []
  Text.toBytes (String.ofList (sign ++ digits))

/-- What can be wrong with a format and its arguments: an argument is no number, or goes on after one,
or a directive is unknown. -/
inductive FormatFault where
  | noNumber (argument : String)
  | partNumber (argument : String)
  | directive (text : String)
  deriving Repr, DecidableEq

def FormatFault.message : FormatFault → String
  | .noNumber a => a ++ ": expected numeric value"
  | .partNumber a => a ++ ": not completely converted"
  | .directive t => t ++ ": invalid directive"

def FormatFault.code (faults : List FormatFault) : Nat :=
  if faults.any (fun
      | .directive _ => true
      | _ => false) then 2
  else if faults.isEmpty then 0
  else 1

/-- What comes out of a format, and whether the output ends there. -/
structure Formatted where
  bytes : List UInt8
  faults : List FormatFault
  stops : Bool

/-- The number that an argument is, as far as it is one; a leading quote makes it that of a
character. -/
def numberOf (s : String) : Int × List FormatFault :=
  match s.toList with
  | [] => (0, [])
  | q :: cs =>
    if q.toNat = 39 ∨ q = '"' then ((cs.head?.map fun c => (c.toNat : Int)).getD 0, [])
    else
      match Shell.Sum.number? s with
      | some i => (i, [])
      | none =>
        let lengths := (List.range s.length).reverse
        match lengths.findSome? fun n => Shell.Sum.number? (String.ofList ((q :: cs).take n)) with
        | some i => (i, [.partNumber s])
        | none => (0, [.noNumber s])

def Directive.write (d : Directive) (arg : String) : Formatted :=
  match d.conversion with
  | 's' =>
    let bytes := Text.toBytes arg
    ⟨d.pad (match d.precision with
      | some p => bytes.take p
      | none => bytes), [], false⟩
  | 'b' =>
    let (bytes, stops) := unescaped true arg
    ⟨d.pad bytes, [], stops⟩
  | 'c' => ⟨d.pad ((Text.toBytes arg).take 1), [], false⟩
  | c =>
    if ['d', 'i', 'o', 'u', 'x', 'X'].contains c then
      let (i, faults) := numberOf arg
      ⟨d.pad (d.number i), faults, false⟩
    else ⟨[], [.directive (String.ofList ['%', c])], true⟩

def Formatted.after (front : List UInt8) (faults : List FormatFault) (f : Formatted) : Formatted :=
  ⟨front ++ f.bytes, faults ++ f.faults, f.stops⟩

/-- Once through a format: what comes out, and the arguments left. -/
def formatOnce : Nat → List Char → List String → Formatted × List String
  | 0, _, args => (⟨[], [], false⟩, args)
  | _, [], args => (⟨[], [], false⟩, args)
  | n + 1, '%' :: '%' :: rest, args =>
    let (more, left) := formatOnce n rest args
    (more.after [37] [], left)
  | n + 1, '%' :: rest, args =>
    match directive? rest with
    | none => (⟨[37], [], false⟩, args)
    | some (d, rest) =>
      let written := d.write (args.head?.getD "")
      if written.stops then (written, [])
      else
        let (more, left) := formatOnce n rest args.tail
        (more.after written.bytes written.faults, left)
  | n + 1, '\\' :: c :: rest, args =>
    let taken := if isOctal c then ((c :: rest).take 3).takeWhile isOctal else [c]
    let (bytes, stops) := unescape false 2 ('\\' :: taken)
    if stops then (⟨bytes, [], true⟩, [])
    else
      let (more, left) := formatOnce n ((c :: rest).drop taken.length) args
      (more.after bytes [], left)
  | n + 1, c :: rest, args =>
    let (more, left) := formatOnce n rest args
    (more.after (bytesOf c) [], left)

def formatAll : Nat → List Char → List String → Formatted
  | 0, _, _ => ⟨[], [], false⟩
  | n + 1, format, args =>
    let (written, left) := formatOnce (format.length + 1) format args
    if written.stops || left.isEmpty || left.length = args.length then written
    else (formatAll n format left).after written.bytes written.faults

def formatted (format : String) (args : List String) : Formatted :=
  formatAll (args.length + 1) format.toList args

/-- What is written for arguments that are repeated with blanks between them. -/
def echoed (escapes : Bool) (newline : Bool) (args : List String) : List UInt8 :=
  let text := String.intercalate " " args
  let (bytes, stops) := if escapes then unescaped true text else (Text.toBytes text, false)
  if newline && !stops then bytes ++ [10] else bytes

end SprayWatch.Machine
