import SprayWatch.Text.HiddenTable
import SprayWatch.Text.Letter
/-!
# Quoted texts

In a report a text stands between double quotes.  Quotes, backslashes and line ends are written with
a backslash, and characters that cannot be seen by their number in hexadecimal digits.
-/

namespace SprayWatch.Text

def isHidden (c : Char) : Bool :=
  if c.val < 128 then c.val < 32 || c.val == 127 else inRanges hiddenRanges c.val.toNat

def quoteChar (c : Char) : List Char :=
  match c with
  | '\x00' => ['\\', '0']
  | '\t' => ['\\', 't']
  | '\r' => ['\\', 'r']
  | '\n' => ['\\', 'n']
  | '"' => ['\\', '"']
  | '\\' => ['\\', '\\']
  | c => if isHidden c then "\\u\x7b".toList ++ Nat.toDigits 16 c.val.toNat ++ ['\x7d'] else [c]

def quoted (s : String) : String :=
  String.ofList (['"'] ++ s.toList.flatMap quoteChar ++ ['"'])

end SprayWatch.Text
