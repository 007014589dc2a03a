import SprayWatch.Json.Shape
/-!
# Values set aside

A value whose type is not known yet is read as it stands and decoded later.  What is wrong with it
then is reported without a place in the text.
-/

namespace SprayWatch.Json

/-- Any value. -/
inductive Content where
  | null
  | boolean (b : Bool)
  | number (n : Number)
  | text (s : String)
  | sequence (items : List Content)
  | map (entries : List (String × Content))

namespace Content

/-- Reads any value, with `depth` levels of brackets to go. -/
def read : Nat → Reader Content
  | 0 => failNext .tooDeep
  | depth + 1 => placed do
    let b ← valueByte
    if b = 110 then skip; wordRest "ull"; return .null
    else if b = 116 then skip; wordRest "rue"; return .boolean true
    else if b = 102 then skip; wordRest "alse"; return .boolean false
    else if b = 45 then skip; return .number (← Json.number false)
    else if isDigit b then return .number (← Json.number true)
    else if b = 34 then skip; return .text (← stringRest)
    else if b = 91 then
      let items : Reader (List Content) := do elements (read depth) (← remaining) true
      return .sequence (← bracketed (depth + 1) items listEnd)
    else if b = 123 then
      let one (k : String) (es : List (String × Content)) : Reader (List (String × Content)) := do
        colon
        return (k, ← read depth) :: es
      let all : Reader (List (String × Content)) := do entries one (← remaining) true []
      return .map (← bracketed (depth + 1) all objectEnd).reverse
    else failNext .expectedValue

def unexpected : Content → Unexpected
  | .null => .null
  | .boolean b => .boolean b
  | .number n => n.unexpected
  | .text s => .text s
  | .sequence _ => .sequence
  | .map _ => .map

def wrongType {α : Type} (c : Content) (wanted : String) : Except Cause α :=
  .error (.wrongType c.unexpected wanted)

def asString : Content → Except Cause String
  | .text s => .ok s
  | c => c.wrongType "a string"

def asNatural (bound : Nat) (wanted : String) : Content → Except Cause Nat
  | .number (.natural n) => (Number.natural n).within bound wanted
  | .number (.negative i) => (Number.negative i).within bound wanted
  | c => c.wrongType wanted

def asOptional {α : Type} (decode : Content → Except Cause α) :
    Content → Except Cause (Option α)
  | .null => .ok none
  | c => (decode c).map some

/-- One of several words, or a word as the only key of an object that holds nothing. -/
def asVariant {α : Type} (known : List String) (ofName? : String → Option α) (c : Content) :
    Except Cause α :=
  let ofName (n : String) : Except Cause α :=
    match ofName? n with
    | some a => .ok a
    | none => .error (.unknownVariant n known)
  match c with
  | .text s => ofName s
  | .map [(n, value)] => do
    let a ← ofName n
    match value with
    | .null => .ok a
    | .map [] => .ok a
    | v => v.wrongType "unit"
  | .map _ => .error (.wrongValue .map "map with a single key")
  | c => c.wrongType "string or map"

end Content

end SprayWatch.Json
