import SprayWatch.Json.Scalar
/-!
# Lists and objects

Values in brackets are read element by element and entry by entry.  Brackets may be nested up to a
depth.  A record may be written as an object with its fields as keys or as a list of its fields in
order; keys that are no fields are passed over, whatever their values.
-/

namespace SprayWatch.Json

/-- How deep brackets may be nested, the outermost included. -/
def nesting : Nat := 128

def listEnd : Reader Unit := do
  match ← peekValue? with
  | some 93 => skip
  | some 44 =>
    skip
    if (← peekValue?) = some 93 then failNext .trailingComma else failNext .trailingCharacters
  | some _ => failNext .trailingCharacters
  | none => failNext .endInList

def objectEnd : Reader Unit := do
  match ← peekValue? with
  | some 125 => skip
  | some 44 => failNext .trailingComma
  | some _ => failNext .trailingCharacters
  | none => failNext .endInObject

/-- Reads what stands in brackets, with `depth` levels to go.  A fault inside is the one reported,
but the end of the brackets is looked for all the same before the fault is placed. -/
def bracketed {α : Type} (depth : Nat) (inside : Reader α) (close : Reader Unit) : Reader α := do
  if depth ≤ 1 then failNext .tooDeep
  else
    skip
    fun c =>
      match inside c with
      | .ok a c' =>
        match close c' with
        | .ok _ c'' => .ok a c''
        | .error f c'' => .error f c''
      | .error f c' =>
        match close c' with
        | .ok _ c'' => .error f c''
        | .error _ c'' => .error f c''

/-- Is there another element?  If so, the cursor stands before it. -/
def moreElements (first : Bool) : Reader Bool := do
  match ← peekValue? with
  | none => failNext .endInList
  | some 93 => return false
  | some b =>
    if first then return true
    else if b = 44 then
      skip
      match ← peekValue? with
      | some 93 => failNext .trailingComma
      | some _ => return true
      | none => failNext .endInValue
    else failNext .expectedListEnd

def element? {α : Type} (first : Bool) (item : Reader α) : Reader (Option α) := do
  if ← moreElements first then return some (← item) else return none

def elements {α : Type} (item : Reader α) : Nat → Bool → Reader (List α)
  | 0, _ => pure []
  | fuel + 1, first => do
    match ← element? first item with
    | none => return []
    | some a => return a :: (← elements item fuel false)

def key? (first : Bool) : Reader (Option String) := do
  let afterComma : Reader (Option String) := do
    match ← peekValue? with
    | some 34 => skip; return some (← stringRest)
    | some 125 => failNext .trailingComma
    | some _ => failNext .keyNotString
    | none => failNext .endInValue
  match ← peekValue? with
  | none => failNext .endInObject
  | some 125 => return none
  | some b =>
    if first then
      if b = 34 then skip; return some (← stringRest) else failNext .keyNotString
    else if b = 44 then skip; afterComma
    else failNext .expectedObjectEnd

def colon : Reader Unit := do
  match ← peekValue? with
  | some 58 => skip
  | some _ => failNext .expectedColon
  | none => failNext .endInObject

/-- Folds the entries of an object; `entry` is given the key and reads from the colon on. -/
def entries {σ : Type} (entry : String → σ → Reader σ) : Nat → Bool → σ → Reader σ
  | 0, _, s => pure s
  | fuel + 1, first, s => do
    match ← key? first with
    | none => return s
    | some k => entries entry fuel false (← entry k s)

def record {α : Type} (depth : Nat) (wanted : String) (ofList ofObject : Reader α) : Reader α :=
  placed do
    let b ← valueByte
    if b = 91 then bracketed depth ofList listEnd
    else if b = 123 then bracketed depth ofObject objectEnd
    else failWrongType wanted

def field {α : Type} (name : String) (seen : Option α) (value : Reader α) : Reader (Option α) := do
  if seen.isSome then fail (.duplicateField name)
  else
    colon
    return some (← value)

/-- One of several words, written as a string, or as the key of an object whose value is `null`. -/
def variant {α : Type} (depth : Nat) (known : List String) (ofName? : String → Option α) :
    Reader α := do
  let name : Reader α := placed do
    let n ← string "variant identifier"
    match ofName? n with
    | some a => return a
    | none => fail (.unknownVariant n known)
  match ← peekValue? with
  | some 34 => name
  | some 123 =>
    if depth ≤ 1 then failNext .tooDeep
    else
      skip
      let a ← name
      colon
      if (← valueByte) = 110 then skip; wordRest "ull" else failWrongType "unit"
      match ← peekValue? with
      | some 125 => skip; return a
      | some _ => failHere .expectedValue
      | none => failHere .endInObject
  | some _ => failNext .expectedValue
  | none => failNext .endInValue

/-- A bracket that has been opened in a value that is passed over. -/
inductive Opened where
  | list
  | object

def passString : Nat → Reader Unit
  | 0 => failHere .endInString
  | fuel + 1 => do
    match ← peek? with
    | none => failHere .endInString
    | some b =>
      if b = 34 then skip
      else if b = 92 then
        skip
        let e ← stringByte
        if e = 117 then
          let _ ← hexFour
          passString fuel
        else if [34, 92, 47, 98, 102, 110, 114, 116].contains e then passString fuel
        else failHere .invalidEscape
      else if b < 32 then failHere .controlCharacter
      else skip; passString fuel

def passExponent : Reader Unit := do
  skip
  let b ← peek?
  if b = some 43 ∨ b = some 45 then skip
  match ← next? with
  | some b => if isDigit b then let _ ← passDigits else failHere .invalidNumber
  | none => failHere .invalidNumber

def passNumber : Reader Unit := do
  match ← next? with
  | some 48 => if ← nextIsDigit then failNext .invalidNumber
  | some b => if isDigit b then let _ ← passDigits else failHere .invalidNumber
  | none => failHere .invalidNumber
  match ← peek? with
  | some 46 =>
    skip
    if (← passDigits) = 0 then failNext .invalidNumber
    if ← nextIsExponent then passExponent
  | some 101 | some 69 => passExponent
  | _ => pure ()

/-- Passes the key and the colon before a value of no interest. -/
def passKey : Reader Unit := do
  match ← peekValue? with
  | some 34 => skip
  | some _ => failNext .keyNotString
  | none => failNext .endInObject
  passString (← remaining)
  colon

mutual

/-- Passes a value of no interest inside the brackets opened so far, and then their rest. -/
def passValue : Nat → List Opened → Reader Unit
  | 0, _ => pure ()
  | fuel + 1, opened => do
    let b ← valueByte
    if b = 110 then skip; wordRest "ull"; passRest fuel opened
    else if b = 116 then skip; wordRest "rue"; passRest fuel opened
    else if b = 102 then skip; wordRest "alse"; passRest fuel opened
    else if b = 45 then skip; passNumber; passRest fuel opened
    else if isDigit b then passNumber; passRest fuel opened
    else if b = 34 then skip; passString (← remaining); passRest fuel opened
    else if b = 91 then
      skip
      match ← peekValue? with
      | some 93 => skip; passRest fuel opened
      | some _ => passValue fuel (.list :: opened)
      | none => failNext .endInList
    else if b = 123 then
      skip
      match ← peekValue? with
      | some 125 => skip; passRest fuel opened
      | some _ => passKey; passValue fuel (.object :: opened)
      | none => failNext .endInObject
    else failNext .expectedValue

def passRest : Nat → List Opened → Reader Unit
  | 0, _ => pure ()
  | _, [] => pure ()
  | fuel + 1, .list :: opened => do
    match ← peekValue? with
    | some 44 => skip; passValue fuel (.list :: opened)
    | some 93 => skip; passRest fuel opened
    | some _ => failNext .expectedListEnd
    | none => failNext .endInList
  | fuel + 1, .object :: opened => do
    match ← peekValue? with
    | some 44 => skip; passKey; passValue fuel (.object :: opened)
    | some 125 => skip; passRest fuel opened
    | some _ => failNext .expectedObjectEnd
    | none => failNext .endInObject

end

def passField : Reader Unit := do
  colon
  passValue (2 * (← remaining)) []

end SprayWatch.Json
