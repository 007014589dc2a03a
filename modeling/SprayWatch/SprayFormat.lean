import SprayWatch.Json.Content
/-!
# Record formats

How the records of a sprayed file are told apart, and the arguments that say so.
-/

namespace SprayWatch

/-- How the characters of a file are stored. -/
inductive Encoding where
  | ascii
  | utf8
  | utf8n
  | utf16
  | utf16le
  | utf16be
  | utf32
  | utf32le
  | utf32be
  deriving Repr, DecidableEq

def Encoding.all : List Encoding :=
  [.ascii, .utf8, .utf8n, .utf16, .utf16le, .utf16be, .utf32, .utf32le, .utf32be]

def Encoding.name : Encoding → String
  | .ascii => "ascii"
  | .utf8 => "utf8"
  | .utf8n => "utf8n"
  | .utf16 => "utf16"
  | .utf16le => "utf16le"
  | .utf16be => "utf16be"
  | .utf32 => "utf32"
  | .utf32le => "utf32le"
  | .utf32be => "utf32be"

def Encoding.ofName? (n : String) : Option Encoding := all.find? fun e => e.name == n

/-- How the records of a sprayed file are told apart. -/
inductive SprayFormat where
  | csv (encoding : Option Encoding) (maxRecordSize : Option Nat)
      (separator terminator quote : Option String)
  | fixed (recordSize : Nat)
  | json (rowPath : String) (maxRecordSize : Option Nat)
  | xml (rowTag : String) (encoding : Option Encoding) (maxRecordSize : Option Nat)
  deriving Repr, DecidableEq

namespace SprayFormat

def plainCsv : SprayFormat := .csv none none none none none

/-- The four kinds of format. -/
inductive Kind where
  | csv
  | fixed
  | json
  | xml
  deriving Repr, DecidableEq

def Kind.all : List Kind := [.csv, .fixed, .json, .xml]

def Kind.name : Kind → String
  | .csv => "csv"
  | .fixed => "fixed"
  | .json => "json"
  | .xml => "xml"

def Kind.ofName? (n : String) : Option Kind := all.find? fun k => k.name == n

def kind : SprayFormat → Kind
  | .csv .. => .csv
  | .fixed .. => .fixed
  | .json .. => .json
  | .xml .. => .xml

def name (f : SprayFormat) : String := f.kind.name

def optionalArg (key : String) (value : Option String) : List String :=
  (value.map fun v => key ++ "=" ++ v).toList

def args (f : SprayFormat) : List String :=
  ("format=" ++ f.name) ::
    match f with
    | .csv encoding maxRecordSize separator terminator quote =>
      optionalArg "encoding" (encoding.map Encoding.name) ++
        optionalArg "maxrecordsize" (maxRecordSize.map toString) ++
        optionalArg "separator" separator ++ optionalArg "terminator" terminator ++
        optionalArg "quote" quote
    | .fixed recordSize => ["recordsize=" ++ toString recordSize]
    | .json rowPath maxRecordSize =>
      ("rowpath=" ++ rowPath) :: optionalArg "maxrecordsize" (maxRecordSize.map toString)
    | .xml rowTag encoding maxRecordSize =>
      ("rowtag=" ++ rowTag) :: (optionalArg "encoding" (encoding.map Encoding.name) ++
        optionalArg "maxrecordsize" (maxRecordSize.map toString))

/-! ## Reading a format -/

def Kind.fields : Kind → List String
  | .csv => ["encoding", "max_record_size", "separator", "terminator", "quote"]
  | .fixed => ["record_size"]
  | .json => ["row_path", "max_record_size"]
  | .xml => ["row_tag", "encoding", "max_record_size"]

/-- What has been decoded of a format. -/
structure Fields where
  encoding : Option (Option Encoding)
  maxRecordSize : Option (Option Nat)
  separator : Option (Option String)
  terminator : Option (Option String)
  quote : Option (Option String)
  recordSize : Option Nat
  rowPath : Option String
  rowTag : Option String

def Fields.none : Fields := ⟨.none, .none, .none, .none, .none, .none, .none, .none⟩

def sizeMax : Nat := 4294967295

open Json (Content Cause)

def sizeOf (c : Content) : Except Cause Nat := c.asNatural sizeMax "u32"

def encodingOf (c : Content) : Except Cause Encoding :=
  c.asVariant (Encoding.all.map Encoding.name) Encoding.ofName?

def once {α : Type} (key : String) (seen : Option α) (value : Except Cause α) :
    Except Cause (Option α) :=
  if seen.isSome then .error (.duplicateField key) else value.map some

def Fields.set (f : Fields) (key : String) (c : Content) : Except Cause Fields :=
  match key with
  | "encoding" => do
    return { f with encoding := ← once key f.encoding (c.asOptional encodingOf) }
  | "max_record_size" => do
    return { f with maxRecordSize := ← once key f.maxRecordSize (c.asOptional sizeOf) }
  | "separator" => do
    return { f with separator := ← once key f.separator (c.asOptional Content.asString) }
  | "terminator" => do
    return { f with terminator := ← once key f.terminator (c.asOptional Content.asString) }
  | "quote" => do
    return { f with quote := ← once key f.quote (c.asOptional Content.asString) }
  | "record_size" => do return { f with recordSize := ← once key f.recordSize (sizeOf c) }
  | "row_path" => do return { f with rowPath := ← once key f.rowPath c.asString }
  | "row_tag" => do return { f with rowTag := ← once key f.rowTag c.asString }
  | _ => return f

/-- A format from its decoded fields; `missing` reports one that must be there. -/
def ofFields (k : Kind) (f : Fields) (missing : Nat → String → Cause) : Except Cause SprayFormat :=
  let need {α : Type} (value : Option α) : Except Cause α :=
    match value with
    | some a => .ok a
    | none => .error (missing 0 (k.fields.headD ""))
  match k with
  | .csv =>
    .ok (.csv f.encoding.join f.maxRecordSize.join f.separator.join f.terminator.join f.quote.join)
  | .fixed => do return .fixed (← need f.recordSize)
  | .json => do return .json (← need f.rowPath) f.maxRecordSize.join
  | .xml => do return .xml (← need f.rowTag) f.encoding.join f.maxRecordSize.join

/-- What a kind of format is called when a list of its fields is too short. -/
def Kind.described : Kind → String
  | .csv => "struct variant SprayFormat::Csv with 5 elements"
  | .fixed => "struct variant SprayFormat::Fixed with 1 element"
  | .json => "struct variant SprayFormat::Json with 2 elements"
  | .xml => "struct variant SprayFormat::Xml with 3 elements"

def countOfElements (n : Nat) : String :=
  if n = 1 then "1 element in sequence" else toString n ++ " elements in sequence"

def decode (k : Kind) : Content → Except Cause SprayFormat
  | .map entries => do
    let known := entries.filter fun e => k.fields.contains e.1
    let f ← known.foldlM (fun f e => f.set e.1 e.2) Fields.none
    ofFields k f fun _ key => .missingField key
  | .sequence items => do
    let f ← (k.fields.zip items).foldlM (fun f e => f.set e.1 e.2) Fields.none
    let format ← ofFields k f fun n _ => .wrongLength n k.described
    if k.fields.length < items.length then
      .error (.wrongLength items.length (countOfElements k.fields.length))
    else return format
  | c => c.wrongType k.described

def described : String := "internally tagged enum SprayFormat"

def kindKey : String := "format"

open Json

def readKind : Reader Kind := placed do
  let n ← string "variant identifier"
  match Kind.ofName? n with
  | some k => return k
  | none => fail (.unknownVariant n (Kind.all.map Kind.name))

/-- What has been read of a format that is written as an object. -/
structure Tagged where
  kind : Option Kind
  /-- the other entries, newest first -/
  others : List (String × Content)

def readEntry (key : String) (t : Tagged) : Reader Tagged := do
  if key = kindKey then return { t with kind := ← field key t.kind readKind }
  else
    colon
    return { t with others := (key, ← Content.read (nesting - 1)) :: t.others }

def readObject : Reader (Kind × Content) := do
  let t ← entries readEntry (← remaining) true ⟨none, []⟩
  match t.kind with
  | some k => return (k, .map t.others.reverse)
  | none => fail (.missingField kindKey)

def readList : Reader (Kind × Content) := do
  match ← element? true readKind with
  | some k => return (k, .sequence (← elements (Content.read (nesting - 1)) (← remaining) false))
  | none => fail (.missingField kindKey)

def readTagged : Reader (Kind × Content) :=
  record nesting described readList readObject

/-- A format from its JSON text: its kind decides what the other entries are to be, and faults in
those have no place in the text. -/
def ofJson (s : String) : Except Fault SprayFormat :=
  let reader : Reader SprayFormat := do
    let (k, c) ← readTagged
    match decode k c with
    | .ok f => return f
    | .error cause => fail cause
  readAll reader s

end SprayFormat

end SprayWatch
