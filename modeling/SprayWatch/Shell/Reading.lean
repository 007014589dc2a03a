import SprayWatch.Shell.Lexis
/-!
# Reading scripts

A script is read character by character.  Blanks separate words, and so do the characters of the
operators; quotes, dollar signs and backslashes have their usual meaning within a word.
-/

namespace SprayWatch.Shell

mutual

def readDollar : Nat → Bool → Reader Part
  | 0, _ => misread
  | n + 1, inQuotes => do
    if ← accept "((" then
      let parts ← readSum n 0 []
      return .sum parts
    else if ← accept "(" then
      let c ← readSequence n []
      skipLines n
      expect ")"
      return .output c
    else if ← accept (String.singleton openBrace) then readBraced n inQuotes
    else
      match ← peek? with
      | some c =>
        if isNameStart c then return .param (← takeChars isNameChar) .value
        else if c.isDigit || ['@', '*', '#', '?', '-', '$', '!'].contains c then
          pass 1
          return .param (String.singleton c) .value
        else return .fixed "$"
      | none => return .fixed "$"

def readSum : Nat → Nat → List Part → Reader (List Part)
  | 0, _, _ => misread
  | n + 1, depth, read => do
    match (← get).rest with
    | ')' :: ')' :: _ =>
      if depth = 0 then
        pass 2
        return read
      else
        pass 1
        readSum n (depth - 1) (read ++ [.fixed ")"])
    | ')' :: _ =>
      if depth = 0 then obstructed .openSum
      else
        pass 1
        readSum n (depth - 1) (read ++ [.fixed ")"])
    | '(' :: _ =>
      pass 1
      readSum n (depth + 1) (read ++ [.fixed "("])
    | '$' :: _ =>
      pass 1
      readSum n depth (read ++ [← readDollar n true])
    | c :: _ =>
      pass 1
      readSum n depth (read ++ [.fixed (String.singleton c)])
    | [] => obstructed .openSum

def readBraced : Nat → Bool → Reader Part
  | 0, _ => misread
  | n + 1, inQuotes => do
    let close := String.singleton closeBrace
    let counts ← do
      match (← get).rest with
      | '#' :: c :: _ => if c == closeBrace then pure false else accept "#"
      | _ => pure false
    let name ← do
      match ← peek? with
      | some c =>
        if isNameStart c then takeChars isNameChar
        else if c.isDigit then takeChars Char.isDigit
        else if ['@', '*', '#', '?', '-', '$', '!'].contains c then
          pass 1
          pure (String.singleton c)
        else misread
      | none => misread
    if counts then
      if !(← accept close) then obstructed .openBraces
      return .param name .length
    else if ← accept close then return .param name .value
    else
      let use ← do
        if ← accept ":-" then pure (Use.orElse true)
        else if ← accept "-" then pure (Use.orElse false)
        else if ← accept ":=" then pure (Use.assign true)
        else if ← accept "=" then pure (Use.assign false)
        else if ← accept ":?" then pure (Use.insist true)
        else if ← accept "?" then pure (Use.insist false)
        else if ← accept ":+" then pure (Use.instead true)
        else if ← accept "+" then pure (Use.instead false)
        else if ← accept "##" then pure (Use.cut ⟨true, true⟩)
        else if ← accept "#" then pure (Use.cut ⟨true, false⟩)
        else if ← accept "%%" then pure (Use.cut ⟨false, true⟩)
        else if ← accept "%" then pure (Use.cut ⟨false, false⟩)
        else if (← peek?).isNone then obstructed .openBraces
        else misread
      let word ← readParts n (fun c => c == closeBrace) inQuotes []
      if !(← accept close) then obstructed .openBraces
      return .param name (use word)

/-- The parts of a word, or of what stands between double quotes, up to a character that ends it. -/
def readParts : Nat → (Char → Bool) → Bool → List Part → Reader (List Part)
  | 0, _, _, _ => misread
  | n + 1, ends, inQuotes, read => do
    match (← get).rest with
    | [] => return read
    | '\\' :: '\n' :: _ =>
      pass 2
      readParts n ends inQuotes read
    | '\\' :: c :: _ =>
      pass 2
      let text := if inQuotes && !hiddenInQuotes c && c != closeBrace
        then String.ofList [backslash, c] else String.singleton c
      readParts n ends inQuotes (read ++ [.fixed text])
    | '$' :: _ =>
      pass 1
      readParts n ends inQuotes (read ++ [← readDollar n inQuotes])
    | c :: rest =>
      if ends c then return read
      else if c == backquote then
        match splitOutput rest with
        | none => obstructed .openOutput
        | some (inside, _) =>
          pass (inside.length + 2)
          let outer ← get
          set (⟨unquoteOutput inside, outer.line, 0⟩ : Input)
          let script ← readSequence n []
          set outer
          readParts n ends inQuotes (read ++ [.output script])
      else if c == doubleQuote && (!inQuotes || ends closeBrace) then
        pass 1
        let parts ← readParts n (fun c => c == doubleQuote) true []
        if !(← accept (String.singleton doubleQuote)) then obstructed .openQuotes
        readParts n ends inQuotes (read ++ [.quoted parts])
      else if c == singleQuote && !inQuotes then
        pass 1
        let text ← takeChars (· != singleQuote)
        if !(← accept (String.singleton singleQuote)) then obstructed .openQuotes
        readParts n ends inQuotes (read ++ [.fixed text])
      else
        let kind (d : Char) : Bool :=
          !ends d && d != '$' && d != backslash && d != backquote && d != doubleQuote &&
            (inQuotes || d != singleQuote)
        let text ← takeChars kind
        if text.isEmpty then
          pass 1
          readParts n ends inQuotes (read ++ [.plain (String.singleton c)])
        else readParts n ends inQuotes (read ++ [if inQuotes then .fixed text else .plain text])

def readWord : Nat → Reader Word
  | 0 => misread
  | n + 1 => do
    let parts ← readParts n endsWord false []
    if parts.isEmpty then misread else return parts

def readRedirect : Nat → Reader (Option Redirect)
  | 0 => misread
  | n + 1 => do
    let rest := (← get).rest
    let digits := rest.takeWhile Char.isDigit
    match rest.drop digits.length with
    | c :: _ =>
      if c == '<' || c == '>' then
        pass digits.length
        let stream (usual : Nat) : Nat :=
          if digits.isEmpty then usual else digitsOf (String.ofList digits)
        if ← accept ">>" then
          skipBlanks n
          return some (.write (stream 1) true (← readWord n))
        else if ← accept ">&" then
          skipBlanks n
          return some (.copy (stream 1) (← readWord n))
        else if ← accept ">|" then
          skipBlanks n
          return some (.write (stream 1) false (← readWord n))
        else if ← accept ">" then
          skipBlanks n
          return some (.write (stream 1) false (← readWord n))
        else if ← accept "<<" then
          let dropTabs ← accept "-"
          skipBlanks n
          let mark ← readWord n
          let body ← takeDocument (wordText mark).toList dropTabs
          if hasQuotes mark then return some (.text (stream 0) [.fixed (String.ofList body)])
          else
            let outer ← get
            set (⟨body, outer.line, 0⟩ : Input)
            let parts ← readParts n (fun _ => false) true []
            set outer
            return some (.text (stream 0) parts)
        else if ← accept "<&" then
          skipBlanks n
          return some (.copy (stream 0) (← readWord n))
        else
          expect "<"
          skipBlanks n
          return some (.read (stream 0) (← readWord n))
      else return none
    | [] => return none

def readRedirects : Nat → List Redirect → Reader (List Redirect)
  | 0, _ => misread
  | n + 1, read => do
    skipBlanks n
    match ← readRedirect n with
    | some r => readRedirects n (read ++ [r])
    | none => return read

/-- The assignments, words and redirections of a simple command. -/
def readSimple : Nat → Nat → List (String × Word) → List Word → List Redirect → Reader Command
  | 0, _, _, _, _ => misread
  | n + 1, line, assignments, words, redirects => do
    skipBlanks n
    match ← readRedirect n with
    | some r => readSimple n line assignments words (redirects ++ [r])
    | none =>
      match ← peek? with
      | none => return .simple line assignments words redirects
      | some c =>
        if endsWord c then
          match words, c with
          | [w], '(' =>
            match nameOf? w with
            | some name =>
              pass 1
              skipBlanks n
              expect ")"
              skipLines n
              return .function name (← readCommand n)
            | none => obstructed .functionName
          | _, _ => return .simple line assignments words redirects
        else
          let w ← readWord n
          match words, assignment? w with
          | [], some a => readSimple n line (assignments ++ [a]) words redirects
          | _, _ => readSimple n line assignments (words ++ [w]) redirects

def readChoice : Nat → Reader Command
  | 0 => misread
  | n + 1 => do
    let condition ← readSequence n []
    expectReserved "then"
    let consequence ← readSequence n []
    if ← acceptReserved "elif" then
      return .choice condition consequence (some (← readChoice n))
    else if ← acceptReserved "else" then
      let alternative ← readSequence n []
      expectReserved "fi"
      return .choice condition consequence (some alternative)
    else
      expectReserved "fi"
      return .choice condition consequence none

def readBody : Nat → Reader Command
  | 0 => misread
  | n + 1 => do
    skipLines n
    expectReserved "do"
    let body ← readSequence n []
    expectReserved "done"
    return body

def readWords : Nat → List Word → Reader (List Word)
  | 0, _ => misread
  | n + 1, read => do
    skipBlanks n
    match ← peek? with
    | none => return read
    | some c => if endsWord c then return read else readWords n (read ++ [← readWord n])

def readPatterns : Nat → List Word → Reader (List Word)
  | 0, _ => misread
  | n + 1, read => do
    skipBlanks n
    if (← peek?).all endsWord then misreadFor (some ")")
    let w ← readWord n
    skipBlanks n
    if ← accept "|" then readPatterns n (read ++ [w])
    else
      expect ")"
      return read ++ [w]

def readArms : Nat → List (List Word × Command) → Reader (List (List Word × Command))
  | 0, _ => misread
  | n + 1, read => do
    skipLines n
    if ← acceptReserved "esac" then return read
    else
      let _ ← accept "("
      let patterns ← readPatterns n []
      let body ← readSequence n []
      skipLines n
      if ← accept ";;" then readArms n (read ++ [(patterns, body)])
      else if ← acceptReserved "esac" then return read ++ [(patterns, body)]
      else misreadFor (some ";;")

def readCommand : Nat → Reader Command
  | 0 => misread
  | n + 1 => do
    skipBlanks n
    let i ← get
    let compound : Option Command ← do
      if ← accept "(" then
        let c ← readSequence n []
        skipLines n
        expect ")"
        pure (some (.subshell c))
      else if ← acceptReserved (String.singleton openBrace) then
        let c ← readSequence n []
        skipLines n
        expectReserved (String.singleton closeBrace)
        pure (some c)
      else if ← acceptReserved "if" then pure (some (← readChoice n))
      else if ← acceptReserved "while" then
        let condition ← readSequence n []
        pure (some (.loop true condition (← readBody n)))
      else if ← acceptReserved "until" then
        let condition ← readSequence n []
        pure (some (.loop false condition (← readBody n)))
      else if ← acceptReserved "for" then
        skipBlanks n
        let name ← takeChars isNameChar
        if !(name.toList.head?.any isNameStart) then obstructed .loopVariable
        skipLines n
        if ← acceptReserved "in" then
          let words ← readWords n []
          skipBlanks n
          let _ ← accept ";"
          pure (some (.each name (some words) (← readBody n)))
        else
          let _ ← accept ";"
          pure (some (.each name none (← readBody n)))
      else if ← acceptReserved "case" then
        skipBlanks n
        let w ← readWord n
        skipLines n
        expectReserved "in"
        pure (some (.select w (← readArms n [])))
      else if endsSequence (← reservedAhead) then misread
      else pure none
    match compound with
    | some c =>
      match ← readRedirects n [] with
      | [] => return c
      | rs => return .redirected c rs
    | none =>
      match ← readSimple n i.line [] [] [] with
      | .simple _ [] [] [] => misread
      | c => return c

def readPipeline : Nat → List Command → Reader Command
  | 0, _ => misread
  | n + 1, read => do
    skipBlanks n
    if read.isEmpty && (← acceptReserved "!") then
      return .inverted (← readPipeline n [])
    else
      let c ← readCommand n
      skipBlanks n
      match (← get).rest with
      | '|' :: '|' :: _ => finish (read ++ [c])
      | '|' :: _ =>
        pass 1
        skipLines n
        readPipeline n (read ++ [c])
      | _ => finish (read ++ [c])
where
  finish : List Command → Reader Command
    | [c] => return c
    | cs => return .pipeline cs

def readJoined : Nat → Option (Bool × Command) → Reader Command
  | 0, _ => misread
  | n + 1, before => do
    let c ← readPipeline n []
    let joined := match before with
      | none => c
      | some (true, b) => .both b c
      | some (false, b) => .either b c
    skipBlanks n
    if ← accept "&&" then
      skipLines n
      readJoined n (some (true, joined))
    else if ← accept "||" then
      skipLines n
      readJoined n (some (false, joined))
    else return joined

def readSequence : Nat → List Command → Reader Command
  | 0, _ => misread
  | n + 1, read => do
    skipLines n
    match (← get).rest with
    | [] => return .sequence read
    | ')' :: _ => return .sequence read
    | ';' :: ';' :: _ => return .sequence read
    | _ =>
      if endsSequence (← reservedAhead) then return .sequence read
      else
        let c ← readJoined n none
        skipBlanks n
        match (← get).rest with
        | ';' :: ';' :: _ => return .sequence (read ++ [c])
        | ';' :: _ =>
          pass 1
          readSequence n (read ++ [c])
        | '&' :: _ =>
          pass 1
          readSequence n (read ++ [.background c])
        | '\n' :: _ => readSequence n (read ++ [c])
        | _ => return .sequence (read ++ [c])

end

def readTopLine : Nat → List Command → Reader Command
  | 0, _ => misread
  | n + 1, read => do
    skipBlanks n
    if (← get).rest.isEmpty then return .sequence read
    else if ← accept "\n" then return .sequence read
    else
      let c ← readJoined n none
      skipBlanks n
      match (← get).rest with
      | ';' :: ';' :: _ => misread
      | ';' :: _ =>
        pass 1
        readTopLine n (read ++ [c])
      | '&' :: _ =>
        pass 1
        readTopLine n (read ++ [.background c])
      | [] | '\n' :: _ => readTopLine n (read ++ [c])
      | _ => misread

/-- More steps than reading a text of this length can take. -/
def readingSteps (length : Nat) : Nat := 16 * length + 64

/-- Reads line by line, up to the end or the first obstacle. -/
def readFrom : Nat → Input → List Command × Option Misread
  | 0, _ => ([], none)
  | n + 1, i =>
    if i.rest.isEmpty then ([], none)
    else
      match (readTopLine (readingSteps i.rest.length) []).run i with
      | .error m => ([], some m)
      | .ok (c, left) =>
        let (more, stopped) := readFrom n left
        (c :: more, stopped)

/-- Reads a script: the commands line by line, up to what cannot be read. -/
def read (text : String) : List Command × Option Misread :=
  readFrom (text.length + 1) ⟨text.toList, 1, 0⟩

end SprayWatch.Shell
