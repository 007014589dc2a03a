import SprayWatch.Shell.Builtin
import SprayWatch.Shell.Reading
import SprayWatch.Shell.Sum
/-!
# Running scripts

A script is worked out command by command.  Words are expanded first: parameters, outputs of commands
and sums are put in their places, what comes out is cut into fields, and patterns are replaced by the
files that match.

What runs in the background, and each stage of a pipeline, starts at the same moment as the commands
after it; its own course is worked out at once.
-/

namespace SprayWatch.Shell

open Machine (Work Outlet Fate Image Source)

/-- Shows a command with its assignments, once these are made, if commands are to be shown. -/
def showCommand (assignments : List (String × Word)) (fields : List String) : Run Unit := do
  let s ← Run.shell
  if s.showsCommands then
    let made := assignments.map fun a => a.1 ++ "=" ++ (s.vars.lookup a.1).getD ""
    Run.write 2 (Text.toBytes ("+ " ++ String.intercalate " " (made ++ fields) ++ "\n"))

/-- A word with the home directory in place of a tilde at its front. -/
def homeward (home : Option String) (w : Word) : Word :=
  match home, w with
  | some home, .plain t :: rest =>
    if t = "~" || t.startsWith "~/" then .fixed home :: .plain (t.drop 1).toString :: rest else w
  | _, _ => w

/-- A text that may be executed but is no image is a script for the shell itself. -/
def asScript (t : Files.Tree) (name : String) (args : List String) :
    Except IoFault Image → Except IoFault Image
  | .error .execFormat =>
    match t.read ⟨name⟩ with
    | .ok bytes =>
      if bytes.contains 0 then .error .execFormat else .ok ⟨"sh", name, name :: args⟩
    | .error fault => .error fault
  | image => image

/-- Commands that lie too deep within one another end the script as they end a process whose stack is
used up. -/
def tooDeep : Run Unit := Run.setFlow (.ended (.killed 11))

mutual

def expandPart : Nat → Bool → Part → Run (List Piece)
  | 0, _, _ => do
    tooDeep
    return []
  | n + 1, inQuotes, part => do
    match part with
    | .plain text => return piecesOf false false text
    | .fixed text => return if text.isEmpty then [.nothing] else piecesOf true false text
    | .quoted parts =>
      let ps ← expandParts n true parts
      return if ps.isEmpty && !parts.any (fun
          | .param "@" _ => true
          | _ => false) then [.nothing] else ps
    | .sum parts =>
      let text ← expandText n parts
      let vars := (← Run.shell).vars
      match Sum.eval text fun name => vars.lookup name with
      | .ok (i, changes) =>
        changes.reverse.forM fun (name, v) => Run.setVariable name (toString v)
        return piecesOf inQuotes (!inQuotes) (toString i)
      | .error fault =>
        Run.giveUp (fault.message text)
        return []
    | .output script =>
      let text ← outputOf n script
      return piecesOf inQuotes (!inQuotes) text
    | .param "@" .value => return argumentPieces inQuotes (← Run.shell).args
    | .param "*" .value =>
      let args := (← Run.shell).args
      if inQuotes then
        let joint := String.ofList ((← separators).head?.toList)
        return piecesOf true false (String.intercalate joint args)
      else return argumentPieces false args
    | .param name use =>
      let value ← Run.parameter? name
      let isSet (blankToo : Bool) : Bool := value.any fun v => !blankToo || v ≠ ""
      let own : List Piece := piecesOf inQuotes (!inQuotes) (value.getD "")
      match use with
      | .value =>
        if value.isNone && (← Run.shell).insistsOnValues && name ≠ "!" then
          Run.giveUp (name ++ ": parameter not set")
        return own
      | .length => return piecesOf inQuotes false (toString (value.getD "").length)
      | .orElse blankToo word => if isSet blankToo then return own else expandParts n inQuotes word
      | .assign blankToo word =>
        if isSet blankToo then return own
        else
          let text ← expandText n word
          Run.setVariable name text
          return piecesOf inQuotes (!inQuotes) text
      | .insist blankToo word =>
        if isSet blankToo then return own
        else
          let text ← expandText n word
          Run.giveUp (name ++ ": " ++ (if text ≠ "" then text
            else if blankToo then "parameter not set or null" else "parameter not set"))
          return []
      | .instead blankToo word =>
        if isSet blankToo then expandParts n inQuotes word else return []
      | .cut how word =>
        let pattern := glyphsOf (← expandParts n false word)
        return piecesOf inQuotes (!inQuotes) (how.apply pattern (value.getD ""))

def expandParts : Nat → Bool → List Part → Run (List Piece)
  | 0, _, _ => do
    tooDeep
    return []
  | _, _, [] => return []
  | n + 1, inQuotes, p :: ps => do
    let front ← expandPart n inQuotes p
    return front ++ (← expandParts n inQuotes ps)

def expandText : Nat → Word → Run String
  | 0, _ => do
    tooDeep
    return ""
  | n + 1, w => return glyphText (glyphsOf (← expandParts n false w))

/-- Words as fields, with patterns replaced by the files that match. -/
def expandWords : Nat → List Word → Run (List String)
  | 0, _ => do
    tooDeep
    return []
  | _, [] => return []
  | n + 1, w :: ws => do
    let pieces ← expandParts n false (homeward ((← Run.shell).vars.lookup "HOME") w)
    let fields := fieldsOf (← separators) none pieces
    let t ← Run.tree
    return fields.flatMap (pathsOf t) ++ (← expandWords n ws)

def outputOf : Nat → Command → Run String
  | 0, _ => do
    tooDeep
    return ""
  | n + 1, script => do
    let c ← Run.work Work.newChannel
    let outer ← Run.shell
    leadStream 1 (.channel c)
    let fate ← forked n script
    Run.changeShell fun _ => outer
    Run.note fate
    let chunks ← Run.work (Work.collect c)
    return outputText (chunks.flatMap Prod.snd)

/-- Leads a stream as a redirection says; says whether that was possible. -/
def redirect : Nat → Redirect → Run Bool
  | 0, _ => do
    tooDeep
    return false
  | n + 1, r => do
    let lead (fd : Nat) (o : Option Outlet) : Run Bool := do
      match o with
      | some o =>
        leadStream fd o
        return true
      | none => return false
    match r with
    | .write fd append target => lead fd (← openForWriting append (← expandText n target))
    | .read fd target => lead fd (← openForReading (← expandText n target))
    | .copy fd source =>
      let text ← expandText n source
      if text = "-" then lead fd (some .nowhere)
      else
        match text.toNat? with
        | some other => lead fd (some ((← Run.shell).streams.outlet other))
        | none => return false
    | .text fd body =>
      let text ← expandText n body
      let now ← Run.clock
      lead fd (some (← Run.work (Work.newSource ⟨[(now, Text.toBytes text)], some now⟩)))

def redirectAll : Nat → List Redirect → Run Bool
  | 0, _ => do
    tooDeep
    return false
  | _, [] => return true
  | n + 1, r :: rs => do
    if ← redirect n r then redirectAll n rs else return false

/-- Runs a command in a process of its own, which has a copy of all that the shell has; returns how
that process ends. -/
def forked : Nat → Command → Run Fate
  | 0, _ => do
    tooDeep
    return .never
  | n + 1, c => do
    let outer ← Run.shell
    let pid ← Run.work Work.newPid
    Run.changeShell fun s => { s with
      pid := pid, traps := [], conditions := 0, loops := 0, isLast := false }
    execute n c
    leave n
    let fate := (← Run.shell).fate
    Run.changeShell fun _ => outer
    return fate

def leave : Nat → Run Unit
  | 0 => tooDeep
  | n + 1 => do
    let s ← Run.shell
    match s.traps.lookup "EXIT", s.fate with
    | some action, .exited code =>
      Run.changeShell fun s => { s with flow := .on, traps := [], code := code }
      executeText n action
      if (← Run.isOn) then Run.setFlow (.ended (.exited code))
    | _, _ => return

def executeText : Nat → String → Run Unit
  | 0, _ => tooDeep
  | n + 1, text => do
    let (commands, stopped) := read text
    executeAll n commands
    match stopped with
    | some m =>
      if ← Run.isOn then
        Run.changeShell fun s => { s with line := m.line }
        Run.giveUp ("Syntax error: " ++ m.obstacle.message)
    | none => return

/-- Runs an image in the process of the shell's streams; returns how it ends. -/
def runImage : Nat → Nat → Image → Run Fate
  | 0, _, _ => do
    tooDeep
    return .never
  | n + 1, pid, image => do
    if image.program = "sh" then
      let outer ← Run.shell
      let options := image.args.takeWhile fun a => a.startsWith "-" && a ≠ "-"
      let rest := image.args.drop options.length
      let isText := options.any fun a => a.toList.contains 'c'
      let begin (name : String) (args : List String) : Run Unit :=
        Run.changeShell fun s => {
          Interpreter.start name args s.seen s.streams s.here pid outer.pid with
          stopsOnFailure := options.any fun a => a.toList.contains 'e'
          insistsOnValues := options.any fun a => a.toList.contains 'u'
          showsCommands := options.any fun a => a.toList.contains 'x' }
      match rest with
      | text :: more =>
        if isText then
          begin (more.head?.getD image.calledAs) more.tail
          executeText n text
        else
          begin text more
          match (← Run.tree).read ⟨text⟩ with
          | .ok bytes => executeText n (Text.ofBytesLossy bytes)
          | .error _ =>
            Run.changeShell fun s => { s with name := image.calledAs, line := 0 }
            Run.giveUp ("cannot open " ++ text ++ ": No such file")
      | [] =>
        begin image.calledAs []
        let source ← Run.work (Work.takeInput (outer.streams.outlet 0))
        executeText n (Text.ofBytesLossy source.bytes)
      leave n
      let fate := (← Run.shell).fate
      Run.changeShell fun _ => outer
      return fate
    else if image.program = "env" then
      let words := image.args.dropWhile fun a => a.toList.contains '='
      let outer ← Run.shell
      (image.args.take (image.args.length - words.length)).forM fun a => do
        match a.splitOn "=" with
        | name :: value =>
          Run.setVariable name (String.intercalate "=" value)
          Run.changeShell fun s => { s with exported := name :: s.exported }
        | [] => return
      let fate ← match words with
        | [] => do
          Run.write 1 (Text.toBytes (String.join ((← Run.shell).seen.map fun v =>
            v.1 ++ "=" ++ v.2 ++ "\n")))
          pure (Fate.exited 0)
        | name :: args => do
          match Machine.imageOf (← Run.tree) Machine.usualSearchPath name args with
          | .ok next => runImage n pid next
          | .error _ =>
            Run.write 2 (Text.toBytes ("env: '" ++ name ++ "': No such file or directory\n"))
            pure (.exited 127)
      Run.changeShell fun _ => outer
      return fate
    else
      let c := { (← Run.circumstances) with pid := pid }
      match Machine.utility? image.program c image.args with
      | some x => Run.work x
      | none => return .exited 127

/-- Runs a program under a name, in place of the shell or in a process of its own; `complaint` is what
complaints begin with. -/
def runProgram : Nat → Bool → String → String → List String → Run Unit
  | 0, _, _, _, _ => tooDeep
  | n + 1, inPlace, complaint, name, args => do
    let searchPath := (← Run.valueOf? "PATH").getD Machine.usualSearchPath
    match asScript (← Run.tree) name args (Machine.imageOf (← Run.tree) searchPath name args) with
    | .ok image =>
      let pid ← if inPlace then pure (← Run.shell).pid else Run.work Work.newPid
      let fate ← runImage n pid image
      if inPlace then Run.setFlow (.ended fate) else Run.note fate
    | .error fault =>
      let (text, code) : String × Nat := match fault with
        | .permissionDenied => ("Permission denied", 126)
        | .execFormat => ("Exec format error", 126)
        | _ => ("not found", 127)
      Run.complain (complaint ++ name ++ ": " ++ text)
      Run.setCode code
      if inPlace then Run.setFlow (.ended (.exited code))

def runNamed : Nat → String → List String → Run Unit
  | 0, _, _ => tooDeep
  | n + 1, name, args => do
    match (← Run.shell).functions.lookup name with
    | some body =>
      let outer ← Run.shell
      Run.changeShell fun s => { s with args := args, loops := 0, outerVars := some [] }
      execute n body
      let changed := (← Run.shell).outerVars.getD []
      changed.forM fun (name, value) => Run.restore name value
      Run.changeShell fun s => { s with
        args := outer.args
        loops := outer.loops
        outerVars := outer.outerVars
        flow := if s.flow == .returning then .on else s.flow }
    | none =>
      match Builtin.table.lookup name with
      | some act => act args
      | none =>
        match name, args with
        | "exec", [] => Run.setCode 0
        | "exec", program :: rest => runProgram n true "exec: " program rest
        | "eval", _ => executeText n (String.intercalate " " args)
        | "command", "-v" :: program :: _ =>
          if Builtin.isBuiltin program || ((← Run.shell).functions.lookup program).isSome then
            Run.write 1 (Text.toBytes (program ++ "\n"))
            Run.setCode 0
          else match Machine.searchFor (← Run.tree) Machine.usualSearchPath program with
          | some path =>
            Run.write 1 (Text.toBytes (path.text ++ "\n"))
            Run.setCode 0
          | none => Run.setCode 127
        | "command", program :: rest => runNamed n program rest
        | "type", program :: _ =>
          let isFunction := ((← Run.shell).functions.lookup program).isSome
          let path := Machine.searchFor (← Run.tree) Machine.usualSearchPath program
          let said := if isFunction then program ++ " is a shell function"
            else if Builtin.isSpecial program then program ++ " is a special shell builtin"
            else if Builtin.isBuiltin program then program ++ " is a shell builtin"
            else match path with
              | some path => program ++ " is " ++ path.text
              | none => program ++ ": not found"
          Run.write 1 (Text.toBytes (said ++ "\n"))
          Run.setCode (if isFunction || Builtin.isBuiltin program || path.isSome then 0 else 127)
        | ".", file :: _ =>
          match (← Run.tree).read ⟨file⟩ with
          | .ok bytes =>
            executeText n (Text.ofBytesLossy bytes)
            Run.changeShell fun s => { s with flow := if s.flow == .returning then .on else s.flow }
          | .error _ =>
            Run.giveUp (".: cannot open " ++ file ++ ": No such file")
        | _, _ => runProgram n (← Run.shell).isLast "" name args

def assignAll : Nat → List (String × Word) → Run Unit
  | 0, _ => tooDeep
  | _, [] => return
  | n + 1, (name, w) :: rest => do
    Run.setVariable name (← expandText n w)
    assignAll n rest

def execute : Nat → Command → Run Unit
  | 0, _ => tooDeep
  | n + 1, c => do
    match c with
    | .sequence cs => executeAll n cs
    | .simple line assignments words redirects =>
      Run.count
      receiveSent
      if ← Run.isOn then
        Run.changeShell fun s => { s with line := line }
        let outer ← Run.shell
        let fields ← expandWords n words
        if ← Run.isOn then
          if ← redirectAll n redirects then
            match fields with
            | [] =>
              if words.isEmpty then Run.setCode 0
              assignAll n assignments
              showCommand assignments []
            | name :: args =>
              assignAll n assignments
              Run.changeShell fun s => { s with exported := assignments.map Prod.fst ++ s.exported }
              showCommand assignments fields
              if (← Run.isOn) then runNamed n name args
              if !Builtin.isSpecial name then
                assignments.forM fun (name, _) => Run.restore name (outer.vars.lookup name)
                Run.changeShell fun s => { s with
                  exported := assignments.foldl (fun names a => names.erase a.1) s.exported }
            if !(fields == ["exec"]) then
              Run.changeShell fun s => { s with streams := outer.streams }
          else
            Run.changeShell fun s => { s with streams := outer.streams }
            Run.setCode 2
          actOnSignals n
          stopOnFailure
    | .both a b =>
      isTested (execute n a)
      if (← Run.isOn) && (← Run.shell).code = 0 then execute n b
    | .either a b =>
      isTested (execute n a)
      if (← Run.isOn) && (← Run.shell).code ≠ 0 then execute n b
    | .inverted a =>
      isTested (execute n a)
      if ← Run.isOn then Run.setCode (if (← Run.shell).code = 0 then 1 else 0)
    | .pipeline stages =>
      let start ← Run.clock
      let finish ← runStages n start start (← Run.shell).streams stages
      if ← Run.isOn then
        Run.setClock finish
        stopOnFailure
    | .background a => runBackground n a
    | .subshell a =>
      let fate ← forked n a
      Run.note fate
      stopOnFailure
    | .choice condition consequence alternative =>
      isTested (execute n condition)
      if ← Run.isOn then
        if (← Run.shell).code = 0 then execute n consequence
        else
          match alternative with
          | some a => execute n a
          | none => Run.setCode 0
    | .loop whileTrue condition body => inLoop (repeatLoop n whileTrue condition body 0)
    | .each name words body =>
      let values ← match words with
        | some ws => expandWords n ws
        | none => pure (← Run.shell).args
      Run.setCode 0
      inLoop (repeatEach n name values body)
    | .select w arms =>
      let text ← expandText n w
      Run.setCode 0
      if ← Run.isOn then selectArm n text arms
    | .function name body =>
      Run.changeShell fun s => { s with functions := (name, body) :: s.functions, code := 0 }
    | .redirected a redirects =>
      let outer := (← Run.shell).streams
      if ← redirectAll n redirects then execute n a else Run.setCode 2
      Run.changeShell fun s => { s with streams := outer }

def actOnSignals : Nat → Run Unit
  | 0 => tooDeep
  | n + 1 => do
    let s ← Run.shell
    match s.pending with
    | [] => return
    | name :: rest =>
      Run.changeShell fun s => { s with pending := rest }
      if s.flow == .on then
        executeText n ((s.traps.lookup name).getD "")
        if ← Run.isOn then Run.setCode s.code
      actOnSignals n

def executeAll : Nat → List Command → Run Unit
  | 0, _ => tooDeep
  | _, [] => return
  | n + 1, c :: cs => do
    execute n c
    if ← Run.isOn then executeAll n cs

def repeatLoop : Nat → Bool → Command → Command → Nat → Run Unit
  | 0, _, _, _, _ => Run.setFlow (.ended .never)
  | n + 1, whileTrue, condition, body, code => do
    isTested (execute n condition)
    if ← Run.isOn then
      if ((← Run.shell).code == 0) == whileTrue then
        execute n body
        let code := (← Run.shell).code
        if ← afterRound then repeatLoop n whileTrue condition body code
      else Run.setCode code
    else
      let _ ← afterRound

def repeatEach : Nat → String → List String → Command → Run Unit
  | 0, _, _, _ => tooDeep
  | _, _, [], _ => return
  | n + 1, name, v :: vs, body => do
    Run.setVariable name v
    execute n body
    if ← afterRound then repeatEach n name vs body

def selectArm : Nat → String → List (List Word × Command) → Run Unit
  | 0, _, _ => tooDeep
  | _, _, [] => return
  | n + 1, text, (patterns, body) :: rest => do
    if ← anyFits n text patterns then execute n body else selectArm n text rest

def anyFits : Nat → String → List Word → Run Bool
  | 0, _, _ => do
    tooDeep
    return false
  | _, _, [] => return false
  | n + 1, text, w :: ws => do
    let pattern := glyphsOf (← expandParts n false w)
    if fits pattern text.toList then return true else anyFits n text ws

/-- Runs the stages of a pipeline, all from the same moment; returns the moment at which the last of
them is over. -/
def runStages : Nat → Nat → Nat → Machine.Streams → List Command → Run Nat
  | 0, _, finish, _, _ => do
    tooDeep
    return finish
  | _, _, finish, _, [] => return finish
  | n + 1, start, finish, outer, [last] => do
    Run.setClock start
    let fate ← forked n last
    let ended ← Run.clock
    Run.changeShell fun s => { s with streams := outer }
    Run.note fate
    return max finish ended
  | n + 1, start, finish, outer, stage :: stages => do
    Run.setClock start
    let c ← Run.work Work.newChannel
    let input := (← Run.shell).streams.outlet 0
    Run.changeShell fun s => { s with streams := outer }
    leadStream 0 input
    leadStream 1 (.channel c)
    let fate ← forked n stage
    let ended ← Run.clock
    let chunks ← Run.work (Work.collect c)
    let closes := if fate = .never then none else some ended
    let source ← Run.work (Work.newSource ⟨chunks, closes⟩)
    Run.changeShell fun s => { s with streams := outer }
    leadStream 0 source
    runStages n start (if fate = .never then finish else max finish ended) outer stages

/-- Leaves a command to itself, as a process without input. -/
def runBackground : Nat → Command → Run Unit
  | 0, _ => tooDeep
  | n + 1, c => do
    let start ← Run.clock
    let outer ← Run.shell
    leadStream 0 .nowhere
    let pid ← Run.work Work.newPid
    Run.changeShell fun s => { s with pid := pid, traps := [], conditions := 0 }
    match c with
    | .redirected a redirects =>
      if ← redirectAll n redirects then execute n a else Run.setCode 2
    | a => execute n a
    leave n
    let inner ← Run.shell
    let finish ← Run.clock
    let process : Machine.Process := ⟨pid, inner.streams.channels, finish, inner.fate⟩
    Run.changeShell fun _ => { outer with lastJob := some pid, code := 0 }
    Run.setClock start
    modify fun s => { s with world := { s.world with processes := s.world.processes ++ [process] } }

end

/-- How deep commands may lie within one another, rounds of loops included. -/
def depthLimit : Nat := 500000

/-- Runs an image as a new process in a world; returns how it ends, and the state of things then. -/
def runProcess (streams : Machine.Streams) (here : Files.Place) (image : Image)
    (w : Machine.World) : Fate × Machine.World :=
  let pid := w.nextPid
  let shell := Interpreter.start "" [] usualVariables streams here Machine.watcherPid 1
  let start : State := ⟨shell, { w with nextPid := pid + 1 }⟩
  let (fate, s) := (runImage depthLimit pid image).run start
  endedBySignal pid fate s.world
where
  /-- A process that was sent a signal while it did not look has been ended then. -/
  endedBySignal (pid : Nat) (fate : Fate) (w : Machine.World) : Fate × Machine.World :=
    let fatal := w.signals.filter fun g =>
      g.target = pid && (Machine.Fate.ofSignal? g.signal).isSome &&
        (fate = .never || g.time ≤ w.clock)
    match (fatal.mergeSort fun a b => decide (a.time ≤ b.time)).head? with
    | some g =>
      ((Machine.Fate.ofSignal? g.signal).getD fate,
        { w with
          clock := g.time
          written := w.written.filter fun e => e.writer ≠ pid || e.time ≤ g.time })
    | none => (fate, w)

end SprayWatch.Shell
