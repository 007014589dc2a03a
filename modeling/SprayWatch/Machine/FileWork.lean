import SprayWatch.Machine.Circumstances
import SprayWatch.Machine.Formatting
/-!
# Work on files

The programs that make, move, remove and list files, and those that take paths apart.
-/

namespace SprayWatch.Machine

open Files (Tree)

def touch (c : Circumstances) : List String → Work Fate
  | [] => return .exited 0
  | name :: rest => do
    if !(← c.tree).isThere ⟨name⟩ then
      c.changeFiles fun t => t.add ⟨name⟩ (.file 0o644 [])
    touch c rest

def mkdir (c : Circumstances) (args : List String) : Work Fate := do
  let parents := args.contains "-p"
  go parents 0 (args.filter fun a => a ≠ "-p")
where
  go (parents : Bool) (code : Nat) : List String → Work Fate
    | [] => return .exited code
    | name :: rest => do
      if (← c.tree).isThere ⟨name⟩ then
        if parents then go parents code rest
        else
          c.complain ("mkdir: cannot create directory '" ++ name ++ "': File exists")
          go parents 1 rest
      else
        c.changeFiles fun t => t.add ⟨name⟩ .dir
        go parents code rest

def rm (c : Circumstances) (args : List String) : Work Fate := do
  let flags := args.takeWhile fun a => a.startsWith "-"
  let has (f : Char) : Bool := flags.any fun a => a.toList.contains f
  go (has 'f') (has 'r' || has 'R') 0 (args.drop flags.length)
where
  go (quiet deep : Bool) (code : Nat) : List String → Work Fate
    | [] => return .exited code
    | name :: rest => do
      let t ← c.tree
      match t.placeOf false ⟨name⟩ with
      | .error fault =>
        if quiet then go quiet deep code rest
        else
          c.complain ("rm: cannot remove '" ++ name ++ "': " ++
            (fault.message.splitOn " (").headD "")
          go quiet deep 1 rest
      | .ok place =>
        if (t.nodeAt? place).any Files.Node.isDir && !deep then
          c.complain ("rm: cannot remove '" ++ name ++ "': Is a directory")
          go quiet deep 1 rest
        else
          c.changeFiles fun t => t.cut place
          go quiet deep code rest

def mv (c : Circumstances) (args : List String) : Work Fate := do
  match args.filter fun a => !a.startsWith "-" with
  | [source, target] =>
    match (← c.tree).find ⟨source⟩ with
    | .ok node =>
      c.changeFiles fun t =>
        let t := match t.placeOf false ⟨source⟩ with
          | .ok place => t.cut place
          | .error _ => t
        t.add ⟨target⟩ node
      return .exited 0
    | .error _ =>
      c.complain ("mv: cannot stat '" ++ source ++ "': No such file or directory")
      return .exited 1
  | _ => return .exited 1

def ls (c : Circumstances) (args : List String) : Work Fate := do
  let name := ((args.filter fun a => !a.startsWith "-").head?).getD "."
  let t ← c.tree
  match t.placeOf true ⟨name⟩ with
  | .ok place =>
    match t.nodeAt? place with
    | some .dir =>
      let names := (t.entries place).filter fun n => !n.startsWith "."
      c.out (Text.toBytes (String.join (names.map fun n => n ++ "\n")))
    | _ => c.out (Text.toBytes (name ++ "\n"))
    return .exited 0
  | .error _ =>
    c.complain ("ls: cannot access '" ++ name ++ "': No such file or directory")
    return .exited 2

/-- Where something goes that is put under a name: into the directory that has it, if one has. -/
def targetOf (t : Tree) (source target : String) : Path :=
  match t.find ⟨target⟩ with
  | .ok .dir => (⟨target⟩ : Path).entry (Tree.lastName ⟨source⟩)
  | _ => ⟨target⟩

def cp (c : Circumstances) (args : List String) : Work Fate := do
  match args.filter fun a => !a.startsWith "-" with
  | [source, target] =>
    match (← c.tree).find ⟨source⟩ with
    | .ok (.file mode bytes) =>
      c.changeFiles fun t => t.add (targetOf t source target) (.file mode bytes)
      return .exited 0
    | .ok _ =>
      c.complain ("cp: -r not specified; omitting directory '" ++ source ++ "'")
      return .exited 1
    | .error _ =>
      c.complain ("cp: cannot stat '" ++ source ++ "': No such file or directory")
      return .exited 1
  | _ => return .exited 1

/-- The mode that a change makes of another: octal digits, or letters with a plus or minus sign. -/
def modeAfter (change : String) (old : Nat) : Nat :=
  let cs := change.toList
  if cs.all isOctal then octalValue cs
  else
    let who := cs.takeWhile fun ch => ['u', 'g', 'o', 'a'].contains ch
    let has (ch : Char) : Bool := who.isEmpty || who.contains 'a' || who.contains ch
    let classes := ([('u', 64), ('g', 8), ('o', 1)].filter fun e => has e.1).foldl (· + ·.2) 0
    let bit (ch : Char) : Nat := ([('r', 4), ('w', 2), ('x', 1)].lookup ch).getD 0
    match cs.drop who.length with
    | sign :: what =>
      let bits := classes * (what.foldl (fun n ch => n ||| bit ch) 0)
      if sign == '+' then old ||| bits else if sign == '-' then old - (old &&& bits) else old
    | [] => old

def chmod (c : Circumstances) : List String → Work Fate
  | change :: names => do
    names.forM fun name =>
      c.changeFiles fun t =>
        match t.find ⟨name⟩ with
        | .ok (.file mode _) => t.chmod ⟨name⟩ (modeAfter change mode)
        | _ => t
    return .exited 0
  | [] => return .exited 1

def rmdir (c : Circumstances) : List String → Work Fate
  | [] => return .exited 0
  | name :: rest => do
    let t ← c.tree
    match t.placeOf true ⟨name⟩ with
    | .ok place =>
      if (t.entries place).isEmpty then
        c.changeFiles fun t => t.cut place
        rmdir c rest
      else
        c.complain ("rmdir: failed to remove '" ++ name ++ "': Directory not empty")
        return .exited 1
    | .error _ =>
      c.complain ("rmdir: failed to remove '" ++ name ++ "': No such file or directory")
      return .exited 1

/-! ## Programs that take paths apart -/

def withoutEndSlashes (s : String) : List Char :=
  let cs := (s.toList.reverse.dropWhile (· == '/')).reverse
  if cs.isEmpty && !s.isEmpty then ['/'] else cs

def basename (c : Circumstances) (args : List String) : Work Fate := do
  let cs := withoutEndSlashes (args.headD "")
  let name := if cs = ['/'] then cs else (cs.reverse.takeWhile (· != '/')).reverse
  let suffix := (args.drop 1).headD "" |>.toList
  let cutsOff := suffix.isSuffixOf name && suffix ≠ name
  let name := if cutsOff then name.take (name.length - suffix.length) else name
  c.out (Text.toBytes (String.ofList name ++ "\n"))
  return .exited 0

def dirname (c : Circumstances) (args : List String) : Work Fate := do
  let cs := withoutEndSlashes (args.headD "")
  let front := (cs.reverse.dropWhile (· != '/')).reverse
  let dir := if front.isEmpty then "." else String.ofList (withoutEndSlashes (String.ofList front))
  c.out (Text.toBytes (dir ++ "\n"))
  return .exited 0

end SprayWatch.Machine
