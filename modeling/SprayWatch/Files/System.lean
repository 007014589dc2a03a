import SprayWatch.Files.Tree
/-!
# System files

The files that are there before anybody adds any: the programs of the machine, a few of its data
files, and a directory for what does not last.  A program file begins with a mark that no text has,
followed by the program's name.
-/

namespace SprayWatch.Files

def programMark : List UInt8 := [0x7f, 69, 76, 70]

def programFile (name : String) : List UInt8 := programMark ++ Text.toBytes name

def programOf? (bytes : List UInt8) : Option String :=
  if programMark.isPrefixOf bytes then Text.ofBytes? (bytes.drop programMark.length) else none

def programs : List String :=
  ["[", "basename", "cat", "chmod", "cp", "cut", "dirname", "echo", "env", "expr", "false", "head", "ls",
    "mkdir", "mv", "printf", "pwd", "rm", "rmdir", "seq", "sh", "sleep", "sort", "tail", "tee", "test",
    "touch", "tr", "true", "wc", "yes"]

def systemTree : Tree :=
  let bare : Tree :=
    ⟨[(["usr"], .dir), (["usr", "bin"], .dir), (["bin"], .link "usr/bin"), (["etc"], .dir),
      (["etc", "passwd"], .file 0o644 (Text.toBytes "root:x:0:0:root:/root:/bin/bash\n")),
      (["etc", "hosts"], .file 0o644 (Text.toBytes "127.0.0.1\tlocalhost\n")),
      (["dev"], .dir), (["dev", "null"], .file 0o666 []), (["tmp"], .dir), (["root"], .dir),
      (["var"], .dir), (["home"], .dir), (["proc"], .dir)], []⟩
  programs.foldl (fun t n => t.put ["usr", "bin", n] (.file 0o755 (programFile n))) bare

end SprayWatch.Files
