/-!
# Paths

A path is a text with slashes.  Two texts are the same path when they have the same components:
repeated slashes, dots between slashes and a slash at the end do not count.
-/

namespace SprayWatch

/-- A path as it is written. -/
structure Path where
  text : String
  deriving Repr, DecidableEq

namespace Path

/-- One step of a path. -/
inductive Component where
  | root
  | current
  | parent
  | name (n : String)
  deriving Repr, DecidableEq

def isAbsolute (p : Path) : Bool := p.text.toList.head? = some '/'

/-- What stands between the slashes. -/
def names (p : Path) : List String := (p.text.toList.splitOn '/').map String.ofList

def steps (p : Path) : List Component :=
  p.names.filterMap fun n =>
    if n = "" ∨ n = "." then none
    else if n = ".." then some .parent
    else some (.name n)

/-- The components of a path; a dot counts only at the very beginning. -/
def components (p : Path) : List Component :=
  if p.isAbsolute then .root :: p.steps
  else if p.names.head? = some "." then .current :: p.steps
  else p.steps

def same (p q : Path) : Bool := p.components == q.components

def entry (p : Path) (n : String) : Path :=
  if p.text = "" ∨ p.text.toList.getLast? = some '/' then ⟨p.text ++ n⟩ else ⟨p.text ++ "/" ++ n⟩

end Path

end SprayWatch
