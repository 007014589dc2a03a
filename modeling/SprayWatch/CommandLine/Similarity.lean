/-!
# Similarity of words

How much two words are alike, as a number between zero and one.  Characters count as common when
they stand at almost the same place in both words; the more of them there are, the fewer of them are
out of order, and the longer the common beginning, the more alike the words are.
-/

namespace SprayWatch.CommandLine

/-- What comparing the characters so far has shown: which places of the other word are used up, how
many characters are common, how many are out of order, and the last place used. -/
structure Comparison where
  used : List Nat
  common : Nat
  crossed : Nat
  last : Nat

/-- Looks for a character of one word, at place `i`, near the same place of the other. -/
def Comparison.look (other : List Char) (reach : Nat) (c : Comparison) (i : Nat) (x : Char) :
    Comparison :=
  let near := (List.range other.length).filter fun j => i ≤ j + reach ∧ j ≤ i + reach
  match near.find? fun j => other[j]? = some x ∧ j ∉ c.used with
  | none => c
  | some j => ⟨j :: c.used, c.common + 1, if j < c.last then c.crossed + 1 else c.crossed, j⟩

/-- Compares all characters of a word from place `i` on with another word. -/
def Comparison.go (other : List Char) (reach : Nat) (c : Comparison) (i : Nat) :
    List Char → Comparison
  | [] => c
  | x :: xs => Comparison.go other reach (c.look other reach i x) (i + 1) xs

def overlap (a b : List Char) : Float :=
  if a.isEmpty && b.isEmpty then 1
  else if a.isEmpty || b.isEmpty then 0
  else if a.length = 1 ∧ b.length = 1 then (if a = b then 1 else 0)
  else
    let c := Comparison.go b (max a.length b.length / 2 - 1) ⟨[], 0, 0, 0⟩ 0 a
    if c.common = 0 then 0
    else
      let m := Float.ofNat c.common
      (1 / 3) * (m / Float.ofNat a.length + m / Float.ofNat b.length +
        (m - Float.ofNat c.crossed) / m)

/-- How many characters two words have in common at the beginning. -/
def commonStart : List Char → List Char → Nat
  | x :: xs, y :: ys => if x = y then commonStart xs ys + 1 else 0
  | _, _ => 0

def likeness (a b : List Char) : Float :=
  let o := overlap a b
  let l := o + 0.1 * Float.ofNat (commonStart a b) * (1 - o)
  if l ≤ 1 then l else 1

def isLike (a b : String) : Bool := likeness a.toList b.toList > 0.8

end SprayWatch.CommandLine
