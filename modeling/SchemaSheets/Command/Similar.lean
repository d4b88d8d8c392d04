/-!
# Similar words

Two words are similar if blocks that they have in common make up most of them.
The longest common block is taken first, and then those to its left and right.
-/

namespace SchemaSheets.Similar

def commonFront : List Char → List Char → Nat
  | a :: as, b :: bs => if a = b then commonFront as bs + 1 else 0
  | _, _ => 0

/-- A block that two words have in common: where it starts in each, and its length. -/
structure Block where
  left : Nat
  right : Nat
  length : Nat
  deriving DecidableEq, Repr

def longest (a b : List Char) : Block :=
  let blocks := (List.range a.length).flatMap fun i => (List.range b.length).map fun j =>
    (⟨i, j, commonFront (a.drop i) (b.drop j)⟩ : Block)
  blocks.foldl (fun best x => if best.length < x.length then x else best) ⟨0, 0, 0⟩

def common : Nat → List Char → List Char → Nat
  | 0, _, _ => 0
  | fuel + 1, a, b =>
    let block := longest a b
    if block.length = 0 then 0
    else
      block.length + common fuel (a.take block.left) (b.take block.right) +
        common fuel (a.drop (block.left + block.length)) (b.drop (block.right + block.length))

/-- A word with the number of characters that it has in common with another. -/
structure Match where
  word : String
  common : Nat
  /-- the number of characters of both words -/
  size : Nat
  deriving DecidableEq, Repr

def Match.isClose (m : Match) : Bool := 3 * m.size ≤ 10 * m.common

/-- One match comes before another: it is closer, or as close and later in the alphabet. -/
def Match.before (m n : Match) : Bool :=
  let left := m.common * n.size
  let right := n.common * m.size
  right < left || (left == right && n.word ≤ m.word)

def closest (word : String) (words : List String) : List String :=
  let found : List Match := words.map fun w =>
    ⟨w, common (w.length + 1) w.toList word.toList, w.length + word.length⟩
  let best := ((found.filter Match.isClose).mergeSort Match.before).take 3
  (best.map (·.word)).mergeSort (· ≤ ·)

example : closest "--outptu" ["--name", "--output", "--format"] = ["--output"] := by decide +kernel

end SchemaSheets.Similar
