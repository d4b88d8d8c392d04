import SchemaSheets.Text.Digits

/-!
# Suggestions

Names that somebody may have meant instead of an unknown one.  Two names are
close if few edits turn one into the other: a character added, left out or
replaced, or two neighbours exchanged.  A change of case alone is one edit.
-/

namespace SchemaSheets.Schema.Suggestion

/-! ### Distance -/

/-- The cells of a row of edit counts, from left to right.  `last` is the
previous character of `a`, `upper` and `above` are the rows two and one before,
each from the column before the current one on, and `left` is the cell to the
left. -/
def rowFrom (a : Char) (last : Option Char) (before : Option Char) (corner : Option Nat)
    (upper above : List Nat) (left : Nat) : List Char → List Nat
  | [] => []
  | b :: bs =>
    match above with
    | diagonal :: up :: above =>
      let cost := if a == b then 0 else 1
      let plain := min (min (up + 1) (left + 1)) (diagonal + cost)
      let cell := match last, before, corner with
        | some l, some p, some c => if a == p && l == b then min plain (c + 1) else plain
        | _, _, _ => plain
      cell :: rowFrom a last (some b) upper.head? upper.tail (up :: above) cell bs
    | _ => []

def rows (b : List Char) : Option Char → List Nat → List Nat → Nat → List Char → List Nat
  | _, _, above, _, [] => above
  | last, upper, above, i, a :: as =>
    let row := (i + 1) :: rowFrom a last none none upper above (i + 1) b
    rows b (some a) above row (i + 1) as

def edits (a b : List Char) : Nat :=
  ((rows b none [] (List.range (b.length + 1)) 0 a).getLast?).getD 0

def distance (input option : String) : Nat :=
  if input == option then 0
  else
    let a := option.toLower
    let b := input.toLower
    if a == b then 1 else edits a.toList b.toList

/-! ### Order -/

/-- A number at the front counts as a whole; `none` marks the end. -/
def firstChunk : List Char → Option ((Nat ⊕ Char) × List Char)
  | [] => none
  | c :: cs =>
    if Text.isDigit c then
      let digits := (c :: cs).takeWhile Text.isDigit
      some (.inl (Text.decimalValue digits), cs.dropWhile Text.isDigit)
    else some (.inr c, cs)

def naturalLe : Nat → List Char → List Char → Bool
  | 0, _, _ => true
  | fuel + 1, a, b =>
    match firstChunk a, firstChunk b with
    | none, _ => true
    | some _, none => false
    | some (.inl m, a), some (.inl n, b) => m < n || (m == n && naturalLe fuel a b)
    | some (.inr c, a), some (.inr d, b) => c < d || (c == d && naturalLe fuel a b)
    | some (.inl _, _), some (.inr _, _) => true
    | some (.inr _, _), some (.inl _, _) => false

/-! ### Suggestions -/

def close (input : String) (options : List String) : List String :=
  let limit := input.length * 2 / 5 + 1
  let near := (options.eraseDups.map fun o => (distance input o, o)).filter (·.1 ≤ limit)
  (near.mergeSort fun a b =>
    a.1 < b.1 || (a.1 == b.1 && naturalLe (a.2.length + 1) a.2.toList b.2.toList)).map (·.2)

def oneOf : List String → String
  | [] => ""
  | [a] => a
  | [a, b] => a ++ " or " ++ b
  | a :: rest => a ++ ", " ++ more rest
where
  /-- The choices after the first of three or more. -/
  more : List String → String
    | [] => ""
    | [a] => "or " ++ a
    | a :: rest => a ++ ", " ++ more rest

/-- The question that names at most five close options; `what` stands before them. -/
def question (what : String) (input : String) (options : List String) : String :=
  match (close input options).take 5 with
  | [] => ""
  | names =>
    " Did you mean " ++ what ++ oneOf (names.map fun n => "'" ++ n ++ "'") ++ "?"

end SchemaSheets.Schema.Suggestion
