import SchemaSheets.Text.Numeral

/-!
# Integers in running text

An integer may have blanks around it, a sign, and single underscores between
its digits.
-/

namespace SchemaSheets.Text

def underscored? (started : Bool) (n : Nat) : List Char → Option Nat
  | [] => if started then some n else none
  | '_' :: c :: rest =>
    if started && isDigit c then underscored? true (n * 10 + (c.toNat - 48)) rest else none
  | c :: rest => if isDigit c then underscored? true (n * 10 + (c.toNat - 48)) rest else none

def integer? (cs : List Char) : Option Int :=
  match numeral cs with
  | '-' :: rest => (underscored? false 0 rest).map fun n => -(n : Int)
  | '+' :: rest => (underscored? false 0 rest).map fun n => (n : Int)
  | rest => (underscored? false 0 rest).map fun n => (n : Int)

end SchemaSheets.Text
