import SchemaSheets.Text.Lowercase
import SchemaSheets.Url.Label
import SchemaSheets.Url.Punycode

/-!
# International host names

A host name may hold characters outside ASCII.  On the wire each label with
such characters is written in ASCII behind the mark `xn--`.
-/

namespace SchemaSheets.Url.Hostname

def isDot (c : Char) : Bool := c == '.' || c == '。' || c == '．' || c == '｡'

def mark : List Char := ['x', 'n', '-', '-']

def unmarked? (label : List Char) : Option (List Char) :=
  if mark.isPrefixOf label then
    let written := label.drop mark.length
    if written.isEmpty || written.getLast? == some '-' then none else Punycode.decode? written
  else some label

def maxLabel : Nat := 63

def maxHost : Nat := 253

def asciiLabel? (label : List Char) : Option (List Char) :=
  let isAscii := label.all (·.toNat < 0x80)
  let meant := if isAscii then unmarked? label else some label
  let written := if isAscii then label else mark ++ Punycode.encode label
  if meant.any Label.isValid && written.length ≤ maxLabel then some written else none

def ascii? (host : List Char) : Option (List Char) := do
  let labels := host.splitOnP isDot
  let (labels, tail) := match labels.getLast? with
    | some [] => (labels.dropLast, ['.'])
    | _ => (labels, [])
  let written := ['.'].intercalate (← labels.mapM asciiLabel?)
  if labels.isEmpty || maxHost < written.length then none else return written ++ tail

end SchemaSheets.Url.Hostname
