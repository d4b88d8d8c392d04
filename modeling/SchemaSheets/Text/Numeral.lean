import SchemaSheets.Text.Blank
import SchemaSheets.Text.Digits

/-!
# Numerals of all scripts

Many scripts have ten digits of their own.  A number may be written with those
of any script, and blanks of any kind may stand around it; `numeral` writes it
with the digits and the blank of ASCII.
-/

namespace SchemaSheets.Text

/-- The code points of the digit zero in all scripts; the other nine digits follow each. -/
def zeros : List Nat :=
  [0x30, 0x660, 0x6F0, 0x7C0, 0x966, 0x9E6, 0xA66, 0xAE6, 0xB66, 0xBE6, 0xC66, 0xCE6, 0xD66, 0xDE6,
   0xE50, 0xED0, 0xF20, 0x1040, 0x1090, 0x17E0, 0x1810, 0x1946, 0x19D0, 0x1A80, 0x1A90, 0x1B50,
   0x1BB0, 0x1C40, 0x1C50, 0xA620, 0xA8D0, 0xA900, 0xA9D0, 0xA9F0, 0xAA50, 0xABF0, 0xFF10, 0x104A0,
   0x10D30, 0x11066, 0x110F0, 0x11136, 0x111D0, 0x112F0, 0x11450, 0x114D0, 0x11650, 0x116C0,
   0x11730, 0x118E0, 0x11950, 0x11C50, 0x11D50, 0x11DA0, 0x16A60, 0x16AC0, 0x16B50, 0x1D7CE,
   0x1D7D8, 0x1D7E2, 0x1D7EC, 0x1D7F6, 0x1E140, 0x1E2F0, 0x1E950, 0x1FBF0]

def digitValue? (c : Char) : Option Nat :=
  (zeros.find? fun z => z ≤ c.toNat && c.toNat < z + 10).map (c.toNat - ·)

/-- A character of a number in ASCII; a blank or digit of ASCII stays as it is. -/
def numeralChar (c : Char) : Char :=
  if c.toNat < 0x7F then c
  else if isBlank c then ' '
  else
    match digitValue? c with
    | some d => Char.ofNat (48 + d)
    | none => '?'

def isNumeralBlank (c : Char) : Bool := c == ' ' || ('\t' ≤ c && c ≤ '\r')

def numeral (cs : List Char) : List Char :=
  trimBack isNumeralBlank (trimFront isNumeralBlank (cs.map numeralChar))

example : numeral "\u00A0٤٢\n".toList = "42".toList := by decide +kernel

end SchemaSheets.Text
