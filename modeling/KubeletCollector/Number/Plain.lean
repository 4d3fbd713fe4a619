import KubeletCollector.Text.Blank
import KubeletCollector.Text.Digit

/-!
How number readers see their text. ASCII characters are taken as they are. Of the others a decimal digit
stands for the ASCII digit of its value and a blank for a space. Then the ASCII blanks around the number
fall away.
-/

namespace KubeletCollector.Number

open Text

/-- The ASCII stand-in of a character: a digit for a digit, a space for a blank. -/
def standIn (c : Char) : Char :=
  if isAscii c then c
  else match digitValue? c with
    | some d => asciiDigit d
    | none => if isBlank c then ' ' else c

def plain (cs : List Char) : List Char :=
  trim isAsciiBlank (cs.map standIn)

/-- The sign in front of a number, `true` for minus, and what follows it. -/
def sign : List Char → Bool × List Char
  | '-' :: cs => (true, cs)
  | '+' :: cs => (false, cs)
  | cs => (false, cs)

/-- The number whose decimal digits are `ds`, most significant first. -/
def ofDigits (ds : List Nat) : Nat :=
  ds.foldl (fun n d => 10 * n + d) 0

end KubeletCollector.Number
