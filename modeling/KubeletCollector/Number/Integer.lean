import KubeletCollector.Number.Plain

/-!
Writing and reading an integer. It is read from blanks, a sign, and decimal digits with single
underscores between them. Digits beyond a limit are refused before their value is computed, and an
integer with more digits than that is not written either.
-/

namespace KubeletCollector.Number

open Text

inductive IntegerError where
  | malformed
  | tooManyDigits (count : Nat)
deriving DecidableEq, Repr

/-- More digits than this are refused. -/
def digitLimit : Nat := 4300

def digitCount (n : Int) : Nat :=
  (Nat.toDigits 10 n.natAbs).length

/-- The decimal text of an integer, if that has no more digits than can be read. -/
def writeInteger? (n : Int) : Option String :=
  if digitLimit < digitCount n then none else some (toString n)

/-- The digits that follow a digit, and what comes after them. An underscore belongs to the digits and
must stand before another one; where it does not, there is no number. -/
def moreDigits : List Char → Option (List Nat × List Char)
  | [] => some ([], [])
  | ['_'] => none
  | '_' :: c :: cs =>
    match asciiDigit? c with
    | some d => (moreDigits cs).map fun r => (d :: r.1, r.2)
    | none => none
  | c :: cs =>
    match asciiDigit? c with
    | some d => (moreDigits cs).map fun r => (d :: r.1, r.2)
    | none => some ([], c :: cs)

def digitRun : List Char → Option (List Nat × List Char)
  | [] => none
  | c :: cs =>
    match asciiDigit? c with
    | some d => (moreDigits cs).map fun r => (d :: r.1, r.2)
    | none => none

/-- The value of unsigned integer text; the limit is applied before a look at what follows the digits. -/
def readNatural (cs : List Char) : Except IntegerError Nat :=
  match digitRun cs with
  | none => .error .malformed
  | some (ds, rest) =>
    if digitLimit < ds.length then .error (.tooManyDigits ds.length)
    else if rest.isEmpty then .ok (ofDigits ds)
    else .error .malformed

def readInteger (cs : List Char) : Except IntegerError Int :=
  let (negative, digits) := sign (plain cs)
  (readNatural digits).map fun n => if negative then -(n : Int) else n

end KubeletCollector.Number
