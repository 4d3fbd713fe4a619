import KubeletCollector.Number.Plain

/-!
Reading and rounding 64-bit numbers. A decimal text stands for the nearest 64-bit number, ties going to
the even neighbour; besides, there are names for infinity and for the value that is no number.
-/

namespace KubeletCollector.Number

open Text

/-- Takes the underscores out. Each must stand between two digits. -/
def withoutUnderscores : (previous : Option Char) → List Char → Option (List Char)
  | _, [] => some []
  | previous, '_' :: cs =>
    match (previous.bind asciiDigit?), cs.head?.bind asciiDigit? with
    | some _, some _ => withoutUnderscores (some '_') cs
    | _, _ => none
  | _, c :: cs => (withoutUnderscores (some c) cs).map (c :: ·)

def leadingDigits : List Char → List Nat × List Char
  | [] => ([], [])
  | c :: cs =>
    match asciiDigit? c with
    | some d => let r := leadingDigits cs; (d :: r.1, r.2)
    | none => ([], c :: cs)

/-- An exponent part: nothing, or `e` with an optional sign and at least one digit. -/
def exponentPart : List Char → Option Int
  | [] => some 0
  | c :: cs =>
    if c = 'e' ∨ c = 'E' then
      let (negative, digits) := sign cs
      match leadingDigits digits with
      | (d :: ds, []) => some (if negative then -(ofDigits (d :: ds) : Int) else ofDigits (d :: ds))
      | _ => none
    else none

/-- The 64-bit number nearest to `m * 10 ^ scale`. Magnitudes far outside the range are settled by the
number of digits alone. -/
def nearest (m : Nat) (scale : Int) : Float :=
  if m = 0 then 0.0
  else
    let top : Int := (Nat.toDigits 10 m).length + scale
    if 310 < top then 1.0 / 0.0
    else if top < -330 then 0.0
    else Float.ofScientific m (scale < 0) scale.natAbs

/-- Digits with an optional point among them and an optional exponent. -/
def unsignedDecimal? (cs : List Char) : Option Float :=
  let (whole, rest) := leadingDigits cs
  let (part, rest) := match rest with
    | '.' :: rest => leadingDigits rest
    | rest => ([], rest)
  if whole.isEmpty && part.isEmpty then none
  else (exponentPart rest).map fun e => nearest (ofDigits (whole ++ part)) (e - part.length)

/-- A name for infinity or for no number, in any case of its letters. -/
def named? (cs : List Char) : Option Float :=
  let name := String.ofList (cs.map Char.toLower)
  if name = "inf" ∨ name = "infinity" then some (1.0 / 0.0)
  else if name = "nan" then some (0.0 / 0.0)
  else none

def readDecimal? (cs : List Char) : Option Float := do
  let text ← withoutUnderscores none (plain cs)
  let (negative, size) := sign text
  let x ← (named? size).orElse fun _ => unsignedDecimal? size
  return if negative then -x else x

/-- `n` over the `k`-th power of two rounded to an integer, a tie going to the even neighbour. -/
def shiftRightEven (n k : Nat) : Nat :=
  let unit := Nat.pow 2 k
  let q := n / unit
  let r := n % unit
  if 2 * r < unit then q
  else if unit < 2 * r then q + 1
  else if q % 2 = 0 then q else q + 1

/-- `x` rounded to `places` decimal places, exactly: a tie in the number itself goes to the even
neighbour, and the result is the 64-bit number nearest to the rounded decimal. The number's bits are its
sign, eleven bits of exponent and fifty-two of fraction. -/
def roundPlaces (x : Float) (places : Nat) : Float :=
  let bits := x.toBits.toNat
  let negative := 0x8000000000000000 ≤ bits
  let e := bits / 0x10000000000000 % 0x800
  let fraction := bits % 0x10000000000000
  if e = 0x7ff then x
  else
    let m := if e = 0 then fraction else fraction + 0x10000000000000
    let e := if e = 0 then 1 else e
    let scaled := m * Nat.pow 10 places
    let n := if 1075 ≤ e then scaled * Nat.pow 2 (e - 1075) else shiftRightEven scaled (1075 - e)
    let size := nearest n (-(places : Int))
    if negative then -size else size

end KubeletCollector.Number
