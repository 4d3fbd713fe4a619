import KubeletCollector.Number.Plain

/-!
Instants of the calendar, with the offset from universal time they were given with. The written form is
`2026-01-02T03:04:05+00:00`; six digits of microseconds follow the seconds if they are not zero, and the
offset is left out if there is none.
-/

namespace KubeletCollector

open Number Text

structure Instant where
  year : Nat
  month : Nat
  day : Nat
  hour : Nat
  minute : Nat
  second : Nat
  microsecond : Nat := 0
  offset : Option Int := some 0
deriving DecidableEq, Repr

namespace Instant

def digits : (width n : Nat) → List Char
  | 0, _ => []
  | width + 1, n => digits width (n / 10) ++ [asciiDigit (n % 10)]

def padded (width n : Nat) : String :=
  String.ofList (digits width n)

/-- An offset as sign, hours and minutes, and seconds if there are any. -/
def offsetText (seconds : Int) : String :=
  let n := seconds.natAbs
  (if seconds < 0 then "-" else "+") ++ padded 2 (n / 3600) ++ ":" ++ padded 2 (n / 60 % 60)
    ++ (if n % 60 = 0 then "" else ":" ++ padded 2 (n % 60))

def text (t : Instant) : String :=
  padded 4 t.year ++ "-" ++ padded 2 t.month ++ "-" ++ padded 2 t.day ++ "T"
    ++ padded 2 t.hour ++ ":" ++ padded 2 t.minute ++ ":" ++ padded 2 t.second
    ++ (if t.microsecond = 0 then "" else "." ++ padded 6 t.microsecond)
    ++ (match t.offset with
      | some seconds => offsetText seconds
      | none => "")

/-- Date and time of day in one run of digits, down to the second. -/
def stamp (t : Instant) : String :=
  toString t.year ++ padded 2 t.month ++ padded 2 t.day ++ padded 2 t.hour ++ padded 2 t.minute
    ++ padded 2 t.second

def take? (width : Nat) (cs : List Char) : Option (Nat × List Char) :=
  let ds := (cs.take width).filterMap asciiDigit?
  if ds.length = width then some (ofDigits ds, cs.drop width) else none

def expect? (c : Char) : List Char → Option (List Char)
  | [] => none
  | d :: cs => if c = d then some cs else none

/-- The microseconds that follow the seconds: a point and digits, of which six count. -/
def takeFraction? : List Char → Option (Nat × List Char)
  | '.' :: cs =>
    let ds := (cs.takeWhile fun c => (asciiDigit? c).isSome).filterMap asciiDigit?
    if ds.isEmpty then none
    else some (ofDigits ((ds ++ List.replicate 6 0).take 6), cs.drop ds.length)
  | cs => some (0, cs)

/-- An offset that ends the text: none, `Z`, or a sign with hours, minutes and perhaps seconds. -/
def offset? : List Char → Option (Option Int)
  | [] => some none
  | ['Z'] => some (some 0)
  | c :: cs => do
    let negative ← if c = '-' then some true else if c = '+' then some false else none
    let (hours, cs) ← take? 2 cs
    let (minutes, cs) ← take? 2 (← expect? ':' cs)
    let seconds ← match cs with
      | [] => some 0
      | ':' :: cs => (take? 2 cs).bind fun r => if r.2.isEmpty then some r.1 else none
      | _ => none
    let n : Int := (hours * 3600 + minutes * 60 + seconds : Nat)
    return some (if negative then -n else n)

def read? (s : String) : Option Instant := do
  let (year, cs) ← take? 4 s.toList
  let (month, cs) ← take? 2 (← expect? '-' cs)
  let (day, cs) ← take? 2 (← expect? '-' cs)
  let (hour, cs) ← take? 2 (← expect? 'T' cs)
  let (minute, cs) ← take? 2 (← expect? ':' cs)
  let (second, cs) ← take? 2 (← expect? ':' cs)
  let (microsecond, cs) ← takeFraction? cs
  let offset ← offset? cs
  return { year, month, day, hour, minute, second, microsecond, offset }

end Instant

end KubeletCollector
