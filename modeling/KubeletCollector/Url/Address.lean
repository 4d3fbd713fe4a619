import KubeletCollector.Text.Digit
import KubeletCollector.Text.Split

/-!
Literal addresses in hosts: four decimal octets, or eight groups of hexadecimal digits of which one run
may be left out, with an optional zone after a percent sign.
-/

namespace KubeletCollector.Url

open Text

def isHexDigit (c : Char) : Bool :=
  c.isDigit || ('a' ≤ c && c ≤ 'f') || ('A' ≤ c && c ≤ 'F')

/-- One to three digits without a leading zero, at most 255. -/
def isOctet (cs : List Char) : Bool :=
  !cs.isEmpty && cs.all Char.isDigit && cs.length ≤ 3 && (cs == ['0'] || cs.head? != some '0')
    && (cs.filterMap asciiDigit?).foldl (fun n d => 10 * n + d) 0 ≤ 255

def isIPv4 (cs : List Char) : Bool :=
  let octets := fields '.' cs
  octets.length == 4 && octets.all isOctet

def isGroup (cs : List Char) : Bool :=
  !cs.isEmpty && cs.all isHexDigit && cs.length ≤ 4

/-- The parts on one side of the gap: an empty part at the outer edge is the edge's own colon, and then
nothing else may stand on that side. -/
def sideOfGap (edge : Option (List Char)) (parts : List (List Char)) : Option (List (List Char)) :=
  if edge = some [] then (if parts.length = 1 then some [] else none) else some parts

def areGroups (parts : List (List Char)) : Bool :=
  let inner := (parts.drop 1).dropLast
  match inner.countP (·.isEmpty) with
  | 0 => parts.length == 8 && parts.all isGroup
  | 1 =>
    let gap := inner.idxOf [] + 1
    let high := parts.take gap
    let low := parts.drop (gap + 1)
    match sideOfGap high.head? high, sideOfGap low.getLast? low with
    | some high, some low => (high ++ low).length ≤ 7 && (high ++ low).all isGroup
    | _, _ => false
  | _ => false

/-- Hexadecimal groups between colons; the last two may be written as four octets. -/
def isIPv6Body (cs : List Char) : Bool :=
  let parts := fields ':' cs
  if parts.length < 3 then false
  else
    match parts.getLast? with
    | some last =>
      if last.contains '.' then
        isIPv4 last && parts.length ≤ 8 && areGroups (parts.dropLast ++ [['0'], ['0']])
      else parts.length ≤ 9 && areGroups parts
    | none => false

def isIPv6 (cs : List Char) : Bool :=
  match fields '%' cs with
  | [body] => isIPv6Body body
  | [body, zone] => !zone.isEmpty && isIPv6Body body
  | _ => false

/-- An address of a later version: `v`, hexadecimal digits, a point and at least one more character. -/
def isFutureAddress : List Char → Bool
  | 'v' :: cs =>
    let version := cs.takeWhile isHexDigit
    match cs.dropWhile isHexDigit with
    | '.' :: _ :: _ => !version.isEmpty
    | _ => false
  | _ => false

end KubeletCollector.Url
