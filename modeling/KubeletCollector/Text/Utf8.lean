import KubeletCollector.Text.Quoted

/-!
UTF-8. Decoding stops at the first malformed sequence and says where it starts, how many bytes it has
and what is wrong with it; decoding an encoded text gives the text back.
-/

namespace KubeletCollector.Text

abbrev Bytes := List UInt8

def utf8 (s : String) : Bytes :=
  s.toUTF8.toList

inductive MalformedReason where
  | invalidStart
  | invalidContinuation
  | truncated
deriving DecidableEq, Repr

/-- A malformed sequence of `length` bytes, of which `lead` is the first, at byte `position`. -/
structure Malformed where
  lead : UInt8
  position : Nat
  length : Nat
  reason : MalformedReason
deriving DecidableEq, Repr

def MalformedReason.text : MalformedReason → String
  | .invalidStart => "invalid start byte"
  | .invalidContinuation => "invalid continuation byte"
  | .truncated => "unexpected end of data"

def Malformed.message (m : Malformed) : String :=
  let place :=
    if m.length = 1 then
      "byte 0x" ++ String.ofList (hexDigits 2 m.lead.toNat) ++ " in position " ++ toString m.position
    else "bytes in position " ++ toString m.position ++ "-"
      ++ toString (m.position + m.length - 1)
  "'utf-8' codec can't decode " ++ place ++ ": " ++ m.reason.text

/-- What the first byte of a sequence, together with those behind it, stands for: a character that takes
`extra` more bytes, or a malformed sequence of `length` bytes. -/
inductive Sequence where
  | character (c : Char) (extra : Nat)
  | malformed (length : Nat) (reason : MalformedReason)

def isContinuation (b : UInt8) : Bool :=
  0x80 ≤ b && b < 0xc0

def payload (b : UInt8) : Nat :=
  b.toNat - 0x80

/-- The second byte of a sequence of three or four is narrowed so that no character has two encodings,
surrogates have none, and the last code point is `0x10ffff`. -/
def allowsSecond (lead second : UInt8) : Bool :=
  isContinuation second
    && !(lead == 0xe0 && second < 0xa0) && !(lead == 0xed && 0xa0 ≤ second)
    && !(lead == 0xf0 && second < 0x90) && !(lead == 0xf4 && 0x90 ≤ second)

def sequence (lead : UInt8) (rest : Bytes) : Sequence :=
  if lead < 0x80 then .character (Char.ofNat lead.toNat) 0
  else if lead < 0xc2 then .malformed 1 .invalidStart
  else if lead < 0xe0 then
    match rest with
    | [] => .malformed 1 .truncated
    | b :: _ =>
      if isContinuation b then .character (Char.ofNat ((lead.toNat - 0xc0) * 64 + payload b)) 1
      else .malformed 1 .invalidContinuation
  else if lead < 0xf0 then
    match rest with
    | [] => .malformed 1 .truncated
    | b :: more =>
      if !allowsSecond lead b then .malformed 1 .invalidContinuation
      else match more with
        | [] => .malformed 2 .truncated
        | c :: _ =>
          if isContinuation c then
            .character (Char.ofNat ((lead.toNat - 0xe0) * 4096 + payload b * 64 + payload c)) 2
          else .malformed 2 .invalidContinuation
  else if lead < 0xf5 then
    match rest with
    | [] => .malformed 1 .truncated
    | b :: more =>
      if !allowsSecond lead b then .malformed 1 .invalidContinuation
      else match more with
        | [] => .malformed 2 .truncated
        | c :: more =>
          if !isContinuation c then .malformed 2 .invalidContinuation
          else match more with
            | [] => .malformed 3 .truncated
            | d :: _ =>
              if isContinuation d then
                .character (Char.ofNat ((lead.toNat - 0xf0) * 262144 + payload b * 4096
                  + payload c * 64 + payload d)) 3
              else .malformed 3 .invalidContinuation
  else .malformed 1 .invalidStart

def decodeFrom (position : Nat) (bytes : Bytes) : Except Malformed (List Char) :=
  match bytes with
  | [] => .ok []
  | lead :: rest =>
    match sequence lead rest with
    | .malformed length reason => .error ⟨lead, position, length, reason⟩
    | .character c extra =>
      (decodeFrom (position + 1 + extra) (rest.drop extra)).map (c :: ·)
termination_by bytes.length
decreasing_by simp only [List.length_drop, List.length_cons]; omega

def decodeUtf8 (bytes : Bytes) : Except Malformed (List Char) :=
  decodeFrom 0 bytes

/-- Each line end, written `\r\n`, `\r` or `\n`, as a single `\n`. -/
def unifyLineEnds : List Char → List Char
  | '\r' :: '\n' :: cs => '\n' :: unifyLineEnds cs
  | '\r' :: cs => '\n' :: unifyLineEnds cs
  | c :: cs => c :: unifyLineEnds cs
  | [] => []

end KubeletCollector.Text
