import KubeletCollector.Text.Printable

/-!
Quoted text, as error messages show a value they were given. The text stands between apostrophes, or
between double quotes when it holds an apostrophe and no double quote. Inside, the enclosing quote and
the backslash get a backslash, and a character without a glyph is written as an escape.
-/

namespace KubeletCollector.Text

def apostrophe : Char := Char.ofNat 39
def doubleQuote : Char := Char.ofNat 34
def backslash : Char := Char.ofNat 92

def hexDigit (n : Nat) : Char :=
  if n < 10 then Char.ofNat (48 + n) else Char.ofNat (87 + n)

def hexDigits : (width n : Nat) → List Char
  | 0, _ => []
  | width + 1, n => hexDigits width (n / 16) ++ [hexDigit (n % 16)]

/-- A numeric escape: two, four or eight hexadecimal digits, as many as the code point needs. -/
def codeEscape (n : Nat) : List Char :=
  if n < 0x100 then backslash :: 'x' :: hexDigits 2 n
  else if n < 0x10000 then backslash :: 'u' :: hexDigits 4 n
  else backslash :: 'U' :: hexDigits 8 n

def quoteChar (quote c : Char) : List Char :=
  if c = quote ∨ c = backslash then [backslash, c]
  else if c = '\t' then [backslash, 't']
  else if c = '\n' then [backslash, 'n']
  else if c = '\r' then [backslash, 'r']
  else if isPrintable c then [c]
  else codeEscape c.toNat

def enclosing (cs : List Char) : Char :=
  if cs.contains apostrophe && !cs.contains doubleQuote then doubleQuote else apostrophe

def quotedChars (cs : List Char) : List Char :=
  enclosing cs :: cs.flatMap (quoteChar (enclosing cs)) ++ [enclosing cs]

def quoted (s : String) : String :=
  String.ofList (quotedChars s.toList)

end KubeletCollector.Text
