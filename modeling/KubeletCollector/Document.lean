import KubeletCollector.Text.Quoted

/-!
Documents: nested values with a written form. Texts are written in ASCII: what is not printable ASCII
becomes an escape of four hexadecimal digits, two of them for a character beyond `0xffff`. Each entry
of a list or table stands on a line of its own, two spaces further in than what encloses it.
-/

namespace KubeletCollector

open Text

inductive Document where
  | nothing
  | flag (b : Bool)
  | integer (n : Int)
  | text (s : String)
  | list (entries : List Document)
  | table (entries : List (String × Document))

namespace Document

def texts (ss : List String) : Document :=
  .list (ss.map .text)

def unitEscape (n : Nat) : List Char :=
  backslash :: 'u' :: hexDigits 4 n

def textChar (c : Char) : List Char :=
  if c = doubleQuote ∨ c = backslash then [backslash, c]
  else if c = '\n' then [backslash, 'n']
  else if c = '\r' then [backslash, 'r']
  else if c = '\t' then [backslash, 't']
  else if c.toNat = 8 then [backslash, 'b']
  else if c.toNat = 12 then [backslash, 'f']
  else if 32 ≤ c.toNat ∧ c.toNat < 127 then [c]
  else if c.toNat < 0x10000 then unitEscape c.toNat
  else
    let n := c.toNat - 0x10000
    unitEscape (0xd800 + n / 0x400) ++ unitEscape (0xdc00 + n % 0x400)

def textForm (s : String) : String :=
  String.ofList (doubleQuote :: s.toList.flatMap textChar ++ [doubleQuote])

/-- The start of a line that is `depth` levels in. -/
def newLine (depth : Nat) : String :=
  "\n" ++ String.ofList (List.replicate (2 * depth) ' ')

/-- Entries between two marks, which stand side by side if there is nothing between them. -/
def enclosed (before after : String) (depth : Nat) (entries : List String) : String :=
  if entries.isEmpty then before ++ after
  else before ++ String.intercalate "," (entries.map (newLine (depth + 1) ++ ·)) ++ newLine depth ++ after

/-- The written form, `depth` levels in. -/
def render (depth : Nat) : Document → String
  | .nothing => "null"
  | .flag true => "true"
  | .flag false => "false"
  | .integer n => toString n
  | .text s => textForm s
  | .list entries => enclosed "[" "]" depth (renderList (depth + 1) entries)
  | .table entries => enclosed "\x7b" "\x7d" depth (renderTable (depth + 1) entries)
where
  renderList (depth : Nat) : List Document → List String
    | [] => []
    | d :: ds => render depth d :: renderList depth ds
  renderTable (depth : Nat) : List (String × Document) → List String
    | [] => []
    | (key, d) :: ds => (textForm key ++ ": " ++ render depth d) :: renderTable depth ds

def page (d : Document) : String :=
  d.render 0 ++ "\n"

end Document

end KubeletCollector
