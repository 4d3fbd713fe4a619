import KubeletCollector.Text.Ranges

/-!
Blank characters. There are two sets: the six of ASCII, which number readers skip, and the wide one,
which holds every separator of Unicode and the four information separators `\x1c` to `\x1f`.
-/

namespace KubeletCollector.Text

def blankRanges : List (Nat × Nat) :=
  [(0x9, 0xd), (0x1c, 0x20), (0x85, 0x85), (0xa0, 0xa0), (0x1680, 0x1680), (0x2000, 0x200a),
   (0x2028, 0x2029), (0x202f, 0x202f), (0x205f, 0x205f), (0x3000, 0x3000)]

def isBlank (c : Char) : Bool :=
  inRanges blankRanges c

/-- Tab, line feed, vertical tab, form feed, carriage return and space. -/
def isAsciiBlank (c : Char) : Bool :=
  inRanges [(0x9, 0xd), (0x20, 0x20)] c

def trim (p : Char → Bool) (cs : List Char) : List Char :=
  ((cs.dropWhile p).reverse.dropWhile p).reverse

end KubeletCollector.Text
