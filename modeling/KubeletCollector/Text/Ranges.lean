/-!
Sets of characters given as ranges of code points. The tables of `Text.Blank`, `Text.Digit`,
`Text.Printable` and `Url.Compatible` are written in this form.
-/

namespace KubeletCollector.Text

/-- `c` lies in one of the closed ranges `(first, last)`. -/
def inRanges (ranges : List (Nat × Nat)) (c : Char) : Bool :=
  ranges.any fun r => r.1 ≤ c.toNat && c.toNat ≤ r.2

theorem inRanges_iff {ranges : List (Nat × Nat)} {c : Char} :
    inRanges ranges c = true ↔ ∃ r ∈ ranges, r.1 ≤ c.toNat ∧ c.toNat ≤ r.2 := by
  simp [inRanges]

def isAscii (c : Char) : Bool :=
  c.toNat < 128

end KubeletCollector.Text
