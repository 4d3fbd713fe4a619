import KubeletCollector.Text.Ranges

/-!
Characters that turn into a delimiter of URLs. Host names are compared after compatibility
normalisation, and under it some characters become texts that hold one of `/ ? # @ :`. In a host they
would move its end.
-/

namespace KubeletCollector.Url

/-- The characters whose compatibility form holds one of `/ ? # @ :`. -/
def hiddenDelimiters : List Nat :=
  [0x2047, 0x2048, 0x2049, 0x2100, 0x2101, 0x2105, 0x2106, 0x2a74, 0xfe13, 0xfe16, 0xfe55, 0xfe56,
   0xfe5f, 0xfe6b, 0xff03, 0xff0f, 0xff1a, 0xff1f, 0xff20]

def hidesDelimiter (c : Char) : Bool :=
  hiddenDelimiters.contains c.toNat

end KubeletCollector.Url
