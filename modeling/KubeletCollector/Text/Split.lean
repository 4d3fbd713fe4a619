/-!
Cutting a text at a separator.
-/

namespace KubeletCollector.Text

/-- The fields between the separators `sep`; there is one more than there are separators. -/
def fields (sep : Char) : List Char → List (List Char)
  | [] => [[]]
  | c :: cs =>
    if c = sep then [] :: fields sep cs
    else match fields sep cs with
      | [] => [[c]]
      | f :: fs => (c :: f) :: fs

end KubeletCollector.Text
