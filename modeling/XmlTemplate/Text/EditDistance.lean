/-!
The edit distance of two texts: the least number of single characters to insert, delete or replace
to turn one into the other. It is computed row by row; a row holds the distances of one text to
every suffix of the other.
-/

namespace XmlTemplate.Text

/-- The row of `c :: source`, from the row of `source` against the same suffixes of the target. -/
def extendRow (c : Char) : List Char → List Nat → List Nat
  | d :: target, here :: below =>
      let extended := extendRow c target below
      let nearest := if c = d then below.headD 0
        else 1 + min (below.headD 0) (min here (extended.headD 0))
      nearest :: extended
  | _, row => row.map (· + 1)

/-- The distances of the source to every suffix of the target, the whole target first. -/
def distanceRow : List Char → List Char → List Nat
  | [], target => (List.range (target.length + 1)).reverse
  | c :: source, target => extendRow c target (distanceRow source target)

/-- The edit distance of two texts, counted in characters. -/
def editDistance (source target : String) : Nat :=
  (distanceRow source.toList target.toList).headD 0

end XmlTemplate.Text
