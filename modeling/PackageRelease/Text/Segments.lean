/-
PackageRelease/Text/Segments.lean

The segments of a text between the places where a separator stands.

There is always one segment more than there are separators.
-/

namespace PackageRelease

/-- The segments of a text between the separators. -/
def segments (separator : Char) : List Char → List (List Char)
  | [] => [[]]
  | c :: rest =>
    if c = separator then [] :: segments separator rest
    else
      match segments separator rest with
      | [] => [[c]]
      | first :: more => (c :: first) :: more

theorem segments_ne_nil (separator : Char) (text : List Char) : segments separator text ≠ [] := by
  cases text with
  | nil => simp [segments]
  | cons c rest =>
    unfold segments
    split
    · simp
    · split <;> simp

end PackageRelease
