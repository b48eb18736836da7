/-
PackageRelease/Proofs/Coordinates/Payload.lean

Coordinates on their way through JSON.

Written compactly, as they go to the metadata service, or on lines, as an
operator gets to see them, coordinates are laid out as one record
(`toJson_eq_ofTexts`), and so they are read back, whatever characters are in
them (`payload_round_trip`).  What can be read back tells coordinates apart.
-/
import PackageRelease.Coordinates
import PackageRelease.Proofs.Json.Record

namespace PackageRelease

namespace Coordinates

variable (c c' : Coordinates)

/-- The names of the fields with their texts, in order. -/
def members : List (String × String) :=
  [("version", c.version), ("platform", c.platform), ("python", c.interpreter)]

theorem toJson_eq_ofTexts : c.toJson = .ofTexts c.members := rfl

theorem map_fst_members : c.members.map Prod.fst = shape.fields := rfl

/-- The reader has the members of the record last to first. -/
theorem assemble_reverse_members (rest : List Char) :
    shape.assemble c.members.reverse rest = .ok c := rfl

/-! ### Reading back -/

theorem decode_layout (layout : Json.Layout) (blanks : List Char)
    (spacing : Json.IsSpacing blanks) :
    decode (String.ofList (layout.object c.members ++ blanks)) = .ok c := by
  have known : ∀ m ∈ c.members, m.1 ∈ shape.fields := fun m mem =>
    c.map_fst_members ▸ List.mem_map_of_mem mem
  have once : (c.members.map Prod.fst).Nodup := by
    rw [map_fst_members]
    decide
  exact Json.Shape.decode_object known once layout spacing c.assemble_reverse_members

theorem decode_compact : decode c.toJson.compact = .ok c := by
  have written := c.decode_layout .dense [] Json.isSpacing_nil
  rwa [List.append_nil, ← Json.compactChars_ofTexts, ← toJson_eq_ofTexts] at written

/-- Blanks behind the lines do no harm. -/
theorem decode_pretty_append (blanks : List Char) (spacing : Json.IsSpacing blanks) :
    decode (c.toJson.pretty ++ String.ofList blanks) = .ok c := by
  have written := c.decode_layout .lines blanks spacing
  rwa [← Json.prettyChars_ofTexts, ← toJson_eq_ofTexts, String.ofList_append] at written

/-! ### Telling coordinates apart -/

/-- The second character tells the two ways of writing apart. -/
theorem compact_ne_pretty : c.toJson.compact ≠ c'.toJson.pretty := by
  intro same
  have chars := congrArg String.toList same
  rw [Json.compact, Json.pretty, String.toList_ofList, String.toList_ofList, toJson_eq_ofTexts,
    toJson_eq_ofTexts, Json.compactChars_ofTexts, Json.prettyChars_ofTexts] at chars
  cases chars

/-- **Coordinates are read back from what is written of them**, compactly or on lines, and with the
line feed that ends the lines or without it.  So coordinates are the same if they are written
alike. -/
theorem payload_round_trip (c : Coordinates) :
    decode c.toJson.compact = .ok c ∧ decode c.toJson.pretty = .ok c ∧
      decode (c.toJson.pretty ++ "\n") = .ok c ∧
      ∀ c' : Coordinates,
        (c.toJson.compact = c'.toJson.compact ↔ c = c') ∧
        (c.toJson.pretty = c'.toJson.pretty ↔ c = c') ∧
        c.toJson.compact ≠ c'.toJson.pretty := by
  have pretty (c : Coordinates) : decode c.toJson.pretty = .ok c := by
    simpa using c.decode_pretty_append [] Json.isSpacing_nil
  refine ⟨c.decode_compact, pretty c, c.decode_pretty_append ['\n'] (by decide),
    fun c' => ⟨⟨fun same => ?_, fun same => same ▸ rfl⟩, ⟨fun same => ?_, fun same => same ▸ rfl⟩,
      c.compact_ne_pretty c'⟩⟩
  · exact Except.ok.inj (c.decode_compact.symm.trans (same ▸ c'.decode_compact))
  · exact Except.ok.inj ((pretty c).symm.trans (same ▸ pretty c'))

example : (Coordinates.mk "1\"\\" "\x1f\n" "").toJson.compact =
    "\x7b\"version\":\"1\\\"\\\\\",\"platform\":\"\\u001f\\n\",\"python\":\"\"\x7d" := by
  decide +kernel

end Coordinates

end PackageRelease
