/-
PackageRelease/Proofs/Coordinates/Filename.lean

Which names of artifacts hold coordinates, and which coordinates they hold.

There are three ways to tell.  A pattern matches the name, group by group:

    ^([^-]*)-([^-]+)-([^-]+)-([^-]*)-([^-]+)(-[^-]*)*\.([^-.]{3})$

Or the name is a stem, a point and an extension, and the stem has five or more
segments between its hyphens, with something in those at the places 1, 2 and 4.
Or the name is taken apart from left to right, as `Filename.tags?` does it.

The groups of the pattern may take as much or as little as they like, and a
point may stand in any of them but the last; still no name is matched in two
ways (`Match.eq`).  So it does not matter which match is looked for first, and
the three ways come to the same (`ofFilename_grammar`).
-/
import Mathlib.Data.List.Infix
import PackageRelease.Coordinates.Filename

namespace PackageRelease

/-! ### Segments -/

section Segments

variable {separator : Char} {text first : List Char} {more : List (List Char)}

/-- The segments of a text are the texts without a separator that it is put together from. -/
theorem splitOn_eq_cons_iff :
    text.splitOn separator = first :: more ↔
      text = first ++ more.flatMap (separator :: ·) ∧ separator ∉ first ∧
        ∀ segment ∈ more, separator ∉ segment := by
  constructor
  · intro split
    induction text generalizing first more with
    | nil =>
      obtain ⟨rfl, rfl⟩ : [] = first ∧ [] = more := by simpa using split
      simp
    | cons c rest ih =>
      obtain ⟨first', more', split'⟩ := List.exists_cons_of_ne_nil
        (List.splitOn_ne_nil separator rest)
      obtain ⟨rest_eq, first'_free, more'_free⟩ := ih split'
      rw [List.splitOn_cons_eq_if_modifyHead, split'] at split
      by_cases separates : c = separator
      · rw [if_pos (by simpa using separates)] at split
        cases split
        refine ⟨by simp [separates, rest_eq], List.not_mem_nil, ?_⟩
        exact List.forall_mem_cons.2 ⟨first'_free, more'_free⟩
      · rw [if_neg (by simpa using separates)] at split
        cases split
        refine ⟨by simp [rest_eq], ?_, more'_free⟩
        exact List.not_mem_cons_of_ne_of_not_mem (Ne.symm separates) first'_free
  · rintro ⟨rfl, first_free, more_free⟩
    induction more generalizing first with
    | nil => simpa using List.splitOn_eq_singleton first_free
    | cons second more ih =>
      obtain ⟨second_free, more_free⟩ := List.forall_mem_cons.1 more_free
      rw [List.flatMap_cons, List.cons_append,
        List.splitOn_append_cons_self_of_not_mem first_free, ih second_free more_free]

/-- The first segment goes up to the first separator. -/
theorem takeWhile_eq_of_splitOn (split : text.splitOn separator = first :: more) :
    text.takeWhile (· ≠ separator) = first := by
  obtain ⟨rfl, first_free, -⟩ := splitOn_eq_cons_iff.1 split
  have taken : ∀ c ∈ first, decide (c ≠ separator) = true := by
    intro c mem
    rw [decide_eq_true_iff]
    rintro rfl
    exact first_free mem
  rw [List.takeWhile_append_of_pos taken]
  cases more <;> simp

end Segments

/-! ### The pieces of a name -/

namespace Filename

variable {text part rest : List Char}

theorem part?_eq_some_iff :
    part? text = some (part, rest) ↔ text = part ++ '-' :: rest ∧ '-' ∉ part := by
  induction text generalizing part with
  | nil => simp [part?]
  | cons c text ih =>
    by_cases hyphen : c = '-'
    · rw [part?, if_pos hyphen]
      constructor
      · intro found
        cases found
        exact ⟨by rw [hyphen, List.nil_append], List.not_mem_nil⟩
      · rintro ⟨eq, free⟩
        rcases part with - | ⟨c', part⟩
        · obtain ⟨-, rfl⟩ := List.cons.inj eq
          rfl
        · -- the hyphen would stand in the part
          obtain ⟨rfl, -⟩ := List.cons.inj eq
          exact absurd (List.mem_cons.2 (.inl hyphen.symm)) free
    · rw [part?, if_neg hyphen, Option.map_eq_some_iff]
      constructor
      · rintro ⟨⟨part', rest'⟩, found, eq⟩
        cases eq
        obtain ⟨rfl, free⟩ := ih.1 found
        exact ⟨rfl, List.not_mem_cons_of_ne_of_not_mem (Ne.symm hyphen) free⟩
      · rintro ⟨eq, free⟩
        rcases part with - | ⟨c', part⟩
        · obtain ⟨rfl, -⟩ := List.cons.inj eq
          exact absurd rfl hyphen
        · obtain ⟨rfl, rest_eq⟩ := List.cons.inj eq
          have free' : '-' ∉ part := fun mem => free (List.mem_cons_of_mem _ mem)
          exact ⟨(part, rest), ih.2 ⟨rest_eq, free'⟩, rfl⟩

theorem tag?_eq_some_iff :
    tag? text = some (part, rest) ↔ text = part ++ '-' :: rest ∧ '-' ∉ part ∧ part ≠ [] := by
  rw [← and_assoc, ← part?_eq_some_iff]
  unfold tag?
  split
  · next found =>
    rw [found]
    refine ⟨nofun, fun ⟨eq, unempty⟩ => ?_⟩
    cases eq
    exact absurd rfl unempty
  · next unempty =>
    refine ⟨fun found => ⟨found, ?_⟩, And.left⟩
    rintro rfl
    exact unempty _ found

theorem stem?_eq_some_iff {stem : List Char} :
    stem? text = some stem ↔ ∃ extension, text = stem ++ '.' :: extension ∧
      extension.length = 3 ∧ ∀ c ∈ extension, c ≠ '-' ∧ c ≠ '.' := by
  constructor
  · intro found
    unfold stem? at found
    split at found
    · next c b a point stem' reversed =>
      split at found
      · next good =>
        obtain ⟨rfl, good⟩ := good
        obtain rfl := Option.some.inj found
        refine ⟨[a, b, c], ?_, rfl, ?_⟩
        · rw [← text.reverse_reverse, reversed]
          simp
        · simpa [inExtension] using good
      · cases found
    · cases found
  · rintro ⟨extension, rfl, three, good⟩
    obtain ⟨a, b, c, rfl⟩ := List.length_eq_three.1 three
    simpa [stem?, inExtension, and_assoc] using good

/-! ### Matches of the pattern -/

/-- A match of the pattern, with its groups. -/
structure Match (text : List Char) where
  name : List Char
  version : List Char
  interpreter : List Char
  abi : List Char
  platform : List Char
  /-- What stands between the platform tag and the extension. -/
  more : List (List Char)
  extension : List Char
  text_eq : text = name ++ '-' :: version ++ '-' :: interpreter ++ '-' :: abi ++ '-' :: platform ++
    more.flatMap ('-' :: ·) ++ '.' :: extension
  name_free : '-' ∉ name
  version_free : '-' ∉ version
  version_ne_nil : version ≠ []
  interpreter_free : '-' ∉ interpreter
  interpreter_ne_nil : interpreter ≠ []
  abi_free : '-' ∉ abi
  platform_free : '-' ∉ platform
  platform_ne_nil : platform ≠ []
  more_free : ∀ part ∈ more, '-' ∉ part
  extension_length : extension.length = 3
  extension_free : ∀ c ∈ extension, c ≠ '-' ∧ c ≠ '.'

namespace Match

/-- What stands in front of the extension and its point. -/
def stem (m : Match text) : List Char :=
  m.name ++ '-' :: m.version ++ '-' :: m.interpreter ++ '-' :: m.abi ++ '-' :: m.platform ++
    m.more.flatMap ('-' :: ·)

/-- The groups of a match are the segments of its stem. -/
theorem splitOn_stem (m : Match text) :
    m.stem.splitOn '-'
      = m.name :: m.version :: m.interpreter :: m.abi :: m.platform :: m.more := by
  refine splitOn_eq_cons_iff.2 ⟨by simp [stem], m.name_free, ?_⟩
  simp only [List.forall_mem_cons]
  exact ⟨m.version_free, m.interpreter_free, m.abi_free, m.platform_free, m.more_free⟩

/-- **No name is matched in two ways.** -/
protected theorem eq (m m' : Match text) : m = m' := by
  have same : m.stem ++ '.' :: m.extension = m'.stem ++ '.' :: m'.extension :=
    m.text_eq.symm.trans m'.text_eq
  have lengths : ('.' :: m.extension).length = ('.' :: m'.extension).length := by
    rw [List.length_cons, List.length_cons, m.extension_length, m'.extension_length]
  obtain ⟨stems, extensions⟩ := List.append_inj' same lengths
  have segments : m.name :: m.version :: m.interpreter :: m.abi :: m.platform :: m.more
      = m'.name :: m'.version :: m'.interpreter :: m'.abi :: m'.platform :: m'.more := by
    rw [← m.splitOn_stem, ← m'.splitOn_stem, stems]
  cases m
  cases m'
  cases segments
  cases extensions
  rfl

/-- The coordinates that stand in the groups of a match. -/
def coordinates (m : Match text) : Coordinates where
  version := .ofList m.version
  platform := .ofList m.platform
  interpreter := .ofList m.interpreter

end Match

/-- The reading from left to right finds the match of the pattern, if there is one. -/
theorem tags?_eq_some_iff {version interpreter platform : List Char} :
    tags? text = some (version, interpreter, platform) ↔
      ∃ m : Match text, m.version = version ∧ m.interpreter = interpreter ∧
        m.platform = platform := by
  simp only [tags?, Option.bind_eq_bind, Option.bind_eq_some_iff, Prod.exists, part?_eq_some_iff,
    tag?_eq_some_iff, stem?_eq_some_iff]
  constructor
  · rintro ⟨name, _, ⟨rfl, name_free⟩, version', _, ⟨rfl, version_free, version_ne⟩,
      interpreter', _, ⟨rfl, interpreter_free, interpreter_ne⟩, abi, _, ⟨rfl, abi_free⟩, stem,
      ⟨extension, rfl, three, extension_free⟩, found⟩
    obtain ⟨platform', more, split⟩ := List.exists_cons_of_ne_nil (List.splitOn_ne_nil '-' stem)
    rw [takeWhile_eq_of_splitOn split] at found
    obtain ⟨rfl, platform_free, more_free⟩ := splitOn_eq_cons_iff.1 split
    rcases platform' with - | ⟨c, platform'⟩
    · cases found
    cases found
    exact ⟨⟨name, version, interpreter, abi, c :: platform', more, extension, by simp, name_free,
      version_free, version_ne, interpreter_free, interpreter_ne, abi_free, platform_free,
      List.cons_ne_nil _ _, more_free, three, extension_free⟩, rfl, rfl, rfl⟩
  · rintro ⟨m, rfl, rfl, rfl⟩
    have split : (m.platform ++ m.more.flatMap ('-' :: ·)).splitOn '-' = m.platform :: m.more :=
      splitOn_eq_cons_iff.2 ⟨rfl, m.platform_free, m.more_free⟩
    refine ⟨m.name, _, ⟨?_, m.name_free⟩, m.version, _, ⟨rfl, m.version_free, m.version_ne_nil⟩,
      m.interpreter, _, ⟨rfl, m.interpreter_free, m.interpreter_ne_nil⟩, m.abi, _,
      ⟨rfl, m.abi_free⟩, m.platform ++ m.more.flatMap ('-' :: ·),
      ⟨m.extension, rfl, m.extension_length, m.extension_free⟩, ?_⟩
    · simpa using m.text_eq
    · rw [takeWhile_eq_of_splitOn split]
      rcases platform : m.platform with - | ⟨c, platform'⟩
      · exact absurd platform m.platform_ne_nil
      · rfl

/-! ### Segments of the stem -/

/-- The coordinates are segments of the stem, and the stem has as many as it takes. -/
structure Segmented (stem : List Char) (c : Coordinates) : Prop where
  five : 5 ≤ (stem.splitOn '-').length
  version : (stem.splitOn '-')[1]? = some c.version.toList
  interpreter : (stem.splitOn '-')[2]? = some c.interpreter.toList
  platform : (stem.splitOn '-')[4]? = some c.platform.toList
  version_ne : c.version ≠ ""
  interpreter_ne : c.interpreter ≠ ""
  platform_ne : c.platform ≠ ""

theorem Match.segmented (m : Match text) : Segmented m.stem m.coordinates := by
  have nonempty {cs : List Char} (h : cs ≠ []) : String.ofList cs ≠ "" := by
    simpa using h
  constructor
  · simp [m.splitOn_stem]
  · simp [m.splitOn_stem, coordinates]
  · simp [m.splitOn_stem, coordinates]
  · simp [m.splitOn_stem, coordinates]
  · exact nonempty m.version_ne_nil
  · exact nonempty m.interpreter_ne_nil
  · exact nonempty m.platform_ne_nil

/-- Where the coordinates are segments of the stem, the pattern matches and its groups hold
them. -/
theorem exists_match_of_segmented {stem extension : List Char} {c : Coordinates}
    (segmented : Segmented stem c) (three : extension.length = 3)
    (extension_free : ∀ x ∈ extension, x ≠ '-' ∧ x ≠ '.') :
    ∃ m : Match (stem ++ '.' :: extension), m.coordinates = c := by
  have nonempty {s : String} (h : s ≠ "") : s.toList ≠ [] := by
    simpa using h
  obtain ⟨five, version, interpreter, platform, version_ne, interpreter_ne, platform_ne⟩ :=
    segmented
  match split : stem.splitOn '-' with
  | name :: version' :: interpreter' :: abi :: platform' :: more =>
    rw [split] at version interpreter platform
    cases version
    cases interpreter
    cases platform
    obtain ⟨rfl, name_free, others_free⟩ := splitOn_eq_cons_iff.1 split
    simp only [List.forall_mem_cons] at others_free
    obtain ⟨version_free, interpreter_free, abi_free, platform_free, more_free⟩ := others_free
    refine ⟨⟨name, c.version.toList, c.interpreter.toList, abi, c.platform.toList, more, extension,
      by simp, name_free, version_free, nonempty version_ne, interpreter_free,
      nonempty interpreter_ne, abi_free, platform_free, nonempty platform_ne, more_free, three,
      extension_free⟩, ?_⟩
    simp [Match.coordinates]
  | [] | [_] | [_, _] | [_, _, _] | [_, _, _, _] =>
    rw [split] at five
    simp at five

end Filename

/-! ### Coordinates of a name -/

namespace Coordinates

open Filename

variable {filename : String} {c : Coordinates}

theorem ofFilename_eq_ok_iff :
    ofFilename filename = .ok c ↔ ∃ m : Match filename.toList, m.coordinates = c := by
  unfold ofFilename
  split
  · next version interpreter platform found =>
    obtain ⟨m, rfl, rfl, rfl⟩ := tags?_eq_some_iff.1 found
    constructor
    · intro eq
      exact ⟨m, Except.ok.inj eq⟩
    · rintro ⟨m', rfl⟩
      rw [m'.eq m]
      rfl
  · next unfound =>
    refine ⟨nofun, fun ⟨m, _⟩ => ?_⟩
    rw [tags?_eq_some_iff.2 ⟨m, rfl, rfl, rfl⟩] at unfound
    cases unfound

/-- **A name holds coordinates exactly if it consists of a stem, a point and an extension of three
characters that are neither a hyphen nor a point, and the stem has at least five segments between
hyphens, with something in the segments 1, 2 and 4.**  These are then the version, the interpreter
tag and the platform tag, as they are; the other segments may be empty, and whatever is no hyphen
may stand in a segment.  Every other name is malformed, and the failure bears it unchanged.  It is
the same names that the pattern matches, with the same coordinates in its groups, and none of them
is matched in two ways. -/
theorem ofFilename_grammar (filename : String) :
    (∀ c, ofFilename filename = .ok c ↔
      ∃ stem extension, filename.toList = stem ++ '.' :: extension ∧ extension.length = 3 ∧
        (∀ x ∈ extension, x ≠ '-' ∧ x ≠ '.') ∧ Segmented stem c) ∧
    ((∃ c, ofFilename filename = .ok c) ∨
      ofFilename filename = .error (.malformedFilename filename)) ∧
    (∀ c, ofFilename filename = .ok c ↔ ∃ m : Match filename.toList, m.coordinates = c) ∧
    ∀ m m' : Match filename.toList, m = m' := by
  refine ⟨fun c => ?_, ?_, fun c => ofFilename_eq_ok_iff, Match.eq⟩
  · rw [ofFilename_eq_ok_iff]
    constructor
    · rintro ⟨m, rfl⟩
      exact ⟨m.stem, m.extension, m.text_eq, m.extension_length, m.extension_free, m.segmented⟩
    · rintro ⟨stem, extension, eq, three, extension_free, segmented⟩
      rw [eq]
      exact exists_match_of_segmented segmented three extension_free
  · rcases found : tags? filename.toList with - | ⟨version, interpreter, platform⟩
    · right
      rw [ofFilename, found]
    · left
      obtain ⟨m, -⟩ := tags?_eq_some_iff.1 found
      exact ⟨m.coordinates, ofFilename_eq_ok_iff.2 ⟨m, rfl⟩⟩

end Coordinates

end PackageRelease
