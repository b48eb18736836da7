/-
PackageRelease/Proofs/Json/Record.lean

Records that are written are read back.

An object whose members are texts is laid out by putting blanks in three
places: in front of each key, in front of each value, and in front of the end.

    {margin "key":gap"value",margin "key":gap"value"foot}

Both ways of writing a value are such layouts.  Whatever the layout, the reader
takes the members one by one (`readMembers_member`), and comes to the end with
all of them, as long as each is a field of the record and no key comes twice
(`Shape.read_object`).
-/
import Mathlib.Data.List.Nodup
import PackageRelease.Proofs.Json.Step

namespace PackageRelease

namespace Json

/-! ### Blanks -/

/-- The text consists of blanks. -/
def IsSpacing (blanks : List Char) : Prop := ∀ c ∈ blanks, isSpace c

instance (blanks : List Char) : Decidable (IsSpacing blanks) :=
  decidable_of_iff (blanks.all isSpace) List.all_eq_true

theorem isSpacing_nil : IsSpacing [] := List.forall_mem_nil _

theorem dropSpaces_append {blanks : List Char} (spacing : IsSpacing blanks) (rest : List Char) :
    dropSpaces (blanks ++ rest) = dropSpaces rest :=
  List.dropWhile_append_of_pos spacing

theorem dropSpaces_append_cons {blanks : List Char} (spacing : IsSpacing blanks) {c : Char}
    (stays : ¬ isSpace c) (rest : List Char) : dropSpaces (blanks ++ c :: rest) = c :: rest := by
  rw [dropSpaces_append spacing]
  exact List.dropWhile_cons_of_neg stays

theorem isSpacing_newline (depth : Nat) : IsSpacing (newline depth) := by
  intro c mem
  rcases List.mem_cons.1 mem with rfl | mem
  · decide
  · rw [List.eq_of_mem_replicate mem]
    decide

/-! ### Layouts -/

/-- The blanks in an object. -/
structure Layout where
  /-- In front of each key. -/
  margin : List Char
  /-- In front of each value. -/
  gap : List Char
  /-- In front of the end. -/
  foot : List Char
  margin_spacing : IsSpacing margin
  gap_spacing : IsSpacing gap
  foot_spacing : IsSpacing foot

namespace Layout

/-- No blanks at all. -/
def dense : Layout := ⟨[], [], [], isSpacing_nil, isSpacing_nil, isSpacing_nil⟩

/-- Each member on a line of its own. -/
def lines : Layout :=
  ⟨newline 1, [' '], newline 0, isSpacing_newline 1, by decide, isSpacing_newline 0⟩

variable (layout : Layout)

/-- The characters of a member. -/
def member (m : String × String) : List Char := quote m.1 ++ ':' :: (layout.gap ++ quote m.2)

/-- The characters of the members behind the first one, and of the end. -/
def remainder : List (String × String) → List Char
  | [] => layout.foot ++ ['}']
  | m :: rest => ',' :: (layout.margin ++ (layout.member m ++ remainder rest))

/-- The characters of an object. -/
def object : List (String × String) → List Char
  | [] => ['{', '}']
  | m :: rest => '{' :: (layout.margin ++ (layout.member m ++ layout.remainder rest))

/-- An object, line by line or not, is its first member and then the others, each behind a
comma. -/
theorem intercalate_append_foot (m : String × String) (rest : List (String × String)) :
    List.intercalate (',' :: layout.margin) ((m :: rest).map layout.member) ++
        (layout.foot ++ ['}'])
      = layout.member m ++ layout.remainder rest := by
  induction rest generalizing m with
  | nil => simp [remainder]
  | cons m' rest ih =>
    rw [List.map_cons, List.map_cons, List.intercalate_cons_cons, ← List.map_cons,
      List.append_assoc, List.append_assoc, ih]
    simp [remainder]

end Layout

/-- A value that is a record of texts. -/
def ofTexts (members : List (String × String)) : Json :=
  .object (members.map fun m => (m.1, .string m.2))

theorem compactMembers_texts (members : List (String × String)) :
    compactMembers (members.map fun m => (m.1, .string m.2)) = members.map Layout.dense.member := by
  induction members with
  | nil => rfl
  | cons m rest ih => simp [compactMembers, ih, Layout.member, Layout.dense, compactChars]

theorem prettyMembers_texts (members : List (String × String)) :
    prettyMembers 1 (members.map fun m => (m.1, .string m.2))
      = members.map Layout.lines.member := by
  induction members with
  | nil => rfl
  | cons m rest ih =>
    simp [prettyMembers, ih, Layout.member, Layout.lines, prettyChars, compactChars]

theorem compactChars_ofTexts (members : List (String × String)) :
    (ofTexts members).compactChars = Layout.dense.object members := by
  rw [ofTexts, compactChars, compactMembers_texts]
  rcases members with - | ⟨m, rest⟩
  · rfl
  · exact congrArg ('{' :: ·) (Layout.dense.intercalate_append_foot m rest)

theorem prettyChars_ofTexts (members : List (String × String)) :
    (ofTexts members).prettyChars 0 = Layout.lines.object members := by
  rw [ofTexts, prettyChars, prettyMembers_texts]
  rcases members with - | ⟨m, rest⟩
  · rfl
  · have joined := Layout.lines.intercalate_append_foot m rest
    rw [Layout.object, ← joined]
    simp [block, Layout.lines]

/-! ### Reading -/

theorem quote_append (text : String) (rest : List Char) :
    quote text ++ rest = '"' :: ((quote text).drop 1 ++ rest) := rfl

/-- A written string is read back behind blanks. -/
theorem readText_quote {gap : List Char} (spacing : IsSpacing gap) (text : String)
    (rest : List Char) : readText (gap ++ (quote text ++ rest)) = .ok (text, rest) := by
  rw [readText, quote_append, dropSpaces_append_cons spacing (by decide)]
  exact readString_quote text rest

theorem skipColon_cons (rest : List Char) : skipColon (':' :: rest) = .ok rest := rfl

section Members

variable {fields : List String} {before : List (String × String)} {first : Bool}
variable {text rest : List Char} {layout : Layout}

theorem nextKey_margin (m : String × String) (rest : List Char) :
    nextKey true (layout.margin ++ (layout.member m ++ rest))
      = .ok (true, (layout.member m ++ rest).drop 1) := by
  rw [nextKey, Layout.member, List.append_assoc, quote_append,
    dropSpaces_append_cons layout.margin_spacing (by decide)]
  rfl

theorem nextKey_comma (m : String × String) (rest : List Char) :
    nextKey false (',' :: (layout.margin ++ (layout.member m ++ rest)))
      = .ok (true, (layout.member m ++ rest).drop 1) := by
  have comma (text : List Char) : dropSpaces (',' :: text) = ',' :: text := rfl
  rw [nextKey, comma, Layout.member, List.append_assoc, quote_append]
  simp only [Char.reduceEq, if_false, if_true, Bool.false_eq_true]
  rw [dropSpaces_append_cons layout.margin_spacing (by decide)]
  rfl

theorem nextKey_foot (first : Bool) (rest : List Char) :
    nextKey first (layout.foot ++ '}' :: rest) = .ok (false, rest) := by
  rw [nextKey, dropSpaces_append_cons layout.foot_spacing (by decide)]
  rfl

theorem readMembers_end (closed : nextKey first text = .ok (false, rest)) :
    readMembers fields first before text = .ok (before, rest) := by
  rw [readMembers_eq, closed]
  rfl

/-- A member that is a new field is read. -/
theorem readMembers_member {m : String × String}
    (opened : nextKey first text = .ok (true, (layout.member m ++ rest).drop 1))
    (known : m.1 ∈ fields) (fresh : m.1 ∉ before.map Prod.fst) :
    readMembers fields first before text = readMembers fields false (m :: before) rest := by
  have key : readString ((layout.member m ++ rest).drop 1)
      = .ok (m.1, ':' :: (layout.gap ++ (quote m.2 ++ rest))) := by
    have eq : (layout.member m ++ rest).drop 1
        = (quote m.1).drop 1 ++ ':' :: (layout.gap ++ (quote m.2 ++ rest)) := by
      simp [Layout.member, quote]
    rw [eq]
    exact readString_quote _ _
  have value := readText_quote layout.gap_spacing m.2 rest
  have absent : before.lookup m.1 = none := by
    rw [List.lookup_eq_none_iff]
    intro p mem
    have apart : m.1 ≠ p.1 := fun same => fresh (same ▸ List.mem_map_of_mem mem)
    simpa using apart
  have member : readMember fields before ((layout.member m ++ rest).drop 1)
      = .ok (m :: before, rest) := by
    rw [readMember, key, ok_bind]
    dsimp only
    rw [if_pos (List.contains_iff_mem.2 known), if_neg (by simp [absent]), skipColon_cons, ok_bind,
      value]
    rfl
  rw [readMembers_eq, opened, ok_bind]
  dsimp only
  rw [if_pos rfl, member, ok_bind]

/-- The members behind the first one are read, and the end. -/
theorem readMembers_remainder {members : List (String × String)}
    (known : ∀ m ∈ members, m.1 ∈ fields)
    (once : (members.map Prod.fst ++ before.map Prod.fst).Nodup) :
    readMembers fields false before (layout.remainder members ++ rest)
      = .ok (members.reverse ++ before, rest) := by
  -- with each member that is read, `before` grows by it
  induction members generalizing before with
  | nil =>
    rw [Layout.remainder, List.append_assoc]
    exact readMembers_end (nextKey_foot false rest)
  | cons m members ih =>
    obtain ⟨fresh, once⟩ := List.nodup_cons.1 once
    have apart : m.1 ∉ before.map Prod.fst := fun mem => fresh (List.mem_append_right _ mem)
    rw [Layout.remainder, List.cons_append, List.append_assoc, List.append_assoc,
      readMembers_member (nextKey_comma m _) (known m List.mem_cons_self) apart,
      ih (fun m' mem => known m' (List.mem_cons_of_mem m mem)), List.reverse_cons,
      List.append_assoc]
    · rfl
    · -- the key that has just been read goes over to those that are read
      rw [List.map_cons, List.perm_middle.nodup_iff]
      exact List.nodup_cons.2 ⟨fresh, once⟩

end Members

/-! ### Records -/

namespace Shape

variable {α : Type} {shape : Shape α} {members : List (String × String)}
variable (known : ∀ m ∈ members, m.1 ∈ shape.fields) (once : (members.map Prod.fst).Nodup)

include known once

/-- **A record that is written is read back**, whatever the layout and whatever follows. -/
theorem read_object (layout : Layout) (rest : List Char) :
    shape.read (layout.object members ++ rest)
      = (shape.assemble members.reverse rest).map (·, rest) := by
  have opened (text : List Char) : shape.read ('{' :: text)
      = readMembers shape.fields true [] text >>= fun p =>
          (shape.assemble p.1 p.2).map (·, p.2) := by
    rfl
  rcases members with - | ⟨m, members⟩
  · have closed : readMembers shape.fields true [] ('}' :: rest) = .ok ([], rest) :=
      readMembers_end (@nextKey_foot .dense true rest)
    rw [Layout.object, List.cons_append, opened, List.singleton_append, closed]
    rfl
  · rw [Layout.object, List.cons_append, opened, List.append_assoc, List.append_assoc,
      readMembers_member (nextKey_margin m _) (known m List.mem_cons_self) List.not_mem_nil,
      readMembers_remainder (fun m' mem => known m' (List.mem_cons_of_mem m mem)),
      List.reverse_cons]
    · rfl
    · exact (List.perm_append_singleton m.1 _).nodup_iff.2 once

/-- A text that consists of a written record and blanks is decoded. -/
theorem decode_object {value : α} (layout : Layout) {blanks : List Char}
    (spacing : IsSpacing blanks)
    (made : ∀ rest, shape.assemble members.reverse rest = .ok value) :
    shape.decode (String.ofList (layout.object members ++ blanks)) = .ok value := by
  have read : shape.read (layout.object members ++ blanks) = .ok (value, blanks) := by
    rw [read_object known once, made]
    rfl
  have nothing : dropSpaces blanks = [] := by
    rw [← List.append_nil blanks, dropSpaces_append spacing]
    rfl
  have readAll : shape.readAll (layout.object members ++ blanks) = .ok value := by
    simp only [readAll, read, bind, Except.bind, nothing]
    rfl
  rw [decode, String.toList_ofList, readAll]
  rfl

end Shape

end Json

end PackageRelease
