/-
PackageRelease/Proofs/Json/Reading.lean

Which values are read as records, however they are written.

Of an object the members count whose keys are fields of the record: each must
be a string, and no key may come twice.  All other members are passed over.  An
array must have the fields' values and nothing else.

    {"b": 1, "a": "x", "b": [2]}    fields a       a is "x"
    ["x"]                           fields a       a is "x"
    {"a": "x", "a": "x"}            fields a       none

So the fields are found in the value (`fields?`), and the reader finds the same
ones in each text that the value is written as (`Shape.readAll_of_fields`), or
stops with a fault if there are none (`Shape.readAll_of_no_fields`).
-/
import PackageRelease.Proofs.Json.Passing

namespace PackageRelease

namespace Json

/-! ### The fields of a value -/

/-- The fields that have been found, with a member if it is one of the fields. -/
def takeMember (fields : List String) (before : List (String × String)) (member : String × Json) :
    Option (List (String × String)) :=
  if fields.contains member.1 then
    if (before.lookup member.1).isSome then none
    else member.2.text?.map fun text => (member.1, text) :: before
  else some before

/-- The fields whose values the items of an array are. -/
def itemFields : List String → List Json → Option (List (String × String))
  | [], [] => some []
  | field :: fields, item :: items =>
    item.text?.bind fun text => (itemFields fields items).map ((field, text) :: ·)
  | _, _ => none

/-- The fields of a record in a value. -/
def fields? (fields : List String) : Json → Option (List (String × String))
  | object members => members.foldlM (takeMember fields) []
  | array items => itemFields fields items
  | _ => none

section Members

variable {fields : List String} {member : String × Json} {members : List (String × Json)}
variable {before after values : List (String × String)}

theorem text?_eq_some_iff {value : Json} {text : String} :
    value.text? = some text ↔ value = .string text := by
  cases value <;> simp [text?]

theorem lookup_cons_eq_none_iff {key key' value : String} :
    ((key', value) :: before).lookup key = none ↔ key ≠ key' ∧ before.lookup key = none := by
  rw [List.lookup_cons]
  by_cases same : key = key'
  · simp [same]
  · rw [beq_false_of_ne same]
    exact ⟨fun absent => ⟨same, absent⟩, And.right⟩

theorem takeMember_of_not_mem (unknown : member.1 ∉ fields) :
    takeMember fields before member = some before := by
  rw [takeMember, if_neg (by simpa using unknown)]

theorem takeMember_eq_some_iff (known : member.1 ∈ fields) :
    takeMember fields before member = some after ↔
      before.lookup member.1 = none ∧
        ∃ text, member.2 = .string text ∧ (member.1, text) :: before = after := by
  rw [takeMember, if_pos (by simpa using known)]
  by_cases repeated : (before.lookup member.1).isSome
  · have found : before.lookup member.1 ≠ none := Option.isSome_iff_ne_none.1 repeated
    simp [repeated, found]
  · have fresh : before.lookup member.1 = none := Option.not_isSome_iff_eq_none.1 repeated
    simp only [fresh, Option.isSome_none, Bool.false_eq_true, if_false, Option.map_eq_some_iff,
      text?_eq_some_iff, true_and]

/-- The members that are fields are strings, and their keys are different. -/
theorem foldlM_takeMember_eq_some_iff :
    members.foldlM (takeMember fields) before = some values ↔
      ∃ texts : List (String × String),
        members.filter (·.1 ∈ fields) = texts.map (fun text => (text.1, .string text.2)) ∧
        (texts.map Prod.fst).Nodup ∧ (∀ text ∈ texts, before.lookup text.1 = none) ∧
        texts.reverse ++ before = values := by
  induction members generalizing before with
  | nil =>
    constructor
    · intro same
      obtain rfl : before = values := Option.some.inj same
      exact ⟨[], rfl, List.nodup_nil, by simp, rfl⟩
    · rintro ⟨texts, eq, -, -, rfl⟩
      obtain rfl : texts = [] := List.map_eq_nil_iff.1 eq.symm
      rfl
  | cons member members ih =>
    rw [List.foldlM_cons]
    by_cases known : member.1 ∈ fields
    · rw [List.filter_cons_of_pos (by simpa using known)]
      constructor
      · intro folded
        obtain ⟨after, taken, folded⟩ := Option.bind_eq_some_iff.1 folded
        obtain ⟨fresh, text, is_string, rfl⟩ := (takeMember_eq_some_iff known).1 taken
        obtain ⟨texts, eq, once, absent, rfl⟩ := ih.1 folded
        have apart : member.1 ∉ texts.map Prod.fst := by
          intro mem
          obtain ⟨other, mem, same⟩ := List.mem_map.1 mem
          exact (lookup_cons_eq_none_iff.1 (absent other mem)).1 same
        refine ⟨(member.1, text) :: texts, ?_, List.nodup_cons.2 ⟨apart, once⟩, ?_, ?_⟩
        · rw [List.map_cons, eq, ← is_string]
        · rw [List.forall_mem_cons]
          exact ⟨fresh, fun other mem => (lookup_cons_eq_none_iff.1 (absent other mem)).2⟩
        · rw [List.reverse_cons, List.append_assoc, List.singleton_append]
      · rintro ⟨texts, eq, once, absent, rfl⟩
        rcases texts with - | ⟨text, texts⟩
        · cases eq
        · obtain ⟨rfl, tail_eq⟩ := List.cons.inj eq
          obtain ⟨fresh, absent⟩ := List.forall_mem_cons.1 absent
          obtain ⟨apart, once⟩ := List.nodup_cons.1 once
          have absent' : ∀ other ∈ texts, ((text.1, text.2) :: before).lookup other.1 = none :=
            fun other mem => lookup_cons_eq_none_iff.2
              ⟨fun same => apart (List.mem_map.2 ⟨other, mem, same⟩), absent other mem⟩
          refine Option.bind_eq_some_iff.2 ⟨(text.1, text.2) :: before,
            (takeMember_eq_some_iff known).2 ⟨fresh, text.2, rfl, rfl⟩,
            ih.2 ⟨texts, tail_eq, once, absent', ?_⟩⟩
          rw [List.reverse_cons, List.append_assoc, List.singleton_append]
    · rw [takeMember_of_not_mem known, List.filter_cons_of_neg (by simpa using known)]
      exact ih

/-- One field is in no member of an object or in one, and this one is a string. -/
theorem foldlM_takeMember_singleton_iff {name : String} :
    members.foldlM (takeMember [name]) [] = some values ↔
      (members.filter (·.1 = name) = [] ∧ values = []) ∨
        ∃ text, members.filter (·.1 = name) = [(name, .string text)] ∧ values = [(name, text)] := by
  have same : members.filter (·.1 ∈ [name]) = members.filter (·.1 = name) :=
    List.filter_congr fun member _ => by simp
  rw [foldlM_takeMember_eq_some_iff, same]
  constructor
  · rintro ⟨texts, eq, once, -, rfl⟩
    have named : ∀ text ∈ texts, text.1 = name := by
      intro text mem
      have mem : (text.1, Json.string text.2) ∈ members.filter (·.1 = name) :=
        eq ▸ List.mem_map_of_mem mem
      simpa using (List.mem_filter.1 mem).2
    rcases texts with - | ⟨⟨key, text⟩, - | ⟨other, texts⟩⟩
    · exact .inl ⟨eq, rfl⟩
    · obtain rfl : key = name := named (key, text) List.mem_cons_self
      exact .inr ⟨text, eq, rfl⟩
    · have key_eq : key = name := named (key, text) List.mem_cons_self
      have other_eq : other.1 = name := named other (by simp)
      simp [key_eq, other_eq] at once
  · rintro (⟨eq, rfl⟩ | ⟨text, eq, rfl⟩)
    · exact ⟨[], eq, List.nodup_nil, by simp, rfl⟩
    · exact ⟨[(name, text)], eq, by simp, by simp, rfl⟩

/-- One field is the only item of an array, and this one is a string. -/
theorem itemFields_singleton_iff {name : String} {items : List Json} :
    itemFields [name] items = some values ↔
      ∃ text, items = [.string text] ∧ values = [(name, text)] := by
  rcases items with - | ⟨item, - | ⟨other, items⟩⟩
  · simp [itemFields]
  · cases item <;> simp [itemFields, text?, eq_comm]
  · cases item <;> simp [itemFields, text?]

end Members

variable {text rest : List Char} {tokens : List Token}

/-! ### Strings -/

theorem readText_start {c : Char} (starts : dropSpaces text = c :: rest) :
    readText (c :: rest) = readText text := by
  simp only [readText, dropSpaces_cons starts, starts]

/-- Of the values that are written the strings are read. -/
theorem readText_written {value : Json} (written : Written value.tokens text) (rest : List Char) :
    (readText (text ++ rest)).toOption = value.text?.map (·, rest) := by
  obtain ⟨c, left, start, starts⟩ := written.exists_dropSpaces
  cases value with
  | string content =>
    obtain ⟨body, after, spelling, rfl, starts⟩ := written.exists_string
    rw [readText, starts rest]
    simp only [if_true, readString_spelling spelling]
    rfl
  | null | bool | number | array | object =>
    have other : c ≠ '"' := fun quote => by simpa [text?] using start.quoted quote
    rw [readText, starts rest]
    simp only [if_neg other]
    rfl

/-! ### Members -/

/-- The reader comes to the key of the next member. -/
theorem nextKey_written {first : Bool} {key : String}
    (written : Written (separator first ++ (.string key :: tokens)) text) :
    ∃ body after, Spelling key.toList body ∧ Written tokens after ∧
      ∀ rest, nextKey first (text ++ rest) = .ok (true, body ++ '"' :: (after ++ rest)) := by
  cases first with
  | true =>
    obtain ⟨body, after, spelling, written, starts⟩ := Written.exists_string written
    refine ⟨body, after, spelling, written, fun rest => ?_⟩
    rw [nextKey, starts rest]
    rfl
  | false =>
    have written : Written (mark ',' :: .string key :: tokens) text := written
    obtain ⟨behind, written, comma⟩ := written.exists_mark (by decide)
    obtain ⟨body, after, spelling, written, starts⟩ := written.exists_string
    refine ⟨body, after, spelling, written, fun rest => ?_⟩
    rw [nextKey, comma rest]
    simp only [starts rest]
    rfl

/-- A member is taken if it is one of the fields, and else passed over. -/
theorem readMember_written {fields : List String} (before : List (String × String)) {key : String}
    {value : Json} {body after : List Char} (spelling : Spelling key.toList body)
    (written : Written (mark ':' :: (value.tokens ++ tokens)) after) :
    ∃ back, Written tokens back ∧ ∀ rest, EndsNumeral (back ++ rest) →
      (readMember fields before (body ++ '"' :: (after ++ rest))).toOption
        = (takeMember fields before (key, value)).map (·, back ++ rest) := by
  obtain ⟨behind, written, colon⟩ := written.exists_mark (by decide)
  obtain ⟨front, back, rfl, written, written'⟩ := written.exists_append
  refine ⟨back, written', fun rest ends => ?_⟩
  have behind_colon : skipColon (after ++ rest) = .ok (front ++ (back ++ rest)) := by
    rw [skipColon, colon rest, List.append_assoc]
    rfl
  rw [readMember, readString_spelling spelling, ok_bind, takeMember]
  simp only [behind_colon, ok_bind, skip_written written ends]
  split
  · split
    · rfl
    · rw [toOption_bind, readText_written written]
      cases value.text? <;> rfl
  · rfl

/-- The members are read one by one, up to the end of the object. -/
theorem readMembers_written {fields : List String} {first : Bool}
    {before : List (String × String)} {members : List (String × Json)}
    (written : Written (memberTokens first members) text) (rest : List Char) :
    (readMembers fields first before (text ++ rest)).toOption
      = (members.foldlM (takeMember fields) before).map (·, rest) := by
  -- with each member that is taken `before` grows, as it does in the fold
  induction members generalizing first before text with
  | nil =>
    have written : Written [mark '}'] text := written
    obtain ⟨after, rfl, starts⟩ := written.exists_mark (by decide)
    have closed : nextKey first (text ++ rest) = .ok (false, rest) := by
      rw [nextKey, starts rest]
      rfl
    rw [readMembers_end closed]
    rfl
  | cons member members ih =>
    obtain ⟨key, value⟩ := member
    obtain ⟨body, after, spelling, written, opened⟩ := nextKey_written written
    obtain ⟨back, written, read⟩ := readMember_written before spelling written
    rw [readMembers_eq, opened rest, ok_bind]
    simp only [if_true]
    rw [toOption_bind, read rest (written.endsNumeral_members rest), List.foldlM_cons]
    cases takeMember fields before (key, value) with
    | none => rfl
    | some before => exact ih written

/-! ### Items -/

/-- The reader comes to the next item. -/
theorem nextItem_written {first : Bool} {item : Json}
    (written : Written (separator first ++ (item.tokens ++ tokens)) text) :
    ∃ front back, Written item.tokens front ∧ Written tokens back ∧
      ∀ rest, ∃ c left, dropSpaces (front ++ (back ++ rest)) = c :: left ∧
        nextItem first (text ++ rest) = .ok (true, c :: left) := by
  cases first with
  | true =>
    have written : Written (item.tokens ++ tokens) text := written
    obtain ⟨front, back, rfl, written, written'⟩ := written.exists_append
    obtain ⟨c, left, start, starts⟩ := written.exists_dropSpaces
    refine ⟨front, back, written, written', fun rest => ⟨c, _, starts _, ?_⟩⟩
    rw [List.append_assoc, nextItem, starts]
    simp only [if_neg start.other, if_true]
  | false =>
    have written : Written (mark ',' :: (item.tokens ++ tokens)) text := written
    obtain ⟨behind, written, comma⟩ := written.exists_mark (by decide)
    obtain ⟨front, back, rfl, written, written'⟩ := written.exists_append
    obtain ⟨c, left, start, starts⟩ := written.exists_dropSpaces
    refine ⟨front, back, written, written', fun rest => ⟨c, _, starts _, ?_⟩⟩
    rw [nextItem, comma rest]
    simp only [List.append_assoc, starts, if_neg start.other]
    rfl

theorem nextItem_end {first : Bool} (written : Written (itemTokens first []) text)
    (rest : List Char) : nextItem first (text ++ rest) = .ok (false, rest) := by
  have written : Written [mark ']'] text := written
  obtain ⟨after, rfl, starts⟩ := written.exists_mark (by decide)
  rw [nextItem, starts rest]
  rfl

/-- An array that goes on has not ended. -/
theorem closeList_written {first : Bool} {item : Json}
    (written : Written (separator first ++ (item.tokens ++ tokens)) text) (rest : List Char) :
    (closeList (text ++ rest)).toOption = none := by
  have fault {c : Char} {left : List Char} (starts : dropSpaces (text ++ rest) = c :: left)
      (other : c ≠ ']') : (closeList (text ++ rest)).toOption = none := by
    rw [closeList, starts]
    simp only [if_neg other]
    split
    · split <;> rfl
    · rfl
  cases first with
  | true =>
    have written : Written (item.tokens ++ tokens) text := written
    obtain ⟨front, back, rfl, written, -⟩ := written.exists_append
    obtain ⟨c, left, start, starts⟩ := written.exists_dropSpaces
    rw [List.append_assoc] at fault ⊢
    exact fault (starts _) start.other
  | false =>
    obtain ⟨_, -, comma⟩ := Written.exists_mark written (by decide)
    exact fault (comma rest) (by decide)

/-- The items are read one by one, up to the end of the array. -/
theorem readItems_written {expected : String} {count : Nat} {fields : List String}
    {items : List Json} (written : Written (itemTokens (count == 0) items) text)
    (rest : List Char) :
    (readItems expected count fields (text ++ rest)).toOption
      = (itemFields fields items).map (·, rest) := by
  induction fields generalizing count items text with
  | nil =>
    cases items with
    | nil =>
      have written : Written [mark ']'] text := written
      obtain ⟨after, rfl, starts⟩ := written.exists_mark (by decide)
      have closed : closeList (text ++ rest) = .ok rest := by
        rw [closeList, starts rest]
        rfl
      rw [readItems, closed]
      rfl
    | cons item items =>
      rw [readItems, toOption_bind, closeList_written written]
      rfl
  | cons field fields ih =>
    cases items with
    | nil =>
      rw [readItems, nextItem_end written]
      rfl
    | cons item items =>
      obtain ⟨front, back, written, written', next⟩ := nextItem_written written
      obtain ⟨c, left, starts, next⟩ := next rest
      have behind : (readItems expected (count + 1) fields (back ++ rest)).toOption
          = (itemFields fields items).map (·, rest) := ih written'
      rw [readItems, next, ok_bind]
      simp only
      rw [toOption_bind, readText_start starts, readText_written written, itemFields]
      cases item.text? with
      | none => rfl
      | some text =>
        simp only [Option.map_some, Option.bind_some]
        rw [toOption_bind, behind]
        cases itemFields fields items <;> rfl

/-! ### Records -/

namespace Shape

variable {α : Type} {shape : Shape α} {value : Json} {values : List (String × String)}

/-- A value that is written is read in two steps: its fields are found, and the record is made of
them. -/
theorem read_written (written : Written value.tokens text) (rest : List Char) :
    ∃ found : Except Fault (List (String × String) × List Char),
      found.toOption = (value.fields? shape.fields).map (·, rest) ∧
        shape.read (text ++ rest)
          = found >>= fun p => (shape.assemble p.1 p.2).map (·, p.2) := by
  obtain ⟨c, left, start, starts⟩ := written.exists_dropSpaces
  cases value with
  | object members =>
    obtain ⟨after, written, starts⟩ := Written.exists_mark written (by decide)
    refine ⟨_, readMembers_written written rest, ?_⟩
    rw [read, starts rest]
    rfl
  | array items =>
    obtain ⟨after, written, starts⟩ := Written.exists_mark written (by decide)
    refine ⟨_, @readItems_written after shape.wordsWithLength 0 shape.fields items written rest, ?_⟩
    rw [read, starts rest]
    rfl
  | null | bool | number | string =>
    -- no bracket opens here, whatever the reader says of the value instead
    refine ⟨.error (wrongType shape.words (c :: (left ++ rest))), rfl, ?_⟩
    rw [read, starts rest]
    simp only [start.opener]
    rfl

/-- The record that has the fields. -/
def ofFields (shape : Shape α) (values : List (String × String)) : Except Cause α :=
  shape.make fun name =>
    match values.lookup name with
    | some value => .ok value
    | none => .error (.missingField name)

theorem assemble_eq (values : List (String × String)) (rest : List Char) :
    shape.assemble values rest = (shape.ofFields values).mapError (⟨·, rest, 0⟩) := rfl

/-- **If a value has the fields, each text that it is written as is read as the record of them.** -/
theorem readAll_of_fields (rendered : value.RenderedAs text)
    (has : value.fields? shape.fields = some values) :
    ∃ blanks, shape.readAll text = (shape.ofFields values).mapError (⟨·, blanks, 0⟩) := by
  obtain ⟨body, blanks, rfl, written, spacing⟩ := rendered
  obtain ⟨found, same, read⟩ := read_written written blanks
  have nothing : dropSpaces blanks = [] := by
    rw [← List.append_nil blanks, dropSpaces_append spacing]
    rfl
  refine ⟨blanks, ?_⟩
  rw [has] at same
  rcases found with fault | p
  · cases same
  · obtain rfl : p = (values, blanks) := Option.some.inj same
    rw [readAll, read, ok_bind, assemble_eq]
    cases shape.ofFields values with
    | error cause => rfl
    | ok record =>
      have made : (Except.mapError (fun cause => Fault.mk cause blanks 0) (.ok record)).map
          (·, blanks) = .ok (record, blanks) := rfl
      rw [made, ok_bind]
      dsimp only
      rw [nothing]
      rfl

/-- **If a value does not have the fields, no text that it is written as is read.** -/
theorem readAll_of_no_fields (rendered : value.RenderedAs text)
    (lacks : value.fields? shape.fields = none) : ∃ fault, shape.readAll text = .error fault := by
  obtain ⟨body, blanks, rfl, written, -⟩ := rendered
  obtain ⟨found, same, read⟩ := read_written written blanks
  rw [lacks] at same
  rcases found with fault | p
  · exact ⟨fault, by rw [readAll, read, error_bind, error_bind]⟩
  · cases same

end Shape

end Json

end PackageRelease
