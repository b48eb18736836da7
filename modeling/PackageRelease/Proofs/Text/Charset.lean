/-
PackageRelease/Proofs/Text/Charset.lean

Which text some bytes are, said without a reader.

    type/subtype; name=value; name="value" ...     `HasParameters`
    the first parameter that is called charset      `States`
    characters, and U+FFFD for what is none         `Spells`
    byte-order mark, bytes                          `Reads`

The first two say which set a media type states (`ofMediaType_eq_iff`), and
the last two which text bytes are in a set (`decode_eq_iff`).  In UTF-16 a
character has one unit of two bytes or a pair of surrogates; a surrogate that
is in no pair becomes U+FFFD, and so does a byte that is left over at the end,
which a first surrogate right in front of it shares with it.
-/
import Mathlib.Data.List.Forall2
import Mathlib.Data.List.TakeWhile
import PackageRelease.Proofs.Text.Utf8
import PackageRelease.Text.Charset

namespace PackageRelease

namespace Charset

/-! ### Media types -/

/-- The characters are a word of a media type. -/
structure IsWord (word : List Char) : Prop where
  nonempty : word ≠ []
  allowed : ∀ c ∈ word, isWordChar c

/-- A word may end in front of the characters. -/
def EndsWord (rest : List Char) : Prop := ∀ c ∈ rest.head?, c = ' ' ∨ c = ';'

/-- The characters stand between parameters. -/
def IsGap (gap : List Char) : Prop := ∀ c ∈ gap, c = ' ' ∨ c = ';'

/-- The characters are written for the value of a parameter, and `rest` may be behind it. -/
inductive IsValue (value rest : List Char) : List Char → Prop
  | word (is_word : IsWord value) (ends : EndsWord rest) : IsValue value rest value
  | quoted (closed : '"' ∉ value) : IsValue value rest ('"' :: (value ++ ['"']))

/-- The characters are parameters with the names and the values. -/
inductive Parameters : List Char → List (String × String) → Prop
  | nothing {gap : List Char} (parts : IsGap gap) : Parameters gap []
  | parameter {gap name value written rest : List Char} {more : List (String × String)}
      (parts : IsGap gap) (named : IsWord name) (valued : IsValue value rest written)
      (behind : Parameters rest more) :
      Parameters (gap ++ (name ++ '=' :: (written ++ rest))) ((.ofList name, .ofList value) :: more)

/-- The media type has the parameters. -/
def HasParameters (mediaType : String) (parameters : List (String × String)) : Prop :=
  (∀ c ∈ mediaType.toList, isHeaderChar c) ∧
    ∃ kind subkind rest, mediaType.toList = kind ++ '/' :: (subkind ++ rest) ∧
      IsWord kind ∧ IsWord subkind ∧ EndsWord rest ∧ Parameters rest parameters

/-- A parameter of the name states a set of characters. -/
def IsCharsetName (name : String) : Prop := name.toList.map Char.toLower = "charset".toList

/-- The media type states the set, by the first parameter that does; one that has no such parameter,
or is none, states UTF-8. -/
inductive States (mediaType : Option String) : Charset → Prop
  | named {text name value : String} {before after : List (String × String)}
      (is : mediaType = some text) (has : HasParameters text (before ++ (name, value) :: after))
      (states : IsCharsetName name) (first : ∀ p ∈ before, ¬ IsCharsetName p.1) :
      States mediaType (ofName value)
  | silent (none : ∀ text parameters, mediaType = some text → HasParameters text parameters →
      ∀ p ∈ parameters, ¬ IsCharsetName p.1) : States mediaType utf8

section MediaTypes

variable {text word value behind rest gap : List Char} {parameters : List (String × String)}

/-! #### Words -/

section

variable {p : Char → Bool} {run : List Char} (inside : ∀ c ∈ run, p c = true)
variable (outside : ∀ c ∈ rest.head?, p c = false)

include inside outside

theorem takeWhile_append_of_head : (run ++ rest).takeWhile p = run := by
  rw [List.takeWhile_append_of_pos inside]
  rcases rest with - | ⟨c, rest⟩
  · simp
  · rw [List.takeWhile_cons_of_neg (by simp [outside c rfl]), List.append_nil]

theorem dropWhile_append_of_head : (run ++ rest).dropWhile p = rest := by
  rw [List.dropWhile_append_of_pos inside]
  rcases rest with - | ⟨c, rest⟩
  · simp
  · rw [List.dropWhile_cons_of_neg (by simp [outside c rfl])]

end

theorem not_of_mem_head?_dropWhile {p : Char → Bool} (text : List Char) :
    ∀ c ∈ (text.dropWhile p).head?, p c = false :=
  fun _ first => dropWhile_head?_ne text first

theorem isParting_iff {c : Char} : isParting c ↔ c = ' ' ∨ c = ';' := by
  simp [isParting]

theorem endsWord_iff : endsWord rest ↔ EndsWord rest := by
  rcases rest with - | ⟨c, rest⟩ <;> simp [endsWord, EndsWord, isParting_iff]

theorem EndsWord.not_isWordChar (ends : EndsWord rest) :
    ∀ c ∈ rest.head?, isWordChar c = false := by
  intro c first
  rcases ends c first with rfl | rfl <;> decide

/-- The word at the start of a text is as long as can be. -/
theorem word?_eq_some_iff :
    word? text = some (word, rest) ↔
      text = word ++ rest ∧ IsWord word ∧ ∀ c ∈ rest.head?, isWordChar c = false := by
  unfold word?
  constructor
  · intro read
    split at read
    · cases read
    · next nonempty =>
      cases read
      exact ⟨List.takeWhile_append_dropWhile.symm,
        ⟨by simpa using nonempty, fun c mem => List.mem_takeWhile_imp mem⟩,
        not_of_mem_head?_dropWhile text⟩
  · rintro ⟨rfl, is_word, ends⟩
    rw [takeWhile_append_of_head is_word.allowed ends,
      dropWhile_append_of_head is_word.allowed ends, if_neg (by simpa using is_word.nonempty)]

/-- A word that has to end does so in front of what parts parameters. -/
theorem filter_word?_eq_some_iff :
    (word? text).filter (fun (_, behind) => endsWord behind) = some (word, rest) ↔
      text = word ++ rest ∧ IsWord word ∧ EndsWord rest := by
  rw [Option.filter_eq_some_iff, word?_eq_some_iff, endsWord_iff]
  exact ⟨fun ⟨⟨eq, is_word, _⟩, ends⟩ => ⟨eq, is_word, ends⟩,
    fun ⟨eq, is_word, ends⟩ => ⟨⟨eq, is_word, ends.not_isWordChar⟩, ends⟩⟩

/-! #### Parameters -/

theorem value?_eq_some_iff :
    value? text = some (value, rest) ↔ ∃ written, text = written ++ rest ∧
      IsValue value rest written := by
  constructor
  · intro read
    unfold value? at read
    split at read
    · next text =>
      split at read
      · cases read
      · next c behind closing =>
        cases read
        have split := List.takeWhile_append_dropWhile (p := fun c => decide (c ≠ '"')) (l := text)
        have quote := not_of_mem_head?_dropWhile (p := fun c => decide (c ≠ '"')) text c
          (by rw [closing]; rfl)
        obtain rfl : c = '"' := by simpa using quote
        refine ⟨_, ?_, .quoted fun inside => ?_⟩
        · rw [closing] at split
          simpa using split.symm
        · simpa using List.mem_takeWhile_imp inside
    · obtain ⟨rfl, is_word, ends⟩ := filter_word?_eq_some_iff.1 read
      exact ⟨value, rfl, .word is_word ends⟩
  · rintro ⟨written, rfl, valued⟩
    cases valued with
    | quoted closed =>
      have inside : ∀ c ∈ value, decide (c ≠ '"') = true := by
        intro c mem
        exact decide_eq_true fun same => closed (same ▸ mem)
      have quote : ∀ c ∈ ('"' :: rest).head?, decide (c ≠ '"') = false := by simp
      -- the closing quote is the first one behind the opening one
      rw [List.cons_append, List.append_assoc, List.singleton_append, value?,
        dropWhile_append_of_head inside quote, takeWhile_append_of_head inside quote]
    | word is_word ends =>
      have read := filter_word?_eq_some_iff.2 ⟨rfl, is_word, ends⟩
      unfold value?
      split
      · next first =>
        -- a quote is in no word
        obtain ⟨c, word, rfl⟩ := List.exists_cons_of_ne_nil is_word.nonempty
        obtain ⟨rfl, -⟩ := List.cons.inj first
        exact absurd (is_word.allowed '"' (by simp)) (by decide)
      · exact read

theorem parameter?_eq_some_iff {parameter : String × String} :
    parameter? text = some (parameter, rest) ↔ ∃ name value written,
      text = name ++ '=' :: (written ++ rest) ∧ IsWord name ∧ IsValue value rest written ∧
        parameter = (.ofList name, .ofList value) := by
  simp only [parameter?, Option.bind_eq_bind, Option.bind_eq_some_iff, Prod.exists]
  constructor
  · rintro ⟨name, behind, worded, read⟩
    obtain ⟨rfl, named, -⟩ := word?_eq_some_iff.1 worded
    split at read
    · next same =>
      cases same
      obtain ⟨⟨value, rest'⟩, valued, made⟩ := Option.bind_eq_some_iff.1 read
      cases made
      obtain ⟨written, rfl, is_value⟩ := value?_eq_some_iff.1 valued
      exact ⟨name, value, written, rfl, named, is_value, rfl⟩
    · cases read
  · rintro ⟨name, value, written, rfl, named, is_value, rfl⟩
    refine ⟨name, '=' :: (written ++ rest), word?_eq_some_iff.2 ⟨rfl, named, ?_⟩, ?_⟩
    · rintro c ⟨⟩
      decide
    · exact Option.bind_eq_some_iff.2
        ⟨(value, rest), value?_eq_some_iff.2 ⟨written, rfl, is_value⟩, rfl⟩

/-- A word does not start with what parts parameters. -/
theorem IsWord.not_isParting (is_word : IsWord word) (rest : List Char) :
    ∀ c ∈ (word ++ rest).head?, isParting c = false := by
  obtain ⟨c, word, rfl⟩ := List.exists_cons_of_ne_nil is_word.nonempty
  rintro _ ⟨⟩
  have allowed := is_word.allowed c (by simp)
  by_contra parts
  rcases isParting_iff.1 (by simpa using parts) with rfl | rfl <;> exact absurd allowed (by decide)

/-- No text has more parameters than characters, so a limit above that is none. -/
theorem parameters?_eq_some_iff {limit : Nat} (room : text.length < limit) :
    parameters? limit text = some parameters ↔ Parameters text parameters := by
  induction limit generalizing text parameters with
  | zero => exact absurd room (Nat.not_lt_zero _)
  | succ limit ih =>
    rw [parameters?]
    constructor
    · intro read
      have apart := List.takeWhile_append_dropWhile (p := isParting) (l := text)
      have parts : IsGap (text.takeWhile isParting) := fun c mem =>
        isParting_iff.1 (List.mem_takeWhile_imp mem)
      split at read
      · next nothing =>
        cases read
        rw [nothing, List.append_nil] at apart
        exact apart ▸ .nothing parts
      · obtain ⟨⟨parameter, behind⟩, here, read⟩ := Option.bind_eq_some_iff.1 read
        obtain ⟨more, further, made⟩ := Option.bind_eq_some_iff.1 read
        cases made
        obtain ⟨name, value, written, eq, named, is_value, rfl⟩ := parameter?_eq_some_iff.1 here
        rw [eq] at apart
        rw [← apart] at room ⊢
        -- a parameter has a character at least, so what is behind it has room in the limit
        refine .parameter parts named is_value ((ih ?_).1 further)
        simp only [List.length_append, List.length_cons] at room
        omega
    · intro reads
      cases reads with
      | nothing parts =>
        have skipped : (text ++ []).dropWhile isParting = [] :=
          dropWhile_append_of_head (fun c mem => isParting_iff.2 (parts c mem)) (by simp)
        rw [List.append_nil] at skipped
        rw [skipped]
      | @parameter gap name value written rest more parts named is_value behind =>
        rw [dropWhile_append_of_head (fun c mem => isParting_iff.2 (parts c mem))
          (named.not_isParting _)]
        have here := parameter?_eq_some_iff.2 ⟨name, value, written, rfl, named, is_value, rfl⟩
        have further := (ih (by simp at room; omega)).2 behind
        split
        · next nothing => exact absurd (List.append_eq_nil_iff.1 nothing).1 named.nonempty
        · rw [here]
          simp [further]

/-- A media type has the parameters that are read off it. -/
theorem mediaParameters?_eq_some_iff {mediaType : String} :
    mediaParameters? mediaType = some parameters ↔ HasParameters mediaType parameters := by
  unfold mediaParameters? HasParameters
  rw [← List.all_eq_true]
  dsimp only
  split
  · next plain =>
    rw [and_iff_right plain]
    simp only [Option.bind_eq_bind, Option.bind_eq_some_iff, Prod.exists]
    constructor
    · rintro ⟨kind, rest, worded, read⟩
      obtain ⟨eq, is_kind, -⟩ := word?_eq_some_iff.1 worded
      split at read
      · next same =>
        cases same
        obtain ⟨⟨subkind, rest'⟩, second, further⟩ := Option.bind_eq_some_iff.1 read
        obtain ⟨rfl, is_subkind, ends⟩ := filter_word?_eq_some_iff.1 second
        exact ⟨kind, subkind, rest', eq, is_kind, is_subkind, ends,
          (parameters?_eq_some_iff (Nat.lt_succ_self _)).1 further⟩
      · cases read
    · rintro ⟨kind, subkind, rest, eq, is_kind, is_subkind, ends, has⟩
      refine ⟨kind, '/' :: (subkind ++ rest), word?_eq_some_iff.2 ⟨eq, is_kind, ?_⟩, ?_⟩
      · rintro c ⟨⟩
        decide
      · exact Option.bind_eq_some_iff.2 ⟨(subkind, rest),
          filter_word?_eq_some_iff.2 ⟨rfl, is_subkind, ends⟩,
          (parameters?_eq_some_iff (Nat.lt_succ_self _)).2 has⟩
  · next odd => simp [odd]

theorem isCharsetName_iff {name : String} : isCharsetName name ↔ IsCharsetName name := by
  rw [isCharsetName, decide_eq_true_eq, IsCharsetName]

/-- Parameters that are found are those of a media type. -/
theorem getD_mediaParameters?_eq_iff {mediaType : Option String} (nonempty : parameters ≠ []) :
    (mediaType.bind mediaParameters?).getD [] = parameters ↔
      ∃ text, mediaType = some text ∧ HasParameters text parameters := by
  rw [Option.getD_eq_iff, or_iff_left fun ⟨_, empty⟩ => nonempty empty.symm,
    Option.bind_eq_some_iff]
  simp only [mediaParameters?_eq_some_iff]

/-- **The set of a media type is the one that it states.** -/
theorem ofMediaType_eq_iff {mediaType : Option String} {set : Charset} :
    ofMediaType mediaType = set ↔ States mediaType set := by
  unfold ofMediaType
  dsimp only
  constructor
  · rintro rfl
    split
    · next name value found =>
      obtain ⟨states, before, after, split, first⟩ := List.find?_eq_some_iff_append.1 found
      obtain ⟨text, is, has⟩ := (getD_mediaParameters?_eq_iff (by simp)).1 split
      exact .named is has (isCharsetName_iff.1 states) fun p mem named => by
        simpa [isCharsetName_iff.2 named] using first p mem
    · next nothing =>
      refine .silent fun text parameters is has p mem named => ?_
      have read := (getD_mediaParameters?_eq_iff (List.ne_nil_of_mem mem)).2 ⟨text, is, has⟩
      rw [read] at nothing
      exact List.find?_eq_none.1 nothing p mem (isCharsetName_iff.2 named)
  · intro states
    cases states with
    | @named text name value before after is has states first =>
      have found : (before ++ (name, value) :: after).find? (fun p => isCharsetName p.1)
          = some (name, value) :=
        List.find?_eq_some_iff_append.2 ⟨isCharsetName_iff.2 states, before, after, rfl,
          fun p mem => by simpa using mt isCharsetName_iff.1 (first p mem)⟩
      rw [(getD_mediaParameters?_eq_iff (by simp)).2 ⟨text, is, has⟩, found]
    | silent none =>
      have nothing : ((mediaType.bind mediaParameters?).getD []).find?
          (fun p => isCharsetName p.1) = .none := by
        rw [List.find?_eq_none]
        intro p mem named
        obtain ⟨text, is, has⟩ := (getD_mediaParameters?_eq_iff (List.ne_nil_of_mem mem)).1 rfl
        exact none text _ is has p mem (isCharsetName_iff.1 named)
      rw [nothing]

end MediaTypes

/-! ### Reading -/

/-- The character of a byte in windows-1252. -/
def IsLatin (b : UInt8) (c : Char) : Prop :=
  if 0x80 ≤ b.toNat ∧ b.toNat < 0xa0 then
    "€\x81‚ƒ„…†‡ˆ‰Š‹Œ\x8dŽ\x8f\x90‘’“”•–—˜™š›œ\x9džŸ".toList[b.toNat - 0x80]? = some c
  else c.toNat = b.toNat

/-- The units of a character in UTF-16. -/
def unitsOf (c : Char) : List Nat :=
  if c.toNat < 0x10000 then [c.toNat]
  else [0xd800 + (c.toNat - 0x10000) / 0x400, 0xdc00 + (c.toNat - 0x10000) % 0x400]

/-- The bytes of a unit. -/
def unitBytes (bigEndian : Bool) (unit : Nat) : List UInt8 :=
  if bigEndian then [(unit / 0x100).toUInt8, (unit % 0x100).toUInt8]
  else [(unit % 0x100).toUInt8, (unit / 0x100).toUInt8]

/-- The unit is the first of a pair. -/
def IsHigh (unit : Nat) : Prop := 0xd800 ≤ unit ∧ unit < 0xdc00

/-- The unit is the second of a pair. -/
def IsLow (unit : Nat) : Prop := 0xdc00 ≤ unit ∧ unit < 0xe000

/-- The characters that units are read as, with a byte left over behind them or none. -/
inductive UnitsRead (odd : Bool) : List Nat → List Char → Prop
  | nil (even : odd = false) : UnitsRead odd [] []
  | cut (is_odd : odd = true) : UnitsRead odd [] ['\ufffd']
  | character (c : Char) {rest : List Nat} {cs : List Char} (behind : UnitsRead odd rest cs) :
      UnitsRead odd (unitsOf c ++ rest) (c :: cs)
  | high {n : Nat} {rest : List Nat} {cs : List Char} (is_high : IsHigh n)
      (alone : ∀ next ∈ rest.head?, ¬ IsLow next) (whole : rest = [] → odd = false)
      (behind : UnitsRead odd rest cs) : UnitsRead odd (n :: rest) ('\ufffd' :: cs)
  | high_cut {n : Nat} (is_high : IsHigh n) (is_odd : odd = true) : UnitsRead odd [n] ['\ufffd']
  | low {n : Nat} {rest : List Nat} {cs : List Char} (is_low : IsLow n)
      (behind : UnitsRead odd rest cs) : UnitsRead odd (n :: rest) ('\ufffd' :: cs)

/-- The characters that bytes are read as in UTF-16. -/
def ReadsAs16 (bigEndian : Bool) (bytes : List UInt8) (cs : List Char) : Prop :=
  ∃ units left, bytes = units.flatMap (unitBytes bigEndian) ++ left ∧ (∀ n ∈ units, n < 0x10000) ∧
    left.length ≤ 1 ∧ UnitsRead (!left.isEmpty) units cs

/-- The text that bytes without a byte-order mark are read as in a set. -/
def Spells (decoders : Decoders) (bytes : List UInt8) (text : String) : Charset → Prop
  | utf8 => Utf8.ReadsAs bytes text.toList
  | utf16LittleEndian => ReadsAs16 false bytes text.toList
  | utf16BigEndian => ReadsAs16 true bytes text.toList
  | windows1252 => List.Forall₂ IsLatin bytes text.toList
  | other name =>
    match decoders name with
    | some decoder => decoder bytes = text
    | none => Utf8.ReadsAs bytes text.toList

/-- The text that bytes are read as in a set, unless their byte-order mark shows another one. -/
inductive Reads (decoders : Decoders) (set : Charset) (text : String) : List UInt8 → Prop
  | utf8 {bytes : List UInt8} (spells : Spells decoders bytes text utf8) :
      Reads decoders set text (0xef :: 0xbb :: 0xbf :: bytes)
  | utf16LittleEndian {bytes : List UInt8} (spells : Spells decoders bytes text utf16LittleEndian) :
      Reads decoders set text (0xff :: 0xfe :: bytes)
  | utf16BigEndian {bytes : List UInt8} (spells : Spells decoders bytes text utf16BigEndian) :
      Reads decoders set text (0xfe :: 0xff :: bytes)
  | unmarked {bytes : List UInt8} (no_utf8 : ¬ [0xef, 0xbb, 0xbf] <+: bytes)
      (no_little : ¬ [0xff, 0xfe] <+: bytes) (no_big : ¬ [0xfe, 0xff] <+: bytes)
      (spells : Spells decoders bytes text set) : Reads decoders set text bytes

/-! #### windows-1252 -/

theorem isLatin_windows1252Char (b : UInt8) : IsLatin b (windows1252Char b) := by
  have all : ∀ n : Fin 256, IsLatin (.ofFin n) (windows1252Char (.ofFin n)) := by
    unfold IsLatin
    decide +kernel
  exact all b.toFin

theorem windows1252Char_eq_iff {b : UInt8} {c : Char} : windows1252Char b = c ↔ IsLatin b c := by
  refine ⟨fun same => same ▸ isLatin_windows1252Char b, fun latin => ?_⟩
  have latin' := isLatin_windows1252Char b
  unfold IsLatin at latin latin'
  split at latin
  · next upper =>
    rw [if_pos upper, latin, Option.some.injEq] at latin'
    exact latin'.symm
  · next plain =>
    rw [if_neg plain] at latin'
    exact Char.toNat_inj.1 (latin'.trans latin.symm)

/-! #### UTF-16 -/

section Units

variable {bigEndian odd : Bool} {bytes left : List UInt8} {units : List Nat} {cs : List Char}
variable {n m : Nat} {rest : List Nat}

theorem toNat_div_mod (h : n < 0x10000) :
    (n / 0x100).toUInt8.toNat = n / 0x100 ∧ (n % 0x100).toUInt8.toNat = n % 0x100 :=
  ⟨Utf8.toNat_toUInt8 (by omega), Utf8.toNat_toUInt8 (by omega)⟩

theorem pairs_append (small : ∀ n ∈ units, n < 0x10000) (short : left.length ≤ 1) :
    pairs bigEndian (units.flatMap (unitBytes bigEndian) ++ left) = (units, !left.isEmpty) := by
  induction units with
  | nil =>
    match left, short with
    | [], _ => rfl
    | [_], _ => rfl
  | cons n units ih =>
    obtain ⟨high, low⟩ := toNat_div_mod (small n (by simp))
    have joined : n / 0x100 * 256 + n % 0x100 = n := by omega
    have behind := ih fun m mem => small m (by simp [mem])
    cases bigEndian <;> simp [unitBytes, pairs, behind, high, low, joined]

/-- The bytes are those of their units, and at most one more. -/
theorem exists_of_pairs (read : pairs bigEndian bytes = (units, odd)) :
    ∃ left, bytes = units.flatMap (unitBytes bigEndian) ++ left ∧ (∀ n ∈ units, n < 0x10000) ∧
      left.length ≤ 1 ∧ odd = !left.isEmpty := by
  induction bytes using pairs.induct bigEndian generalizing units odd with
  | case1 => cases read; exact ⟨[], rfl, by simp, by simp, rfl⟩
  | case2 b => cases read; exact ⟨[b], rfl, by simp, by simp, rfl⟩
  | case3 a b bytes units' odd' behind ih =>
    obtain ⟨left, rfl, small, short, rfl⟩ := ih behind
    simp only [pairs, behind, Prod.mk.injEq] at read
    obtain ⟨rfl, rfl⟩ := read
    have two (x y : UInt8) :
        ((x.toNat * 256 + y.toNat) / 0x100).toUInt8 = x ∧
          ((x.toNat * 256 + y.toNat) % 0x100).toUInt8 = y := by
      have := x.toNat_lt
      have := y.toNat_lt
      have high : (x.toNat * 256 + y.toNat) / 0x100 = x.toNat := by omega
      have low : (x.toNat * 256 + y.toNat) % 0x100 = y.toNat := by omega
      rw [high, low]
      exact ⟨UInt8.ofNat_toNat, UInt8.ofNat_toNat⟩
    have unit_lt (x y : UInt8) : x.toNat * 256 + y.toNat < 0x10000 := by
      have := x.toNat_lt
      have := y.toNat_lt
      omega
    refine ⟨left, ?_, ?_, short, rfl⟩
    · cases bigEndian <;> simp [unitBytes, two]
    · rintro n (- | ⟨-, mem⟩)
      · split <;> exact unit_lt _ _
      · exact small n mem

theorem isHighSurrogate_iff : isHighSurrogate n ↔ IsHigh n := by
  simp [isHighSurrogate, IsHigh]

theorem isLowSurrogate_iff : isLowSurrogate n ↔ IsLow n := by
  simp [isLowSurrogate, IsLow]

theorem IsHigh.not_isLow (high : IsHigh n) : ¬ IsLow n := fun low => by
  have := high.2
  have := low.1
  omega

theorem ofUnits_high (high : IsHigh n) (alone : ∀ next ∈ rest.head?, ¬ IsLow next)
    (whole : rest = [] → odd = false) : ofUnits odd (n :: rest) = '\ufffd' :: ofUnits odd rest := by
  rcases rest with - | ⟨m, rest⟩
  · simp [ofUnits, isHighSurrogate_iff.2 high, whole rfl]
  · have lone : ¬ isLowSurrogate m = true := mt isLowSurrogate_iff.1 (alone m rfl)
    simp [ofUnits, isHighSurrogate_iff.2 high, lone]

theorem ofUnits_low (low : IsLow n) : ofUnits odd (n :: rest) = '\ufffd' :: ofUnits odd rest := by
  have second : ¬ isHighSurrogate n = true := fun high =>
    (isHighSurrogate_iff.1 high).not_isLow low
  rcases rest with - | ⟨m, rest⟩ <;> simp [ofUnits, isLowSurrogate_iff.2 low, second]

theorem ofUnits_pair (high : IsHigh n) (low : IsLow m) :
    ofUnits odd (n :: m :: rest) =
      Char.ofNat (0x10000 + (n - 0xd800) * 0x400 + (m - 0xdc00)) :: ofUnits odd rest := by
  simp [ofUnits, isHighSurrogate_iff.2 high, isLowSurrogate_iff.2 low]

theorem ofUnits_plain (not_high : ¬ IsHigh n) (not_low : ¬ IsLow n) :
    ofUnits odd (n :: rest) = Char.ofNat n :: ofUnits odd rest := by
  have first : ¬ isHighSurrogate n = true := mt isHighSurrogate_iff.1 not_high
  have second : ¬ isLowSurrogate n = true := mt isLowSurrogate_iff.1 not_low
  rcases rest with - | ⟨m, rest⟩ <;> simp [ofUnits, first, second]

/-- The units of a character are read as the character. -/
theorem ofUnits_unitsOf_append (c : Char) (rest : List Nat) :
    ofUnits odd (unitsOf c ++ rest) = c :: ofUnits odd rest := by
  have bounded := Utf8.toNat_lt c
  have scalar : c.toNat < 0xd800 ∨ 0xdfff < c.toNat := c.valid.imp id And.left
  unfold unitsOf
  split
  · rw [List.singleton_append,
      ofUnits_plain (fun high => by have := high.1; have := high.2; omega)
        (fun low => by have := low.1; have := low.2; omega), Char.ofNat_toNat]
  · have joined : 0x10000 + (0xd800 + (c.toNat - 0x10000) / 0x400 - 0xd800) * 0x400 +
        (0xdc00 + (c.toNat - 0x10000) % 0x400 - 0xdc00) = c.toNat := by omega
    rw [List.cons_append, List.singleton_append, ofUnits_pair ⟨by omega, by omega⟩
      ⟨by omega, by omega⟩, joined, Char.ofNat_toNat]

/-- A pair of surrogates makes a character. -/
theorem exists_unitsOf_pair (high : IsHigh n) (low : IsLow m) : ∃ c, unitsOf c = [n, m] := by
  obtain ⟨low_le, low_lt⟩ := low
  obtain ⟨high_le, high_lt⟩ := high
  obtain ⟨value, eq⟩ : ∃ value, value = 0x10000 + (n - 0xd800) * 0x400 + (m - 0xdc00) := ⟨_, rfl⟩
  have first : 0xd800 + (value - 0x10000) / 0x400 = n := by omega
  have second : 0xdc00 + (value - 0x10000) % 0x400 = m := by omega
  refine ⟨.ofNat value, ?_⟩
  rw [unitsOf, Utf8.toNat_ofNat (by omega), if_neg (by omega), first, second]

/-- A unit that is no surrogate is a character. -/
theorem exists_unitsOf_plain (small : n < 0x10000) (not_high : ¬ IsHigh n) (not_low : ¬ IsLow n) :
    ∃ c, unitsOf c = [n] := by
  have scalar : n < 0xd800 ∨ 0xdfff < n ∧ n < 0x110000 := by
    unfold IsHigh at not_high
    unfold IsLow at not_low
    omega
  exact ⟨.ofNat n, by rw [unitsOf, Utf8.toNat_ofNat scalar, if_pos small]⟩

theorem exists_unitsRead_append {c : Char} {units : List Nat} (eq : unitsOf c = units)
    (behind : ∃ cs, UnitsRead odd rest cs) : ∃ cs, UnitsRead odd (units ++ rest) cs := by
  obtain ⟨cs, behind⟩ := behind
  subst eq
  exact ⟨_, .character c behind⟩

/-- Units are read as some characters. -/
theorem exists_unitsRead (odd : Bool) : ∀ units : List Nat, (∀ n ∈ units, n < 0x10000) →
    ∃ cs, UnitsRead odd units cs
  | [], _ => by
    rcases odd
    · exact ⟨_, .nil rfl⟩
    · exact ⟨_, .cut rfl⟩
  | [n], small => by
    by_cases high : IsHigh n
    · rcases odd
      · exact ⟨_, .high high nofun (fun _ => rfl) (.nil rfl)⟩
      · exact ⟨_, .high_cut high rfl⟩
    have behind := exists_unitsRead odd [] nofun
    by_cases low : IsLow n
    · exact ⟨_, .low low behind.choose_spec⟩
    · obtain ⟨c, eq⟩ := exists_unitsOf_plain (small n (by simp)) high low
      exact exists_unitsRead_append eq behind
  | n :: m :: rest, small => by
    have behind := exists_unitsRead odd (m :: rest) fun k mem => small k (by simp [mem])
    by_cases high : IsHigh n
    · by_cases low : IsLow m
      · obtain ⟨c, eq⟩ := exists_unitsOf_pair high low
        exact exists_unitsRead_append eq <|
          exists_unitsRead odd rest fun k mem => small k (by simp [mem])
      · exact ⟨_, .high high (by simpa using low) nofun behind.choose_spec⟩
    by_cases low : IsLow n
    · exact ⟨_, .low low behind.choose_spec⟩
    · obtain ⟨c, eq⟩ := exists_unitsOf_plain (small n (by simp)) high low
      exact exists_unitsRead_append eq behind

theorem UnitsRead.ofUnits_eq (reads : UnitsRead odd units cs) : ofUnits odd units = cs := by
  induction reads with
  | nil even => rw [even]; rfl
  | cut is_odd => rw [is_odd]; rfl
  | character c _ ih => rw [ofUnits_unitsOf_append, ih]
  | high is_high alone whole _ ih => rw [ofUnits_high is_high alone whole, ih]
  | high_cut is_high is_odd => simp [ofUnits, isHighSurrogate_iff.2 is_high]
  | low is_low _ ih => rw [ofUnits_low is_low, ih]

theorem ofUnits_eq_iff (small : ∀ n ∈ units, n < 0x10000) :
    ofUnits odd units = cs ↔ UnitsRead odd units cs := by
  refine ⟨?_, UnitsRead.ofUnits_eq⟩
  -- units are read as something, and as nothing else
  rintro rfl
  obtain ⟨cs, reads⟩ := exists_unitsRead odd units small
  exact reads.ofUnits_eq.symm ▸ reads

theorem ofUnits_pairs_eq_iff :
    ofUnits (pairs bigEndian bytes).2 (pairs bigEndian bytes).1 = cs ↔
      ReadsAs16 bigEndian bytes cs := by
  constructor
  · intro read
    obtain ⟨left, eq, small, short, odd_eq⟩ := exists_of_pairs (rfl : pairs bigEndian bytes = _)
    exact ⟨_, left, eq, small, short, odd_eq ▸ (ofUnits_eq_iff small).1 read⟩
  · rintro ⟨units, left, rfl, small, short, reads⟩
    rw [pairs_append small short]
    exact reads.ofUnits_eq

end Units

/-! #### All sets -/

variable {decoders : Decoders} {set : Charset} {bytes : List UInt8} {text : String}

theorem decodeUnmarked_eq_iff :
    decodeUnmarked decoders set bytes = text ↔ Spells decoders bytes text set := by
  cases set with
  | utf8 => exact Utf8.decodeLossy_eq_iff
  | utf16LittleEndian =>
    rw [Spells, ← ofUnits_pairs_eq_iff, ← String.toList_inj, decodeUnmarked, String.toList_ofList]
  | utf16BigEndian =>
    rw [Spells, ← ofUnits_pairs_eq_iff, ← String.toList_inj, decodeUnmarked, String.toList_ofList]
  | windows1252 =>
    have latin : IsLatin = fun b c => windows1252Char b = c := by
      funext b c
      exact propext windows1252Char_eq_iff.symm
    rw [Spells, decodeUnmarked, ← String.toList_inj, String.toList_ofList, latin,
      ← List.forall₂_map_left_iff, List.forall₂_eq_eq_eq]
  | other name =>
    rw [Spells, decodeUnmarked]
    rcases decoders name with - | decoder
    · exact Utf8.decodeLossy_eq_iff
    · rfl

/-- **Bytes are decoded to the text that they are read as.** -/
theorem decode_eq_iff : decode decoders set bytes = text ↔ Reads decoders set text bytes := by
  unfold decode
  constructor
  · intro read
    split at read
    · exact .utf8 (decodeUnmarked_eq_iff.1 read)
    · exact .utf16LittleEndian (decodeUnmarked_eq_iff.1 read)
    · exact .utf16BigEndian (decodeUnmarked_eq_iff.1 read)
    · next no_utf8 no_little no_big =>
      refine .unmarked ?_ ?_ ?_ (decodeUnmarked_eq_iff.1 read)
      · rintro ⟨rest, rfl⟩
        exact no_utf8 rest rfl
      · rintro ⟨rest, rfl⟩
        exact no_little rest rfl
      · rintro ⟨rest, rfl⟩
        exact no_big rest rfl
  · intro reads
    cases reads with
    | utf8 spells => exact decodeUnmarked_eq_iff.2 spells
    | utf16LittleEndian spells => exact decodeUnmarked_eq_iff.2 spells
    | utf16BigEndian spells => exact decodeUnmarked_eq_iff.2 spells
    | unmarked no_utf8 no_little no_big spells =>
      split
      · exact absurd (List.prefix_append [0xef, 0xbb, 0xbf] _) no_utf8
      · exact absurd (List.prefix_append [0xff, 0xfe] _) no_little
      · exact absurd (List.prefix_append [0xfe, 0xff] _) no_big
      · exact decodeUnmarked_eq_iff.2 spells

end Charset

end PackageRelease
