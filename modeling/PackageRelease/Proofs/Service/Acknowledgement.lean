/-
PackageRelease/Proofs/Service/Acknowledgement.lean

Which answers of the service are acknowledgements.

    {"message": "taken"}                              yes
    {"id": [1, {}], "m\u0065ssage" : "taken"}         yes, the key may be escaped
    ["taken"]                                         yes
    {"id": 1}                                         no, a field is missing
    {"message": "taken", "message": "taken"}          no, the key comes twice
    {"message": null}, ["taken", 1], "taken", []      no
    {"message": "taken"} x                            no, something is behind it

What decides is the value, and not how it is written.  It is an object in which
one member has the key `message`, and that one is a string, or an array with a
string in it and nothing else (`Conveys`).
-/
import PackageRelease.Proofs.Json.Continuation
import PackageRelease.Proofs.Json.Reading
import PackageRelease.Service.Reply

namespace PackageRelease

namespace Service

open Json

/-- The value conveys the message as an acknowledgement does. -/
inductive Conveys (message : String) : Json → Prop
  | object {members : List (String × Json)}
      (once : members.filter (·.1 = "message") = [("message", .string message)]) :
      Conveys message (.object members)
  | array : Conveys message (.array [.string message])

namespace Acknowledgement

variable {value : Json} {values : List (String × String)} {message : String}

theorem ofFields_nil : shape.ofFields [] = .error (.missingField "message") := rfl

theorem ofFields_singleton (message : String) :
    shape.ofFields [("message", message)] = .ok ⟨message⟩ := by
  simp only [Shape.ofFields, shape, List.lookup_cons, beq_self_eq_true]
  rfl

/-- A value has the field of an acknowledgement if it is one, or none if it is an object without
the field. -/
theorem fields?_eq_some_iff :
    value.fields? shape.fields = some values ↔
      (∃ members, value = .object members ∧ members.filter (·.1 = "message") = [] ∧ values = []) ∨
        ∃ message, Conveys message value ∧ values = [("message", message)] := by
  cases value with
  | object members =>
    show members.foldlM (takeMember ["message"]) [] = some values ↔ _
    rw [foldlM_takeMember_singleton_iff]
    constructor
    · rintro (⟨absent, rfl⟩ | ⟨message, once, rfl⟩)
      · exact .inl ⟨members, rfl, absent, rfl⟩
      · exact .inr ⟨message, .object once, rfl⟩
    · rintro (⟨_, ⟨⟩, absent, rfl⟩ | ⟨message, ⟨once⟩, rfl⟩)
      · exact .inl ⟨absent, rfl⟩
      · exact .inr ⟨message, once, rfl⟩
  | array items =>
    show itemFields ["message"] items = some values ↔ _
    rw [itemFields_singleton_iff]
    constructor
    · rintro ⟨message, rfl, rfl⟩
      exact .inr ⟨message, .array, rfl⟩
    · rintro (⟨_, ⟨⟩, -⟩ | ⟨message, conveys, rfl⟩)
      cases conveys
      exact ⟨message, rfl, rfl⟩
  | null | bool | number | string =>
    constructor
    · rintro ⟨⟩
    · rintro (⟨_, ⟨⟩, -⟩ | ⟨_, ⟨⟩, -⟩)

variable {text : String} (rendered : value.RenderedAs text.toList)

theorem fields?_of_conveys (conveys : Conveys message value) :
    value.fields? shape.fields = some [("message", message)] :=
  fields?_eq_some_iff.2 (.inr ⟨message, conveys, rfl⟩)

include rendered

/-- A text is an acknowledgement if the value that it is written for is one. -/
theorem decode_eq_ok_iff : decode text = .ok ⟨message⟩ ↔ Conveys message value := by
  rw [decode, Shape.decode, mapError_eq_ok_iff]
  constructor
  · intro read
    rcases has : value.fields? shape.fields with - | values
    · obtain ⟨fault, failed⟩ := Shape.readAll_of_no_fields rendered has
      rw [failed] at read
      cases read
    · obtain ⟨blanks, made⟩ := Shape.readAll_of_fields rendered has
      rw [made, mapError_eq_ok_iff] at read
      rcases fields?_eq_some_iff.1 has with ⟨_, -, -, rfl⟩ | ⟨found, conveys, rfl⟩
      · cases read
      · rw [ofFields_singleton] at read
        obtain rfl : found = message := congrArg Acknowledgement.message (Except.ok.inj read)
        exact conveys
  · intro conveys
    obtain ⟨blanks, made⟩ := Shape.readAll_of_fields rendered (fields?_of_conveys conveys)
    rw [made, ofFields_singleton]
    rfl

/-- An object without the field is told to lack it. -/
theorem decode_missing {members : List (String × Json)} (is : value = .object members)
    (absent : ∀ member ∈ members, member.1 ≠ "message") :
    ∃ fault : Fault, fault.cause = .missingField "message" ∧
      decode text = .error (fault.message text) := by
  have nothing : members.filter (·.1 = "message") = [] :=
    List.filter_eq_nil_iff.2 fun member mem => by simpa using absent member mem
  have has : value.fields? shape.fields = some [] :=
    fields?_eq_some_iff.2 (.inl ⟨members, is, nothing, rfl⟩)
  obtain ⟨blanks, made⟩ := Shape.readAll_of_fields rendered has
  refine ⟨⟨.missingField "message", blanks, 0⟩, rfl, ?_⟩
  rw [decode, Shape.decode, made, ofFields_nil]
  rfl

end Acknowledgement

/-- **An acknowledgement is told by the value and not by how it is written.**  Whatever its blanks
and its escapes, a text is one if it is written for an object with one member `message`, which is a
string, or for an array of one string.  An object without this member lacks a field, and an
acknowledgement with anything but blanks behind it is none. -/
theorem acknowledgement_accepted :
    (∀ (value : Json) (text : String), value.RenderedAs text.toList →
      (∀ message, Acknowledgement.decode text = .ok ⟨message⟩ ↔ Conveys message value) ∧
      ∀ members, value = .object members → (∀ member ∈ members, member.1 ≠ "message") →
        ∃ fault : Fault, fault.cause = .missingField "message" ∧
          Acknowledgement.decode text = .error (fault.message text)) ∧
    ∀ (text : String) (acknowledgement : Acknowledgement),
      Acknowledgement.decode text = .ok acknowledgement →
        ∀ (c : Char) (more : List Char), ¬ isSpace c →
          let longer := text ++ String.ofList (c :: more)
          ∃ fault : Fault, fault.cause = .trailingCharacters ∧
            Acknowledgement.decode longer = .error (fault.message longer) := by
  refine ⟨fun value text rendered => ⟨fun message => ?_, fun members is absent => ?_⟩,
    fun text acknowledgement read c more stays => ?_⟩
  · exact Acknowledgement.decode_eq_ok_iff rendered
  · exact Acknowledgement.decode_missing rendered is absent
  · have read : Acknowledgement.shape.readAll text.toList = .ok acknowledgement :=
      mapError_eq_ok_iff.1 read
    refine ⟨⟨.trailingCharacters, c :: more, 1⟩, rfl, ?_⟩
    rw [Acknowledgement.decode, Shape.decode, String.toList_append, String.toList_ofList,
      Shape.readAll_append more read stays]
    rfl

/-- A key and a message that are written with escapes, blanks in front of tokens, and a member that
is passed over. -/
theorem acknowledgement_accepted_escaped :
    let value : Json := .object [("id", .array [.number "-1e3"]), ("message", .string "a/𝄞")]
    let text := "\x7b\n\"id\" : [ -1e3],\t\"m\\u0065ssage\":\"a\\/\\uD834\\udd1e\" \x7d\r"
    value.RenderedAs text.toList ∧ Acknowledgement.decode text = .ok ⟨"a/𝄞"⟩ ∧
      ∃ fault : Fault, fault.cause = .trailingCharacters ∧
        Acknowledgement.decode (text ++ String.ofList ['x'])
          = .error (fault.message (text ++ String.ofList ['x'])) := by
  intro value text
  obtain ⟨accepted, refused⟩ := acknowledgement_accepted
  have id : Spelling "id".toList ['i', 'd'] := spelling_self (by decide)
  have numeral : IsNumeral "-1e3".toList :=
    @IsNumeral.parts ['-'] ['1'] [] ['e', '3'] (.inr rfl) (.digits (by decide) (by decide)) .none
      (@IsExponent.digits 'e' [] ['3'] (.inl rfl) (.inl rfl) (by decide))
  have e : Spelled 'e' ['\\', 'u', '0', '0', '6', '5'] :=
    .escaped (.unit (@IsHex.digits 0 0 6 5 _ _ _ _ (by decide) (by decide) (by decide) (by decide)))
  have high : IsHex 0xd834 ['D', '8', '3', '4'] :=
    @IsHex.digits 13 8 3 4 _ _ _ _ (by decide) (by decide) (by decide) (by decide)
  have low : IsHex 0xdd1e ['d', 'd', '1', 'e'] :=
    @IsHex.digits 13 13 1 14 _ _ _ _ (by decide) (by decide) (by decide) (by decide)
  have clef : Spelled '𝄞'
      ('\\' :: 'u' :: (['D', '8', '3', '4'] ++ '\\' :: 'u' :: ['d', 'd', '1', 'e'])) :=
    .escaped (.pair (by decide) high low)
  have key : Spelling "message".toList "m\\u0065ssage".toList :=
    .cons (.plain (by decide) (by decide) (by decide)) (.cons e (spelling_self (by decide)))
  have message : Spelling "a/𝄞".toList "a\\/\\uD834\\udd1e".toList :=
    .cons (.plain (by decide) (by decide) (by decide))
      (.cons (.escaped (.letter (by decide))) (.cons clef .nil))
  have tight : IsSpacing [] := isSpacing_nil
  have blank : IsSpacing [' '] := by decide
  have line : IsSpacing ['\n'] := by decide
  have tab : IsSpacing ['\t'] := by decide
  have written : Written value.tokens _ :=
    .cons_mark tight '{' (.cons_string line id (.cons_mark blank ':' (.cons_mark blank '['
      (.cons_number blank numeral (.cons_mark tight ']' (.cons_mark tight ','
        (.cons_string tab key (.cons_mark tight ':' (.cons_string tight message
          (.cons_mark blank '}' rfl))))))))))
  have rendered : value.RenderedAs text.toList := ⟨_, ['\r'], by decide, written, by decide⟩
  have conveys : Conveys "a/𝄞" value := .object (by rfl)
  have read : Acknowledgement.decode text = .ok ⟨"a/𝄞"⟩ :=
    ((accepted value text rendered).1 "a/𝄞").2 conveys
  exact ⟨rendered, read, refused text ⟨"a/𝄞"⟩ read 'x' [] (by decide)⟩

end Service

end PackageRelease
