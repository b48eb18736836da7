/-
PackageRelease/Secret.lean

Texts that must not be shown, and what is shown instead.

A `Masker` knows some secrets.  In a text it replaces every occurrence of each
of them, one secret after the other and from left to right, by the secret's
masked form.  In a command line it replaces the arguments that are a secret as
a whole, so that a short secret does not mangle an argument that merely
contains it.  An argument is one if the first occurrence of the secret in it is
all of it.

A secret of ten characters or more keeps its first and its last three in the
masked form; of a shorter one nothing is left.
-/

namespace PackageRelease

/-- A text that must not be shown. -/
structure Secret where
  exposed : String
deriving DecidableEq

namespace Secret

/-- What is shown where a secret is set, whatever it is. -/
def placeholder : String := "[REDACTED]"

/-- What is shown of a short secret. -/
def mask : String := "****"

/-- The least number of characters of a secret that is shown in part. -/
def partialLength : Nat := 10

/-- What is shown of the characters of a secret. -/
def maskedChars (cs : List Char) : List Char :=
  if cs.length < partialLength then mask.toList
  else cs.take 3 ++ ['.', '.', '.'] ++ cs.drop (cs.length - 3)

/-- What is shown of a secret. -/
def masked (secret : Secret) : String := String.ofList (maskedChars secret.exposed.toList)

end Secret

/-! ### Finding -/

/-- How many characters stand in front of the first occurrence of a needle, if it occurs. -/
def firstOccurrence? (needle : List Char) : List Char → Option Nat
  | [] => if needle.isEmpty then some 0 else none
  | c :: rest =>
    if needle.isPrefixOf (c :: rest) then some 0 else (firstOccurrence? needle rest).map (· + 1)

/-- The first occurrence of a needle in a text is all of the text. -/
def isCoveredBy (text needle : List Char) : Bool :=
  match firstOccurrence? needle text with
  | some start => start == 0 && start + needle.length == text.length
  | none => false

/-! ### Replacing -/

/-- The text with every occurrence of `needle` replaced, from left to right; its first `n`
characters belong to an occurrence that has been replaced already. -/
def replaceFrom (needle replacement : List Char) : Nat → List Char → List Char
  | _, [] => []
  | n + 1, _ :: rest => replaceFrom needle replacement n rest
  | 0, c :: rest =>
    if needle.isPrefixOf (c :: rest) then
      replacement ++ replaceFrom needle replacement (needle.length - 1) rest
    else c :: replaceFrom needle replacement 0 rest

/-- The text with every occurrence of a needle replaced; the needle is not empty. -/
def replaceAll (needle replacement text : List Char) : List Char :=
  replaceFrom needle replacement 0 text

/-- An occurrence of which `n` characters are left is passed over. -/
theorem replaceFrom_drop (needle replacement : List Char) (n : Nat) (text : List Char) :
    replaceFrom needle replacement n text = replaceAll needle replacement (text.drop n) := by
  induction text generalizing n with
  | nil => simp [replaceAll, replaceFrom]
  | cons c rest ih =>
    cases n with
    | zero => rfl
    | succ n => exact ih n

/-! ### Maskers -/

/-- The secrets to be masked, in the order in which they are. -/
structure Masker where
  secrets : List Secret := []

namespace Masker

/-- The masker that also masks a secret; an empty one makes no difference.  That the secret can be
searched for is taken for granted: a search engine may refuse a secret of some megabytes, which
would then not be masked. -/
def register (masker : Masker) (secret : Secret) : Masker :=
  if secret.exposed.isEmpty then masker else ⟨masker.secrets ++ [secret]⟩

/-- The text with one secret masked. -/
def maskOne (text : List Char) (secret : Secret) : List Char :=
  replaceAll secret.exposed.toList (Secret.maskedChars secret.exposed.toList) text

/-- The text with every secret masked. -/
def mask (masker : Masker) (text : String) : String :=
  String.ofList (masker.secrets.foldl maskOne text.toList)

/-- An argument of a command, masked if it is a secret as a whole. -/
def maskArgument (masker : Masker) (argument : String) : String :=
  match masker.secrets.find? fun secret => isCoveredBy argument.toList secret.exposed.toList with
  | some secret => secret.masked
  | none => argument

/-- A command on one line, with those arguments masked that are a secret as a whole. -/
def maskCommand (masker : Masker) (program : String) (arguments : List String) : String :=
  String.intercalate " " (program :: arguments.map masker.maskArgument)

example : (Masker.register {} ⟨"aa"⟩).mask "aaa-a" = "****a-a" := by decide +kernel
example : (Masker.register {} ⟨"tok"⟩).maskCommand "run" ["tok", "token"] = "run **** token" := by
  decide +kernel

end Masker

end PackageRelease
