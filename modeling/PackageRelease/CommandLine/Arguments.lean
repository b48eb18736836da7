/-
PackageRelease/CommandLine/Arguments.lean

What the words of a command line ask for.

    release-publisher [options] [release | metadata | upload | inspect] [options]

Options may stand on both sides of the command, and the ones behind it win; on
one side an option with a value may stand once only.  The value of an option
is the next word or follows an equals sign.  A value that is the next word is
looked at only when the words of its side go on with another option or come to
their end, and the words behind the command are read before that.  Whoever
asks for help gets it, as long as nothing before that is wrong.
-/
import PackageRelease.Duration

namespace PackageRelease

namespace CommandLine

/-! ### What can be asked for -/

/-- The commands. -/
inductive Command where
  | release
  | metadata
  | upload
  | inspect
deriving DecidableEq, Repr

/-- The command with the given name. -/
def Command.ofName? : String → Option Command
  | "release" => some release
  | "metadata" => some metadata
  | "upload" => some upload
  | "inspect" => some inspect
  | _ => none

/-- The command has to do with the artifact itself and not only with its directory. -/
def Command.looksAtArtifact : Command → Bool
  | release | metadata | inspect => true
  | upload => false

/-- The options on one side of the command. -/
structure Options where
  dist : Option String := none
  timeout : Option Nat := none
  verbosity : Nat := 0
deriving DecidableEq, Repr

/-- The options of both sides, of which the second wins. -/
def Options.overriddenBy (first second : Options) : Options where
  dist := second.dist.or first.dist
  timeout := second.timeout.or first.timeout
  verbosity := if second.verbosity = 0 then first.verbosity else second.verbosity

/-- Why no command is carried out. -/
inductive Stop where
  | help
  | version
  | misuse
deriving DecidableEq, Repr

/-- A command and its options. -/
structure Invocation where
  command : Command
  options : Options
deriving DecidableEq, Repr

/-! ### Options -/

/-- The options that have a value. -/
inductive Valued where
  | dist
  | timeout
deriving DecidableEq, Repr

/-- The greatest number that an option takes. -/
def numberLimit : Nat := Nat.pow 2 64 - 1

/-- The number that a word stands for: decimal digits, perhaps behind a plus sign. -/
def number? (word : String) : Option Nat :=
  let digits := match word.toList with
    | '+' :: rest => rest
    | digits => digits
  if digits.isEmpty ∨ !digits.all Char.isDigit then none
  else
    let n := digits.foldl (fun n c => n * 10 + (c.toNat - 48)) 0
    if n ≤ numberLimit then some n else none

/-- The options of one side, and an option whose value is not looked at yet. -/
structure Side where
  options : Options := {}
  pending : Option (Valued × Option String) := none
deriving DecidableEq, Repr

namespace Side

/-- The next word is the value of an option. -/
def awaits (side : Side) : Option Valued :=
  match side.pending with
  | some (option, none) => some option
  | _ => none

/-- The options with the value of one of them set, which must not be set yet. -/
def assign (options : Options) (option : Valued) (value : String) : Except Stop Options :=
  match option with
  | .dist =>
    if options.dist.isSome ∨ value.isEmpty then .error .misuse
    else .ok { options with dist := some value }
  | .timeout =>
    match options.timeout, number? value with
    | none, some n => .ok { options with timeout := some n }
    | _, _ => .error .misuse

/-- The options with the pending value looked at. -/
def settle (side : Side) : Except Stop Options :=
  match side.pending with
  | none => .ok side.options
  | some (_, none) => .error .misuse
  | some (option, some value) => assign side.options option value

/-- One more request for a log that says more. -/
def louder (options : Options) : Options := { options with verbosity := options.verbosity + 1 }

/-- The side with a flag that has a long name; `value` follows an equals sign. -/
def takeLong (outer : Bool) (side : Side) (name : String) (value : Option String) :
    Except Stop Side :=
  let valued (option : Valued) : Except Stop Side := do
    let options ← side.settle
    match value with
    | some value => return ⟨← assign options option value, none⟩
    | none => return ⟨options, some (option, none)⟩
  let plain (next : Options → Except Stop Side) : Except Stop Side :=
    if value.isSome then .error .misuse else side.settle >>= next
  if name = "dist-dir" then valued .dist
  else if name = "timeout-secs" then valued .timeout
  else if name = "verbose" then plain fun options => .ok ⟨louder options, none⟩
  else if name = "help" then plain fun _ => .error .help
  else if name = "version" ∧ outer then plain fun _ => .error .version
  else .error .misuse

/-- The side with flags of one letter each. -/
def takeShort (outer : Bool) (side : Side) : List Char → Except Stop Side
  | [] => .ok side
  | c :: rest =>
    if c = 'v' then do
      let options ← side.settle
      takeShort outer ⟨louder options, none⟩ rest
    else if c = 'h' then side.settle >>= fun _ => .error .help
    else if c = 'V' ∧ outer then side.settle >>= fun _ => .error .version
    else .error .misuse

end Side

/-! ### Words -/

/-- What a word looks like. -/
inductive Word where
  /-- The word that ends the options. -/
  | escape
  | long (name : String) (value : Option String)
  | short (letters : List Char)
  | plain (text : String)
deriving DecidableEq, Repr

/-- What a word looks like. -/
def Word.ofString (text : String) : Word :=
  match text.toList with
  | ['-', '-'] => escape
  | '-' :: '-' :: rest =>
    match rest.dropWhile (· ≠ '=') with
    | [] => long (.ofList rest) none
    | _ :: value => long (.ofList (rest.takeWhile (· ≠ '='))) (some (.ofList value))
  | '-' :: c :: rest => short (c :: rest)
  | _ => plain text

/-- The side with one more word, which is not a command. -/
def Side.take (outer : Bool) (side : Side) (text : String) : Except Stop Side :=
  match Word.ofString text with
  | .escape => .error .misuse
  | .long name value => side.takeLong outer name value
  | .short letters => side.takeShort outer letters
  | .plain text =>
    match side.awaits with
    | some option => .ok { side with pending := some (option, some text) }
    | none => .error .misuse

/-- The options that stand behind the command. -/
def parseInner (side : Side) : List String → Except Stop Options
  | [] => side.settle
  | text :: rest =>
    if text = "--" then if rest.isEmpty then side.settle else .error .misuse
    else do parseInner (← side.take false text) rest

/-- What is asked for with the word for help and the words behind it. -/
def helpOn : List String → Stop
  | [] => .help
  | [topic] => if (Command.ofName? topic).isSome ∨ topic = "help" then .help else .misuse
  | _ => .misuse

/-- What is asked for by the words of a command line behind some that are read. -/
def parseOuter (side : Side) : List String → Except Stop Invocation
  | [] => do return ⟨.release, ← side.settle⟩
  | text :: rest =>
    if text = "--" then
      if rest.isEmpty then do return ⟨.release, ← side.settle⟩ else .error .misuse
    else
      match side.awaits, Command.ofName? text with
      | none, some command => do
        let inner ← parseInner {} rest
        let outer ← side.settle
        return ⟨command, outer.overriddenBy inner⟩
      | none, none =>
        if text = "help" then .error (helpOn rest)
        else do parseOuter (← side.take true text) rest
      | some _, _ => do parseOuter (← side.take true text) rest

/-- What the words of a command line ask for. -/
def parse (words : List String) : Except Stop Invocation := parseOuter {} words

end CommandLine

end PackageRelease
