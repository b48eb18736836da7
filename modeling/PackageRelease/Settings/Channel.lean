/-
PackageRelease/Settings/Channel.lean

The variables that settings come from, and the channel of a release.

A release of the primary project goes to the production channel, and a release
under any other name to the test channel.  Each channel has a variable that
holds its token.
-/

namespace PackageRelease

/-! ### Variables -/

/-- The variables that have a say in a release. -/
inductive Variable where
  | metadataUrl
  | metadataUsername
  | metadataPassword
  | projectName
  | primaryProject
  | testRepository
  | productionToken
  | nightlyToken
deriving DecidableEq, Repr

/-- The name of a variable. -/
def Variable.name : Variable → String
  | metadataUrl => "METADATA_URL"
  | metadataUsername => "METADATA_USERNAME"
  | metadataPassword => "METADATA_PASSWORD"
  | projectName => "PROJECT_NAME"
  | primaryProject => "RELEASE_PRIMARY_PROJECT"
  | testRepository => "RELEASE_TEST_REPOSITORY"
  | productionToken => "PROD_PWD"
  | nightlyToken => "NIGHT_PWD"

/-- All variables. -/
def Variable.all : List Variable :=
  [metadataUrl, metadataUsername, metadataPassword, projectName, primaryProject, testRepository,
    productionToken, nightlyToken]

theorem Variable.mem_all (v : Variable) : v ∈ all := by
  cases v <;> decide

theorem Variable.name_injective {v w : Variable} (h : v.name = w.name) : v = w := by
  cases v <;> cases w <;> first | rfl | exact absurd h (by decide)

/-- The values of the variables that are set, by their names. -/
abbrev Environment := String → Option String

namespace Environment

/-- The value of a variable that is set and not empty. -/
def nonEmpty? (environment : Environment) (v : Variable) : Option String :=
  (environment v.name).filter fun value => !value.isEmpty

/-- The environment that holds the given variables. -/
def ofList (values : List (String × String)) : Environment := fun name =>
  values.lookup name

end Environment

/-! ### Channels -/

/-- Where a release goes. -/
inductive Channel where
  | production
  | test
deriving DecidableEq, Repr

namespace Channel

/-- The channel of a project. -/
def ofProject (project primary : String) : Channel :=
  if project = primary then production else test

/-- The name of a channel. -/
def name : Channel → String
  | production => "production"
  | test => "test"

/-- The variable that holds the token of a channel. -/
def tokenVariable : Channel → Variable
  | production => .productionToken
  | test => .nightlyToken

/-- The channel uploads to an index that has to be named. -/
def usesTestIndex : Channel → Bool
  | production => false
  | test => true

end Channel

end PackageRelease
