/-
PackageRelease/Proofs/Secrecy/Token.lean

What a run shows of the token, apart from giving it to the upload tool.

The token is among the arguments of the upload tool, in the command line that
is logged, and perhaps in what the tool says when it fails.  The tool gets it
as it is.  In the command line it is masked, and in a failure, too.  So two
tokens that are masked alike give runs that cannot be told apart, unless the
token is a word that stands in the command or in the failure anyway
(`release_shows_token_masked`).
-/
import PackageRelease.Proofs.Run.Resemblance
import PackageRelease.Proofs.Secret

namespace PackageRelease

/-- Calls differ in the argument behind `-p` at most, where each has its token, and requests do not
differ. -/
def butToken (token token' : String) : Likeness where
  request := Eq
  call call call' := ∃ before after,
    call = ⟨Tool.program, before ++ "-p" :: token :: after⟩ ∧
      call' = ⟨Tool.program, before ++ "-p" :: token' :: after⟩

/-! ### Settings -/

section Settings

variable {environment environment' : Environment} {channel : Channel}
variable (agree : environment.AgreeBut channel.tokenVariable environment')

include agree

/-- A token has no say in where the metadata service is and how it is asked. -/
theorem Credentials.ofEnvironment_eq_of_agreeBut_token :
    ofEnvironment environment = ofEnvironment environment' := by
  apply ofEnvironment_congr
  intro v mem
  apply agree.nonEmpty?_eq
  rintro rfl
  exact channel.tokenVariable_not_mem_needed mem

/-- A token has no say in where an upload goes. -/
theorem UploadSettings.channel_eq_of_agreeBut_token :
    (ofEnvironment environment).channel = (ofEnvironment environment').channel :=
  channel_congr (agree.nonEmpty?_eq (by cases channel <;> decide))
    (agree.nonEmpty?_eq (by cases channel <;> decide))

theorem UploadSettings.testRepository_eq_of_agreeBut_token :
    (ofEnvironment environment).testRepository = (ofEnvironment environment').testRepository :=
  testRepository_congr (agree.nonEmpty?_eq (by cases channel <;> decide))

end Settings

/-! ### Uploads -/

namespace Upload

variable {settings settings' : UploadSettings} {dist : String}
variable {selection selection' : Selection}

/-- The arguments in front of `-p` and the token. -/
def leading (settings : UploadSettings) (usesTestIndex : Bool) : List String :=
  ["upload"] ++ (if usesTestIndex then ["--repository", settings.testRepository] else []) ++
    ["--verbose", "-u", tokenUser]

/-- All arguments but the token. -/
def openArguments (settings : UploadSettings) (dist : String) : List String :=
  leading settings settings.channel.usesTestIndex ++ ["-p", dist ++ "/*"]

theorem arguments_eq :
    arguments settings dist selection
      = leading settings selection.usesTestIndex ++
          "-p" :: selection.token.exposed :: [dist ++ "/*"] := by
  simp [arguments, leading]

/-- In the command line the token is masked, and nothing else is. -/
theorem commandLine_eq (nonempty : selection.token.exposed ≠ "")
    (apart : selection.token.exposed ∉
      leading settings selection.usesTestIndex ++ ["-p", dist ++ "/*"]) :
    commandLine settings dist selection
      = String.intercalate " " (Tool.program :: (leading settings selection.usesTestIndex ++
          ["-p", selection.token.masked, dist ++ "/*"])) := by
  have masked : ∀ argument, (masker selection).maskArgument argument
      = if argument = selection.token.exposed then selection.token.masked else argument :=
    Masker.maskArgument_register nonempty
  have kept : ∀ argument ∈ leading settings selection.usesTestIndex ++ ["-p", dist ++ "/*"],
      (masker selection).maskArgument argument = argument := by
    intro argument mem
    rw [masked, if_neg]
    rintro rfl
    exact apart mem
  have kept_leading : (leading settings selection.usesTestIndex).map (masker selection).maskArgument
      = leading settings selection.usesTestIndex := by
    rw [List.map_congr_left fun argument mem => kept argument (List.mem_append_left _ mem),
      List.map_id']
  have kept_flag : (masker selection).maskArgument "-p" = "-p" := kept _ (by simp)
  have kept_files : (masker selection).maskArgument (dist ++ "/*") = dist ++ "/*" :=
    kept _ (by simp)
  -- what is left are `-p`, the token and the files
  rw [commandLine, Masker.maskCommand, arguments_eq, List.map_append, kept_leading]
  simp only [List.map_cons, List.map_nil, kept_flag, kept_files, masked selection.token.exposed,
    if_true]

theorem judge_eq_of_not_infix {tool : Tool.Outcome}
    (silent : ∀ message, tool = .error (.failed message) →
      ¬ selection.token.exposed.toList <:+: message.toList ∧
        ¬ selection'.token.exposed.toList <:+: message.toList) :
    judge selection tool = judge selection' tool := by
  unfold judge
  split
  · rfl
  · rfl
  · rfl
  · next message =>
    obtain ⟨absent, absent'⟩ := silent message rfl
    rw [masker, masker, Masker.mask_register_of_not_infix absent,
      Masker.mask_register_of_not_infix absent']
  -- the words of the other faults are not masked, and the same for both tokens
  · rfl

/-- A token is selected only if it is not empty, and with what belongs to the channel. -/
theorem of_select_eq_ok (selected : select settings = .ok selection) :
    selection.token.exposed ≠ "" ∧
      selection.usesTestIndex = settings.channel.usesTestIndex ∧
      selection.tokenVariable = settings.channel.tokenVariable := by
  obtain ⟨token, found, rfl⟩ := select_eq_ok_iff.1 selected
  exact ⟨UploadSettings.ne_empty_of_token?_eq_some found, rfl, rfl⟩

/-- The uploads with two tokens that are masked alike resemble each other. -/
theorem resembles_perform {tool : Tool.Outcome} (selected : select settings = .ok selection)
    (selected' : select settings' = .ok selection')
    (channel : settings.channel = settings'.channel)
    (repository : settings.testRepository = settings'.testRepository)
    (alike : selection.token.ShownAlike selection'.token)
    (apart : selection.token.exposed ∉ openArguments settings dist)
    (apart' : selection'.token.exposed ∉ openArguments settings dist)
    (silent : ∀ message, tool = .error (.failed message) →
      ¬ selection.token.exposed.toList <:+: message.toList ∧
        ¬ selection'.token.exposed.toList <:+: message.toList) :
    (perform settings dist tool).Resembles
      (butToken selection.token.exposed selection'.token.exposed) Eq
      (perform settings' dist tool) := by
  obtain ⟨nonempty, index, named⟩ := of_select_eq_ok selected
  obtain ⟨nonempty', index', named'⟩ := of_select_eq_ok selected'
  rw [← channel] at index' named'
  have leading_eq (usesTestIndex : Bool) :
      leading settings' usesTestIndex = leading settings usesTestIndex := by
    rw [leading, leading, repository]
  have shown : commandLine settings dist selection = commandLine settings' dist selection' := by
    rw [openArguments] at apart apart'
    rw [← index] at apart
    rw [← index', ← leading_eq] at apart'
    rw [commandLine_eq nonempty apart, commandLine_eq nonempty' apart', leading_eq, index, index',
      alike.masked_eq]
  rw [perform_of_selection selected, perform_of_selection selected', ← channel, named,
    named', shown, judge_eq_of_not_infix silent]
  -- the notes hold the same command line by now, so it is the calls only that differ
  apply Attempt.Resembles.of_courses
  refine .cons (.note _) (.cons (.call ?_) .nil)
  refine ⟨leading settings settings.channel.usesTestIndex, [dist ++ "/*"], ?_, ?_⟩
  · rw [call, arguments_eq, index]
  · rw [call, arguments_eq, index', leading_eq]

end Upload

/-! ### Runs -/

namespace Run

variable {environment environment' : Environment} {token token' : String}

/-- The metadata service is asked in the same way, whatever the token. -/
theorem publishMetadata_read_eq {channel : Channel}
    (agree : environment.AgreeBut channel.tokenVariable environment') (dist : String)
    (timeout : Duration) (outside : Surroundings) :
    publishMetadata (.read environment dist timeout) outside
      = publishMetadata (.read environment' dist timeout) outside := by
  simp only [publishMetadata, Settings.needCredentials, Settings.read, Settings.ofEnvironment,
    Credentials.ofEnvironment_eq_of_agreeBut_token agree]

/-- The upload parts with two tokens that are masked alike resemble each other. -/
theorem resembles_uploadArtifact {settings settings' : Settings} {outside : Surroundings}
    {selection selection' : Upload.Selection}
    (selected : Upload.select settings.upload = .ok selection)
    (selected' : Upload.select settings'.upload = .ok selection')
    (channel : settings.upload.channel = settings'.upload.channel)
    (performed : (Upload.perform settings.upload settings.dist outside.tool).Resembles
      like Eq (Upload.perform settings'.upload settings'.dist outside.tool)) :
    (uploadArtifact settings outside).Resembles like Eq (uploadArtifact settings' outside) := by
  -- the token is selected here, only to see that it is there, and once more in `Upload.perform`
  unfold uploadArtifact
  rw [selected, selected', channel, Attempt.ofExcept_ok, Attempt.ofExcept_ok, pure_bind, pure_bind]
  refine .happen_bind (.step _) ?_
  refine .happen_bind (.step _) ?_
  apply performed.bind
  rintro _ _ -
  refine .happen_bind (.step _) ?_
  exact .happen (.line _ _)

/-- The token of the channel is selected where it is set. -/
theorem select_read {channel : Channel}
    (goes : (UploadSettings.ofEnvironment environment).channel = channel)
    (set : environment.nonEmpty? channel.tokenVariable = some token) :
    Upload.select (.ofEnvironment environment)
      = .ok ⟨⟨token⟩, channel.usesTestIndex, channel.tokenVariable⟩ := by
  subst goes
  refine Upload.select_eq_ok_iff.2 ⟨⟨token⟩, ?_, rfl⟩
  rw [UploadSettings.token?_ofEnvironment, set]
  rfl

/-- **A run shows of the token what is shown of it where it is masked, but for giving it to the
upload tool.**  In two environments that differ in the token of their channel and in nothing else,
and in the same surroundings, runs of the same parts end alike, take their machine the same way,
put out and log the same, and ask the metadata service in the same way; and the calls of the upload
tool differ in nothing but the argument behind `-p`, which is the token.

The two tokens have to be masked alike; neither may be another argument of the tool or stand in
what the tool says when it fails. -/
theorem release_shows_token_masked {environment environment' : Environment} {channel : Channel}
    {token token' : String} {dist : String} {outside : Surroundings}
    (goes : (UploadSettings.ofEnvironment environment).channel = channel)
    (agree : environment.AgreeBut channel.tokenVariable environment')
    (set : environment channel.tokenVariable.name = some token) (nonempty : token ≠ "")
    (set' : environment' channel.tokenVariable.name = some token') (nonempty' : token' ≠ "")
    (alike : Secret.ShownAlike ⟨token⟩ ⟨token'⟩)
    (apart : token ∉ Upload.openArguments (.ofEnvironment environment) dist)
    (apart' : token' ∉ Upload.openArguments (.ofEnvironment environment) dist)
    (silent : ∀ message, outside.tool = .error (.failed message) →
      ¬ token.toList <:+: message.toList ∧ ¬ token'.toList <:+: message.toList)
    (timeout : Duration) (parts : Parts) (machine : Machine) :
    let run := release (.read environment dist timeout) parts outside
    let run' := release (.read environment' dist timeout) parts outside
    run.outcome = run'.outcome ∧
      machine.takeAll run.course.steps = machine.takeAll run'.course.steps ∧
      run.course.output = run'.course.output ∧
      run.course.log machine.state = run'.course.log machine.state ∧
      run.course.requests = run'.course.requests ∧
      List.Forall₂ (fun call call' : Tool.Call => ∃ before after,
          call = ⟨Tool.program, before ++ "-p" :: token :: after⟩ ∧
            call' = ⟨Tool.program, before ++ "-p" :: token' :: after⟩)
        run.course.calls run'.course.calls := by
  intro run run'
  have channel_eq := UploadSettings.channel_eq_of_agreeBut_token agree
  have selected := select_read goes (Environment.nonEmpty?_of_eq_some set nonempty)
  have selected' := select_read (channel_eq.symm.trans goes)
    (Environment.nonEmpty?_of_eq_some set' nonempty')
  have metadata : (publishMetadata (.read environment dist timeout) outside).Resembles
      (butToken token token') Eq (publishMetadata (.read environment' dist timeout) outside) := by
    -- a call need not resemble itself, but the metadata part makes none
    rw [publishMetadata_read_eq agree]
    refine .self (fun _ _ => rfl) fun call mem => ?_
    rw [calls_course_publishMetadata] at mem
    cases mem
  have upload : (uploadArtifact (.read environment dist timeout) outside).Resembles
      (butToken token token') Eq (uploadArtifact (.read environment' dist timeout) outside) :=
    resembles_uploadArtifact selected selected' channel_eq <|
      Upload.resembles_perform selected selected' channel_eq
        (UploadSettings.testRepository_eq_of_agreeBut_token agree) alike apart apart' silent
  have alike : run.Resembles (butToken token token') Eq run' :=
    resembles_release metadata upload parts
  obtain ⟨outcomes, machines, outputs, logs⟩ := alike.seen_eq machine
  refine ⟨outcomes, machines, outputs, logs, ?_, alike.course.calls⟩
  exact List.forall₂_eq_eq_eq ▸ alike.course.requests

/-- Two tokens for the index for tests, and a tool that is not there: the log is the same, with the
masked token in the command, and each call has its token. -/
theorem release_shows_token_masked_missingTool :
    let environment (token : String) : Environment := .ofList
      [("PROJECT_NAME", "demo"), ("NIGHT_PWD", token)]
    let outside : Surroundings := ⟨.ok [], .refused, .ofWording fun _ => "connection refused",
      .error (.failed "No such file or directory (os error 2)"), .done, .done⟩
    let run (token : String) := release (.read (environment token) "dist" (.ofSeconds 5)) .upload
      outside
    (environment "pypi-first-token").AgreeBut .nightlyToken (environment "pypi-other-token") ∧
      (run "pypi-first-token").course.log .start = (run "pypi-other-token").course.log .start ∧
      Event.uploading "test" "NIGHT_PWD"
          "twine upload --repository testpypi --verbose -u __token__ -p pyp...ken dist/*"
        ∈ (run "pypi-first-token").course.log .start ∧
      (run "pypi-first-token").course.calls = [⟨"twine", ["upload", "--repository", "testpypi",
        "--verbose", "-u", "__token__", "-p", "pypi-first-token", "dist/*"]⟩] ∧
      (run "pypi-other-token").course.calls = [⟨"twine", ["upload", "--repository", "testpypi",
        "--verbose", "-u", "__token__", "-p", "pypi-other-token", "dist/*"]⟩] := by
  intro environment outside run
  have goes : (UploadSettings.ofEnvironment (environment "pypi-first-token")).channel = .test := by
    decide +kernel
  have agree : (environment "pypi-first-token").AgreeBut Channel.test.tokenVariable
      (environment "pypi-other-token") :=
    Environment.agreeBut_ofList [("PROJECT_NAME", "demo")] []
  have alike : Secret.ShownAlike ⟨"pypi-first-token"⟩ ⟨"pypi-other-token"⟩ :=
    .partly (by decide) (by decide) (by decide) (by decide)
  have apart : ∀ token ∈ ["pypi-first-token", "pypi-other-token"], token ∉
      Upload.openArguments (.ofEnvironment (environment "pypi-first-token")) "dist" := by
    decide +kernel
  have silent : ∀ message, outside.tool = .error (.failed message) →
      ¬ "pypi-first-token".toList <:+: message.toList ∧
        ¬ "pypi-other-token".toList <:+: message.toList := by
    rintro _ ⟨⟩
    decide
  obtain ⟨-, -, -, logs, -, -⟩ := release_shows_token_masked goes agree rfl (by decide) rfl
    (by decide) alike (apart _ (by decide)) (apart _ (by decide)) silent (.ofSeconds 5) .upload {}
  exact ⟨agree, logs, by decide +kernel, by decide +kernel, by decide +kernel⟩

end Run

end PackageRelease
