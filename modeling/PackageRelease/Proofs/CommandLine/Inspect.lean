/-
PackageRelease/Proofs/CommandLine/Inspect.lean

Inspecting a directory before a release.

`inspect` looks at nothing but the directory of the artifact, and shows what a
run over the directory would publish.  Where it shows coordinates, every run
that tells the metadata service publishes these; where it fails, every such
run fails in the same way and does nothing (`inspect_is_dry_run`).
-/
import PackageRelease.CommandLine.Program
import PackageRelease.Proofs.Coordinates.Payload
import PackageRelease.Proofs.Run.Publication

namespace PackageRelease

/-- All failures of the coordinates have one exit code. -/
theorem Failure.exitCode_of_phase_coordinates {failure : Failure}
    (phase : failure.phase = .coordinates) : failure.exitCode = 3 := by
  cases failure <;> first | rfl | cases phase

namespace CommandLine

variable {site : Site} {words : List String} {options : Options}

/-- The directory that the options name. -/
def Options.directory (options : Options) : String := options.dist.getD Settings.defaultDist

/-! ### Inspecting -/

theorem effect_of_inspect (asked : parse words = .ok ⟨.inspect, options⟩) :
    effect site words
      = inspect (settings site.environment options) (site.listing options.directory) := by
  rw [effect, asked]
  rfl

section

variable {settings : Settings} {listing : Files.Listing}

theorem inspect_of_extracted {coordinates : Coordinates}
    (extracted : (Run.extractCoordinates settings.dist listing).outcome = .ok coordinates) :
    inspect settings listing
      = ⟨0, .text (coordinates.toJson.pretty ++ "\n"), "",
          (Run.extractCoordinates settings.dist listing).course⟩ := by
  simp only [inspect, effectOf, extracted, PackageRelease.exitCode]

theorem inspect_of_unextracted {failure : Failure}
    (unextracted : (Run.extractCoordinates settings.dist listing).outcome = .error failure) :
    inspect settings listing
      = ⟨3, .text "", failure.summary, (Run.extractCoordinates settings.dist listing).course⟩ := by
  have code := failure.exitCode_of_phase_coordinates
    (Run.phase_of_extractCoordinates_eq_error unextracted)
  simp only [inspect, effectOf, unextracted, PackageRelease.exitCode, code]

end

/-! ### Publishing -/

/-- The words ask for a run that tells the metadata service what a directory holds, and the run
can start: the variables for the service are set, and there is a working directory. -/
structure Publishes (site : Site) (words : List String) (directory : String) : Prop where
  asked : ∃ options, options.directory = directory ∧
    (parse words = .ok ⟨.release, options⟩ ∨ parse words = .ok ⟨.metadata, options⟩)
  working : site.hasWorkingDirectory
  configured : ∀ v ∈ Credentials.needed, (site.environment.nonEmpty? v).isSome

/-- A run from the command line goes by what the program meets outside. -/
theorem release_of_working (working : site.hasWorkingDirectory) (settings : Settings)
    (parts : Parts) :
    ∃ outside : Surroundings, outside.listing = site.listing settings.dist ∧
      release site settings parts
        = effectOf (PackageRelease.release settings parts outside)
            (PackageRelease.release settings parts outside).course.output :=
  ⟨_, rfl, if_pos working⟩

/-- What the program does then is a publication. -/
theorem Publishes.exists_publication {directory : String} {listing : Files.Listing}
    (publishes : Publishes site words directory) (listed : site.listing directory = listing) :
    ∃ publication : Run.Publication directory listing,
      effect site words = effectOf publication.run publication.run.course.output := by
  obtain rfl := listed
  obtain ⟨options, rfl, asked⟩ := publishes.asked
  have started (parts : Parts) (hasMetadata : parts.hasMetadata) :
      ∃ publication : Run.Publication options.directory (site.listing options.directory),
        release site (settings site.environment options) parts
          = effectOf publication.run publication.run.course.output := by
    obtain ⟨outside, listed, effect_eq⟩ :=
      release_of_working publishes.working (settings site.environment options) parts
    exact ⟨⟨site.environment, _, parts, outside, publishes.configured, hasMetadata, listed⟩,
      effect_eq⟩
  rcases asked with asked | asked
  · rw [effect, asked]
    exact started .all rfl
  · rw [effect, asked]
    exact started .metadata rfl

/-! ### The dry run -/

/-- **What `inspect` shows of a directory is what comes of publishing it.**  It depends on nothing
but the listing of the directory; nothing is sent and no tool is called.

If `inspect` exits with 0, then its output is coordinates, and every publication of the directory
goes on to publish these: it enters that state with them as its note and with no other note, what
the service reads of it tells of them, and it reports them if it ends well.  Otherwise `inspect`
exits with 3, and every publication fails with the failure that `inspect` has shown, without
sending or calling anything.  What `release` and `metadata` do from the command line is such a
publication; where it fails for want of coordinates, it exits with the same code and the same
message as `inspect`. -/
theorem inspect_is_dry_run {words : List String} {options : Options}
    (asked : parse words = .ok ⟨.inspect, options⟩) (site : Site) :
    let directory := options.directory
    let inspected := effect site words
    (∀ site' : Site, site'.listing directory = site.listing directory →
      effect site' words = inspected) ∧
    inspected.course.requests = [] ∧ inspected.course.calls = [] ∧
    (∀ site' words', Publishes site' words' directory →
      site'.listing directory = site.listing directory →
      ∃ publication : Run.Publication directory (site.listing directory),
        effect site' words' = effectOf publication.run publication.run.course.output) ∧
    (inspected.exitCode = 0 → ∃ text coordinates, inspected.output = .text text ∧
      Coordinates.decode text = .ok coordinates ∧
      ∀ publication : Run.Publication directory (site.listing directory),
        (∀ detail, (.publishMetadata, detail) ∈ publication.run.course.entered ↔
          detail = some coordinates.text) ∧
        (∀ request ∈ publication.run.course.requests,
          (∀ text, request.body = some text → Coordinates.decode text = .ok coordinates) ∧
          (publication.outside.conversation.IsDirect → request.body.isSome)) ∧
        ∀ report, publication.run.outcome = .ok report → report.coordinates = some coordinates) ∧
    (inspected.exitCode ≠ 0 → inspected.exitCode = 3 ∧ ∃ failure,
      inspected.message = failure.summary ∧
      (∀ publication : Run.Publication directory (site.listing directory),
        publication.run.outcome = .error failure ∧ exitCode publication.run.outcome = 3 ∧
          publication.run.course.requests = [] ∧ publication.run.course.calls = []) ∧
      ∀ site' words', Publishes site' words' directory →
        site'.listing directory = site.listing directory →
        (effect site' words').exitCode = 3 ∧
          (effect site' words').message = inspected.message) := by
  intro directory inspected
  have inspected_eq : inspected = _ := effect_of_inspect asked
  have looked : inspected.course
      = (Run.extractCoordinates directory (site.listing directory)).course := by
    rw [inspected_eq]
    rfl
  refine ⟨fun site' listed => ?_, ?_, ?_,
    fun site' words' publishes listed => publishes.exists_publication listed, ?_⟩
  · -- of the settings, `inspect` reads the directory only
    rw [inspected_eq, effect_of_inspect asked, listed]
    rfl
  · rw [looked]
    exact Run.requests_course_extractCoordinates _ _
  · rw [looked]
    exact (Run.isQuiet_course_extractCoordinates _ _).calls_eq_nil
  rcases extracted : (Run.extractCoordinates directory (site.listing directory)).outcome with
    failure | coordinates
  · have shown : inspected = _ := inspected_eq.trans (inspect_of_unextracted extracted)
    have code := failure.exitCode_of_phase_coordinates
      (Run.phase_of_extractCoordinates_eq_error extracted)
    rw [shown]
    refine ⟨nofun, fun _ => ⟨rfl, failure, rfl, fun publication => ?_,
      fun site' words' publishes listed => ?_⟩⟩
    · obtain ⟨failed, unsent, uncalled⟩ := publication.run_of_unextracted extracted
      refine ⟨failed, ?_, unsent, uncalled⟩
      rw [failed]
      exact code
    · obtain ⟨publication, effect_eq⟩ := publishes.exists_publication listed
      obtain ⟨failed, -⟩ := publication.run_of_unextracted extracted
      rw [effect_eq, effectOf, failed]
      exact ⟨code, rfl⟩
  · have shown : inspected = _ := inspected_eq.trans (inspect_of_extracted extracted)
    rw [shown]
    refine ⟨fun _ => ⟨_, coordinates, rfl, ?_, fun publication => ⟨?_, ?_, ?_⟩⟩, fun failed => ?_⟩
    · exact coordinates.decode_pretty_append ['\n'] (by decide)
    · exact fun detail => publication.mem_entered_iff extracted
    · intro request mem
      have tells := publication.tells_of_mem extracted mem
      refine ⟨fun text told => ?_, fun direct => by rw [tells.direct direct]; rfl⟩
      rw [tells.body text told]
      exact coordinates.decode_compact
    · exact fun report done => publication.coordinates_eq_of_ok extracted done
    · exact absurd rfl failed

/-- A directory with a wheel, which is published to a service that hangs up, and one with
nothing. -/
theorem inspect_is_dry_run_wheel :
    let environment : Environment := .ofList
      [("METADATA_URL", "meta.example.com:8080"), ("METADATA_USERNAME", "release-bot"),
        ("METADATA_PASSWORD", "hunter2")]
    let site (names : List String) : Site := ⟨environment, fun _ => .ok (names.map .ofLine), true,
      .hungUp, .ofWording fun _ => "connection closed", none⟩
    let inspected (names : List String) := effect (site names) ["inspect", "--dist-dir", "out"]
    let wheel := ["pkg-1.2.3-cp39-linux-x86_64.whl"]
    let run := PackageRelease.release (.read environment "out" (.ofSeconds 5)) .metadata
      ⟨.ok (wheel.map .ofLine), .hungUp, .ofWording fun _ => "connection closed", .ok ⟨some 0⟩,
        .done, .done⟩
    (inspected wheel).exitCode = 0 ∧
      (∃ text coordinates, (inspected wheel).output = .text text ∧
        Coordinates.decode text = .ok coordinates ∧
        (.publishMetadata, some coordinates.text) ∈ run.course.entered ∧
        run.course.requests.length = 1 ∧
        ∀ request ∈ run.course.requests, ∃ body, request.body = some body ∧
          Coordinates.decode body = .ok coordinates) ∧
      (inspected []).exitCode = 3 ∧
      (effect (site []) ["--dist-dir=out"]).message = (inspected []).message := by
  intro environment site inspected wheel run
  have asked : parse ["inspect", "--dist-dir", "out"] = .ok ⟨.inspect, { dist := some "out" }⟩ := by
    decide +kernel
  have configured : ∀ v ∈ Credentials.needed, (environment.nonEmpty? v).isSome := by
    decide +kernel
  have found : (inspected wheel).exitCode = 0 := by decide +kernel
  have missed : (inspected []).exitCode ≠ 0 := by decide +kernel
  refine ⟨found, ?_, ?_⟩
  · obtain ⟨-, -, -, -, shown, -⟩ := inspect_is_dry_run asked (site wheel)
    obtain ⟨text, coordinates, output, decoded, publishes⟩ := shown found
    obtain ⟨entered, bodies, -⟩ := publishes ⟨environment, .ofSeconds 5, .metadata,
      ⟨.ok (wheel.map .ofLine), .hungUp, .ofWording fun _ => "connection closed", .ok ⟨some 0⟩,
        .done, .done⟩,
      configured, rfl, rfl⟩
    refine ⟨text, coordinates, output, decoded, (entered _).2 rfl, by decide +kernel,
      fun request mem => ?_⟩
    obtain ⟨tells, direct⟩ := bodies request mem
    obtain ⟨body, told⟩ := Option.isSome_iff_exists.1 (direct fun _ _ => nofun)
    exact ⟨body, told, tells body told⟩
  · obtain ⟨-, -, -, -, -, failed⟩ := inspect_is_dry_run asked (site [])
    obtain ⟨code, failure, -, -, alike⟩ := failed missed
    have publishes : Publishes (site []) ["--dist-dir=out"] "out" :=
      ⟨⟨{ dist := some "out" }, rfl, .inl (by decide +kernel)⟩, rfl, configured⟩
    exact ⟨code, (alike (site []) _ publishes rfl).2⟩

end CommandLine

end PackageRelease
