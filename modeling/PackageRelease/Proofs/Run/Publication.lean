/-
PackageRelease/Proofs/Run/Publication.lean

Runs that tell the metadata service what a directory holds.

A `Publication` is such a run, with all the variables for the service set.
What it does is settled by the directory before anything is sent:

    no coordinates   it fails with what the search for them fails with,
                     sends nothing and calls nothing
                     (`Publication.run_of_unextracted`)
    coordinates      it goes on to publish these, and no request tells of
                     others (`Publication.mem_entered_iff`,
                     `Publication.tells_of_mem`)
-/
import PackageRelease.Proofs.Run.Composition
import PackageRelease.Proofs.Run.Success

namespace PackageRelease

/-! ### Credentials -/

/-- Where the variables for the metadata service are set there are credentials. -/
theorem Settings.exists_needCredentials_read {environment : Environment}
    (set : ∀ v ∈ Credentials.needed, (environment.nonEmpty? v).isSome) (dist : String)
    (timeout : Duration) :
    ∃ credentials, (read environment dist timeout).needCredentials = .ok credentials := by
  obtain ⟨host, url⟩ := Option.isSome_iff_exists.1 (set .metadataUrl (by decide))
  obtain ⟨username, user⟩ := Option.isSome_iff_exists.1 (set .metadataUsername (by decide))
  obtain ⟨secret, password⟩ := Option.isSome_iff_exists.1 (set .metadataPassword (by decide))
  exact ⟨⟨username, ⟨secret⟩, host⟩,
    needCredentials_eq_ok_iff.2 (Credentials.ofEnvironment_eq_ok_iff.2 ⟨url, user, password⟩)⟩

namespace Service

/-- The request brings the coordinates or no body at all; what is read of a service that does not
redirect brings them. -/
structure Request.Tells (request : Request) (coordinates : Coordinates)
    (conversation : Conversation) : Prop where
  body : ∀ text, request.body = some text → text = coordinates.toJson.compact
  direct : conversation.IsDirect → request.body = some coordinates.toJson.compact

theorem tells_of_mem_requests_submit {transport : Transport} {conversation : Conversation}
    {credentials : Credentials} {limit : Duration} {coordinates : Coordinates} {request : Request}
    (mem : request ∈
      (submit transport conversation credentials limit coordinates).course.requests) :
    request.Tells coordinates conversation := by
  obtain ⟨url, again, direct⟩ := repeats_of_mem (requests_course_submit_subset _ _ _ _ _ mem)
  refine ⟨fun text told => ?_, fun is_direct => by rw [direct is_direct]; rfl⟩
  rcases again.body with same | none
  · exact Option.some.inj (told.symm.trans same)
  · rw [none] at told
    cases told

end Service

namespace Run

/-! ### Where the metadata part ends -/

section Metadata

variable {settings : Settings} {parts : Parts} {outside : Surroundings}
variable (publishes : parts.hasMetadata)

include publishes

/-- A run that fails in the metadata part does nothing else. -/
theorem release_of_unpublished {failure : Failure} {sofar : Course}
    (unpublished : publishMetadata settings outside = ⟨.error failure, sofar⟩) :
    release settings parts outside = ⟨.error failure, sofar ++ closing (.error failure)⟩ := by
  cases parts with
  | all | metadata =>
    simp only [release, perform_all, perform_metadata, unpublished, Attempt.mk_error_bind,
      map_eq_pure_bind]
  | upload => cases publishes

variable (settings parts outside) in
/-- What happens in the metadata part comes first. -/
theorem course_publishMetadata_prefix :
    (publishMetadata settings outside).course <+: (release settings parts outside).course := by
  refine List.IsPrefix.trans ?_ (List.prefix_append _ _)
  cases parts with
  | all =>
    rw [perform_all]
    apply Attempt.course_bind_of
    · exact List.prefix_rfl
    · exact fun _ _ => List.prefix_append _ _
  | metadata =>
    rw [perform_metadata, Attempt.course_map]
  | upload => cases publishes

end Metadata

/-! ### Publications -/

/-- A run over a directory that tells the metadata service, with the variables for it set. -/
structure Publication (dist : String) (listing : Files.Listing) where
  environment : Environment
  timeout : Duration
  parts : Parts
  outside : Surroundings
  configured : ∀ v ∈ Credentials.needed, (environment.nonEmpty? v).isSome
  publishes : parts.hasMetadata
  listed : outside.listing = listing

namespace Publication

variable {dist : String} {listing : Files.Listing} (publication : Publication dist listing)

/-- The settings of the run. -/
def settings : Settings := .read publication.environment dist publication.timeout

/-- The run. -/
def run : Attempt Report := release publication.settings publication.parts publication.outside

theorem unconfigured_elim {failure : Failure}
    (refused : publication.settings.needCredentials = .error failure) : False := by
  obtain ⟨credentials, found⟩ :=
    Settings.exists_needCredentials_read publication.configured dist publication.timeout
  exact nomatch refused.symm.trans found

/-- The search for coordinates in the run ends as it does for the directory. -/
theorem search_eq {outcome outcome' : Except Failure Coordinates} {sofar : Course}
    (searched : extractCoordinates publication.settings.dist publication.outside.listing
      = ⟨outcome, sofar⟩)
    (known : (extractCoordinates dist listing).outcome = outcome') : outcome = outcome' := by
  rw [← known, ← publication.listed]
  exact (congrArg Attempt.outcome searched).symm

/-- Where there are no coordinates, the run fails for that and does nothing. -/
theorem run_of_unextracted {failure : Failure}
    (unextracted : (extractCoordinates dist listing).outcome = .error failure) :
    publication.run.outcome = .error failure ∧ publication.run.course.requests = [] ∧
      publication.run.course.calls = [] := by
  have uncalled : (publishMetadata publication.settings publication.outside).course.calls = [] :=
    calls_course_publishMetadata
  have way := publishMetadata_way publication.settings publication.outside
  unfold run
  generalize attempted : publishMetadata publication.settings publication.outside = attempt
    at way uncalled
  cases way with
  | unconfigured refused => exact (publication.unconfigured_elim refused).elim
  | unextracted _ extracted _ unread =>
    cases publication.search_eq extracted unextracted
    rw [release_of_unpublished publication.publishes attempted]
    refine ⟨rfl, ?_, ?_⟩
    · simp [unread, closing]
    · simpa [closing] using uncalled
  | unpublished _ extracted | published _ extracted =>
    cases publication.search_eq extracted unextracted

section Extracted

variable {coordinates : Coordinates}
variable (extracted : (extractCoordinates dist listing).outcome = .ok coordinates)

include extracted

/-- The run goes on to publish the coordinates, and enters that state with no other note. -/
theorem mem_entered_iff {detail : Option String} :
    (.publishMetadata, detail) ∈ publication.run.course.entered ↔
      detail = some coordinates.text := by
  have way := publishMetadata_way publication.settings publication.outside
  have told : (.publishMetadata, detail) ∈
      (publishMetadata publication.settings publication.outside).course.entered ↔
        detail = some coordinates.text := by
    generalize publishMetadata publication.settings publication.outside = attempt at way
    cases way with
    | unconfigured refused => exact (publication.unconfigured_elim refused).elim
    | unextracted _ unextracted =>
      cases publication.search_eq unextracted extracted
    | unpublished _ extracted' _ looking _ sending | published _ extracted' _ looking _ sending =>
      cases publication.search_eq extracted' extracted
      simp [Course.entered_eq_map_steps, looking.steps_eq_nil, sending.steps_eq_nil, Step.detail]
  constructor
  · -- neither the upload nor the end of a run enters the state
    refine course_release_of (P := fun course => (.publishMetadata, detail) ∈ course.entered →
      detail = some coordinates.text) ?_ told.1 ?_ ?_
    · intro first second left right mem
      rw [Course.entered_append] at mem
      exact (List.mem_append.1 mem).elim left right
    · have way := uploadArtifact_way publication.settings publication.outside
      generalize uploadArtifact publication.settings publication.outside = attempt at way
      cases way <;> simp [Course.entered_eq_map_steps, calling]
    · rintro (failure | report) <;> simp [Course.entered_eq_map_steps, closing]
  · intro detail_eq
    obtain ⟨after, eq⟩ := course_publishMetadata_prefix publication.settings publication.parts
      publication.outside publication.publishes
    show _ ∈ (release publication.settings publication.parts publication.outside).course.entered
    rw [← eq, Course.entered_append]
    exact List.mem_append_left _ (told.2 detail_eq)

/-- What the service reads in the run tells of the coordinates. -/
theorem tells_of_mem {request : Service.Request}
    (mem : request ∈ publication.run.course.requests) :
    request.Tells coordinates publication.outside.conversation := by
  revert mem
  refine course_release_of (P := fun course => request ∈ course.requests →
    request.Tells coordinates publication.outside.conversation) ?_ ?_ ?_ ?_
  · intro first second left right mem
    rw [Course.requests_append] at mem
    exact (List.mem_append.1 mem).elim left right
  · have way := publishMetadata_way publication.settings publication.outside
    generalize publishMetadata publication.settings publication.outside = attempt at way
    cases way with
    | unconfigured => exact nofun
    | unextracted _ _ _ unread => simp [unread]
    | unpublished _ extracted' published _ unread | published _ extracted' published _ unread =>
      cases publication.search_eq extracted' extracted
      intro mem
      apply Service.tells_of_mem_requests_submit
      rw [published]
      simpa [unread] using mem
  · rw [requests_course_uploadArtifact]
    exact nofun
  · rintro (failure | report) <;> exact nofun

/-- A run that ends well reports the coordinates. -/
theorem coordinates_eq_of_ok {report : Report} (done : publication.run.outcome = .ok report) :
    report.coordinates = some coordinates := by
  have ready := (perform_outcome_eq_ok_iff.1 done).1
  rw [if_pos publication.publishes] at ready
  obtain ⟨-, coordinates', ack, ready, reported, -⟩ := ready
  have extracted' : (extractCoordinates dist publication.outside.listing).outcome
      = .ok coordinates' :=
    extractCoordinates_outcome_eq_ok_iff.2 (locate_and_parse_iff.2 ready.extracted)
  rw [publication.listed] at extracted'
  cases extracted'.symm.trans extracted
  exact reported

end Extracted

end Publication

end Run

end PackageRelease
