/-
PackageRelease/Proofs/Run/Composition.lean

A run of both parts is a run of the one and then a run of the other.

Take three runs that meet the same surroundings, one of both parts, one of the
metadata and one of the upload.  Where the run of the metadata fails, the run
of both parts is the same run.  Where it ends well, and what has happened up to
its end is `published`,

    course (release metadata) = published ++ closing
    course (release all)      = published ++ course (release upload)

and the run of both parts ends as the upload does.  Everything that is seen of
a run is a view of its course, so `release_all_composes` follows view by view.
-/
import PackageRelease.Proofs.Run.Effects

namespace PackageRelease

/-! ### Views of one course after the other -/

namespace Course

theorem output_append (first second : Course) :
    (first ++ second).output = first.output ++ second.output := by
  rw [output, lines_append, List.map_append, String.join_append]
  rfl

/-- The states that the course enters, with the notes on them, as a new machine has them on
record. -/
def entered (course : Course) : List (State × Option String) :=
  (Machine.takeAll {} course.steps).transitions.map fun t => (t.target, t.detail)

theorem entered_eq_map_steps (course : Course) :
    course.entered = course.steps.map fun step => (step.target, step.detail) := by
  rw [entered, Machine.transitions_takeAll]
  exact Machine.map_target_detail_transitionsFrom .start course.steps

theorem entered_append (first second : Course) :
    (first ++ second).entered = first.entered ++ second.entered := by
  simp only [entered_eq_map_steps, steps_append, List.map_append]

end Course

namespace Run

variable {settings : Settings} {outside : Surroundings}

/-! ### The run of both parts -/

/-- What a run has done makes no difference to its end. -/
theorem closing_map (f : Report → Report) (outcome : Except Failure Report) :
    closing (outcome.map f) = closing outcome := by
  rcases outcome with failure | report <;> rfl

theorem release_all_of_unpublished {failure : Failure} {sofar : Course}
    (unpublished : publishMetadata settings outside = ⟨.error failure, sofar⟩) :
    release settings .all outside = release settings .metadata outside := by
  have same : perform settings .all outside = perform settings .metadata outside := by
    rw [perform_all, perform_metadata, unpublished]
    rfl
  rw [release, release, same]

section Published

variable {coordinates : Coordinates} {ack : Service.Acknowledgement} {sofar : Course}
variable (published : publishMetadata settings outside = ⟨.ok (coordinates, ack), sofar⟩)

include published

theorem release_metadata_of_published :
    release settings .metadata outside
      = ⟨.ok ⟨some coordinates, some ack, false⟩,
          sofar ++ [.step (.moved .success none), .note .runFinished]⟩ := by
  have performed : perform settings .metadata outside
      = ⟨.ok ⟨some coordinates, some ack, false⟩, sofar⟩ := by
    rw [perform_metadata, published]
    exact congrArg (Attempt.mk _) (List.append_nil sofar)
  rw [release, performed]
  rfl

/-- Once the metadata are published, a run goes on as if it had only to upload. -/
theorem release_all_of_published :
    release settings .all outside
      = ⟨(release settings .upload outside).outcome.map fun _ =>
            ⟨some coordinates, some ack, true⟩,
          sofar ++ (release settings .upload outside).course⟩ := by
  have performed : perform settings .all outside
      = ⟨(perform settings .upload outside).outcome.map fun _ =>
            ⟨some coordinates, some ack, true⟩,
          sofar ++ (perform settings .upload outside).course⟩ := by
    rw [perform_all, perform_upload, published, Attempt.mk_ok_bind, Attempt.course_map,
      Attempt.course_map, Attempt.outcome_map, Attempt.outcome_map]
    rcases (uploadArtifact settings outside).outcome with failure | ⟨⟩ <;> rfl
  rw [release, performed]
  show Attempt.mk _ (_ ++ closing _) = _
  rw [closing_map, List.append_assoc]
  rfl

end Published

/-- A run of the upload alone asks nothing of the metadata service. -/
theorem requests_release_upload : (release settings .upload outside).course.requests = [] := by
  have performed : (perform settings .upload outside).course.requests = [] := by
    rw [perform_upload, Attempt.course_map]
    exact requests_course_uploadArtifact
  show (_ ++ closing (perform settings .upload outside).outcome : Course).requests = []
  rw [Course.requests_append, performed]
  rcases (perform settings .upload outside).outcome with failure | report <;> rfl

/-- A run of the metadata alone does not call the upload tool. -/
theorem calls_release_metadata : (release settings .metadata outside).course.calls = [] := by
  have performed : (perform settings .metadata outside).course.calls = [] := by
    rw [perform_metadata, Attempt.course_map]
    exact calls_course_publishMetadata
  show (_ ++ closing (perform settings .metadata outside).outcome : Course).calls = []
  rw [Course.calls_append, performed]
  rcases (perform settings .metadata outside).outcome with failure | report <;> rfl

/-! ### Composition -/

/-- **A run of both parts is made up of a run of the metadata and a run of the upload**, each on a
machine of its own and all in the same surroundings.  If the run of the metadata fails, then the
run of both parts is that very run, and does not call the upload tool.  If it ends well, then the
run of both parts fails exactly if that of the upload does, and with the same failure; else it
reports the coordinates and the acknowledgement of the one and the upload of the other.  It makes
the requests of the one and the calls of the other, puts out what the one puts out and then what
the other does, and enters the states of the one, up to its `success`, and then those of the
other. -/
theorem release_all_composes (settings : Settings) (outside : Surroundings) :
    let metadata := release settings .metadata outside
    let upload := release settings .upload outside
    let all := release settings .all outside
    (∀ failure, metadata.outcome = .error failure → all = metadata ∧ all.course.calls = []) ∧
    ∀ report, metadata.outcome = .ok report →
      (∀ failure, all.outcome = .error failure ↔ upload.outcome = .error failure) ∧
      (∀ report', upload.outcome = .ok report' →
        all.outcome = .ok ⟨report.coordinates, report.acknowledgement, true⟩) ∧
      all.course.requests = metadata.course.requests ∧
      all.course.calls = upload.course.calls ∧
      all.course.output = metadata.course.output ++ upload.course.output ∧
      ∃ before, metadata.course.entered = before ++ [(.success, none)] ∧
        all.course.entered = before ++ upload.course.entered := by
  intro metadata upload all
  rcases publication : publishMetadata settings outside with
    ⟨failure | ⟨coordinates, ack⟩, sofar⟩
  · have same : all = metadata := release_all_of_unpublished publication
    refine ⟨fun failure _ => ⟨same, ?_⟩, fun report done => ?_⟩
    · rw [same]
      exact calls_release_metadata
    · have failed : metadata.outcome = .error failure := by
        show (perform settings .metadata outside).outcome = _
        rw [perform_metadata, publication]
        rfl
      rw [failed] at done
      cases done
  · have metadata_eq : metadata = _ := release_metadata_of_published publication
    have all_eq : all = _ := release_all_of_published publication
    have uncalled : metadata.course.calls = [] := calls_release_metadata
    have unread : upload.course.requests = [] := requests_release_upload
    rw [metadata_eq] at uncalled ⊢
    rw [all_eq]
    refine ⟨fun failure failed => ?_, fun report done => ?_⟩
    · cases failed
    cases done
    refine ⟨fun failure => ?_, fun report' uploaded => ?_, ?_, ?_, ?_, ?_⟩
    · show upload.outcome.map _ = _ ↔ _
      rcases upload.outcome with failure' | report' <;> simp [Except.map]
    · rw [uploaded]
      rfl
    · show (sofar ++ upload.course : Course).requests = _
      rw [Course.requests_append, Course.requests_append, unread]
      rfl
    · have uncalled' : sofar.calls = [] := by simpa using uncalled
      show (sofar ++ upload.course : Course).calls = _
      rw [Course.calls_append, uncalled', List.nil_append]
    · rw [Course.output_append, Course.output_append]
      exact congrArg (· ++ upload.course.output) (String.append_empty).symm
    · exact ⟨sofar.entered, Course.entered_append _ _, Course.entered_append _ _⟩

end Run

end PackageRelease
