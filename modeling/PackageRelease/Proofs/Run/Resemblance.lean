/-
PackageRelease/Proofs/Run/Resemblance.lean

Two attempts that look alike.

Attempts resemble each other if the same happens in both, in the same order,
but for what is asked of the metadata service and how the upload tool is
called: there it is enough that the two requests, and the two calls, are
related.  They must also end in the same way, with one failure or with results
that are related.

One attempt after the other keeps the resemblance,

    x ~ y  →  (∀ a b, a and b are related → f a ~ g b)  →  x >>= f ~ y >>= g

and so whole runs resemble each other if their parts do
(`resembles_release`).  Whoever does not read the requests and the calls
cannot tell them apart.
-/
import PackageRelease.Proofs.Run.Effects

namespace PackageRelease

/-- How the requests, and how the calls, of two attempts are related. -/
structure Likeness where
  request : Service.Request → Service.Request → Prop
  call : Tool.Call → Tool.Call → Prop

variable {like : Likeness}

/-! ### Courses -/

/-- The same happens, or two things of one kind that are related. -/
inductive Happening.Resembles (like : Likeness) : Happening → Happening → Prop
  | step (step : Step) : Resembles like (.step step) (.step step)
  | note (event : Event) : Resembles like (.note event) (.note event)
  | line (text : String) (writing : Writing) :
      Resembles like (.line text writing) (.line text writing)
  | request {request request' : Service.Request} (related : like.request request request') :
      Resembles like (.request request) (.request request')
  | call {call call' : Tool.Call} (related : like.call call call') :
      Resembles like (.call call) (.call call')

namespace Course

/-- The same happens, thing for thing. -/
def Resembles (like : Likeness) : Course → Course → Prop :=
  List.Forall₂ (Happening.Resembles like)

namespace Resembles

variable {course course' next next' : Course}

theorem append (first : course.Resembles like course') (second : next.Resembles like next') :
    (course ++ next).Resembles like (course' ++ next') :=
  List.rel_append first second

/-- A course resembles itself if its requests and its calls are related to themselves. -/
theorem self (requests : ∀ request ∈ course.requests, like.request request request)
    (calls : ∀ call ∈ course.calls, like.call call call) : course.Resembles like course := by
  apply List.forall₂_same.2
  intro h mem
  cases h with
  | step s => exact .step s
  | note event => exact .note event
  | line text writing => exact .line text writing
  | request request => exact .request (requests _ (List.mem_filterMap.2 ⟨_, mem, rfl⟩))
  | call call => exact .call (calls _ (List.mem_filterMap.2 ⟨_, mem, rfl⟩))

/-! ### What is seen of courses that look alike -/

theorem steps_eq (h : course.Resembles like course') : course.steps = course'.steps := by
  induction h with
  | nil => rfl
  | cons first _ ih => cases first <;> simp [ih]

theorem lines_eq (h : course.Resembles like course') : course.lines = course'.lines := by
  induction h with
  | nil => rfl
  | cons first _ ih => cases first <;> simp [ih]

theorem output_eq (h : course.Resembles like course') : course.output = course'.output := by
  rw [output, output, h.lines_eq]

theorem log_eq (h : course.Resembles like course') (state : State) :
    course.log state = course'.log state := by
  induction h generalizing state with
  | nil => rfl
  | cons first _ ih => cases first <;> simp [log, ih]

theorem requests (h : course.Resembles like course') :
    List.Forall₂ like.request course.requests course'.requests := by
  induction h with
  | nil => exact .nil
  | cons first _ ih =>
    cases first with
    | request related => exact .cons related ih
    | _ => exact ih

theorem calls (h : course.Resembles like course') :
    List.Forall₂ like.call course.calls course'.calls := by
  induction h with
  | nil => exact .nil
  | cons first _ ih =>
    cases first with
    | call related => exact .cons related ih
    | _ => exact ih

end Resembles

end Course

/-! ### Attempts -/

namespace Attempt

variable {α β γ δ : Type}

/-- The attempts end with one failure or with results that are related, and the same happens until
then. -/
inductive Resembles (like : Likeness) (good : α → β → Prop) : Attempt α → Attempt β → Prop
  | ok {a : α} {b : β} {course course' : Course} (results : good a b)
      (courses : course.Resembles like course') :
      Resembles like good ⟨.ok a, course⟩ ⟨.ok b, course'⟩
  | error {failure : Failure} {course course' : Course}
      (courses : course.Resembles like course') :
      Resembles like good ⟨.error failure, course⟩ ⟨.error failure, course'⟩

theorem ofExcept_ok (a : α) : ofExcept (.ok a) = pure a := rfl

namespace Resembles

variable {good : α → β → Prop} {good' : γ → δ → Prop}

theorem outcome_eq {attempt attempt' : Attempt α} (h : attempt.Resembles like Eq attempt') :
    attempt.outcome = attempt'.outcome := by
  cases h with
  | ok results => rw [results]
  | error => rfl

theorem course {attempt : Attempt α} {attempt' : Attempt β}
    (h : attempt.Resembles like good attempt') : attempt.course.Resembles like attempt'.course := by
  cases h with
  | ok _ courses => exact courses
  | error courses => exact courses

/-- Whoever reads neither the requests nor the calls sees no difference. -/
theorem seen_eq {attempt attempt' : Attempt α} (h : attempt.Resembles like Eq attempt')
    (machine : Machine) :
    attempt.outcome = attempt'.outcome ∧
      machine.takeAll attempt.course.steps = machine.takeAll attempt'.course.steps ∧
      attempt.course.output = attempt'.course.output ∧
      attempt.course.log machine.state = attempt'.course.log machine.state := by
  refine ⟨h.outcome_eq, ?_, h.course.output_eq, h.course.log_eq machine.state⟩
  rw [h.course.steps_eq]

/-- What ends in one way needs only its courses compared. -/
theorem of_courses {outcome : Except Failure α} {course course' : Course}
    (courses : course.Resembles like course') :
    Resembles like Eq ⟨outcome, course⟩ ⟨outcome, course'⟩ := by
  cases outcome with
  | ok a => exact .ok rfl courses
  | error failure => exact .error courses

theorem self {attempt : Attempt α}
    (requests : ∀ request ∈ attempt.course.requests, like.request request request)
    (calls : ∀ call ∈ attempt.course.calls, like.call call call) :
    attempt.Resembles like Eq attempt :=
  .of_courses (.self requests calls)

/-- An attempt that makes no requests and no calls resembles itself. -/
theorem self_of_eq_nil {attempt : Attempt α} (unasked : attempt.course.requests = [])
    (uncalled : attempt.course.calls = []) : attempt.Resembles like Eq attempt := by
  refine .self (fun request mem => ?_) fun call mem => ?_
  · rw [unasked] at mem
    cases mem
  · rw [uncalled] at mem
    cases mem

theorem happen {h h' : Happening} (alike : h.Resembles like h') :
    (happen h).Resembles like Eq (happen h') :=
  .ok rfl (.cons alike .nil)

/-- One attempt after the other keeps the resemblance. -/
theorem bind {attempt : Attempt α} {attempt' : Attempt β} {next : α → Attempt γ}
    {next' : β → Attempt δ} (first : attempt.Resembles like good attempt')
    (second : ∀ a b, good a b → (next a).Resembles like good' (next' b)) :
    (attempt >>= next).Resembles like good' (attempt' >>= next') := by
  cases first with
  | error courses => exact .error courses
  | @ok a b _ _ results courses =>
    have then_ := second a b results
    rw [mk_ok_bind, mk_ok_bind]
    -- `cases` on the second attempts wants variables for them
    generalize next a = x at then_
    generalize next' b = y at then_
    cases then_ with
    | ok results' courses' => exact .ok results' (courses.append courses')
    | error courses' => exact .error (courses.append courses')

theorem happen_bind {h h' : Happening} {next : Unit → Attempt γ} {next' : Unit → Attempt δ}
    (alike : h.Resembles like h') (second : (next ()).Resembles like good' (next' ())) :
    (Attempt.happen h >>= next).Resembles like good' (Attempt.happen h' >>= next') :=
  (happen alike).bind fun _ _ _ => second

theorem happenAll_bind {course course' : Course} {next : Unit → Attempt γ}
    {next' : Unit → Attempt δ} (alike : course.Resembles like course') (second : (next ()).Resembles like good' (next' ())) :
    (happenAll course >>= next).Resembles like good' (happenAll course' >>= next') := by
  have first : (happenAll course).Resembles like Eq (happenAll course') := .ok rfl alike
  exact first.bind fun _ _ _ => second

theorem map (f : α → γ) {attempt attempt' : Attempt α} (h : attempt.Resembles like Eq attempt') :
    (f <$> attempt).Resembles like Eq (f <$> attempt') := by
  rw [map_eq_pure_bind, map_eq_pure_bind]
  apply h.bind
  rintro a _ rfl
  exact .ok rfl .nil

end Resembles

end Attempt

/-! ### Runs -/

namespace Run

variable {settings settings' : Settings} {outside outside' : Surroundings}

/-- **Runs resemble each other if their parts do.** -/
theorem resembles_release
    (metadata : (publishMetadata settings outside).Resembles like Eq
      (publishMetadata settings' outside'))
    (upload : (uploadArtifact settings outside).Resembles like Eq
      (uploadArtifact settings' outside')) (parts : Parts) :
    (release settings parts outside).Resembles like Eq (release settings' parts outside') := by
  have performed : (perform settings parts outside).Resembles like Eq
      (perform settings' parts outside') := by
    cases parts with
    | all =>
      rw [perform_all, perform_all]
      apply metadata.bind
      rintro p _ rfl
      exact upload.map _
    | metadata =>
      rw [perform_metadata, perform_metadata]
      exact metadata.map _
    | upload =>
      rw [perform_upload, perform_upload]
      exact upload.map _
  -- what happens at the end depends on how the run has ended, and both have ended alike
  have closed (outcome : Except Failure Report) :
      (closing outcome).Resembles like (closing outcome) := by
    rcases outcome with failure | report <;> exact .self nofun nofun
  unfold release
  generalize perform settings parts outside = attempt at performed
  generalize perform settings' parts outside' = attempt' at performed
  cases performed with
  | ok results courses =>
    cases results
    exact .ok rfl (courses.append (closed _))
  | error courses => exact .error (courses.append (closed _))

end Run

end PackageRelease
