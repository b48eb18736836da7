/-
PackageRelease/Run/Attempt.lean

Attempts: computations that may fail, and what happens on the way.

What happens is written down in one list, the course of the attempt, whether
the attempt comes to a good end or not.  Everything that can be seen from
outside is a view of that list: the steps of the machine, the log, the output,
the requests and the calls of the upload tool.
-/
import PackageRelease.Run.Event
import PackageRelease.Service.Request
import PackageRelease.Upload.Tool

namespace PackageRelease

/-! ### What happens -/

/-- What becomes of a line of output. -/
inductive Writing where
  | done
  /-- Nothing of the line is written. -/
  | refused (reason : String)
  /-- The line is written, but not passed on. -/
  | unflushed (reason : String)
deriving DecidableEq, Repr

namespace Writing

/-- The line is in the output. -/
def keeps : Writing → Bool
  | refused _ => false
  | _ => true

/-- Why the line may be lost. -/
def reason? : Writing → Option String
  | done => none
  | refused reason | unflushed reason => some reason

end Writing

/-- One thing that happens in an attempt. -/
inductive Happening where
  | step (step : Step)
  | note (event : Event)
  /-- The metadata service reads a request. -/
  | request (request : Service.Request)
  | call (call : Tool.Call)
  | line (text : String) (writing : Writing)
deriving DecidableEq, Repr

namespace Happening

/-- The step that is taken, if one is. -/
@[simp] def step? : Happening → Option Step
  | step s => some s
  | _ => none

/-- The request that is read, if one is. -/
@[simp] def request? : Happening → Option Service.Request
  | request r => some r
  | _ => none

/-- The call that is made, if one is. -/
@[simp] def call? : Happening → Option Tool.Call
  | call c => some c
  | _ => none

/-- The line that is attempted, if one is, with what becomes of it. -/
@[simp] def line? : Happening → Option (String × Writing)
  | line text writing => some (text, writing)
  | _ => none

end Happening

/-- What happens in an attempt, in order. -/
abbrev Course := List Happening

namespace Course

/-! ### Views -/

/-- The steps that are taken. -/
def steps (course : Course) : List Step := course.filterMap Happening.step?

/-- The states that are entered. -/
def targets (course : Course) : List State := course.steps.map Step.target

/-- The log of a course that starts in a state. -/
def log (state : State) : Course → List Event
  | [] => []
  | .step step :: rest => .stepTaken state step.target :: log step.target rest
  | .note event :: rest => event :: log state rest
  | .line _ writing :: rest =>
    match writing.reason? with
    | some reason => .outputLost reason :: log state rest
    | none => log state rest
  | _ :: rest => log state rest

/-- The lines that are attempted, with what becomes of them. -/
def lines (course : Course) : List (String × Writing) := course.filterMap Happening.line?

/-- The text that is in the output. -/
def output (course : Course) : String :=
  String.join <| course.lines.map fun (text, writing) =>
    if writing.keeps then text ++ "\n" else ""

/-- The requests that the metadata service reads. -/
def requests (course : Course) : List Service.Request := course.filterMap Happening.request?

/-- The calls of the upload tool. -/
def calls (course : Course) : List Tool.Call := course.filterMap Happening.call?

@[simp] theorem steps_nil : steps [] = [] := rfl

@[simp] theorem targets_nil : targets [] = [] := rfl

@[simp] theorem lines_nil : lines [] = [] := rfl

@[simp] theorem requests_nil : requests [] = [] := rfl

@[simp] theorem calls_nil : calls [] = [] := rfl

@[simp] theorem steps_cons (h : Happening) (rest : Course) :
    steps (h :: rest) = h.step?.toList ++ steps rest := by
  cases h <;> rfl

@[simp] theorem targets_cons (h : Happening) (rest : Course) :
    targets (h :: rest) = h.step?.toList.map Step.target ++ targets rest := by
  cases h <;> rfl

@[simp] theorem lines_cons (h : Happening) (rest : Course) :
    lines (h :: rest) = h.line?.toList ++ lines rest := by
  cases h <;> rfl

@[simp] theorem requests_cons (h : Happening) (rest : Course) :
    requests (h :: rest) = h.request?.toList ++ requests rest := by
  cases h <;> rfl

@[simp] theorem calls_cons (h : Happening) (rest : Course) :
    calls (h :: rest) = h.call?.toList ++ calls rest := by
  cases h <;> rfl

@[simp] theorem steps_append (a b : Course) : steps (a ++ b) = steps a ++ steps b :=
  List.filterMap_append

@[simp] theorem targets_append (a b : Course) : targets (a ++ b) = targets a ++ targets b := by
  simp [targets]

@[simp] theorem lines_append (a b : Course) : lines (a ++ b) = lines a ++ lines b :=
  List.filterMap_append

@[simp] theorem requests_append (a b : Course) : requests (a ++ b) = requests a ++ requests b :=
  List.filterMap_append

@[simp] theorem calls_append (a b : Course) : calls (a ++ b) = calls a ++ calls b :=
  List.filterMap_append

end Course

/-! ### Attempts -/

/-- An outcome, and what happened until it came about. -/
structure Attempt (α : Type) where
  outcome : Except Failure α
  course : Course

namespace Attempt

variable {α β : Type}

/-- The attempt that ends well at once. -/
protected def pure (a : α) : Attempt α := ⟨.ok a, []⟩

/-- One attempt after the other, if the first one ends well. -/
protected def bind (attempt : Attempt α) (next : α → Attempt β) : Attempt β :=
  match attempt.outcome with
  | .ok a => ⟨(next a).outcome, attempt.course ++ (next a).course⟩
  | .error failure => ⟨.error failure, attempt.course⟩

instance : Monad Attempt where
  pure := Attempt.pure
  bind := Attempt.bind

/-- One thing happens. -/
def happen (happening : Happening) : Attempt Unit := ⟨.ok (), [happening]⟩

/-- Some things happen, one after the other. -/
def happenAll (happenings : List Happening) : Attempt Unit := ⟨.ok (), happenings⟩

/-- An outcome that comes about without anything happening. -/
def ofExcept (outcome : Except Failure α) : Attempt α := ⟨outcome, []⟩

/-- The attempt ends with a failure. -/
def fail (failure : Failure) : Attempt α := ⟨.error failure, []⟩

/-- The machine goes to a state. -/
def moveTo (state : State) (detail : Option String := none) : Attempt Unit :=
  happen (.step (.moved state detail))

/-- An event is logged. -/
def note (event : Event) : Attempt Unit := happen (.note event)

@[simp] theorem outcome_pure (a : α) : (pure a : Attempt α).outcome = .ok a := rfl

@[simp] theorem course_pure (a : α) : (pure a : Attempt α).course = [] := rfl

@[simp] theorem mk_ok_bind (a : α) (course : Course) (next : α → Attempt β) :
    (⟨.ok a, course⟩ : Attempt α) >>= next
      = ⟨(next a).outcome, course ++ (next a).course⟩ := rfl

@[simp] theorem mk_error_bind (failure : Failure) (course : Course) (next : α → Attempt β) :
    (⟨.error failure, course⟩ : Attempt α) >>= next = ⟨.error failure, course⟩ := rfl

@[simp] theorem happen_bind (happening : Happening) (next : Unit → Attempt β) :
    happen happening >>= next = ⟨(next ()).outcome, happening :: (next ()).course⟩ := rfl

@[simp] theorem happenAll_bind (happenings : List Happening) (next : Unit → Attempt β) :
    happenAll happenings >>= next = ⟨(next ()).outcome, happenings ++ (next ()).course⟩ := rfl

instance : LawfulMonad Attempt := by
  refine .mk' Attempt ?_ (fun _ _ => rfl) ?_
  · rintro α ⟨failure | a, course⟩
    · rfl
    · exact congrArg (Attempt.mk _) (List.append_nil course)
  · rintro α β γ ⟨failure | a, course⟩ next last
    · rfl
    · rcases h : next a with ⟨failure | b, course'⟩ <;> simp [h]

/-- What comes of one attempt after the other comes of their outcomes alone. -/
theorem outcome_bind (attempt : Attempt α) (next : α → Attempt β) :
    (attempt >>= next).outcome = attempt.outcome >>= fun a => (next a).outcome := by
  rcases attempt with ⟨failure | a, course⟩ <;> rfl

@[simp] theorem outcome_map (f : α → β) (attempt : Attempt α) :
    (f <$> attempt).outcome = attempt.outcome.map f := by
  rcases attempt with ⟨failure | a, course⟩ <;> rfl

theorem outcome_map_eq_ok_iff {f : α → β} {attempt : Attempt α} {b : β} :
    (f <$> attempt).outcome = .ok b ↔ ∃ a, attempt.outcome = .ok a ∧ f a = b := by
  rcases attempt with ⟨failure | a, course⟩ <;> simp [Except.map]

@[simp] theorem course_map (f : α → β) (attempt : Attempt α) :
    (f <$> attempt).course = attempt.course := by
  rcases attempt with ⟨failure | a, course⟩
  · rfl
  · exact List.append_nil course

/-- What holds where the first attempt ends, and where the second one does, holds of both. -/
theorem course_bind_of {P : Course → Prop} {attempt : Attempt α} {next : α → Attempt β}
    (stops : P attempt.course)
    (goes : ∀ a, attempt.outcome = .ok a → P (attempt.course ++ (next a).course)) :
    P (attempt >>= next).course := by
  rcases attempt with ⟨failure | a, course⟩
  · exact stops
  · exact goes a rfl

end Attempt

end PackageRelease
