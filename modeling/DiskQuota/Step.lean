import DiskQuota.Status

/-!
The calls of a quota operation that can fail, and the errors that name them. Every step belongs to
one category. An error made by `StepError.ofStep` has the category of its step; one that is put together
by hand may name another, and `kind` always answers for the step.
-/
namespace DiskQuota

/-- A single call into the quota service that can fail. -/
inductive Step where
  | resolveManagerClass
  | resolveManagerInterface
  | initializeContext
  | instantiateSession
  | createRecord
  | getRecord
  | setLimit
  | commit
  | readLimit
  | readUsed
deriving DecidableEq, Repr

/-- What a step is part of. -/
inductive Category where
  | acquisition
  | recordResolution
  | mutation
  | read
deriving DecidableEq, Repr

namespace Step

def category : Step → Category
  | resolveManagerClass | resolveManagerInterface | initializeContext | instantiateSession =>
    .acquisition
  | createRecord | getRecord => .recordResolution
  | setLimit | commit => .mutation
  | readLimit | readUsed => .read

/-- What is being done at the step. -/
def text : Step → String
  | resolveManagerClass => "resolving quota manager class id"
  | resolveManagerInterface => "resolving quota manager interface id"
  | initializeContext => "initializing subsystem context"
  | instantiateSession => "instantiating quota manager"
  | createRecord => "creating quota record"
  | getRecord => "getting quota record"
  | setLimit => "setting quota limit"
  | commit => "committing quota record"
  | readLimit => "reading quota limit"
  | readUsed => "reading quota used"

end Step

/-- What failed, in the words that open an error message. -/
def Category.text : Category → String
  | acquisition => "Session acquisition"
  | recordResolution => "Quota record resolution"
  | mutation => "Quota record mutation"
  | read => "Quota record read"

/-- The failure of a step with a status code. -/
structure StepError where
  category : Category
  step : Step
  code : Status
deriving DecidableEq, Repr

namespace StepError

/-- The failure of `step`, filed under the category of that step. -/
def ofStep (step : Step) (code : Status) : StepError := ⟨step.category, step, code⟩

/-- The category of the step that failed. -/
def kind (e : StepError) : Category := e.step.category

def message (e : StepError) : String :=
  e.category.text ++ " failed while " ++ e.step.text ++ ": " ++ e.code.text

@[simp] theorem kind_ofStep (step : Step) (code : Status) :
    (StepError.ofStep step code).kind = (StepError.ofStep step code).category := rfl

end StepError
end DiskQuota
