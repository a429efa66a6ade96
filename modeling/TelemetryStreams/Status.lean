import TelemetryStreams.Text.Quoted

/-!
# Call statuses

The status with which a remote call ends: one of seventeen codes and a message. A number that is no
code stands for `unknown`.
-/
namespace TelemetryStreams

/-- The codes with which a call can end. -/
inductive Code where
  | ok | cancelled | unknown | invalidArgument | deadlineExceeded | notFound | alreadyExists
  | permissionDenied | resourceExhausted | failedPrecondition | aborted | outOfRange
  | unimplemented | internal | unavailable | dataLoss | unauthenticated
  deriving DecidableEq, Repr, Inhabited

namespace Code

/-- Every code with its number and its name, in the order of the numbers. -/
def table : List (Code × Nat × String) :=
  [(.ok, 0, "Ok"), (.cancelled, 1, "Cancelled"), (.unknown, 2, "Unknown"),
   (.invalidArgument, 3, "InvalidArgument"), (.deadlineExceeded, 4, "DeadlineExceeded"),
   (.notFound, 5, "NotFound"), (.alreadyExists, 6, "AlreadyExists"),
   (.permissionDenied, 7, "PermissionDenied"), (.resourceExhausted, 8, "ResourceExhausted"),
   (.failedPrecondition, 9, "FailedPrecondition"), (.aborted, 10, "Aborted"),
   (.outOfRange, 11, "OutOfRange"), (.unimplemented, 12, "Unimplemented"),
   (.internal, 13, "Internal"), (.unavailable, 14, "Unavailable"), (.dataLoss, 15, "DataLoss"),
   (.unauthenticated, 16, "Unauthenticated")]

def number (code : Code) : Nat := ((table.find? (·.1 = code)).map (·.2.1)).getD 2

def name (code : Code) : String := ((table.find? (·.1 = code)).map (·.2.2)).getD ""

def ofNumber (n : Int) : Code := ((table.find? fun row => (row.2.1 : Int) = n).map (·.1)).getD .unknown

theorem ofNumber_number (code : Code) : ofNumber code.number = code := by
  cases code <;> decide

end Code

/-- How a call ended. -/
structure Status where
  code : Code
  message : String
  deriving DecidableEq, Repr, Inhabited

namespace Status

def canceled : Status := ⟨.cancelled, "context canceled"⟩

def text (status : Status) : String :=
  "status: " ++ status.code.name ++ ", message: " ++ Text.quoted status.message ++
    ", details: [], metadata: MetadataMap \x7b headers: \x7b\x7d \x7d"

end Status

end TelemetryStreams
