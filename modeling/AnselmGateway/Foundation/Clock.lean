import Mathlib.Data.Int.Notation

/-! Clock arithmetic. An instant is a count of nanoseconds since the Unix epoch
and a length of time a count of nanoseconds, both exact integers. -/
namespace AnselmGateway.Foundation

def second : ℤ := 1000000000

def minute : ℤ := 60000000000

/-- `time.Unix(seconds, 0)`. -/
def unix (seconds : ℤ) : ℤ := seconds * second

end AnselmGateway.Foundation
