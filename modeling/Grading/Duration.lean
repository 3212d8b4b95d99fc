import Grading.Json.Value

namespace Grading

/-! Lengths of time. Inputs give milliseconds or seconds; instants on a clock are plain numbers of
nanoseconds, and a `Duration` is what is reported. -/

@[ext] structure Duration where
  nanoseconds : Nat
  deriving DecidableEq, Repr, Inhabited

namespace Duration

def zero : Duration := ⟨0⟩

def ofMillis (count : Nat) : Duration := ⟨count * 1000000⟩

def ofSeconds (count : Nat) : Duration := ⟨count * 1000000000⟩

instance : Add Duration where
  add left right := ⟨left.nanoseconds + right.nanoseconds⟩

instance : LE Duration where
  le left right := left.nanoseconds ≤ right.nanoseconds

instance (left right : Duration) : Decidable (left ≤ right) :=
  inferInstanceAs (Decidable (left.nanoseconds ≤ right.nanoseconds))

@[simp] theorem nanoseconds_add (left right : Duration) :
    (left + right).nanoseconds = left.nanoseconds + right.nanoseconds := rfl

def seconds (duration : Duration) : Nat := duration.nanoseconds / 1000000000

def subsecond (duration : Duration) : Nat := duration.nanoseconds % 1000000000

theorem seconds_add_subsecond (duration : Duration) :
    ofSeconds duration.seconds + ⟨duration.subsecond⟩ = duration := by
  ext
  simp only [ofSeconds, seconds, subsecond, nanoseconds_add]
  omega

def toValue (duration : Duration) : Json.Value :=
  .object [("secs", .natural duration.seconds), ("nanos", .natural duration.subsecond)]

/-! ## Text -/

/-- The digits of `value` in `width` places, with zeros in front. -/
def padded (width value : Nat) : List Char :=
  let digits := (toString value).toList
  List.replicate (width - digits.length) '0' ++ digits

/-- A number of units with a fraction of `width` places, whose final zeros and needless point are
dropped. -/
def fractional (whole fraction width : Nat) : String :=
  let places := ((padded width fraction).reverse.dropWhile (· == '0')).reverse
  if places.isEmpty then toString whole
  else toString whole ++ "." ++ String.ofList places

/-- The duration in the largest unit in which it is at least one: seconds, milliseconds,
microseconds or nanoseconds. -/
def text (duration : Duration) : String :=
  let count := duration.nanoseconds
  if count ≥ 1000000000 then fractional duration.seconds duration.subsecond 9 ++ "s"
  else if count ≥ 1000000 then fractional (count / 1000000) (count % 1000000) 6 ++ "ms"
  else if count ≥ 1000 then fractional (count / 1000) (count % 1000) 3 ++ "µs"
  else toString count ++ "ns"

example : text (ofMillis 250) = "250ms" := by decide +kernel
example : text ⟨1500⟩ = "1.5µs" := by decide +kernel
example : text (ofMillis 1250) = "1.25s" := by decide +kernel
example : text zero = "0ns" := by decide +kernel

end Duration

end Grading
