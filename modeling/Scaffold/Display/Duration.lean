import Scaffold.Number.Decimal

/-!
Durations as they are shown: milliseconds below one second, seconds with one place below a minute,
and whole minutes and seconds from there on.
-/
namespace Scaffold

structure Duration where
  seconds : Nat
  nanoseconds : Nat
  deriving DecidableEq, Repr

namespace Duration

def ofMilliseconds (ms : Nat) : Duration := ⟨ms / 1000, ms % 1000 * 1000000⟩

def milliseconds (d : Duration) : Nat := d.seconds * 1000 + d.nanoseconds / 1000000

/-- The seconds as one number, each part of it rounded. -/
def inSeconds (d : Duration) : Binary64 :=
  (Binary64.ofNat d.seconds).add ((Binary64.ofNat d.nanoseconds).div (.ofNat 1000000000))

def isBelow (x : Binary64) (n : Nat) : Bool :=
  x.ratio.1 < n * x.ratio.2

/-- A number with one place after the point, a half rounded to the even digit. -/
def onePlace (x : Binary64) : String :=
  let tenths := Binary64.roundDiv (10 * x.ratio.1) x.ratio.2
  s!"{tenths / 10}.{tenths % 10}"

def text (d : Duration) : String :=
  let x := d.inSeconds
  if isBelow x 1 then s!"{d.milliseconds}ms"
  else if isBelow x 60 then s!"{onePlace x}s"
  else s!"{d.seconds / 60}m {d.seconds % 60}s"

end Duration

end Scaffold
