/-!
Bytes on the output and on the error output, in the order in which they are printed.
-/
namespace Scaffold

inductive Printed where
  | out (bytes : List UInt8)
  | err (bytes : List UInt8)
  deriving DecidableEq, Repr

namespace Printed

def outText (s : String) : Printed := out s.toUTF8.toList
def errText (s : String) : Printed := err s.toUTF8.toList

def outBytes (ps : List Printed) : List UInt8 :=
  ps.flatMap fun
    | out bytes => bytes
    | err _ => []

def errBytes (ps : List Printed) : List UInt8 :=
  ps.flatMap fun
    | err bytes => bytes
    | out _ => []

end Printed

end Scaffold
