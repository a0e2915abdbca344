import Scaffold.Text.Utf8

/-!
Texts as a shell sees them. A shell counts, cuts and compares by bytes, so its texts have one
character for each byte, and every sequence of bytes is such a text.
-/
namespace Scaffold.Shell.ByteText

def ofBytes (bytes : List UInt8) : String :=
  String.ofList (bytes.map fun b => Char.ofNat b.toNat)

def bytes (s : String) : List UInt8 :=
  s.toList.map fun c => UInt8.ofNat c.toNat

def ofText (s : String) : String := ofBytes s.toUTF8.toList

/-- What a text says to a reader; bytes that say nothing become replacement characters. -/
def text (s : String) : String := String.ofList (Text.decodeLossy (bytes s))

end Scaffold.Shell.ByteText
