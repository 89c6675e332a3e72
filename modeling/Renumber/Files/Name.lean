import Renumber.Text.Utf8

/-!
# Names

A file has any bytes as its name, and whoever gives the name need not have meant a text.  Names compare
as their bytes do.
-/

namespace Renumber

/-! ## Algorithm -/

structure Name where
  bytes : List UInt8
  deriving DecidableEq

namespace Name

def ofText (text : String) : Name := ⟨Text.bytesOf text⟩

instance : Coe String Name := ⟨ofText⟩

instance : LT Name := ⟨fun a b => a.bytes < b.bytes⟩

/-- The name as a text, if it is one. -/
def text? (name : Name) : Option String := Text.ofBytes? name.bytes

end Name

end Renumber
