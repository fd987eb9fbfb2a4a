/-!
# UTF-8

Texts as lists of bytes and back.
-/

namespace DebugBridge.Text

def encodeUtf8 (s : String) : List UInt8 := s.toUTF8.data.toList

/-- The text with these bytes, when they are valid UTF-8. -/
def decodeUtf8? (bytes : List UInt8) : Option String :=
  String.fromUTF8? ⟨bytes.toArray⟩

end DebugBridge.Text
