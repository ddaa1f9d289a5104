/-! Byte sequences, as they travel on the output streams and lie in files. Text
reaches them through its UTF-8 form. -/

namespace CommandShell

abbrev Bytes := List UInt8

namespace Bytes

def ofText (text : String) : Bytes := text.toList.flatMap String.utf8EncodeChar

def toText? (data : Bytes) : Option String := String.fromUTF8? ⟨data.toArray⟩

@[simp]
theorem ofText_append (first second : String) :
    ofText (first ++ second) = ofText first ++ ofText second := by
  simp [ofText, String.toList_append]

end Bytes

def byteLength (text : String) : Nat := (Bytes.ofText text).length

end CommandShell
