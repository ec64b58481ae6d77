/-!
# Bytes of a text

The bytes that a text has in UTF-8, and the text that bytes spell.
-/

set_option autoImplicit false

namespace CommandConsole.Text

/-- The bytes of a text. -/
def bytesOf (cs : List Char) : List UInt8 := (String.ofList cs).toUTF8.toList

/-- The text that bytes spell, if they spell one. -/
def ofBytes? (bytes : List UInt8) : Option String := String.fromUTF8? bytes.toByteArray

end CommandConsole.Text
