/-!
# Values of header fields

A header field carries a text of any bytes but control characters, of which only the
tab is allowed.
-/

namespace ShapeQuery

/-- Whether a byte can stand in the value of a header field: every byte but the
control characters, of which the tab is allowed. -/
def isFieldByte (byte : UInt8) : Bool :=
  (0x20 ≤ byte || byte == 0x09) && byte != 0x7F

/-- Whether a header field can carry a text. -/
def isFieldText (text : String) : Bool :=
  text.toUTF8.data.all isFieldByte

end ShapeQuery
