import ShapeQuery.Text.Big5
import ShapeQuery.Text.Gb18030
import ShapeQuery.Text.Japanese
import ShapeQuery.Text.Korean
import ShapeQuery.Text.SingleByte
import ShapeQuery.Text.Utf16

/-!
# Character sets of bodies

The bytes of a body are read in the character set that the content type names, or
in UTF-8 where it names none that is known.  A byte order mark at the front
decides before the content type does, and is removed.
-/

namespace ShapeQuery

namespace Text

/-- A way to read bytes as text. -/
inductive Charset where
  | utf8
  | utf16 (order : ByteOrder)
  | singleByte (upperHalf : Array Nat)
  | doubleByte (set : DoubleByte)
  | eucJp
  | iso2022Jp
  | gb18030
  | privateUse
  | refused

namespace Charset

/-- Reads bytes.  In the private-use set the upper half stands for U+F780 and the
following; of a refused set nothing can be read. -/
def decode (charset : Charset) (bytes : List UInt8) : String :=
  match charset with
  | .utf8 => decodeUtf8 bytes
  | .utf16 order => decodeUtf16 order bytes
  | .singleByte upperHalf => decodeSingleByte upperHalf bytes
  | .doubleByte set => decodeDoubleByte set bytes
  | .eucJp => decodeEucJp bytes
  | .iso2022Jp => decodeIso2022Jp bytes
  | .gb18030 => decodeGb18030 bytes
  | .privateUse =>
    String.ofList (bytes.map fun byte =>
      if byte < 0x80 then Char.ofNat byte.toNat else Char.ofNat (0xF700 + byte.toNat))
  | .refused => if bytes.isEmpty then "" else String.singleton replacementCharacter

/-- The labels of each character set, in lower case. -/
def labels : List (List String × Charset) := [
  (["unicode-1-1-utf-8", "unicode11utf8", "unicode20utf8", "utf-8", "utf8", "x-unicode20utf8"
    ], .utf8),
  (["866", "cp866", "csibm866", "ibm866"], .singleByte SingleByte.ibm866),
  (["csisolatin2", "iso-8859-2", "iso-ir-101", "iso8859-2", "iso88592", "iso_8859-2",
    "iso_8859-2:1987", "l2", "latin2"], .singleByte SingleByte.iso8859Part2),
  (["csisolatin3", "iso-8859-3", "iso-ir-109", "iso8859-3", "iso88593", "iso_8859-3",
    "iso_8859-3:1988", "l3", "latin3"], .singleByte SingleByte.iso8859Part3),
  (["csisolatin4", "iso-8859-4", "iso-ir-110", "iso8859-4", "iso88594", "iso_8859-4",
    "iso_8859-4:1988", "l4", "latin4"], .singleByte SingleByte.iso8859Part4),
  (["csisolatincyrillic", "cyrillic", "iso-8859-5", "iso-ir-144", "iso8859-5", "iso88595",
    "iso_8859-5", "iso_8859-5:1988"], .singleByte SingleByte.iso8859Part5),
  (["arabic", "asmo-708", "csiso88596e", "csiso88596i", "csisolatinarabic", "ecma-114",
    "iso-8859-6", "iso-8859-6-e", "iso-8859-6-i", "iso-ir-127", "iso8859-6", "iso88596",
    "iso_8859-6", "iso_8859-6:1987"], .singleByte SingleByte.iso8859Part6),
  (["csisolatingreek", "ecma-118", "elot_928", "greek", "greek8", "iso-8859-7", "iso-ir-126",
    "iso8859-7", "iso88597", "iso_8859-7", "iso_8859-7:1987", "sun_eu_greek"
    ], .singleByte SingleByte.iso8859Part7),
  (["csiso88598e", "csisolatinhebrew", "hebrew", "iso-8859-8", "iso-8859-8-e", "iso-ir-138",
    "iso8859-8", "iso88598", "iso_8859-8", "iso_8859-8:1988", "visual", "csiso88598i",
    "iso-8859-8-i", "logical"], .singleByte SingleByte.iso8859Part8),
  (["csisolatin6", "iso-8859-10", "iso-ir-157", "iso8859-10", "iso885910", "l6", "latin6"
    ], .singleByte SingleByte.iso8859Part10),
  (["iso-8859-13", "iso8859-13", "iso885913"], .singleByte SingleByte.iso8859Part13),
  (["iso-8859-14", "iso8859-14", "iso885914"], .singleByte SingleByte.iso8859Part14),
  (["csisolatin9", "iso-8859-15", "iso8859-15", "iso885915", "iso_8859-15", "l9"
    ], .singleByte SingleByte.iso8859Part15),
  (["iso-8859-16"], .singleByte SingleByte.iso8859Part16),
  (["cskoi8r", "koi", "koi8", "koi8-r", "koi8_r"], .singleByte SingleByte.koi8r),
  (["koi8-ru", "koi8-u"], .singleByte SingleByte.koi8u),
  (["csmacintosh", "mac", "macintosh", "x-mac-roman"], .singleByte SingleByte.macintosh),
  (["dos-874", "iso-8859-11", "iso8859-11", "iso885911", "tis-620", "windows-874"
    ], .singleByte SingleByte.windows874),
  (["cp1250", "windows-1250", "x-cp1250"], .singleByte SingleByte.windows1250),
  (["cp1251", "windows-1251", "x-cp1251"], .singleByte SingleByte.windows1251),
  (["ansi_x3.4-1968", "ascii", "cp1252", "cp819", "csisolatin1", "ibm819", "iso-8859-1",
    "iso-ir-100", "iso8859-1", "iso88591", "iso_8859-1", "iso_8859-1:1987", "l1", "latin1",
    "us-ascii", "windows-1252", "x-cp1252"], .singleByte SingleByte.windows1252),
  (["cp1253", "windows-1253", "x-cp1253"], .singleByte SingleByte.windows1253),
  (["cp1254", "csisolatin5", "iso-8859-9", "iso-ir-148", "iso8859-9", "iso88599",
    "iso_8859-9", "iso_8859-9:1989", "l5", "latin5", "windows-1254", "x-cp1254"
    ], .singleByte SingleByte.windows1254),
  (["cp1255", "windows-1255", "x-cp1255"], .singleByte SingleByte.windows1255),
  (["cp1256", "windows-1256", "x-cp1256"], .singleByte SingleByte.windows1256),
  (["cp1257", "windows-1257", "x-cp1257"], .singleByte SingleByte.windows1257),
  (["cp1258", "windows-1258", "x-cp1258"], .singleByte SingleByte.windows1258),
  (["x-mac-cyrillic", "x-mac-ukrainian"], .singleByte SingleByte.macCyrillic),
  (["chinese", "csgb2312", "csiso58gb231280", "gb18030", "gb2312", "gb_2312", "gb_2312-80",
    "gbk", "iso-ir-58", "x-gbk"], .gb18030),
  (["big5", "big5-hkscs", "cn-big5", "csbig5", "x-x-big5"], .doubleByte big5),
  (["cseucpkdfmtjapanese", "euc-jp", "x-euc-jp"], .eucJp),
  (["csiso2022jp", "iso-2022-jp"], .iso2022Jp),
  (["csshiftjis", "ms932", "ms_kanji", "shift-jis", "shift_jis", "sjis", "windows-31j",
    "x-sjis"], .doubleByte shiftJis),
  (["cseuckr", "csksc56011987", "euc-kr", "iso-ir-149", "korean", "ks_c_5601-1987",
    "ks_c_5601-1989", "ksc5601", "ksc_5601", "windows-949"], .doubleByte eucKr),
  (["csiso2022kr", "hz-gb-2312", "iso-2022-cn", "iso-2022-cn-ext", "iso-2022-kr",
    "replacement"], .refused),
  (["unicodefffe", "utf-16be"], .utf16 .bigEndian),
  (["csunicode", "iso-10646-ucs-2", "ucs-2", "unicode", "unicodefeff", "utf-16", "utf-16le"
    ], .utf16 .littleEndian),
  (["x-user-defined"], .privateUse)]

/-- The character set of a label, in any case and with blanks around it. -/
def ofLabel? (label : String) : Option Charset :=
  let isPadding (character : Char) : Bool :=
    character == ' ' || character == '\t' || character == '\n' || character == '\x0c' ||
      character == '\r'
  let trimmed := ((label.toList.dropWhile isPadding).reverse.dropWhile isPadding).reverse
  let name := String.ofList (trimmed.map Char.toLower)
  (labels.find? fun entry => entry.1.contains name).map (·.2)

/-- The character set of a byte order mark and the bytes behind it. -/
def ofMark? : List UInt8 → Option (Charset × List UInt8)
  | 0xEF :: 0xBB :: 0xBF :: rest => some (.utf8, rest)
  | 0xFF :: 0xFE :: rest => some (.utf16 .littleEndian, rest)
  | 0xFE :: 0xFF :: rest => some (.utf16 .bigEndian, rest)
  | _ => none

end Charset

/-- Whether a character may stand in a name or an unquoted value of a media
type. -/
def isMediaCharacter (character : Char) : Bool :=
  character.isAlphanum ||
    ['!', '#', '$', '%', '&', '\'', '*', '+', '-', '.', '^', '_', '\x60', '|', '~'].contains
      character

/-- Whether a character may stand inside the quotes of a value. -/
def isQuotedMediaCharacter (character : Char) : Bool :=
  0x1F < character.toNat && character.toNat < 0x7F

/-- Reads a value up to the quote that closes it.  A value has at least one
character, so a quote right behind the opening one belongs to it. -/
def quotedMediaValue : List Char → Option (List Char × List Char)
  | [] => none
  | first :: rest =>
    let isInner (character : Char) : Bool :=
      isQuotedMediaCharacter character && character != '"'
    match rest.dropWhile isInner with
    | '"' :: after =>
      if isQuotedMediaCharacter first then some (first :: rest.takeWhile isInner, after) else none
    | _ => none

/-- Reads the parameters of a media type; every round takes a character, so `fuel`
need not exceed their number.  A malformed parameter spoils the whole. -/
def mediaParameters : Nat → List Char → Option (List (String × String))
  | _, [] => some []
  | 0, _ :: _ => none
  | fuel + 1, ' ' :: rest => mediaParameters fuel rest
  | fuel + 1, text =>
    let name := text.takeWhile isMediaCharacter
    match name, text.dropWhile isMediaCharacter with
    | _ :: _, '=' :: '"' :: quotedText =>
      match quotedMediaValue quotedText with
      | some (value, after) =>
        match after.dropWhile (· == ' ') with
        | [] => some [(String.ofList name, String.ofList value)]
        | ';' :: rest =>
          (mediaParameters fuel rest).map ((String.ofList name, String.ofList value) :: ·)
        | _ => none
      | none => none
    | _ :: _, '=' :: after =>
      let value := after.takeWhile isMediaCharacter
      match after.dropWhile isMediaCharacter with
      | [] => some [(String.ofList name, String.ofList value)]
      | ';' :: rest =>
        if value.isEmpty then none
        else (mediaParameters fuel rest).map ((String.ofList name, String.ofList value) :: ·)
      | _ => none
    | _, _ => none

/-- The parameters of a media type, if it is well formed: a type, a subtype and
behind each semicolon a parameter. -/
def mediaTypeParameters? (text : String) : Option (List (String × String)) :=
  let characters := text.toList
  match characters.takeWhile isMediaCharacter, characters.dropWhile isMediaCharacter with
  | _ :: _, '/' :: rest =>
    match rest.takeWhile isMediaCharacter, rest.dropWhile isMediaCharacter with
    | [], _ => none
    | _, [] => some []
    | _, ';' :: parameters => mediaParameters parameters.length parameters
    | _, _ => none
  | _, _ => none

/-- The character set that a content type names. -/
def charsetOf (contentType? : Option String) : Charset :=
  let named := do
    let parameters ← mediaTypeParameters? (← contentType?)
    let label ← parameters.find? fun (entry : String × String) =>
      entry.1.map Char.toLower == "charset"
    Charset.ofLabel? label.2
  named.getD .utf8

def decodeBody (contentType? : Option String) (bytes : List UInt8) : String :=
  match Charset.ofMark? bytes with
  | some (charset, rest) => charset.decode rest
  | none => (charsetOf contentType?).decode bytes

end Text

end ShapeQuery
