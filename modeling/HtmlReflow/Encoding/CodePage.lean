import HtmlReflow.Encoding.CodePage.Further
import HtmlReflow.Encoding.CodePage.Iso8859
import HtmlReflow.Encoding.CodePage.Windows
import HtmlReflow.Encoding.Decoder

namespace HtmlReflow

/-- The encodings in which every byte is a character of its own. -/
inductive CodePage where
  | ibm866
  | iso8859x2
  | iso8859x3
  | iso8859x4
  | iso8859x5
  | iso8859x6
  | iso8859x7
  | iso8859x8
  | iso8859x8i
  | iso8859x10
  | iso8859x13
  | iso8859x14
  | iso8859x15
  | iso8859x16
  | koi8r
  | koi8u
  | macintosh
  | windows1250
  | windows1251
  | windows1252
  | windows1253
  | windows1254
  | windows1255
  | windows1256
  | windows1257
  | windows1258
  | windows874
  | macCyrillic
  deriving DecidableEq, Repr

namespace CodePage

def all : List CodePage :=
  [.ibm866, .iso8859x2, .iso8859x3, .iso8859x4, .iso8859x5, .iso8859x6, .iso8859x7, .iso8859x8,
    .iso8859x8i, .iso8859x10, .iso8859x13, .iso8859x14, .iso8859x15, .iso8859x16, .koi8r, .koi8u,
    .macintosh, .windows1250, .windows1251, .windows1252, .windows1253, .windows1254,
    .windows1255, .windows1256, .windows1257, .windows1258, .windows874, .macCyrillic]

theorem mem_all (page : CodePage) : page ∈ all := by cases page <;> decide

/-- The code points of bytes 80 to FF. The two forms of ISO-8859-8 differ in the direction of lines,
    not in their characters. -/
def upper : CodePage → Array Nat
  | .ibm866 => ibm866Upper
  | .iso8859x2 => iso8859x2Upper
  | .iso8859x3 => iso8859x3Upper
  | .iso8859x4 => iso8859x4Upper
  | .iso8859x5 => iso8859x5Upper
  | .iso8859x6 => iso8859x6Upper
  | .iso8859x7 => iso8859x7Upper
  | .iso8859x8 | .iso8859x8i => iso8859x8Upper
  | .iso8859x10 => iso8859x10Upper
  | .iso8859x13 => iso8859x13Upper
  | .iso8859x14 => iso8859x14Upper
  | .iso8859x15 => iso8859x15Upper
  | .iso8859x16 => iso8859x16Upper
  | .koi8r => koi8rUpper
  | .koi8u => koi8uUpper
  | .macintosh => macintoshUpper
  | .windows1250 => windows1250Upper
  | .windows1251 => windows1251Upper
  | .windows1252 => windows1252Upper
  | .windows1253 => windows1253Upper
  | .windows1254 => windows1254Upper
  | .windows1255 => windows1255Upper
  | .windows1256 => windows1256Upper
  | .windows1257 => windows1257Upper
  | .windows1258 => windows1258Upper
  | .windows874 => windows874Upper
  | .macCyrillic => macCyrillicUpper

theorem size_upper (page : CodePage) : page.upper.size = 128 := by cases page <;> rfl

/-- The character of a byte. The lower half of every code page is ASCII. -/
def char (page : CodePage) (b : UInt8) : Char :=
  if b < 0x80 then Char.ofNat b.toNat
  else Char.ofNat (page.upper.getD (b.toNat - 0x80) replacement.toNat)

def decoder (page : CodePage) : Decoder Unit :=
  .stateless (fun b bytes => ([page.char b], bytes)) (fun _ _ => Nat.le_refl _)

def name : CodePage → Text
  | .ibm866 => "IBM866".toList
  | .iso8859x2 => "ISO-8859-2".toList
  | .iso8859x3 => "ISO-8859-3".toList
  | .iso8859x4 => "ISO-8859-4".toList
  | .iso8859x5 => "ISO-8859-5".toList
  | .iso8859x6 => "ISO-8859-6".toList
  | .iso8859x7 => "ISO-8859-7".toList
  | .iso8859x8 => "ISO-8859-8".toList
  | .iso8859x8i => "ISO-8859-8-I".toList
  | .iso8859x10 => "ISO-8859-10".toList
  | .iso8859x13 => "ISO-8859-13".toList
  | .iso8859x14 => "ISO-8859-14".toList
  | .iso8859x15 => "ISO-8859-15".toList
  | .iso8859x16 => "ISO-8859-16".toList
  | .koi8r => "KOI8-R".toList
  | .koi8u => "KOI8-U".toList
  | .macintosh => "macintosh".toList
  | .windows1250 => "windows-1250".toList
  | .windows1251 => "windows-1251".toList
  | .windows1252 => "windows-1252".toList
  | .windows1253 => "windows-1253".toList
  | .windows1254 => "windows-1254".toList
  | .windows1255 => "windows-1255".toList
  | .windows1256 => "windows-1256".toList
  | .windows1257 => "windows-1257".toList
  | .windows1258 => "windows-1258".toList
  | .windows874 => "windows-874".toList
  | .macCyrillic => "x-mac-cyrillic".toList

def labels : CodePage → List String
  | .ibm866 =>
    ["866", "cp866", "csibm866", "ibm866"]
  | .iso8859x2 =>
    ["csisolatin2", "iso-8859-2", "iso-ir-101", "iso8859-2", "iso88592", "iso_8859-2",
      "iso_8859-2:1987", "l2", "latin2"]
  | .iso8859x3 =>
    ["csisolatin3", "iso-8859-3", "iso-ir-109", "iso8859-3", "iso88593", "iso_8859-3",
      "iso_8859-3:1988", "l3", "latin3"]
  | .iso8859x4 =>
    ["csisolatin4", "iso-8859-4", "iso-ir-110", "iso8859-4", "iso88594", "iso_8859-4",
      "iso_8859-4:1988", "l4", "latin4"]
  | .iso8859x5 =>
    ["csisolatincyrillic", "cyrillic", "iso-8859-5", "iso-ir-144", "iso8859-5", "iso88595",
      "iso_8859-5", "iso_8859-5:1988"]
  | .iso8859x6 =>
    ["arabic", "asmo-708", "csiso88596e", "csiso88596i", "csisolatinarabic", "ecma-114",
      "iso-8859-6", "iso-8859-6-e", "iso-8859-6-i", "iso-ir-127", "iso8859-6", "iso88596",
      "iso_8859-6", "iso_8859-6:1987"]
  | .iso8859x7 =>
    ["csisolatingreek", "ecma-118", "elot_928", "greek", "greek8", "iso-8859-7", "iso-ir-126",
      "iso8859-7", "iso88597", "iso_8859-7", "iso_8859-7:1987", "sun_eu_greek"]
  | .iso8859x8 =>
    ["csiso88598e", "csisolatinhebrew", "hebrew", "iso-8859-8", "iso-8859-8-e", "iso-ir-138",
      "iso8859-8", "iso88598", "iso_8859-8", "iso_8859-8:1988", "visual"]
  | .iso8859x8i =>
    ["csiso88598i", "iso-8859-8-i", "logical"]
  | .iso8859x10 =>
    ["csisolatin6", "iso-8859-10", "iso-ir-157", "iso8859-10", "iso885910", "l6", "latin6"]
  | .iso8859x13 =>
    ["iso-8859-13", "iso8859-13", "iso885913"]
  | .iso8859x14 =>
    ["iso-8859-14", "iso8859-14", "iso885914"]
  | .iso8859x15 =>
    ["csisolatin9", "iso-8859-15", "iso8859-15", "iso885915", "iso_8859-15", "l9"]
  | .iso8859x16 =>
    ["iso-8859-16"]
  | .koi8r =>
    ["cskoi8r", "koi", "koi8", "koi8-r", "koi8_r"]
  | .koi8u =>
    ["koi8-ru", "koi8-u"]
  | .macintosh =>
    ["csmacintosh", "mac", "macintosh", "x-mac-roman"]
  | .windows1250 =>
    ["cp1250", "windows-1250", "x-cp1250"]
  | .windows1251 =>
    ["cp1251", "windows-1251", "x-cp1251"]
  | .windows1252 =>
    ["ansi_x3.4-1968", "ascii", "cp1252", "cp819", "csisolatin1", "ibm819", "iso-8859-1",
      "iso-ir-100", "iso8859-1", "iso88591", "iso_8859-1", "iso_8859-1:1987", "l1", "latin1",
      "us-ascii", "windows-1252", "x-cp1252"]
  | .windows1253 =>
    ["cp1253", "windows-1253", "x-cp1253"]
  | .windows1254 =>
    ["cp1254", "csisolatin5", "iso-8859-9", "iso-ir-148", "iso8859-9", "iso88599", "iso_8859-9",
      "iso_8859-9:1989", "l5", "latin5", "windows-1254", "x-cp1254"]
  | .windows1255 =>
    ["cp1255", "windows-1255", "x-cp1255"]
  | .windows1256 =>
    ["cp1256", "windows-1256", "x-cp1256"]
  | .windows1257 =>
    ["cp1257", "windows-1257", "x-cp1257"]
  | .windows1258 =>
    ["cp1258", "windows-1258", "x-cp1258"]
  | .windows874 =>
    ["dos-874", "iso-8859-11", "iso8859-11", "iso885911", "tis-620", "windows-874"]
  | .macCyrillic =>
    ["x-mac-cyrillic", "x-mac-ukrainian"]

end CodePage
end HtmlReflow
