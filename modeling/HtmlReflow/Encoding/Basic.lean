import HtmlReflow.Encoding.CodePage
import HtmlReflow.Encoding.DoubleByte.Big5
import HtmlReflow.Encoding.DoubleByte.Gb18030
import HtmlReflow.Encoding.DoubleByte.Korean
import HtmlReflow.Encoding.Iso2022Jp
import HtmlReflow.Encoding.Utf16
import HtmlReflow.Encoding.Utf8

namespace HtmlReflow

inductive Encoding where
  | utf8
  | utf16 (order : Utf16.Order)
  | codePage (page : CodePage)
  /-- Bytes beyond ASCII are characters for private use. -/
  | userDefined
  /-- Encodings that are known and not read, since other readers take their bytes for markup. -/
  | refused
  | big5
  | eucJp
  | eucKr
  | gb18030
  | gbk
  | iso2022Jp
  | shiftJis
  deriving DecidableEq, Repr

namespace Encoding

def userDefinedChar (b : UInt8) : Char :=
  if b < 0x80 then Char.ofNat b.toNat else Char.ofNat (0xF780 + (b.toNat - 0x80))

def userDefinedDecoder : Decoder Unit :=
  .stateless (fun b bytes => ([userDefinedChar b], bytes)) (fun _ _ => Nat.le_refl _)

/-- Takes all bytes for one error. -/
def refusedDecoder : Decoder Unit :=
  .stateless (fun _ _ => ([HtmlReflow.replacement], [])) (fun _ _ => Nat.zero_le _)

/-- The text that bytes spell in an encoding, a byte order mark being a character like any other. What
    is malformed becomes replacement characters. GBK is read as GB 18030, which contains it. -/
def decodeBody : Encoding → Bytes → Text
  | .utf8 => Utf8.decoder.decode
  | .utf16 order => (Utf16.decoder order).decode
  | .codePage page => page.decoder.decode
  | .userDefined => userDefinedDecoder.decode
  | .refused => refusedDecoder.decode
  | .big5 => Big5.decoder.decode
  | .eucJp => Jis.eucDecoder.decode
  | .eucKr => Korean.decoder.decode
  | .gb18030 | .gbk => Gb18030.decoder.decode
  | .iso2022Jp => Iso2022Jp.decoder.decode
  | .shiftJis => Jis.shiftDecoder.decode

/-- The encoding that a byte order mark at the front stands for, and the bytes behind the mark. -/
def ofMark? : Bytes → Option (Encoding × Bytes)
  | 0xEF :: 0xBB :: 0xBF :: bytes => some (.utf8, bytes)
  | 0xFF :: 0xFE :: bytes => some (.utf16 .littleEndian, bytes)
  | 0xFE :: 0xFF :: bytes => some (.utf16 .bigEndian, bytes)
  | _ => none

/-- The text that bytes spell. A byte order mark outweighs the encoding that is asked for, and is no
    part of the text. -/
def decode (e : Encoding) (bytes : Bytes) : Text :=
  match ofMark? bytes with
  | some (marked, body) => marked.decodeBody body
  | none => e.decodeBody bytes

end Encoding
end HtmlReflow
