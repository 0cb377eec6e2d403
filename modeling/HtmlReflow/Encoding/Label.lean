import HtmlReflow.Encoding.Basic
import HtmlReflow.Text.Fold

namespace HtmlReflow.Encoding

def all : List Encoding :=
  [.utf8, .utf16 .littleEndian, .utf16 .bigEndian, .userDefined, .refused, .big5, .eucJp, .eucKr,
    .gb18030, .gbk, .iso2022Jp, .shiftJis] ++ CodePage.all.map .codePage

theorem mem_all (e : Encoding) : e ∈ all := by
  cases e with
  | codePage page =>
    exact List.mem_append_right _ (List.mem_map_of_mem (CodePage.mem_all page))
  | utf16 order => cases order <;> simp [all]
  | _ => simp [all]

def name : Encoding → Text
  | .utf8 => "UTF-8".toList
  | .utf16 .littleEndian => "UTF-16LE".toList
  | .utf16 .bigEndian => "UTF-16BE".toList
  | .codePage page => page.name
  | .userDefined => "x-user-defined".toList
  | .refused => "replacement".toList
  | .big5 => "Big5".toList
  | .eucJp => "EUC-JP".toList
  | .eucKr => "EUC-KR".toList
  | .gb18030 => "gb18030".toList
  | .gbk => "GBK".toList
  | .iso2022Jp => "ISO-2022-JP".toList
  | .shiftJis => "Shift_JIS".toList

/-- What a document may call an encoding, in small letters. -/
def labels : Encoding → List String
  | .utf8 =>
    ["unicode-1-1-utf-8", "unicode11utf8", "unicode20utf8", "utf-8", "utf8", "x-unicode20utf8"]
  | .utf16 .littleEndian =>
    ["csunicode", "iso-10646-ucs-2", "ucs-2", "unicode", "unicodefeff", "utf-16", "utf-16le"]
  | .utf16 .bigEndian => ["unicodefffe", "utf-16be"]
  | .codePage page => page.labels
  | .userDefined => ["x-user-defined"]
  | .refused =>
    ["csiso2022kr", "hz-gb-2312", "iso-2022-cn", "iso-2022-cn-ext", "iso-2022-kr", "replacement"]
  | .big5 => ["big5", "big5-hkscs", "cn-big5", "csbig5", "x-x-big5"]
  | .eucJp => ["cseucpkdfmtjapanese", "euc-jp", "x-euc-jp"]
  | .eucKr =>
    ["cseuckr", "csksc56011987", "euc-kr", "iso-ir-149", "korean", "ks_c_5601-1987",
      "ks_c_5601-1989", "ksc5601", "ksc_5601", "windows-949"]
  | .gb18030 => ["gb18030"]
  | .gbk =>
    ["chinese", "csgb2312", "csiso58gb231280", "gb2312", "gb_2312", "gb_2312-80", "gbk",
      "iso-ir-58", "x-gbk"]
  | .iso2022Jp => ["csiso2022jp", "iso-2022-jp"]
  | .shiftJis =>
    ["csshiftjis", "ms932", "ms_kanji", "shift-jis", "shift_jis", "sjis", "windows-31j", "x-sjis"]

/-- Every label, with the encoding that it names. No two are the same, so their order does not matter. -/
def labelTable : List (Text × Encoding) :=
  all.flatMap fun e => e.labels.map fun label => (label.toList, e)

/-- The blanks that may stand around a label; there are fewer of them than around other text. -/
def isLabelBlank (c : Char) : Bool :=
  c == '\t' || c == '\n' || c == '\x0C' || c == '\r' || c == ' '

/-- A label without the blanks around it, in small letters. -/
def normalizeLabel (label : Text) : Text :=
  lowerAscii
    ((label.dropWhile isLabelBlank).reverse.dropWhile isLabelBlank).reverse

def ofLabel? (label : Text) : Option Encoding := labelTable.lookup (normalizeLabel label)

end HtmlReflow.Encoding
