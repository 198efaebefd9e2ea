import Tablesmith.Text.Encoding.Chinese
import Tablesmith.Text.Encoding.Jis
import Tablesmith.Text.Encoding.KoreanTable
import Tablesmith.Text.Encoding.SingleByteTables

/-!
# Code pages

A workbook names the encoding of its narrow texts by the number of a code page.
-/

namespace Tablesmith.Text.Encoding

def koreanPair? (lead trail : UInt8) : Option (List Char) :=
  if within 0x41 0xfe trail then
    (korean.char? ((lead.toNat - 0x81) * 190 + (trail.toNat - 0x41))).map ([·])
  else none

def koreanEncoding : PairEncoding where
  single? := asciiChar?
  isLead := within 0x81 0xfe
  pair? := koreanPair?

def decodeSingle (table : CodeTable) (bytes : List UInt8) : List Char :=
  bytes.map fun byte =>
    (asciiChar? byte <|> table.char? (byte.toNat - 0x80)).getD replacement

end Encoding

/-- The encodings that code pages stand for. -/
inductive Encoding
  | utf8
  | utf16 (order : Encoding.ByteOrder)
  | single (table : Encoding.CodeTable)
  | pairs (encoding : Encoding.PairEncoding)
  | eucJp
  | escapedJis
  | gb18030

namespace Encoding

def ofCodePage? (codePage : Nat) : Option Encoding :=
  match codePage with
  | 866 => some (.single ibm866)
  | 874 => some (.single windows874)
  | 932 => some (.pairs shiftJis)
  | 936 | 51936 | 54936 => some .gb18030
  | 949 | 51949 => some (.pairs koreanEncoding)
  | 950 => some (.pairs big5Encoding)
  | 1200 | 21010 => some (.utf16 .little)
  | 1201 => some (.utf16 .big)
  | 1250 => some (.single windows1250)
  | 1251 => some (.single windows1251)
  | 1252 | 28591 => some (.single windows1252)
  | 1253 => some (.single windows1253)
  | 1254 | 28599 => some (.single windows1254)
  | 1255 => some (.single windows1255)
  | 1256 => some (.single windows1256)
  | 1257 => some (.single windows1257)
  | 1258 => some (.single windows1258)
  | 10000 => some (.single macRoman)
  | 10007 | 10017 => some (.single macCyrillic)
  | 20866 => some (.single koi8R)
  | 20932 | 51932 => some .eucJp
  | 21866 => some (.single koi8U)
  | 28592 => some (.single iso8859x2)
  | 28593 => some (.single iso8859x3)
  | 28594 => some (.single iso8859x4)
  | 28595 => some (.single iso8859x5)
  | 28596 => some (.single iso8859x6)
  | 28597 => some (.single iso8859x7)
  | 28598 | 38598 => some (.single iso8859x8)
  | 28600 => some (.single iso8859x10)
  | 28603 => some (.single iso8859x13)
  | 28604 => some (.single iso8859x14)
  | 28605 => some (.single iso8859x15)
  | 28606 => some (.single iso8859x16)
  | 50220 | 50221 | 50222 => some .escapedJis
  | 65001 => some .utf8
  | _ => none

def decode (encoding : Encoding) (bytes : List UInt8) : List Char :=
  match encoding with
  | utf8 => decodeUtf8 bytes
  | utf16 order => decodeUtf16 order bytes
  | single table => decodeSingle table bytes
  | pairs encoding => encoding.decode bytes
  | eucJp => decodeEucJp bytes
  | escapedJis => decodeEscaped .ascii false 0 bytes
  | gb18030 => decodeGb18030 0 bytes

end Encoding

end Tablesmith.Text
