/-
Module: DocQuery.Text.Encoding
Purpose: Telling from its first bytes in which encoding of Unicode a JSON document is written.
Main exports: Encoding, Encoding.recognise, Encoding.decode?, decodeDocument?
-/
import DocQuery.Text.Utf8

namespace DocQuery.Text

/-- The order of the bytes of a number. -/
inductive ByteOrder where
  | bigEnd
  | littleEnd
deriving DecidableEq, Repr, Inhabited

/-- The encodings of Unicode. -/
inductive Encoding where
  | utf8
  | utf16 (order : ByteOrder)
  | utf32 (order : ByteOrder)
deriving DecidableEq, Repr, Inhabited

/-- The number that bytes write. -/
def ByteOrder.number : ByteOrder → List UInt8 → Nat
  | .bigEnd, bytes => bytes.foldl (fun n b => n * 256 + b.toNat) 0
  | .littleEnd, bytes => bytes.foldr (fun b n => n * 256 + b.toNat) 0

/-- Numbers of two bytes each.  There are none if a byte is left over. -/
def numbers16? (order : ByteOrder) : List UInt8 → Option (List Nat)
  | [] => some []
  | a :: b :: rest => (numbers16? order rest).map (order.number [a, b] :: ·)
  | [_] => none

/-- Numbers of four bytes each.  There are none if bytes are left over. -/
def numbers32? (order : ByteOrder) : List UInt8 → Option (List Nat)
  | [] => some []
  | a :: b :: c :: d :: rest => (numbers32? order rest).map (order.number [a, b, c, d] :: ·)
  | _ => none

/-- The character of a code point.  A surrogate, which is no character, is shown as one that could
not be read. -/
def charOfCode? (code : Nat) : Option Char :=
  if code.isValidChar then some (Char.ofNat code)
  else if code < 0x110000 then some '\ufffd'
  else none

/-- The code points of UTF-16 numbers: a high surrogate and a low one behind it are one. -/
def codesOfUnits : List Nat → List Nat
  | [] => []
  | [unit] => [unit]
  | high :: low :: rest =>
      if 0xd800 ≤ high ∧ high < 0xdc00 ∧ 0xdc00 ≤ low ∧ low < 0xe000 then
        (0x10000 + (high - 0xd800) * 0x400 + (low - 0xdc00)) :: codesOfUnits rest
      else high :: codesOfUnits (low :: rest)

namespace Encoding

/-- The marks that a document may start with. -/
def marks : List (List UInt8 × Encoding) :=
  [([0x00, 0x00, 0xfe, 0xff], .utf32 .bigEnd), ([0xff, 0xfe, 0x00, 0x00], .utf32 .littleEnd),
    ([0xfe, 0xff], .utf16 .bigEnd), ([0xff, 0xfe], .utf16 .littleEnd), ([0xef, 0xbb, 0xbf], .utf8)]

/-- The encoding of a document without a mark.  Its first character is an ASCII one, so zero bytes
among the first four show how long a character is and where its last byte stands. -/
def ofZeros : List UInt8 → Encoding
  | [a, b] => if a = 0 then .utf16 .bigEnd else if b = 0 then .utf16 .littleEnd else .utf8
  | a :: b :: c :: d :: _ =>
      if a = 0 then (if b = 0 then .utf32 .bigEnd else .utf16 .bigEnd)
      else if b = 0 then (if c = 0 ∧ d = 0 then .utf32 .littleEnd else .utf16 .littleEnd)
      else .utf8
  | _ => .utf8

/-- The encoding of a document, and its bytes behind the mark. -/
def recognise (bytes : List UInt8) : Encoding × List UInt8 :=
  match marks.find? fun (mark, _) => mark.isPrefixOf bytes with
  | some (mark, encoding) => (encoding, bytes.drop mark.length)
  | none => (ofZeros bytes, bytes)

/-- The text that bytes encode. -/
def decode? (encoding : Encoding) (bytes : List UInt8) : Option String :=
  match encoding with
  | .utf8 => (decodeUtf8 bytes).toOption
  | .utf16 order => do
      String.ofList (← (codesOfUnits (← numbers16? order bytes)).mapM charOfCode?)
  | .utf32 order => do String.ofList (← (← numbers32? order bytes).mapM charOfCode?)

end Encoding

/-- The text of a document in any encoding. -/
def decodeDocument? (bytes : List UInt8) : Option String :=
  let (encoding, rest) := Encoding.recognise bytes
  encoding.decode? rest

end DocQuery.Text
