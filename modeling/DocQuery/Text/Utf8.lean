/-
Module: DocQuery.Text.Utf8
Purpose: The characters of UTF-8 bytes, and what is wrong with bytes that are none.
Main exports: Utf8Fault, Utf8Fault.message, decodeUtf8, encodeUtf8
-/
import DocQuery.Json.Writer

namespace DocQuery.Text

/-- Why bytes are not UTF-8. -/
inductive Utf8Reason where
  | invalidStart
  | invalidContinuation
  | endOfData
deriving DecidableEq, Repr, Inhabited

/-- A reason in words. -/
def Utf8Reason.text : Utf8Reason → String
  | .invalidStart => "invalid start byte"
  | .invalidContinuation => "invalid continuation byte"
  | .endOfData => "unexpected end of data"

/-- The bytes from `start` up to `stop`, the first of which is `byte`, are no character. -/
structure Utf8Fault where
  start : Nat
  stop : Nat
  byte : UInt8
  reason : Utf8Reason
deriving DecidableEq, Repr, Inhabited

/-- A fault in words. -/
def Utf8Fault.message (f : Utf8Fault) : String :=
  let place :=
    if f.stop = f.start + 1 then
      "byte 0x" ++ String.ofList [Json.hexDigit (f.byte.toNat / 16), Json.hexDigit f.byte.toNat]
        ++ " in position " ++ toString f.start
    else "bytes in position " ++ toString f.start ++ "-" ++ toString (f.stop - 1)
  "'utf-8' codec can't decode " ++ place ++ ": " ++ f.reason.text

/-- A character of which some bytes were read: where it starts and with which byte, its code so far,
how many bytes it still needs, and in which range the next one has to be. -/
structure Unfinished where
  start : Nat
  first : UInt8
  code : Nat
  needed : Nat
  low : Nat
  high : Nat

/-- The character that a byte starts, for bytes that start one of several bytes. -/
def startsCharacter? (position : Nat) (b : UInt8) : Option Unfinished :=
  let n := b.toNat
  if n < 0xc2 then none
  else if n < 0xe0 then some ⟨position, b, n - 0xc0, 1, 0x80, 0xbf⟩
  else if n < 0xf0 then
    some ⟨position, b, n - 0xe0, 2, if n = 0xe0 then 0xa0 else 0x80,
      if n = 0xed then 0x9f else 0xbf⟩
  else if n < 0xf5 then
    some ⟨position, b, n - 0xf0, 3, if n = 0xf0 then 0x90 else 0x80,
      if n = 0xf4 then 0x8f else 0xbf⟩
  else none

/-- The characters of the bytes from a position on, after the bytes of an unfinished one. -/
def decodeFrom (position : Nat) : Option Unfinished → List UInt8 → Except Utf8Fault (List Char)
  | none, [] => .ok []
  | some u, [] => .error ⟨u.start, position, u.first, .endOfData⟩
  | none, b :: bytes =>
      if b.toNat < 0x80 then
        (decodeFrom (position + 1) none bytes).map (Char.ofNat b.toNat :: ·)
      else
        match startsCharacter? position b with
        | none => .error ⟨position, position + 1, b, .invalidStart⟩
        | some u => decodeFrom (position + 1) (some u) bytes
  | some u, b :: bytes =>
      if u.low ≤ b.toNat ∧ b.toNat ≤ u.high then
        let code := u.code * 64 + (b.toNat - 0x80)
        if u.needed ≤ 1 then
          (decodeFrom (position + 1) none bytes).map (Char.ofNat code :: ·)
        else
          decodeFrom (position + 1) (some ⟨u.start, u.first, code, u.needed - 1, 0x80, 0xbf⟩) bytes
      else .error ⟨u.start, position, u.first, .invalidContinuation⟩

/-- The text that bytes encode. -/
def decodeUtf8 (bytes : List UInt8) : Except Utf8Fault String :=
  (decodeFrom 0 none bytes).map String.ofList

/-- The bytes of a text. -/
def encodeUtf8 (text : String) : List UInt8 :=
  text.toUTF8.toList

end DocQuery.Text
