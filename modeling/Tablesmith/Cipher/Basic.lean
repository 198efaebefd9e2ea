import Tablesmith.Cipher.Aes
import Tablesmith.Cipher.Sha256
import Tablesmith.Text.Characters

/-!
# Encryption of documents

A document is encrypted under a key and a first block that are both derived from a passphrase, and
travels as base64. The same text under the same passphrase always gives the same result.

In base64 three bytes are written as four characters of an alphabet of 64. One or two bytes at the end are
filled up with zero bits and with padding characters. Reading accepts nothing but what writing produces.
-/

namespace Tablesmith.Cipher.Base64

/-- The 64 characters in the order of their values. -/
def alphabet : List Char :=
  "ABCDEFGHIJKLMNOPQRSTUVWXYZabcdefghijklmnopqrstuvwxyz0123456789+/".toList

/-- The character that fills up the last group. -/
def filler : Char := '='

/-- The character of a value below 64. -/
def charOf (value : Nat) : Char :=
  alphabet.getD value filler

def valueOf? (c : Char) : Option Nat :=
  if 'A' ≤ c ∧ c ≤ 'Z' then some (c.toNat - 'A'.toNat)
  else if 'a' ≤ c ∧ c ≤ 'z' then some (c.toNat - 'a'.toNat + 26)
  else if '0' ≤ c ∧ c ≤ '9' then some (c.toNat - '0'.toNat + 52)
  else if c = '+' then some 62
  else if c = '/' then some 63
  else none

def encode : List UInt8 → List Char
  | [] => []
  | [a] =>
    let n := a.toNat
    [charOf (n / 4), charOf (n % 4 * 16), filler, filler]
  | [a, b] =>
    let n := a.toNat * 256 + b.toNat
    [charOf (n / 1024), charOf (n / 16 % 64), charOf (n % 16 * 4), filler]
  | a :: b :: c :: rest =>
    let n := (a.toNat * 256 + b.toNat) * 256 + c.toNat
    charOf (n / 262144) :: charOf (n / 4096 % 64) :: charOf (n / 64 % 64) :: charOf (n % 64)
      :: encode rest

/-- The byte that two values at the end write; their last four bits must be zero. -/
def lastOne? (a b : Nat) : Option (List UInt8) :=
  if b % 16 = 0 then some [UInt8.ofNat (a * 4 + b / 16)] else none

/-- The two bytes that three values at the end write; their last two bits must be zero. -/
def lastTwo? (a b c : Nat) : Option (List UInt8) :=
  if c % 4 = 0 then
    let n := (a * 64 + b) * 16 + c / 4
    some [UInt8.ofNat (n / 256), UInt8.ofNat n]
  else none

/-- The bytes that a list of characters writes. -/
def decode? : List Char → Option (List UInt8)
  | [] => some []
  | a :: b :: c :: d :: rest =>
    match valueOf? a, valueOf? b with
    | some a, some b =>
      if rest = [] ∧ d = filler then
        if c = filler then lastOne? a b else (valueOf? c).bind (lastTwo? a b)
      else
        match valueOf? c, valueOf? d, decode? rest with
        | some c, some d, some bytes =>
          let n := ((a * 64 + b) * 64 + c) * 64 + d
          some (UInt8.ofNat (n / 65536) :: UInt8.ofNat (n / 256) :: UInt8.ofNat n :: bytes)
        | _, _, _ => none
    | _, _ => none
  | _ => none

end Tablesmith.Cipher.Base64

namespace Tablesmith

open Tablesmith.Cipher
open Tablesmith.Text

structure DocumentCipher where
  roundKeys : List Block
  first : Block

/-- Why a passphrase or an encrypted document is refused. -/
inductive CipherError
  | passphraseShort
  | notBase64
  | badPadding
  | notText
deriving DecidableEq

namespace CipherError

/-- What is said about a refused passphrase or document. -/
def message : CipherError → String
  | passphraseShort => "Encryption key must be at least 8 characters"
  | notBase64 => "Encrypted data is not valid base64"
  | badPadding => "Decryption failed: wrong key or corrupted data"
  | notText => "Decrypted data is not valid UTF-8"

end CipherError

namespace DocumentCipher

/-- The least number of characters in a passphrase. -/
def leastLength : Nat := 8

/-- How often the derivation of a key is repeated. -/
def derivationRounds : Nat := 10000

/-- The salt of the derivation: a block of zeros. -/
def salt : List UInt8 :=
  List.replicate 16 0

/-- The passphrase is long enough. -/
def isPassphrase (passphrase : String) : Bool :=
  leastLength ≤ passphrase.length

/-- The bytes of a text in UTF-8. -/
def textBytes (text : String) : List UInt8 :=
  text.toUTF8.data.toList

/-- The text that bytes are in UTF-8. -/
def bytesText? (bytes : List UInt8) : Option String :=
  String.fromUTF8? ⟨bytes.toArray⟩

/-- The first sixteen bytes as a block; a missing byte is zero. -/
def blockOf (bytes : List UInt8) : Block :=
  Vector.ofFn fun i => bytes.getD i.val 0

def ofPassphrase (passphrase : String) : Except CipherError DocumentCipher :=
  if isPassphrase passphrase then
    let derived := deriveBytes (textBytes passphrase) salt derivationRounds 48
    .ok ⟨Aes.roundKeys (derived.take 32), blockOf (derived.drop 32)⟩
  else .error .passphraseShort

def encrypt (cipher : DocumentCipher) (text : String) : String :=
  let blocks := (toBlocks? (pad (textBytes text))).getD []
  String.ofList (Base64.encode (ofBlocks (encryptChain cipher.roundKeys cipher.first blocks)))

/-- Decrypts an encrypted text; white space around it means nothing. -/
def decrypt (cipher : DocumentCipher) (encrypted : String) : Except CipherError String :=
  match Base64.decode? (dropBlankEnd (dropBlankStart encrypted.toList)) with
  | none => .error .notBase64
  | some bytes =>
    match (toBlocks? bytes).bind fun blocks =>
        unpad? (ofBlocks (decryptChain cipher.roundKeys cipher.first blocks)) with
    | none => .error .badPadding
    | some bytes =>
      match bytesText? bytes with
      | none => .error .notText
      | some text => .ok text

end DocumentCipher

end Tablesmith
