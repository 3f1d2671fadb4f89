import Zapd.Codec.Frame
import Zapd.Id

/-! The pairing: this user's door and token, and the code a human pastes into a browser. -/

namespace Zapd

open Utf8

/-- A 32-byte token. -/
abbrev Key := { bytes : Bytes // bytes.length = 32 }

/-- This user's door and token. -/
structure Pairing where
  port : UInt16
  key : Key
  deriving DecidableEq

/-- The digit of a number below sixteen. -/
def hexDigit (value : Nat) : Char :=
  if value < 10 then Char.ofNat (48 + value) else Char.ofNat (87 + value)

/-- Two lowercase digits for each byte. -/
def hex (b : Bytes) : String :=
  String.ofList (b.flatMap fun x => [hexDigit (x.toNat / 16), hexDigit (x.toNat % 16)])

/-- The value of a digit from `0` to `9` or from `a` to `f`. -/
def unhexDigit (c : UInt8) : Option Nat :=
  if isAsciiDigit c then some (c.toNat - 48)
  else if 97 ≤ c.toNat ∧ c.toNat ≤ 102 then some (c.toNat - 87)
  else none

/-- The bytes that pairs of digits stand for. -/
def unhexPairs : Bytes → Option Bytes
  | [] => some []
  | [_] => none
  | high :: low :: rest => do
    let h ← unhexDigit high
    let l ← unhexDigit low
    let more ← unhexPairs rest
    return UInt8.ofNat (16 * h + l) :: more

/-- A key is 64 lowercase digits. -/
def unhex (s : String) : Option Key :=
  if (asBytes s).length ≠ 64 then none
  else
    match unhexPairs (asBytes s) with
    | none => none
    | some k => if width : k.length = 32 then some ⟨k, width⟩ else none

/-- Characters that Unicode counts as white space. -/
def isWhitespace (c : Char) : Bool :=
  let n := c.toNat
  (0x09 ≤ n && n ≤ 0x0D) || n == 0x20 || n == 0x85 || n == 0xA0 || n == 0x1680 ||
    (0x2000 ≤ n && n ≤ 0x200A) || n == 0x2028 || n == 0x2029 || n == 0x202F || n == 0x205F ||
    n == 0x3000

/-- A text without the white space around it. -/
def trim (text : List Char) : List Char :=
  ((text.dropWhile isWhitespace).reverse.dropWhile isWhitespace).reverse

/-- What precedes and follows the first occurrence of a separator. -/
def splitOnce (separator : List Char) : List Char → Option (List Char × List Char)
  | [] => if separator.isEmpty then some ([], []) else none
  | c :: rest =>
    if separator.isPrefixOf (c :: rest) then some ([], (c :: rest).drop separator.length)
    else (splitOnce separator rest).map fun parts => (c :: parts.1, parts.2)

/-- The number that decimal digits stand for, after the digits read before them. -/
def decimal (before : Nat) : List Char → Option Nat
  | [] => some before
  | c :: rest => if c.isDigit then decimal (10 * before + (c.toNat - 48)) rest else none

/-- A 16-bit number: digits behind an optional plus sign, which may start with zeros. -/
def parseU16 (text : List Char) : Option UInt16 :=
  let digits := match text with
    | '+' :: rest => rest
    | _ => text
  if digits.isEmpty then none
  else
    match decimal 0 digits with
    | none => none
    | some value => if value < 2 ^ 16 then some (UInt16.ofNat value) else none

def notACode : Error := ⟨.invalidData, "zapd: not a pairing code"⟩

/-- Where every code points. -/
def codeStart : String := "ws://127.0.0.1:"

/-- The code a human pastes into the extension. -/
def Pairing.code (p : Pairing) : String :=
  codeStart ++ toString p.port.toNat ++ "/#" ++ hex p.key

/-- Parse a code. Loopback only, and never port 0. -/
def Pairing.parse (code : String) : Except Error Pairing :=
  let text := trim code.toList
  if codeStart.toList.isPrefixOf text then
    match splitOnce ['/', '#'] (text.drop codeStart.toList.length) with
    | none => .error notACode
    | some (port, key) =>
      match parseU16 port with
      | none => .error notACode
      | some port =>
        if port = 0 then .error notACode
        else
          match unhex (String.ofList key) with
          | none => .error notACode
          | some key => .ok { port, key }
  else .error notACode

/-- A key of equal bytes. -/
def Key.all (byte : UInt8) : Key := ⟨List.replicate 32 byte, List.length_replicate⟩

example : Pairing.parse ((⟨21000, Key.all 9⟩ : Pairing).code) = .ok ⟨21000, Key.all 9⟩ := by
  decide +kernel

end Zapd
