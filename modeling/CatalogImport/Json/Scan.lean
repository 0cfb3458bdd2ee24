import CatalogImport.Json.Fault
import CatalogImport.Json.Literal
import CatalogImport.Text.Hex

/-!
# The words of JSON

Blanks, the three words, numbers and strings, each taken off the front of a text of bytes.
-/

namespace CatalogImport.Json

/-- A function that takes something off the front of a text, or finds a fault in it. -/
abbrev Reader (α : Type) := List UInt8 → Except Fault (α × List UInt8)

/-! ## Bytes -/

/-- The code of a character that has one byte. -/
def byte (c : Char) : UInt8 := UInt8.ofNat c.toNat

/-- The byte is a blank of JSON. -/
def isBlankByte (b : UInt8) : Bool := b == 32 || b == 10 || b == 9 || b == 13

/-- The byte is a digit. -/
def isDigitByte (b : UInt8) : Bool := 48 ≤ b && b ≤ 57

/-- The text without the blanks in front. -/
def skipBlanks (bytes : List UInt8) : List UInt8 := bytes.dropWhile isBlankByte

/-- Takes the rest of a word, byte by byte. -/
def readWord : List UInt8 → Reader Unit
  | [], bytes => .ok ((), bytes)
  | _ :: _, [] => .error (.taken .endInValue [])
  | w :: word, b :: rest =>
    if b = w then readWord word rest else .error (.taken .expectedWord rest)

/-! ## Numbers -/

/-- The values of the digits in front, and what follows them. -/
def spanDigits (bytes : List UInt8) : List Nat × List UInt8 :=
  ((bytes.takeWhile isDigitByte).map fun b => b.toNat - 48, bytes.dropWhile isDigitByte)

/-- Takes the digits before the point.  There is a digit, and a zero stands alone. -/
def readWhole (cut : Cause) : Reader (List Nat)
  | [] => .error (.taken cut [])
  | b :: rest =>
    if b = 48 then
      match rest with
      | d :: _ => if isDigitByte d then .error (.peeked .invalidNumber rest) else .ok ([0], rest)
      | [] => .ok ([0], rest)
    else if isDigitByte b then .ok (spanDigits (b :: rest))
    else .error (.taken .invalidNumber rest)

/-- Takes a point and the digits after it, of which there is at least one. -/
def readPlaces (cut : Cause) : Reader (List Nat)
  | [] => .ok ([], [])
  | b :: rest =>
    if b = byte '.' then
      match spanDigits rest with
      | ([], []) => .error (.taken cut [])
      | ([], rest) => .error (.peeked .invalidNumber rest)
      | found => .ok found
    else .ok ([], b :: rest)

/-- Takes an exponent: its mark, perhaps a sign, and at least one digit. -/
def readExponent (cut : Cause) : Reader (Option (Bool × List Nat))
  | [] => .ok (none, [])
  | b :: rest =>
    if b = byte 'e' ∨ b = byte 'E' then
      let (minus, rest) := match rest with
        | s :: after =>
          if s = byte '-' then (true, after) else if s = byte '+' then (false, after)
          else (false, rest)
        | [] => (false, [])
      match rest with
      | [] => .error (.taken cut [])
      | d :: after =>
        if isDigitByte d then
          let (digits, after) := spanDigits (d :: after)
          .ok (some (minus, digits), after)
        else .error (.taken .invalidNumber after)
    else .ok (none, b :: rest)

/-- Takes a number, of which a minus sign has been taken already.  A number that the end of the text
cuts short is the fault `cut`. -/
def readLiteral (cut : Cause) (negative : Bool) : Reader Literal := fun bytes => do
  let (whole, rest) ← readWhole cut bytes
  let (places, rest) ← readPlaces cut rest
  let (exponent, rest) ← readExponent cut rest
  return (⟨negative, whole, places, exponent⟩, rest)

/-- Bytes not seen once a number has been taken.  The end of a number shows only in the byte that
follows it; a text that arrives as a stream has then been seen one byte further. -/
def unseenAfterNumber (streamed : Bool) (rest : List UInt8) : Nat :=
  if streamed then rest.length - 1 else rest.length

/-- Takes a number, of which a minus sign has been taken already, and gives its value. -/
def readNumber (streamed negative : Bool) : Reader Number := fun bytes => do
  let (literal, rest) ← readLiteral .endInValue negative bytes
  match literal.exponent with
  | some (minus, digits) =>
    match exponentOverflow digits with
    | some n =>
      let all := (literal.whole ++ literal.places).foldl Kept.whole ⟨0, 0, false⟩
      if all.significand ≠ 0 ∧ minus = false then
        .error ⟨.numberOutOfRange, rest.length + (digits.length - n)⟩
      else .ok (.double (if negative then -0.0 else 0.0), rest)
    | none =>
      match literal.value with
      | some number => .ok (number, rest)
      | none => .error ⟨.numberOutOfRange, unseenAfterNumber streamed rest⟩
  | none =>
    match literal.value with
    | some number => .ok (number, rest)
    | none => .error ⟨.numberOutOfRange, unseenAfterNumber streamed rest⟩

/-! ## Strings -/

/-- The number that four hexadecimal digits write. -/
def hexFour? (a b c d : UInt8) : Option Nat := do
  return (← Text.hexValue? a) * 4096 + (← Text.hexValue? b) * 256 + (← Text.hexValue? c) * 16
    + (← Text.hexValue? d)

/-- The character that a letter stands for after a backslash. -/
def escape? (b : UInt8) : Option Char :=
  if b = byte '"' then some '"'
  else if b = byte '\\' then some '\\'
  else if b = byte '/' then some '/'
  else if b = byte 'b' then some '\x08'
  else if b = byte 'f' then some '\x0c'
  else if b = byte 'n' then some '\n'
  else if b = byte 'r' then some '\r'
  else if b = byte 't' then some '\t'
  else none

/-- The byte continues a character of several bytes. -/
def isContinuation (b : UInt8) : Bool := 128 ≤ b && b < 192

/-- The first byte of a character of two bytes. -/
def leadsTwo (b : UInt8) : Bool := 194 ≤ b && b < 224

/-- The first two bytes of a character of three bytes, which is neither written too long nor a
surrogate. -/
def leadsThree (b c : UInt8) : Bool :=
  224 ≤ b && b < 240 && isContinuation c && !(b == 224 && c < 160) && !(b == 237 && 160 ≤ c)

/-- The first two bytes of a character of four bytes, which is neither written too long nor beyond
the last code point. -/
def leadsFour (b c : UInt8) : Bool :=
  240 ≤ b && b < 245 && isContinuation c && !(b == 240 && c < 144) && !(b == 244 && 144 ≤ c)

/-- Six bits of a code point. -/
def low6 (b : UInt8) : Nat := b.toNat % 64

/-- Ends a string: its characters in order, or the fault of the first bytes that encode none. -/
def closeString (taken : List Char) (bad : Option Nat) (rest : List UInt8) :
    Except Fault (String × List UInt8) :=
  match bad with
  | none => .ok (String.ofList taken.reverse, rest)
  | some unseen => .error ⟨.invalidCodePoint, unseen⟩

/-- The character of several bytes that starts with a byte, and how many bytes of it follow. -/
def wideChar? (b : UInt8) : List UInt8 → Option (Char × Nat)
  | c :: d :: e :: _ =>
    if leadsTwo b && isContinuation c then some (twoBytes b c, 1)
    else if leadsThree b c && isContinuation d then some (threeBytes b c d, 2)
    else if leadsFour b c && isContinuation d && isContinuation e then some (fourBytes b c d e, 3)
    else none
  | [c, d] =>
    if leadsTwo b && isContinuation c then some (twoBytes b c, 1)
    else if leadsThree b c && isContinuation d then some (threeBytes b c d, 2)
    else none
  | [c] => if leadsTwo b && isContinuation c then some (twoBytes b c, 1) else none
  | [] => none
where
  /-- The character of two bytes. -/
  twoBytes (b c : UInt8) : Char := Char.ofNat (b.toNat % 32 * 64 + low6 c)
  /-- The character of three bytes. -/
  threeBytes (b c d : UInt8) : Char := Char.ofNat (b.toNat % 16 * 4096 + low6 c * 64 + low6 d)
  /-- The character of four bytes. -/
  fourBytes (b c d e : UInt8) : Char :=
    Char.ofNat (b.toNat % 8 * 262144 + low6 c * 4096 + low6 d * 64 + low6 e)

/-- Takes the rest of a string whose opening quote has been taken.  `taken` holds the characters so
far, the last one first; `owed` bytes still belong to that one; and `bad` is the place of the first
bytes that encode no character. -/
def readStringFrom (taken : List Char) (owed : Nat) (bad : Option Nat) : Reader String
  | [] => .error (.taken .endInString [])
  | b :: rest =>
    if 0 < owed then readStringFrom taken (owed - 1) bad rest
    else if b = byte '"' then closeString taken bad rest
    else if b = byte '\\' then
      match rest with
      | [] => .error (.taken .endInString [])
      | e :: rest =>
        if e = byte 'u' then
          match rest with
          | a :: b :: c :: d :: rest =>
            match hexFour? a b c d with
            | none => .error (.taken .invalidEscape rest)
            | some n =>
              if 0xDC00 ≤ n ∧ n ≤ 0xDFFF then .error (.taken .loneSurrogate rest)
              else if n < 0xD800 ∨ 0xDBFF < n then readStringFrom (Char.ofNat n :: taken) 0 bad rest
              else
                match rest with
                | [] => .error (.taken .endInString [])
                | s :: rest =>
                  if s = byte '\\' then
                    match rest with
                    | [] => .error (.taken .endInString [])
                    | u :: rest =>
                      if u = byte 'u' then
                        match rest with
                        | a :: b :: c :: d :: rest =>
                          match hexFour? a b c d with
                          | none => .error (.taken .invalidEscape rest)
                          | some m =>
                            if m < 0xDC00 ∨ 0xDFFF < m then .error (.taken .loneSurrogate rest)
                            else
                              let code := 0x10000 + (n - 0xD800) * 1024 + (m - 0xDC00)
                              readStringFrom (Char.ofNat code :: taken) 0 bad rest
                        | _ => .error (.taken .endInString [])
                      else .error (.taken .endOfSurrogates rest)
                  else .error (.taken .endOfSurrogates rest)
          | _ => .error (.taken .endInString [])
        else
          match escape? e with
          | some c => readStringFrom (c :: taken) 0 bad rest
          | none => .error (.taken .invalidEscape rest)
    else if b < 32 then .error (.taken .controlCharacter rest)
    else if b < 128 then readStringFrom (Char.ofNat b.toNat :: taken) 0 bad rest
    else
      match wideChar? b rest with
      | some (c, n) => readStringFrom (c :: taken) n bad rest
      | none => readStringFrom taken 0 (bad.or (some rest.length)) rest

/-- Takes the rest of a string whose opening quote has been taken. -/
def readString : Reader String := readStringFrom [] 0 none

/-- Takes the rest of a string whose opening quote has been taken, without reading its characters:
neither their encoding nor the pairing of surrogates is looked at. -/
def skipString : Reader Unit
  | [] => .error (.taken .endInString [])
  | b :: rest =>
    if b = byte '"' then .ok ((), rest)
    else if b = byte '\\' then
      match rest with
      | [] => .error (.taken .endInString [])
      | e :: rest =>
        if e = byte 'u' then
          match rest with
          | a :: b :: c :: d :: rest =>
            if (hexFour? a b c d).isSome then skipString rest
            else .error (.taken .invalidEscape rest)
          | _ => .error (.taken .endInString [])
        else if (escape? e).isSome then skipString rest
        else .error (.taken .invalidEscape rest)
    else if b < 32 then .error (.taken .controlCharacter rest)
    else skipString rest

end CatalogImport.Json
