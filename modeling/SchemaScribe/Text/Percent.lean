import SchemaScribe.Text.Utf8

/-!
# Percent encoding

Parts of a locator are written with a percent sign and two capital hexadecimal digits for every byte
that may not stand as it is.
-/

namespace SchemaScribe.Text

/-- Characters that need no encoding anywhere. -/
def isUnreserved (c : Char) : Bool :=
  c.isAlphanum || c = '_' || c = '.' || c = '-' || c = '~'

/-- One byte in percent encoding. -/
def percentByte (b : UInt8) : List Char := '%' :: (hexPlaces 2 b.toNat).map Char.toUpper

/-- Encodes a text but for the unreserved characters and those of `keep`. -/
def percentChars (keep : List Char) (s : List Char) : List Char :=
  s.flatMap fun c =>
    if isUnreserved c || keep.contains c then [c]
    else (String.singleton c).toUTF8.toList.flatMap percentByte

/-- Encodes a text but for the unreserved characters and those of `keep`. -/
def percentEncode (keep : String) (s : String) : String :=
  .ofList (percentChars keep.toList s.toList)

/-- Encodes a form value: as `percentEncode`, with a plus sign for a space. -/
def formEncode (s : String) : String :=
  .ofList ((percentChars [' '] s.toList).map fun c => if c = ' ' then '+' else c)

/-- The value of a hexadecimal digit. -/
def hexValue? (c : Char) : Option Nat :=
  if c.isDigit then some (c.toNat - '0'.toNat)
  else if 'a' ≤ c && c ≤ 'f' then some (c.toNat - 'a'.toNat + 10)
  else if 'A' ≤ c && c ≤ 'F' then some (c.toNat - 'A'.toNat + 10)
  else none

/-- The bytes of a run of ASCII characters with its percent signs resolved. A percent sign without two
hexadecimal digits after it stands for itself. -/
def percentBytes : List Char → List UInt8
  | [] => []
  | '%' :: high :: low :: rest =>
    match hexValue? high, hexValue? low with
    | some h, some l => UInt8.ofNat (h * 16 + l) :: percentBytes rest
    | _, _ => '%'.toUInt8 :: percentBytes (high :: low :: rest)
  | c :: rest => c.toUInt8 :: percentBytes rest

/-- Resolves the percent signs of a text, run by run of ASCII characters. -/
def percentDecodeChars (s : List Char) : List Char :=
  match s with
  | [] => []
  | c :: rest =>
    if c.toNat < 0x80 then
      decodeLossy (percentBytes (c :: rest.takeWhile (·.toNat < 0x80))) ++
        percentDecodeChars (rest.dropWhile (·.toNat < 0x80))
    else c :: percentDecodeChars rest
termination_by s.length
decreasing_by
  · have := (List.dropWhile_suffix (l := rest) (fun c => decide (c.toNat < 0x80))).length_le
    simp_wf
    omega
  · simp_wf

/-- Resolves the percent signs of a text. -/
def percentDecode (s : String) : String := .ofList (percentDecodeChars s.toList)

end SchemaScribe.Text
