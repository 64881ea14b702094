import SchemaScribe.Text.Literal

/-!
# Bytes and text

Texts are stored as UTF-8. Reading bytes either gives the text they encode or the first stretch of
bytes that rules a text out, with the reason; a lossy reading puts the replacement character for each
such stretch.
-/

namespace SchemaScribe.Text

/-- Why a stretch of bytes encodes no character. -/
inductive DecodeReason where
  | start
  | continuation
  | unfinished
deriving DecidableEq, Repr

/-- The wording of a reason. -/
def DecodeReason.message : DecodeReason → String
  | .start => "invalid start byte"
  | .continuation => "invalid continuation byte"
  | .unfinished => "unexpected end of data"

/-- The first stretch of bytes that encodes no character. -/
structure DecodeFault where
  position : Nat
  length : Nat
  byte : UInt8
  reason : DecodeReason
deriving DecidableEq, Repr

/-- The complaint about undecodable bytes. -/
def DecodeFault.message (fault : DecodeFault) : String :=
  let place :=
    if fault.length ≤ 1 then
      "byte 0x" ++ .ofList (hexPlaces 2 fault.byte.toNat) ++ " in position " ++
        toString fault.position
    else
      "bytes in position " ++ toString fault.position ++ "-" ++
        toString (fault.position + fault.length - 1)
  "'utf-8' codec can't decode " ++ place ++ ": " ++ fault.reason.message

/-- The bytes that may follow a byte at the start of a character: the bounds of each of them in turn.
No answer means that no character starts so. -/
def followers (lead : UInt8) : Option (List (UInt8 × UInt8)) :=
  let any : UInt8 × UInt8 := (0x80, 0xbf)
  if lead < 0x80 then some []
  else if lead < 0xc2 then none
  else if lead < 0xe0 then some [any]
  else if lead = 0xe0 then some [(0xa0, 0xbf), any]
  else if lead = 0xed then some [(0x80, 0x9f), any]
  else if lead < 0xf0 then some [any, any]
  else if lead = 0xf0 then some [(0x90, 0xbf), any, any]
  else if lead < 0xf4 then some [any, any, any]
  else if lead = 0xf4 then some [(0x80, 0x8f), any, any]
  else none

/-- Follows the expected bytes; tells how many were good, and what stopped it if they were not all. -/
def follow : List (UInt8 × UInt8) → List UInt8 → Nat × Option DecodeReason
  | [], _ => (0, none)
  | _ :: _, [] => (0, some .unfinished)
  | (low, high) :: expected, b :: rest =>
    if low ≤ b && b ≤ high then
      let (good, stop) := follow expected rest
      (good + 1, stop)
    else (0, some .continuation)

/-- The stretch that starts with a byte: its length, and the reason if it encodes nothing. -/
def stretch (lead : UInt8) (rest : List UInt8) : Nat × Option DecodeReason :=
  match followers lead with
  | none => (1, some .start)
  | some expected =>
    let (good, stop) := follow expected rest
    (good + 1, stop)

/-- The code point of a well-formed stretch. -/
def codeOf (lead : UInt8) (rest : List UInt8) : Nat :=
  let high :=
    if lead < 0x80 then lead.toNat
    else if lead < 0xe0 then lead.toNat - 0xc0
    else if lead < 0xf0 then lead.toNat - 0xe0
    else lead.toNat - 0xf0
  rest.foldl (fun n b => n * 64 + (b.toNat - 0x80)) high

/-- The first stretch that encodes nothing, at or after a position. -/
def firstFault (position : Nat) : List UInt8 → Option DecodeFault
  | [] => none
  | lead :: rest =>
    match stretch lead rest with
    | (n, some reason) => some ⟨position, n, lead, reason⟩
    | (n, none) => firstFault (position + n) (rest.drop (n - 1))
termination_by bytes => bytes.length
decreasing_by
  simp only [List.length_drop, List.length_cons]
  omega

/-- The characters of a byte sequence, with a replacement for every stretch that encodes nothing. -/
def decodeLossy : List UInt8 → List Char
  | [] => []
  | lead :: rest =>
    match stretch lead rest with
    | (n, some _) => '\ufffd' :: decodeLossy (rest.drop (n - 1))
    | (n, none) => Char.ofNat (codeOf lead (rest.take (n - 1))) :: decodeLossy (rest.drop (n - 1))
termination_by bytes => bytes.length
decreasing_by
  all_goals
    simp only [List.length_drop, List.length_cons]
    omega

/-- The text that bytes encode, or where they stop encoding one. -/
def decode (bytes : ByteArray) : Except DecodeFault String :=
  match String.fromUTF8? bytes with
  | some text => .ok text
  | none => .error ((firstFault 0 bytes.toList).getD ⟨0, 0, 0, .start⟩)

end SchemaScribe.Text
