import RouteReport.Text.Basic

/-! Octets as UTF-8, read strictly: the shortest form only, no surrogates, nothing cut short. -/

namespace RouteReport

abbrev Octets := List UInt8

namespace Utf8

inductive Fault where
  | badStart
  | badContinuation
  | cutShort
  deriving DecidableEq, Repr

/-- The octets `first` to `last`, counted from the start of the data, form no character. -/
structure DecodeError where
  fault : Fault
  first : Nat
  last : Nat
  octet : UInt8
  deriving DecidableEq, Repr

def Fault.reason : Fault → String
  | .badStart => "invalid start byte"
  | .badContinuation => "invalid continuation byte"
  | .cutShort => "unexpected end of data"

def octetText (octet : UInt8) : Text :=
  '0' :: 'x' :: [Nat.digitChar (octet.toNat / 16), Nat.digitChar (octet.toNat % 16)]

def DecodeError.message (e : DecodeError) : Text :=
  let place :=
    if e.first == e.last then
      "byte ".toList ++ octetText e.octet ++ " in position ".toList ++ Text.ofNat e.first
    else "bytes in position ".toList ++ Text.ofNat e.first ++ ['-'] ++ Text.ofNat e.last
  "'utf-8' codec can't decode ".toList ++ place ++ ": ".toList ++ e.fault.reason.toList

/-- How many octets follow a first octet, with the range allowed for the second one. -/
def lead? (octet : UInt8) : Option (Nat × Nat × Nat) :=
  let n := octet.toNat
  if n < 0x80 then some (0, 0, 0)
  else if n < 0xc2 then none
  else if n < 0xe0 then some (1, 0x80, 0xbf)
  else if n == 0xe0 then some (2, 0xa0, 0xbf)
  else if n == 0xed then some (2, 0x80, 0x9f)
  else if n < 0xf0 then some (2, 0x80, 0xbf)
  else if n == 0xf0 then some (3, 0x90, 0xbf)
  else if n < 0xf4 then some (3, 0x80, 0xbf)
  else if n == 0xf4 then some (3, 0x80, 0x8f)
  else none

def continuation : Nat → Nat → Nat → Octets → Octets
  | 0, _, _, _ => []
  | _, _, _, [] => []
  | count + 1, low, high, octet :: rest =>
    if low ≤ octet.toNat && octet.toNat ≤ high then
      octet :: continuation count 0x80 0xbf rest
    else []

def leadBits (count : Nat) (octet : UInt8) : Nat :=
  match count with
  | 0 => octet.toNat
  | 1 => octet.toNat % 0x20
  | 2 => octet.toNat % 0x10
  | _ => octet.toNat % 0x08

def decodeFrom (position : Nat) (octets : Octets) : Except DecodeError Text :=
  match octets with
  | [] => .ok []
  | octet :: rest =>
    match lead? octet with
    | none => .error ⟨.badStart, position, position, octet⟩
    | some (count, low, high) =>
      let more := continuation count low high rest
      if more.length < count then
        let fault := if more.length == rest.length then .cutShort else .badContinuation
        .error ⟨fault, position, position + more.length, octet⟩
      else
        let code := more.foldl (fun n o => n * 64 + o.toNat % 64) (leadBits count octet)
        (decodeFrom (position + 1 + count) (rest.drop count)).map (Char.ofNat code :: ·)
termination_by octets.length
decreasing_by simp only [List.length_drop, List.length_cons]; omega

def decode (octets : Octets) : Except DecodeError Text := decodeFrom 0 octets

def encodeChar (c : Char) : Octets :=
  let n := c.toNat
  if n < 0x80 then [n.toUInt8]
  else if n < 0x800 then [(0xc0 + n / 64).toUInt8, (0x80 + n % 64).toUInt8]
  else if n < 0x10000 then
    [(0xe0 + n / 4096).toUInt8, (0x80 + n / 64 % 64).toUInt8, (0x80 + n % 64).toUInt8]
  else
    [(0xf0 + n / 262144).toUInt8, (0x80 + n / 4096 % 64).toUInt8, (0x80 + n / 64 % 64).toUInt8,
      (0x80 + n % 64).toUInt8]

def encode (text : Text) : Octets := text.flatMap encodeChar

end Utf8

end RouteReport
