/-!
The encoding UTF-8 on lists of bytes. A byte list is decoded only if every character is spelled with
the fewest bytes and is not a surrogate.
-/

set_option autoImplicit false

namespace Peripherals.Text

namespace Utf8

def encodeChar (c : Char) : List UInt8 :=
  let n := c.toNat
  if n < 0x80 then [n.toUInt8]
  else if n < 0x800 then [(0xC0 + n / 0x40).toUInt8, (0x80 + n % 0x40).toUInt8]
  else if n < 0x10000 then
    [(0xE0 + n / 0x1000).toUInt8, (0x80 + n / 0x40 % 0x40).toUInt8, (0x80 + n % 0x40).toUInt8]
  else
    [(0xF0 + n / 0x40000).toUInt8, (0x80 + n / 0x1000 % 0x40).toUInt8,
      (0x80 + n / 0x40 % 0x40).toUInt8, (0x80 + n % 0x40).toUInt8]

def encode (s : List Char) : List UInt8 :=
  s.flatMap encodeChar

def isContinuation (b : UInt8) : Bool :=
  0x80 ≤ b.toNat && b.toNat ≤ 0xBF

def payload (b : UInt8) : Nat :=
  b.toNat - 0x80

/-- Second bytes that may follow the lead byte of a three-byte character. -/
def isSecondOfThree (a b : UInt8) : Bool :=
  isContinuation b && (a != 0xE0 || 0xA0 ≤ b.toNat) && (a != 0xED || b.toNat ≤ 0x9F)

/-- Second bytes that may follow the lead byte of a four-byte character. -/
def isSecondOfFour (a b : UInt8) : Bool :=
  isContinuation b && (a != 0xF0 || 0x90 ≤ b.toNat) && (a != 0xF4 || b.toNat ≤ 0x8F)

/-- The text that a list of bytes spells, if it spells one. -/
def decode? : List UInt8 → Option (List Char)
  | [] => some []
  | a :: s =>
    if a.toNat < 0x80 then (decode? s).map (Char.ofNat a.toNat :: ·)
    else match s with
    | [] => none
    | b :: s =>
      if 0xC2 ≤ a.toNat && a.toNat ≤ 0xDF then
        if isContinuation b then
          (decode? s).map (Char.ofNat ((a.toNat - 0xC0) * 0x40 + payload b) :: ·)
        else none
      else match s with
      | [] => none
      | c :: s =>
        if 0xE0 ≤ a.toNat && a.toNat ≤ 0xEF then
          if isSecondOfThree a b && isContinuation c then
            (decode? s).map
              (Char.ofNat ((a.toNat - 0xE0) * 0x1000 + payload b * 0x40 + payload c) :: ·)
          else none
        else match s with
        | [] => none
        | d :: s =>
          if 0xF0 ≤ a.toNat && a.toNat ≤ 0xF4 then
            if isSecondOfFour a b && isContinuation c && isContinuation d then
              (decode? s).map
                (Char.ofNat ((a.toNat - 0xF0) * 0x40000 + payload b * 0x1000 + payload c * 0x40 +
                  payload d) :: ·)
            else none
          else none

@[simp] theorem encode_nil : encode [] = [] := rfl

end Utf8

def bytesOf (s : String) : List UInt8 :=
  Utf8.encode s.toList

def ofBytes? (bytes : List UInt8) : Option String :=
  (Utf8.decode? bytes).map String.ofList

end Peripherals.Text
