import Mathlib

namespace Foundation

/-- `char::is_control`. -/
def isControl (c : Char) : Bool :=
  c.val < 0x20 || (0x7f ≤ c.val && c.val ≤ 0x9f)

/-- `char::is_whitespace`. -/
def isWhitespace (c : Char) : Bool :=
  (0x09 ≤ c.val && c.val ≤ 0x0d) || c.val = 0x20 || c.val = 0x85 || c.val = 0xa0 || c.val = 0x1680 ||
    (0x2000 ≤ c.val && c.val ≤ 0x200a) || c.val = 0x2028 || c.val = 0x2029 || c.val = 0x202f || c.val = 0x205f ||
    c.val = 0x3000

/-- `str::len`, of a text given by its characters. -/
def byteLen (text : List Char) : Nat :=
  (text.map (·.utf8Size)).sum

theorem byteLen_append (text more : List Char) : byteLen (text ++ more) = byteLen text + byteLen more := by
  simp [byteLen]

/-- `str::trim`. -/
def trim (text : List Char) : List Char :=
  ((text.dropWhile isWhitespace).reverse.dropWhile isWhitespace).reverse

/-- `str::rsplit_once`. -/
def rsplitOnce (separator : Char) (text : List Char) : Option (List Char × List Char) :=
  match text.reverse.span (· ≠ separator) with
  | (_, []) => none
  | (tail, _ :: head) => some (head.reverse, tail.reverse)

/-- `u16::from_str` of a text that is known to be made of decimal digits. -/
def parseU16 (digits : List Char) : Option UInt16 :=
  let value := digits.foldl (fun total digit => 10 * total + (digit.toNat - '0'.toNat)) 0
  if value < UInt16.size then some (UInt16.ofNat value) else none

/-- Whether bytes are the UTF-8 encoding of a text (`str::from_utf8`): no overlong form, no surrogate, nothing above
U+10FFFF. -/
def isUtf8 : List UInt8 → Bool
  | [] => true
  | a :: rest =>
    if a < 0x80 then isUtf8 rest
    else
      match rest with
      | [] => false
      | b :: rest =>
        if 0xc2 ≤ a && a ≤ 0xdf then isContinuation b && isUtf8 rest
        else
          match rest with
          | [] => false
          | c :: rest =>
            if 0xe0 ≤ a && a ≤ 0xef then
              isContinuation b && (a ≠ 0xe0 || 0xa0 ≤ b) && (a ≠ 0xed || b ≤ 0x9f) && isContinuation c && isUtf8 rest
            else
              match rest with
              | [] => false
              | d :: rest =>
                0xf0 ≤ a && a ≤ 0xf4 && isContinuation b && (a ≠ 0xf0 || 0x90 ≤ b) && (a ≠ 0xf4 || b ≤ 0x8f) &&
                  isContinuation c && isContinuation d && isUtf8 rest
where
  isContinuation (byte : UInt8) : Bool := 0x80 ≤ byte && byte ≤ 0xbf

end Foundation
