import BoxOffice.Text.Hex

/-! UTF-8. `decode` is strict; `decodeLossy` replaces every maximal part of a broken sequence by
one replacement character. A text is cut to a number of bytes between two characters. -/

namespace BoxOffice.Text

def encodeUtf8 (s : String) : Bytes := s.toUTF8.data.toList

/-- What the front of a byte list holds: one character, or a broken sequence of the given length. -/
inductive Lead where
  | char (c : Char) (size : Nat)
  | broken (size : Nat)

/-- A byte that may continue a character. -/
def isTail (b : UInt8) : Bool := 0x80 ≤ b && b ≤ 0xBF

def tailBits (b : UInt8) : Nat := b.toNat % 64

/-- The bounds of the second byte, which depend on the first one. They rule out overlong forms,
surrogates and numbers past the last code point. -/
def secondWithin (first second : UInt8) : Bool :=
  let low : UInt8 := if first == 0xE0 then 0xA0 else if first == 0xF0 then 0x90 else 0x80
  let high : UInt8 := if first == 0xED then 0x9F else if first == 0xF4 then 0x8F else 0xBF
  low ≤ second && second ≤ high

/-- Read the character whose first byte is `a`. A broken sequence extends over the bytes that
could still have begun a character. -/
def lead (a : UInt8) (rest : Bytes) : Lead :=
  if a < 0x80 then .char (Char.ofNat a.toNat) 1
  else if a < 0xC2 then .broken 1
  else if a < 0xE0 then
    match rest with
    | b :: _ =>
      if isTail b then .char (Char.ofNat (a.toNat % 32 * 64 + tailBits b)) 2 else .broken 1
    | [] => .broken 1
  else if a < 0xF0 then
    match rest with
    | b :: rest =>
      if !secondWithin a b then .broken 1
      else match rest with
        | c :: _ =>
          if isTail c then
            .char (Char.ofNat ((a.toNat % 16 * 64 + tailBits b) * 64 + tailBits c)) 3
          else .broken 2
        | [] => .broken 2
    | [] => .broken 1
  else if a < 0xF5 then
    match rest with
    | b :: rest =>
      if !secondWithin a b then .broken 1
      else match rest with
        | c :: rest =>
          if !isTail c then .broken 2
          else match rest with
            | d :: _ =>
              if isTail d then
                .char (Char.ofNat
                  (((a.toNat % 8 * 64 + tailBits b) * 64 + tailBits c) * 64 + tailBits d)) 4
              else .broken 3
            | [] => .broken 3
        | [] => .broken 2
    | [] => .broken 1
  else .broken 1

/-- Walk the bytes with `fuel` at least their number; `broken` says what a broken part becomes. -/
def decodeFrom (broken : Option Char) : Nat → Bytes → Option (List Char)
  | _, [] => some []
  | 0, _ :: _ => none
  | fuel + 1, a :: rest =>
    match lead a rest with
    | .char c n => (decodeFrom broken fuel (rest.drop (n - 1))).map (c :: ·)
    | .broken n => do
      let c ← broken
      (decodeFrom broken fuel (rest.drop (n - 1))).map (c :: ·)

/-- The text that the bytes encode, if they encode one. -/
def decodeUtf8 (bs : Bytes) : Option (List Char) := decodeFrom none bs.length bs

/-- The text of the bytes with broken parts replaced by U+FFFD. -/
def decodeLossy (bs : Bytes) : List Char :=
  (decodeFrom (some (Char.ofNat 0xFFFD)) bs.length bs).getD []

/-! ### Cutting -/

/-- Whether an offset in the bytes of a text lies between two characters or at an end. -/
def isBoundary (bs : Bytes) (n : Nat) : Bool :=
  n == 0 || match bs[n]? with
    | some b => !isTail b
    | none => n == bs.length

/-- Go down from an offset to the nearest boundary. There is none if that would lead below zero. -/
def boundaryBelow (bs : Bytes) (n : Nat) : Option Nat :=
  if isBoundary bs n then some n
  else match n with
    | 0 => none
    | n + 1 => boundaryBelow bs n

/-- The first `n` bytes, unless a character would be cut in two. -/
def truncate (bs : Bytes) (n : Nat) : Option Bytes :=
  if bs.length < n then some bs
  else if isBoundary bs n then some (bs.take n) else none

/-- The beginning of a text that is longer than `limit` bytes, cut at the boundary below. -/
def cut (limit : Nat) (s : String) : Option String :=
  let bs := encodeUtf8 s
  if bs.length ≤ limit then some s
  else do
    let kept ← truncate bs (← boundaryBelow bs limit)
    return String.ofList (← decodeUtf8 kept)

end BoxOffice.Text
