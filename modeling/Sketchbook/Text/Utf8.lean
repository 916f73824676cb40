namespace Sketchbook.Text

abbrev Bytes := List UInt8

namespace Utf8

/-- The low six bits of a byte that continues a character, if it is one within the bounds. -/
def tail? (lo hi : Nat) (b : UInt8) : Option Nat :=
  if lo ≤ b.toNat ∧ b.toNat ≤ hi then some (b.toNat - 0x80) else none

/-- The character at the front and the number of bytes it takes; `none` if no character stands
there. -/
def head? : Bytes → Option (Char × Nat)
  | [] => none
  | a :: rest =>
    let n := a.toNat
    if n < 0x80 then some (Char.ofNat n, 1)
    else if n < 0xC2 then none
    else if n < 0xE0 then
      match rest with
      | b :: _ => (tail? 0x80 0xBF b).map fun x => (Char.ofNat ((n - 0xC0) * 64 + x), 2)
      | _ => none
    else if n < 0xF0 then
      match rest with
      | b :: c :: _ =>
        (tail? (if n = 0xE0 then 0xA0 else 0x80) (if n = 0xED then 0x9F else 0xBF) b).bind fun x =>
        (tail? 0x80 0xBF c).map fun y => (Char.ofNat (((n - 0xE0) * 64 + x) * 64 + y), 3)
      | _ => none
    else if n < 0xF5 then
      match rest with
      | b :: c :: d :: _ =>
        (tail? (if n = 0xF0 then 0x90 else 0x80) (if n = 0xF4 then 0x8F else 0xBF) b).bind fun x =>
        (tail? 0x80 0xBF c).bind fun y =>
        (tail? 0x80 0xBF d).map fun z => (Char.ofNat ((((n - 0xF0) * 64 + x) * 64 + y) * 64 + z), 4)
      | _ => none
    else none

theorem head?_ascii (a : UInt8) (rest : Bytes) (h : a.toNat < 0x80) :
    head? (a :: rest) = some (Char.ofNat a.toNat, 1) := by
  simp [head?, h]

theorem head?_width {s : Bytes} {c : Char} {w : Nat} (h : head? s = some (c, w)) :
    0 < w ∧ w ≤ s.length := by
  cases s with
  | nil => simp [head?] at h
  | cons a rest =>
    simp only [head?] at h
    repeat' split at h
    all_goals simp only [Option.map_eq_some_iff, Option.bind_eq_some_iff, Option.some.injEq,
      Prod.mk.injEq, reduceCtorEq] at h
    all_goals grind

/-- The characters of a text, read in `fuel` steps at most; `none` if a byte begins no character. -/
def decodeWithin? : Nat → Bytes → Option (List Char)
  | _, [] => some []
  | 0, _ :: _ => none
  | fuel + 1, s =>
    match head? s with
    | some (c, w) => (decodeWithin? fuel (s.drop w)).map (c :: ·)
    | none => none

/-- The text that the bytes stand for; `none` if they are not UTF-8. -/
def decode? (s : Bytes) : Option String :=
  (decodeWithin? s.length s).map String.ofList

/-- The characters that can be read, in order; a byte that begins none is passed over. -/
def readableWithin : Nat → Bytes → List Char
  | _, [] => []
  | 0, _ :: _ => []
  | fuel + 1, b :: rest =>
    match head? (b :: rest) with
    | some (c, w) => c :: readableWithin fuel ((b :: rest).drop w)
    | none => readableWithin fuel rest

/-- The text that the bytes stand for, without the bytes that stand for nothing. -/
def decodeLossy (s : Bytes) : String :=
  String.ofList (readableWithin s.length s)

def encode (s : String) : Bytes :=
  s.toByteArray.data.toList

end Utf8

end Sketchbook.Text
