namespace Sketchbook.Text

/-- The white space of Unicode, with the four separators below the blank of ASCII. -/
def blankRanges : List (Nat × Nat) :=
  [(0x9, 0xD), (0x1C, 0x20), (0x85, 0x85), (0xA0, 0xA0), (0x1680, 0x1680), (0x2000, 0x200A),
    (0x2028, 0x2029), (0x202F, 0x202F), (0x205F, 0x205F), (0x3000, 0x3000)]

def isBlank (c : Char) : Bool :=
  blankRanges.any fun (lo, hi) => lo ≤ c.toNat && c.toNat ≤ hi

/-- Whether a character is white space by the rules of Unicode: the four separators are not. -/
def isWhiteSpace (c : Char) : Bool := isBlank c && !(0x1C ≤ c.toNat && c.toNat ≤ 0x1F)

def trimWhile (p : Char → Bool) (cs : List Char) : List Char :=
  ((cs.dropWhile p).reverse.dropWhile p).reverse

theorem dropWhile_eq_cons {p : Char → Bool} {cs ds : List Char} {c : Char}
    (h : cs.dropWhile p = c :: ds) : p c = false := by
  induction cs with
  | nil => simp at h
  | cons d cs ih =>
    by_cases hd : p d
    · exact ih (by simpa [hd] using h)
    · simp only [List.dropWhile_cons, hd] at h
      simp_all

theorem dropWhile_trimWhile (p : Char → Bool) (cs : List Char) :
    (trimWhile p cs).dropWhile p = trimWhile p cs := by
  have hs := List.takeWhile_append_dropWhile (p := p) (l := (cs.dropWhile p).reverse)
  cases h : trimWhile p cs with
  | nil => rfl
  | cons c r =>
    have hr : ((cs.dropWhile p).reverse.dropWhile p) = (c :: r).reverse := by
      rw [← h]; simp [trimWhile]
    have hl : cs.dropWhile p = c :: (r ++ ((cs.dropWhile p).reverse.takeWhile p).reverse) := by
      rw [hr] at hs
      have := congrArg List.reverse hs
      simpa using this.symm
    simp [dropWhile_eq_cons hl]

theorem trimWhile_trimWhile (p : Char → Bool) (cs : List Char) :
    trimWhile p (trimWhile p cs) = trimWhile p cs := by
  have h : trimWhile p (trimWhile p cs) = ((trimWhile p cs).reverse.dropWhile p).reverse := by
    rw [trimWhile, dropWhile_trimWhile]
  rw [h]
  cases hr : (cs.dropWhile p).reverse.dropWhile p with
  | nil => simp [trimWhile, hr]
  | cons c r =>
    have hc := dropWhile_eq_cons hr
    simp [trimWhile, hr, hc]

def trimChars (cs : List Char) : List Char := trimWhile isBlank cs

def trimWhiteSpace (cs : List Char) : List Char := trimWhile isWhiteSpace cs

def trim (s : String) : String := String.ofList (trimChars s.toList)

def blankSplit : List Char → List (List Char)
  | [] => []
  | c :: rest =>
    if isBlank c then blankSplit rest
    else match rest with
      | [] => [[c]]
      | d :: _ =>
        if isBlank d then [c] :: blankSplit rest
        else match blankSplit rest with
          | w :: ws => (c :: w) :: ws
          | [] => [[c]]

end Sketchbook.Text
