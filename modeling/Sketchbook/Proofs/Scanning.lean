import Sketchbook.Proofs.Fitting

namespace Sketchbook.Syntax

/-- The places of a text at which characters end, the beginning included. -/
inductive Ends (text : Glyphs) : Nat → Prop
  | start : Ends text 0
  | step {p : Nat} {g : Glyph} (h : Ends text p) (hg : text[p]? = some g) : Ends text (p + g.width)

variable {text : Glyphs}

theorem Ends.add_sub {p q : Nat} (hp : Ends text p) (hq : Ends text q) : Ends text (p + (q - p)) := by
  rcases Nat.le_total p q with hle | hle
  · rwa [Nat.add_sub_cancel' hle]
  · rwa [Nat.sub_eq_zero_of_le hle, Nat.add_zero]

theorem Ends.glyph {g : Glyph} {p : Extent} (h : Ends text p.bytes)
    (hg : text[p.bytes]? = some g) : Ends text (Lexer.step g p).bytes :=
  h.step hg

/-- All places of a lexeme are ends of characters, and it does not start before a place. -/
structure Lexeme.Within (text : Glyphs) (low : Nat) (l : Lexeme) : Prop where
  start : Ends text l.start.bytes
  stop : Ends text l.stop.bytes
  reached : Ends text l.reached.bytes
  le_start : low ≤ l.start.bytes

namespace Lexer

-- the tables of the lexer are not looked at
attribute [local irreducible] accepted move atEnd

variable {low : Nat}

theorem within_run {fuel s : Nat} {start at_ : Extent} {found : Option (Symbol × Extent)}
    (hstart : Ends text start.bytes) (hat : Ends text at_.bytes)
    (hfound : ∀ t e, found = some (t, e) → Ends text e.bytes)
    (hlow : low ≤ start.bytes) (hle : low ≤ at_.bytes) :
    (run text fuel s start at_ found).Within text low := by
  have hend {found : Option (Symbol × Extent)}
      (hfound : ∀ t e, found = some (t, e) → Ends text e.bytes) {at_ : Extent}
      (hat : Ends text at_.bytes) : Ends text ((found.map (·.2)).getD at_).bytes := by
    cases found with
    | none => exact hat
    | some te => exact hfound te.1 te.2 rfl
  induction fuel generalizing s start at_ found with
  | zero => exact ⟨hstart, hend hfound hat, hat, hlow⟩
  | succ fuel ih =>
    rw [run]
    -- the token that is found by now ends where it did before, or here
    have hnow : ∀ t e, latest s at_ found = some (t, e) → Ends text e.bytes := by
      intro t e he
      unfold latest at he
      split at he
      · cases he
        exact hat
      · exact hfound t e he
    dsimp only
    split
    · rename_i g hg
      split
      · rename_i s' skip hmove
        have hnext := hat.glyph hg
        have hbeyond : low ≤ (step g at_).bytes := Nat.le_trans hle (Nat.le_add_right _ _)
        apply ih _ hnext hnow _ hbeyond
        · split_ifs
          · exact hnext
          · exact hstart
        · split_ifs
          · exact hbeyond
          · exact hlow
      · exact ⟨hstart, hend hnow hat, hat, hlow⟩
    · split
      · exact ⟨hstart, hat, hat, hlow⟩
      · exact ⟨hstart, hend hnow hat, hat, hlow⟩

theorem within_read (s : Nat) {p : Extent} (h : Ends text p.bytes) :
    (read text s p).Within text p.bytes := by
  have hmark : Ends text (skipMark text p).bytes ∧ p.bytes ≤ (skipMark text p).bytes := by
    unfold skipMark
    split_ifs with h0
    · split
      · rename_i g hg
        split_ifs
        · rw [← h0] at hg
          exact ⟨h.glyph hg, Nat.le_add_right _ _⟩
        · exact ⟨h, Nat.le_refl _⟩
      · exact ⟨h, Nat.le_refl _⟩
    · exact ⟨h, Nat.le_refl _⟩
  exact within_run hmark.1 hmark.1 (fun _ _ hnone => nomatch hnone) hmark.2 hmark.2

end Lexer

namespace Machine

theorem ends_readError {fuel : Nat} {at_ stop : Extent} (hat : Ends text at_.bytes)
    (hstop : Ends text stop.bytes) : Ends text (readError text fuel at_ stop).bytes := by
  induction fuel generalizing at_ stop with
  | zero => exact hstop
  | succ fuel ih =>
    have hl := Lexer.within_read (Automaton.lexerStart State.skipping) hat
    rw [readError]
    dsimp only
    split
    · exact hstop
    · split_ifs
      · split
        · rename_i g hg
          have hnext := hl.reached.glyph hg
          exact ih hnext hnext
        · exact hstop
      · exact ih hl.reached hl.reached

theorem fits_token {place start stop : Extent} (hle : place.bytes ≤ start.bytes)
    (hstart : Ends text start.bytes) (hstop : Ends text stop.bytes) {symbol : Symbol}
    {extra missing keyword : Bool} {state : Nat} :
    Derivation.Fits (Ends text) place.bytes
      (.token symbol (start - place) (stop - start) extra missing keyword state) := by
  unfold Derivation.Fits
  rw [Extent.bytes_sub, Extent.bytes_sub, ← Nat.add_assoc, Nat.add_sub_cancel' hle]
  exact ⟨hstart, hstart.add_sub hstop⟩

theorem fits_readToken (state : State) {place : Extent} (h : Ends text place.bytes) :
    Derivation.Fits (Ends text) place.bytes (readToken text state place) := by
  have htoken {l : Lexeme} (hl : l.Within text place.bytes) (symbol : Symbol) :
      Derivation.Fits (Ends text) place.bytes (tokenOf text state place symbol l) :=
    fits_token hl.le_start hl.start hl.stop
  have hfirst := Lexer.within_read (Automaton.lexerStart state) h
  unfold readToken
  dsimp only
  split
  · exact htoken hfirst _
  · obtain ⟨second, hsecond⟩ : ∃ second, second =
        if state = State.skipping then Lexer.read text (Automaton.lexerStart state) place
        else Lexer.read text (Automaton.lexerStart State.skipping) place := ⟨_, rfl⟩
    have hwithin : second.Within text place.bytes := by
      rw [hsecond]
      split_ifs
      · exact hfirst
      · exact Lexer.within_read _ h
    rw [← hsecond]
    split
    · exact htoken hwithin _
    · apply fits_token hwithin.le_start hwithin.start
      -- where nothing is read the lexer goes on behind the next character
      by_cases hstill : second.reached.bytes = second.start.bytes
      · rw [if_pos hstill]
        split
        · rename_i g hg
          have hnext := hwithin.reached.glyph hg
          exact ends_readError hnext hnext
        · exact ends_readError hwithin.reached hwithin.reached
      · rw [if_neg hstill]
        exact ends_readError hwithin.reached hwithin.reached

end Machine

end Sketchbook.Syntax
