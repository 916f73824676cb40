import Mathlib.Tactic.SplitIfs
import Sketchbook.Syntax.Machine

/-!
Derivations that fit a text. Laid down at a place of the text, all tokens of a derivation begin and
end at places of the text, and its rules span what their parts span. Main statements: whatever is
built from derivations that fit, one behind the other, fits as well.
-/
namespace Sketchbook.Syntax

@[simp] theorem Extent.bytes_add (a b : Extent) : (a + b).bytes = a.bytes + b.bytes := rfl

@[simp] theorem Extent.bytes_sub (a b : Extent) : (a - b).bytes = a.bytes - b.bytes := rfl

namespace Derivation

/-- The number of bytes of a derivation, blank space before it included. -/
def width (d : Derivation) : Nat := d.padding.bytes + d.size.bytes

def widthAll : List Derivation → Nat
  | [] => 0
  | d :: ds => d.width + widthAll ds

def lead : List Derivation → Nat
  | [] => 0
  | d :: _ => d.padding.bytes

mutual

/-- Whether a derivation fits at a place, when `R` holds of the places of the text. -/
def Fits (R : Nat → Prop) (p : Nat) : Derivation → Prop
  | .token _ padding size .. => R (p + padding.bytes) ∧ R (p + (padding.bytes + size.bytes))
  | .rule _ _ _ summary parts =>
    summary.padding.bytes = lead parts ∧
      summary.padding.bytes + summary.size.bytes = widthAll parts ∧ FitAll R p parts

def FitAll (R : Nat → Prop) (p : Nat) : List Derivation → Prop
  | [] => True
  | d :: ds => Fits R p d ∧ FitAll R (p + d.width) ds

end

variable {R : Nat → Prop} {p : Nat} {d : Derivation} {ds es : List Derivation}

theorem width_eq_extent (d : Derivation) : d.extent.bytes = d.width := rfl

theorem widthAll_append : widthAll (ds ++ es) = widthAll ds + widthAll es := by
  induction ds with
  | nil => exact (Nat.zero_add _).symm
  | cons d ds ih => rw [List.cons_append, widthAll, widthAll, ih, Nat.add_assoc]

theorem fitAll_append : FitAll R p (ds ++ es) ↔ FitAll R p ds ∧ FitAll R (p + widthAll ds) es := by
  induction ds generalizing p with
  | nil => simp [FitAll, widthAll]
  | cons d ds ih =>
    rw [List.cons_append, FitAll, FitAll, ih, widthAll, ← Nat.add_assoc, and_assoc]

theorem fitAll_singleton : FitAll R p [d] ↔ Fits R p d := by
  simp [FitAll]

theorem widthAll_singleton : widthAll [d] = d.width := Nat.add_zero _

theorem Fits.ends (h : Fits R p d) (hp : R p) : R (p + d.padding.bytes) ∧ R (p + d.width) := by
  -- over the parts of a rule, one behind the other
  refine Derivation.rec (motive_1 := fun d => ∀ p, R p → Fits R p d →
      R (p + d.padding.bytes) ∧ R (p + d.width))
    (motive_2 := fun ds => ∀ p, R p → FitAll R p ds → R (p + lead ds) ∧ R (p + widthAll ds))
    ?_ ?_ ?_ ?_ d p hp h
  · intro symbol padding size extra missing keyword state p _ h
    exact h
  · intro symbol production extra summary parts ih p hp h
    obtain ⟨hpadding, hwidth, hall⟩ := h
    obtain ⟨hlead, hend⟩ := ih p hp hall
    rw [← hpadding] at hlead
    rw [← hwidth] at hend
    exact ⟨hlead, hend⟩
  · intro p hp _
    exact ⟨hp, hp⟩
  · intro d ds hd hds p hp h
    obtain ⟨hlead, hend⟩ := hd p hp h.1
    have hrest := (hds _ hend h.2).2
    rw [Nat.add_assoc] at hrest
    exact ⟨hlead, hrest⟩

theorem FitAll.ends (h : FitAll R p ds) (hp : R p) : R (p + widthAll ds) := by
  induction ds generalizing p with
  | nil => exact hp
  | cons d ds ih =>
    have hrest := ih h.2 (h.1.ends hp).2
    rwa [Nat.add_assoc] at hrest

@[simp] theorem width_setExtra (extra : Bool) : (d.setExtra extra).width = d.width := by
  cases d <;> rfl

@[simp] theorem fits_setExtra (extra : Bool) : Fits R p (d.setExtra extra) ↔ Fits R p d := by
  cases d <;> simp [setExtra, Fits]

@[simp] theorem width_prefer (n : Nat) : (d.prefer n).width = d.width := by
  cases d <;> rfl

@[simp] theorem fits_prefer (n : Nat) : Fits R p (d.prefer n) ↔ Fits R p d := by
  cases d <;> simp [prefer, Fits]

theorem fits_asWord (h : Fits R p d) : Fits R p d.asWord := by
  cases d <;> exact h

theorem addPart_eq (symbol : Symbol) (production : Production) (s : Summary) (index : Nat)
    (first : Bool) (d : Derivation) :
    ∃ s' index', addPart symbol production (s, index, first) d = (s', index', false) ∧
      s'.padding = (if first then d.padding else s.padding) ∧
      s'.size = (if first then d.size else s.size + d.extent) :=
  ⟨_, _, rfl, rfl, rfl⟩

theorem foldl_addPart (symbol : Symbol) (production : Production) (parts : List Derivation)
    (s : Summary) (index : Nat) :
    ((parts.foldl (addPart symbol production) (s, index, false)).1.padding.bytes = s.padding.bytes) ∧
      (parts.foldl (addPart symbol production) (s, index, false)).1.size.bytes =
        s.size.bytes + widthAll parts := by
  induction parts generalizing s index with
  | nil => exact ⟨rfl, rfl⟩
  | cons d parts ih =>
    obtain ⟨s', index', hadd, hpadding', hsize'⟩ := addPart_eq symbol production s index false d
    obtain ⟨hpadding, hsize⟩ := ih s' index'
    rw [List.foldl_cons, hadd, hpadding, hsize, hpadding', hsize']
    refine ⟨rfl, ?_⟩
    simp only [Bool.false_eq_true, ↓reduceIte, Extent.bytes_add, width_eq_extent, widthAll]
    omega

theorem summarize_bytes (symbol : Symbol) (production : Nat) (parts : List Derivation) :
    (summarize symbol production parts).padding.bytes = lead parts ∧
      (summarize symbol production parts).padding.bytes +
        (summarize symbol production parts).size.bytes = widthAll parts := by
  -- padding and size do not hang on where the summary starts from
  have hfold : ∀ zero : Summary, zero.padding = .zero → zero.size = .zero →
      (parts.foldl (addPart symbol (Production.ofId production)) (zero, 0, true)).1.padding.bytes =
          lead parts ∧
        (parts.foldl (addPart symbol (Production.ofId production)) (zero, 0, true)).1.padding.bytes +
          (parts.foldl (addPart symbol (Production.ofId production)) (zero, 0, true)).1.size.bytes =
            widthAll parts := by
    intro zero hp hs
    cases parts with
    | nil =>
      rw [List.foldl_nil, hp, hs]
      exact ⟨rfl, rfl⟩
    | cons d parts =>
      obtain ⟨s', index', hadd, hpadding', hsize'⟩ :=
        addPart_eq symbol (Production.ofId production) zero 0 true d
      obtain ⟨hpadding, hsize⟩ :=
        foldl_addPart symbol (Production.ofId production) parts s' index'
      rw [List.foldl_cons, hadd, hpadding, hsize, hpadding', hsize', if_pos rfl, if_pos rfl]
      refine ⟨rfl, ?_⟩
      rw [widthAll, width, Nat.add_assoc]
  obtain ⟨hpadding, hwidth⟩ := hfold ⟨.zero, .zero, 0, 0, 0, 0⟩ rfl rfl
  unfold summarize
  dsimp only
  split_ifs
  · exact ⟨hpadding, hwidth⟩
  · exact ⟨hpadding, hwidth⟩

theorem fits_ofParts (symbol : Symbol) (production : Nat) (h : FitAll R p ds) :
    Fits R p (ofParts symbol production ds) :=
  ⟨(summarize_bytes symbol production ds).1, (summarize_bytes symbol production ds).2, h⟩

@[simp] theorem width_ofParts (symbol : Symbol) (production : Nat) :
    (ofParts symbol production ds).width = widthAll ds :=
  (summarize_bytes symbol production ds).2

theorem fits_ofError (extra : Bool) (h : FitAll R p ds) : Fits R p (ofError ds extra) := by
  rw [ofError, fits_setExtra]
  exact fits_ofParts _ _ h

@[simp] theorem width_ofError (extra : Bool) : (ofError ds extra).width = widthAll ds := by
  rw [ofError, width_setExtra, width_ofParts]

theorem fits_ofMissing (symbol : Symbol) (hp : R p) : Fits R p (ofMissing symbol) := ⟨hp, hp⟩

theorem fitAll_opened (h : Fits R p d) : FitAll R p d.opened ∧ widthAll d.opened = d.width := by
  cases d with
  | token => exact ⟨fitAll_singleton.mpr h, widthAll_singleton⟩
  | rule => exact ⟨h.2.2, h.2.1.symm⟩

theorem fitAll_flatMap_opened (h : FitAll R p ds) :
    FitAll R p (ds.flatMap opened) ∧ widthAll (ds.flatMap opened) = widthAll ds := by
  induction ds generalizing p with
  | nil => exact ⟨trivial, rfl⟩
  | cons d ds ih =>
    obtain ⟨hopened, hwidth⟩ := fitAll_opened h.1
    obtain ⟨hrest, hrestWidth⟩ := ih h.2
    rw [List.flatMap_cons, fitAll_append, widthAll_append, hwidth, hrestWidth]
    exact ⟨⟨hopened, hrest⟩, rfl⟩

theorem splitExtras_append (parts : List Derivation) :
    (splitExtras parts).1 ++ (splitExtras parts).2 = parts := by
  unfold splitExtras
  rw [← List.reverse_append, List.takeWhile_append_dropWhile, List.reverse_reverse]

end Derivation

end Sketchbook.Syntax
