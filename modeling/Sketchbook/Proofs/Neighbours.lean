import Mathlib.Data.List.Chain
import Mathlib.Data.List.Sort
import Sketchbook.Editing.Span

namespace Sketchbook.Editing.Span

theorem insert_eq_orderedInsert (a : Span) (l : List Span) :
    insert a l = l.orderedInsert (fun a b => precedes a b = true) a := by
  induction l with
  | nil => rfl
  | cons b l ih => rw [insert, List.orderedInsert_cons, ih]

theorem sort_eq_insertionSort (l : List Span) :
    sort l = l.insertionSort fun a b => precedes a b = true := by
  induction l with
  | nil => rfl
  | cons a l ih => rw [sort, insert_eq_orderedInsert, List.insertionSort_cons, ih]

theorem precedes_iff (a b : Span) : precedes a b = true ↔
    a.start < b.start ∨ a.start = b.start ∧ a.stop ≤ b.stop := by
  simp only [precedes, Bool.or_eq_true, Bool.and_eq_true, decide_eq_true_eq]

instance : Std.Total fun a b : Span => precedes a b = true where
  total a b := by
    rw [precedes_iff, precedes_iff]
    omega

instance : IsTrans Span fun a b => precedes a b = true where
  trans a b c := by
    rw [precedes_iff, precedes_iff, precedes_iff]
    omega

theorem eq_of_precedes {a b : Span} (hab : precedes a b = true) (hba : precedes b a = true) :
    a = b := by
  rw [precedes_iff] at hab hba
  obtain ⟨start, stop⟩ := a
  obtain ⟨start', stop'⟩ := b
  rw [mk.injEq]
  dsimp only at hab hba
  omega

theorem perm_sort (l : List Span) : (sort l).Perm l := by
  rw [sort_eq_insertionSort]
  exact List.perm_insertionSort _ l

theorem pairwise_sort (l : List Span) : (sort l).Pairwise fun a b => precedes a b = true := by
  rw [sort_eq_insertionSort]
  exact List.pairwise_insertionSort _ l

theorem eq_sort {l spans : List Span} (hperm : l.Perm spans)
    (hsorted : l.Pairwise fun a b => precedes a b = true) : l = sort spans := by
  apply List.Perm.eq_of_pairwise _ hsorted (pairwise_sort spans)
  · exact hperm.trans (perm_sort spans).symm
  · intro a b _ _ hab hba
    exact eq_of_precedes hab hba

theorem sort_congr {l spans : List Span} (h : l.Perm spans) : sort l = sort spans :=
  eq_sort ((perm_sort l).trans h) (pairwise_sort l)

def Apart (a b : Span) : Prop := a.stop ≤ b.start ∨ b.stop ≤ a.start

instance : DecidableRel Apart := fun a b =>
  inferInstanceAs (Decidable (a.stop ≤ b.start ∨ b.stop ≤ a.start))

instance : Std.Symm Apart := ⟨fun _ _ h => Or.symm h⟩

/-- The first two neighbours in a list of which the second starts before the first one stops. -/
structure FirstOverlap (l : List Span) (a b : Span) : Prop where
  neighbours : ∃ front back, l = front ++ a :: b :: back ∧
    (front ++ [a]).IsChain fun x y => x.stop ≤ y.start
  overlap : b.start < a.stop

theorem firstOverlap?_eq_none_iff {l : List Span} :
    firstOverlap? l = none ↔ l.IsChain fun a b => a.stop ≤ b.start := by
  induction l with
  | nil => exact iff_of_true rfl List.isChain_nil
  | cons a l ih =>
    cases l with
    | nil => exact iff_of_true rfl (List.isChain_singleton a)
    | cons b l =>
      rw [List.isChain_cons_cons, firstOverlap?]
      by_cases hlt : b.start < a.stop
      · rw [if_pos hlt]
        apply iff_of_false (Option.some_ne_none _)
        rintro ⟨hle, -⟩
        omega
      · rw [if_neg hlt, ih]
        exact ⟨fun h => ⟨by omega, h⟩, And.right⟩

/-- The first two neighbours that overlap are the first two of all, or else those two do not overlap
and they stand behind the first. -/
theorem firstOverlap_cons_cons_iff {x y a b : Span} {l : List Span} :
    FirstOverlap (x :: y :: l) a b ↔
      (y.start < x.stop ∧ x = a ∧ y = b) ∨ (x.stop ≤ y.start ∧ FirstOverlap (y :: l) a b) := by
  constructor
  · rintro ⟨⟨front, back, hl, hchain⟩, hover⟩
    -- either the first two overlap, or they do not and it comes later
    cases front with
    | nil =>
      obtain ⟨rfl, rfl, -⟩ : x = a ∧ y = b ∧ l = back := by simpa using hl
      exact .inl ⟨hover, rfl, rfl⟩
    | cons f front =>
      rw [List.cons_append, List.cons.injEq] at hl
      obtain ⟨rfl, hl⟩ := hl
      have hhead : y ∈ (front ++ [a]).head? := by
        cases front <;> simp_all
      rw [List.cons_append, List.isChain_cons] at hchain
      exact .inr ⟨hchain.1 y hhead, ⟨front, back, hl, hchain.2⟩, hover⟩
  · rintro (⟨hover, rfl, rfl⟩ | ⟨hle, ⟨front, back, hl, hchain⟩, hover⟩)
    · exact ⟨⟨[], l, rfl, List.isChain_singleton x⟩, hover⟩
    · refine ⟨⟨x :: front, back, by rw [hl]; rfl, ?_⟩, hover⟩
      have hhead : (front ++ [a]).head? = some y := by
        cases front <;> simp_all
      rw [List.cons_append, List.isChain_cons]
      refine ⟨fun z hz => ?_, hchain⟩
      rw [hhead] at hz
      obtain rfl := Option.some.inj hz
      exact hle

theorem not_firstOverlap_of_length {l : List Span} (h : l.length < 2) (a b : Span) :
    ¬FirstOverlap l a b := by
  rintro ⟨⟨front, back, rfl, -⟩, -⟩
  rw [List.length_append, List.length_cons, List.length_cons] at h
  omega

theorem firstOverlap?_eq_some_iff {l : List Span} {o : Overlap} :
    firstOverlap? l = some o ↔ ∃ a b, FirstOverlap l a b ∧ o = ⟨a.stop, b.stop⟩ := by
  -- a single span overlaps nothing
  have hshort {l : List Span} (hl : l.length < 2) (hnone : firstOverlap? l = none) :
      firstOverlap? l = some o ↔ ∃ a b, FirstOverlap l a b ∧ o = ⟨a.stop, b.stop⟩ := by
    rw [hnone]
    apply iff_of_false (Option.some_ne_none o).symm
    rintro ⟨a, b, hfirst, -⟩
    exact not_firstOverlap_of_length hl a b hfirst
  induction l with
  | nil => exact hshort Nat.zero_lt_two rfl
  | cons x l ih =>
    cases l with
    | nil => exact hshort Nat.one_lt_two rfl
    | cons y l =>
      rw [firstOverlap?]
      simp only [firstOverlap_cons_cons_iff]
      split_ifs with hlt
      · rw [Option.some.injEq]
        constructor
        · rintro rfl
          exact ⟨x, y, .inl ⟨hlt, rfl, rfl⟩, rfl⟩
        · rintro ⟨a, b, ⟨-, rfl, rfl⟩ | ⟨hle, -⟩, rfl⟩
          · rfl
          · omega
      · refine ih.trans ?_
        constructor
        · rintro ⟨a, b, hfirst, ho⟩
          exact ⟨a, b, .inr ⟨by omega, hfirst⟩, ho⟩
        · rintro ⟨a, b, ⟨hover, -⟩ | ⟨-, hfirst⟩, ho⟩
          · exact absurd hover hlt
          · exact ⟨a, b, hfirst, ho⟩

theorem pairwise_of_isChain {l : List Span} (hle : ∀ a ∈ l, a.start ≤ a.stop)
    (h : l.IsChain fun a b => a.stop ≤ b.start) : l.Pairwise fun a b => a.stop ≤ b.start := by
  -- with where the second one stops added, the relation of neighbours is transitive
  have htrans : IsTrans Span fun a b => a.stop ≤ b.start ∧ b.start ≤ b.stop := by
    constructor
    intro a b c hab hbc
    omega
  have hchain : l.IsChain fun a b => a.stop ≤ b.start ∧ b.start ≤ b.stop :=
    h.imp_of_mem_imp fun a b _ hb hab => ⟨hab, hle b hb⟩
  exact (List.isChain_iff_pairwise.mp hchain).imp And.left

theorem isChain_iff_pairwise_apart {l : List Span} (hle : ∀ a ∈ l, a.start ≤ a.stop)
    (hsorted : l.Pairwise fun a b => precedes a b = true) :
    l.IsChain (fun a b => a.stop ≤ b.start) ↔ l.Pairwise Apart := by
  constructor
  · intro h
    exact (pairwise_of_isChain hle h).imp Or.inl
  · intro h
    apply List.Pairwise.isChain
    apply (hsorted.and h).imp_of_mem
    rintro a b ha hb ⟨hab, happart⟩
    -- if the second one stopped before the first one starts, both would be empty and at one place
    have hb := hle b hb
    rw [precedes_iff] at hab
    rcases happart with happart | happart
    · exact happart
    · omega

theorem checkDisjoint_eq_ok_iff {l : List Span} :
    checkDisjoint l = .ok () ↔ (sort l).IsChain fun a b => a.stop ≤ b.start := by
  rw [← firstOverlap?_eq_none_iff, checkDisjoint]
  cases firstOverlap? (sort l) <;> simp

theorem checkDisjoint_eq_error_iff {l : List Span} {o : Overlap} :
    checkDisjoint l = .error o ↔ firstOverlap? (sort l) = some o := by
  rw [checkDisjoint]
  cases firstOverlap? (sort l) <;> simp

theorem checkDisjoint_eq_ok_iff_pairwise {l : List Span} (hle : ∀ a ∈ l, a.start ≤ a.stop) :
    checkDisjoint l = .ok () ↔ l.Pairwise Apart := by
  rw [checkDisjoint_eq_ok_iff,
    isChain_iff_pairwise_apart (fun a ha => hle a ((perm_sort l).mem_iff.mp ha)) (pairwise_sort l)]
  exact (perm_sort l).pairwise_iff fun h => Or.symm h

theorem pairwise_apart_iff_getElem {l : List Span} : l.Pairwise Apart ↔
    ∀ i j (hi : i < l.length) (hj : j < l.length), i ≠ j → l[i].Apart l[j] := by
  rw [List.pairwise_iff_getElem]
  constructor
  · intro h i j hi hj hij
    rcases Nat.lt_or_gt_of_ne hij with hlt | hlt
    · exact h i j hi hj hlt
    · exact Or.symm (h j i hj hi hlt)
  · intro h i j hi hj hlt
    exact h i j hi hj (Nat.ne_of_lt hlt)

/-- Spans pass the check exactly if no two of them, at whatever places of the list, overlap, empty
ones and equal ones included. If they do not pass, the ends of the first neighbours that overlap are
named, where the spans are put in order by their starts and then by their ends. So it does not
matter in which order the spans are given. -/
theorem checkDisjoint_iff (spans : List Span) :
    ((∀ a ∈ spans, a.start ≤ a.stop) → (checkDisjoint spans = .ok () ↔
      ∀ i j (hi : i < spans.length) (hj : j < spans.length), i ≠ j →
        spans[i].stop ≤ spans[j].start ∨ spans[j].stop ≤ spans[i].start)) ∧
    (∀ o, checkDisjoint spans = .error o ↔ ∃ ordered a b, ordered.Perm spans ∧
      ordered.Pairwise (fun x y => x.start < y.start ∨ x.start = y.start ∧ x.stop ≤ y.stop) ∧
      FirstOverlap ordered a b ∧ o = ⟨a.stop, b.stop⟩ ∧
      o.message = "overlapping rewrite spans ending at " ++ toString a.stop ++ " and " ++
        toString b.stop) ∧
    ∀ spans', spans'.Perm spans → checkDisjoint spans' = checkDisjoint spans := by
  refine ⟨?_, ?_, ?_⟩
  · intro hle
    rw [checkDisjoint_eq_ok_iff_pairwise hle, pairwise_apart_iff_getElem]
    rfl
  · intro o
    rw [checkDisjoint_eq_error_iff, firstOverlap?_eq_some_iff]
    constructor
    · rintro ⟨a, b, hfirst, rfl⟩
      have hsorted := (pairwise_sort spans).imp fun {x y} h => (precedes_iff x y).mp h
      exact ⟨sort spans, a, b, perm_sort spans, hsorted, hfirst, rfl, rfl⟩
    · rintro ⟨ordered, a, b, hperm, hsorted, hfirst, ho, -⟩
      -- there is but one order, so the spans in order are those that were sorted
      have hsame := eq_sort hperm (hsorted.imp fun {x y} h => (precedes_iff x y).mpr h)
      rw [← hsame]
      exact ⟨a, b, hfirst, ho⟩
  · intro spans' hperm
    rw [checkDisjoint, checkDisjoint, sort_congr hperm]

/-- Spans that touch, one of them empty and given twice, and a long span that covers others. -/
theorem checkDisjoint_iff_covering :
    let touching : List Span := [⟨4, 9⟩, ⟨4, 4⟩, ⟨0, 4⟩, ⟨4, 4⟩]
    let covering : List Span := [⟨7, 7⟩, ⟨9, 12⟩, ⟨0, 9⟩, ⟨7, 7⟩]
    (∀ a ∈ touching, a.start ≤ a.stop) ∧ checkDisjoint touching = .ok () ∧
      (∃ o, checkDisjoint covering = .error o ∧
        o.message = "overlapping rewrite spans ending at 9 and 7") ∧
      checkDisjoint covering.reverse = checkDisjoint covering := by
  intro touching covering
  obtain ⟨hok, -, -⟩ := checkDisjoint_iff touching
  obtain ⟨-, herror, hreorder⟩ := checkDisjoint_iff covering
  have hle : ∀ a ∈ touching, a.start ≤ a.stop := by decide
  have hapart : touching.Pairwise Apart := by decide
  have hfirst : FirstOverlap [⟨0, 9⟩, ⟨7, 7⟩, ⟨7, 7⟩, ⟨9, 12⟩] ⟨0, 9⟩ ⟨7, 7⟩ :=
    ⟨⟨[], _, rfl, List.isChain_singleton _⟩, by decide⟩
  have hcovering : checkDisjoint covering = .error ⟨9, 7⟩ :=
    (herror _).mpr ⟨_, _, _, by decide, by decide, hfirst, rfl, rfl⟩
  exact ⟨hle, (hok hle).mpr (pairwise_apart_iff_getElem.mp hapart), ⟨_, hcovering, by decide⟩,
    hreorder _ (List.reverse_perm covering)⟩

end Sketchbook.Editing.Span
