import Sketchbook.Proofs.Deriving
import Sketchbook.Proofs.Boundary
import Sketchbook.Proofs.Spacing

/-!
How the nodes of a tree lie. A derivation that fits shows nodes that lie within one another and one
behind the other. Main statement: so do the nodes of every tree that is parsed, and all of them start
and stop at ends of characters.
-/
namespace Sketchbook

open Sketchbook.Syntax (Node Derivation Production Ends Glyph)
open Sketchbook.Syntax.Derivation (Fits FitAll lead widthAll width)
open Sketchbook.Settings Sketchbook.Text Sketchbook.Text.Utf8

/-- The nodes of a tree lie within one another and one behind the other, and they start and stop at
places of the text, of which `R` holds. -/
structure WellPlaced (R : Nat → Prop) (root : Node) : Prop where
  inOrder : InOrder root
  places : ∀ n ∈ subtrees root, R n.start ∧ R n.stop

theorem WellPlaced.mono {R S : Nat → Prop} {root : Node} (h : WellPlaced R root)
    (hRS : ∀ p, R p → S p) : WellPlaced S root :=
  ⟨h.inOrder, fun n hn => ⟨hRS _ (h.places n hn).1, hRS _ (h.places n hn).2⟩⟩

/-- Nodes that stand one behind the other between two bytes. -/
structure Lined (R : Nat → Prop) (a b : Nat) (ns : List Node) : Prop where
  inside : ∀ n ∈ ns, a ≤ n.start ∧ n.stop ≤ b
  ordered : ns.Pairwise fun m n => m.stop ≤ n.start
  wellPlaced : ∀ n ∈ ns, WellPlaced R n

variable {R : Nat → Prop} {a b c d : Nat}

theorem lined_nil : Lined R a b [] :=
  ⟨fun _ hn => absurd hn List.not_mem_nil, List.Pairwise.nil,
    fun _ hn => absurd hn List.not_mem_nil⟩

theorem lined_singleton {n : Node} (h : WellPlaced R n) (ha : a ≤ n.start) (hb : n.stop ≤ b) :
    Lined R a b [n] := by
  refine ⟨?_, List.pairwise_singleton _ _, ?_⟩
  · intro m hm
    rw [List.mem_singleton.mp hm]
    exact ⟨ha, hb⟩
  · intro m hm
    rw [List.mem_singleton.mp hm]
    exact h

theorem Lined.append {ms ns : List Node} (hm : Lined R a b ms) (hn : Lined R c d ns) (hac : a ≤ c)
    (hbc : b ≤ c) (hbd : b ≤ d) : Lined R a d (ms ++ ns) := by
  refine ⟨?_, List.pairwise_append.mpr ⟨hm.ordered, hn.ordered, ?_⟩, ?_⟩
  · intro n hmem
    rcases List.mem_append.mp hmem with h | h
    · have := hm.inside n h
      omega
    · have := hn.inside n h
      omega
  · intro m hmem n hnmem
    have := (hm.inside m hmem).2
    have := (hn.inside n hnmem).1
    omega
  · intro n hmem
    rcases List.mem_append.mp hmem with h | h
    · exact hm.wellPlaced n h
    · exact hn.wellPlaced n h

theorem wellPlaced_mk {role? : Option Syntax.Role} {kind : String} {named : Bool} {row : Nat}
    {children : List Node} (h : Lined R a b children) (ha : R a) (hb : R b) :
    WellPlaced R (.mk role? kind named a b row children) := by
  have hbelow : ∀ m ∈ subtrees (.mk role? kind named a b row children),
      m = .mk role? kind named a b row children ∨ ∃ c ∈ children, m ∈ subtrees c := by
    intro m hm
    rw [subtrees_eq_cons] at hm
    rcases List.mem_cons.mp hm with rfl | hm
    · exact .inl rfl
    · exact .inr (List.mem_flatMap.mp hm)
  refine ⟨⟨?_, ?_⟩, ?_⟩
  · intro m hm k hk
    rcases hbelow m hm with rfl | ⟨c, hc, hm⟩
    · exact h.inside k hk
    · exact (h.wellPlaced c hc).inOrder.inside m hm k hk
  · intro m hm
    rcases hbelow m hm with rfl | ⟨c, hc, hm⟩
    · exact h.ordered
    · exact (h.wellPlaced c hc).inOrder.ordered m hm
  · intro m hm
    rcases hbelow m hm with rfl | ⟨c, hc, hm⟩
    · exact ⟨ha, hb⟩
    · exact (h.wellPlaced c hc).places m hm

theorem WellPlaced.child {n m : Node} (h : WellPlaced R n) (hm : m ∈ n.children) :
    WellPlaced R m :=
  ⟨h.inOrder.child hm, fun k hk => h.places k (subtrees_subset hm hk)⟩

theorem WellPlaced.children {n : Node} (h : WellPlaced R n) : Lined R n.start n.stop n.children :=
  ⟨h.inOrder.inside n (self_mem_subtrees n), h.inOrder.ordered n (self_mem_subtrees n),
    fun _ hm => h.child hm⟩

theorem Lined.tail {n : Node} {ns : List Node} (h : Lined R a b (n :: ns)) : Lined R a b ns :=
  ⟨fun m hm => h.inside m (List.mem_cons_of_mem n hm), (List.pairwise_cons.mp h.ordered).2,
    fun m hm => h.wellPlaced m (List.mem_cons_of_mem n hm)⟩

theorem Lined.labelFirst {role? : Option Syntax.Role} {ns : List Node} (h : Lined R a b ns) :
    Lined R a b (Node.labelFirst role? ns) := by
  cases ns with
  | nil => exact h
  | cons n ns =>
    obtain ⟨r, kind, named, start, stop, row, children⟩ := n
    cases role? with
    | none => exact h
    | some role =>
      have hn := h.wellPlaced _ List.mem_cons_self
      have hends := hn.places _ (self_mem_subtrees _)
      refine ⟨?_, ?_, ?_⟩
      · intro m hm
        rcases List.mem_cons.mp hm with rfl | hm
        · exact h.inside (.mk r kind named start stop row children) List.mem_cons_self
        · exact h.tail.inside m hm
      · exact List.pairwise_cons.mpr ⟨(List.pairwise_cons.mp h.ordered).1, h.tail.ordered⟩
      · intro m hm
        rcases List.mem_cons.mp hm with rfl | hm
        · exact wellPlaced_mk hn.children hends.1 hends.2
        · exact h.tail.wellPlaced m hm

mutual

theorem lined_ofDerivation (rows : Nat → Nat) (alias? : Option String) {p : Nat} (d : Derivation)
    (h : Fits R p d) (hp : R p) :
    Lined R (p + d.padding.bytes) (p + d.width) (Node.ofDerivation rows alias? p d) := by
  obtain ⟨hstart, hstop⟩ := h.ends hp
  have hstop' : p + d.padding.bytes + d.size.bytes = p + d.width := Nat.add_assoc _ _ _
  -- every way of showing a derivation that is not left out makes one node of it
  have hmake {children : List Node} (kind : String) (named : Bool)
      (hbelow : Lined R (p + d.padding.bytes) (p + d.width) children) :
      Lined R (p + d.padding.bytes) (p + d.width) [.mk none kind named (p + d.padding.bytes)
        (p + d.padding.bytes + d.size.bytes) (rows (p + d.padding.bytes)) children] := by
    rw [hstop']
    exact lined_singleton (wellPlaced_mk hbelow hstart hstop) (Nat.le_refl _) (Nat.le_refl _)
  cases d with
  | token symbol padding size extra missing keyword state =>
    unfold Node.ofDerivation
    dsimp only
    split
    · exact hmake _ _ lined_nil
    · exact lined_nil
    · exact hmake _ _ lined_nil
    · exact hmake _ _ lined_nil
  | rule symbol production extra summary parts =>
    obtain ⟨hlead, hwidth, hparts⟩ := h
    have hbelow := lined_ofParts rows (Production.ofId production) 0 parts hparts hp
    rw [← hlead, ← hwidth] at hbelow
    unfold Node.ofDerivation
    dsimp only
    split
    · exact hmake _ _ hbelow
    · exact hbelow
    · exact hmake _ _ hbelow
    · exact hmake _ _ hbelow

theorem lined_ofParts (rows : Nat → Nat) (production : Production) (index : Nat) {p : Nat}
    (ds : List Derivation) (h : FitAll R p ds) (hp : R p) :
    Lined R (p + lead ds) (p + widthAll ds) (Node.ofParts rows production index p ds) := by
  cases ds with
  | nil =>
    rw [Node.ofParts]
    exact lined_nil
  | cons d ds =>
    obtain ⟨hd, hds⟩ := h
    have hpadding : d.padding.bytes ≤ d.width := Nat.le_add_right _ _
    have happend {ms ns : List Node} (hms : Lined R (p + d.padding.bytes) (p + d.width) ms)
        (hns : Lined R (p + d.width + lead ds) (p + d.width + widthAll ds) ns) :
        Lined R (p + lead (d :: ds)) (p + widthAll (d :: ds)) (ms ++ ns) := by
      have hwhole := hms.append hns (by omega) (by omega) (by omega)
      rw [Nat.add_assoc p d.width (widthAll ds)] at hwhole
      exact hwhole
    have hend := (hd.ends hp).2
    rw [Node.ofParts]
    split_ifs
    · exact happend (lined_ofDerivation rows none d hd hp)
        (lined_ofParts rows production index ds hds hend)
    · exact happend (lined_ofDerivation rows _ d hd hp).labelFirst
        (lined_ofParts rows production (index + 1) ds hds hend)

end

theorem wellPlaced_parse {source : Bytes}
    (hends : ∀ p, Ends (Glyph.scan source).toArray p → R p) (hlength : R source.length) :
    WellPlaced R (Node.parse source).1 := by
  have hlined := lined_ofDerivation (fun i => (Node.rowTable source).getD i 0) none
    (Syntax.derive source) (Syntax.fits_derive source) .start
  unfold Node.parse
  dsimp only
  split
  · rename_i n ns hns
    rw [hns] at hlined
    exact (hlined.wellPlaced n List.mem_cons_self).mono hends
  · exact wellPlaced_mk lined_nil (hends 0 .start) hlength

theorem getElem?_scan {source : Bytes} {p : Nat} {g : Glyph}
    (h : (Glyph.scan source).toArray[p]? = some g) :
    p < source.length ∧ g = Glyph.ofBytes (source.drop p) := by
  rw [List.getElem?_toArray] at h
  induction source generalizing p with
  | nil => cases h
  | cons b source ih =>
    rw [Glyph.scan] at h
    cases p with
    | zero => exact ⟨Nat.succ_pos _, (Option.some.inj h).symm⟩
    | succ p =>
      obtain ⟨hlt, hg⟩ := ih h
      exact ⟨Nat.succ_lt_succ hlt, hg⟩

theorem le_length_of_ends {source : Bytes} {p : Nat} (h : Ends (Glyph.scan source).toArray p) :
    p ≤ source.length := by
  induction h with
  | start => exact Nat.zero_le _
  | step h hg ih =>
    rename_i p g
    obtain ⟨hlt, rfl⟩ := getElem?_scan hg
    have hwidth : (Glyph.ofBytes (source.drop p)).width ≤ (source.drop p).length := by
      unfold Glyph.ofBytes
      split
      · rename_i c w hhead
        exact (head?_width hhead).2
      · rw [List.length_drop]
        change 1 ≤ _
        omega
    rw [List.length_drop] at hwidth
    omega

theorem wellPlaced_parse_length (source : Bytes) :
    WellPlaced (· ≤ source.length) (Node.parse source).1 :=
  wellPlaced_parse (fun _ hp => le_length_of_ends hp) (Nat.le_refl _)

theorem start_le_length_of_mem_parse {source : Bytes} {n : Node}
    (hn : n ∈ subtrees (Node.parse source).1) : n.start ≤ source.length :=
  ((wellPlaced_parse_length source).places n hn).1

theorem isBoundary_of_ends {t : String} {p : Nat} (h : Ends (Glyph.scan (encode t)).toArray p) :
    IsBoundary (encode t) p := by
  induction h with
  | start =>
    rw [encode_eq_flatMap, isBoundary_flatMap_iff]
    exact ⟨[], t.toList, rfl, rfl⟩
  | step h hg ih =>
    obtain ⟨hlt, rfl⟩ := getElem?_scan hg
    rw [encode_eq_flatMap] at hlt ih ⊢
    obtain ⟨front, back, hchars, rfl⟩ := isBoundary_flatMap_iff.mp ih
    rw [hchars, List.flatMap_append] at hlt ⊢
    cases back with
    | nil =>
      rw [List.flatMap_nil, List.append_nil] at hlt
      exact absurd hlt (Nat.lt_irrefl _)
    | cons c back =>
      have hwidth : (Glyph.ofBytes (String.utf8EncodeChar c ++
          back.flatMap String.utf8EncodeChar)).width = (String.utf8EncodeChar c).length := by
        rw [Glyph.ofBytes, head?_encodeChar]
      rw [List.drop_left, List.flatMap_cons, hwidth, ← List.flatMap_cons, ← List.flatMap_append]
      refine isBoundary_flatMap_iff.mpr ⟨front ++ [c], back, ?_, ?_⟩
      · rw [List.append_assoc]
        rfl
      · rw [List.flatMap_append, List.length_append, List.flatMap_singleton]

theorem wellPlaced_parse_encode (t : String) :
    WellPlaced (IsBoundary (encode t)) (Node.parse (encode t)).1 := by
  refine wellPlaced_parse (fun p hp => isBoundary_of_ends hp) ⟨Nat.le_refl _, ?_⟩
  rw [List.getElem?_eq_none (Nat.le_refl _)]
  intro b hb
  cases hb

end Sketchbook
