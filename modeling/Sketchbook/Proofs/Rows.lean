import Sketchbook.Proofs.Layout
import Sketchbook.Proofs.Lines
import Sketchbook.Proofs.Wrapping

namespace Sketchbook

open Sketchbook.Syntax (Node Derivation Production)
open Sketchbook.Settings Sketchbook.Text

theorem lineBreaks_take_succ (s : Bytes) (i : Nat) :
    lineBreaks (s.take (i + 1)) = lineBreaks (s.take i) + if s[i]? = some 10 then 1 else 0 := by
  rw [List.take_add_one, lineBreaks_append]
  congr 1
  cases s[i]? with
  | none => rfl
  | some b =>
    rw [Option.toList_some, lineBreaks, List.count_singleton]
    simp only [beq_iff_eq, Option.some.injEq]

namespace Syntax.Node

theorem foldl_rowTable (source : Bytes) :
    let built := source.foldl (fun (acc : Array Nat × Nat) b =>
      let n := if b = 10 then acc.2 + 1 else acc.2
      (acc.1.push n, n)) (#[0], 0)
    built.2 = lineBreaks source ∧ built.1.size = source.length + 1 ∧
      ∀ i ≤ source.length, built.1.getD i 0 = lineBreaks (source.take i) := by
  induction source using List.reverseRecOn with
  | nil =>
    refine ⟨rfl, rfl, ?_⟩
    intro i hi
    rw [Nat.le_zero.mp hi]
    rfl
  | append_singleton source b ih =>
    obtain ⟨hlast, hsize, hentries⟩ := ih
    rw [List.foldl_concat]
    -- the table of the bytes before the last one keeps its name from here on
    generalize source.foldl _ (#[0], 0) = built at hlast hsize hentries ⊢
    have hnew : (if b = 10 then built.2 + 1 else built.2) = lineBreaks (source ++ [b]) := by
      rw [lineBreaks_append, hlast]
      by_cases hb : b = 10
      · rw [if_pos hb, hb]
        rfl
      · have hzero : lineBreaks [b] = 0 := by
          rw [lineBreaks, List.count_singleton]
          simp [hb]
        rw [if_neg hb, hzero, Nat.add_zero]
    refine ⟨hnew, ?_, ?_⟩
    · rw [Array.size_push, hsize, List.length_append, List.length_singleton]
    · intro i hi
      rw [List.length_append, List.length_singleton] at hi
      rw [Array.getD_eq_getD_getElem?, Array.getElem?_push, hsize]
      by_cases hlt : i = source.length + 1
      · have hall : (source ++ [b]).take i = source ++ [b] := by
          apply List.take_of_length_le
          rw [List.length_append, List.length_singleton]
          omega
        rw [if_pos hlt, hall]
        exact hnew
      · have hle : i ≤ source.length := by omega
        rw [if_neg hlt, ← Array.getD_eq_getD_getElem?, hentries i hle,
          List.take_append_of_le_length hle]

theorem getD_rowTable {source : Bytes} {i : Nat} (h : i ≤ source.length) :
    (rowTable source).getD i 0 = lineBreaks (source.take i) :=
  (foldl_rowTable source).2.2 i h

/-- Every node of a tree starts on the row that is counted for its first byte and does not stop
before it. -/
def Counted (rows : Nat → Nat) (n : Node) : Prop :=
  ∀ m ∈ subtrees n, m.row = rows m.start ∧ m.start ≤ m.stop

variable {rows : Nat → Nat}

theorem counted_mk {role? : Option Syntax.Role} {kind : String} {named : Bool} {start stop : Nat}
    {children : List Node} (hle : start ≤ stop) (h : ∀ c ∈ children, Counted rows c) :
    Counted rows (mk role? kind named start stop (rows start) children) := by
  intro m hm
  rw [subtrees_eq_cons] at hm
  rcases List.mem_cons.mp hm with rfl | hm
  · exact ⟨rfl, hle⟩
  · obtain ⟨c, hc, hm⟩ := List.mem_flatMap.mp hm
    exact h c hc m hm

theorem counted_labelFirst {role? : Option Syntax.Role} {ns : List Node}
    (h : ∀ n ∈ ns, Counted rows n) : ∀ n ∈ labelFirst role? ns, Counted rows n := by
  cases ns with
  | nil => exact h
  | cons n ns =>
    obtain ⟨r, k, named, start, stop, row, children⟩ := n
    intro m hm
    cases role? with
    | none => exact h m hm
    | some role =>
      rcases List.mem_cons.mp hm with rfl | hm
      · have hn := h _ List.mem_cons_self
        obtain ⟨hrow, hle⟩ := hn _ (self_mem_subtrees _)
        have hrow : row = rows start := hrow
        rw [hrow]
        apply counted_mk hle
        intro c hc m hm
        exact hn m (subtrees_subset hc hm)
      · exact h m (List.mem_cons_of_mem _ hm)

mutual

theorem counted_ofDerivation (alias? : Option String) (at_ : Nat) (d : Derivation) :
    ∀ n ∈ ofDerivation rows alias? at_ d, Counted rows n := by
  cases d with
  | token symbol padding size extra missing keyword state =>
    have hmake (kind : String) (named : Bool) : ∀ n ∈ [mk none kind named (at_ + padding.bytes)
        (at_ + padding.bytes + size.bytes) (rows (at_ + padding.bytes)) []], Counted rows n := by
      intro n hn
      rw [List.mem_singleton.mp hn]
      apply counted_mk (Nat.le_add_right _ _)
      intro c hc
      cases hc
    rw [ofDerivation.eq_def]
    dsimp only
    split
    · exact hmake _ _
    · intro n hn
      cases hn
    · exact hmake _ _
    · exact hmake _ _
  | rule symbol production extra summary parts =>
    -- a rule that is not shown leaves its place to its parts
    have hbelow := counted_ofParts (Production.ofId production) 0 at_ parts
    have hmake (kind : String) (named : Bool) : ∀ n ∈ [mk none kind named
        (at_ + summary.padding.bytes) (at_ + summary.padding.bytes + summary.size.bytes)
        (rows (at_ + summary.padding.bytes))
        (ofParts rows (Production.ofId production) 0 at_ parts)], Counted rows n := by
      intro n hn
      rw [List.mem_singleton.mp hn]
      exact counted_mk (Nat.le_add_right _ _) hbelow
    rw [ofDerivation.eq_def]
    dsimp only
    split
    · exact hmake _ _
    · exact hbelow
    · exact hmake _ _
    · exact hmake _ _

theorem counted_ofParts (p : Production) (index at_ : Nat) (ds : List Derivation) :
    ∀ n ∈ ofParts rows p index at_ ds, Counted rows n := by
  cases ds with
  | nil =>
    intro n hn
    cases hn
  | cons d ds =>
    rw [ofParts]
    intro n hn
    split_ifs at hn
    · rcases List.mem_append.mp hn with hn | hn
      · exact counted_ofDerivation none at_ d n hn
      · exact counted_ofParts p index _ ds n hn
    · rcases List.mem_append.mp hn with hn | hn
      · exact counted_labelFirst (counted_ofDerivation _ at_ d) n hn
      · exact counted_ofParts p (index + 1) _ ds n hn

end

theorem counted_parse (source : Bytes) :
    Counted (fun i => (rowTable source).getD i 0) (parse source).1 := by
  have hall : ∀ n ∈ ofDerivation (fun i => (rowTable source).getD i 0) none 0
      (Syntax.derive source), Counted (fun i => (rowTable source).getD i 0) n :=
    counted_ofDerivation none 0 (Syntax.derive source)
  unfold parse
  dsimp only
  split
  · rename_i n ns hns
    exact hall n (by rw [hns]; exact List.mem_cons_self)
  · -- a text of which nothing shows is one node without children
    intro m hm
    rw [subtrees_eq_cons] at hm
    rw [List.mem_singleton.mp hm]
    exact ⟨(getD_rowTable (Nat.zero_le _)).symm, Nat.zero_le _⟩

theorem row_of_mem_parse {source : Bytes} {n : Node} (hn : n ∈ subtrees (parse source).1) :
    n.row = lineBreaks (source.take n.start) := by
  rw [(counted_parse source n hn).1]
  exact getD_rowTable (start_le_length_of_mem_parse hn)

end Syntax.Node

namespace Sketch

/-- A sketch is read from its source, or from a class around the source without its imports. -/
theorem root_read (source : Bytes) :
    (read source).root = (Node.parse (read source).source).1 ∧
      ((read source).isWrapped = false →
        (read source).source = source ∧ (read source).offset = 0) ∧
      ((read source).isWrapped = true →
        (read source).source =
            wrapperHead ++ blankImports source (read source).imports ++ wrapperTail ∧
          (read source).offset = wrapperHead.length ∧ (read source).mode = .active) := by
  have hhead : decide (0 < wrapperHead.length) = true := by decide
  -- a sketch is read as it is where that goes without an error, and where nothing better is found
  have hplain {s : Sketch} (h : s.offset = 0) : s.isWrapped ≠ true := by
    rw [isWrapped, h]
    decide
  unfold read
  rcases hraw : Node.parse source with ⟨root, hasError⟩
  cases hasError with
  | false =>
    refine ⟨?_, fun _ => ⟨rfl, rfl⟩, fun hw => absurd hw (hplain rfl)⟩
    simp only [Bool.false_eq_true, ↓reduceIte, hraw]
  | true =>
    dsimp only
    rcases hwrapped : Node.parse (wrapperHead ++ blankImports source (findImports source root) ++
      wrapperTail) with ⟨root', hasError'⟩
    cases hasError' with
    | false =>
      refine ⟨?_, fun hw => ?_, fun _ => ⟨rfl, rfl, rfl⟩⟩
      · simp only [Bool.false_eq_true, ↓reduceIte, hwrapped]
      · have hw : decide (0 < wrapperHead.length) = false := hw
        rw [hhead] at hw
        cases hw
    | true =>
      refine ⟨?_, fun _ => ⟨rfl, rfl⟩, fun hw => absurd hw (hplain rfl)⟩
      simp only [↓reduceIte, hraw]

theorem start_le_stop_of_mem_read {source : Bytes} {n : Node}
    (hn : n ∈ subtrees (read source).root) : n.start ≤ n.stop := by
  rw [(root_read source).1] at hn
  exact (Node.counted_parse _ n hn).2

def ofWrapped (wrapped : Bytes) : Sketch :=
  { root := (Node.parse wrapped).1, source := wrapped, mode := .active,
    offset := wrapperHead.length }

theorem read_eq_of_imports {source wrapped : Bytes} {imports : List Import}
    (hraw : (Node.parse source).2 = true ∧ findImports source (Node.parse source).1 = imports)
    (hwrapped : wrapped = wrapperHead ++ blankImports source imports ++ wrapperTail)
    (hclean : (Node.parse wrapped).2 = false) :
    read source = { ofWrapped wrapped with imports } := by
  obtain ⟨herror, rfl⟩ := hraw
  unfold read
  simp only [herror, ↓reduceIte, ← hwrapped, hclean, Bool.false_eq_true]
  rfl

theorem read_eq_ofWrapped {source wrapped : Bytes}
    (hraw : (Node.parse source).2 = true ∧ findImports source (Node.parse source).1 = [])
    (hwrapped : wrapped = wrapperHead ++ source ++ wrapperTail)
    (hclean : (Node.parse wrapped).2 = false) : read source = ofWrapped wrapped :=
  read_eq_of_imports hraw hwrapped hclean

/-- The text of a sketch that its tree shows: imports are blanked out if it was read inside a
class. -/
def shown (s : Sketch) (source : Bytes) : Bytes :=
  if s.isWrapped then blankImports source s.imports else source

def InImport (imports : List Import) (i : Nat) : Prop := ∃ m ∈ imports, m.start ≤ i ∧ i < m.stop

theorem not_inImport_of_apart {imports : List Import} {start stop i : Nat}
    (h : ∀ m ∈ imports, m.stop ≤ start ∨ stop ≤ m.start) (hlow : start ≤ i) (hhigh : i < stop) :
    ¬InImport imports i := by
  rintro ⟨m, hm, hmstart, hmstop⟩
  have := h m hm
  omega

theorem getElem?_blank {s : Bytes} {start stop i : Nat} (h : start ≤ stop) (hi : i < s.length) :
    i < (blank s start stop).length ∧
      (blank s start stop)[i]? = if start ≤ i ∧ i < stop then some 32 else s[i]? := by
  have htake : (s.take start).length = min start s.length := List.length_take
  have hfront : (s.take start ++ List.replicate (stop - start) (32 : UInt8)).length =
      min start s.length + (stop - start) := by
    rw [List.length_append, htake, List.length_replicate]
  constructor
  · rw [blank, List.length_append, hfront, List.length_drop]
    omega
  · unfold blank
    by_cases hlow : i < start
    · rw [if_neg (by omega), List.getElem?_append_left (by omega),
        List.getElem?_append_left (by omega), List.getElem?_take_of_lt hlow]
    by_cases hhigh : i < stop
    · rw [if_pos ⟨by omega, hhigh⟩, List.getElem?_append_left (by omega),
        List.getElem?_append_right (by omega), List.getElem?_replicate, if_pos (by omega)]
    · rw [if_neg (by omega), List.getElem?_append_right (by omega), List.getElem?_drop, hfront]
      congr 1
      omega

theorem getElem?_blankImports {imports : List Import} (h : ∀ m ∈ imports, m.start ≤ m.stop)
    {source : Bytes} {i : Nat} (hi : i < source.length) :
    (InImport imports i → (blankImports source imports)[i]? = some 32) ∧
      (¬InImport imports i → (blankImports source imports)[i]? = source[i]?) := by
  unfold blankImports
  -- a byte that is blank stays blank, so the order of the imports is of no account
  have hblank (ms : List Import) (hms : ∀ m ∈ ms, m.start ≤ m.stop) (s : Bytes)
      (hs : i < s.length) :
      (s[i]? = some 32 ∨ InImport ms i →
          (ms.foldl (fun s m => blank s m.start m.stop) s)[i]? = some 32) ∧
        (¬InImport ms i → (ms.foldl (fun s m => blank s m.start m.stop) s)[i]? = s[i]?) := by
    induction ms generalizing s with
    | nil =>
      constructor
      · rintro (hs | ⟨m, hm, -⟩)
        · exact hs
        · cases hm
      · intro _
        rfl
    | cons m ms ih =>
      obtain ⟨hlength, hget⟩ := getElem?_blank (hms m List.mem_cons_self) hs
      obtain ⟨hin, hout⟩ := ih (fun m hm => hms m (List.mem_cons_of_mem _ hm)) _ hlength
      rw [List.foldl_cons]
      constructor
      · intro hcases
        apply hin
        by_cases hm : m.start ≤ i ∧ i < m.stop
        · rw [hget, if_pos hm]
          exact .inl rfl
        · rw [hget, if_neg hm]
          rcases hcases with hs | ⟨m', hm', hspan⟩
          · exact .inl hs
          · rcases List.mem_cons.mp hm' with rfl | hm'
            · exact absurd hspan hm
            · exact .inr ⟨m', hm', hspan⟩
      · intro hnone
        have hm : ¬(m.start ≤ i ∧ i < m.stop) := fun hm => hnone ⟨m, List.mem_cons_self, hm⟩
        rw [hout fun ⟨m', hm', hspan⟩ => hnone ⟨m', List.mem_cons_of_mem _ hm', hspan⟩, hget,
          if_neg hm]
  obtain ⟨hin, hout⟩ := hblank imports h source hi
  exact ⟨fun hmem => hin (.inr hmem), hout⟩

theorem length_le_blankImports {imports : List Import} (h : ∀ m ∈ imports, m.start ≤ m.stop)
    (source : Bytes) : source.length ≤ (blankImports source imports).length := by
  by_contra hlt
  have hi : (blankImports source imports).length < source.length := by omega
  obtain ⟨hin, hout⟩ := getElem?_blankImports h hi
  have hnone := List.getElem?_eq_none (Nat.le_refl (blankImports source imports).length)
  by_cases hm : InImport imports (blankImports source imports).length
  · rw [hin hm] at hnone
    cases hnone
  · rw [hout hm, List.getElem?_eq_getElem hi] at hnone
    cases hnone

theorem start_le_stop_of_mem_imports (source : Bytes) :
    ∀ m ∈ (read source).imports, m.start ≤ m.stop := by
  intro m hm
  rw [(imports_read source).1] at hm
  obtain ⟨c, hc, hm⟩ := List.mem_flatMap.mp hm
  have hc : c ∈ (Node.parse source).1.children := (List.mem_filter.mp hc).1
  obtain ⟨n, hn, rfl⟩ := List.mem_map.mp hm
  have hn := (List.mem_filter.mp hn).1
  have hsub : n ∈ subtrees (Node.parse source).1 := by
    apply subtrees_subset hc
    split_ifs at hn
    · exact subtrees_subset (List.mem_filter.mp hn).1 (self_mem_subtrees n)
    · rw [List.mem_singleton.mp hn]
      exact self_mem_subtrees c
  exact (Node.counted_parse source n hsub).2

theorem getElem?_source {source : Bytes} (hw : (read source).isWrapped = true) {i : Nat}
    (hi : i < source.length) : (read source).source[(read source).offset + i]? =
      (blankImports source (read source).imports)[i]? := by
  obtain ⟨-, -, hwrapped⟩ := root_read source
  obtain ⟨hsource, hoffset, -⟩ := hwrapped hw
  have hlength := length_le_blankImports (start_le_stop_of_mem_imports source) source
  rw [hsource, hoffset, List.append_assoc, List.getElem?_append_right (Nat.le_add_right _ _),
    Nat.add_sub_cancel_left, List.getElem?_append_left (by omega)]

theorem lineBreaks_take_source (source : Bytes) {n : Nat}
    (h : (read source).ownOffset n ≤ source.length) :
    lineBreaks ((read source).source.take n) =
      lineBreaks (((read source).shown source).take ((read source).ownOffset n).toNat) := by
  obtain ⟨-, hplain, hwrapped⟩ := root_read source
  unfold ownOffset at h ⊢
  unfold shown
  cases hw : (read source).isWrapped with
  | false =>
    obtain ⟨hsource, hoffset⟩ := hplain hw
    rw [hoffset] at h ⊢
    have hn : ((n : Int) - (0 : Nat)).toNat = n := by omega
    rw [hsource, hn]
    rfl
  | true =>
    obtain ⟨hsource, hoffset, -⟩ := hwrapped hw
    have hlength := length_le_blankImports (start_le_stop_of_mem_imports source) source
    rw [hoffset] at h ⊢
    have hn : ((n : Int) - wrapperHead.length).toNat = n - wrapperHead.length := by omega
    -- no line ends in front of the sketch, and nothing behind it is looked at
    have hhead : lineBreaks (wrapperHead.take n) = 0 := by
      apply List.count_eq_zero.mpr
      intro hmem
      exact length_wrapperHead.2 (List.mem_of_mem_take hmem)
    have htail : n - (wrapperHead ++ blankImports source (read source).imports).length = 0 := by
      rw [List.length_append]
      omega
    rw [hsource, hn, if_pos rfl, List.take_append, List.take_append, htail, List.take_zero,
      List.append_nil, lineBreaks_append, hhead, Nat.zero_add]

/-- Up to any byte, what is shown has the lines of the source exactly if none of them ends within a
blanked import. -/
theorem lineBreaks_shown (source : Bytes) {i : Nat} (hi : i ≤ source.length) :
    let s := read source
    lineBreaks ((s.shown source).take i) = lineBreaks (source.take i) ↔
      (s.isWrapped = true → ∀ j < i, InImport s.imports j → source[j]? ≠ some 10) := by
  intro s
  unfold shown
  split_ifs with hw
  · -- blanking never adds a line, so one that is lost is not made up for further down
    have hstep : lineBreaks ((blankImports source s.imports).take i) ≤ lineBreaks (source.take i) ∧
        (lineBreaks ((blankImports source s.imports).take i) = lineBreaks (source.take i) ↔
          ∀ j < i, InImport s.imports j → source[j]? ≠ some 10) := by
      induction i with
      | zero => simp
      | succ i ih =>
        obtain ⟨hle, hiff⟩ := ih (by omega)
        obtain ⟨hin, hout⟩ := getElem?_blankImports (start_le_stop_of_mem_imports source)
          (show i < source.length by omega)
        have hall : (∀ j < i + 1, InImport s.imports j → source[j]? ≠ some 10) ↔
            (∀ j < i, InImport s.imports j → source[j]? ≠ some 10) ∧
              (InImport s.imports i → source[i]? ≠ some 10) := by
          constructor
          · intro h
            exact ⟨fun j hj => h j (by omega), h i (by omega)⟩
          · rintro ⟨hbelow, hat⟩ j hj
            rcases Nat.lt_succ_iff_lt_or_eq.mp hj with hj | rfl
            · exact hbelow j hj
            · exact hat
        rw [lineBreaks_take_succ, lineBreaks_take_succ, hall, ← hiff]
        by_cases hm : InImport s.imports i
        · have h32 : ¬(some (32 : UInt8) = some 10) := by decide
          rw [hin hm, if_neg h32]
          split_ifs with h10
          · refine ⟨by omega, fun h => by omega, fun h => ?_⟩
            exact absurd h10 (h.2 hm)
          · refine ⟨by omega, fun h => ⟨by omega, fun _ => h10⟩, fun h => ?_⟩
            exact congrArg (· + 0) h.1
        · rw [hout hm]
          refine ⟨by omega, fun h => ⟨by omega, fun h => absurd h hm⟩, fun h => ?_⟩
          exact congrArg (· + _) h.1
    rw [hstep.2]
    exact ⟨fun h _ => h, fun h => h hw⟩
  · exact ⟨fun _ h => absurd h hw, fun _ => rfl⟩

end Sketch

theorem mem_subtrees_of_walk {root : Node} {v : Visited} (hv : v ∈ walk root) :
    v.node ∈ subtrees root := by
  rw [subtrees, ← walk_eq_preorder]
  exact List.mem_map_of_mem hv

theorem Sketch.row_of_mem_walk {source : Bytes} {v : Visited}
    (hv : v ∈ walk (Sketch.read source).root)
    (h : (Sketch.read source).ownOffset v.node.start ≤ source.length) :
    v.node.row = lineBreaks (((Sketch.read source).shown source).take
      ((Sketch.read source).ownOffset v.node.start).toNat) := by
  have hmem := mem_subtrees_of_walk hv
  rw [(root_read source).1] at hmem
  rw [Node.row_of_mem_parse hmem, lineBreaks_take_source source h]

open Sketch in
/-- The line of a call is counted in the text that the tree of the sketch shows. So it is the line of
the call in the sketch exactly if no line ends within an import that is blanked out in front of the
call. -/
theorem line_of_mem_callsOf (source : Bytes) (entryMethod : String) (c : Call)
    (hc : c ∈ callsOf (Sketch.read source) entryMethod)
    (hinside : (Sketch.read source).isWrapped = true → c.site.start ≤ source.length) :
    let s := Sketch.read source
    c.site.line = 1 + lineBreaks ((s.shown source).take c.site.start.toNat) ∧
      (c.site.line = 1 + lineBreaks (source.take c.site.start.toNat) ↔
        (s.isWrapped = true → ∀ j : Nat, j < c.site.start → InImport s.imports j →
          source[j]? ≠ some 10)) := by
  intro s
  obtain ⟨v, hv, hcall⟩ := List.mem_filterMap.mp hc
  obtain ⟨k, -, rfl⟩ := Option.map_eq_some_iff.mp hcall
  obtain ⟨start, hown⟩ : ∃ start, s.ownOffset v.node.start = start := ⟨_, rfl⟩
  have hsite : (callAt s entryMethod k v).site.start = start := hown
  have hstart : s.ownOffset v.node.start ≤ source.length := by
    cases hw : s.isWrapped with
    | true => exact hinside hw
    | false =>
      -- no node of a tree starts behind the text that it was built from
      obtain ⟨hroot, hplain, -⟩ := root_read source
      obtain ⟨hsource, hoffset⟩ := hplain hw
      have hmem := mem_subtrees_of_walk hv
      rw [hroot, hsource] at hmem
      have hle := start_le_length_of_mem_parse hmem
      unfold ownOffset
      rw [hoffset]
      omega
  have hnumber : (callAt s entryMethod k v).site.line = (v.node.row : Int) + 1 := rfl
  have hrow := Sketch.row_of_mem_walk hv hstart
  have hshown := lineBreaks_shown source (i := start.toNat) (by
    rw [hown] at hstart
    omega)
  rw [hown] at hrow
  rw [hsite, hnumber, hrow]
  refine ⟨Int.add_comm _ _, ?_⟩
  constructor
  · intro h hw j hj
    exact hshown.mp (by omega) hw j (by omega)
  · intro h
    rw [hshown.mpr fun hw j hj => h hw j (by omega)]
    exact Int.add_comm _ _

/-- The size of a sketch is reported on the line behind the import. -/
theorem line_of_mem_callsOf_second_line :
    let source := Utf8.encode "import a;\nsize(1,2);"
    ∃ c ∈ callsOf (Sketch.read source) "setup", c.site.start = 10 ∧
      lineBreaks (source.take 10) = 1 ∧ c.site.line = 2 := by
  intro source
  have hrun : (Sketch.read source).isWrapped = false ∧
      (callsOf (Sketch.read source) "setup").map (·.site.start) = [10] := by
    decide +kernel
  obtain ⟨hplain, hstarts⟩ := hrun
  obtain ⟨c, hc, hstart⟩ : ∃ c ∈ callsOf (Sketch.read source) "setup", c.site.start = 10 := by
    apply List.mem_map.mp
    rw [hstarts]
    exact List.mem_singleton_self _
  have hbreaks : lineBreaks (source.take 10) = 1 := by decide
  have hunwrapped : (Sketch.read source).isWrapped ≠ true := by
    rw [hplain]
    decide
  obtain ⟨-, hiff⟩ := line_of_mem_callsOf source "setup" c hc fun hw => absurd hw hunwrapped
  have hline := hiff.mpr fun hw => absurd hw hunwrapped
  rw [hstart] at hline
  have htake : lineBreaks (source.take (10 : Int).toNat) = 1 := hbreaks
  rw [htake] at hline
  exact ⟨c, hc, hstart, hbreaks, hline⟩

/-- A sketch with an import on two lines and a constructor, which may only stand in a class. -/
def brokenImport : Bytes := Utf8.encode "import a\n;static B(){size();}"

theorem parse_brokenImport : (Node.parse brokenImport).2 = true ∧
    Sketch.findImports brokenImport (Node.parse brokenImport).1 = [⟨0, 10, "import a\n;"⟩] := by
  decide +kernel

/-- Behind an import that is written on two lines, a call of a sketch that is read inside a class is
reported a line too early. -/
theorem broken_import_hides_line :
    ∃ c ∈ callsOf (Sketch.read brokenImport) "setup", c.site.start = 21 ∧
      c.site.line ≠ 1 + lineBreaks (brokenImport.take c.site.start.toNat) := by
  obtain ⟨wrapped, hwrapped⟩ : ∃ wrapped, wrapped =
    Sketch.wrapperHead ++ Utf8.encode "          static B(){size();}" ++ Sketch.wrapperTail := ⟨_, rfl⟩
  have hrun : (Node.parse wrapped).2 = false ∧ ∃ c ∈ callsOf
      { Sketch.ofWrapped wrapped with imports := [⟨0, 10, "import a\n;"⟩] } "setup",
        c.site.start = 21 ∧
          c.site.line ≠ 1 + lineBreaks (brokenImport.take c.site.start.toNat) := by
    rw [hwrapped]
    decide +kernel
  have hblank : wrapped = Sketch.wrapperHead ++
      Sketch.blankImports brokenImport [⟨0, 10, "import a\n;"⟩] ++ Sketch.wrapperTail := by
    rw [hwrapped]
    decide
  rw [Sketch.read_eq_of_imports parse_brokenImport hblank hrun.1]
  exact hrun.2

end Sketchbook
