import Sketchbook.Proofs.Boundary

namespace Sketchbook

open Sketchbook.Syntax (Node)
open Sketchbook.Settings Sketchbook.Editing Sketchbook.Text Sketchbook.Text.Utf8

namespace Text.Utf8

theorem exists_encode_of_between {t opener closer : String} {front stretch back : Bytes}
    (h : encode t = front ++ (encode opener ++ stretch ++ encode closer) ++ back)
    (hopener : ∃ b ∈ (encode opener).head?, ¬Continues b)
    (hcloser : ∃ b ∈ (encode closer).head?, ¬Continues b) : ∃ u, stretch = encode u := by
  have hhead {u : String} {rest : Bytes} (hu : ∃ b ∈ (encode u).head?, ¬Continues b) :
      ∀ b ∈ (encode u ++ rest).head?, ¬Continues b := by
    obtain ⟨b, hb, hnot⟩ := hu
    intro x hx
    rw [List.head?_append, Option.mem_def.mp hb] at hx
    obtain rfl := Option.some.inj hx
    exact hnot
  have hsplit : encode t = front ++ (encode opener ++ (stretch ++ (encode closer ++ back))) := by
    rw [h]
    simp only [List.append_assoc]
  -- cut in front of the opening text, take that off, and cut in front of the closing one
  obtain ⟨-, v, hv⟩ := exists_encode_of_append hsplit (hhead hopener)
  rw [encode_eq_flatMap opener, encode_eq_flatMap v] at hv
  obtain ⟨ds, hrest⟩ := exists_flatMap_of_append hv.symm
  rw [← encode_ofList] at hrest
  exact (exists_encode_of_append hrest.symm (hhead hcloser)).1

theorem readableWithin_flatMap (cs : List Char) {fuel : Nat}
    (h : (cs.flatMap String.utf8EncodeChar).length ≤ fuel) :
    readableWithin fuel (cs.flatMap String.utf8EncodeChar) = cs := by
  induction cs generalizing fuel with
  | nil => cases fuel <;> rfl
  | cons c cs ih =>
    obtain ⟨b, bs, hc, -⟩ := encodeChar_eq_cons c
    have hhead := head?_encodeChar c (cs.flatMap String.utf8EncodeChar)
    rw [List.flatMap_cons, List.length_append, hc, List.length_cons] at h
    rw [hc, List.cons_append] at hhead
    -- a character has a byte at least, so there is fuel left for the rest
    obtain ⟨fuel, rfl⟩ : ∃ n, fuel = n + 1 := ⟨fuel - 1, by omega⟩
    have hrest : readableWithin fuel (cs.flatMap String.utf8EncodeChar) = cs := ih (by omega)
    rw [List.flatMap_cons, hc, List.cons_append, readableWithin, hhead]
    dsimp only
    rw [← List.cons_append, List.drop_left, hrest]

theorem decodeLossy_encode (t : String) : decodeLossy (encode t) = t := by
  rw [decodeLossy, encode_eq_flatMap, readableWithin_flatMap _ (Nat.le_refl _), String.ofList_toList]

end Text.Utf8

namespace Wrap

def bytes (source : Bytes) (w : Wrap) : Bytes := Edit.slice source w.start.toNat w.stop.toNat

def enclosed (source : Bytes) (w : Wrap) : Bytes :=
  encode w.opener ++ w.bytes source ++ encode w.closer

/-- A text from a place on, with something in the place of each of some stretches. -/
def replace (f : Wrap → Bytes) (source : Bytes) : Nat → List Wrap → Bytes
  | p, [] => source.drop p
  | p, w :: ws => Edit.slice source p w.start.toNat ++ f w ++ replace f source w.stop.toNat ws

/-- Stretches that lie one behind the other in a text, from a place on. -/
structure Lined (p length : Nat) (ws : List Wrap) : Prop where
  solid : ∀ w ∈ ws, w.start < w.stop
  low : ∀ w ∈ ws, (p : Int) ≤ w.start
  high : ∀ w ∈ ws, w.stop ≤ length
  ordered : ws.Pairwise fun v w => v.stop ≤ w.start

variable {p length : Nat} {w : Wrap} {ws : List Wrap} {source : Bytes}

theorem Lined.tail (h : Lined p length (w :: ws)) : Lined w.stop.toNat length ws := by
  obtain ⟨hfirst, hordered⟩ := List.pairwise_cons.mp h.ordered
  have hsolid := h.solid w List.mem_cons_self
  have hlow := h.low w List.mem_cons_self
  exact
    { solid := fun v hv => h.solid v (List.mem_cons_of_mem w hv)
      low := fun v hv => by
        have := hfirst v hv
        omega
      high := fun v hv => h.high v (List.mem_cons_of_mem w hv)
      ordered := hordered }

instance : Std.Symm Apart := ⟨fun _ _ => Apart.symm⟩

theorem replace_bytes (h : Lined p source.length ws) :
    replace (bytes source) source p ws = source.drop p := by
  induction ws generalizing p with
  | nil => rfl
  | cons w ws ih =>
    have hsolid := h.solid w List.mem_cons_self
    have hlow := h.low w List.mem_cons_self
    have hskip {i j : Nat} (hij : i ≤ j) : source.drop j = (source.drop i).drop (j - i) := by
      rw [List.drop_drop]
      congr 1
      omega
    rw [replace, ih h.tail, bytes, Edit.slice, Edit.slice, List.append_assoc,
      hskip (i := w.start.toNat) (j := w.stop.toNat) (by omega), List.take_append_drop,
      hskip (i := p) (j := w.start.toNat) (by omega), List.take_append_drop]

theorem apply_edits (h : Lined p source.length ws) :
    Edit.apply source.length (ws.flatMap edits) p (source.drop p) =
      .ok (replace (enclosed source) source p ws) := by
  induction ws generalizing p with
  | nil => rfl
  | cons w ws ih =>
    have hsolid := h.solid w List.mem_cons_self
    have hlow := h.low w List.mem_cons_self
    have hhigh := h.high w List.mem_cons_self
    have hmiddle : (source.drop p).drop (w.start.toNat - p) = source.drop w.start.toNat := by
      rw [List.drop_drop]
      congr 1
      omega
    have hrest : (source.drop w.start.toNat).drop (w.stop.toNat - w.start.toNat) =
        source.drop w.stop.toNat := by
      rw [List.drop_drop]
      congr 1
      omega
    have hopen : ¬(w.start < 0 ∨ (source.length : Int) < w.start) := by omega
    have hclose : ¬(w.stop < 0 ∨ (source.length : Int) < w.stop) := by omega
    -- the opening edit copies up to the stretch, the closing one the stretch itself
    rw [List.flatMap_cons, edits, List.cons_append, List.cons_append, List.nil_append]
    simp only [Edit.apply, Edit.insertBefore, Edit.insertAfter, if_neg hopen, if_neg hclose, hmiddle,
      hrest, ih h.tail]
    rw [replace, enclosed, bytes, Edit.slice, Edit.slice]
    simp only [List.append_assoc]

theorem position_eq_of_precedes {a b : Edit} (hab : Edit.precedes a b = true)
    (hba : Edit.precedes b a = true) : a.position = b.position ∧ a.side = b.side := by
  rw [Edit.precedes_iff] at hab hba
  cases ha : a.side <;> cases hb : b.side <;> simp [ha, hb] at hab hba ⊢ <;> omega

theorem pairwise_edits (h : Lined p length ws) :
    (ws.flatMap edits).Pairwise fun a b => Edit.precedes a b = true := by
  refine List.pairwise_flatMap.mpr ⟨fun w hw => ?_, h.ordered.imp_of_mem ?_⟩
  · have hsolid := h.solid w hw
    refine List.pairwise_pair.mpr ?_
    rw [Edit.precedes_iff]
    exact .inl hsolid
  · intro v w hv hw hvw a ha b hb
    have hvsolid := h.solid v hv
    have hwsolid := h.solid w hw
    rw [Edit.precedes_iff]
    simp only [edits, List.mem_cons, List.not_mem_nil, or_false] at ha hb
    rcases ha with rfl | rfl <;> rcases hb with rfl | rfl <;>
      simp [Edit.insertBefore, Edit.insertAfter] <;> omega

/-- Edits that put stretches between their texts are made in the order of the stretches, however
they are given. -/
theorem sort_edits (h : Lined p length ws) {es : List Edit} (hes : es.Perm (ws.flatMap edits)) :
    Edit.sort es = ws.flatMap edits := by
  -- two sorted lists of the same edits are one if no two edits are made at the same place
  have hperm := (Edit.perm_sort es).trans hes
  refine List.Perm.eq_of_pairwise ?_ (Edit.pairwise_sort es) (pairwise_edits h) hperm
  intro a b ha hb hab hba
  obtain ⟨hposition, hside⟩ := position_eq_of_precedes hab hba
  obtain ⟨v, hv, ha⟩ := List.mem_flatMap.mp (hperm.mem_iff.mp ha)
  obtain ⟨w, hw, hb⟩ := List.mem_flatMap.mp hb
  have hvsolid := h.solid v hv
  have hwsolid := h.solid w hw
  -- two stretches do not open or close at one place, as they span bytes and do not overlap
  have hsame : v = w := by
    by_contra hne
    have hpairs : ws.Pairwise Apart := h.ordered.imp Or.inl
    have hapart : v.Apart w := hpairs.forall hv hw hne
    simp only [edits, List.mem_cons, List.not_mem_nil, or_false] at ha hb
    rcases ha with rfl | rfl <;> rcases hb with rfl | rfl <;>
      simp [Edit.insertBefore, Edit.insertAfter] at hposition hside <;>
      rcases hapart with hle | hle <;> omega
  subst hsame
  simp only [edits, List.mem_cons, List.not_mem_nil, or_false] at ha hb
  rcases ha with rfl | rfl <;> rcases hb with rfl | rfl
  · rfl
  · cases hside
  · cases hside
  · rfl

theorem apply_sort_edits (h : Lined 0 source.length ws) {es : List Edit}
    (hes : es.Perm (ws.flatMap edits)) :
    Edit.apply source.length (Edit.sort es) 0 source =
      .ok (replace (enclosed source) source 0 ws) := by
  have happly := apply_edits h
  rw [List.drop_zero] at happly
  rw [sort_edits h hes, happly]

theorem merge_eq_replace (h : Lined 0 source.length ws) {es : List Edit}
    (hes : es.Perm (ws.flatMap edits)) :
    Edit.merge es source = replace (enclosed source) source 0 ws := by
  have happly := apply_sort_edits h hes
  have hinside := Edit.inside_of_apply happly
  have hmerge := Edit.apply_sort fun e he => hinside e ((Edit.perm_sort es).mem_iff.mpr he)
  exact Except.ok.inj (hmerge.symm.trans happly)

theorem exists_ordered {vs : List Wrap} (hapart : vs.Pairwise Apart)
    (hsolid : ∀ w ∈ vs, w.start < w.stop) :
    ∃ ws : List Wrap, ws.Perm vs ∧ ws.Pairwise fun v w => v.stop ≤ w.start := by
  refine ⟨vs.mergeSort fun v w => decide (v.start ≤ w.start), List.mergeSort_perm _ _, ?_⟩
  have hsorted : (vs.mergeSort fun v w => decide (v.start ≤ w.start)).Pairwise
      fun v w => decide (v.start ≤ w.start) = true := by
    apply List.pairwise_mergeSort
    · intro u v w huv hvw
      rw [decide_eq_true_eq] at huv hvw ⊢
      exact Int.le_trans huv hvw
    · intro v w
      rw [Bool.or_eq_true, decide_eq_true_eq, decide_eq_true_eq]
      exact Int.le_total _ _
  have hperm := List.mergeSort_perm vs fun v w => decide (v.start ≤ w.start)
  have happart := (hperm.pairwise_iff Apart.symm).mpr hapart
  -- of two that do not overlap, the one that starts first ends before the other starts
  refine (hsorted.and happart).imp_of_mem ?_
  rintro v w hv hw ⟨hle, hvw⟩
  rw [decide_eq_true_eq] at hle
  have hwsolid := hsolid w (hperm.mem_iff.mp hw)
  rcases hvw with hvw | hvw
  · exact hvw
  · have hvsolid := hsolid v (hperm.mem_iff.mp hv)
    omega

theorem exists_replace_eq (f : Wrap → Bytes) (source : Bytes) (p : Nat) (hw : w ∈ ws) :
    ∃ front back, replace f source p ws = front ++ f w ++ back := by
  induction ws generalizing p with
  | nil => cases hw
  | cons v ws ih =>
    rw [replace]
    rcases List.mem_cons.mp hw with rfl | hw
    · exact ⟨_, _, rfl⟩
    · obtain ⟨front, back, heq⟩ := ih v.stop.toNat hw
      refine ⟨Edit.slice source p v.start.toNat ++ f v ++ front, back, ?_⟩
      rw [heq]
      simp only [List.append_assoc]

end Wrap

/-- A text with edits that put stretches between their texts is the text with these stretches
replaced. -/
theorem encode_render_edits {source : Bytes} {ws : List Wrap} {edits : List Edit} {body : String}
    (hrender : render source edits = .ok body) (hes : edits.Perm (ws.flatMap Wrap.edits))
    (hsolid : ∀ w ∈ ws, w.start < w.stop) (hordered : ws.Pairwise fun v w => v.stop ≤ w.start) :
    Wrap.Lined 0 source.length ws ∧
      encode body = Wrap.replace (Wrap.enclosed source) source 0 ws := by
  obtain ⟨-, hinside⟩ := encode_render hrender
  have hmem {w : Wrap} (hw : w ∈ ws) {e : Edit} (he : e ∈ w.edits) : e ∈ edits :=
    hes.mem_iff.mpr (List.mem_flatMap.mpr ⟨w, hw, he⟩)
  have hlined : Wrap.Lined 0 source.length ws :=
    { solid := hsolid
      low := fun w hw => (hinside _ (hmem hw List.mem_cons_self)).1
      high := fun w hw => (hinside _ (hmem hw (List.mem_cons_of_mem _ List.mem_cons_self))).2
      ordered := hordered }
  refine ⟨hlined, ?_⟩
  unfold render at hrender
  rw [Wrap.apply_sort_edits hlined hes] at hrender
  dsimp only at hrender
  split at hrender
  · rename_i t ht
    cases hrender
    exact encode_of_decode? ht
  · cases hrender

namespace Sketch

theorem text_of_mem_findImports {source : Bytes} {root : Node} {i : Import}
    (h : i ∈ findImports source root) :
    i.text = decodeLossy (Edit.slice source i.start i.stop) := by
  obtain ⟨top, -, hi⟩ := List.mem_flatMap.mp h
  obtain ⟨n, -, rfl⟩ := List.mem_map.mp hi
  rfl

end Sketch

namespace Generate

variable {c : Config} {name package : String} {s : Sketch}

theorem header_eq_of_ne (hj : s.mode ≠ .java) :
    header c name package s = [preamble, "package " ++ package ++ ";", ""] ++
      (c.coreImports ++ c.defaultImports ++ c.extraImports).map (fun i => "import " ++ i ++ ";") ++
      s.imports.map (·.text) ++
      ("" :: ("public class " ++ name ++ " extends PApplet \x7b") ::
        if s.mode = .static then [pad c 1 ++ "public void setup() \x7b"] else []) := by
  rw [header, if_neg hj, if_neg hj, Config.imports]
  simp only [List.append_assoc, List.cons_append, List.nil_append]

theorem header_eq_of_java (hj : s.mode = .java) :
    header c name package s = [preamble, "package " ++ package ++ ";", ""] ++
      (c.coreImports ++ c.defaultImports ++ c.extraImports).map (fun i => "import " ++ i ++ ";") ++
      [""] := by
  have hstatic : s.mode ≠ .static := by
    rw [hj]
    exact nofun
  rw [header, if_pos hj, if_pos hj, if_neg hstatic, Config.imports]
  simp only [List.append_nil]

end Generate

theorem not_moved_of_java {σ : Type} {report : σ → Warning → σ} {source : Bytes}
    {name package : String} {c : Config} {s : Sketch} {log log' : σ} {g : Generated}
    (h : Generate.assemble report source name package c s log = (.ok g, log'))
    (hj : s.mode = .java) :
    ∀ e ∈ g.edits, e.text ≠ Generate.movedOpen ∧ e.text ≠ Generate.movedClose := by
  intro e he
  rw [edits_eq h, wraps, if_pos hj, if_pos hj, List.append_nil, List.mem_append] at he
  rcases he with he | he
  · obtain ⟨w, hw, he⟩ := List.mem_flatMap.mp he
    obtain ⟨x, -, rfl⟩ := List.mem_map.mp hw
    simp only [Wrap.edits, List.mem_cons, List.not_mem_nil, or_false] at he
    rcases he with rfl | rfl
    · exact ⟨show Edit.commentOpen ≠ _ by decide, show Edit.commentOpen ≠ _ by decide⟩
    · exact ⟨show Edit.commentClose ≠ _ by decide, show Edit.commentClose ≠ _ by decide⟩
  · -- members begin on a new line
    have hline : ∃ rest, e.text.toList = '\n' :: rest := by
      unfold Generate.memberEdits at he
      split at he
      · split at he
        · dsimp only at he
          split_ifs at he with hempty
          · cases he
          · rw [List.mem_singleton.mp he]
            rcases toList_members (c := c) g.accessors (s.methodNames.contains "main") _ with
              hnil | hrest
            · exact absurd (String.toList_eq_nil_iff.mp hnil) hempty
            · exact hrest
        · cases he
      · cases he
    obtain ⟨rest, hrest⟩ := hline
    constructor
    · intro htext
      rw [htext] at hrest
      cases hrest
    · intro htext
      rw [htext] at hrest
      cases hrest

/-- The class file for a sketch that is no class of its own, and was read without one, is lines, the
sketch and a footer. The sketch stands in it byte for byte, but for the calls that are taken out and
the imports: these do not overlap, and each of them is put between its texts. The lines hold the
texts of the imports once, as they are and in their order, behind the configured ones. From a class
of its own no import is moved, and none is added to the configured ones. -/
theorem sketch_copied {σ : Type} (report : σ → Warning → σ) (name package : String) (c : Config)
    (s : Sketch) (log log' : σ) (g : Generated)
    (h : Generate.assemble report s.source name package c s log = (.ok g, log'))
    (hw : s.isWrapped = false) (horder : InOrder s.root)
    (himports : s.imports = Sketch.findImports s.source s.root)
    (hsolid : ∀ i ∈ s.imports, i.start < i.stop) :
    let configured := (c.coreImports ++ c.defaultImports ++ c.extraImports).map
      fun i => "import " ++ i ++ ";"
    let first := [Generate.preamble, "package " ++ package ++ ";", ""]
    (s.mode ≠ .java →
      (∃ ws body, ws.Perm ((liftedSites (callsOf s c.entryMethod)).map Wrap.ofSite ++
          s.imports.map Wrap.ofImport) ∧
        ws.Pairwise (fun v w => v.stop ≤ w.start) ∧
        Wrap.replace (Wrap.bytes s.source) s.source 0 ws = s.source ∧
        encode body = Wrap.replace (Wrap.enclosed s.source) s.source 0 ws ∧
        g.code = "\n".intercalate (Generate.header c name package s) ++ "\n" ++ body ++
          Generate.footer c s.mode g.accessors (s.methodNames.contains "main") name) ∧
      Generate.header c name package s = first ++ configured ++ s.imports.map (·.text) ++
        ("" :: ("public class " ++ name ++ " extends PApplet \x7b") ::
          if s.mode = .static then [Generate.pad c 1 ++ "public void setup() \x7b"] else []) ∧
      (s.imports.Pairwise fun i j => i.stop ≤ j.start) ∧
      ∀ i ∈ s.imports, encode i.text = Edit.slice s.source i.start i.stop) ∧
    (s.mode = .java →
      (∀ e ∈ g.edits, e.text ≠ Generate.movedOpen ∧ e.text ≠ Generate.movedClose) ∧
      Generate.header c name package s = first ++ configured ++ [""]) := by
  intro configured first
  refine ⟨fun hj => ?_, fun hj => ⟨not_moved_of_java h hj, Generate.header_eq_of_java hj⟩⟩
  obtain ⟨found, body, -, hrender, -, hcode, -⟩ := assemble_eq_ok h
  have hinOrder : s.imports.Pairwise fun i j => i.stop ≤ j.start := by
    rw [himports]
    exact Sketch.pairwise_findImports s.source horder
  have hwraps : wraps s c.entryMethod = (liftedSites (callsOf s c.entryMethod)).map Wrap.ofSite ++
      s.imports.map Wrap.ofImport := by
    rw [wraps, if_neg hj]
  -- calls and imports do not overlap, and none of them is empty, so they can be put in order
  have hapart : (wraps s c.entryMethod).Pairwise Wrap.Apart := by
    apply pairwise_wraps_of horder.laidOut hinOrder
    intro _ i hi d hd hscope
    rw [himports] at hi
    exact apart_of_mem_findImports horder hj hw hd hscope hi
  have hspan : ∀ w ∈ wraps s c.entryMethod, w.start < w.stop := by
    intro w hmem
    rw [hwraps] at hmem
    rcases List.mem_append.mp hmem with hmem | hmem
    · obtain ⟨x, hx, rfl⟩ := List.mem_map.mp hmem
      exact start_lt_stop_of_mem_liftedSites horder hx
    · obtain ⟨i, hi, rfl⟩ := List.mem_map.mp hmem
      exact Int.ofNat_lt.mpr (hsolid i hi)
  obtain ⟨ws, hperm, hordered⟩ := Wrap.exists_ordered hapart hspan
  have hedits : g.edits.Perm (ws.flatMap Wrap.edits) := by
    rw [edits_eq h, if_neg hj, List.append_nil]
    exact (hperm.flatMap_right _).symm
  obtain ⟨hlined, hbody⟩ := encode_render_edits hrender hedits
    (fun w hmem => hspan w (hperm.mem_iff.mp hmem)) hordered
  refine ⟨⟨ws, body, hwraps ▸ hperm, hordered, Wrap.replace_bytes hlined, hbody, ?_⟩,
    Generate.header_eq_of_ne hj, hinOrder, fun i hi => ?_⟩
  · rw [hcode, Generate.closing, if_neg hj]
  · -- between the texts around it an import is cut out of the body as a text
    have hmem : Wrap.ofImport i ∈ ws := by
      rw [hperm.mem_iff, hwraps]
      exact List.mem_append_right _ (List.mem_map_of_mem hi)
    obtain ⟨front, back, hsplit⟩ := Wrap.exists_replace_eq (Wrap.enclosed s.source) s.source 0 hmem
    rw [hsplit, Wrap.enclosed] at hbody
    have hopener : ∃ b ∈ (encode Generate.movedOpen).head?, ¬Continues b :=
      ⟨47, rfl, by decide⟩
    have hcloser : ∃ b ∈ (encode Generate.movedClose).head?, ¬Continues b :=
      ⟨32, rfl, by decide⟩
    obtain ⟨t, ht⟩ := exists_encode_of_between hbody hopener hcloser
    have hslice : Edit.slice s.source i.start i.stop = encode t := ht
    rw [himports] at hi
    rw [Sketch.text_of_mem_findImports hi, hslice, decodeLossy_encode]

def importedSketch : Sketch := Sketch.read (encode "import a.b;size(1,2);")

/-- Where the comment around an import ends, the one around a size begins. -/
theorem sketch_copied_imported :
    ∃ g log body,
      Generate.assemble (fun ws w => ws ++ [w]) importedSketch.source "Demo" "p" {} importedSketch
        [] = (.ok g, log) ∧
      importedSketch.isWrapped = false ∧ InOrder importedSketch.root ∧
      importedSketch.imports = Sketch.findImports importedSketch.source importedSketch.root ∧
      (∀ i ∈ importedSketch.imports, i.start < i.stop) ∧
      g.code = "\n".intercalate (Generate.header {} "Demo" "p" importedSketch) ++ "\n" ++ body ++
        Generate.footer {} importedSketch.mode g.accessors
          (importedSketch.methodNames.contains "main") "Demo" ∧
      encode body = encode ("/* moved to header: import a.b; */" ++
        "/* commented out by preprocessor: size(1,2) */ print(\"\");") := by
  have hread : importedSketch.isWrapped = false ∧ importedSketch.mode ≠ .java ∧
      importedSketch.imports = [⟨0, 11, "import a.b;"⟩] ∧
      importedSketch.imports = Sketch.findImports importedSketch.source importedSketch.root ∧
      liftedSites (callsOf importedSketch "setup") = [⟨.size, ["1", "2"], 11, 20, 1⟩] ∧
      (Generate.assemble (fun ws w => ws ++ [w]) importedSketch.source "Demo" "p" {} importedSketch
        []).1.isOk = true := by
    decide +kernel
  obtain ⟨hw, hmode, himports, hfind, hsites, hok⟩ := hread
  have horder : InOrder importedSketch.root := ⟨by decide +kernel, by decide +kernel⟩
  have hsolid : ∀ i ∈ importedSketch.imports, i.start < i.stop := by
    rw [himports]
    decide
  rcases hrun : Generate.assemble (fun ws w => ws ++ [w]) importedSketch.source "Demo" "p" {}
      importedSketch [] with ⟨e | g, log⟩
  · rw [hrun] at hok
    cases hok
  · obtain ⟨⟨⟨ws, body, hperm, hordered, -, hbody, hcode⟩, -⟩, -⟩ :=
      (sketch_copied _ "Demo" "p" {} importedSketch [] log g hrun hw horder hfind hsolid).imp_left
        fun hrest => hrest hmode
    refine ⟨g, log, body, rfl, hw, horder, hfind, hsolid, hcode, ?_⟩
    have hdefault : ({} : Config).entryMethod = "setup" := rfl
    rw [hdefault, hsites, himports] at hperm
    -- of the two orders there are, only one has the import in front
    have hws : ws = [Wrap.ofImport ⟨0, 11, "import a.b;"⟩,
        Wrap.ofSite ⟨.size, ["1", "2"], 11, 20, 1⟩] := by
      have hswap := hperm.trans (List.Perm.swap _ _ [])
      refine List.Perm.eq_of_pairwise ?_ hordered ?_ hswap
      · intro v w hv hw hvw hwv
        have hv := hswap.mem_iff.mp hv
        simp only [List.mem_cons, List.not_mem_nil, or_false] at hv hw
        rcases hv with rfl | rfl <;> rcases hw with rfl | rfl <;>
          simp [Wrap.ofImport, Wrap.ofSite] at hvw hwv ⊢
      · exact List.pairwise_pair.mpr (Int.le_refl 11)
    rw [hbody, hws]
    rfl

end Sketchbook
