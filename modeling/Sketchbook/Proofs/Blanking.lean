import Sketchbook.Proofs.Traversal
import Sketchbook.Proofs.Enclosing
import Sketchbook.Proofs.LineEnds

namespace Sketchbook

open Sketchbook.Syntax (Node)
open Sketchbook.Editing.Edit (slice slice_eq_slice_iff slice_eq_cons)
open Sketchbook.Settings Sketchbook.Text Sketchbook.Text.Utf8

section Heads

variable {xs : Bytes} {start stop : Nat}

theorem Text.Utf8.toList_decodeLossy_cons {b : UInt8} (h : b.toNat < 0x80) (bs : Bytes) :
    (decodeLossy (b :: bs)).toList = Char.ofNat b.toNat :: (decodeLossy bs).toList := by
  rw [decodeLossy, decodeLossy, String.toList_ofList, String.toList_ofList, List.length_cons,
    readableWithin, head?_ascii b bs h]
  rfl

/-- If a part that is not empty as a text begins with an ASCII byte, then this is its first
character. -/
theorem head_of_decodeLossy {c : Char} {cs : List Char}
    (h : (decodeLossy (slice xs start stop)).toList = c :: cs) :
    start < stop ∧ ∀ b ∈ xs[start]?, b.toNat < 0x80 →
      c.toNat = b.toNat ∧ (decodeLossy (slice xs (start + 1) stop)).toList = cs := by
  have hlt : start < stop := by
    by_contra hle
    have hzero : stop - start = 0 := by omega
    rw [slice, hzero, List.take_zero] at h
    cases h
  refine ⟨hlt, fun b hb hascii => ?_⟩
  rw [slice_eq_cons hlt hb, toList_decodeLossy_cons hascii] at h
  obtain ⟨rfl, hcs⟩ := List.cons.inj h
  exact ⟨val_toNat_ofNat (.inl (by omega)), hcs⟩

end Heads

namespace Sketch

variable {source blanked : Bytes} {imports : List Import} {start stop : Nat}

def ImportsWithin (imports : List Import) (length : Nat) : Prop :=
  ∀ m ∈ imports, m.start ≤ m.stop ∧ m.stop ≤ length

/-- A text with a blank for each byte of an import. -/
structure Blanked (source : Bytes) (imports : List Import) (blanked : Bytes) : Prop where
  length_eq : blanked.length = source.length
  within : ∀ i < source.length, InImport imports i → blanked[i]? = some 32
  outside : ∀ i < source.length, ¬InImport imports i → blanked[i]? = source[i]?

theorem blanked_blankImports (h : ImportsWithin imports source.length) :
    Blanked source imports (blankImports source imports) := by
  have hbytes {i : Nat} (hi : i < source.length) :=
    getElem?_blankImports (fun m hm => (h m hm).1) hi
  exact ⟨length_blankImports h, fun i hi => (hbytes hi).1, fun i hi => (hbytes hi).2⟩

/-- A part of a text is kept exactly if all its bytes that belong to imports are blanks anyway. -/
theorem Blanked.slice_eq_iff (h : Blanked source imports blanked) (hstop : stop ≤ source.length) :
    slice blanked start stop = slice source start stop ↔
      ∀ i, start ≤ i → i < stop → InImport imports i → source[i]? = some 32 := by
  rw [slice_eq_slice_iff]
  constructor
  · intro hsame i hlow hhigh hin
    rw [← hsame i hlow hhigh]
    exact h.within i (by omega) hin
  · intro hblank i hlow hhigh
    by_cases hin : InImport imports i
    · rw [h.within i (by omega) hin, hblank i hlow hhigh hin]
    · exact h.outside i (by omega) hin

/-- Where a node stands in the sketch that it is of, and what of it stands there. -/
structure StandsAt (s : Sketch) (source : Bytes) (n : Node) (start stop : Nat) : Prop where
  span : s.ownOffset n.start = start ∧ s.ownOffset n.stop = stop
  inside : start ≤ stop ∧ stop ≤ source.length
  blanked : slice s.source n.start n.stop = slice (blankImports source s.imports) start stop
  clear : (∀ m ∈ s.imports, m.stop ≤ start ∨ stop ≤ m.start) →
    slice s.source n.start n.stop = slice source start stop
  kept : slice s.source n.start n.stop = slice source start stop ↔
    ∀ i, start ≤ i → i < stop → InImport s.imports i → source[i]? = some 32

/-- A node of a sketch in a class that lies between head and tail of the class stands in the
sketch. -/
theorem exists_standsAt (hw : (read source).isWrapped = true) {n : Node}
    (hn : n ∈ subtrees (read source).root) (hstart : (read source).offset ≤ n.start)
    (hstop : n.stop ≤ (read source).offset + source.length) :
    ∃ start stop, StandsAt (read source) source n start stop := by
  have hspan := start_le_stop_of_mem_read hn
  have hblanked := blanked_blankImports (within_of_mem_imports source)
  obtain ⟨start, hfrom⟩ := Nat.exists_eq_add_of_le hstart
  obtain ⟨stop, hto⟩ := Nat.exists_eq_add_of_le (Nat.le_trans hstart hspan)
  have horder : start ≤ stop := by omega
  have hlength : stop ≤ source.length := by omega
  have hbytes : slice (read source).source n.start n.stop =
      slice (blankImports source (read source).imports) start stop := by
    rw [hfrom, hto, slice_source horder hlength, shown, if_pos hw]
  have hkept : slice (read source).source n.start n.stop = slice source start stop ↔
      ∀ i, start ≤ i → i < stop → InImport (read source).imports i → source[i]? = some 32 := by
    rw [hbytes]
    exact hblanked.slice_eq_iff hlength
  refine ⟨start, stop, ⟨?_, ?_⟩, ⟨horder, hlength⟩, hbytes, fun hclear => ?_, hkept⟩
  · unfold ownOffset
    omega
  · unfold ownOffset
    omega
  · exact hkept.mpr fun i hlow hhigh hin => absurd hin (not_inImport_of_apart hclear hlow hhigh)

def ClosedLast (s : Sketch) : Prop :=
  ∀ n ∈ subtrees s.root, n.kind = "method_invocation" → s.source[n.stop - 1]? = some 41

instance (s : Sketch) : Decidable (ClosedLast s) :=
  inferInstanceAs (Decidable (∀ n ∈ subtrees s.root, _ → s.source[n.stop - 1]? = some 41))

variable {s : Sketch} {length : Nat} {n : Node} {k : Setting}

theorem name_eq_cons (k : Setting) :
    ∃ c cs, k.name.toList = 's' :: c :: cs ∧ c.toNat ∈ ['i'.toNat, 'm'.toNat] := by
  cases k
  · exact ⟨'i', _, rfl, by decide⟩
  · exact ⟨'m', _, rfl, by decide⟩

theorem exists_slice_name (hfirst : NamedFirst s.root) (hn : n ∈ subtrees s.root)
    (hk : settingOf? s n = some k) :
    ∃ stop, decodeLossy (slice s.source n.start stop) = k.name := by
  obtain ⟨hkind, hplain, htext, -⟩ := settingOf?_eq_some_iff.mp hk
  obtain ⟨name, hname, -⟩ := exists_name_of_settingOf? hk
  have hstart := (hfirst n hn hkind hplain name hname).1
  rw [hname] at htext
  rw [← hstart]
  exact ⟨name.stop, htext⟩

theorem ne_blank_of_settingOf? (hfirst : NamedFirst s.root) (hn : n ∈ subtrees s.root)
    (hk : settingOf? s n = some k) : s.source[n.start]? ≠ some 32 := by
  intro hblank
  obtain ⟨c, cs, hletters, -⟩ := name_eq_cons k
  obtain ⟨stop, hname⟩ := exists_slice_name hfirst hn hk
  rw [← hname] at hletters
  have hs := ((head_of_decodeLossy hletters).2 32 hblank (by decide)).1
  exact absurd hs (by decide)

theorem Between.inside_of_settingOf? (h : s.Between length) (hfirst : NamedFirst s.root)
    (hlast : ClosedLast s) (hn : n ∈ subtrees s.root) (hk : settingOf? s n = some k) :
    s.offset ≤ n.start ∧ n.stop ≤ s.offset + length := by
  obtain ⟨⟨text, htext, hsource⟩, hoffset⟩ := h
  have hhead := length_wrapperHead.1
  constructor
  · by_contra hlt
    have hlt : n.start < 25 := by omega
    have hget {i : Nat} (hi : i < 25) : s.source[i]? = wrapperHead[i]? := by
      rw [hsource, List.append_assoc, List.getElem?_append_left (by omega)]
    -- no name begins in the head: it has none of the letters that stand second in a name, and it
    -- ends in a blank
    have hascii : ∀ i < 25, ∀ b ∈ wrapperHead[i]?, b.toNat < 0x80 := by
      decide +kernel
    have hsecond : ∀ i < 25, ∀ b ∈ wrapperHead[i]?, b.toNat ∉ ['i'.toNat, 'm'.toNat] := by
      decide +kernel
    have hend : wrapperHead[24]? = some 32 := by
      decide +kernel
    obtain ⟨c, cs, hletters, hc⟩ := name_eq_cons k
    obtain ⟨stop, hname⟩ := exists_slice_name hfirst hn hk
    rw [← hname] at hletters
    obtain ⟨b, hb⟩ : ∃ b, wrapperHead[n.start]? = some b :=
      ⟨_, List.getElem?_eq_getElem (by omega)⟩
    obtain ⟨-, hrest⟩ :=
      (head_of_decodeLossy hletters).2 b ((hget hlt).trans hb) (hascii n.start hlt b hb)
    have hlt' : n.start + 1 < 25 := by
      by_contra hge
      have hlast : n.start = 24 := by omega
      apply ne_blank_of_settingOf? hfirst hn hk
      rw [hget hlt, hlast, hend]
    obtain ⟨d, hd⟩ : ∃ d, wrapperHead[n.start + 1]? = some d :=
      ⟨_, List.getElem?_eq_getElem (by omega)⟩
    have hsame := ((head_of_decodeLossy hrest).2 d ((hget hlt').trans hd) (hascii _ hlt' d hd)).1
    exact hsecond _ hlt' d hd (hsame ▸ hc)
  · by_contra hgt
    have hparen := hlast n hn (kind_of_settingOf? hk)
    rw [hsource, List.getElem?_append_right (by rw [List.length_append]; omega)] at hparen
    have hmem : (41 : UInt8) ∈ wrapperTail := List.mem_of_getElem? hparen
    exact absurd hmem (by decide +kernel)

theorem getElem?_source_of_inImport (hw : (read source).isWrapped = true) {i : Nat}
    (hi : i < source.length) (hin : InImport (read source).imports i) :
    (read source).source[(read source).offset + i]? = some 32 := by
  rw [getElem?_source hw hi]
  exact (getElem?_blankImports (start_le_stop_of_mem_imports source) hi).1 hin

/-- An import stands apart from a call or between its first and its last byte, as these two are no
blanks. -/
theorem apart_or_between (hw : (read source).isWrapped = true)
    (hfirst : NamedFirst (read source).root) (hlast : ClosedLast (read source))
    (hn : n ∈ subtrees (read source).root) (hk : settingOf? (read source) n = some k)
    (h : StandsAt (read source) source n start stop) :
    ∀ m ∈ (read source).imports,
      m.stop ≤ start ∨ stop ≤ m.start ∨ start < m.start ∧ m.stop < stop := by
  intro m hm
  obtain ⟨⟨hstart, hstop⟩, ⟨horder, hlength⟩, -, -, -⟩ := h
  unfold ownOffset at hstart hstop
  have hwithin := within_of_mem_imports source m hm
  by_contra hcross
  by_cases hbegin : m.start ≤ start
  · have hblank := getElem?_source_of_inImport hw (i := start) (by omega) ⟨m, hm, hbegin, by omega⟩
    rw [show (read source).offset + start = n.start by omega] at hblank
    exact ne_blank_of_settingOf? hfirst hn hk hblank
  · have hblank := getElem?_source_of_inImport hw (i := stop - 1) (by omega)
      ⟨m, hm, by omega, by omega⟩
    rw [show (read source).offset + (stop - 1) = n.stop - 1 by omega,
      hlast n hn (kind_of_settingOf? hk)] at hblank
    exact absurd hblank (by decide)

end Sketch

open Sketch in
/-- Blanking out imports keeps the length of a text and puts a blank in the place of each of their
bytes, however they lie. So a node of a sketch that was read inside a class has the bytes that the
sketch has at the node's own place with the imports blanked out. These are the sketch's own bytes
exactly if each of them that belongs to an import is a blank, as it is if no import reaches into the
place. All calls that set something stand in the sketch in this way, and an import that reaches into
one lies between its first and its last byte. -/
theorem reads_as_blanked (source : Bytes) :
    (∀ imports, ImportsWithin imports source.length →
      Blanked source imports (blankImports source imports)) ∧
    let s := Sketch.read source
    (s.isWrapped = true →
      s.offset = 25 ∧ ImportsWithin s.imports source.length ∧
      (∀ n ∈ subtrees s.root, s.offset ≤ n.start → n.stop ≤ s.offset + source.length →
        ∃ start stop, StandsAt s source n start stop) ∧
      (NamedFirst s.root → ClosedLast s → ∀ (entryMethod : String), ∀ c ∈ callsOf s entryMethod,
        ∃ n ∈ subtrees s.root, ∃ start stop : Nat,
          settingOf? s n = some c.site.setting ∧ c.site.arguments = argumentTexts s n ∧
          c.site.start = start ∧ c.site.stop = stop ∧ StandsAt s source n start stop ∧
          ∀ m ∈ s.imports,
            m.stop ≤ start ∨ stop ≤ m.start ∨ start < m.start ∧ m.stop < stop)) := by
  refine ⟨fun imports h => blanked_blankImports h, fun hw => ?_⟩
  have hbetween := between_read hw
  refine ⟨hbetween.offset.trans length_wrapperHead.1, within_of_mem_imports source,
    fun n hn hstart hstop => exists_standsAt hw hn hstart hstop, ?_⟩
  intro hfirst hlast entryMethod c hc
  obtain ⟨v, hv, k, hk, rfl⟩ := exists_visited_of_mem_callsOf hc
  have hn := mem_subtrees_of_walk hv
  obtain ⟨hstart, hstop⟩ := hbetween.inside_of_settingOf? hfirst hlast hn hk
  obtain ⟨start, stop, hstands⟩ := exists_standsAt hw hn hstart hstop
  exact ⟨v.node, hn, start, stop, hk, rfl, hstands.span.1, hstands.span.2, hstands,
    apart_or_between hw hfirst hlast hn hk hstands⟩

/-- A sketch with an import, a letter of two bytes, and a constructor, which may only stand in a
class. -/
def accentSketch : Bytes := encode "import a;/*é*/static B()\x7bsize(1);\x7d"

/-- The size of this sketch reads in its tree as it does in the sketch. -/
theorem reads_as_blanked_accent :
    let s := Sketch.read accentSketch
    Sketch.Blanked accentSketch [⟨0, 9, ""⟩, ⟨5, 14, ""⟩, ⟨14, 16, ""⟩]
      (Sketch.blankImports accentSketch [⟨0, 9, ""⟩, ⟨5, 14, ""⟩, ⟨14, 16, ""⟩]) ∧
    s.isWrapped = true ∧ NamedFirst s.root ∧ Sketch.ClosedLast s ∧
    ∃ c ∈ callsOf s "setup", ∃ n ∈ subtrees s.root, s.offset ≤ n.start ∧
      n.stop ≤ s.offset + accentSketch.length ∧ c.site.start = 26 ∧ c.site.stop = 33 ∧
      slice s.source n.start n.stop = encode "size(1)" := by
  intro s
  -- the class around the sketch gets a name, so that each of the two trees is built once
  obtain ⟨wrapped, hwrapped⟩ : ∃ wrapped, wrapped = Sketch.wrapperHead ++
    encode "         /*é*/static B()\x7bsize(1);\x7d" ++ Sketch.wrapperTail := ⟨_, rfl⟩
  have hraw : (Node.parse accentSketch).2 = true ∧
      Sketch.findImports accentSketch (Node.parse accentSketch).1 = [⟨0, 9, "import a;"⟩] := by
    decide +kernel
  have hrun : (Node.parse wrapped).2 = false ∧ NamedFirst (Node.parse wrapped).1 ∧
      Sketch.ClosedLast (Sketch.ofWrapped wrapped) ∧
      (callsOf (Sketch.ofWrapped wrapped) "setup").map (fun c => (c.site.start, c.site.stop)) =
        [(26, 33)] := by
    rw [hwrapped]
    decide +kernel
  obtain ⟨hclean, hfirst, hlast, hcalls⟩ := hrun
  have hblank : wrapped = Sketch.wrapperHead ++
      Sketch.blankImports accentSketch [⟨0, 9, "import a;"⟩] ++ Sketch.wrapperTail := by
    rw [hwrapped]
    decide +kernel
  have hread : s = { Sketch.ofWrapped wrapped with imports := [⟨0, 9, "import a;"⟩] } :=
    Sketch.read_eq_of_imports hraw hblank hclean
  have hw : s.isWrapped = true := by
    rw [hread]
    rfl
  have hfirst : NamedFirst s.root := by
    rw [hread]
    exact hfirst
  have hlast : Sketch.ClosedLast s := by
    rw [hread]
    exact hlast
  have hcalls : (callsOf s "setup").map (fun c => (c.site.start, c.site.stop)) = [(26, 33)] := by
    rw [hread]
    exact hcalls
  have hclear : ∀ m ∈ s.imports, m.stop ≤ 26 ∨ 33 ≤ m.start := by
    rw [hread]
    intro m hm
    obtain rfl := List.mem_singleton.mp hm
    exact .inl (by decide)
  obtain ⟨hblanked, hstanding⟩ := reads_as_blanked accentSketch
  obtain ⟨-, -, -, hreads⟩ := hstanding hw
  obtain ⟨c, hc, hplace⟩ : ∃ c ∈ callsOf s "setup", (c.site.start, c.site.stop) = (26, 33) :=
    List.mem_map.mp (by rw [hcalls]; exact List.mem_singleton_self _)
  obtain ⟨n, hn, start, stop, -, -, hstart, hstop, hstands, -⟩ :=
    hreads hfirst hlast "setup" c hc
  have hstands : Sketch.StandsAt s accentSketch n start stop := hstands
  obtain ⟨hcstart, hcstop⟩ := Prod.mk.inj hplace
  obtain rfl : start = 26 := by omega
  obtain rfl : stop = 33 := by omega
  obtain ⟨hfrom, hto⟩ := hstands.span
  obtain ⟨-, hinside⟩ := hstands.inside
  unfold Sketch.ownOffset at hfrom hto
  refine ⟨hblanked _ (by unfold Sketch.ImportsWithin; decide), hw, hfirst, hlast, c, hc, n, hn,
    by omega, by omega, hcstart, hcstop, ?_⟩
  rw [hstands.clear hclear]
  decide

/-- A sketch with an import between the name of a call and its argument. -/
def importInCall : Bytes := encode "private W\x7breturn size import a.b.c.d;(1);\x7d"

/-- Read as it is, this sketch has an error, with the import at the top behind it. Inside a class it
is a constructor with a call. Then the import in the call is blank, and the call does not read as it
does in the sketch. -/
theorem import_blanked_in_call :
    let s := Sketch.read importInCall
    s.isWrapped = true ∧ ∃ c ∈ callsOf s "setup", ∃ n ∈ subtrees s.root,
      settingOf? s n = some c.site.setting ∧
      s.ownOffset n.start = 17 ∧ s.ownOffset n.stop = 40 ∧
      c.site.start = 17 ∧ c.site.stop = 40 ∧
      slice s.source n.start n.stop ≠ slice importInCall 17 40 := by
  intro s
  obtain ⟨wrapped, hwrapped⟩ : ∃ wrapped, wrapped = Sketch.wrapperHead ++
    encode "private W\x7breturn size                (1);\x7d" ++ Sketch.wrapperTail := ⟨_, rfl⟩
  -- the import lies within the call, and is gone from the tree of the class around the sketch
  have hraw : (Node.parse importInCall).2 = true ∧ Sketch.findImports importInCall
      (Node.parse importInCall).1 = [⟨22, 37, "import a.b.c.d;"⟩] := by
    decide +kernel
  have hrun : (Node.parse wrapped).2 = false ∧ ∃ c ∈ callsOf (Sketch.ofWrapped wrapped) "setup",
      ∃ n ∈ subtrees (Node.parse wrapped).1,
        settingOf? (Sketch.ofWrapped wrapped) n = some c.site.setting ∧
        (Sketch.ofWrapped wrapped).ownOffset n.start = 17 ∧
        (Sketch.ofWrapped wrapped).ownOffset n.stop = 40 ∧
        c.site.start = 17 ∧ c.site.stop = 40 ∧
        slice wrapped n.start n.stop ≠ slice importInCall 17 40 := by
    rw [hwrapped]
    decide +kernel
  obtain ⟨hclean, hcall⟩ := hrun
  have hblank : wrapped = Sketch.wrapperHead ++
      Sketch.blankImports importInCall [⟨22, 37, "import a.b.c.d;"⟩] ++ Sketch.wrapperTail := by
    rw [hwrapped]
    decide +kernel
  have hread : s = { Sketch.ofWrapped wrapped with imports := [⟨22, 37, "import a.b.c.d;"⟩] } :=
    Sketch.read_eq_of_imports hraw hblank hclean
  rw [hread]
  exact ⟨rfl, hcall⟩

end Sketchbook
