import Sketchbook.Proofs.Ending

namespace Sketchbook

open Sketchbook.Syntax (Node)
open Sketchbook.Editing.Edit (slice slice_eq_slice_iff)
open Sketchbook.Text Sketchbook.Text.Utf8 Sketchbook.Settings Sketchbook.Editing

namespace Text.Utf8

theorem eq_ofNat_of_mem_encodeChar {c : Char} {x : UInt8} (hx : x ∈ String.utf8EncodeChar c)
    (h : x.toNat < 0x80) : String.utf8EncodeChar c = [x] ∧ c = Char.ofNat x.toNat := by
  obtain ⟨b, bs, hc, -, hbs⟩ := encodeChar_eq_cons c
  have hfirst : x = b := by
    rw [hc] at hx
    rcases List.mem_cons.mp hx with hx | hx
    · exact hx
    · have := (hbs x hx).1
      omega
  have hread := head?_encodeChar c []
  rw [List.append_nil, hc, ← hfirst, head?_ascii x bs h, Option.some.injEq, Prod.mk.injEq,
    List.length_cons] at hread
  have hnil : bs = [] := List.eq_nil_of_length_eq_zero (by omega)
  exact ⟨by rw [hc, hnil, hfirst], hread.1.symm⟩

end Text.Utf8

namespace Cli

def PairAt (bytes : Bytes) (i : Nat) : Prop := bytes[i]? = some 13 ∧ bytes[i + 1]? = some 10

def pairs : Bytes → Nat
  | [] => 0
  | b :: bs => (if b = 13 ∧ bs.head? = some 10 then 1 else 0) + pairs bs

/-- Bytes with all line ends made into line feeds: a carriage return in front of a line feed is left
out, and any other becomes a line feed. -/
def unifyBytes : Bytes → Bytes
  | [] => []
  | b :: bs =>
    if b = 13 ∧ bs.head? = some 10 then unifyBytes bs
    else (if b = 13 then 10 else b) :: unifyBytes bs

def fileOffset : Bytes → Nat → Nat
  | _, 0 => 0
  | [], n + 1 => n + 1
  | b :: bs, n + 1 =>
    if b = 13 ∧ bs.head? = some 10 then fileOffset bs (n + 1) + 1 else fileOffset bs n + 1

variable {b : UInt8} {bs : Bytes}

theorem unifyBytes_of_pair (h : b = 13 ∧ bs.head? = some 10) :
    unifyBytes (b :: bs) = unifyBytes bs := by
  rw [unifyBytes, if_pos h]

theorem unifyBytes_of_not_pair (h : ¬(b = 13 ∧ bs.head? = some 10)) :
    unifyBytes (b :: bs) = (if b = 13 then 10 else b) :: unifyBytes bs := by
  rw [unifyBytes, if_neg h]

@[simp] theorem fileOffset_zero (bs : Bytes) : fileOffset bs 0 = 0 := by
  cases bs <;> rfl

@[simp] theorem fileOffset_nil (n : Nat) : fileOffset [] n = n := by
  cases n <;> rfl

theorem fileOffset_of_pair (h : b = 13 ∧ bs.head? = some 10) (n : Nat) :
    fileOffset (b :: bs) (n + 1) = fileOffset bs (n + 1) + 1 := by
  rw [fileOffset, if_pos h]

theorem fileOffset_of_not_pair (h : ¬(b = 13 ∧ bs.head? = some 10)) (n : Nat) :
    fileOffset (b :: bs) (n + 1) = fileOffset bs n + 1 := by
  rw [fileOffset, if_neg h]

theorem le_fileOffset (bs : Bytes) (n : Nat) : n ≤ fileOffset bs n := by
  induction bs generalizing n with
  | nil => rw [fileOffset_nil]
  | cons b bs ih =>
    cases n with
    | zero => exact Nat.zero_le _
    | succ n =>
      by_cases h : b = 13 ∧ bs.head? = some 10
      · rw [fileOffset_of_pair h]
        exact Nat.le_succ_of_le (ih (n + 1))
      · rw [fileOffset_of_not_pair h]
        exact Nat.succ_le_succ (ih n)

theorem fileOffset_le_length {n : Nat} (h : n ≤ (unifyBytes bs).length) :
    fileOffset bs n ≤ bs.length := by
  induction bs generalizing n with
  | nil => rwa [fileOffset_nil]
  | cons b bs ih =>
    cases n with
    | zero => exact Nat.zero_le _
    | succ n =>
      by_cases hp : b = 13 ∧ bs.head? = some 10
      · rw [unifyBytes_of_pair hp] at h
        rw [fileOffset_of_pair hp, List.length_cons]
        exact Nat.succ_le_succ (ih h)
      · rw [unifyBytes_of_not_pair hp, List.length_cons] at h
        rw [fileOffset_of_not_pair hp, List.length_cons]
        exact Nat.succ_le_succ (ih (Nat.le_of_succ_le_succ h))

theorem unifyBytes_drop (bs : Bytes) (n : Nat) :
    unifyBytes (bs.drop (fileOffset bs n)) = (unifyBytes bs).drop n := by
  induction bs generalizing n with
  | nil => simp [unifyBytes]
  | cons b bs ih =>
    cases n with
    | zero => rw [fileOffset_zero, List.drop_zero, List.drop_zero]
    | succ n =>
      by_cases h : b = 13 ∧ bs.head? = some 10
      · rw [fileOffset_of_pair h, unifyBytes_of_pair h, List.drop_succ_cons, ih]
      · rw [fileOffset_of_not_pair h, unifyBytes_of_not_pair h, List.drop_succ_cons,
          List.drop_succ_cons, ih]

theorem head?_take_of_pair (h : bs.head? = some 10) (n : Nat) :
    (bs.take (fileOffset bs (n + 1))).head? = some 10 := by
  have hpos : fileOffset bs (n + 1) ≠ 0 :=
    Nat.ne_of_gt (Nat.lt_of_lt_of_le n.succ_pos (le_fileOffset bs (n + 1)))
  rw [List.head?_take, if_neg hpos]
  exact h

theorem not_pair_take (h : ¬(b = 13 ∧ bs.head? = some 10)) (k : Nat) :
    ¬(b = 13 ∧ (bs.take k).head? = some 10) := by
  rintro ⟨hb, hhead⟩
  rw [List.head?_take] at hhead
  split_ifs at hhead
  exact h ⟨hb, hhead⟩

theorem unifyBytes_take (bs : Bytes) (n : Nat) :
    unifyBytes (bs.take (fileOffset bs n)) = (unifyBytes bs).take n := by
  induction bs generalizing n with
  | nil => simp [unifyBytes]
  | cons b bs ih =>
    cases n with
    | zero => rw [fileOffset_zero, List.take_zero, List.take_zero, unifyBytes]
    | succ n =>
      by_cases h : b = 13 ∧ bs.head? = some 10
      · rw [fileOffset_of_pair h, unifyBytes_of_pair h, List.take_succ_cons,
          unifyBytes_of_pair ⟨h.1, head?_take_of_pair h.2 n⟩, ih]
      · rw [fileOffset_of_not_pair h, unifyBytes_of_not_pair h, List.take_succ_cons,
          List.take_succ_cons, unifyBytes_of_not_pair (not_pair_take h _), ih]

theorem fileOffset_eq_add_pairs (bs : Bytes) (n : Nat) :
    fileOffset bs n = n + pairs (bs.take (fileOffset bs n)) := by
  induction bs generalizing n with
  | nil => rw [fileOffset_nil, List.take_nil, pairs, Nat.add_zero]
  | cons b bs ih =>
    cases n with
    | zero => rw [fileOffset_zero, List.take_zero, pairs]
    | succ n =>
      by_cases h : b = 13 ∧ bs.head? = some 10
      · have hrest := ih (n + 1)
        rw [fileOffset_of_pair h, List.take_succ_cons, pairs,
          if_pos ⟨h.1, head?_take_of_pair h.2 n⟩]
        omega
      · have hrest := ih n
        rw [fileOffset_of_not_pair h, List.take_succ_cons, pairs, if_neg (not_pair_take h _)]
        omega

theorem fileOffset_add (bs : Bytes) (i k : Nat) :
    fileOffset bs (i + k) = fileOffset bs i + fileOffset (bs.drop (fileOffset bs i)) k := by
  induction bs generalizing i with
  | nil => rw [fileOffset_nil, fileOffset_nil, List.drop_nil, fileOffset_nil]
  | cons b bs ih =>
    cases i with
    | zero => rw [fileOffset_zero, List.drop_zero, Nat.zero_add, Nat.zero_add]
    | succ i =>
      rw [Nat.succ_add]
      by_cases h : b = 13 ∧ bs.head? = some 10
      · have hrest := ih (i + 1)
        rw [Nat.succ_add] at hrest
        rw [fileOffset_of_pair h, fileOffset_of_pair h, List.drop_succ_cons, hrest]
        omega
      · rw [fileOffset_of_not_pair h, fileOffset_of_not_pair h, List.drop_succ_cons, ih]
        omega

theorem unifyBytes_slice {i j : Nat} (h : i ≤ j) :
    unifyBytes (slice bs (fileOffset bs i) (fileOffset bs j)) = slice (unifyBytes bs) i j := by
  obtain ⟨k, rfl⟩ := Nat.exists_eq_add_of_le h
  rw [slice, slice, fileOffset_add, Nat.add_sub_cancel_left, Nat.add_sub_cancel_left,
    unifyBytes_take, unifyBytes_drop]

theorem fileOffset_eq_self_iff {n : Nat} : fileOffset bs n = n ↔ ∀ i < n, ¬PairAt bs i := by
  induction bs generalizing n with
  | nil => simp [PairAt]
  | cons b bs ih =>
    cases n with
    | zero => simp
    | succ n =>
      have hfirst : PairAt (b :: bs) 0 ↔ b = 13 ∧ bs.head? = some 10 := by
        rw [PairAt, List.getElem?_cons_zero, Option.some.injEq, List.getElem?_cons_succ,
          List.head?_eq_getElem?]
      have hrest (i : Nat) : PairAt (b :: bs) (i + 1) ↔ PairAt bs i := by
        rw [PairAt, List.getElem?_cons_succ, List.getElem?_cons_succ, PairAt]
      by_cases h : b = 13 ∧ bs.head? = some 10
      · -- a pair at the front moves all that follows
        have hle := le_fileOffset bs (n + 1)
        rw [fileOffset_of_pair h]
        refine ⟨fun heq => absurd heq (by omega), fun hnone => ?_⟩
        exact absurd (hfirst.mpr h) (hnone 0 n.succ_pos)
      · rw [fileOffset_of_not_pair h, Nat.add_right_cancel_iff, ih]
        constructor
        · intro hnone i hi
          cases i with
          | zero => exact fun hp => h (hfirst.mp hp)
          | succ i => exact fun hp => hnone i (Nat.lt_of_succ_lt_succ hi) ((hrest i).mp hp)
        · exact fun hnone i hi hp => hnone (i + 1) (Nat.succ_lt_succ hi) ((hrest i).mpr hp)

theorem unifyBytes_append {front : Bytes} (h : (13 : UInt8) ∉ front) (bs : Bytes) :
    unifyBytes (front ++ bs) = front ++ unifyBytes bs := by
  induction front with
  | nil => rfl
  | cons b front ih =>
    have hb : b ≠ 13 := fun hb => h (hb ▸ List.mem_cons_self)
    rw [List.cons_append, unifyBytes_of_not_pair fun hp => hb hp.1, if_neg hb,
      ih fun hmem => h (List.mem_cons_of_mem b hmem), List.cons_append]

theorem flatMap_unifyLineEnds (cs : List Char) :
    (unifyLineEnds cs).flatMap String.utf8EncodeChar =
      unifyBytes (cs.flatMap String.utf8EncodeChar) := by
  have hreturn : String.utf8EncodeChar '\r' = [13] := by decide
  have hfeed : String.utf8EncodeChar '\n' = [10] := by decide
  fun_induction unifyLineEnds cs with
  | case1 cs ih =>
    rw [List.flatMap_cons, ih, List.flatMap_cons, List.flatMap_cons, hreturn, hfeed,
      List.singleton_append (x := 13), unifyBytes_of_pair ⟨rfl, rfl⟩, unifyBytes_append (by decide)]
  | case2 cs hcs ih =>
    have hnext : ¬((13 : UInt8) = 13 ∧ (cs.flatMap String.utf8EncodeChar).head? = some 10) := by
      rintro ⟨-, hhead⟩
      cases cs with
      | nil => cases hhead
      | cons c cs =>
        -- a line feed among the bytes is one among the characters
        obtain ⟨b, bs, hc, -⟩ := encodeChar_eq_cons c
        rw [List.flatMap_cons, hc] at hhead
        obtain rfl := Option.some.inj hhead
        have hmem : (10 : UInt8) ∈ String.utf8EncodeChar c := hc ▸ List.mem_cons_self
        exact hcs cs (congrArg (· :: cs) (eq_ofNat_of_mem_encodeChar hmem (by decide)).2)
    rw [List.flatMap_cons, ih, List.flatMap_cons, hfeed, hreturn, List.singleton_append,
      List.singleton_append, unifyBytes_of_not_pair hnext, if_pos rfl]
  | case3 c cs _ hc ih =>
    have hnone : (13 : UInt8) ∉ String.utf8EncodeChar c := fun hmem =>
      hc (eq_ofNat_of_mem_encodeChar hmem (by decide)).2
    rw [List.flatMap_cons, ih, List.flatMap_cons, unifyBytes_append hnone]
  | case4 => rfl

theorem encode_of_textOf? {bytes : Bytes} {text : String} (h : textOf? bytes = some text) :
    encode text = unifyBytes bytes := by
  obtain ⟨t, ht, rfl⟩ := Option.map_eq_some_iff.mp h
  rw [encode_ofList, flatMap_unifyLineEnds, ← encode_eq_flatMap, encode_of_decode? ht]

end Cli

namespace Sketch

variable {source : Bytes} {start stop : Nat}

theorem slice_source (hstart : start ≤ stop) (hstop : stop ≤ source.length) :
    slice (read source).source ((read source).offset + start) ((read source).offset + stop) =
      slice ((read source).shown source) start stop := by
  obtain ⟨-, hplain, hwrapped⟩ := root_read source
  unfold shown
  cases hw : (read source).isWrapped with
  | false =>
    obtain ⟨hsource, hoffset⟩ := hplain hw
    rw [hsource, hoffset, Nat.zero_add, Nat.zero_add, if_neg Bool.false_ne_true]
  | true =>
    obtain ⟨hsource, hoffset, -⟩ := hwrapped hw
    have hlength := length_le_blankImports (start_le_stop_of_mem_imports source) source
    have hsub : wrapperHead.length + stop - (wrapperHead.length + start) = stop - start := by omega
    rw [hsource, hoffset, if_pos rfl, slice, slice, hsub, List.append_assoc, ← List.drop_drop,
      List.drop_left, List.drop_append_of_le_length (by omega),
      List.take_append_of_le_length (by rw [List.length_drop]; omega)]

theorem slice_shown (hstop : stop ≤ source.length)
    (himports : (read source).isWrapped = true → ∀ m ∈ (read source).imports,
      m.stop ≤ start ∨ stop ≤ m.start) :
    slice ((read source).shown source) start stop = slice source start stop := by
  unfold shown
  split_ifs with hw
  · rw [slice_eq_slice_iff]
    intro i hlow hhigh
    exact (getElem?_blankImports (start_le_stop_of_mem_imports source) (by omega)).2
      (not_inImport_of_apart (himports hw) hlow hhigh)
  · rfl

end Sketch

/-- The calls of what is made of a sketch are those in it, and the edits that take out a call are made
at its ends. -/
theorem calls_of_generate {source : Bytes} {name : String} {package? : Option String} {c : Config}
    {g : Generated} (h : generate source name package? c = .ok g) :
    g.calls = callsOf (Sketch.read source) c.entryMethod ∧
      ∀ e ∈ g.edits, Edit.isCommentOut e → ∃ call ∈ g.calls,
        e.position = call.site.start ∨ e.position = call.site.stop := by
  obtain ⟨-, -, log, hrun⟩ := generate_eq_ok h
  obtain ⟨found, body, hfound, -, hedits, -, -, -, -, -, -, hcalls, -⟩ := assemble_eq_ok hrun
  obtain ⟨hall, -, hlifted⟩ := survey_eq_ok hfound
  refine ⟨hcalls.trans hall, ?_⟩
  intro e he hout
  rw [hedits, hlifted] at he
  rcases List.mem_append.mp he with he | he
  · obtain ⟨x, hx, he⟩ := List.mem_flatMap.mp he
    obtain ⟨call, hcall, rfl, -⟩ := mem_liftedSites hx
    rw [hcalls, hall]
    refine ⟨call, hcall, ?_⟩
    rw [Edit.commentOut, List.mem_cons, List.mem_singleton] at he
    rcases he with rfl | rfl
    · exact .inl rfl
    · exact .inr rfl
  · exact absurd hout (isCommentOut_otherEdits _ _ e he)

namespace Cli

/-- How a node of a sketch that sets something is shown and where it stands in the file. -/
structure Located (s : Sketch) (bytes : Bytes) (x : Site) (n : Node) (start stop : Nat) : Prop where
  setting : settingOf? s n = some x.setting
  offsets : x.start = start ∧ x.stop = stop
  inside : start ≤ stop ∧ stop ≤ bytes.length
  text : (s.isWrapped = true → ∀ m ∈ s.imports, m.stop ≤ start ∨ stop ≤ m.start) →
    unifyBytes (slice bytes (fileOffset bytes start) (fileOffset bytes stop)) =
      slice s.source n.start n.stop
  moved : fileOffset bytes start = start + pairs (bytes.take (fileOffset bytes start)) ∧
    fileOffset bytes stop = stop + pairs (bytes.take (fileOffset bytes stop))
  unmoved : fileOffset bytes start = start ∧ fileOffset bytes stop = stop ↔
    ∀ i < stop, ¬PairAt bytes i

variable {w : World} {words : List Word} {r : Request} {path : Path} {c : Config} {bytes : Bytes}
  {text : String}

theorem exists_located (htext : textOf? bytes = some text)
    (hcalls : (Sketch.read (encode text)).CallsInside (encode text)) {entryMethod : String}
    {call : Call} (hcall : call ∈ callsOf (Sketch.read (encode text)) entryMethod) :
    ∃ n ∈ subtrees (Sketch.read (encode text)).root, ∃ start stop,
      Located (Sketch.read (encode text)) bytes call.site n start stop := by
  obtain ⟨v, hv, k, hk, rfl⟩ := exists_visited_of_mem_callsOf hcall
  have hnode := mem_subtrees_of_walk hv
  have hends := Sketch.boundary_of_call hcalls hnode (kind_of_settingOf? hk)
  obtain ⟨start, hstart, -⟩ := hends v.node.start List.mem_cons_self
  obtain ⟨stop, hstop, hle, -⟩ :=
    hends v.node.stop (List.mem_cons_of_mem _ (List.mem_singleton_self _))
  have hspan := Sketch.start_le_stop_of_mem_read hnode
  -- a place in the tree is one in the sketch, moved by what stands in front of it
  have hfrom : v.node.start = (Sketch.read (encode text)).offset + start := by
    unfold Sketch.ownOffset at hstart
    omega
  have hto : v.node.stop = (Sketch.read (encode text)).offset + stop := by
    unfold Sketch.ownOffset at hstop
    omega
  have horder : start ≤ stop := by omega
  have hbytes := encode_of_textOf? htext
  have hlength : stop ≤ (unifyBytes bytes).length := hbytes ▸ hle
  refine ⟨v.node, hnode, start, stop, hk, ⟨hstart, hstop⟩, ⟨horder, ?_⟩, ?_,
    ⟨fileOffset_eq_add_pairs bytes start, fileOffset_eq_add_pairs bytes stop⟩, ?_⟩
  · exact Nat.le_trans (le_fileOffset bytes stop) (fileOffset_le_length hlength)
  · intro himports
    rw [unifyBytes_slice horder, ← hbytes, hfrom, hto, Sketch.slice_source horder hle,
      Sketch.slice_shown hle himports]
  · rw [fileOffset_eq_self_iff, fileOffset_eq_self_iff]
    exact ⟨And.right, fun h => ⟨fun i hi => h i (Nat.lt_of_lt_of_le hi horder), h⟩⟩

theorem run_inspect {g : Generated} (hr : Request.ofWords words = .ok r)
    (hcommand : r.command = .inspect) (h : Reads w r path c bytes) (htext : textOf? bytes = some text)
    (hg : r.made path c text = .ok g) :
    (run w words).exit = .code 0 ∧ (run w words).stdout = g.report.render 0 ++ "\n" := by
  obtain ⟨stderr, hrun⟩ := process_of_ok (w := w) hg
  rw [run_eq_process hr h htext, hrun, hcommand]
  exact ⟨rfl, rfl⟩

/-- A sketch is inspected if something can be made of it, and then the offsets of a call that are
shown lie within the file and are those of the call in the text of the file. In the file itself the
call stands further down by the number of carriage returns with a line feed behind them. So it stands
where it is shown exactly if there is no such pair in front of its end. -/
theorem offsets_of_inspect (hr : Request.ofWords words = .ok r) (hcommand : r.command = .inspect)
    (hreads : Reads w r path c bytes) (htext : textOf? bytes = some text)
    (hcalls : (Sketch.read (encode text)).CallsInside (encode text)) :
    let s := Sketch.read (encode text)
    (Makeable (encode text) c → (run w words).exit = .code 0) ∧
    ((run w words).exit = .code 0 → ∃ g : Generated,
      (run w words).stdout = g.report.render 0 ++ "\n" ∧
      g.calls = callsOf s c.entryMethod ∧
      (∀ call ∈ g.calls, ∃ n ∈ subtrees s.root, ∃ start stop,
        Located s bytes call.site n start stop) ∧
      ∀ e ∈ g.edits, Edit.isCommentOut e → ∃ call ∈ g.calls,
        e.position = call.site.start ∨ e.position = call.site.stop) := by
  intro s
  constructor
  · intro hmakeable
    obtain ⟨g, hg, -⟩ := hmakeable.exists_generate (r.package?.map Word.text)
      (ClassName.isValid_ofPath path.word.text) hcalls
    exact (run_inspect hr hcommand hreads htext hg).1
  · intro hexit
    -- a run that ends with 0 has made something
    cases hg : r.made path c text with
    | error e =>
      obtain ⟨stderr, hrun⟩ := process_of_error (w := w) hg
      rw [run_eq_process hr hreads htext, hrun] at hexit
      cases hexit
    | ok g =>
      obtain ⟨-, hout⟩ := run_inspect hr hcommand hreads htext hg
      obtain ⟨hall, hedits⟩ := calls_of_generate hg
      exact ⟨g, hout, hall, fun call hcall => exists_located htext hcalls (hall ▸ hcall), hedits⟩

/-- A carriage return of its own in front of a call, and a comment with a character of two bytes. -/
theorem offsets_of_inspect_lone_return :
    let bytes := encode "/*é*/\rsize(1,2);"
    ∃ g : Generated, (run (lone bytes) ["inspect", "a.pde"]).exit = .code 0 ∧
      (run (lone bytes) ["inspect", "a.pde"]).stdout = g.report.render 0 ++ "\n" ∧
      g.calls.map (fun call => (call.site.start, call.site.stop)) = [(7, 16)] ∧
      slice bytes 7 16 = encode "size(1,2)" ∧ 16 ≤ bytes.length := by
  intro bytes
  let s := Sketch.read (encode "/*é*/\nsize(1,2);")
  have hrun : s.isWrapped = false ∧ Sketch.stumbles s.source s.root = false ∧
      (callsOf s "setup").map (fun call => (call.site.start, call.site.stop)) = [(7, 16)] := by
    decide +kernel
  obtain ⟨hplain, hstumbles, hplaces⟩ := hrun
  have htext : textOf? bytes = some "/*é*/\nsize(1,2);" := by decide +kernel
  have hr : Request.ofWords ["inspect", "a.pde"] = .ok { command := .inspect, sketch := "a.pde" } :=
    rfl
  obtain ⟨hends, hshown⟩ := offsets_of_inspect hr rfl (reads_lone bytes rfl) htext
    (Sketch.callsInside_of_plain hplain _)
  have hexit := hends (makeable_usual hstumbles)
  obtain ⟨g, hout, hall, -⟩ := hshown hexit
  exact ⟨g, hexit, hout, by rw [hall]; exact hplaces, by decide, by decide⟩

/-- With a carriage return and a line feed in front of it, a call is shown one byte too early. -/
theorem return_and_feed_shift_call :
    let bytes := 13 :: 10 :: encode "size(1,2);"
    ∃ g : Generated, (run (lone bytes) ["inspect", "a.pde"]).exit = .code 0 ∧
      (run (lone bytes) ["inspect", "a.pde"]).stdout = g.report.render 0 ++ "\n" ∧
      g.calls.map (fun call => (call.site.start, call.site.stop)) = [(1, 10)] ∧
      slice bytes 1 10 = encode "\nsize(1,2" ∧ slice bytes 2 11 = encode "size(1,2)" := by
  intro bytes
  let s := Sketch.read (encode "\nsize(1,2);")
  have hrun : s.isWrapped = false ∧ Sketch.stumbles s.source s.root = false ∧
      (callsOf s "setup").map (fun call => (call.site.start, call.site.stop)) = [(1, 10)] := by
    decide +kernel
  obtain ⟨hplain, hstumbles, hplaces⟩ := hrun
  have htext : textOf? bytes = some "\nsize(1,2);" := by decide +kernel
  have hr : Request.ofWords ["inspect", "a.pde"] = .ok { command := .inspect, sketch := "a.pde" } :=
    rfl
  obtain ⟨g, hg, -⟩ := (makeable_usual hstumbles).exists_generate none
    (ClassName.isValid_ofPath (Path.word ["d", "a.pde"]).text) (Sketch.callsInside_of_plain hplain _)
  obtain ⟨hexit, hout⟩ := run_inspect hr rfl (reads_lone bytes rfl) htext hg
  exact ⟨g, hexit, hout, by rw [(calls_of_generate hg).1]; exact hplaces, by decide, by decide⟩

end Cli

end Sketchbook
