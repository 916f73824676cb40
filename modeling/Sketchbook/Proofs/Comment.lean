import Sketchbook.Proofs.Spacing

namespace Sketchbook

open Sketchbook.Syntax (Node)
open Sketchbook.Settings Sketchbook.Editing Sketchbook.Text

def openMark : Bytes := Utf8.encode "/*"

def closeMark : Bytes := Utf8.encode "*/"

theorem closeMark_eq : closeMark = [42, 47] := by
  decide +kernel

/-- What follows a block comment whose opening mark has been read: all that stands behind the first
closing mark. -/
def afterComment : Bytes → Bytes
  | a :: b :: rest => if a = 42 ∧ b = 47 then rest else afterComment (b :: rest)
  | _ => []

/-- A stretch without a closing mark is passed over, unless such a mark arises at its end. -/
theorem afterComment_append {x : Bytes} (h : ¬closeMark <:+: x) {y : Bytes}
    (hend : x.getLast? ≠ some 42 ∨ y.head? ≠ some 47) :
    afterComment (x ++ y) = afterComment y := by
  rw [closeMark_eq] at h
  induction x with
  | nil => rfl
  | cons a x ih =>
    have hx : ¬[42, 47] <:+: x := fun hi => h (List.infix_cons hi)
    cases x with
    | nil =>
      -- the last byte and the first one behind the stretch could make up a mark
      cases y with
      | nil => rfl
      | cons b y =>
        have hab : ¬(a = 42 ∧ b = 47) := by
          rintro ⟨rfl, rfl⟩
          rcases hend with hend | hend <;> exact hend rfl
        rw [List.singleton_append, afterComment, if_neg hab]
    | cons b x =>
      have hab : ¬(a = 42 ∧ b = 47) := by
        rintro ⟨rfl, rfl⟩
        exact h (List.prefix_append [42, 47] x).isInfix
      have hrest := ih hx (by rwa [List.getLast?_cons_cons] at hend)
      rw [List.cons_append, List.cons_append, afterComment, if_neg hab]
      exact hrest

theorem afterComment_of_infix {x : Bytes} (h : closeMark <:+: x) (y : Bytes) :
    ∃ rest, rest <:+ x ∧ afterComment (x ++ y) = rest ++ y := by
  rw [closeMark_eq] at h
  induction x with
  | nil => exact absurd (List.infix_nil.mp h) (by decide)
  | cons a x ih =>
    cases x with
    | nil => exact absurd h.length_le (by simp)
    | cons b x =>
      by_cases hab : a = 42 ∧ b = 47
      · refine ⟨x, (List.suffix_cons b x).trans (List.suffix_cons a _), ?_⟩
        rw [List.cons_append, List.cons_append, afterComment, if_pos hab]
      · have hx : [42, 47] <:+: b :: x := by
          rcases List.infix_cons_iff.mp h with hp | hi
          · obtain ⟨t, ht⟩ := hp
            cases ht
            exact absurd ⟨rfl, rfl⟩ hab
          · exact hi
        obtain ⟨rest, hrest, heq⟩ := ih hx
        refine ⟨rest, hrest.trans (List.suffix_cons a _), ?_⟩
        rw [List.cons_append, List.cons_append, afterComment, if_neg hab]
        exact heq

/-- The two texts are the ends of a comment that begins with a note. -/
def IsComment (opener closer : String) (note rest : Bytes) : Prop :=
  Utf8.encode opener = openMark ++ note ∧ Utf8.encode closer = 32 :: (closeMark ++ rest) ∧
    ¬closeMark <:+: note ∧ note.getLast? ≠ some 42

theorem isComment_commentOut : ∃ note rest,
    IsComment Edit.commentOpen Edit.commentClose note rest := by
  refine ⟨(Utf8.encode Edit.commentOpen).drop 2, (Utf8.encode Edit.commentClose).drop 3, ?_⟩
  unfold IsComment
  decide +kernel

theorem isComment_moved : ∃ note rest,
    IsComment Generate.movedOpen Generate.movedClose note rest := by
  refine ⟨(Utf8.encode Generate.movedOpen).drop 2, (Utf8.encode Generate.movedClose).drop 3, ?_⟩
  unfold IsComment
  decide +kernel

theorem isComment_of_mem {s : Sketch} {entryMethod : String} {w : Wrap}
    (hw : w ∈ wraps s entryMethod) : ∃ note rest, IsComment w.opener w.closer note rest := by
  unfold wraps at hw
  rcases List.mem_append.mp hw with hw | hw
  · obtain ⟨x, -, rfl⟩ := List.mem_map.mp hw
    exact isComment_commentOut
  · split_ifs at hw
    · cases hw
    · obtain ⟨i, -, rfl⟩ := List.mem_map.mp hw
      exact isComment_moved

theorem afterComment_of_mark {opener closer : String} {note rest : Bytes}
    (h : IsComment opener closer note rest) (after : Bytes) {stretch : Bytes}
    (hi : closeMark <:+: stretch) :
    ∃ left, left <:+ stretch ∧
      afterComment (note ++ stretch ++ Utf8.encode closer ++ after) =
        left ++ Utf8.encode closer ++ after := by
  obtain ⟨left, hleft, heq⟩ := afterComment_of_infix hi (Utf8.encode closer ++ after)
  refine ⟨left, hleft, ?_⟩
  rw [List.append_assoc, List.append_assoc, afterComment_append h.2.2.1 (.inl h.2.2.2), heq,
    List.append_assoc]

/-- A comment around a stretch ends with its closing text exactly if the stretch holds no closing
mark. -/
theorem afterComment_eq_iff {opener closer : String} {note rest : Bytes}
    (h : IsComment opener closer note rest) (stretch after : Bytes) :
    afterComment (note ++ stretch ++ Utf8.encode closer ++ after) = rest ++ after ↔
      ¬closeMark <:+: stretch := by
  have hcloser := h.2.1
  constructor
  · intro heq hi
    obtain ⟨left, -, hleft⟩ := afterComment_of_mark h after hi
    -- a mark in the stretch ends the comment too early, and too much text is left
    have hlength := congrArg List.length (hleft.symm.trans heq)
    rw [hcloser, closeMark_eq] at hlength
    simp only [List.length_append, List.length_cons] at hlength
    omega
  · intro hi
    -- the stretch cannot end in half a mark that the closer completes
    have hhead : (Utf8.encode closer ++ after).head? ≠ some 47 := by
      rw [hcloser]
      simp
    have hend : afterComment (Utf8.encode closer ++ after) = rest ++ after := by
      rw [hcloser, closeMark_eq]
      rfl
    calc afterComment (note ++ stretch ++ Utf8.encode closer ++ after)
        = afterComment (note ++ (stretch ++ (Utf8.encode closer ++ after))) := by
          rw [List.append_assoc, List.append_assoc]
      _ = afterComment (stretch ++ (Utf8.encode closer ++ after)) :=
          afterComment_append h.2.2.1 (.inl h.2.2.2)
      _ = afterComment (Utf8.encode closer ++ after) := afterComment_append hi (.inr hhead)
      _ = rest ++ after := hend

theorem encloses_of_mem {σ : Type} {report : σ → Warning → σ} {source : Bytes}
    {name package : String} {c : Config} {s : Sketch} {raw : Node} {log log' : σ} {g : Generated}
    (h : Generate.assemble report source name package c s log = (.ok g, log'))
    (hs : Spaced s raw source c.entryMethod) {w : Wrap} (hw : w ∈ wraps s c.entryMethod)
    {start stop : Nat} (hstart : w.start = start) (hstop : w.stop = stop) :
    Edit.Encloses g.edits start stop w.opener w.closer := by
  -- the edits around the other stretches lie outside of this one
  obtain ⟨front, back, hsplit⟩ := List.append_of_mem hw
  have hpairs := hs.pairwise_wraps
  rw [hsplit] at hpairs
  obtain ⟨-, hback, hfront⟩ := List.pairwise_append.mp hpairs
  have hlt := hs.start_lt_stop
  have hother (v : Wrap) (hv : v ∈ wraps s c.entryMethod) (hvw : v.Apart w) :
      ∀ e ∈ v.edits, ¬e.IsWithin start stop :=
    hvw.not_isWithin (hlt v hv) (hlt w hw) hstart hstop
  have hedits := edits_eq h
  rw [hsplit, List.flatMap_append, List.flatMap_cons, ← List.append_assoc, List.append_assoc]
    at hedits
  rw [hedits, Wrap.edits, hstart, hstop]
  refine Edit.encloses_of_pair fun e he => ?_
  rcases List.mem_append.mp he with he | he
  · obtain ⟨v, hv, he⟩ := List.mem_flatMap.mp he
    exact hother v (by rw [hsplit]; exact List.mem_append_left _ hv)
      (hfront v hv w List.mem_cons_self) e he
  · rcases List.mem_append.mp he with he | he
    · obtain ⟨v, hv, he⟩ := List.mem_flatMap.mp he
      exact hother v (by rw [hsplit]; exact List.mem_append_right _ (List.mem_cons_of_mem _ hv))
        ((List.pairwise_cons.mp hback).1 v hv).symm e he
    · split_ifs at he with hj
      · exact hs.memberEdits_not_isWithin hj c name _ _ hw hstart hstop e he
      · cases he

/-- In the code that a run gives, each stretch of the source that is turned into a comment stands
between the two ends of that comment, and the comment ends where it is meant to end exactly if the
stretch holds no closing mark. Otherwise what follows a closing mark of the stretch is left outside
the comment. -/
theorem comment_closes_iff {σ : Type} (report : σ → Warning → σ) (source : Bytes)
    (name package : String) (c : Config) (s : Sketch) (raw : Node) (log log' : σ) (g : Generated)
    (h : Generate.assemble report source name package c s log = (.ok g, log'))
    (hs : Spaced s raw source c.entryMethod) (w : Wrap) (hw : w ∈ wraps s c.entryMethod) :
    let stretch := Edit.slice source w.start.toNat w.stop.toNat
    ∃ before note rest after,
      IsComment w.opener w.closer note rest ∧
      Utf8.encode g.code =
        before ++ openMark ++ (note ++ stretch ++ Utf8.encode w.closer ++ after) ∧
      (afterComment (note ++ stretch ++ Utf8.encode w.closer ++ after) = rest ++ after ↔
        ¬closeMark <:+: stretch) ∧
      (closeMark <:+: stretch → ∃ left, left <:+ stretch ∧
        afterComment (note ++ stretch ++ Utf8.encode w.closer ++ after) =
          left ++ Utf8.encode w.closer ++ after) := by
  intro stretch
  obtain ⟨found, body, -, hrender, -, hcode, -⟩ := assemble_eq_ok h
  obtain ⟨hbody, hinside⟩ := encode_render hrender
  have hlt := hs.start_lt_stop w hw
  have hmem (e : Edit) (he : e ∈ w.edits) : e ∈ g.edits := by
    rw [edits_eq h]
    exact List.mem_append_left _ (List.mem_flatMap.mpr ⟨w, hw, he⟩)
  -- what was rendered lies within the source, so the ends are numbers of bytes
  have hlow : 0 ≤ w.start := (hinside _ (hmem _ List.mem_cons_self)).1
  have hhigh : w.stop ≤ source.length :=
    (hinside _ (hmem _ (List.mem_cons_of_mem _ List.mem_cons_self))).2
  have hstart : w.start = w.start.toNat := by omega
  have hstop : w.stop = w.stop.toNat := by omega
  have hle : w.stop.toNat ≤ source.length := by omega
  obtain ⟨before, after, hmerge⟩ :=
    (encloses_of_mem h hs hw hstart hstop).merge_eq (by omega) hle
  obtain ⟨note, rest, hcomment⟩ := isComment_of_mem hw
  refine ⟨Utf8.encode ("\n".intercalate (Generate.header c name package s) ++ "\n") ++ before, note,
    rest, after ++ Utf8.encode (Generate.closing c name s g.accessors
      (s.methodNames.contains "main")), hcomment, ?_, afterComment_eq_iff hcomment _ _, ?_⟩
  · rw [hcode, Utf8.encode_append, Utf8.encode_append, hbody, hmerge, hcomment.1]
    simp only [stretch, List.append_assoc]
  · exact afterComment_of_mark hcomment _

/-- A size without a comment in it is a comment to its end. -/
theorem comment_closes_iff_three_calls :
    ∃ g log before note rest after,
      Generate.assemble (fun ws w => ws ++ [w]) threeCalls.source "Demo" "p" {} threeCalls [] =
        (.ok g, log) ∧
      Spaced threeCalls threeCalls.root threeCalls.source "setup" ∧
      IsComment Edit.commentOpen Edit.commentClose note rest ∧
      Utf8.encode g.code = before ++ openMark ++
        (note ++ Utf8.encode "size(1, 2)" ++ Utf8.encode Edit.commentClose ++ after) ∧
      afterComment (note ++ Utf8.encode "size(1, 2)" ++ Utf8.encode Edit.commentClose ++ after) =
        rest ++ after := by
  have hspaced : Spaced threeCalls threeCalls.root threeCalls.source "setup" :=
    { inOrder := ⟨by decide +kernel, by decide +kernel⟩
      solid := by decide +kernel
      rawInOrder := ⟨by decide +kernel, by decide +kernel⟩
      rawSolid := by decide +kernel
      imports := by decide +kernel
      plain := fun _ => rfl
      clear := fun hw => absurd hw (by decide) }
  have hok : (Generate.assemble (fun ws w => ws ++ [w]) threeCalls.source "Demo" "p" {}
      threeCalls []).1.isOk = true := by decide +kernel
  have hsites : liftedSites (callsOf threeCalls "setup") = [⟨.size, ["1", "2"], 12, 22, 2⟩] := by
    decide +kernel
  have hmem : Wrap.mk 12 22 Edit.commentOpen Edit.commentClose ∈ wraps threeCalls "setup" := by
    rw [wraps, hsites]
    exact List.mem_append_left _ (List.mem_singleton_self _)
  rcases hrun : Generate.assemble (fun ws w => ws ++ [w]) threeCalls.source "Demo" "p" {}
      threeCalls [] with ⟨e | g, log⟩
  · rw [hrun] at hok
    cases hok
  · obtain ⟨before, note, rest, after, hcomment, hcode, hcloses, -⟩ :=
      comment_closes_iff _ _ _ _ _ _ threeCalls.root _ _ _ hrun hspaced _ hmem
    have hslice : Edit.slice threeCalls.source 12 22 = Utf8.encode "size(1, 2)" := by
      decide +kernel
    have hclear : ¬closeMark <:+: Edit.slice threeCalls.source 12 22 := by
      decide +kernel
    have hend := hcloses.mpr hclear
    change Utf8.encode g.code = before ++ openMark ++ (note ++ Edit.slice threeCalls.source 12 22 ++
      Utf8.encode Edit.commentClose ++ after) at hcode
    change afterComment (note ++ Edit.slice threeCalls.source 12 22 ++
      Utf8.encode Edit.commentClose ++ after) = rest ++ after at hend
    rw [hslice] at hcode hend
    exact ⟨g, log, before, note, rest, after, rfl, hspaced, hcomment, hcode, hend⟩

/-- A size with a comment between its arguments is taken out all the same. The comment around it
ends where the inner comment ends, and the second argument is left in the code. -/
theorem inner_comment_ends_comment :
    let source := Utf8.encode "size(1,/**/2);"
    ∃ g before after, generate source "A" none {} = .ok g ∧ g.edits = Edit.commentOut 0 13 ∧
      closeMark <:+: Edit.slice source 0 13 ∧ Utf8.encode g.code = before ++ openMark ++ after ∧
      Utf8.encode "2) */ print(\"\");" <+: afterComment after := by
  intro source
  -- the sketch follows 448 bytes of lines in front of it
  have hrun : (generate source "A" none {}).toOption.any (fun g =>
      g.edits = Edit.commentOut 0 13 ∧
        Utf8.encode g.code = (Utf8.encode g.code).take 448 ++ openMark ++
          (Utf8.encode g.code).drop 450 ∧
        Utf8.encode "2) */ print(\"\");" <+: afterComment ((Utf8.encode g.code).drop 450)) =
          true := by
    decide +kernel
  have hmark : closeMark <:+: Edit.slice source 0 13 := by
    decide +kernel
  cases hg : generate source "A" none {} with
  | error e =>
    rw [hg] at hrun
    cases hrun
  | ok g =>
    rw [hg] at hrun
    obtain ⟨hedits, hcode, hafter⟩ := of_decide_eq_true hrun
    exact ⟨g, _, _, rfl, hedits, hmark, hcode, hafter⟩

end Sketchbook
