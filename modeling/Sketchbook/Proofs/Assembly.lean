import Sketchbook.Proofs.Decision
import Sketchbook.Unit.Generate

namespace Sketchbook

open Sketchbook.Settings Sketchbook.Editing Sketchbook.Text

variable {σ : Type} {report : σ → Warning → σ} {source : Bytes} {name package : String}
  {c : Config} {s : Sketch} {log log' : σ} {g : Generated}

theorem foldl_collect (ws kept : List Warning) :
    ws.foldl (Generate.collect report) (kept, log) = (kept ++ ws, ws.foldl report log) := by
  induction ws generalizing kept log with
  | nil => simp
  | cons w ws ih =>
    rw [List.foldl_cons, List.foldl_cons, Generate.collect, ih, List.append_assoc]
    rfl

/-- What becomes of a sketch that has been surveyed: warnings are passed on, and then the edits are
made unless the lines around the sketch would be too wide. -/
theorem assemble_of_survey {found : Survey} (h : survey s c.entryMethod = .ok found) :
    Generate.assemble report source name package c s log =
      let hasMain := s.methodNames.contains "main"
      let edits := found.edits ++ Generate.otherEdits c name s found.metadata.accessors hasMain
      let result :=
        if !Generate.fits c (Generate.depth s hasMain) then .error (.tooWide c.indent)
        else match render source edits with
          | .error e => .error (.render e)
          | .ok body =>
            .ok {
              code := "\n".intercalate (Generate.header c name package s) ++ "\n" ++ body ++
                Generate.closing c name s found.metadata.accessors hasMain
              mode := s.mode
              lineOffset := (Generate.header c name package s).length
              metadata := found.metadata
              edits
              accessors := found.metadata.accessors
              warnings := found.metadata.warnings
              calls := found.calls }
      (result, found.metadata.warnings.foldl report log) := by
  unfold Generate.assemble
  simp only [h, Metadata.emit_eq, foldl_collect, List.nil_append]
  split_ifs
  · rfl
  · generalize render source _ = rendered
    cases rendered <;> rfl

theorem assemble_eq_ok (h : Generate.assemble report source name package c s log = (.ok g, log')) :
    ∃ found body, survey s c.entryMethod = .ok found ∧ render source g.edits = .ok body ∧
      g.edits = found.edits ++ Generate.otherEdits c name s g.accessors
        (s.methodNames.contains "main") ∧
      g.code = "\n".intercalate (Generate.header c name package s) ++ "\n" ++ body ++
        Generate.closing c name s g.accessors (s.methodNames.contains "main") ∧
      g.mode = s.mode ∧ g.lineOffset = (Generate.header c name package s).length ∧
      g.metadata = found.metadata ∧ g.accessors = found.metadata.accessors ∧
      g.warnings = found.metadata.warnings ∧ g.calls = found.calls ∧
      log' = found.metadata.warnings.foldl report log := by
  cases hs : survey s c.entryMethod with
  | error e =>
    rw [Generate.assemble, hs] at h
    cases h
  | ok found =>
    rw [assemble_of_survey hs, Prod.mk.injEq] at h
    obtain ⟨hresult, hlog⟩ := h
    split_ifs at hresult
    split at hresult
    · cases hresult
    · rename_i body hr
      cases hresult
      exact ⟨found, body, rfl, hr, rfl, rfl, rfl, rfl, rfl, rfl, rfl, rfl, hlog.symm⟩

theorem Sketch.read?_eq_some_iff :
    Sketch.read? source = some s ↔ s = Sketch.read source ∧ (s.isWrapped = false →
      Sketch.stumbles s.source s.root = false) := by
  unfold Sketch.read?
  dsimp only
  constructor
  · intro h
    split_ifs at h with hs
    obtain rfl := Option.some.inj h
    refine ⟨rfl, fun hw => ?_⟩
    simpa [hw] using hs
  · rintro ⟨rfl, hs⟩
    rw [if_neg]
    intro h
    obtain ⟨hw, hstumbles⟩ := Bool.and_eq_true_iff.mp h
    rw [hs (by simpa using hw)] at hstumbles
    cases hstumbles

theorem generateWith_eq {package? : Option String} (hname : ClassName.isValid name = true)
    (hs : Sketch.read? source = some s) :
    generateWith report source name package? c log =
      Generate.assemble report source name (Generate.packageOf package? c) c s log := by
  rw [generateWith, hname, hs]
  rfl

theorem generate_eq_ok {package? : Option String} (h : generate source name package? c = .ok g) :
    ClassName.isValid name = true ∧ Sketch.read? source = some (Sketch.read source) ∧
      ∃ log, Generate.assemble (fun _ _ => ()) source name (Generate.packageOf package? c) c
        (Sketch.read source) () = (.ok g, log) := by
  cases hname : ClassName.isValid name with
  | false =>
    rw [generate, generateWith, hname] at h
    cases h
  | true =>
    cases hs : Sketch.read? source with
    | none =>
      rw [generate, generateWith, hname, hs] at h
      cases h
    | some s =>
      obtain ⟨rfl, -⟩ := Sketch.read?_eq_some_iff.mp hs
      rw [generate, generateWith_eq hname hs] at h
      exact ⟨rfl, rfl, _, Prod.ext h rfl⟩

theorem survey_eq_ok {entryMethod : String} {found : Survey}
    (h : survey s entryMethod = .ok found) :
    found.calls = callsOf s entryMethod ∧
      found.metadata =
        (Recorder.ofCalls ((callsOf s entryMethod).map Call.decision)).metadata ∧
      found.edits = (liftedSites (callsOf s entryMethod)).flatMap
        fun x => Edit.commentOut x.start x.stop := by
  rw [survey_eq] at h
  split at h
  · cases h
  · cases h
    exact ⟨rfl, rfl, rfl⟩

theorem toList_members (accessors : List Accessor) (hasMain : Bool) (className : String) :
    (Generate.members c accessors hasMain className).toList = [] ∨
      ∃ rest, (Generate.members c accessors hasMain className).toList = '\n' :: rest := by
  unfold Generate.members Accessor.renderAll
  cases accessors with
  | nil =>
    cases hasMain with
    | true => exact .inl (by simp)
    | false => exact .inr ⟨(Generate.mainMethod c className).toList, by simp⟩
  | cons a as =>
    refine .inr ?_
    rw [String.toList_append, List.map_cons, String.join_cons, String.toList_append,
      String.toList_append, String.toList_append]
    exact ⟨_, rfl⟩

def Edit.isCommentOut (e : Edit) : Bool := e.text = Edit.commentOpen || e.text = Edit.commentClose

theorem isCommentOut_iff (e : Edit) :
    Edit.isCommentOut e = true ↔ e.text = Edit.commentOpen ∨ e.text = Edit.commentClose := by
  simp only [Edit.isCommentOut, Bool.or_eq_true, decide_eq_true_eq]

theorem isCommentOut_otherEdits (accessors : List Accessor) (hasMain : Bool) :
    ∀ e ∈ Generate.otherEdits c name s accessors hasMain, ¬Edit.isCommentOut e := by
  intro e he
  unfold Generate.otherEdits at he
  split_ifs at he with hj
  · unfold Generate.memberEdits at he
    split at he
    · split at he
      · dsimp only at he
        split_ifs at he with ht
        · cases he
        · rw [List.mem_singleton.mp he]
          -- what is added begins with a line break, and a comment does not
          rcases toList_members (c := c) accessors hasMain _ with hnil | ⟨rest, hrest⟩
          · exact absurd (String.toList_eq_nil_iff.mp hnil) ht
          · intro hc
            rcases (isCommentOut_iff _).mp hc with hc | hc
            · rw [show Generate.members c accessors hasMain _ = Edit.commentOpen from hc] at hrest
              cases hrest
            · rw [show Generate.members c accessors hasMain _ = Edit.commentClose from hc] at hrest
              cases hrest
      · cases he
    · cases he
  · obtain ⟨i, -, hi⟩ := List.mem_flatMap.mp he
    simp only [List.mem_cons, List.not_mem_nil, or_false] at hi
    rcases hi with rfl | rfl <;>
      simp [Edit.isCommentOut, Edit.insertBefore, Edit.insertAfter, Edit.commentOpen,
        Edit.commentClose, Generate.movedOpen, Generate.movedClose]

end Sketchbook
