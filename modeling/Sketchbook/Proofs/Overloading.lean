import Sketchbook.Proofs.Totality
import Sketchbook.Proofs.Traversal

/-!
Methods of one name. A sketch may have several methods by the name of the one that runs at the start,
and only one without parameters does run. Main statement: a call stands in the right place if it is a
statement of any of them, and of these calls the last one decides, whichever method it stands in. So
the calls that may be lifted belong to a single method that runs at the start exactly if no other
method of its name has such calls, and it takes nothing.
-/
namespace Sketchbook

open Sketchbook.Syntax (Node Role)
open Sketchbook.Settings Sketchbook.Editing Sketchbook.Text.Utf8

namespace Settings

section Overloads

/-- A method of the sketch by the name of the entry method. Its parameters do not matter. -/
structure EntryNamed (s : Sketch) (entryMethod : String) (at_ : List Nat) (m : Visited) : Prop where
  place : place? s.root at_ = some m
  kind : m.node.kind = "method_declaration"
  name : s.textOf (m.node.childOf? .name) = entryMethod
  member : IsMember s at_ m.ancestors

/-- What stands at a place is a statement of the method at another place. -/
def StatementOf (s : Sketch) (at_ path : List Nat) : Prop :=
  ∃ i j k block statement, path = at_ ++ [i] ++ [j] ++ [k] ∧
    place? s.root (at_ ++ [i]) = some block ∧ block.node.kind = "block" ∧
    place? s.root (at_ ++ [i] ++ [j]) = some statement ∧
    statement.node.kind = "expression_statement"

/-- A method without parameters. The object that a method belongs to may be declared like one. -/
def TakesNothing (m : Node) : Prop :=
  ∀ list ∈ m.children, list.kind = "formal_parameters" →
    ∀ p ∈ list.children, p.kind ≠ "formal_parameter" ∧ p.kind ≠ "spread_parameter"

instance (m : Node) : Decidable (TakesNothing m) :=
  inferInstanceAs (Decidable (∀ list ∈ m.children, _ → ∀ p ∈ list.children, _ ∧ _))

/-- A call of a setting that is a statement of some method by the name of the entry method. -/
structure EntryCall (s : Sketch) (entryMethod : String) (k : Setting) (path : List Nat)
    (v : Visited) : Prop where
  place : place? s.root path = some v
  sets : Sets s k v.node
  inside : ∃ at_ m, EntryNamed s entryMethod at_ m ∧ StatementOf s at_ path

/-- At a place there is a call that is taken to stand in the entry method. -/
def Accepted (s : Sketch) (entryMethod : String) (path : List Nat) : Prop :=
  ∃ k v, place? s.root path = some v ∧ Sets s k v.node ∧
    classify s entryMethod v.ancestors = .entryMethod

/-- All calls that are taken to stand in the entry method are statements of one method, which has no
parameters. -/
def OneMethod (s : Sketch) (entryMethod : String) : Prop :=
  ∀ p q, Accepted s entryMethod p → Accepted s entryMethod q →
    ∃ at_ m, place? s.root at_ = some m ∧ m.node.kind = "method_declaration" ∧
      TakesNothing m.node ∧ StatementOf s at_ p ∧ StatementOf s at_ q

/-- A method by the name of the entry method that has calls of settings among its statements. -/
def HasCall (s : Sketch) (entryMethod : String) (at_ : List Nat) (m : Visited) : Prop :=
  EntryNamed s entryMethod at_ m ∧ ∃ k path v, place? s.root path = some v ∧ Sets s k v.node ∧
    StatementOf s at_ path

variable {s : Sketch} {entryMethod : String} {k : Setting} {path at_ : List Nat} {v : Visited}

theorem StatementOf.eq_take (h : StatementOf s at_ path) : at_ = path.take (path.length - 3) := by
  obtain ⟨i, j, k, -, -, rfl, -⟩ := h
  rw [List.append_assoc, List.append_assoc, List.length_append]
  exact (List.take_left' (Nat.add_sub_cancel at_.length 3).symm).symm

theorem StatementOf.unique {other : List Nat} (h : StatementOf s at_ path)
    (h' : StatementOf s other path) : at_ = other := h.eq_take.trans h'.eq_take.symm

theorem isMember_append {above : List Node} (hl : above.length = at_.length) (steps : List Nat) :
    IsMember s (at_ ++ steps) above ↔ IsMember s at_ above := by
  unfold IsMember
  apply or_congr_right
  apply exists₂_congr
  intro body cls
  apply and_congr_right
  intro habove
  have htwo : 2 ≤ at_.length := by
    rw [← hl, habove]
    exact Nat.le_add_left 2 1
  rw [List.take_append_of_le_length htwo]

theorem inEntryMethod_iff (hv : place? s.root path = some v) :
    InEntryMethod s entryMethod path v.ancestors ↔
      s.mode ≠ .static ∧ ∃ at_ m, EntryNamed s entryMethod at_ m ∧ StatementOf s at_ path := by
  apply and_congr_right
  intro _
  constructor
  · rintro ⟨statement, block, method, above, ha, hs, hb, hk, hname, hmember⟩
    -- up from the call, one node after another
    obtain ⟨third, c, rfl, hthird⟩ := exists_place_of_ancestors hv ha
    obtain ⟨second, b, rfl, hsecond⟩ := exists_place_of_ancestors hthird rfl
    obtain ⟨first, a, rfl, hfirst⟩ := exists_place_of_ancestors hsecond rfl
    have hlength : above.length = first.length := place?_length hfirst
    rw [List.append_assoc, List.append_assoc, isMember_append hlength] at hmember
    exact ⟨first, ⟨method, above⟩, ⟨hfirst, hk, hname, hmember⟩,
      a, b, c, _, _, rfl, hsecond, hb, hthird, hs⟩
  · rintro ⟨first, m, ⟨hplace, hk, hname, hmember⟩, a, b, c, block, statement, rfl, hsecond, hb,
      hthird, hs⟩
    have hlength := place?_length hplace
    -- and down from the method, where each place has one node only
    obtain ⟨u, _, hu, -, rfl⟩ := place?_concat.mp hsecond
    cases hplace.symm.trans hu
    obtain ⟨u, _, hu, -, rfl⟩ := place?_concat.mp hthird
    cases hsecond.symm.trans hu
    obtain ⟨u, _, hu, -, rfl⟩ := place?_concat.mp hv
    cases hthird.symm.trans hu
    refine ⟨_, _, _, _, rfl, hs, hb, hk, hname, ?_⟩
    rw [List.append_assoc, List.append_assoc, isMember_append hlength]
    exact hmember

/-- A call is taken to stand in the entry method exactly if it is a statement of a method by that
name, be it an overload. -/
theorem classify_iff_entryCall (h : LaidOut s.root) (hm : s.mode ≠ .static)
    (hv : place? s.root path = some v) (hk : Sets s k v.node) :
    classify s entryMethod v.ancestors = .entryMethod ↔ EntryCall s entryMethod k path v := by
  have hspan : v.node.start < v.node.stop := start_lt_stop_of_settingOf?
    (h.inside v.node (mem_subtrees_of_place hv)) (settingOf?_eq_some_iff.mpr hk)
  rw [entryMethod_iff_inEntryMethod h hv hspan, inEntryMethod_iff hv]
  exact ⟨fun hin => ⟨hv, hk, hin.2⟩, fun hcall => ⟨hm, hcall.inside⟩⟩

theorem accepted_iff (h : LaidOut s.root) (hm : s.mode ≠ .static) :
    Accepted s entryMethod path ↔ ∃ k v, EntryCall s entryMethod k path v := by
  apply exists₂_congr
  intro k v
  constructor
  · rintro ⟨hv, hk, hscope⟩
    exact (classify_iff_entryCall h hm hv hk).mp hscope
  · intro hcall
    exact ⟨hcall.place, hcall.sets, (classify_iff_entryCall h hm hcall.place hcall.sets).mpr hcall⟩

theorem HasCall.accepted {m : Visited} (h : LaidOut s.root) (hm : s.mode ≠ .static)
    (hcall : HasCall s entryMethod at_ m) :
    ∃ path, Accepted s entryMethod path ∧ StatementOf s at_ path := by
  obtain ⟨hnamed, k, path, v, hv, hk, hstatement⟩ := hcall
  exact ⟨path, (accepted_iff h hm).mpr ⟨k, v, hv, hk, at_, m, hnamed, hstatement⟩, hstatement⟩

theorem Accepted.hasCall (h : LaidOut s.root) (hm : s.mode ≠ .static)
    (hpath : Accepted s entryMethod path) :
    ∃ at_ m, HasCall s entryMethod at_ m ∧ StatementOf s at_ path := by
  obtain ⟨k, v, hv, hk, at_, m, hnamed, hstatement⟩ := (accepted_iff h hm).mp hpath
  exact ⟨at_, m, ⟨hnamed, k, path, v, hv, hk, hstatement⟩, hstatement⟩

/-- One method without parameters has all the calls exactly if this is so of the methods by the name
of the entry method: those with calls have no parameters, and there are no two of them. -/
theorem oneMethod_iff (h : LaidOut s.root) (hm : s.mode ≠ .static) :
    OneMethod s entryMethod ↔
      (∀ at_ m, HasCall s entryMethod at_ m → TakesNothing m.node) ∧
      ∀ at_ m other n, HasCall s entryMethod at_ m → HasCall s entryMethod other n →
        at_ = other := by
  constructor
  · intro hone
    constructor
    · -- the one method of a call is the method that has the call
      intro at_ m hcall
      obtain ⟨path, hpath, hstatement⟩ := hcall.accepted h hm
      obtain ⟨same, m', hm', -, hnothing, hsame, -⟩ := hone path path hpath hpath
      cases hsame.unique hstatement
      cases hcall.1.place.symm.trans hm'
      exact hnothing
    · intro at_ m other n hcall hother
      obtain ⟨p, hp, hpat⟩ := hcall.accepted h hm
      obtain ⟨q, hq, hqat⟩ := hother.accepted h hm
      obtain ⟨same, -, -, -, -, hpsame, hqsame⟩ := hone p q hp hq
      exact (hpat.unique hpsame).trans (hqsame.unique hqat)
  · rintro ⟨hnothing, hsole⟩ p q hp hq
    obtain ⟨at_, m, hcall, hpat⟩ := hp.hasCall h hm
    obtain ⟨other, n, hother, hqat⟩ := hq.hasCall h hm
    cases hsole at_ m other n hcall hother
    exact ⟨at_, m, hcall.1.place, hcall.1.kind, hnothing at_ m hcall, hpat, hqat⟩

end Overloads

section Last

variable {s : Sketch} {entryMethod : String} {k : Setting} {c : Call}

theorem records_and_inPlace_iff {path : List Nat} {v : Visited} (h : LaidOut s.root)
    (hm : s.mode ≠ .static) (hv : place? s.root path = some v) :
    (Records s entryMethod v c ∧ (c.site.setting = k &&
      (c.scope = .global || c.scope = .entryMethod)) = true) ↔
        EntryCall s entryMethod k path v ∧ c = callAt s entryMethod k v := by
  rw [Bool.and_eq_true, Bool.or_eq_true, decide_eq_true_eq, decide_eq_true_eq, decide_eq_true_eq]
  constructor
  · rintro ⟨⟨l, hl, rfl⟩, rfl, hscope⟩
    refine ⟨(classify_iff_entryCall h hm hv hl).mp ?_, rfl⟩
    -- in a sketch of methods no call is a statement of the sketch itself
    apply hscope.resolve_left
    intro hglobal
    exact hm ((global_iff_inSketch hv).mp hglobal).1
  · rintro ⟨hentry, rfl⟩
    exact ⟨⟨k, hentry.sets, rfl⟩, rfl,
      .inr ((classify_iff_entryCall h hm hv hentry.sets).mpr hentry)⟩

/-- The call that decides for a setting is the last one in all methods by the name of the entry
method. -/
theorem getLast?_inPlace_iff (h : LaidOut s.root) (hm : s.mode ≠ .static) :
    (inPlace k (callsOf s entryMethod)).getLast? = some c ↔
      ∃ path v, EntryCall s entryMethod k path v ∧ c = callAt s entryMethod k v ∧
        ∀ path' v', EntryCall s entryMethod k path' v' → path' = path ∨ Before path' path := by
  have hlists := (lists_callsOf s entryMethod).filter fun c =>
    c.site.setting = k && (c.scope = .global || c.scope = .entryMethod)
  rw [inPlace, hlists.getLast?_eq_some_iff]
  apply exists₂_congr
  intro path v
  constructor
  · rintro ⟨hv, hc, hlast⟩
    obtain ⟨hentry, rfl⟩ := (records_and_inPlace_iff h hm hv).mp hc
    refine ⟨hentry, rfl, ?_⟩
    intro path' v' hentry'
    have hv' := hentry'.place
    exact hlast path' v' _ hv' ((records_and_inPlace_iff h hm hv').mpr ⟨hentry', rfl⟩)
  · rintro ⟨hentry, rfl, hlast⟩
    refine ⟨hentry.place, (records_and_inPlace_iff h hm hentry.place).mpr ⟨hentry, rfl⟩, ?_⟩
    intro path' v' d hv' hd
    exact hlast path' v' ((records_and_inPlace_iff h hm hv').mp hd).1

/-- What a survey says of a setting is what the last call in the right place amounts to, and this is
the call that is taken out if it is valid. -/
theorem finding_of_getLast? {found : Survey} (hfound : survey s entryMethod = .ok found)
    (hc : (inPlace k found.calls).getLast? = some c) :
    found.metadata.finding k =
        ⟨true, c.assessment.valid, c.assessment.failure?, c.assessment.values.of k⟩ ∧
      (c.assessment.valid = true →
        Edit.commentOut c.site.start c.site.stop ⊆ found.edits) := by
  obtain ⟨hcalls, hmetadata, hedits⟩ := survey_eq_ok hfound
  rw [hcalls] at hc
  have hlast : Recorder.lastFor k ((callsOf s entryMethod).map Call.decision) =
      some c.decision := by
    rw [Recorder.lastFor, filter_counts_callsOf, List.getLast?_map, hc]
    rfl
  constructor
  · rw [hmetadata, Recorder.finding_metadata, Recorder.findingOf, hlast]
    rfl
  · intro hvalid e he
    rw [Recorder.lastFor_eq_decision?] at hlast
    have hsite := Recorder.validSite_of_some hlast
    rw [Call.decision_assessment, if_pos hvalid] at hsite
    rw [hedits]
    apply List.mem_flatMap.mpr
    refine ⟨c.site, mem_liftedSites_iff.mpr ⟨k, ?_⟩, he⟩
    rw [hsite]
    exact List.mem_singleton_self c.site

end Last

end Settings

/-- In a sketch of methods, the calls that count are the statements of all methods by the name of the
entry method, overloads included, and the last of them decides. They belong to one method that takes
nothing exactly if no method by this name that has parameters has such calls, and no two have. -/
theorem last_overload_decides (t entryMethod : String)
    (hm : (Sketch.read (encode t)).mode ≠ .static) :
    let s := Sketch.read (encode t)
    (∀ k path v, place? s.root path = some v → Sets s k v.node →
      (classify s entryMethod v.ancestors = .entryMethod ↔ EntryCall s entryMethod k path v)) ∧
    (OneMethod s entryMethod ↔
      (∀ at_ m, HasCall s entryMethod at_ m → TakesNothing m.node) ∧
      ∀ at_ m other n, HasCall s entryMethod at_ m → HasCall s entryMethod other n →
        at_ = other) ∧
    ∃ found, survey s entryMethod = .ok found ∧ ∀ k c,
      ((inPlace k found.calls).getLast? = some c ↔
        ∃ path v, EntryCall s entryMethod k path v ∧ c = callAt s entryMethod k v ∧
          ∀ path' v', EntryCall s entryMethod k path' v' → path' = path ∨ Before path' path) ∧
      ((inPlace k found.calls).getLast? = some c →
        found.metadata.finding k =
            ⟨true, c.assessment.valid, c.assessment.failure?, c.assessment.values.of k⟩ ∧
          (c.assessment.valid = true →
            Edit.commentOut c.site.start c.site.stop ⊆ found.edits)) := by
  intro s
  have h : LaidOut s.root := (Sketch.wellPlaced_read t).inOrder.laidOut
  obtain ⟨found, hfound⟩ := exists_survey_eq_ok t entryMethod
  refine ⟨fun k path v hv hk => classify_iff_entryCall h hm hv hk, oneMethod_iff h hm, found, hfound,
    fun k c => ⟨?_, finding_of_getLast? hfound⟩⟩
  rw [(survey_eq_ok hfound).1]
  exact getLast?_inPlace_iff h hm

/-- A sketch with an overload of its entry method that has no calls. -/
def idleOverload : String := "void f(int a)\x7b\x7dvoid f()\x7bsize(1,2);\x7d"

/-- Here the calls belong to the method that runs at the start. -/
theorem last_overload_decides_idle :
    let s := Sketch.read (encode idleOverload)
    s.mode ≠ .static ∧ OneMethod s "f" ∧ Accepted s "f" [1, 3, 1, 0] ∧
      ∃ found, survey s "f" = .ok found ∧ found.metadata.finding .size =
        ⟨true, true, none, { width := some "1", height := some "2" }⟩ := by
  intro s
  have hrun : s.mode ≠ .static ∧ (∀ m ∈ place? s.root [1], TakesNothing m.node) ∧
      (∀ x ∈ placed [] s.root, settingOf? s x.2.node ≠ none → x.1 = [1, 3, 1, 0]) ∧
      (∃ v ∈ place? s.root [1, 3, 1, 0], settingOf? s v.node = some .size ∧
        classify s "f" v.ancestors = .entryMethod) ∧
      (inPlace .size (callsOf s "f")).getLast?.map (·.assessment) =
        some ⟨true, { width := some "1", height := some "2" }, none⟩ := by
    decide +kernel
  obtain ⟨hm, hnothing, hall, ⟨v, hv, hk, hscope⟩, hlast⟩ := hrun
  obtain ⟨-, hone, found, hfound, hdecides⟩ := last_overload_decides idleOverload "f" hm
  -- there is only one call, and so only one method that has it
  have honly {at_ : List Nat} {m : Visited} (hcall : HasCall s "f" at_ m) : at_ = [1] := by
    obtain ⟨-, k, path, w, hw, hl, hstatement⟩ := hcall
    have hset : settingOf? s w.node ≠ none := by
      rw [settingOf?_eq_some_iff.mpr hl]
      exact Option.some_ne_none k
    have hsame : path = [1, 3, 1, 0] :=
      hall (path, w) ((mem_placed_iff s.root [] path w).mpr hw) hset
    rw [hstatement.eq_take, hsame]
    rfl
  refine ⟨hm, hone.mpr ⟨fun at_ m hcall => ?_, fun at_ m other n hcall hother => ?_⟩,
    ⟨.size, v, hv, settingOf?_eq_some_iff.mp hk, hscope⟩, found, hfound, ?_⟩
  · have hplace := hcall.1.place
    rw [honly hcall] at hplace
    exact hnothing m hplace
  · rw [honly hcall, honly hother]
  · obtain ⟨c, hc, hassessment⟩ := Option.map_eq_some_iff.mp hlast
    rw [← (survey_eq_ok hfound).1] at hc
    rw [((hdecides .size c).2 hc).1, hassessment]
    rfl

/-- A sketch with an overload of its entry method that has a call as well. -/
def busyOverload : String := "void f()\x7bsize(1,2);\x7dvoid f(int a)\x7bsize(3,4);\x7d"

/-- The size is that of the overload, which does not run at the start, and this call is the one that
is taken out. -/
theorem overload_replaces_size :
    let s := Sketch.read (encode busyOverload)
    s.mode = .active ∧ Accepted s "f" [0, 3, 1, 0] ∧ Accepted s "f" [1, 3, 1, 0] ∧
      (∃ m, place? s.root [1] = some m ∧ ¬TakesNothing m.node) ∧ ¬OneMethod s "f" ∧
      ∃ found, survey s "f" = .ok found ∧ found.metadata.width = some "3" ∧
        found.edits = Edit.commentOut 34 43 := by
  intro s
  have hrun : s.mode = .active ∧
      (∃ v ∈ place? s.root [0, 3, 1, 0], settingOf? s v.node = some .size ∧
        classify s "f" v.ancestors = .entryMethod) ∧
      (∃ v ∈ place? s.root [1, 3, 1, 0], settingOf? s v.node = some .size ∧
        classify s "f" v.ancestors = .entryMethod) ∧
      (∃ m ∈ place? s.root [1], ¬TakesNothing m.node) ∧
      (survey s "f").toOption.map (fun found => (found.metadata.width, found.edits)) =
        some (some "3", Edit.commentOut 34 43) := by
    decide +kernel
  obtain ⟨hm, ⟨v, hv, hk, hscope⟩, ⟨w, hw, hl, hwscope⟩, hparameter, hsurvey⟩ := hrun
  have hfirst : Accepted s "f" [0, 3, 1, 0] :=
    ⟨.size, v, hv, settingOf?_eq_some_iff.mp hk, hscope⟩
  have hsecond : Accepted s "f" [1, 3, 1, 0] :=
    ⟨.size, w, hw, settingOf?_eq_some_iff.mp hl, hwscope⟩
  refine ⟨hm, hfirst, hsecond, hparameter, fun hone => ?_, ?_⟩
  · -- a statement of one method is not a statement of the other
    obtain ⟨at_, -, -, -, -, hstatement, hother⟩ := hone _ _ hfirst hsecond
    cases hstatement.eq_take.symm.trans hother.eq_take
  · cases hfound : survey s "f" with
    | error e =>
      rw [hfound] at hsurvey
      cases hsurvey
    | ok found =>
      rw [hfound] at hsurvey
      have hpair := Prod.mk.inj (Option.some.inj hsurvey)
      exact ⟨found, rfl, hpair.1, hpair.2⟩

end Sketchbook
