import Sketchbook.Proofs.Recovering

/-!
Machines that are sound: all versions stand on parts that fit, the token read last fits where it was
read, and so does a reading of the whole text at its beginning. Main statement: a sound machine that
goes on after an error is sound again.
-/
namespace Sketchbook.Syntax

open Sketchbook.Syntax.Derivation Sketchbook.Syntax.Stack

variable {R : Nat → Prop} {s : Stack} {ps : List Post} {p v : Nat} {m : Machine}
  {token : Derivation}

namespace Machine

/-- What holds of a machine at work on a text whose places are given. -/
structure Sound (R : Nat → Prop) (ps : List Post) (m : Machine) : Prop where
  stack : Keeps R ps m.stack
  recent : ∀ p t, m.recent? = some (p, t) → Fits R p t
  finished : ∀ d, m.finished? = some d → Fits R 0 d

theorem Sound.withStack {qs : List Post} (h : m.Sound R ps) (hs : Keeps R qs s) :
    Sound R qs { m with stack := s } :=
  ⟨hs, h.recent, h.finished⟩

theorem fits_rootOf {parts : List Derivation} (h : FitAll R p parts) {root : Derivation}
    (hroot : rootOf parts = some root) : Fits R p root := by
  unfold rootOf at hroot
  dsimp only at hroot
  split at hroot
  · rename_i d before hdrop
    have hparts : parts = before.reverse ++ [d] ++ (parts.reverse.takeWhile isExtra).reverse := by
      rw [← List.reverse_cons, ← hdrop, ← List.reverse_append, List.takeWhile_append_dropWhile,
        List.reverse_reverse]
    rw [hparts, fitAll_append, fitAll_append, widthAll_append, widthAll_singleton] at h
    obtain ⟨⟨hbefore, hd⟩, hafter⟩ := h
    obtain ⟨hopened, hwidth⟩ := fitAll_opened (fitAll_singleton.mp hd)
    obtain rfl := Option.some.inj hroot
    apply fits_ofParts
    rw [fitAll_append, fitAll_append, widthAll_append, hwidth]
    exact ⟨⟨hbefore, hopened⟩, hafter⟩
  · cases hroot

theorem Sound.addReading (h : m.Sound R ps) {root : Derivation} (hroot : Fits R 0 root) :
    (m.addReading root).Sound R ps := by
  refine ⟨h.stack, h.recent, ?_⟩
  intro d hd
  unfold Machine.addReading at hd
  dsimp only at hd
  obtain rfl := Option.some.inj hd
  split
  · split_ifs
    · exact hroot
    · exact h.finished _ ‹_›
  · exact hroot

theorem Sound.addReadings {slices : List Slice} (h : m.Sound R ps)
    (hs : ∀ x ∈ slices, FitAll R 0 x.parts) :
    (slices.foldl (fun m x => match rootOf x.parts with
      | some root => m.addReading root
      | none => m) m).Sound R ps := by
  induction slices generalizing m with
  | nil => exact h
  | cons x slices ih =>
    apply ih _ fun y hy => hs y (List.mem_cons_of_mem x hy)
    dsimp only
    split
    · rename_i root hroot
      exact h.addReading (fits_rootOf (hs x List.mem_cons_self) hroot)
    · exact h

theorem Sound.accept (h : m.Sound R ps) (hv : ps[v]? = some ⟨p, none⟩) (ht : Fits R p token) :
    ∃ q, (m.accept v token).Sound R (ps.set v ⟨q, none⟩) := by
  have hjoins : Joins R p (some token) (p + token.width) := ⟨ht, rfl⟩
  obtain ⟨hlt, -⟩ := List.getElem?_eq_some_iff.mp hv
  have hend := List.getElem?_set_self (a := (⟨p + token.width, none⟩ : Post)) hlt
  obtain ⟨qs, hpushed⟩ := h.stack.push hv hjoins State.start
  obtain ⟨more, hpopped, hpending⟩ := hpushed.popAll (getElem?_append_of_getElem? hend _)
  have hkeeps : Keeps R (ps.set v ⟨p + token.width, none⟩) _ := hpopped.keeps.of_append.of_append
  refine ⟨p + token.width, ?_⟩
  unfold Machine.accept
  dsimp only
  generalize (m.stack.push v (some token) State.start).popAll v = popped at hpending hkeeps ⊢
  obtain ⟨s, slices⟩ := popped
  -- the whole stack is taken off, so what was taken off fits from the beginning
  have hreadings : ∀ x ∈ slices, FitAll R 0 x.parts := by
    intro x hx
    obtain ⟨-, q, -, rfl, hfits, -⟩ := hpending.held x hx
    exact hfits
  refine (h.addReadings hreadings).withStack ?_
  have hhalt {t : Stack} (ht : Keeps R (ps.set v ⟨p + token.width, none⟩) t) :
      Keeps R (ps.set v ⟨p + token.width, none⟩) (t.halt v) := by
    have hhalted := ht.halt hend
    rwa [set_same hend] at hhalted
  cases slices with
  | nil => exact hhalt hkeeps
  | cons x slices =>
    have hbase := (hpending.held x List.mem_cons_self).1
    rw [List.length_append] at hbase
    exact hhalt (hkeeps.removeVersion (by omega))

theorem Sound.betterExists (h : m.Sound R ps) (v : Nat) (inError : Bool) (cost : Nat) :
    (m.betterExists v inError cost).1.Sound R ps := by
  unfold Machine.betterExists
  dsimp only
  split_ifs
  · exact h
  · obtain ⟨qs, hs⟩ := h.stack
    exact h.withStack ⟨qs, reaches_betterAmong (hs.settle v)⟩

theorem keeps_dropInactive {fuel w : Nat} (h : Keeps R ps s) (hw : ps.length ≤ w) :
    Keeps R ps (dropInactive fuel w s) := by
  induction fuel generalizing w s with
  | zero => exact h
  | succ fuel ih =>
    rw [dropInactive]
    split_ifs
    · exact ih h (Nat.le_succ_of_le hw)
    · exact ih (h.removeVersion hw) hw
    · exact h

theorem set_append_ready_of_le {qs : List Nat} {q : Nat} (hv : ps.length ≤ v) :
    (ps ++ ready qs).set v ⟨q, none⟩ = ps ++ ready (qs.set (v - ps.length) q) := by
  rw [List.set_append_right _ _ hv, ready_set]

/-- The slices that are left when reading goes back to an earlier state. Those of the version that was
changed last come first. -/
structure Left (R : Nat → Prop) (base : Nat) (last? : Option Nat) (slices : List Slice)
    (qs : List Nat) : Prop where
  sorted : slices.Pairwise fun x y => x.version ≤ y.version
  least : ∀ n, last? = some n → ∀ x ∈ slices, n ≤ x.version
  held : ∀ x ∈ slices, last? ≠ some x.version →
    base ≤ x.version ∧ ∃ q, qs[x.version - base]? = some q ∧ FitAll R q x.parts

theorem Left.tail {base : Nat} {last? : Option Nat} {x : Slice} {slices : List Slice}
    {qs : List Nat} (h : Left R base last? (x :: slices) qs) : Left R base last? slices qs :=
  ⟨(List.pairwise_cons.mp h.sorted).2, fun n hn y hy => h.least n hn y (List.mem_cons_of_mem x hy),
    fun y hy => h.held y (List.mem_cons_of_mem x hy)⟩

theorem Left.change {base : Nat} {last? : Option Nat} {x : Slice} {slices : List Slice}
    {qs rs : List Nat} (h : Left R base last? (x :: slices) qs) (hx : last? ≠ some x.version)
    (hsame : ∀ n q, n ≠ x.version - base → qs[n]? = some q → rs[n]? = some q) :
    Left R base (some x.version) slices rs := by
  obtain ⟨hfirst, hsorted⟩ := List.pairwise_cons.mp h.sorted
  obtain ⟨hxbase, -⟩ := h.held x List.mem_cons_self hx
  refine ⟨hsorted, ?_, ?_⟩
  · rintro n ⟨⟩ y hy
    exact hfirst y hy
  · intro y hy hne
    have hxy := hfirst y hy
    have hlast : last? ≠ some y.version := by
      rintro rfl
      have := h.least y.version rfl x List.mem_cons_self
      exact hne (congrArg some (Nat.le_antisymm hxy this))
    obtain ⟨hbase, q, hq, hfits⟩ := h.held y (List.mem_cons_of_mem x hy) hlast
    refine ⟨hbase, q, hsame _ q ?_ hq, hfits⟩
    intro heq
    exact hne (congrArg some (by omega))

theorem keeps_returnTo {goal : State} {last? : Option Nat} {did : Bool} {slices : List Slice}
    {qs : List Nat} (h : Reaches R s (ps ++ ready qs))
    (hleft : Left R ps.length last? slices qs) :
    Keeps R ps (returnTo v goal last? did s slices).1 := by
  induction slices generalizing s last? did qs with
  | nil => exact ⟨qs, h⟩
  | cons x slices ih =>
    rw [returnTo]
    -- the induction is on the slices; the versions of those that are left keep their places
    by_cases hlast : last? = some x.version
    · rw [if_pos hlast]
      exact ih h hleft.tail
    rw [if_neg hlast]
    obtain ⟨hbase, q, hq, hfits⟩ := hleft.held x List.mem_cons_self hlast
    have hat : (ps ++ ready qs)[x.version]? = some ⟨q, none⟩ := by
      rw [List.getElem?_append_right hbase, getElem?_ready hq]
    by_cases hgoal : s.state x.version ≠ goal
    · rw [if_pos hgoal]
      have hhalted := h.halt hat
      rw [set_same hat] at hhalted
      exact ih hhalted hleft.tail
    rw [if_neg hgoal]
    obtain ⟨q', more, hpopped, herrors, hspans⟩ := h.popError hat
    dsimp only
    generalize s.popError x.version = popped at hpopped herrors hspans ⊢
    obtain ⟨s, errors⟩ := popped
    dsimp only at hpopped herrors hspans ⊢
    -- what was taken off, behind the error that lay right below it
    have hparts : FitAll R q' (errors.flatMap opened ++ x.parts) := by
      obtain ⟨hopened, hwidth⟩ := fitAll_flatMap_opened herrors
      rw [fitAll_append, hwidth, hspans]
      exact ⟨hopened, hfits⟩
    rw [set_append_ready_of_le hbase, List.append_assoc, ← ready_append] at hpopped
    have hi : x.version - ps.length < (qs.set (x.version - ps.length) q').length := by
      rw [List.length_set]
      exact (List.getElem?_eq_some_iff.mp hq).1
    have hsame : ∀ n r, n ≠ x.version - ps.length → qs[n]? = some r →
        (qs.set (x.version - ps.length) q' ++ more)[n]? = some r := by
      intro n r hne hn
      rw [List.getElem?_append_left, List.getElem?_set_ne hne.symm, hn]
      rw [List.length_set]
      exact (List.getElem?_eq_some_iff.mp hn).1
    have hat : (ps ++ ready (qs.set (x.version - ps.length) q' ++ more))[x.version]? =
        some ⟨q', none⟩ := by
      rw [List.getElem?_append_right hbase]
      apply getElem?_ready
      rw [List.getElem?_append_left hi, List.getElem?_eq_getElem hi, List.getElem_set_self]
    generalize qs.set (x.version - ps.length) q' ++ more = rs at hpopped hsame hat
    generalize errors.flatMap opened ++ x.parts = parts at hparts ⊢
    rw [← splitExtras_append parts, fitAll_append] at hparts
    generalize splitExtras parts = split at hparts ⊢
    obtain ⟨parts, extras⟩ := split
    obtain ⟨hparts, hextras⟩ := hparts
    dsimp only at hparts hextras ⊢
    -- the parts go back on the stack as one error
    have herror : Reaches R (if parts.isEmpty then s
        else s.push x.version (some (Derivation.ofError parts true)) goal)
        ((ps ++ ready rs).set x.version ⟨q' + widthAll parts, none⟩) := by
      split_ifs with hempty
      · rw [List.isEmpty_iff.mp hempty, widthAll, Nat.add_zero, set_same hat]
        exact hpopped
      · have hjoins : Joins R q' (some (Derivation.ofError parts true)) (q' + widthAll parts) := by
          refine ⟨fits_ofError true hparts, ?_⟩
          rw [width_ofError]
        exact hpopped.push hat hjoins goal
    have hhere : ((ps ++ ready rs).set x.version ⟨q' + widthAll parts, none⟩)[x.version]? =
        some ⟨q' + widthAll parts, none⟩ :=
      List.getElem?_set_self (List.getElem?_eq_some_iff.mp hat).1
    have hall := herror.pushAll hhere hextras goal
    rw [List.set_set, set_append_ready_of_le hbase] at hall
    apply ih hall
    apply hleft.change hlast
    intro n r hne hn
    rw [List.getElem?_set_ne hne.symm]
    exact hsame n r hne hn

theorem keeps_recoverTo {depth : Nat} {goal : State} (h : Keeps R ps s)
    (hv : ps[v]? = some ⟨p, none⟩) : Keeps R ps (recoverTo s v depth goal).1 := by
  obtain ⟨qs, h⟩ := h
  obtain ⟨more, hpopped, hpending⟩ := h.popCount (getElem?_append_of_getElem? hv _) depth
  have hleft : Left R (ps ++ ready qs).length none (s.popCount v depth).2 more := by
    refine ⟨hpending.sorted, ?_, ?_⟩
    · intro n hn
      cases hn
    · intro x hx _
      obtain ⟨hbase, q, hq, -, hfits, -⟩ := hpending.held x hx
      exact ⟨hbase, q, hq, hfits⟩
  exact (keeps_returnTo hpopped hleft).of_append

theorem Sound.resumeEarlier {place : Extent} {hasNodes : Bool} {cost versions : Nat}
    {rs : List Resumption} (h : m.Sound R ps) (hv : ps[v]? = some ⟨p, none⟩) :
    (resumeEarlier v token place hasNodes cost versions m rs).1.Sound R ps := by
  induction rs generalizing m with
  | nil => exact h
  | cons r rs ih =>
    rw [Machine.resumeEarlier]
    dsimp only
    split
    · exact ih h
    split
    · exact ih h
    generalize hbetter : m.betterExists v false _ = better
    have hm : better.1.Sound R ps := hbetter ▸ h.betterExists v false _
    obtain ⟨m, needless⟩ := better
    dsimp only at hm ⊢
    split
    · exact hm
    split
    · exact ih hm
    -- what is left is to go back to the state, which may turn out to be out of reach
    generalize hreturned : recoverTo m.stack v _ r.state = returned
    have hs : Keeps R ps returned.1 := hreturned ▸ keeps_recoverTo hm.stack hv
    obtain ⟨s, did⟩ := returned
    dsimp only at hs ⊢
    split
    · exact hm.withStack hs
    · exact ih (hm.withStack hs)

theorem exists_keeps_skipToken {hasNodes : Bool} (h : Keeps R ps s)
    (hv : ps[v]? = some ⟨p, none⟩) (ht : Fits R p token) :
    ∃ q, Keeps R (ps.set v ⟨q, none⟩) (skipToken s v hasNodes token) := by
  obtain ⟨hlt, -⟩ := List.getElem?_eq_some_iff.mp hv
  have hpush {t : Stack} {q : Nat} {d : Derivation} (ht : Keeps R (ps.set v ⟨q, none⟩) t)
      (hd : Fits R q d) :
      ∃ q, Keeps R (ps.set v ⟨q, none⟩) (t.push v (some d) State.skipping) := by
    have hjoins : Joins R q (some d) (q + d.width) := ⟨hd, rfl⟩
    have hpushed := ht.push (List.getElem?_set_self hlt) hjoins State.skipping
    rw [List.set_set] at hpushed
    exact ⟨_, hpushed⟩
  have hstart : Keeps R (ps.set v ⟨p, none⟩) s := (set_same hv).symm ▸ h
  have hmarked (extra : Bool) :
      Fits R p (Derivation.ofParts Symbol.skipped 0 [token.setExtra extra]) := by
    apply fits_ofParts
    rw [fitAll_singleton, fits_setExtra]
    exact ht
  unfold skipToken
  dsimp only
  generalize hmark : Derivation.ofParts Symbol.skipped 0 [token.setExtra _] = skipped
  have hskipped : Fits R p skipped := hmark ▸ hmarked _
  cases hasNodes with
  | false => exact hpush hstart hskipped
  | true =>
    obtain ⟨qs, h⟩ := h
    obtain ⟨more, hpopped, hpending⟩ := h.popCount (getElem?_append_of_getElem? hv _) 1
    rw [if_pos rfl]
    generalize s.popCount v 1 = popped at hpopped hpending ⊢
    obtain ⟨s', slices⟩ := popped
    dsimp only at hpopped hpending ⊢
    cases slices with
    | nil =>
      apply hpush _ hskipped
      rw [set_same hv]
      exact hpopped.keeps.of_append.of_append
    | cons x slices =>
      obtain ⟨q, rs, rfl, hx, -, hfits, -⟩ := hpending.cons
      obtain ⟨hparts, hspans⟩ := hfits x List.mem_cons_self hx
      -- what was skipped before is taken off the version, to be put back with the new token
      have hcut : ∃ rs, Reaches R (if 1 < (x :: slices).length
          then { s' with versions := s'.versions.take (x.version + 1) } else s')
          (ps ++ ready qs ++ ready (q :: rs)) := by
        split_ifs
        · refine ⟨[], ?_⟩
          have htake := hpopped.take (x.version + 1)
          rw [hx, List.take_append, List.take_of_length_le (Nat.le_succ _),
            Nat.add_sub_cancel_left] at htake
          rw [hx]
          exact htake
        · exact ⟨rs, hpopped⟩
      obtain ⟨rs, hcut⟩ := hcut
      have hreplaced := hcut.replaceVersion_ready (v := v) (by rw [List.length_append]; omega)
      rw [List.set_append_left _ _ hlt, ← hx] at hreplaced
      apply hpush hreplaced.keeps.of_append.of_append
      apply fits_ofParts
      rw [fitAll_append, hspans, fitAll_singleton]
      exact ⟨hparts, hskipped⟩

theorem Sound.goBack {place : Extent} {hasNodes : Bool} {cost versions : Nat} (h : m.Sound R ps)
    (hv : ps[v]? = some ⟨p, none⟩) :
    (m.goBack v token place hasNodes cost versions).1.Sound R ps := by
  unfold Machine.goBack
  split
  · split_ifs
    · exact h
    · exact h.resumeEarlier hv
  · exact h

theorem Sound.recover (h : m.Sound R ps) (hv : ps[v]? = some ⟨p, none⟩) (ht : Fits R p token) :
    ∃ qs, (m.recover v token).Sound R qs ∧ v < qs.length := by
  obtain ⟨qs, hs⟩ := h.stack
  replace hv := getElem?_append_of_getElem? hv (ready qs)
  generalize ps ++ ready qs = ps at hs hv
  obtain ⟨hlt, -⟩ := List.getElem?_eq_some_iff.mp hv
  have hlt' (q : Nat) : v < (ps.set v ⟨q, none⟩).length := by rwa [List.length_set]
  have hsettled : Sound R ps { m with stack := m.stack.settle v } :=
    h.withStack (hs.settle v).keeps
  unfold Machine.recover
  dsimp only
  generalize hback : Machine.goBack _ v token _ _ _ _ = back
  have hm : back.1.Sound R ps := hback ▸ hsettled.goBack hv
  obtain ⟨m', did⟩ := back
  dsimp only at hm ⊢
  -- the versions that go back and lead nowhere are dropped
  have hkept : Keeps R ps (dropInactive (m'.stack.versionCount + 1) m.stack.versionCount m'.stack) :=
    keeps_dropInactive hm.stack (Nat.le_of_eq hs.length)
  have hhalt {m : Machine} (h : m.Sound R ps) :
      ∃ qs, Sound R qs { m with stack := m.stack.halt v } ∧ v < qs.length :=
    ⟨_, h.withStack (h.stack.halt hv), hlt' p⟩
  have hskip {m : Machine} (h : m.Sound R ps) {hasNodes : Bool} :
      ∃ qs, Sound R qs { m with stack := skipToken m.stack v hasNodes token } ∧ v < qs.length := by
    obtain ⟨q, hq⟩ := exists_keeps_skipToken h.stack hv ht
    exact ⟨_, h.withStack hq, hlt' q⟩
  split_ifs
  · -- at the end of the text the version is complete, with an error that takes up nothing
    have hjoins : Joins R p (some (Derivation.ofError [] false)) p :=
      ⟨fits_ofError false trivial, rfl⟩
    have hpushed := hkept.push hv hjoins State.start
    rw [set_same hv] at hpushed
    obtain ⟨q, hq⟩ := (hm.withStack hpushed).accept hv ht
    exact ⟨_, hq, hlt' q⟩
  · exact hhalt (hm.withStack hkept)
  · exact hhalt ((hm.withStack hkept).betterExists v false _)
  · exact hskip ((hm.withStack hkept).betterExists v false _)

theorem Sound.handleError (h : m.Sound R ps) (hv : ps[v]? = some ⟨p, none⟩) (ht : Fits R p token) :
    ∃ qs, (m.handleError v token).Sound R qs ∧ v < qs.length := by
  obtain ⟨qs, hs⟩ := h.stack
  replace hv := getElem?_append_of_getElem? hv (ready qs)
  generalize ps ++ ready qs = ps at hs hv
  have hlength := hs.length
  obtain ⟨hlt, -⟩ := List.getElem?_eq_some_iff.mp hv
  unfold Machine.handleError
  dsimp only
  have hreduced : Keeps R ps (reduceAll m.stack v none).1 :=
    keeps_reduceAll hs.keeps (by omega) (.inr ⟨rfl, p, hv⟩)
  generalize reduceAll m.stack v none = reduced at hreduced ⊢
  obtain ⟨s, takes⟩ := reduced
  obtain ⟨rs, hreduced⟩ := hreduced
  -- on each of the versions a missing token is tried or an error put
  have hmarked : Keeps R (ps ++ ready rs) (markErrors token false s
      (v :: (List.range s.versionCount).drop m.stack.versionCount)) := by
    apply keeps_markErrors hreduced.keeps
    intro w hw
    rcases List.mem_cons.mp hw with rfl | hw
    · exact ⟨p, getElem?_append_of_getElem? hv _⟩
    · -- the others have come of closing rules
      obtain ⟨i, hi⟩ := List.getElem?_of_mem hw
      rw [List.getElem?_drop, List.getElem?_eq_some_iff] at hi
      obtain ⟨hrange, rfl⟩ := hi
      rw [List.length_range, ← hreduced.length, List.length_append, length_ready, ← hlength] at hrange
      rw [List.getElem_range, ← hlength]
      refine ⟨rs[i], ?_⟩
      rw [List.getElem?_append_right (by omega), Nat.add_sub_cancel_left]
      exact getElem?_ready (List.getElem?_eq_getElem (by omega))
  have hjoined := keeps_joinAll (v := v) (n := s.versionCount - m.stack.versionCount) hmarked.of_append
    (Nat.le_of_eq hlength)
  obtain ⟨rs, hjoined⟩ := hjoined
  have hrecorded := hjoined.recordResumptions (getElem?_append_of_getElem? hv _)
  exact (h.withStack hrecorded.keeps.of_append).recover hv ht

end Machine

end Sketchbook.Syntax
