import Sketchbook.Proofs.Resuming
import Sketchbook.Proofs.Scanning
import Sketchbook.Syntax.Parser

namespace Sketchbook.Syntax

open Sketchbook.Syntax.Derivation Sketchbook.Syntax.Stack

variable {R : Nat → Prop} {s : Stack} {ps : List Post} {p v : Nat} {m : Machine}
  {token : Derivation} {text : Glyphs}

namespace Machine

theorem reaches_applyActions {x : Post} {last? : Option Nat} {did : Bool} {as : List Action} {j : Nat}
    (h : Reaches R s (ps ++ ready (List.replicate j x.place))) (hv : ps[v]? = some x)
    (hlast : ∀ w, last? = some w → ps.length ≤ w ∧ w < ps.length + j) :
    ∃ k, Reaches R (applyActions v s last? did as).1 (ps ++ ready (List.replicate k x.place)) ∧
      ∀ w, (applyActions v s last? did as).2.2.1 = some w →
        ps.length ≤ w ∧ w < ps.length + k := by
  induction as generalizing s last? did j with
  | nil => exact ⟨j, h, hlast⟩
  | cons a as ih =>
    cases a with
    | repetition => exact ih h hlast
    | reduce symbol count precedence production =>
      obtain ⟨k, hk, hnew⟩ :=
        reaches_reduce h (getElem?_append_of_getElem? hv _) symbol count precedence production
      rw [List.append_assoc, ← ready_append, List.replicate_append_replicate] at hk
      rw [List.length_append, length_ready, List.length_replicate] at hnew
      -- the last version that was added is one of all those that were added
      refine ih hk ?_
      intro w hw
      split at hw
      · rename_i w' hadded
        obtain rfl := Option.some.inj hw
        have := hnew _ hadded
        omega
      · have := hlast w hw
        omega
    | _ => exact ⟨j, h, hlast⟩

theorem Sound.shift (h : m.Sound R ps) (hv : ps[v]? = some ⟨p, none⟩) (ht : Fits R p token)
    (next : State) (extra : Bool) :
    Sound R (ps.set v ⟨p + token.width, none⟩) (m.shift v next token extra) := by
  have hjoins : Joins R p (some (token.setExtra extra)) (p + token.width) := by
    refine ⟨(fits_setExtra extra).mpr ht, ?_⟩
    rw [width_setExtra]
  exact h.withStack (h.stack.push hv hjoins next)

theorem Sound.handleToken {fuel : Nat} {set : ActionSet} (h : m.Sound R ps)
    (hv : ps[v]? = some ⟨p, none⟩) (ht : Fits R p token) :
    ∃ qs, (m.handleToken v fuel token set).Sound R qs ∧ v < qs.length := by
  obtain ⟨hlt, -⟩ := List.getElem?_eq_some_iff.mp hv
  induction fuel generalizing m token set with
  | zero => exact ⟨ps, h, hlt⟩
  | succ fuel ih =>
    have hlt' (x : Post) : v < (ps.set v x).length := by rwa [List.length_set]
    obtain ⟨qs, hs⟩ := h.stack
    rw [Machine.handleToken.eq_def]
    dsimp only
    generalize happly : applyActions v m.stack none false set.actions = applied
    -- closing rules adds versions and moves none
    obtain ⟨k, hk, hlast⟩ : ∃ k, Reaches R applied.1 (ps ++ ready qs ++ ready (List.replicate k p)) ∧
        ∀ w, applied.2.2.1 = some w →
          (ps ++ ready qs).length ≤ w ∧ w < (ps ++ ready qs).length + k := by
      rw [← happly]
      apply reaches_applyActions (j := 0) _ (getElem?_append_of_getElem? hv _)
      · intro w hw
        cases hw
      · rw [List.replicate_zero, append_ready_nil]
        exact hs
    obtain ⟨s, final?, last?, did⟩ := applied
    dsimp only at hk hlast ⊢
    have hkept : Keeps R ps s := hk.keeps.of_append.of_append
    have hm := h.withStack hkept
    split
    · exact ⟨_, hm.shift hv ht _ false, hlt' _⟩
    · exact ⟨_, hm.shift hv ht _ true, hlt' _⟩
    · obtain ⟨q, hq⟩ := hm.accept hv ht
      exact ⟨_, hq, hlt' _⟩
    · exact hm.recover hv ht
    · cases last? with
      | some w =>
        obtain ⟨hle, hw⟩ := hlast w rfl
        -- the version that takes the place of this one stands where it stood
        exact ih (hm.withStack (hk.keeps_replaceVersion
          (getElem?_append_of_getElem? hv _) hle hw)) ht
      | none =>
        dsimp only
        split_ifs
        · exact ⟨_, hm.withStack (hkept.halt hv), hlt' _⟩
        · exact ih hm (fits_asWord ht)
        · exact hm.recover hv ht
        · exact ⟨_, hm.withStack (hkept.pause hv ht), hlt' _⟩

theorem waiting?_eq_none (h : s.isActive v = true) : waiting? (s.version v) = none := by
  unfold isActive at h
  unfold waiting?
  split at h
  · rename_i hstatus
    rw [hstatus]
  · cases h

theorem exists_getElem?_of_isActive (h : Reaches R s ps) (hv : v < ps.length)
    (hactive : s.isActive v = true) : ∃ p, ps[v]? = some ⟨p, none⟩ := by
  have hget := List.getElem?_eq_getElem hv
  have hpost := h.post_version hget
  rw [post, waiting?_eq_none hactive] at hpost
  rw [← hpost] at hget
  exact ⟨_, hget⟩

theorem Sound.nextToken (h : m.Sound (Ends text) ps) {x : Post} (hv : ps[v]? = some x) :
    (nextToken text m v).1.Sound (Ends text) ps ∧
      Fits (Ends text) x.place (nextToken text m v).2 := by
  obtain ⟨qs, hs⟩ := h.stack
  have hat := getElem?_append_of_getElem? hv (ready qs)
  have hplace := hs.place_eq hat
  have hends := hs.ends hat
  unfold Machine.nextToken
  dsimp only
  split
  · rename_i t hkept
    refine ⟨h, ?_⟩
    split at hkept
    · rename_i at_ t' hrecent
      split_ifs at hkept with huse
      obtain rfl := Option.some.inj hkept
      -- a token that is kept was read at this very place
      rw [Bool.and_eq_true, decide_eq_true_eq, hplace] at huse
      rw [← huse.1]
      exact h.recent _ _ hrecent
    · cases hkept
  · have hread : Fits (Ends text) (m.stack.place v).bytes
        (readToken text (m.stack.state v) (m.stack.place v)) :=
      fits_readToken _ (hplace ▸ hends)
    refine ⟨⟨h.stack, ?_, h.finished⟩, ?_⟩
    · rintro _ _ ⟨⟩
      exact hread
    · rw [← hplace]
      exact hread

theorem exists_sound_advance (h : m.Sound (Ends text) ps) (hv : ps[v]? = some ⟨p, none⟩) :
    ∃ qs, (advance text m v).Sound (Ends text) qs ∧ v < qs.length := by
  obtain ⟨hm, ht⟩ := h.nextToken hv
  exact hm.handleToken hv ht

theorem exists_sound_advanceBeyond {fuel last : Nat} (h : m.Sound (Ends text) ps)
    (hv : v < ps.length) : ∃ qs, (advanceBeyond text v fuel last m).1.Sound (Ends text) qs := by
  induction fuel generalizing m ps last with
  | zero => exact ⟨ps, h⟩
  | succ fuel ih =>
    rw [advanceBeyond]
    by_cases hactive : m.stack.isActive v = true
    · rw [if_pos hactive]
      obtain ⟨qs, hs⟩ := h.stack
      have hv' : v < (ps ++ ready qs).length := by
        rw [List.length_append]
        exact Nat.lt_add_right _ hv
      obtain ⟨p, hp⟩ := exists_getElem?_of_isActive hs hv' hactive
      obtain ⟨rs, hadvanced, hlt⟩ := exists_sound_advance (h.withStack hs.keeps) hp
      dsimp only
      split
      · exact ⟨rs, hadvanced⟩
      · exact ih hadvanced hlt
    · rw [if_neg hactive]
      exact ⟨ps, h⟩

theorem exists_sound_advanceAll {fuel v last : Nat} (h : m.Sound (Ends text) ps) :
    ∃ qs, (advanceAll text fuel v last m).1.Sound (Ends text) qs := by
  induction fuel generalizing m ps v last with
  | zero => exact ⟨ps, h⟩
  | succ fuel ih =>
    rw [advanceAll]
    split_ifs with hv
    · obtain ⟨qs, hs⟩ := h.stack
      rw [← hs.length] at hv
      generalize hbeyond : advanceBeyond text v _ last m = beyond
      obtain ⟨rs, hadvanced⟩ : ∃ rs, beyond.1.Sound (Ends text) rs :=
        hbeyond ▸ exists_sound_advanceBeyond (h.withStack hs.keeps) hv
      exact ih hadvanced
    · exact ⟨ps, h⟩

theorem exists_reaches_swapVersions {v w : Nat} (h : Reaches R s ps) :
    ∃ qs, Reaches R (s.swapVersions v w) qs :=
  ⟨_, (h.setVersion v (s.version w) (h.top_lt w) (h.waits_version w)).setVersion w (s.version v)
    (h.top_lt v) (h.waits_version v)⟩

theorem exists_reaches_compete {fuel v w : Nat} {mine : Standing} (h : Reaches R s ps) :
    ∃ qs, Reaches R (compete fuel v w mine s).1 qs := by
  induction fuel generalizing s ps v w with
  | zero => exact ⟨ps, h⟩
  | succ fuel ih =>
    rw [compete]
    split_ifs
    · have hs := h.settle w
      dsimp only
      split
      · exact ⟨_, hs.removeVersion v⟩
      · exact ih (hs.removeVersion w)
      · split
        · rename_i s' hmerge
          exact ⟨_, hs.merge? hmerge⟩
        · obtain ⟨qs, hswapped⟩ := exists_reaches_swapVersions (v := v) (w := w) hs
          exact ih hswapped
      · split
        · rename_i s' hmerge
          exact ⟨_, hs.merge? hmerge⟩
        · exact ih hs
    · exact ⟨ps, h⟩

theorem exists_reaches_sortVersions {fuel v : Nat} {least? : Option Nat} (h : Reaches R s ps) :
    ∃ qs, Reaches R (sortVersions fuel v least? s).1 qs := by
  induction fuel generalizing s ps v least? with
  | zero => exact ⟨ps, h⟩
  | succ fuel ih =>
    rw [sortVersions]
    split_ifs
    · exact ih (h.removeVersion v)
    · dsimp only
      generalize hcompete : compete _ v 0 _ (s.settle v) = competed
      obtain ⟨qs, hcompeted⟩ : ∃ qs, Reaches R competed.1 qs :=
        hcompete ▸ exists_reaches_compete (h.settle v)
      exact ih hcompeted
    · exact ⟨ps, h⟩

theorem exists_getElem?_of_pausedOn? (h : Reaches R s ps) (ht : s.pausedOn? v = some token) :
    ∃ p, ps[v]? = some ⟨p, some token⟩ ∧ Fits R p token := by
  have hwaiting : waiting? (s.version v) = some token := ht
  cases hv : s.versions[v]? with
  | none =>
    rw [version, List.getD_eq_getElem?_getD, hv] at hwaiting
    cases hwaiting
  | some x =>
    have hat : ps[v]? = some (post s.entries x) := by
      rw [← h.posts, List.getElem?_map, hv]
      rfl
    rw [version_of_getElem? hv] at hwaiting
    rw [post, hwaiting] at hat
    exact ⟨_, hat, h.waits _ (List.mem_of_getElem? hat) token rfl⟩

theorem exists_sound_resumeBest {fuel v count : Nat} {going : Bool} {least? : Option Nat}
    (h : m.Sound R ps) : ∃ qs, (resumeBest fuel v count going least? m).1.Sound R qs := by
  induction fuel generalizing m ps v count going least? with
  | zero => exact ⟨ps, h⟩
  | succ fuel ih =>
    rw [resumeBest]
    by_cases hcount : v < count
    · rw [if_pos hcount]
      split
      · rename_i token hpaused
        obtain ⟨qs, hs⟩ := h.stack
        have hremoved : Sound R _ { m with stack := m.stack.removeVersion v } :=
          h.withStack (hs.removeVersion v).keeps
        obtain ⟨p, hat, ht⟩ := exists_getElem?_of_pausedOn? hs hpaused
        dsimp only
        split
        · have hresumed := hs.resume hat
          have hlt := (List.getElem?_eq_some_iff.mp hat).1
          obtain ⟨rs, hhandled, -⟩ := (h.withStack hresumed.keeps).handleError
            (List.getElem?_set_self hlt) ht
          exact ih hhandled
        · exact ih hremoved
      · exact ih h
    · rw [if_neg hcount]
      exact ⟨ps, h⟩

theorem exists_sound_condense (h : m.Sound R ps) : ∃ qs, (condense m).1.Sound R qs := by
  obtain ⟨qs, hs⟩ := h.stack
  unfold condense
  dsimp only
  generalize hsort : sortVersions _ 0 none m.stack = sorted
  obtain ⟨rs, hsorted⟩ : ∃ rs, Reaches R sorted.1 rs := hsort ▸ exists_reaches_sortVersions hs
  exact exists_sound_resumeBest (h.withStack (hsorted.take maxVersions).keeps)

theorem exists_sound_loop {fuel last : Nat} (h : m.Sound (Ends text) ps) :
    ∃ qs, (loop text fuel last m).Sound (Ends text) qs := by
  induction fuel generalizing m ps last with
  | zero => exact ⟨ps, h⟩
  | succ fuel ih =>
    rw [loop]
    dsimp only
    generalize hadvance : advanceAll text _ 0 last m = advanced
    obtain ⟨qs, hadvanced⟩ : ∃ qs, advanced.1.Sound (Ends text) qs :=
      hadvance ▸ exists_sound_advanceAll h
    obtain ⟨rs, hcondensed⟩ := exists_sound_condense hadvanced
    have hnext (done : Bool) : ∃ qs, Sound (Ends text) qs
        (if done then advanced.1.condense.1
          else loop text fuel advanced.2 advanced.1.condense.1) := by
      cases done with
      | true => exact ⟨rs, hcondensed⟩
      | false => exact ih hcondensed
    exact hnext _

theorem reaches_initial (h0 : R 0) : Reaches R Stack.initial [⟨0, none⟩] := by
  have hentry (n : Nat) : spot Stack.initial.entries n = 0 ∧
      (Stack.initial.entries.getD n default).links = [] := by
    cases n <;> exact ⟨rfl, rfl⟩
  refine ⟨⟨Nat.one_pos, ?_, ?_, ?_⟩, ?_, rfl, ?_⟩
  · intro n
    rw [(hentry n).1]
    exact h0
  · intro n _
    exact (hentry n).1
  · intro n l hl
    rw [(hentry n).2] at hl
    cases hl
  · intro x hx
    rw [List.mem_singleton.mp hx]
    exact Nat.one_pos
  · intro x hx t ht
    rw [List.mem_singleton.mp hx] at ht
    cases ht

theorem sound_initial : initial.Sound (Ends text) [⟨0, none⟩] := by
  refine ⟨(reaches_initial .start).keeps, ?_, ?_⟩
  · intro p t h
    cases h
  · intro d h
    cases h

end Machine

theorem fits_derive (source : Text.Bytes) :
    Fits (Ends (Glyph.scan source).toArray) 0 (derive source) := by
  unfold derive
  dsimp only
  generalize (Glyph.scan source).toArray = text
  generalize hloop : Machine.loop text _ 0 Machine.initial = m
  obtain ⟨ps, hm⟩ : ∃ ps, m.Sound (Ends text) ps :=
    hloop ▸ Machine.exists_sound_loop Machine.sound_initial
  cases hfinished : m.finished? with
  | none => exact fits_ofError false trivial
  | some d => exact hm.finished d hfinished

end Sketchbook.Syntax
