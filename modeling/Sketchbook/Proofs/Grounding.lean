import Mathlib.Data.List.InsertIdx
import Sketchbook.Proofs.Fitting

/-!
What a stack stands on. Every entry is at a place of the text, and every way down from it leads over
a derivation that fits between the two places. Main statements: what is done to the entries and the
versions of a stack keeps this so, and says where each version has come to.
-/
namespace Sketchbook.Syntax

open Sketchbook.Syntax.Derivation

/-- Where a version stands: the byte it has come to, and the token it waits with. -/
structure Post where
  place : Nat
  waiting? : Option Derivation

namespace Stack

variable {R : Nat → Prop}

def spot (entries : Array Entry) (n : Nat) : Nat := (entries.getD n default).place.bytes

def Joins (R : Nat → Prop) (p : Nat) (part? : Option Derivation) (q : Nat) : Prop :=
  match part? with
  | some d => Fits R p d ∧ p + d.width = q
  | none => p = q

theorem Joins.ends {p q : Nat} {part? : Option Derivation} (h : Joins R p part? q) (hp : R p) :
    R q := by
  cases part? with
  | none =>
    obtain rfl : p = q := h
    exact hp
  | some d =>
    obtain ⟨hfits, rfl⟩ := h
    exact (hfits.ends hp).2

/-- Every way down leads from a place to a place, and ends at the beginning of the text. -/
structure Rooted (R : Nat → Prop) (entries : Array Entry) : Prop where
  nonempty : 0 < entries.size
  spots : ∀ n, R (spot entries n)
  bottom : ∀ n, (entries.getD n default).links = [] → spot entries n = 0
  links : ∀ n, ∀ l ∈ (entries.getD n default).links,
    l.below < entries.size ∧ Joins R (spot entries l.below) l.part? (spot entries n)

def waiting? (x : Version) : Option Derivation :=
  match x.status with
  | .paused t => some t
  | _ => none

def post (entries : Array Entry) (x : Version) : Post := ⟨spot entries x.top, waiting? x⟩

/-- The versions of a stack over a text stand at the given posts. -/
structure Reaches (R : Nat → Prop) (s : Stack) (ps : List Post) : Prop where
  rooted : Rooted R s.entries
  tops : ∀ x ∈ s.versions, x.top < s.entries.size
  posts : s.versions.map (post s.entries) = ps
  waits : ∀ x ∈ ps, ∀ t, x.waiting? = some t → Fits R x.place t

section Versions

variable {s : Stack} {ps : List Post} {v w : Nat}

theorem version_of_getElem? {x : Version} (h : s.versions[v]? = some x) : s.version v = x := by
  rw [version, List.getD_eq_getElem?_getD, h, Option.getD_some]

theorem Reaches.length (h : Reaches R s ps) : ps.length = s.versionCount := by
  rw [← h.posts, List.length_map, versionCount]

theorem Reaches.post_version (h : Reaches R s ps) {x : Post} (hv : ps[v]? = some x) :
    post s.entries (s.version v) = x := by
  rw [← h.posts, List.getElem?_map] at hv
  obtain ⟨y, hy, rfl⟩ := Option.map_eq_some_iff.mp hv
  rw [version_of_getElem? hy]

theorem Reaches.place_eq (h : Reaches R s ps) {x : Post} (hv : ps[v]? = some x) :
    (s.place v).bytes = x.place :=
  congrArg Post.place (h.post_version hv)

theorem Reaches.top_lt (h : Reaches R s ps) (v : Nat) : (s.version v).top < s.entries.size := by
  rw [version, List.getD_eq_getElem?_getD]
  cases hx : s.versions[v]? with
  | none => exact h.rooted.nonempty
  | some x => exact h.tops x (List.mem_of_getElem? hx)

theorem Reaches.ends (h : Reaches R s ps) {x : Post} (hv : ps[v]? = some x) : R x.place := by
  have hspot : spot s.entries (s.version v).top = x.place :=
    congrArg Post.place (h.post_version hv)
  rw [← hspot]
  exact h.rooted.spots _

theorem Reaches.withVersions (h : Reaches R s ps) {vs : List Version} {qs : List Post}
    (htops : ∀ x ∈ vs, x.top < s.entries.size) (hposts : vs.map (post s.entries) = qs)
    (hwaits : ∀ x ∈ qs, ∀ t, x.waiting? = some t → Fits R x.place t) :
    Reaches R { s with versions := vs } qs :=
  ⟨h.rooted, htops, hposts, hwaits⟩

theorem Reaches.setVersion (h : Reaches R s ps) (v : Nat) (x : Version)
    (htop : x.top < s.entries.size)
    (hwaits : ∀ t, waiting? x = some t → Fits R (spot s.entries x.top) t) :
    Reaches R (s.setVersion v x) (ps.set v (post s.entries x)) := by
  apply h.withVersions
  · intro y hy
    rcases List.mem_or_eq_of_mem_set hy with hy | rfl
    · exact h.tops y hy
    · exact htop
  · rw [List.map_set, h.posts]
  · intro y hy
    rcases List.mem_or_eq_of_mem_set hy with hy | rfl
    · exact h.waits y hy
    · exact hwaits

theorem Reaches.addVersion (h : Reaches R s ps) {x : Version} (htop : x.top < s.entries.size)
    (hwaits : ∀ t, waiting? x = some t → Fits R (spot s.entries x.top) t) :
    Reaches R (s.addVersion x) (ps ++ [post s.entries x]) := by
  apply h.withVersions
  · intro y hy
    rcases List.mem_append.mp hy with hy | hy
    · exact h.tops y hy
    · rw [List.mem_singleton.mp hy]
      exact htop
  · rw [List.map_append, h.posts]
    rfl
  · intro y hy
    rcases List.mem_append.mp hy with hy | hy
    · exact h.waits y hy
    · rw [List.mem_singleton.mp hy]
      exact hwaits

theorem Reaches.removeVersion (h : Reaches R s ps) (v : Nat) :
    Reaches R (s.removeVersion v) (ps.eraseIdx v) := by
  apply h.withVersions
  · intro y hy
    exact h.tops y (List.mem_of_mem_eraseIdx hy)
  · rw [← List.eraseIdx_map, h.posts]
  · intro y hy
    exact h.waits y (List.mem_of_mem_eraseIdx hy)

theorem Reaches.take (h : Reaches R s ps) (n : Nat) :
    Reaches R { s with versions := s.versions.take n } (ps.take n) := by
  apply h.withVersions
  · intro y hy
    exact h.tops y (List.mem_of_mem_take hy)
  · rw [List.map_take, h.posts]
  · intro y hy
    exact h.waits y (List.mem_of_mem_take hy)

theorem Reaches.waits_version (h : Reaches R s ps) (v : Nat) :
    ∀ t, waiting? (s.version v) = some t → Fits R (spot s.entries (s.version v).top) t := by
  intro t ht
  rw [version, List.getD_eq_getElem?_getD] at ht ⊢
  cases hx : s.versions[v]? with
  | none =>
    rw [hx] at ht
    cases ht
  | some x =>
    rw [hx, Option.getD_some] at ht
    have hmem : post s.entries x ∈ ps := by
      rw [← h.posts]
      exact List.mem_map_of_mem (List.mem_of_getElem? hx)
    exact h.waits _ hmem t ht

theorem set_post_version (h : Reaches R s ps) (v : Nat) :
    ps.set v (post s.entries (s.version v)) = ps := by
  cases hv : ps[v]? with
  | none => exact List.set_eq_of_length_le (List.getElem?_eq_none_iff.mp hv)
  | some x =>
    obtain ⟨hlt, rfl⟩ := List.getElem?_eq_some_iff.mp hv
    rw [h.post_version hv, List.set_getElem_self]

theorem Reaches.setVersion_same (h : Reaches R s ps) {x : Version}
    (htop : x.top = (s.version v).top) (hstatus : x.status = (s.version v).status) :
    Reaches R (s.setVersion v x) ps := by
  have hpost : post s.entries x = post s.entries (s.version v) := by
    rw [post, post, waiting?, waiting?, htop, hstatus]
  have hset := h.setVersion v x (htop ▸ h.top_lt v) fun t ht => ?_
  · rwa [hpost, set_post_version h] at hset
  · have hspot : spot s.entries x.top = spot s.entries (s.version v).top := by rw [htop]
    have hwaiting : waiting? x = waiting? (s.version v) := by rw [waiting?, waiting?, hstatus]
    rw [hspot]
    exact h.waits_version v t (hwaiting ▸ ht)

theorem Reaches.settle (h : Reaches R s ps) (v : Nat) : Reaches R (s.settle v) ps := by
  unfold Stack.settle
  dsimp only
  split_ifs
  · exact h.setVersion_same rfl rfl
  · exact h

theorem Reaches.halt (h : Reaches R s ps) {x : Post} (hv : ps[v]? = some x) :
    Reaches R (s.halt v) (ps.set v ⟨x.place, none⟩) := by
  have hset := h.setVersion v { s.version v with status := .halted } (h.top_lt v)
    fun t ht => nomatch ht
  rw [← h.post_version hv]
  exact hset

theorem Reaches.resume (h : Reaches R s ps) {x : Post} (hv : ps[v]? = some x) :
    Reaches R (s.resume v) (ps.set v ⟨x.place, none⟩) := by
  have hset := h.setVersion v { s.version v with status := .active } (h.top_lt v)
    fun t ht => nomatch ht
  rw [← h.post_version hv]
  exact hset

theorem Reaches.pause (h : Reaches R s ps) {x : Post} (hv : ps[v]? = some x) {t : Derivation}
    (ht : Fits R x.place t) : Reaches R (s.pause v t) (ps.set v ⟨x.place, some t⟩) := by
  rw [← h.post_version hv] at ht ⊢
  refine h.setVersion v { s.version v with
    status := .paused t
    nodesAtError := (s.top v).nodeCount } (h.top_lt v) fun t' ht' => ?_
  cases ht'
  exact ht

theorem Reaches.copyVersion (h : Reaches R s ps) {x : Post} (hv : ps[v]? = some x) :
    Reaches R (s.copyVersion v).1 (ps ++ [x]) := by
  rw [← h.post_version hv]
  exact h.addVersion (h.top_lt v) (h.waits_version v)

theorem Reaches.replaceVersion (h : Reaches R s ps) {x : Post} (hw : ps[w]? = some x)
    (hne : w ≠ v) : Reaches R (s.replaceVersion w v) ((ps.set v x).eraseIdx w) := by
  unfold Stack.replaceVersion
  rw [if_neg hne]
  apply Reaches.removeVersion
  rw [← h.post_version hw]
  split
  · exact h.setVersion v _ (h.top_lt w) (h.waits_version w)
  · exact h.setVersion v _ (h.top_lt w) (h.waits_version w)

end Versions

section Entries

variable {s s' : Stack} {ps : List Post} {entries : Array Entry} {e : Entry} {n : Nat}

theorem getD_push (m : Nat) : (entries.push e).getD m default =
    if m = entries.size then e else entries.getD m default := by
  rw [Array.getD_eq_getD_getElem?, Array.getD_eq_getD_getElem?, Array.getElem?_push]
  split_ifs <;> rfl

theorem getD_setIfInBounds (m : Nat) : (entries.setIfInBounds n e).getD m default =
    if n = m ∧ n < entries.size then e else entries.getD m default := by
  rw [Array.getD_eq_getD_getElem?, Array.getD_eq_getD_getElem?, Array.getElem?_setIfInBounds]
  by_cases hm : n = m
  · subst hm
    by_cases hn : n < entries.size
    · rw [if_pos rfl, if_pos hn, if_pos ⟨rfl, hn⟩, Option.getD_some]
    · rw [if_pos rfl, if_neg hn, if_neg fun h => hn h.2, Array.getElem?_eq_none (by omega)]
  · rw [if_neg hm, if_neg fun h => hm h.1]

theorem Rooted.push (h : Rooted R entries) {top : Nat} {part? : Option Derivation}
    (htop : top < entries.size) (hjoins : Joins R (spot entries top) part? e.place.bytes)
    (hlinks : e.links = [⟨top, part?⟩]) :
    Rooted R (entries.push e) ∧ ∀ m < entries.size, spot (entries.push e) m = spot entries m := by
  have hold (m : Nat) (hm : m ≠ entries.size) : spot (entries.push e) m = spot entries m := by
    rw [spot, getD_push, if_neg hm, spot]
  have hnew : spot (entries.push e) entries.size = e.place.bytes := by
    rw [spot, getD_push, if_pos rfl]
  -- the new entry leads to the one below it, and the others are as they were
  refine ⟨⟨?_, ?_, ?_, ?_⟩, fun m hm => hold m (Nat.ne_of_lt hm)⟩
  · rw [Array.size_push]
    exact Nat.succ_pos _
  · intro m
    by_cases hm : m = entries.size
    · rw [hm, hnew]
      exact hjoins.ends (h.spots top)
    · rw [hold m hm]
      exact h.spots m
  · intro m hnil
    rw [getD_push] at hnil
    by_cases hm : m = entries.size
    · rw [if_pos hm, hlinks] at hnil
      cases hnil
    · rw [if_neg hm] at hnil
      rw [hold m hm]
      exact h.bottom m hnil
  · intro m l hl
    rw [getD_push] at hl
    rw [Array.size_push]
    by_cases hm : m = entries.size
    · rw [if_pos hm, hlinks, List.mem_singleton] at hl
      rw [hl, hm, hnew, hold top (Nat.ne_of_lt htop)]
      exact ⟨Nat.lt_succ_of_lt htop, hjoins⟩
    · rw [if_neg hm] at hl
      obtain ⟨hbelow, hjoin⟩ := h.links m l hl
      rw [hold m hm, hold l.below (Nat.ne_of_lt hbelow)]
      exact ⟨Nat.lt_succ_of_lt hbelow, hjoin⟩

theorem Reaches.push (h : Reaches R s ps) {v : Nat} {p q : Nat} (hv : ps[v]? = some ⟨p, none⟩)
    {part? : Option Derivation} (hjoins : Joins R p part? q) (state : State) :
    Reaches R (s.push v part? state) (ps.set v ⟨q, none⟩) := by
  have hpost := h.post_version hv
  have hspot : spot s.entries (s.version v).top = p := congrArg Post.place hpost
  have hwaiting : waiting? (s.version v) = none := congrArg Post.waiting? hpost
  rw [← hspot] at hjoins
  -- the entry that is put on the stack, with one way back
  obtain ⟨e, he, hlinks, hplace⟩ : ∃ e : Entry, (s.push v part? state).entries = s.entries.push e ∧
      e.links = [⟨(s.version v).top, part?⟩] ∧ e.place.bytes = q := by
    cases part? with
    | none =>
      refine ⟨_, rfl, rfl, ?_⟩
      exact hjoins
    | some d =>
      refine ⟨_, rfl, rfl, ?_⟩
      exact hjoins.2
  rw [← hplace] at hjoins
  obtain ⟨hrooted, hsame⟩ := h.rooted.push (h.top_lt v) hjoins hlinks
  -- the other versions stand on entries further down
  have hposts : ∀ x ∈ s.versions, post (s.entries.push e) x = post s.entries x := by
    intro x hx
    rw [post, post, hsame x.top (h.tops x hx)]
  obtain ⟨x, hx, hxtop, hxwaiting⟩ : ∃ x : Version,
      (s.push v part? state).versions = s.versions.set v x ∧ x.top = s.entries.size ∧
        waiting? x = waiting? (s.version v) := ⟨_, rfl, rfl, rfl⟩
  have hxpost : post (s.entries.push e) x = ⟨q, none⟩ := by
    rw [post, hxtop, hxwaiting, hwaiting, spot, getD_push, if_pos rfl, hplace]
  constructor
  · rw [he]
    exact hrooted
  · rw [he, hx, Array.size_push]
    intro y hy
    rcases List.mem_or_eq_of_mem_set hy with hy | rfl
    · exact Nat.lt_succ_of_lt (h.tops y hy)
    · rw [hxtop]
      exact Nat.lt_succ_self _
  · rw [he, hx, List.map_set, hxpost, List.map_congr_left hposts, h.posts]
  · intro y hy
    rcases List.mem_or_eq_of_mem_set hy with hy | rfl
    · exact h.waits y hy
    · intro t ht
      cases ht

/-- A stack in which only ways down were added or exchanged. -/
structure Relinked (R : Nat → Prop) (s s' : Stack) : Prop where
  rooted : Rooted R s'.entries
  versions : s'.versions = s.versions
  size : s'.entries.size = s.entries.size
  spots : ∀ m, spot s'.entries m = spot s.entries m

theorem Relinked.refl (h : Rooted R s.entries) : Relinked R s s := ⟨h, rfl, rfl, fun _ => rfl⟩

theorem Relinked.trans {t : Stack} (h : Relinked R s s') (h' : Relinked R s' t) :
    Relinked R s t :=
  ⟨h'.rooted, h'.versions.trans h.versions, h'.size.trans h.size,
    fun m => (h'.spots m).trans (h.spots m)⟩

theorem Relinked.reaches (h : Relinked R s s') (hs : Reaches R s ps) : Reaches R s' ps := by
  refine ⟨h.rooted, ?_, ?_, hs.waits⟩
  · rw [h.versions, h.size]
    exact hs.tops
  · rw [h.versions, ← hs.posts]
    apply List.map_congr_left
    intro x _
    rw [post, post, h.spots]

theorem Relinked.foldl {α : Type} {f : Stack → α → Stack} (as : List α)
    (hf : ∀ t a, a ∈ as → Relinked R s t → Relinked R t (f t a)) (h : Relinked R s s') :
    Relinked R s (as.foldl f s') := by
  induction as generalizing s' with
  | nil => exact h
  | cons a as ih =>
    apply ih fun t b hb => hf t b (List.mem_cons_of_mem a hb)
    exact h.trans (hf s' a List.mem_cons_self h)

theorem relinked_setEntry (h : Rooted R s.entries) (n : Nat) (e : Entry)
    (hplace : e.place = (s.entry n).place)
    (hnil : e.links = [] → (s.entry n).links = [])
    (hlinks : ∀ l ∈ e.links,
      l.below < s.entries.size ∧ Joins R (spot s.entries l.below) l.part? (spot s.entries n)) :
    Relinked R s (s.setEntry n e) := by
  -- an entry keeps its place, whatever ways lead down from it
  have hspots (m : Nat) : spot (s.entries.setIfInBounds n e) m = spot s.entries m := by
    rw [spot, getD_setIfInBounds, spot]
    split_ifs with hm
    · rw [hplace, ← hm.1]
      rfl
    · rfl
  refine ⟨⟨?_, ?_, ?_, ?_⟩, rfl, Array.size_setIfInBounds, hspots⟩
  · change 0 < (s.entries.setIfInBounds n e).size
    rw [Array.size_setIfInBounds]
    exact h.nonempty
  · intro m
    exact (hspots m).symm ▸ h.spots m
  · intro m hm
    have hm : ((s.entries.setIfInBounds n e).getD m default).links = [] := hm
    change spot (s.entries.setIfInBounds n e) m = 0
    rw [getD_setIfInBounds] at hm
    rw [hspots]
    split_ifs at hm with hmn
    · rw [← hmn.1]
      exact h.bottom n (hnil hm)
    · exact h.bottom m hm
  · intro m l hl
    have hl : l ∈ ((s.entries.setIfInBounds n e).getD m default).links := hl
    change l.below < (s.entries.setIfInBounds n e).size ∧
      Joins R (spot (s.entries.setIfInBounds n e) l.below) l.part?
        (spot (s.entries.setIfInBounds n e) m)
    rw [getD_setIfInBounds] at hl
    rw [Array.size_setIfInBounds, hspots, hspots]
    split_ifs at hl with hmn
    · rw [← hmn.1]
      exact hlinks l hl
    · exact h.links m l hl

theorem mem_setPart {links : List Link} {i : Nat} {part? : Option Derivation} {l : Link}
    (hl : l ∈ setPart links i part?) :
    l ∈ links ∨ ∃ k, links[i]? = some k ∧ l = { k with part? } := by
  obtain ⟨j, hj⟩ := List.getElem?_of_mem hl
  rw [setPart, List.getElem?_modify] at hj
  split_ifs at hj with hij
  · obtain ⟨k, hk, rfl⟩ := Option.map_eq_some_iff.mp hj
    exact .inr ⟨k, hij ▸ hk, rfl⟩
  · rw [Option.map_eq_map, Option.map_id'] at hj
    exact .inl (List.mem_of_getElem? hj)

/-- A way down is added to an entry, or to the entries below it, where it leads from the same place to
the same place. -/
theorem relinked_addLink (fuel : Nat) (h : Rooted R s.entries) {link : Link}
    (hbelow : link.below < s.entries.size)
    (hjoins : Joins R (spot s.entries link.below) link.part? (spot s.entries n)) :
    Relinked R s (addLink fuel s n link) := by
  induction fuel generalizing s n link with
  | zero => exact Relinked.refl h
  | succ fuel ih =>
    have hlinks := h.links n
    rw [addLink]
    split_ifs with hself
    · exact Relinked.refl h
    dsimp only
    split
    · rename_i l i hlike
      have hmem : (l, i) ∈ (s.entry n).links.zipIdx := List.mem_of_find?_eq_some hlike
      have hat : (s.entry n).links[i]? = some l := List.mem_zipIdx_iff_getElem?.mp hmem
      have hl : l ∈ (s.entry n).links := List.mem_of_getElem? hat
      by_cases hsame : l.below = link.below
      · rw [if_pos hsame]
        split_ifs
        · refine relinked_setEntry h n _ rfl ?_ ?_
          · intro hnil
            rw [setPart] at hnil
            exact List.modify_eq_nil_iff.mp hnil
          · intro k hk
            rcases mem_setPart hk with hk | ⟨k', hk', rfl⟩
            · exact hlinks k hk
            · rw [hat, Option.some.injEq] at hk'
              rw [← hk', hsame]
              exact ⟨hbelow, hjoins⟩
        · exact Relinked.refl h
      · rw [if_neg hsame]
        have hfound := List.find?_some hlike
        simp only [Bool.and_eq_true, Bool.or_eq_true, decide_eq_true_eq] at hfound
        have hplaces : spot s.entries link.below = spot s.entries l.below := by
          rcases hfound.2 with heq | heq
          · rw [heq]
          · exact heq.1.2.symm
        -- what leads to the entry below the new way down leads to the one below the old one as well
        have hfold : Relinked R s
            ((s.entry link.below).links.foldl (fun s k => addLink fuel s l.below k) s) := by
          apply Relinked.foldl _ _ (Relinked.refl h)
          intro t k hk ht
          obtain ⟨hkbelow, hkjoins⟩ := h.links link.below k hk
          apply ih ht.rooted
          · rw [ht.size]
            exact hkbelow
          · rw [ht.spots, ht.spots, ← hplaces]
            exact hkjoins
        apply hfold.trans
        split_ifs
        · refine relinked_setEntry hfold.rooted n _ rfl (fun hnil => hnil) ?_
          exact hfold.rooted.links n
        · exact Relinked.refl hfold.rooted
    · split_ifs
      · exact Relinked.refl h
      · refine relinked_setEntry h n _ rfl ?_ ?_
        · intro hnil
          exact (List.append_eq_nil_iff.mp hnil).1
        · intro k hk
          rcases List.mem_append.mp hk with hk | hk
          · exact hlinks k hk
          · rw [List.mem_singleton.mp hk]
            exact ⟨hbelow, hjoins⟩

theorem Reaches.merge? (h : Reaches R s ps) {v w : Nat} (hs : s.merge? v w = some s') :
    Reaches R s' (ps.eraseIdx w) := by
  unfold Stack.merge? at hs
  split_ifs at hs with hcan
  unfold canMerge at hcan
  simp only [Bool.and_eq_true, decide_eq_true_eq] at hcan
  have hplaces : spot s.entries (s.version v).top = spot s.entries (s.version w).top := hcan.1.2
  have hlinked : Relinked R s ((s.top w).links.foldl
      (fun t l => addLink t.entries.size t (s.version v).top l) s) := by
    apply Relinked.foldl _ _ (Relinked.refl h.rooted)
    intro t l hl ht
    obtain ⟨hbelow, hjoins⟩ := h.rooted.links (s.version w).top l hl
    apply relinked_addLink _ ht.rooted
    · rw [ht.size]
      exact hbelow
    · rw [ht.spots, ht.spots, hplaces]
      exact hjoins
  obtain rfl := Option.some.inj hs
  apply Reaches.removeVersion
  split_ifs
  · exact (hlinked.reaches h).setVersion_same rfl rfl
  · exact hlinked.reaches h

end Entries

end Stack

end Sketchbook.Syntax
