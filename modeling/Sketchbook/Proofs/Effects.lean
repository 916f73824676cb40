import Sketchbook.Proofs.Documents
import Sketchbook.Proofs.Ending

namespace Sketchbook.Cli

open Sketchbook.Text Sketchbook.Settings Sketchbook.Report

/-- The world behind a run: the file that was written stands in front of all that were there. -/
def World.after (w : World) (o : Outcome) : World :=
  match o.written? with
  | none => w
  | some (place, text) => { w with files := (place, Utf8.encode text) :: w.files }

/-- A failure that leaves nothing behind but what it says. -/
structure Outcome.Vain (o : Outcome) : Prop where
  exit : o.exit ≠ .code 0
  stdout : o.stdout = ""
  written : o.written? = none

/-- A run comes as far as making something of its sketch, and has something to say about it: what is
noted of the calls and then the warnings. -/
structure Makes (w : World) (r : Request) (g : Generated) (said : String) : Prop where
  made : ∃ path c bytes text, Reads w r path c bytes ∧ textOf? bytes = some text ∧
    r.made path c text = .ok g ∧
    said = notes r.verbose (Utf8.encode text) c ++ String.join (g.warnings.map Warning.display)

/-- A run opens the file at a place and has nothing to put there, because a byte of the package that
it was given belongs to no character. -/
structure Empties (w : World) (r : Request) (place : Path) : Prop where
  delivers : Delivers w r
  notext : r.package?.all Word.isText = false
  place : ∃ out, r.out? = some out ∧ LeadsOut w out place

/-- What was made of a sketch is in the one place where it belongs. -/
inductive Delivered (w : World) (r : Request) (g : Generated) (o : Outcome) : Prop where
  | report (hexit : o.exit = .code 0) (hr : r.command = .inspect)
      (hout : IsDocument o.stdout.toList g.report)
      (hfiles : w.after o = w) : Delivered w r g o
  | print (hexit : o.exit = .code 0) (hr : r.command = .transpile) (hplace : r.out? = none)
      (hout : o.stdout = g.code) (hfiles : w.after o = w) : Delivered w r g o
  | write {out : Word} {place : Path} (hexit : o.exit = .code 0)
      (hr : r.command = .transpile) (hplace : r.out? = some out) (hleads : LeadsOut w out place)
      (hout : o.stdout = "")
      (hfiles : ∀ q, (w.after o).file? q =
        if q = place then some (Utf8.encode g.code) else w.file? q) : Delivered w r g o

variable {w : World} {r : Request} {path : Path} {c : Config} {o : Outcome} {g : Generated}
  {said : String}

theorem Delivered.exit_eq (h : Delivered w r g o) : o.exit = .code 0 := by
  cases h <;> assumption

theorem World.after_of_written?_eq_none (h : o.written? = none) : w.after o = w := by
  rw [World.after, h]

theorem World.file?_after {place : Path} {text : String} (h : o.written? = some (place, text))
    (q : Path) :
    (w.after o).file? q = if q = place then some (Utf8.encode text) else w.file? q := by
  rw [World.after, h]
  dsimp only [World.file?]
  rw [List.lookup_cons]
  by_cases hq : q = place
  · rw [if_pos hq, hq, beq_self_eq_true]
  · rw [if_neg hq, beq_eq_false_iff_ne.mpr hq]

theorem vain_failed (message : String) : (failed message).Vain :=
  ⟨nofun, rfl, rfl⟩

theorem vain_crash (k : Crash) (stderr : String) : Outcome.Vain { exit := .crash k, stderr } :=
  ⟨nofun, rfl, rfl⟩

section Saying

theorem foldl_display (ws : List Warning) (log : String) :
    ws.foldl (fun shown warning => shown ++ warning.display) log =
      log ++ String.join (ws.map Warning.display) := by
  induction ws generalizing log with
  | nil => rw [List.foldl_nil, List.map_nil, String.join_nil, String.append_empty]
  | cons w ws ih => rw [List.foldl_cons, ih, List.map_cons, String.join_cons, String.append_assoc]

theorem generateWith_of_ok {source : Bytes} {name log : String} {package? : Option String}
    (h : generate source name package? c = .ok g) :
    generateWith (fun shown warning => shown ++ warning.display) source name package? c log =
      (.ok g, log ++ String.join (g.warnings.map Warning.display)) := by
  have hsame := generateWith_fst (fun shown warning => shown ++ Warning.display warning) source name
    package? c log
  rw [h] at hsame
  obtain ⟨hname, hs, -⟩ := generate_eq_ok h
  rw [generateWith_eq hname hs] at hsame ⊢
  generalize hmade : Generate.assemble _ _ _ _ _ _ _ = made at hsame ⊢
  obtain ⟨result, log'⟩ := made
  obtain rfl : result = .ok g := hsame
  obtain ⟨found, body, -, -, -, -, -, -, -, -, hwarnings, -, hlog⟩ := assemble_eq_ok hmade
  rw [hlog, hwarnings, foldl_display]

end Saying

section Delivering

theorem vain_or_delivered_deliver (stderr : String) (hr : r.command = .transpile) :
    let o := deliver w g.code (r.package?.all Word.isText) stderr r.out?
    o.Vain ∨ (r.package?.all Word.isText = false ∧
      ∃ out place, r.out? = some out ∧ LeadsOut w out place) ∨ Delivered w r g o := by
  intro o
  cases hout : r.out? with
  | none =>
    cases hencodable : r.package?.all Word.isText with
    | false =>
      have ho : o = { exit := .crash .unencodable, stderr } := by
        simp only [o, hout, hencodable]
        rfl
      rw [ho]
      exact .inl (vain_crash _ _)
    | true =>
      have ho : o = { exit := .code 0, stdout := g.code, stderr } := by
        simp only [o, hout, hencodable]
        rfl
      rw [ho]
      exact .inr (.inr (.print rfl hr hout rfl rfl))
  | some out =>
    -- nothing is encoded before the place is known and open
    rcases undelivered_or_leadsOut w out with ⟨k, hk⟩ | ⟨place, hplace⟩
    · have ho : o = { exit := .crash k, stderr } := by
        simp only [o, hout, deliver_of_undelivered hk]
      rw [ho]
      exact .inl (vain_crash _ _)
    · cases hencodable : r.package?.all Word.isText with
      | false => exact .inr (.inl ⟨rfl, out, place, rfl, hplace⟩)
      | true =>
        have ho : o = { exit := .code 0, stderr, written? := some (place, g.code) } := by
          simp only [o, hout, hencodable, deliver_of_leadsOut hplace, if_true]
        rw [ho]
        exact .inr (.inr (.write rfl hr hout hplace rfl (World.file?_after rfl)))

theorem deliver_stderr (w : World) (code : String) (encodable : Bool) (stderr : String)
    (out? : Option Word) : (deliver w code encodable stderr out?).stderr = stderr := by
  unfold deliver
  repeat' split
  all_goals rfl

end Delivering

section Stages

variable {text : String}

theorem process_of_made (h : r.made path c text = .ok g)
    (hsaid : said = notes r.verbose (Utf8.encode text) c ++
      String.join (g.warnings.map Warning.display)) :
    process w r path c text =
      match r.command with
      | .transpile => deliver w g.code (r.package?.all Word.isText) said r.out?
      | .inspect => { exit := .code 0, stdout := g.report.render 0 ++ "\n", stderr := said } := by
  unfold process
  dsimp only
  cases r.command <;> simp only [generateWith_of_ok h, ← hsaid]

theorem process_stderr (h : r.made path c text = .ok g)
    (hsaid : said = notes r.verbose (Utf8.encode text) c ++
      String.join (g.warnings.map Warning.display)) :
    (process w r path c text).stderr = said := by
  rw [process_of_made h hsaid]
  cases r.command with
  | transpile => exact deliver_stderr w g.code _ said r.out?
  | inspect => rfl

end Stages

section Running

variable {words : List Word} {place : Path}

theorem run_of_empties (hr : Request.ofWords words = .ok r) (h : Empties w r place) :
    ∃ stderr, run w words =
      { exit := .crash .unencodable, stderr, written? := some (place, "") } := by
  obtain ⟨path, c, bytes, text, g, hreads, htext, hg⟩ := h.delivers.made
  obtain ⟨out, hout, hleads⟩ := h.place
  obtain ⟨stderr, hrun⟩ := process_of_ok (w := w) hg
  refine ⟨stderr, ?_⟩
  rw [run_eq_process hr hreads htext, hrun]
  simp only [h.delivers.command, hout, h.notext, deliver_of_leadsOut hleads, Bool.false_eq_true,
    if_false]

/-- What is asked for is done, or a run fails and leaves nothing, or at most an empty file. -/
theorem vain_or_delivered_run (hr : Request.ofWords words = .ok r) :
    (run w words).Vain ∨ (∃ place, Empties w r place) ∨
      ∃ g said, Makes w r g said ∧ Delivered w r g (run w words) := by
  cases reaches_run (w := w) hr with
  | report hm h =>
    rw [h]
    exact .inl (vain_failed _)
  | failure hk h =>
    rw [h]
    exact .inl (vain_crash _ _)
  | @sketch path c bytes text hreads htext =>
    rw [run_eq_process hr hreads htext]
    cases hg : r.made path c text with
    | error e =>
      -- of what fails, only the failure is left
      obtain ⟨stderr, hrun⟩ := process_of_error (w := w) hg
      rw [hrun]
      exact .inl (vain_crash _ _)
    | ok g =>
      have hmakes : Makes w r g _ := ⟨path, c, bytes, text, hreads, htext, hg, rfl⟩
      rw [process_of_made hg rfl]
      cases hc : r.command with
      | inspect =>
        exact .inr (.inr ⟨g, _, hmakes, .report rfl hc (isDocument_render g.report) rfl⟩)
      | transpile =>
        dsimp only
        rcases vain_or_delivered_deliver (w := w) (g := g) _ hc with
          hvain | ⟨hnotext, out, place, hout, hleads⟩ | hdelivered
        · exact .inl hvain
        · have hdelivers : Delivers w r := ⟨⟨path, c, bytes, text, g, hreads, htext, hg⟩, hc⟩
          exact .inr (.inl ⟨place, hdelivers, hnotext, out, hout, hleads⟩)
        · exact .inr (.inr ⟨g, _, hmakes, hdelivered⟩)

theorem Makes.stderr_run (h : Makes w r g said) (hr : Request.ofWords words = .ok r) :
    (run w words).stderr = said := by
  obtain ⟨path, c, bytes, text, hreads, htext, hg, hsaid⟩ := h.made
  rw [run_eq_process hr hreads htext, process_stderr hg hsaid]

end Running

/-- What every run leaves behind. If it fails, nothing is shown on standard output, and no file
changes but one that was opened for code that cannot be encoded, and is empty then. If it goes well,
it shows a help text or has put what it made of its sketch where that belongs. Whatever becomes of
that, what there is to say about the sketch is all that goes to standard error. -/
theorem run_vain_or_delivered (w : World) (words : List Word) :
    ((run w words).exit ≠ .code 0 → (run w words).stdout = "" ∧
      ((∃ r place, Request.ofWords words = .ok r ∧ Empties w r place ∧
          (run w words).exit = .crash .unencodable ∧
          ∀ q, (w.after (run w words)).file? q = if q = place then some [] else w.file? q) ∨
        (¬∃ r place, Request.ofWords words = .ok r ∧ Empties w r place) ∧
          w.after (run w words) = w)) ∧
    ((run w words).exit = .code 0 →
      (∃ l, Request.ofWords words = .error (.help l) ∧
        run w words = { exit := .code 0, stdout := l.help }) ∨
      ∃ r g said, Request.ofWords words = .ok r ∧ Makes w r g said ∧
        Delivered w r g (run w words)) ∧
    ∀ r g said, Request.ofWords words = .ok r → Makes w r g said →
      (run w words).stderr = said := by
  refine ⟨fun hexit => ?_, fun hexit => ?_, fun r g said hr hmakes => hmakes.stderr_run hr⟩
  · -- a file that is emptied is the one thing that a failing run may leave
    by_cases hempties : ∃ r place, Request.ofWords words = .ok r ∧ Empties w r place
    · obtain ⟨r, place, hr, h⟩ := hempties
      obtain ⟨stderr, hrun⟩ := run_of_empties hr h
      have hwritten : (run w words).written? = some (place, "") := by rw [hrun]
      exact ⟨by rw [hrun], .inl ⟨r, place, hr, h, by rw [hrun], World.file?_after hwritten⟩⟩
    · suffices hvain : (run w words).Vain from
        ⟨hvain.stdout, .inr ⟨hempties, World.after_of_written?_eq_none hvain.written⟩⟩
      cases hr : Request.ofWords words with
      | error e =>
        unfold run at hexit ⊢
        rw [hr] at hexit ⊢
        cases e with
        | help l => exact absurd rfl hexit
        | refused l complaint => exact ⟨hexit, rfl, rfl⟩
      | ok r =>
        rcases vain_or_delivered_run (w := w) hr with hvain | ⟨place, h⟩ | ⟨g, said, -, hdelivered⟩
        · exact hvain
        · exact absurd ⟨r, place, hr, h⟩ hempties
        · exact absurd hdelivered.exit_eq hexit
  · cases hr : Request.ofWords words with
    | error e =>
      cases e with
      | help l =>
        refine .inl ⟨l, rfl, ?_⟩
        unfold run
        rw [hr]
      | refused l complaint =>
        unfold run at hexit
        rw [hr] at hexit
        cases hexit
    | ok r =>
      rcases vain_or_delivered_run (w := w) hr with hvain | ⟨place, h⟩ | ⟨g, said, hmakes, hdelivered⟩
      · exact absurd hexit hvain.exit
      · obtain ⟨stderr, hrun⟩ := run_of_empties hr h
        rw [hrun] at hexit
        cases hexit
      · exact .inr ⟨r, g, said, rfl, hmakes, hdelivered⟩

/-- A package with a byte that belongs to no character: the run fails, and yet a file is there that
was not before. -/
theorem unencodable_package_empties_file :
    let words : List Word := ["transpile", "a.pde", "--package", [.byte 255], "--out", "f"]
    (run (lone []) words).exit = .crash .unencodable ∧ (lone []).file? ["d", "f"] = none ∧
      ((lone []).after (run (lone []) words)).file? ["d", "f"] = some [] := by
  intro words
  let r : Request := { command := .transpile, sketch := "a.pde", package? := some [.byte 255],
                       out? := some ("f" : String) }
  have hr : Request.ofWords words = .ok r := rfl
  obtain ⟨g, hg⟩ := exists_made_empty r ["d", "a.pde"]
  have hempties : Empties (lone []) r ["d", "f"] :=
    { delivers := ⟨⟨_, _, _, "", g, reads_lone [] rfl, rfl, hg⟩, rfl⟩
      notext := rfl
      place := ⟨"f", rfl, ⟨false, ["f"]⟩, ⟨rfl, rfl⟩, rfl⟩ }
  obtain ⟨stderr, hrun⟩ := run_of_empties hr hempties
  rw [hrun]
  exact ⟨rfl, rfl, rfl⟩

end Sketchbook.Cli
