import Sketchbook.Cli.Run
import Sketchbook.Proofs.Totality

namespace Sketchbook

open Sketchbook.Text Sketchbook.Settings Sketchbook.Editing

theorem ClassName.isFirst_of_isAsciiWord {c : Char} (h : isAsciiWord c = true)
    (hd : c.isDigit = false) : isFirst c = true := by
  unfold isAsciiWord Char.isAlphanum at h
  unfold isFirst
  rw [hd, Bool.or_false] at h
  rw [h, Bool.true_or]

theorem ClassName.isRest_of_isAsciiWord {c : Char} (h : isAsciiWord c = true) :
    isRest c = true := by
  unfold isAsciiWord at h
  unfold isRest
  rw [h, Bool.true_or]

theorem ClassName.isValid_ofPath (path : String) : isValid (ofPath path) = true := by
  have hword : ∀ c ∈ (stem path).toList.map fun c => if isAsciiWord c then c else '_',
      isAsciiWord c = true := by
    intro c hc
    obtain ⟨d, -, rfl⟩ := List.mem_map.mp hc
    split_ifs with hd
    · exact hd
    · decide
  have hrest : ∀ cs : List Char, (∀ c ∈ cs, isAsciiWord c = true) → cs.all isRest = true :=
    fun cs h => List.all_eq_true.mpr fun c hc => isRest_of_isAsciiWord (h c hc)
  unfold ofPath
  generalize ((stem path).toList.map fun c => if isAsciiWord c then c else '_') = cs at hword ⊢
  cases cs with
  | nil => decide
  | cons c cs =>
    dsimp only
    split_ifs with hd
    · rw [isValid, String.toList_ofList]
      exact Bool.and_eq_true_iff.mpr ⟨by decide, hrest _ hword⟩
    · have hc := hword c List.mem_cons_self
      rw [isValid, String.toList_ofList]
      exact Bool.and_eq_true_iff.mpr
        ⟨isFirst_of_isAsciiWord hc (Bool.eq_false_iff.mpr hd),
          hrest cs fun d hd => hword d (List.mem_cons_of_mem c hd)⟩

theorem generateWith_fst {σ : Type} (report : σ → Warning → σ) (source : Bytes) (name : String)
    (package? : Option String) (c : Config) (log : σ) :
    (generateWith report source name package? c log).1 = generate source name package? c := by
  unfold generate generateWith
  split_ifs
  · rfl
  · cases Sketch.read? source with
    | none => rfl
    | some s =>
      cases hfound : survey s c.entryMethod with
      | error e => simp only [Generate.assemble, hfound]
      | ok found => simp only [assemble_of_survey hfound]

theorem generate_ne_invalidName {source : Bytes} {name : String} {package? : Option String}
    {c : Config} (h : ClassName.isValid name = true) (n : String) :
    generate source name package? c ≠ .error (.invalidName n) := by
  intro hn
  cases hs : Sketch.read? source with
  | none =>
    rw [generate, generateWith, h, hs] at hn
    cases hn
  | some s =>
    rw [generate, generateWith_eq h hs] at hn
    cases hfound : survey s c.entryMethod with
    | error e =>
      rw [Generate.assemble, hfound] at hn
      cases hn
    | ok found =>
      rw [assemble_of_survey hfound] at hn
      dsimp only at hn
      split_ifs at hn
      · cases hn
      · split at hn <;> cases hn

namespace Cli

/-- A word that is given as a path leads nowhere. -/
inductive BadPath (w : World) (given : Word) : Crash → Prop where
  | nul (h : given.contains (.char '\x00') = true) : BadPath w given .nulInPath
  | user (h : given.contains (.char '\x00') = false)
      (hu : (GivenPath.ofWord given).expand? w = none) : BadPath w given .unknownUser

/-- A word that is given as a path leads to some place. -/
structure Leads (w : World) (given : Word) (p : GivenPath) : Prop where
  clean : given.contains (.char '\x00') = false
  known : (GivenPath.ofWord given).expand? w = some p

def settingsPath (path : Path) : Path := path.dropLast ++ [(Config.fileName : Word)]

/-- A run comes as far as the bytes of its sketch. -/
structure Reads (w : World) (r : Request) (path : Path) (c : Config) (bytes : Bytes) : Prop where
  leads : ∃ p, Leads w r.sketch p ∧ p.resolve w = path
  settings : ∃ file, w.fileAt? (settingsPath path) = .ok file ∧ Config.load w.room file = .ok c
  sketch : w.readFile path = .ok bytes

def Request.made (r : Request) (path : Path) (c : Config) (text : String) :
    Except GenerateError Generated :=
  generate (Utf8.encode text) (ClassName.ofPath path.word.text) (r.package?.map Word.text) c

/-- A run comes as far as the code that it is to deliver. -/
structure Delivers (w : World) (r : Request) : Prop where
  made : ∃ path c bytes text g, Reads w r path c bytes ∧ textOf? bytes = some text ∧
    r.made path c text = .ok g
  command : r.command = .transpile

/-- A word leads to a place where a file can be written. -/
structure LeadsOut (w : World) (out : Word) (place : Path) : Prop where
  leads : ∃ p, Leads w out p ∧ w.writable (p.base w) p.names = .ok place

/-- What is to be written to a place cannot be put there. -/
inductive Undelivered (w : World) (out : Word) : Crash → Prop where
  | path {k : Crash} (h : BadPath w out k) : Undelivered w out k
  | place {p : GivenPath} {e : PathError} (hp : Leads w out p)
      (he : w.writable (p.base w) p.names = .error e) : Undelivered w out (.output e)

/-- The failures that are not reported, with all that has gone well before. -/
inductive Unreported (w : World) (r : Request) : Crash → Prop where
  | sketchPath {k : Crash} (h : BadPath w r.sketch k) : Unreported w r k
  | settingsText {p : GivenPath} {bytes : Bytes} (hp : Leads w r.sketch p)
      (hfile : w.fileAt? (settingsPath (p.resolve w)) = .ok (some bytes))
      (hbytes : Utf8.decode? bytes = none) : Unreported w r .undecodable
  | settingsNumber {p : GivenPath} {bytes : Bytes} {text message : String} (hp : Leads w r.sketch p)
      (hfile : w.fileAt? (settingsPath (p.resolve w)) = .ok (some bytes))
      (hbytes : Utf8.decode? bytes = some text)
      (hnumber : Toml.read w.room text = .error (.tooManyDigits message)) :
      Unreported w r (.tooManyDigits message)
  | settingsDepth {p : GivenPath} {bytes : Bytes} {text : String} (hp : Leads w r.sketch p)
      (hfile : w.fileAt? (settingsPath (p.resolve w)) = .ok (some bytes))
      (hbytes : Utf8.decode? bytes = some text)
      (hdepth : Toml.read w.room text = .error .tooDeep) : Unreported w r .tooDeep
  | sketchText {path : Path} {c : Config} {bytes : Bytes} (h : Reads w r path c bytes)
      (hbytes : Utf8.decode? bytes = none) : Unreported w r .undecodable
  | generation {path : Path} {c : Config} {bytes : Bytes} {text : String} {e : GenerateError}
      (h : Reads w r path c bytes) (htext : textOf? bytes = some text)
      (he : r.made path c text = .error e) : Unreported w r (.generation e)
  | outputPlace {out : Word} {k : Crash} (h : Delivers w r) (hout : r.out? = some out)
      (hk : Undelivered w out k) : Unreported w r k
  | outputText {package : Word} (h : Delivers w r) (hpackage : r.package? = some package)
      (htext : package.isText = false)
      (hout : ∀ out, r.out? = some out → ∃ place, LeadsOut w out place) :
      Unreported w r .unencodable

/-- What is reported of a run: that a file cannot be opened, or that there is something wrong with
its settings. -/
inductive Reported : String → Prop where
  | unreadable (path p : Path) (e : PathError) :
      Reported ("cannot read sketch " ++ path.word.shown ++ ": " ++ e.describe p)
  | malformed (path : Path) (m : String) :
      Reported (Config.malformedMessage (settingsPath path).word.shown m)
  | refused (path : Path) (details : String) (issues : List Record.Issue) :
      Reported (Config.refusedMessage (settingsPath path).word.shown details issues)

/-- How far a run comes: it ends with a report or a failure, or it has the text of its sketch. -/
inductive Reaches (w : World) (r : Request) (o : Outcome) : Prop where
  | report {m : String} (hm : Reported m) (h : o = failed m)
  | failure {k : Crash} (hk : Unreported w r k) (h : o = { exit := .crash k })
  | sketch {path : Path} {c : Config} {bytes : Bytes} {text : String} (h : Reads w r path c bytes)
      (htext : textOf? bytes = some text)

def Outcome.Told (o : Outcome) : Prop :=
  o.exit = .code 0 ∨ o.exit = .code 1 ∧ ∃ m, o.stderr = "error: " ++ m ++ "\n"

variable {w : World} {r : Request} {path : Path} {c : Config} {k : Crash}

theorem textOf?_eq_none_iff {bytes : Bytes} : textOf? bytes = none ↔ Utf8.decode? bytes = none := by
  rw [textOf?, Option.map_eq_none_iff]

theorem badPath_or_leads (w : World) (given : Word) :
    (∃ k, BadPath w given k) ∨ ∃ p, Leads w given p := by
  cases hnul : given.contains (.char '\x00') with
  | true => exact .inl ⟨_, .nul hnul⟩
  | false =>
    cases huser : (GivenPath.ofWord given).expand? w with
    | none => exact .inl ⟨_, .user hnul huser⟩
    | some p => exact .inr ⟨p, hnul, huser⟩

theorem undelivered_or_leadsOut (w : World) (out : Word) :
    (∃ k, Undelivered w out k) ∨ ∃ place, LeadsOut w out place := by
  rcases badPath_or_leads w out with ⟨k, hk⟩ | ⟨p, hp⟩
  · exact .inl ⟨k, .path hk⟩
  · cases he : w.writable (p.base w) p.names with
    | error e => exact .inl ⟨_, .place hp he⟩
    | ok place => exact .inr ⟨place, p, hp, he⟩

section Loading

variable {file : Option Bytes} {room : Nat}

theorem load_eq_undecodable_iff :
    Config.load room file = .error .undecodable ↔
      ∃ bytes, file = some bytes ∧ Utf8.decode? bytes = none := by
  constructor
  · intro h
    cases file with
    | none => cases h
    | some bytes =>
      refine ⟨bytes, rfl, ?_⟩
      change Config.ofFile room bytes = _ at h
      unfold Config.ofFile at h
      repeat' split at h
      all_goals first | assumption | cases h
  · rintro ⟨bytes, rfl, h⟩
    simp only [Config.load, Config.ofFile, h]

theorem load_eq_unreadable_iff {e : Toml.ReadError} :
    Config.load room file = .error (.unreadable e) ↔
      ∃ bytes text, file = some bytes ∧ Utf8.decode? bytes = some text ∧
        Toml.read room text = .error e := by
  constructor
  · intro h
    cases file with
    | none => cases h
    | some bytes =>
      change Config.ofFile room bytes = _ at h
      unfold Config.ofFile at h
      repeat' split at h
      all_goals cases h
      exact ⟨bytes, _, rfl, ‹_›, ‹_›⟩
  · rintro ⟨bytes, text, rfl, hbytes, h⟩
    simp only [Config.load, Config.ofFile, hbytes, h]

end Loading

section Delivering

variable {code stderr : String} {encodable : Bool} {out : Word}

theorem deliver_of_undelivered (h : Undelivered w out k) :
    deliver w code encodable stderr (some out) = { exit := .crash k, stderr } := by
  unfold deliver
  cases h with
  | path h =>
    cases h with
    | nul h => simp only [h, if_true]
    | user h hu => simp only [h, Bool.false_eq_true, if_false, hu]
  | place hp he => simp only [hp.clean, Bool.false_eq_true, if_false, hp.known, he]

theorem deliver_of_leadsOut {place : Path} (h : LeadsOut w out place) :
    deliver w code encodable stderr (some out) =
      if encodable then { exit := .code 0, stderr, written? := some (place, code) }
      else { exit := .crash .unencodable, stderr, written? := some (place, "") } := by
  obtain ⟨p, hp, hplace⟩ := h.leads
  unfold deliver
  simp only [hp.clean, Bool.false_eq_true, if_false, hp.known, hplace]

theorem deliver_exit_ne_generation {out? : Option Word} {e : GenerateError} :
    (deliver w code encodable stderr out?).exit ≠ .crash (.generation e) := by
  unfold deliver
  repeat' split
  all_goals exact nofun

end Delivering

/-- What becomes of a sketch depends on what is made of it, and only what is shown besides on how it
is made. -/
theorem process_eq (w : World) (r : Request) (path : Path) (c : Config) (text : String) :
    ∃ stderr, process w r path c text =
      match r.made path c text with
      | .error (.invalidName n) => failed (invalidNameMessage n)
      | .error e => { exit := .crash (.generation e), stderr }
      | .ok g =>
        match r.command with
        | .transpile => deliver w g.code (r.package?.all Word.isText) stderr r.out?
        | .inspect => { exit := .code 0, stdout := g.report.render 0 ++ "\n", stderr } := by
  have hsame := generateWith_fst (fun shown warning => shown ++ warning.display) (Utf8.encode text)
    (ClassName.ofPath path.word.text) (r.package?.map Word.text) c
    (notes r.verbose (Utf8.encode text) c)
  unfold process Request.made
  dsimp only
  generalize generateWith (fun shown warning => shown ++ warning.display) _ _ _ _ _ = made
    at hsame ⊢
  obtain ⟨result, log⟩ := made
  rw [← hsame]
  refine ⟨log, ?_⟩
  cases result with
  | error e => cases e <;> rfl
  | ok g => rfl

/-- A sketch of which nothing can be made ends a run in a failure. It is never the name that is
wrong. -/
theorem process_of_error {text : String} {e : GenerateError}
    (h : r.made path c text = .error e) :
    ∃ stderr, process w r path c text = { exit := .crash (.generation e), stderr } := by
  obtain ⟨stderr, hrun⟩ := process_eq w r path c text
  refine ⟨stderr, ?_⟩
  rw [hrun, h]
  cases e with
  | invalidName n =>
    -- only the name is reported, and it is made so as to be valid
    exact absurd h (generate_ne_invalidName (ClassName.isValid_ofPath _) n)
  | unnamedSuperclass => rfl
  | survey e => rfl
  | tooWide indent => rfl
  | render e => rfl

theorem process_of_ok {text : String} {g : Generated} (h : r.made path c text = .ok g) :
    ∃ stderr, process w r path c text =
      match r.command with
      | .transpile => deliver w g.code (r.package?.all Word.isText) stderr r.out?
      | .inspect => { exit := .code 0, stdout := g.report.render 0 ++ "\n", stderr } := by
  obtain ⟨stderr, hrun⟩ := process_eq w r path c text
  exact ⟨stderr, by rw [hrun, h]⟩

section Running

variable {words : List Word} {bytes : Bytes} {text : String}

theorem run_eq_runAt {p : GivenPath} (hr : Request.ofWords words = .ok r)
    (hp : Leads w r.sketch p) : run w words = runAt w r (p.resolve w) := by
  unfold run
  simp only [hr, hp.clean, Bool.false_eq_true, if_false, hp.known]

theorem run_eq_process (hr : Request.ofWords words = .ok r) (h : Reads w r path c bytes)
    (htext : textOf? bytes = some text) : run w words = process w r path c text := by
  obtain ⟨p, hp, rfl⟩ := h.leads
  obtain ⟨file, hfile, hload⟩ := h.settings
  rw [settingsPath] at hfile
  rw [run_eq_runAt hr hp, runAt]
  simp only [hfile, hload, h.sketch, htext]

theorem run_of_unreported (hr : Request.ofWords words = .ok r) (h : Unreported w r k) :
    (run w words).exit = .crash k := by
  cases h with
  | sketchPath h =>
    unfold run
    cases h with
    | nul h => simp only [hr, h, if_true]
    | user h hu => simp only [hr, h, Bool.false_eq_true, if_false, hu]
  | settingsText hp hfile hbytes =>
    rw [settingsPath] at hfile
    rw [run_eq_runAt hr hp, runAt]
    simp only [hfile, load_eq_undecodable_iff.mpr ⟨_, rfl, hbytes⟩]
  | settingsNumber hp hfile hbytes hnumber =>
    rw [settingsPath] at hfile
    rw [run_eq_runAt hr hp, runAt]
    simp only [hfile, load_eq_unreadable_iff.mpr ⟨_, _, rfl, hbytes, hnumber⟩]
  | settingsDepth hp hfile hbytes hdepth =>
    rw [settingsPath] at hfile
    rw [run_eq_runAt hr hp, runAt]
    simp only [hfile, load_eq_unreadable_iff.mpr ⟨_, _, rfl, hbytes, hdepth⟩]
  | sketchText h hbytes =>
    obtain ⟨p, hp, rfl⟩ := h.leads
    obtain ⟨file, hfile, hload⟩ := h.settings
    rw [settingsPath] at hfile
    rw [run_eq_runAt hr hp, runAt]
    simp only [hfile, hload, h.sketch, textOf?_eq_none_iff.mpr hbytes]
  | generation h htext he =>
    obtain ⟨stderr, hrun⟩ := process_of_error (w := w) he
    rw [run_eq_process hr h htext, hrun]
  -- all went well up to the place where the code was to go
  | outputPlace h hout hk =>
    obtain ⟨path, c, bytes, text, g, hreads, htext, hg⟩ := h.made
    obtain ⟨stderr, hrun⟩ := process_of_ok (w := w) hg
    rw [run_eq_process hr hreads htext, hrun]
    simp only [h.command, hout, deliver_of_undelivered hk]
  | outputText h hpackage hnotext hout =>
    obtain ⟨path, c, bytes, text, g, hreads, htext, hg⟩ := h.made
    obtain ⟨stderr, hrun⟩ := process_of_ok (w := w) hg
    rw [run_eq_process hr hreads htext, hrun]
    simp only [h.command, hpackage, Option.all_some, hnotext]
    cases hplace : r.out? with
    | none => rfl
    | some out =>
      obtain ⟨place, hleads⟩ := hout out hplace
      rw [deliver_of_leadsOut hleads]
      rfl

theorem Delivers.unreported (h : Delivers w r) (hnotext : r.package?.all Word.isText = false)
    (hout : ∀ out, r.out? = some out → ∃ place, LeadsOut w out place) :
    Unreported w r .unencodable := by
  cases hpackage : r.package? with
  | none =>
    rw [hpackage] at hnotext
    cases hnotext
  | some package =>
    rw [hpackage] at hnotext
    exact .outputText h hpackage hnotext hout

/-- A run that makes something of a sketch goes well unless the result cannot be delivered. -/
theorem told_process (h : Reads w r path c bytes) (htext : textOf? bytes = some text) :
    (process w r path c text).Told ∨ ∃ k, Unreported w r k := by
  cases hg : r.made path c text with
  | error e => exact .inr ⟨_, .generation h htext hg⟩
  | ok g =>
    obtain ⟨stderr, hrun⟩ := process_of_ok (w := w) hg
    rw [hrun]
    cases hc : r.command with
    | inspect => exact .inl (.inl rfl)
    | transpile =>
      have hdelivers : Delivers w r := ⟨⟨path, c, bytes, text, g, h, htext, hg⟩, hc⟩
      dsimp only
      -- code that is shown may fail to be encoded, and code that is written to be put there as well
      cases hout : r.out? with
      | none =>
        cases hencodable : r.package?.all Word.isText with
        | false => exact .inr ⟨_, hdelivers.unreported hencodable (by rw [hout]; nofun)⟩
        | true => exact .inl (.inl rfl)
      | some out =>
        rcases undelivered_or_leadsOut w out with ⟨k, hk⟩ | ⟨place, hplace⟩
        · exact .inr ⟨k, .outputPlace hdelivers hout hk⟩
        · rw [deliver_of_leadsOut hplace]
          cases hencodable : r.package?.all Word.isText with
          | false =>
            refine .inr ⟨_, hdelivers.unreported hencodable fun out' hout' => ?_⟩
            obtain rfl := Option.some.inj (hout.symm.trans hout')
            exact ⟨place, hplace⟩
          | true => exact .inl (.inl rfl)

theorem reaches_runAt {p : GivenPath} (hp : Leads w r.sketch p) :
    Reaches w r (runAt w r (p.resolve w)) := by
  unfold runAt
  dsimp only
  -- the settings are looked for and loaded, then the sketch is read and decoded
  cases hfile : w.fileAt? ((p.resolve w).dropLast ++ [(Config.fileName : Word)]) with
  | error e => exact .report (.unreadable _ _ e) rfl
  | ok file =>
    dsimp only
    cases hload : Config.load w.room file with
    | error e =>
      cases e with
      | undecodable =>
        obtain ⟨bytes, rfl, hbytes⟩ := load_eq_undecodable_iff.mp hload
        exact .failure (.settingsText hp hfile hbytes) rfl
      | unreadable e =>
        obtain ⟨bytes, text, rfl, hbytes, hread⟩ := load_eq_unreadable_iff.mp hload
        cases e with
        | malformed m => exact .report (.malformed (p.resolve w) m) rfl
        | tooManyDigits m => exact .failure (.settingsNumber hp hfile hbytes hread) rfl
        | tooDeep => exact .failure (.settingsDepth hp hfile hbytes hread) rfl
      | refused issues => exact .report (.refused (p.resolve w) _ issues) rfl
    | ok c =>
      dsimp only
      cases hread : w.readFile (p.resolve w) with
      | error e => exact .report (.unreadable _ _ e) rfl
      | ok bytes =>
        have hreads : Reads w r (p.resolve w) c bytes := ⟨⟨p, hp, rfl⟩, ⟨file, hfile, hload⟩, hread⟩
        dsimp only
        cases htext : textOf? bytes with
        | none => exact .failure (.sketchText hreads (textOf?_eq_none_iff.mp htext)) rfl
        | some text => exact .sketch hreads htext

theorem reaches_run (hr : Request.ofWords words = .ok r) : Reaches w r (run w words) := by
  rcases badPath_or_leads w r.sketch with ⟨k, hk⟩ | ⟨p, hp⟩
  · refine .failure (.sketchPath hk) ?_
    unfold run
    cases hk with
    | nul h => simp only [hr, h, if_true]
    | user h hu => simp only [hr, h, Bool.false_eq_true, if_false, hu]
  · rw [run_eq_runAt hr hp]
    exact reaches_runAt hp

/-- A run with a request reports an error, unless it fails in one of the ways that are known. -/
theorem told_run (hr : Request.ofWords words = .ok r) :
    (run w words).Told ∨ ∃ k, Unreported w r k := by
  cases reaches_run (w := w) hr with
  | report hm h =>
    rw [h]
    exact .inl (.inr ⟨rfl, _, rfl⟩)
  | failure hk h => exact .inr ⟨_, hk⟩
  | sketch hreads htext =>
    rw [run_eq_process hr hreads htext]
    exact told_process hreads htext

/-- A run that has read its sketch fails because of what is made of it exactly if nothing is. -/
theorem run_eq_generation_iff (hr : Request.ofWords words = .ok r) (h : Reads w r path c bytes)
    (htext : textOf? bytes = some text) (e : GenerateError) :
    (run w words).exit = .crash (.generation e) ↔ r.made path c text = .error e := by
  rw [run_eq_process hr h htext]
  cases hg : r.made path c text with
  | error e' =>
    obtain ⟨stderr, hrun⟩ := process_of_error (w := w) hg
    rw [hrun]
    simp [eq_comm]
  | ok g =>
    obtain ⟨stderr, hrun⟩ := process_of_ok (w := w) hg
    rw [hrun]
    refine iff_of_false ?_ nofun
    cases r.command with
    | inspect => exact nofun
    | transpile => exact deliver_exit_ne_generation

end Running

/-- How every run ends. It fails without a report exactly in the ways that are known, and ends with 1
only if an error is shown. Of a sketch whose calls lie within it nothing is made only if a class at
the top of it cannot be judged, or if the lines around it get too wide. -/
theorem crash_iff_unreported (w : World) (words : List Word) :
    (∀ k, (run w words).exit = .crash k ↔ ∃ r, Request.ofWords words = .ok r ∧ Unreported w r k) ∧
    (∀ n, (run w words).exit = .code n → n = 0 ∨
      (n = 1 ∧ ∃ m, (run w words).stderr = "error: " ++ m ++ "\n") ∨
      (n = 2 ∧ ∃ l c, Request.ofWords words = .error (.refused l c))) ∧
    ∀ r path c bytes text, Request.ofWords words = .ok r → Reads w r path c bytes →
      textOf? bytes = some text →
      let source := Utf8.encode text
      let s := Sketch.read source
      s.CallsInside source → ∀ e, (run w words).exit = .crash (.generation e) ↔
        (e = .unnamedSuperclass ∧ Sketch.read? source = none) ∨
        (e = .tooWide c.indent ∧ Sketch.read? source = some s ∧
          2 ^ 63 ≤ c.indent * Generate.depth s (s.methodNames.contains "main")) := by
  refine ⟨fun k => ⟨fun hk => ?_, fun ⟨r, hr, h⟩ => run_of_unreported hr h⟩, fun n hn => ?_, ?_⟩
  · cases hr : Request.ofWords words with
    | error e =>
      unfold run at hk
      rw [hr] at hk
      cases e <;> cases hk
    | ok r =>
      refine ⟨r, rfl, ?_⟩
      -- what is told is no failure, and of the failures that are known each ends the run with itself
      rcases told_run (w := w) hr with (htold | ⟨htold, -⟩) | ⟨k', hk'⟩
      · rw [htold] at hk
        cases hk
      · rw [htold] at hk
        cases hk
      · rw [run_of_unreported hr hk'] at hk
        obtain rfl := Exit.crash.inj hk
        exact hk'
  · cases hr : Request.ofWords words with
    | error e =>
      unfold run at hn
      rw [hr] at hn
      cases e with
      | help l => exact .inl (Exit.code.inj hn).symm
      | refused l complaint => exact .inr (.inr ⟨(Exit.code.inj hn).symm, l, complaint, rfl⟩)
    | ok r =>
      rcases told_run (w := w) hr with (htold | ⟨htold, m, hm⟩) | ⟨k, hk⟩
      · rw [htold] at hn
        exact .inl (Exit.code.inj hn).symm
      · rw [htold] at hn
        exact .inr (.inl ⟨(Exit.code.inj hn).symm, m, hm⟩)
      · rw [run_of_unreported hr hk] at hn
        cases hn
  · intro r path c bytes text hr hreads htext source s hcalls e
    rw [run_eq_generation_iff hr hreads htext, Request.made,
      generate_eq_error_iff _ (ClassName.isValid_ofPath _) hcalls, ← Bool.not_eq_true, fits_iff,
      Nat.not_lt]

/-- A folder with nothing but a sketch in it, where a run starts. -/
def lone (bytes : Bytes) : World :=
  { files := [(["d", "a.pde"], bytes)], here := ["d"], home := ["d"] }

theorem leads_sketch (w : World) : Leads w "a.pde" ⟨false, ["a.pde"]⟩ := ⟨rfl, rfl⟩

theorem reads_lone (bytes : Bytes) {r : Request} (h : r.sketch = "a.pde") :
    Reads (lone bytes) r ["d", "a.pde"] {} bytes := by
  have hleads : Leads (lone bytes) r.sketch ⟨false, ["a.pde"]⟩ := by
    rw [h]
    exact leads_sketch (lone bytes)
  exact ⟨⟨_, hleads, rfl⟩, ⟨none, rfl, rfl⟩, rfl⟩

theorem exists_made_empty (r : Request) (path : Path) : ∃ g, r.made path {} "" = .ok g := by
  have hplain : (Sketch.read (Utf8.encode "")).isWrapped = false ∧
      Sketch.stumbles (Sketch.read (Utf8.encode "")).source (Sketch.read (Utf8.encode "")).root =
        false := by
    decide +kernel
  obtain ⟨hplain, hstumbles⟩ := hplain
  obtain ⟨g, hg, -⟩ := (makeable_usual hstumbles).exists_generate (r.package?.map Word.text)
    (ClassName.isValid_ofPath path.word.text) (Sketch.callsInside_of_plain hplain _)
  exact ⟨g, hg⟩

/-- A sketch that is not UTF-8, settings that are not, and an output in a folder that is missing: all
three runs fail, and of the first two nothing is shown. -/
theorem undecodable_sketch_crashes :
    let settings : World :=
      { lone [] with files := [(["d", "a.pde"], []), (["d", "sketch.toml"], [255])] }
    run (lone [255]) ["transpile", "a.pde"] = { exit := .crash .undecodable } ∧
      run settings ["transpile", "a.pde"] = { exit := .crash .undecodable } ∧
      (run (lone []) ["transpile", "a.pde", "--out", "b/a.java"]).exit =
        .crash (.output .missing) := by
  intro settings
  have hr : Request.ofWords ["transpile", "a.pde"] =
      .ok { command := .transpile, sketch := "a.pde" } := rfl
  refine ⟨?_, ?_, ?_⟩
  · rw [run_eq_runAt hr (leads_sketch _)]
    rfl
  · rw [run_eq_runAt hr (leads_sketch _)]
    rfl
  · -- the class file of the empty sketch is made, and only then is the folder looked for
    let r : Request :=
      { command := .transpile, sketch := "a.pde", out? := some ("b/a.java" : String) }
    have hr : Request.ofWords ["transpile", "a.pde", "--out", "b/a.java"] = .ok r := rfl
    obtain ⟨g, hg⟩ := exists_made_empty r ["d", "a.pde"]
    have hdelivers : Delivers (lone []) r :=
      ⟨⟨_, _, _, "", g, reads_lone [] rfl, rfl, hg⟩, rfl⟩
    have hleads : Leads (lone []) "b/a.java" ⟨false, ["b", "a.java"]⟩ := ⟨rfl, rfl⟩
    exact run_of_unreported hr (.outputPlace hdelivers rfl (.place hleads rfl))

end Cli

end Sketchbook
