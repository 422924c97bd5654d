import TableQuery.CommandLine.Command
import TableQuery.Proofs.CommandLine.Arguments
import TableQuery.Proofs.Report

/-!
# Commands one after the other

A command that changes a file in place runs its query on what the commands before it have left. It
writes the file only for a report of a change. Every other report leaves the text of the file as the
text to go on with, so that the commands are a session on it.

* `nextText_run`: the text after a report is another one only if the report tells of a change;
* `FileTree.Rewritten`: files of which one has another text;
* `Ready`: what commands and files have to be, which a command keeps (`Ready.next`);
* `Ready.rewritten_respond`: the files after one command in place;
* `Ready.respondAll_inPlace`: so it is for many, by induction on their queries;
* `commands_are_session`: what commands leave, and what each of them answers and writes.
-/

namespace TableQuery

open CommandLine (isChange)
open Query (PatternLibrary)

theorem CommandLine.isChange_iff {report : Report} : isChange report = true ↔
    report.error = none ∧ (report.operation = some .update ∨ report.operation = some .delete) ∧
      0 < report.rowsAffected := by
  simp [isChange, Report.isFailure, and_assoc, and_left_comm]

/-- The text after a report is the resulting one only if the report tells of a change. -/
theorem Engine.nextText_run [PatternLibrary] (engine : Engine) (text query : String) :
    nextText text (engine.run text query) =
      if isChange (engine.run text query) then (engine.run text query).resultText else text := by
  cases h : (engine.outcome text query).result with
  | error e =>
    have failed := ofFailure_run h
    simp only [nextText, failed.isProjection, failed.resultText, ite_self]
  | ok report =>
    have success := ofSuccess_run h
    have operation := operation_run engine text query
    rw [nextText]
    by_cases select : Query.kindOf? query = some .select
    · -- a selection is no change
      have none : ¬isChange (engine.run text query) = true := by
        rw [CommandLine.isChange_iff, operation, select]
        simp
      rw [if_pos (success.isProjection.2 select), if_neg none]
    · rw [if_neg (mt success.isProjection.1 select)]
      split
      · rfl
      · next none =>
        refine resultText_eq_self (.inr ⟨by rwa [operation], ?_⟩)
        obtain ⟨kind, announced⟩ : ∃ kind, Query.kindOf? query = some kind := by
          rw [outcome, Query.Outcome.result_bind_eq_ok] at h
          obtain ⟨⟨answer, after⟩, answered, -⟩ := h
          obtain ⟨-, statement, -, parsed, -, -⟩ := of_answer_eq_ok answered
          exact ⟨_, Query.kind_of_parse parsed⟩
        rw [CommandLine.isChange_iff, operation, announced] at none
        rw [announced] at select
        cases kind <;> simp_all [success.error]

namespace CommandLine

/-! ## Files -/

namespace FileTree

/-- The files of two trees are the same but for one, which has the text in the second tree, at every
path that leads to it. -/
structure Rewritten (before after : FileTree) (file text : String) : Prop where
  locate : ∀ path, after.locate path = before.locate path
  same : ∀ path, before.locate path = before.locate file → after.read path = .ok text
  other : ∀ path, before.locate path ≠ before.locate file → after.read path = before.read path

variable {tree middle after : FileTree} {file text old : String}

theorem read_congr {path other : String} (h : tree.locate path = tree.locate other) :
    tree.read path = tree.read other := by
  rw [FileTree.read, FileTree.read, h]

theorem Rewritten.self (h : tree.read file = .ok text) : tree.Rewritten tree file text :=
  ⟨fun _ => rfl, fun _ same => (read_congr same).trans h, fun _ _ => rfl⟩

theorem Rewritten.trans (first : tree.Rewritten middle file old)
    (second : middle.Rewritten after file text) : tree.Rewritten after file text := by
  refine ⟨fun path => (second.locate path).trans (first.locate path), fun path same => ?_,
    fun path differs => ?_⟩
  · exact second.same path (by rw [first.locate, first.locate, same])
  · rw [second.other path (by rwa [first.locate, first.locate]), first.other path differs]

/-- A file that is there has the text that is written to it. -/
theorem rewritten_write (h : tree.read file = .ok old) (text : String) :
    tree.Rewritten (tree.write file text) file text := by
  cases place : tree.locate file with
  | error fault =>
    rw [FileTree.read, place] at h
    cases h
  | ok target =>
    rw [write, place]
    refine ⟨locate_replace tree _ text, fun path same => ?_, fun path differs => ?_⟩
    · rw [read_replace, read_congr same, h, same, place]
      simp [Except.map, Except.toOption]
    · have elsewhere : (tree.locate path).toOption ≠ some target := fun e => differs <| by
        rw [place]
        cases found : tree.locate path <;> simp_all [Except.toOption]
      simp only [read_replace, elsewhere, if_false]
      cases tree.read path <;> rfl

end FileTree

/-! ## One command -/

/-- What a command answers to the report of its query, and what it writes. -/
structure Answers (options : Options) (report : Report) (response : Response) : Prop where
  exitCode : response.exitCode = 0 ↔ report.error = none
  /-- Only a change in place is written. -/
  writes : response.written ≠ none ↔ options.inPlace = true ∧ report.error = none ∧
    (report.operation = some .update ∨ report.operation = some .delete) ∧ 0 < report.rowsAffected
  written : ∀ path text, response.written = some (path, text) →
    path = options.file ∧ text = report.resultText

section

variable {files : Files} {options : Options} {words : List String}

theorem answers_respondReport (options : Options) (report : Report) :
    Answers options report (respondReport options report) := by
  refine ⟨?_, ?_, fun path text h => ?_⟩
  · cases h : report.error <;> simp [respondReport, Report.isFailure, h]
  · simp [respondReport, ← isChange_iff]
  · simp only [respondReport] at h
    split at h
    · cases h
      exact ⟨rfl, rfl⟩
    · cases h

/-- The settings depend on the settings file only. -/
theorem settingsOf_congr {other : Files} (h : ∀ path ∈ options.config, files path = other path) :
    settingsOf files options = settingsOf other options := by
  have same : readSettings files options.config = readSettings other options.config := by
    cases config : options.config with
    | none => rfl
    | some path => rw [readSettings, readSettings, h path config]
  rw [settingsOf, settingsOf, same]

variable [PatternLibrary]

/-- A command with a query answers to the report of it. If there is none it fails, and writes
nothing. -/
theorem respond_of_run (asks : readArguments words = .ok (.run options)) :
    (∃ report, reportOf files options = .ok report ∧
      Answers options report (respond files words)) ∨
    ∃ fault, reportOf files options = .error fault ∧ (respond files words).exitCode = 1 ∧
      (respond files words).written = none := by
  simp only [respond, asks, respondOptions]
  cases reportOf files options with
  | error fault => exact .inr ⟨fault, rfl, rfl, rfl⟩
  | ok report => exact .inl ⟨report, rfl, answers_respondReport options report⟩

/-- A command that is not told to change a file leaves all files as they are. -/
theorem after_respond_of_not_mem (tree : FileTree) (absent : "--in-place" ∉ words) :
    tree.after (respond tree.read words) = tree := by
  have none : (respond tree.read words).written = none := by
    cases asks : readArguments words with
    | error fault => simp [respond, asks]
    | ok request =>
      cases request with
      | help => simp [respond, asks]
      | version => simp [respond, asks]
      | run options =>
        have here := inPlace_of_readArguments absent asks
        obtain ⟨report, -, answers⟩ | ⟨_, -, -, none⟩ := @respond_of_run tree.read _ _ _ asks
        · by_contra writes
          cases here.symm.trans (answers.writes.1 writes).1
        · exact none
  rw [FileTree.after, none]

end

/-! ## Many commands -/

/-- Commands with one query each behind the same words, one after the other: what each of them
answers, and the files that are left. -/
def respondAll [PatternLibrary] (tree : FileTree) (words : List String) :
    List String → List Response × FileTree
  | [] => ([], tree)
  | query :: rest =>
    let response := respond tree.read (words ++ [query])
    let (responses, final) := respondAll (tree.after response) words rest
    (response :: responses, final)

/-- The words ask for the options with any query behind them, and the files give the settings and
the text. -/
structure Ready (tree : FileTree) (words : List String) (options : Options) (settings : Settings)
    (text : String) : Prop where
  asks : ∀ query, readArguments (words ++ [query]) = .ok (.run { options with query })
  settings : settingsOf tree.read options = .ok settings
  text : tree.read options.file = .ok text
  /-- The settings file is another one. -/
  apart : ∀ path ∈ options.config, tree.locate path ≠ tree.locate options.file

namespace Ready

variable {tree after : FileTree} {words : List String} {options : Options} {settings : Settings}
  {text other : String}

theorem next (h : Ready tree words options settings text)
    (rewritten : tree.Rewritten after options.file other) :
    Ready after words options settings other where
  asks := h.asks
  settings := by
    rw [← h.settings]
    exact settingsOf_congr fun path config => rewritten.other path (h.apart path config)
  text := rewritten.same _ rfl
  apart path config := by
    rw [rewritten.locate, rewritten.locate]
    exact h.apart path config

variable [PatternLibrary]

theorem respond_eq (h : Ready tree words options settings text) (query : String) :
    respond tree.read (words ++ [query]) =
      respondReport options ((Engine.ofSettings settings).run text query) := by
  have report : reportOf tree.read { options with query } =
      .ok ((Engine.ofSettings settings).run text query) := by
    have same : settingsOf tree.read { options with query } = .ok settings := h.settings
    rw [reportOf, same]
    simp only [bind, Except.bind, h.text]
    rfl
  simp only [respond, h.asks, respondOptions, report]
  rfl

/-- A command in place leaves the file with the text to go on with. -/
theorem rewritten_respond (h : Ready tree words options settings text)
    (here : options.inPlace = true) (query : String) :
    tree.Rewritten (tree.after (respond tree.read (words ++ [query]))) options.file
      (Engine.nextText text ((Engine.ofSettings settings).run text query)) := by
  rw [h.respond_eq, Engine.nextText_run, respondReport, FileTree.after, here, Bool.true_and]
  by_cases change : isChange ((Engine.ofSettings settings).run text query) = true
  · rw [if_pos change, if_pos change]
    exact FileTree.rewritten_write h.text _
  · rw [if_neg change, if_neg change]
    exact .self h.text

/-- Commands in place are a session on the text of the file. -/
theorem respondAll_inPlace (h : Ready tree words options settings text)
    (here : options.inPlace = true) (queries : List String) :
    tree.Rewritten (respondAll tree words queries).2 options.file
        ((Engine.ofSettings settings).session text queries).2 ∧
      (respondAll tree words queries).1 =
        ((Engine.ofSettings settings).session text queries).1.map (respondReport options) := by
  induction queries generalizing tree text with
  | nil => exact ⟨.self h.text, rfl⟩
  | cons query rest ih =>
    have step := h.rewritten_respond here query
    obtain ⟨rewritten, responses⟩ := ih (h.next step)
    exact ⟨step.trans rewritten, congrArg₂ List.cons (h.respond_eq query) responses⟩

/-- Commands that change nothing all run on the same text. -/
theorem respondAll_of_not_inPlace (h : Ready tree words options settings text)
    (here : options.inPlace = false) (queries : List String) :
    respondAll tree words queries =
      (queries.map fun query =>
        respondReport options ((Engine.ofSettings settings).run text query), tree) := by
  have step : ∀ query, tree.after (respond tree.read (words ++ [query])) = tree := by
    intro query
    rw [h.respond_eq, respondReport, FileTree.after, here]
    rfl
  induction queries with
  | nil => rfl
  | cons query rest ih => rw [respondAll, step, ih, h.respond_eq, List.map_cons]

end Ready

/-- Commands that change a file in place are a session on its text. The words before the query of a
command have two dashes among them, and with some query they ask for the options; the file and the
settings can be read, and the settings file is not the file. Then commands in place leave the file
with the text of the session and all other files as they are, and commands that are not in place
leave all files. Each of them answers to the report of its query. In general, a command with a query
succeeds exactly if there is a report without an error, and only a command with the word for it
changes a file. -/
theorem commands_are_session [PatternLibrary] {tree : FileTree} {words : List String}
    {first : String} {options : Options} {settings : Settings} {text : String}
    (marked : "--" ∈ words) (asks : readArguments (words ++ [first]) = .ok (.run options))
    (given : settingsOf tree.read options = .ok settings)
    (read : tree.read options.file = .ok text)
    (apart : ∀ path ∈ options.config, tree.locate path ≠ tree.locate options.file)
    (queries : List String) :
    (options.inPlace = true →
      tree.Rewritten (respondAll tree words queries).2 options.file
          ((Engine.ofSettings settings).session text queries).2 ∧
        List.Forall₂ (Answers options) ((Engine.ofSettings settings).session text queries).1
          (respondAll tree words queries).1) ∧
    (options.inPlace = false →
      (respondAll tree words queries).2 = tree ∧
        List.Forall₂ (Answers options) (queries.map ((Engine.ofSettings settings).run text))
          (respondAll tree words queries).1) ∧
    (∀ (files : Files) (words : List String) (options : Options),
      readArguments words = .ok (.run options) →
        (∃ report, reportOf files options = .ok report ∧
          Answers options report (respond files words)) ∨
        ∃ fault, reportOf files options = .error fault ∧
          (respond files words).exitCode = 1 ∧ (respond files words).written = none) ∧
    ∀ (tree : FileTree) (words : List String), "--in-place" ∉ words →
      tree.after (respond tree.read words) = tree := by
  have ready : Ready tree words options settings text :=
    ⟨readArguments_append marked asks, given, read, apart⟩
  have answers : ∀ reports : List Report,
      List.Forall₂ (Answers options) reports (reports.map (respondReport options)) := fun reports =>
    List.forall₂_map_right_iff.2 (List.forall₂_same.2 fun report _ =>
      answers_respondReport options report)
  refine ⟨fun here => ?_, fun here => ?_, fun _ _ _ => respond_of_run,
    fun tree _ => after_respond_of_not_mem tree⟩
  · obtain ⟨rewritten, responses⟩ := ready.respondAll_inPlace here queries
    rw [responses]
    exact ⟨rewritten, answers _⟩
  · rw [ready.respondAll_of_not_inPlace here queries]
    refine ⟨rfl, ?_⟩
    have responses := answers (queries.map ((Engine.ofSettings settings).run text))
    rwa [List.map_map] at responses

/-- Two changes with a failure between them, on a file whose delimiter is in a settings file. -/
theorem commands_are_session_settings_file : ∃ tree : FileTree,
    tree.read "data.csv" = .ok "id;name\n1;a\n2;b\n" ∧
    (respondAll tree ["--in-place", "--config", "c.json", "data.csv", "--"]
        ["UPDATE t SET name = 'x' WHERE id = 1", "--json", "DELETE FROM t WHERE id = 2"]).2.read
      "./data.csv" = .ok "id;name\n1;x\n" ∧
    (respondAll tree ["--in-place", "--config", "c.json", "data.csv", "--"]
        ["UPDATE t SET name = 'x' WHERE id = 1", "--json", "DELETE FROM t WHERE id = 2"]).2.read
      "c.json" = tree.read "c.json" ∧
    (respondAll tree ["--config=c.json", "data.csv", "--"]
        ["UPDATE t SET name = 'x' WHERE id = 1", "--json"]).2 = tree ∧
    (respond tree.read ["data.csv", "--", "--json"]).exitCode ≠ 0 ∧
    tree.after (respond tree.read ["data.csv", "DELETE FROM t WHERE id = 1"]) = tree := by
  let tree : FileTree := ⟨[[]],
    [(["data.csv"], "id;name\n1;a\n2;b\n"), (["c.json"], "\x7b\"delimiter\": 59\x7d")], ([], ·)⟩
  have text : tree.read "data.csv" = .ok "id;name\n1;a\n2;b\n" := by decide +kernel
  have apart : ∀ path ∈ some "c.json", tree.locate path ≠ tree.locate "data.csv" := by
    decide +kernel
  have given (inPlace : Bool) : settingsOf tree.read
      ⟨"data.csv", "", none, some "c.json", false, inPlace, false⟩ = .ok { delimiter := 59 } := by
    cases inPlace <;> decide +kernel
  have changing : readArguments (["--in-place", "--config", "c.json", "data.csv", "--"] ++ [""]) =
      .ok (.run ⟨"data.csv", "", none, some "c.json", false, true, false⟩) := by
    decide +kernel
  have reading : readArguments (["--config=c.json", "data.csv", "--"] ++ [""]) =
      .ok (.run ⟨"data.csv", "", none, some "c.json", false, false, false⟩) := by
    decide +kernel
  obtain ⟨here, -, runs, unasked⟩ := commands_are_session (by decide) changing (given true) text
    apart ["UPDATE t SET name = 'x' WHERE id = 1", "--json", "DELETE FROM t WHERE id = 2"]
  obtain ⟨-, kept, -, -⟩ := commands_are_session (by decide) reading (given false) text
    apart ["UPDATE t SET name = 'x' WHERE id = 1", "--json"]
  obtain ⟨rewritten, -⟩ := here rfl
  refine ⟨tree, text, ?_, rewritten.other _ (by decide +kernel), (kept rfl).1, ?_,
    unasked _ _ (by decide)⟩
  · rw [rewritten.same _ (by decide +kernel)]
    decide +kernel
  · have asks : readArguments ["data.csv", "--", "--json"] =
        .ok (.run ⟨"data.csv", "--json", none, none, false, false, false⟩) := by
      decide +kernel
    have fails : (reportOf tree.read ⟨"data.csv", "--json", none, none, false, false, false⟩).map
        Report.isFailure = .ok true := by
      decide +kernel
    rcases runs tree.read _ _ asks with ⟨report, reported, answers⟩ | ⟨_, -, exitCode, -⟩
    · rw [reported] at fails
      exact mt answers.exitCode.1 (Option.ne_none_iff_isSome.2 (Except.ok.inj fails))
    · rw [exitCode]
      decide

end CommandLine

end TableQuery
