import ForumPost.Proofs.Command.Arguments
import ForumPost.Command.Run
import ForumPost.Proofs.Files.Folder

/-!
# What a run leaves behind

A request that is carried out on a folder ends in one of four ways, which
`Request.Ends` lists with all that can be seen of each: there is nothing to put
out, the content is shown, it is written to a file, or it cannot be written.
`Request.ends_run` says that there is no fifth way, and everything else about
runs is read off the list.

There are three groups.

* What is put out.  `Request.contentIn` is the content that a request makes of
  the files of a folder.  It does not depend on where the content goes.
* How a request ends, from the delivery of the content up to the whole run.
* The trace of a run.  `LeavesNoTrace` says what may be seen and what may be
  changed when a run is over, and every run satisfies it.  A run that is asked for
  help comes to no request: it shows a page of the manual, and leaves the files alone
  even if a path to write to stands among its arguments.
-/

namespace ForumPost

/-! ## What is put out -/

/-- What a request puts out for the files of a folder, wherever it goes; or how a
run ends that has nothing to put out. -/
def Request.contentIn (request : Request) (folder : Folder) : Except Ending Text :=
  match Dialect.ofId request.dialect with
  | .error failure => .error (.failed [failure.message])
  | .ok dialect =>
    match Source.ofText request.source with
    | .url address => .error (.failed ["Failed to fetch ".toList ++ address])
    | .path path => request.content dialect path (folder.find path)

namespace Request

variable {request : Request} {environment : Environment} {folder : Folder}

/-- The content that there is comes from a page in a file, and is what is put out
for the post that is made of the page. -/
theorem content_eq_ok {dialect : Dialect} {path content : Text} {found : Found}
    (hcontent : request.content dialect path found = .ok content) :
    ∃ page post, found = .text page ∧
      Post.ofText { dialect, site := request.site } page = .ok post ∧
      content = post.output dialect request.json := by
  unfold Request.content at hcontent
  split at hcontent
  · cases hcontent
  · cases hcontent
  · cases hcontent
  · rename_i page
    split at hcontent
    · rename_i post hpost
      exact ⟨page, post, rfl, hpost, (Except.ok.inj hcontent).symm⟩
    · cases hcontent
    · cases hcontent

/-- A run that has nothing to put out does not finish. -/
theorem ne_finished_of_content {dialect : Dialect} {path : Text} {found : Found} {ending : Ending}
    (hcontent : request.content dialect path found = .error ending) : ending ≠ .finished := by
  rintro rfl
  unfold Request.content at hcontent
  split at hcontent
  · cases hcontent
  · cases hcontent
  · cases hcontent
  · split at hcontent <;> cases hcontent

theorem ne_finished_of_contentIn {ending : Ending}
    (hcontent : request.contentIn folder = .error ending) : ending ≠ .finished := by
  unfold contentIn at hcontent
  split at hcontent
  · rw [← Except.error.inj hcontent]
    simp
  · split at hcontent
    · rw [← Except.error.inj hcontent]
      simp
    · exact ne_finished_of_content hcontent

/-! ## How a request ends -/

/-- The four ways in which a request ends on a folder. -/
inductive Ends (request : Request) (environment : Environment) (folder : Folder) :
    Outcome → Folder → Prop where
  /-- There is nothing to put out. -/
  | refused {ending : Ending} {notes : Text} (hcontent : request.contentIn folder = .error ending) :
    Ends request environment folder { ending, notes } folder
  /-- The content is shown. -/
  | shown {content notes : Text} (hcontent : request.contentIn folder = .ok content)
      (houtput : request.output = none) :
    Ends request environment folder
      { shown := shownText environment (content ++ ['\n']), notes } folder
  /-- The content is written to the file that the request names. -/
  | written {content notes path : Text} {after : Folder}
      (hcontent : request.contentIn folder = .ok content) (houtput : request.output = some path)
      (hwrite : folder.write path (endedLine content) = .ok after) :
    Ends request environment folder { notes } after
  /-- The content cannot be written. -/
  | blocked {content notes path : Text} {obstacle : Obstacle}
      (hcontent : request.contentIn folder = .ok content) (houtput : request.output = some path)
      (hwrite : folder.write path (endedLine content) = .error obstacle) :
    Ends request environment folder
      { ending := .failed ["Failed to write ".toList ++ path, obstacle.message], notes } folder

/-- Notes stand beside the outcome and change nothing about it. -/
theorem Ends.withNotes {outcome : Outcome} {after : Folder}
    (hends : request.Ends environment folder outcome after) (notes : Text) :
    request.Ends environment folder { outcome with notes } after := by
  cases hends with
  | refused hcontent => exact .refused hcontent
  | shown hcontent houtput => exact .shown hcontent houtput
  | written hcontent houtput hwrite => exact .written hcontent houtput hwrite
  | blocked hcontent houtput hwrite => exact .blocked hcontent houtput hwrite

/-- Content is delivered in one of the last three ways. -/
theorem ends_deliver {content : Text} (hcontent : request.contentIn folder = .ok content) :
    let delivered := (request.deliver Folder.files environment content).run folder
    request.Ends environment folder delivered.1 delivered.2 := by
  cases houtput : request.output with
  | none =>
    have hrun : (request.deliver Folder.files environment content).run folder =
        ({ shown := shownText environment (content ++ ['\n']) }, folder) := by
      simp only [deliver, houtput]
      rfl
    rw [hrun]
    exact .shown hcontent houtput
  | some path =>
    cases hwrite : folder.write path (endedLine content) with
    | ok after =>
      have hrun : (request.deliver Folder.files environment content).run folder = ({}, after) := by
        simp only [deliver, houtput, StateT.run_bind, Folder.run_write, hwrite]
        rfl
      rw [hrun]
      exact .written hcontent houtput hwrite
    | error obstacle =>
      have hrun : (request.deliver Folder.files environment content).run folder =
          ({ ending := .failed ["Failed to write ".toList ++ path, obstacle.message] }, folder) := by
        simp only [deliver, houtput, StateT.run_bind, Folder.run_write, hwrite]
        rfl
      rw [hrun]
      exact .blocked hcontent houtput hwrite

/-- A page in a file is read, and its content delivered. -/
theorem run_carryOut_path (request : Request) (environment : Environment) (folder : Folder)
    (dialect : Dialect) (path : Text) :
    (request.carryOut Folder.files environment dialect (.path path)).run folder =
      match request.content dialect path (folder.find path) with
      | .ok content => (request.deliver Folder.files environment content).run folder
      | .error ending => ({ ending }, folder) := by
  have hrun : (request.carryOut Folder.files environment dialect (.path path)).run folder =
      (match request.content dialect path (folder.find path) with
        | .ok content => request.deliver Folder.files environment content
        | .error ending => return { ending } : StateM Folder Outcome).run folder := by
    simp only [carryOut, StateT.run_bind, Folder.run_read]
    rfl
  rw [hrun]
  cases request.content dialect path (folder.find path) <;> rfl

theorem ends_carryOut {dialect : Dialect} (hdialect : Dialect.ofId request.dialect = .ok dialect) :
    let ran := (request.carryOut Folder.files environment dialect
      (Source.ofText request.source)).run folder
    request.Ends environment folder ran.1 ran.2 := by
  cases hsource : Source.ofText request.source with
  | url address =>
    have hcontent : request.contentIn folder =
        .error (.failed ["Failed to fetch ".toList ++ address]) := by
      simp [contentIn, hdialect, hsource]
    exact .refused hcontent
  | path path =>
    have hcontent : request.contentIn folder =
        request.content dialect path (folder.find path) := by
      simp [contentIn, hdialect, hsource]
    rw [run_carryOut_path]
    cases hfound : request.content dialect path (folder.find path) with
    | error ending => exact .refused (hcontent.trans hfound)
    | ok content => exact ends_deliver (hcontent.trans hfound)

/-- Every run of a request ends in one of the four ways. -/
theorem ends_run (request : Request) (environment : Environment) (notes : Bool)
    (folder : Folder) :
    let ran := (request.run Folder.files environment notes).run folder
    request.Ends environment folder ran.1 ran.2 := by
  cases hdialect : Dialect.ofId request.dialect with
  | error failure =>
    have hrun : (request.run Folder.files environment notes).run folder =
        ({ ending := .failed [failure.message] }, folder) := by
      simp only [Request.run, hdialect]
      rfl
    rw [hrun]
    exact .refused (by simp [contentIn, hdialect])
  | ok dialect =>
    let source := Source.ofText request.source
    have hrun : (request.run Folder.files environment notes).run folder =
        let (outcome, after) :=
          (request.carryOut Folder.files environment dialect source).run folder
        let text := if notes then shownText environment (notesOn source dialect) else []
        ({ outcome with notes := text }, after) := by
      simp only [Request.run, hdialect]
      rfl
    rw [hrun]
    exact (ends_carryOut hdialect).withNotes _

end Request

/-! ## The trace of a run -/

/-- The file that a command names for what it puts out. -/
def Command.output? : Command → Option Text
  | makePost request => request.output
  | _ => none

/-- What may be seen of a run, and what it may have changed, when it is over.
`output` is the path that it was to write to, if there was one. -/
structure LeavesNoTrace (output : Option Text) (before : Folder) (outcome : Outcome)
    (after : Folder) : Prop where
  /-- A run that fails shows nothing and changes no file. -/
  of_failed : outcome.ending.status ≠ 0 → outcome.shown = [] ∧ after = before
  /-- A run without a path to write to changes no file. -/
  of_shown : output = none → after = before
  /-- A run with such a path shows nothing, and changes no other file. -/
  of_written : ∀ path, output = some path → outcome.shown = [] ∧
    ∀ names, before.named? path ≠ some names → after.lookup names = before.lookup names

theorem Request.Ends.leavesNoTrace {request : Request} {environment : Environment}
    {before after : Folder} {outcome : Outcome}
    (hends : request.Ends environment before outcome after) :
    LeavesNoTrace request.output before outcome after := by
  cases hends with
  | refused hcontent =>
    exact ⟨fun _ => ⟨rfl, rfl⟩, fun _ => rfl, fun path _ => ⟨rfl, fun names _ => rfl⟩⟩
  | shown hcontent houtput =>
    refine ⟨fun hstatus => absurd rfl hstatus, fun _ => rfl, fun path hpath => ?_⟩
    rw [houtput] at hpath
    cases hpath
  | written hcontent houtput hwrite =>
    refine ⟨fun hstatus => absurd rfl hstatus, fun hnone => ?_, fun path hpath => ⟨rfl, ?_⟩⟩
    · rw [houtput] at hnone
      cases hnone
    · rw [houtput] at hpath
      cases hpath
      intro names hnames
      exact Folder.lookup_write_of_ne hwrite hnames
  | blocked hcontent houtput hwrite =>
    exact ⟨fun _ => ⟨rfl, rfl⟩, fun _ => rfl, fun path _ => ⟨rfl, fun names _ => rfl⟩⟩

section

variable {m : Type → Type} [Monad m] (files : Files m) (manual : Manual)
  {environment : Environment} {arguments : List Text}

/-- A run ends as its request does. -/
theorem run_eq_run_request {request : Request} {notes : Bool}
    (hcommand : Command.ofArguments? environment arguments = some (.makePost request, notes)) :
    run files environment arguments manual = request.run files environment notes := by
  rw [run, hcommand]

/-- A run that is asked for help shows a page of the manual and does nothing else. -/
theorem run_eq_manual {topic : Topic} {detailed notes : Bool}
    (hcommand : Command.ofArguments? environment arguments =
      some (.showHelp topic detailed, notes)) :
    run files environment arguments manual =
      pure { shown := manual environment topic detailed } := by
  rw [run, hcommand]

end

/-- The file that the arguments of a run, and its environment, name for what is
put out. -/
def outputNamed? (environment : Environment) (arguments : List Text) : Option Text :=
  (Command.ofArguments? environment arguments).bind fun command => command.1.output?

/-- A run without a request leaves the files alone. -/
theorem LeavesNoTrace.unchanged {folder : Folder} {outcome : Outcome}
    (houtcome : outcome.ending.status = 0 ∨ outcome.shown = []) :
    LeavesNoTrace none folder outcome folder := by
  refine ⟨fun hstatus => ⟨?_, rfl⟩, fun _ => rfl, fun path hpath => ?_⟩
  · rcases houtcome with hfinished | hshown
    · exact absurd hfinished hstatus
    · exact hshown
  · cases hpath

/-- Every run leaves no trace but the one it was asked for. -/
theorem leavesNoTrace_run (manual : Manual) (environment : Environment) (arguments : List Text)
    (folder : Folder) :
    let ran := (run Folder.files environment arguments manual).run folder
    LeavesNoTrace (outputNamed? environment arguments) folder ran.1 ran.2 := by
  rw [outputNamed?]
  cases hcommand : Command.ofArguments? environment arguments with
  | none =>
    rw [run, hcommand]
    exact .unchanged (.inr rfl)
  | some read =>
    obtain ⟨command, notes⟩ := read
    cases command with
    | showVersion =>
      rw [run, hcommand]
      exact .unchanged (.inl rfl)
    | showHelp topic detailed =>
      rw [run_eq_manual Folder.files manual hcommand]
      exact .unchanged (.inl rfl)
    | listDialects json =>
      rw [run, hcommand]
      exact .unchanged (.inl rfl)
    | makePost request =>
      rw [run_eq_run_request Folder.files manual hcommand]
      exact (request.ends_run environment notes folder).leavesNoTrace

/-- A request for a dialect that nobody knows is over before any file is looked
at. -/
theorem run_of_unknown {m : Type → Type} [Monad m] (files : Files m) {environment : Environment}
    {request : Request} {notes : Bool} (hdialect : Dialect.ofId? request.dialect = none) :
    request.run files environment notes =
      pure { ending := .failed [(Failure.unknownDialect request.dialect).message] } := by
  rw [Request.run, Dialect.ofId, hdialect]

/-- What a run leaves behind, whatever its arguments, its environment, the files and
the manual are.  A run that fails shows nothing and changes no file.  A run that is to
write to a file shows nothing and changes that file alone, and any other run changes
no file.

Help may be asked for in place of a post, or in the middle of asking for one.  Then no
post is made, and no file is written to even if its path is among the arguments: the
run finishes with a page of the manual, on any file system.

Where a post is asked for in a dialect that nobody knows, the run fails, on any file
system and for any source, with the name of the dialect: it does not come to look at
a file. -/
theorem run_leaves_no_trace (manual : Manual) (environment : Environment)
    (arguments : List Text) :
    (∀ folder,
      let ran := (run Folder.files environment arguments manual).run folder
      LeavesNoTrace (outputNamed? environment arguments) folder ran.1 ran.2) ∧
    (∀ topic detailed notes,
      Command.ofArguments? environment arguments = some (.showHelp topic detailed, notes) →
      outputNamed? environment arguments = none ∧
      ∀ (m : Type → Type) [Monad m] (files : Files m),
        run files environment arguments manual =
          pure { shown := manual environment topic detailed }) ∧
    ∀ request notes,
      Command.ofArguments? environment arguments = some (.makePost request, notes) →
      Dialect.ofId? request.dialect = none →
      ∀ (m : Type → Type) [Monad m] (files : Files m),
        run files environment arguments manual =
          pure { ending := .failed [(Failure.unknownDialect request.dialect).message] } := by
  refine ⟨leavesNoTrace_run manual environment arguments, ?_, ?_⟩
  · intro topic detailed notes hcommand
    refine ⟨?_, fun m _ files => run_eq_manual files manual hcommand⟩
    rw [outputNamed?, hcommand]
    rfl
  · intro request notes hcommand hdialect m _ files
    rw [run_eq_run_request files manual hcommand]
    exact run_of_unknown files hdialect

/-- A run that writes to a file, one that stops at an element it has no rule for, one
that is asked for help behind the path to write to, and one in a dialect that nobody
knows. -/
theorem run_leaves_no_trace_samples :
    let texts (words : List String) := words.map String.toList
    let page := "<link rel=canonical href=z><p class=content>hi"
    let folder : Folder :=
      [(texts ["a"], .text page.toList), (texts ["b"], .text (page ++ "<mark>").toList)]
    let ran (words : List String) :=
      (run Folder.files [] (texts words) Manual.brief).run folder
    (ran ["export", "a", "-oc"]).1 = {} ∧
      (ran ["export", "a", "-oc"]).2.lookup (texts ["b"]) = folder.lookup (texts ["b"]) ∧
      (ran ["export", "b", "-oc"]).1.ending.status = 1 ∧ (ran ["export", "b", "-oc"]).2 = folder ∧
      ran ["export", "a", "-oc", "--help"] =
        ({ shown := Manual.brief [] .posts true }, folder) ∧
      ran ["export", "nowhere", "-tx"] =
        ({ ending := .failed ["Unknown renderer 'x'".toList] }, folder) := by
  intro texts page folder ran
  have hwrites : (ran ["export", "a", "-oc"]).1 = {} := by decide +kernel
  have hstops : (ran ["export", "b", "-oc"]).1.ending.status = 1 := by decide +kernel
  have hasks : Command.ofArguments? [] (texts ["export", "a", "-oc", "--help"]) =
      some (.showHelp .posts true, false) :=
    (Command.ofArguments?_help [] rfl []).2.1 (texts ["a", "-oc"]) _ rfl (by decide)
  have hunknown : Command.ofArguments? [] (texts ["export", "nowhere", "-tx"]) =
      some (.makePost { source := "nowhere".toList, dialect := "x".toList }, false) := by
    decide +kernel
  have houtput : outputNamed? [] (texts ["export", "a", "-oc"]) = some "c".toList := by
    decide +kernel
  have hother : folder.named? "c".toList ≠ some (texts ["b"]) := by decide +kernel
  have hwriting : LeavesNoTrace (outputNamed? [] (texts ["export", "a", "-oc"])) folder
      (ran ["export", "a", "-oc"]).1 (ran ["export", "a", "-oc"]).2 :=
    (run_leaves_no_trace Manual.brief [] (texts ["export", "a", "-oc"])).1 folder
  have hstopping : LeavesNoTrace (outputNamed? [] (texts ["export", "b", "-oc"])) folder
      (ran ["export", "b", "-oc"]).1 (ran ["export", "b", "-oc"]).2 :=
    (run_leaves_no_trace Manual.brief [] (texts ["export", "b", "-oc"])).1 folder
  have hhelped := ((run_leaves_no_trace Manual.brief []
    (texts ["export", "a", "-oc", "--help"])).2.1 _ _ _ hasks).2 (StateM Folder) Folder.files
  have hrefused := (run_leaves_no_trace Manual.brief []
    (texts ["export", "nowhere", "-tx"])).2.2 _ _ hunknown (by decide) (StateM Folder) Folder.files
  have hkept := (hwriting.of_written "c".toList houtput).2 (texts ["b"]) hother
  have hunchanged := (hstopping.of_failed (by rw [hstops]; decide)).2
  exact ⟨hwrites, hkept, hstops, hunchanged, congrFun hhelped folder, congrFun hrefused folder⟩

end ForumPost
