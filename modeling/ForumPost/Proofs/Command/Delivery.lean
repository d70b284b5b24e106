import ForumPost.Proofs.Command.Run
import ForumPost.Proofs.Post.Closing
import ForumPost.Proofs.Text.Escapes

/-!
# The two ways to deliver a post

A post is shown with the end of a line behind it, and it is written to a file with
one behind it unless it has one already.  The two agree because no post ends in the
end of a line (`Request.getLast?_contentIn`): what stands in the file is what would
have been shown, unless the post holds escape sequences that are not shown
(`written_eq_shown`).
-/

namespace ForumPost

/-- A text that is shown as it is, is shown as it is with the end of a line behind it. -/
theorem shownText_append_newline {environment : Environment} {content : Text}
    (hshown : shownText environment content = content) :
    shownText environment (content ++ ['\n']) = content ++ ['\n'] := by
  simp only [shownText] at hshown ⊢
  split
  · rfl
  · rename_i hplain
    rw [if_neg hplain] at hshown
    exact Text.withoutEscapes_append_newline hshown

theorem endedLine_of_ne {content : Text} (hlast : content.getLast? ≠ some '\n') :
    endedLine content = content ++ ['\n'] := by
  rw [endedLine, if_neg (by simpa using hlast)]

namespace Request

variable {request : Request} {environment : Environment} {folder after : Folder}
  {outcome : Outcome} {content path : Text} {names : List Text}

/-- What a request puts out is put out for a post that is made of a page. -/
theorem contentIn_eq_ok (hcontent : request.contentIn folder = .ok content) :
    ∃ dialect page post, Post.ofText { dialect, site := request.site } page = .ok post ∧
      content = post.output dialect request.json := by
  unfold contentIn at hcontent
  split at hcontent
  · cases hcontent
  · rename_i dialect _
    split at hcontent
    · cases hcontent
    · obtain ⟨page, post, -, hpost, heq⟩ := content_eq_ok hcontent
      exact ⟨dialect, page, post, hpost, heq⟩

/-- What a request puts out does not end in a line feed. -/
theorem getLast?_contentIn (hcontent : request.contentIn folder = .ok content) :
    content.getLast? ≠ some '\n' := by
  obtain ⟨dialect, page, post, hpost, rfl⟩ := contentIn_eq_ok hcontent
  exact Post.getLast?_output_ofPage hpost dialect request.json

namespace Ends

/-- A request that has nothing to put out does not finish. -/
theorem ne_finished (hends : request.Ends environment folder outcome after) {ending : Ending}
    (hcontent : request.contentIn folder = .error ending) : outcome.ending ≠ .finished := by
  cases hends with
  | refused hrefused => exact ne_finished_of_contentIn hrefused
  | shown hshown houtput => cases hcontent.symm.trans hshown
  | written hwritten houtput hwrite => cases hcontent.symm.trans hwritten
  | blocked hblocked houtput hwrite => cases hcontent.symm.trans hblocked

/-- A request without a path shows what it puts out. -/
theorem shows (hends : request.Ends environment folder outcome after)
    (hcontent : request.contentIn folder = .ok content) (houtput : request.output = none) :
    outcome.ending = .finished ∧ outcome.shown = shownText environment (content ++ ['\n']) := by
  cases hends with
  | refused hrefused => cases hcontent.symm.trans hrefused
  | shown hshown hnone =>
    cases hcontent.symm.trans hshown
    exact ⟨rfl, rfl⟩
  | written hwritten hsome hwrite => cases houtput.symm.trans hsome
  | blocked hblocked hsome hwrite => cases houtput.symm.trans hsome

/-- A request with a path that names a file writes what it puts out to that file. -/
theorem writes (hends : request.Ends environment folder outcome after)
    (hcontent : request.contentIn folder = .ok content) (houtput : request.output = some path)
    (hnames : folder.named? path = some names) :
    outcome.ending = .finished ∧ after.lookup names = some (.text (endedLine content)) := by
  obtain ⟨filled, hfilled, hlookup⟩ := Folder.exists_write hnames (endedLine content)
  cases hends with
  | refused hrefused => cases hcontent.symm.trans hrefused
  | shown hshown hnone => cases houtput.symm.trans hnone
  | written hwritten hsome hwrite =>
    cases houtput.symm.trans hsome
    cases hcontent.symm.trans hwritten
    cases hfilled.symm.trans hwrite
    exact ⟨rfl, hlookup⟩
  | blocked hblocked hsome hwrite =>
    cases houtput.symm.trans hsome
    cases hcontent.symm.trans hblocked
    cases hfilled.symm.trans hwrite

end Ends

end Request

/-- What is written to a file is what would have been shown.  No post ends in a line
feed, whatever it was assembled from, in either dialect, as text and as JSON.  So if
one run shows a post and another writes it to a file, both on the same folder, then
one finishes if the other does, and the file holds the content and one line feed
behind it.  That is also what is shown, unless the content holds escape sequences
that are not shown. -/
theorem written_eq_shown :
    (∀ style title canonicalUrl url body dialect json,
      ((Post.assembled title canonicalUrl (Style.banner style url) body).output
        dialect json).getLast? ≠ some '\n') ∧
    (∀ style page post dialect json, Post.ofPage style page = .ok post →
      (post.output dialect json).getLast? ≠ some '\n') ∧
    ∀ (request : Request) (path : Text) (names : List Text) (folder : Folder)
      (environment elsewhere : Environment) (arguments words : List Text) (notes noted : Bool),
      Command.ofArguments? environment arguments =
        some (.makePost { request with output := none }, notes) →
      Command.ofArguments? elsewhere words =
        some (.makePost { request with output := some path }, noted) →
      folder.named? path = some names →
      let showing := (run Folder.files environment arguments).run folder
      let writing := (run Folder.files elsewhere words).run folder
      (showing.1.ending = .finished ↔ writing.1.ending = .finished) ∧
        (showing.1.ending = .finished →
          ∃ content, request.contentIn folder = .ok content ∧ content.getLast? ≠ some '\n' ∧
            writing.2.lookup names = some (.text (content ++ ['\n'])) ∧
            (shownText environment content = content →
              showing.1.shown = content ++ ['\n'])) := by
  refine ⟨Post.getLast?_output_assembled, fun style page post dialect json hpost =>
    Post.getLast?_output_ofPage hpost dialect json, ?_⟩
  intro request path names folder environment elsewhere arguments words notes noted
    harguments hwords hnames
  rw [run_eq_run_request Folder.files _ harguments, run_eq_run_request Folder.files _ hwords]
  have hshowing := Request.ends_run { request with output := none } environment notes folder
  have hwriting := Request.ends_run { request with output := some path } elsewhere noted folder
  cases hcontent : request.contentIn folder with
  | error ending =>
    have hshown := hshowing.ne_finished hcontent
    have hwritten := hwriting.ne_finished hcontent
    exact ⟨iff_of_false hshown hwritten, fun hfinished => absurd hfinished hshown⟩
  | ok content =>
    obtain ⟨hshown, htext⟩ := hshowing.shows hcontent rfl
    obtain ⟨hwritten, hlookup⟩ := hwriting.writes hcontent rfl hnames
    have hlast := Request.getLast?_contentIn hcontent
    rw [endedLine_of_ne hlast] at hlookup
    refine ⟨iff_of_true hshown hwritten, fun _ => ⟨content, rfl, hlast, hlookup, ?_⟩⟩
    intro hself
    exact htext.trans (shownText_append_newline hself)

/-- A short post, shown and written to a file. -/
theorem written_eq_shown_paragraph :
    let texts (words : List String) := words.map String.toList
    let folder : Folder :=
      [(texts ["a"], .text "<link rel=canonical href=z><p class=content>hi".toList)]
    let content := ("# \n\n**Originally posted at [Take on Rules](z)**\n\nhi\n\n" ++
      "**Originally posted at [Take on Rules](z)**").toList
    let showing := (run Folder.files [] (texts ["export", "a"])).run folder
    let writing := (run Folder.files [] (texts ["export", "a", "-ob"])).run folder
    writing.2.lookup (texts ["b"]) = some (.text (content ++ ['\n'])) ∧
      showing.1.shown = content ++ ['\n'] := by
  intro texts folder content
  let request : Request := { source := "a".toList }
  have hshows : Command.ofArguments? [] (texts ["export", "a"]) =
      some (.makePost { request with output := none }, false) := by
    decide +kernel
  have hwrites : Command.ofArguments? [] (texts ["export", "a", "-ob"]) =
      some (.makePost { request with output := some "b".toList }, false) := by
    decide +kernel
  have hnames : folder.named? "b".toList = some (texts ["b"]) := by decide +kernel
  have hcontent : request.contentIn folder = .ok content := by decide +kernel
  have hself : shownText [] content = content := by decide +kernel
  have hruns := written_eq_shown.2.2 request "b".toList (texts ["b"]) folder [] []
    (texts ["export", "a"]) (texts ["export", "a", "-ob"]) false false hshows hwrites hnames
  obtain ⟨found, hfound, -, hfile, hshown⟩ := hruns.2 (by decide +kernel)
  rw [hcontent] at hfound
  cases hfound
  exact ⟨hfile, hshown hself⟩

end ForumPost
