import ForumPost.Proofs.Transcript.Rules

/-!
# Writing into a buffer

A transcript says what comes of a node by itself.  An article can also be
written in one pass over a buffer: `Style.write` gets what the buffer holds and
gives what it holds afterwards, also if it fails.  Lists, and divisions around
a table, write into the buffer that they are given.  A node that gathers opens
a buffer of its own, and puts one fragment into the other buffer when it is
done.

Both ways agree: a pass adds the fragments of the transcript at the end of the
buffer and touches nothing in front of them (`Style.write_eq`).  What a buffer
holds after a failure can therefore be read off transcripts: nothing new, unless
the node is a container, and then the fragments of its children up to the one
that failed.  Since containers share their buffer, they can be nested in any way
without a difference (`Node.leaves`).
-/

namespace ForumPost

/-! ## One pass -/

/-- Adds a fragment at the end of a buffer, or keeps the buffer and fails. -/
def Fragments.receive (buffer : Fragments) : Except Failure Text → Transcript
  | .ok fragment => { fragments := buffer.push fragment }
  | .error failure => { fragments := buffer, failure := some failure }

/-- What the buffer of a node that gathers holds at first. -/
def Gathering.seed : Gathering → Fragments
  | .listItem => [['*']]
  | _ => []

namespace Style

/-- The fragment that becomes of the buffer of a node that gathers. -/
def closed (style : Style) (gathering : Gathering) (inner : Fragments) : Text :=
  match gathering with
  | .listItem => (inner.growLast ['\n']).joined " "
  | .paragraph => inner.joined " "
  | .quotation => style.quotation inner
  | .sidenote => style.sidenote inner
  | .gameContent => style.openGameContent inner

/-- Writes a text into a buffer, if there is any. -/
def writePlain (buffer : Fragments) (text : Text) : Transcript :=
  let stripped := Text.strip text
  { fragments := if stripped.isEmpty then buffer else buffer.push stripped }

/-- Writes an anchor into a buffer. -/
def writeAnchor (style : Style) (buffer : Fragments) (address : Option Text) (text : Text) :
    Transcript :=
  match address with
  | none => { fragments := buffer }
  | some url =>
    let stripped := Text.strip text
    let samePage := "#".toList.isPrefixOf url
    { fragments := buffer.push (if samePage then stripped else style.link url stripped) }

/-- Writes an image into a buffer, if there is one. -/
def writeImage (style : Style) (buffer : Fragments) (source : Option Text) : Transcript :=
  { fragments := source.elim buffer fun source => buffer.push (style.image source) }

mutual

/-- Writes a node into a buffer. -/
def write (style : Style) (buffer : Fragments) : Node → Transcript
  | .text content => writePlain buffer content
  | .comment => buffer.receive (.error (.atElement "comment".toList))
  | .element kind tag attributes classes children =>
    let node := Node.element kind tag attributes classes children
    match node.rule with
    | .leftOut => { fragments := buffer }
    | .plain => writePlain buffer node.words
    | .inline => buffer.receive (style.inlineElement tag (Text.strip node.words))
    | .heading level => buffer.receive (style.heading level (Text.strip node.words))
    | .footer => { fragments := buffer.push (style.footer (Text.collapse node.words)) }
    | .newThought => { fragments := buffer.push (style.newThought node.words) }
    | .anchor => style.writeAnchor buffer (node.attribute? "href") node.words
    | .image => style.writeImage buffer node.firstImageSource?
    | .table => buffer.receive (style.table (.ofNode node))
    | .passOn => style.writeAll buffer children
    | .gather gathering =>
      let inner := style.writeAll gathering.seed children
      match inner.failure with
      | none => { fragments := buffer.push (style.closed gathering inner.fragments) }
      | some failure => { fragments := buffer, failure := some failure }
    | .stray => buffer.receive (.error (.atElement tag))
    | .unknownWrapper => buffer.receive (.error (.atWrapper tag))

/-- Writes nodes into a buffer one after the other, up to the first failure. -/
def writeAll (style : Style) (buffer : Fragments) : List Node → Transcript
  | [] => { fragments := buffer }
  | node :: rest =>
    let written := style.write buffer node
    match written.failure with
    | none => style.writeAll written.fragments rest
    | some _ => written

end

end Style

/-! ## A pass only adds to the buffer -/

namespace Transcript

/-- A transcript with a buffer in front of its fragments. -/
def behind (buffer : Fragments) (transcript : Transcript) : Transcript :=
  { transcript with fragments := buffer ++ transcript.fragments }

@[simp] theorem behind_empty (buffer : Fragments) :
    empty.behind buffer = { fragments := buffer } := by
  simp [behind, empty]

@[simp] theorem behind_failed (buffer : Fragments) (failure : Failure) :
    (failed failure).behind buffer = { fragments := buffer, failure := some failure } := by
  simp [behind, failed]

/-- A result that could not be written leaves no fragment. -/
theorem fragments_ofResult_of_failure {result : Except Failure Text}
    (hfailure : (ofResult result).failure ≠ none) : (ofResult result).fragments = [] := by
  cases result with
  | ok fragment => exact absurd rfl hfailure
  | error failure => rfl

/-- What could not be gathered leaves no fragment. -/
theorem fragments_gather_of_failure {write : Fragments → Text} {transcript : Transcript}
    (hfailure : (transcript.gather write).failure ≠ none) :
    (transcript.gather write).fragments = [] := by
  rw [gather] at hfailure ⊢
  split at hfailure
  · exact absurd rfl hfailure
  · rfl

end Transcript

theorem Fragments.receive_eq (buffer : Fragments) (result : Except Failure Text) :
    buffer.receive result = (Transcript.ofResult result).behind buffer := by
  cases result with
  | ok fragment => rfl
  | error failure => exact (Transcript.behind_failed buffer failure).symm

namespace Style

variable (style : Style)

theorem writePlain_eq (buffer : Fragments) (text : Text) :
    writePlain buffer text = (plainText text).behind buffer := by
  unfold writePlain plainText
  dsimp only
  split
  · rw [Transcript.behind_empty]
  · rfl

theorem writeAnchor_eq (buffer : Fragments) (address : Option Text) (text : Text) :
    style.writeAnchor buffer address text = (style.anchor address text).behind buffer := by
  cases address with
  | none => rw [writeAnchor, anchor, Transcript.behind_empty]
  | some url =>
    unfold writeAnchor anchor
    dsimp only
    split <;> rfl

theorem writeImage_eq (buffer : Fragments) (source : Option Text) :
    style.writeImage buffer source = (style.imageOf source).behind buffer := by
  cases source with
  | none => rw [writeImage, imageOf, Transcript.behind_empty, Option.elim_none]
  | some source => rfl

/-- Closing the buffer of a node makes the fragment that gathering makes. -/
theorem closed_seed (gathering : Gathering) (fragments : Fragments) :
    style.closed gathering (gathering.seed ++ fragments) =
      style.gathered gathering fragments := by
  cases gathering <;> rfl

/-- Nodes one after the other, when each of them only adds to the buffer. -/
theorem writeAll_eq_of_forall {nodes : List Node}
    (hnodes : ∀ node ∈ nodes, ∀ buffer,
      style.write buffer node = (style.transcribe node).behind buffer) (buffer : Fragments) :
    style.writeAll buffer nodes = (style.transcribeAll nodes).behind buffer := by
  induction nodes generalizing buffer with
  | nil => rw [writeAll, transcribeAll, Transcript.behind_empty]
  | cons node rest ih =>
    have hrest := ih fun other hother => hnodes other (List.mem_cons_of_mem node hother)
    rw [writeAll, transcribeAll, hnodes node (List.mem_cons_self ..)]
    cases hfailure : (style.transcribe node).failure with
    | none => simp [Transcript.behind, Transcript.andThen, hfailure, hrest]
    | some failure => simp [Transcript.behind, Transcript.andThen, hfailure]

/-- A pass over a node adds the fragments of its transcript at the end of the
buffer, and fails as the transcript does. -/
theorem write_eq (buffer : Fragments) (node : Node) :
    style.write buffer node = (style.transcribe node).behind buffer := by
  induction node using Node.inductionOnChildren generalizing buffer with
  | step node ih =>
    have hchildren := style.writeAll_eq_of_forall fun child hchild buffer =>
      ih child hchild buffer
    rw [transcribe_eq_writtenBy]
    cases node with
    | text content => exact writePlain_eq buffer content
    | comment =>
      rw [write]
      exact buffer.receive_eq (.error (.atElement "comment".toList))
    | element kind tag attributes classes children =>
      rw [write]
      dsimp only
      cases hrule : (Node.element kind tag attributes classes children).rule with
      | leftOut => exact (Transcript.behind_empty buffer).symm
      | plain => exact writePlain_eq buffer _
      | inline | heading | table => exact buffer.receive_eq _
      | footer | newThought => rfl
      | anchor => exact style.writeAnchor_eq buffer _ _
      | image => exact style.writeImage_eq buffer _
      | stray | unknownWrapper => exact buffer.receive_eq (.error _)
      | passOn => exact hchildren buffer
      | gather gathering =>
        -- The inner buffer starts with the seed, whatever the outer one holds.
        have hinner := hchildren gathering.seed
        rw [Node.children] at hinner
        dsimp only
        rw [hinner, Transcript.behind, writtenBy, Transcript.gather, Node.children]
        cases (style.transcribeAll children).failure with
        | none =>
          dsimp only
          rw [closed_seed]
          rfl
        | some failure => exact (Transcript.behind_failed buffer failure).symm

/-- So does a pass over several nodes. -/
theorem writeAll_eq (buffer : Fragments) (nodes : List Node) :
    style.writeAll buffer nodes = (style.transcribeAll nodes).behind buffer :=
  style.writeAll_eq_of_forall (fun node _ buffer => style.write_eq buffer node) buffer

end Style

/-! ## Containers -/

namespace Node

/-- Is a node a list, or a division around a table?  Such a node has no buffer
of its own. -/
def isContainer (node : Node) : Bool :=
  match node.kind with
  | .bulletList | .numberedList | .definitionList => true
  | .division => node.hasClass "table-wrapper"
  | _ => false

theorem rule_eq_passOn_iff {node : Node} : node.rule = .passOn ↔ node.isContainer = true := by
  unfold rule isContainer
  cases node.kind
  case sectioning | division | span =>
    dsimp only
    repeat' split
    all_goals simp_all
  all_goals simp

mutual

/-- What is left of a node when its containers are opened: a container gives
what its children give, and any other node gives itself. -/
def leaves : Node → List Node
  | text content => [text content]
  | comment => [comment]
  | element kind tag attributes classes children =>
    let node := element kind tag attributes classes children
    if node.isContainer then leavesOf children else [node]

/-- What is left of nodes when their containers are opened. -/
def leavesOf : List Node → List Node
  | [] => []
  | node :: rest => node.leaves ++ leavesOf rest

end

theorem leavesOf_eq_flatMap (nodes : List Node) : leavesOf nodes = nodes.flatMap leaves := by
  induction nodes with
  | nil => rfl
  | cons node rest ih => rw [leavesOf, ih, List.flatMap_cons]

theorem leaves_eq (node : Node) :
    node.leaves = if node.isContainer then node.children.flatMap leaves else [node] := by
  cases node with
  | text content => rfl
  | comment => rfl
  | element kind tag attributes classes nodes => rw [leaves, leavesOf_eq_flatMap, children]

end Node

namespace Style

variable (style : Style)

/-- A container gives what its children give one after the other. -/
theorem transcribe_of_isContainer {node : Node} (hcontainer : node.isContainer = true) :
    style.transcribe node = style.transcribeAll node.children := by
  rw [transcribe_eq_writtenBy, Node.rule_eq_passOn_iff.mpr hcontainer, writtenBy]

/-- Replacing each of some nodes by nodes with the same transcript changes
nothing. -/
theorem transcribeAll_flatMap {nodes : List Node} {replacement : Node → List Node}
    (hnodes : ∀ node ∈ nodes, style.transcribeAll (replacement node) = style.transcribe node) :
    style.transcribeAll (nodes.flatMap replacement) = style.transcribeAll nodes := by
  induction nodes with
  | nil => rfl
  | cons node rest ih =>
    rw [List.flatMap_cons, transcribeAll_append, transcribeAll,
      hnodes node (List.mem_cons_self ..),
      ih fun other hother => hnodes other (List.mem_cons_of_mem node hother)]

/-- A node gives what is given by its leaves one after the other. -/
theorem transcribeAll_leaves (node : Node) :
    style.transcribeAll node.leaves = style.transcribe node := by
  induction node using Node.inductionOnChildren with
  | step node ih =>
    rw [Node.leaves_eq]
    by_cases hcontainer : node.isContainer = true
    · rw [if_pos hcontainer, style.transcribe_of_isContainer hcontainer]
      exact style.transcribeAll_flatMap ih
    · rw [if_neg hcontainer, transcribeAll, transcribeAll, Transcript.andThen_empty]

/-! ## What a failure leaves behind -/

/-- A node that fails and is no container leaves no fragment. -/
theorem fragments_eq_nil_of_failure {node : Node} (hcontainer : node.isContainer = false)
    (hfailure : (style.transcribe node).failure ≠ none) :
    (style.transcribe node).fragments = [] := by
  rw [transcribe_eq_writtenBy] at hfailure ⊢
  cases hrule : node.rule with
  | passOn => simp [Node.rule_eq_passOn_iff.mp hrule] at hcontainer
  | stray | unknownWrapper => rfl
  | leftOut | footer | newThought =>
    rw [hrule] at hfailure
    exact absurd rfl hfailure
  | plain =>
    rw [hrule] at hfailure
    exact absurd (failure_plainText node.words) hfailure
  | anchor =>
    rw [hrule] at hfailure
    exact absurd (style.failure_anchor _ node.words) hfailure
  | image =>
    rw [hrule] at hfailure
    exact absurd (style.failure_imageOf _) hfailure
  | inline | heading | table =>
    rw [hrule] at hfailure
    exact Transcript.fragments_ofResult_of_failure hfailure
  | gather gathering =>
    rw [hrule] at hfailure
    exact Transcript.fragments_gather_of_failure hfailure

/-- Does a node fail? -/
def fails (node : Node) : Bool :=
  (style.transcribe node).failure.isSome

/-- The nodes up to the first that fails, which is included. -/
def upToFailure (nodes : List Node) : List Node :=
  nodes.take (nodes.findIdx style.fails + 1)

/-- Nodes leave the fragments of all of them up to the first that fails. -/
theorem fragments_transcribeAll_eq (nodes : List Node) :
    (style.transcribeAll nodes).fragments =
      (style.upToFailure nodes).flatMap fun node => (style.transcribe node).fragments := by
  induction nodes with
  | nil => rfl
  | cons node rest ih =>
    rw [transcribeAll, upToFailure, List.findIdx_cons, List.take_succ_cons, List.flatMap_cons,
      Transcript.andThen]
    cases hfailure : (style.transcribe node).failure with
    | none =>
      have hfails : style.fails node = false := by rw [fails, hfailure, Option.isSome_none]
      rw [hfails]
      exact congrArg _ ih
    | some failure =>
      have hfails : style.fails node = true := by rw [fails, hfailure, Option.isSome_some]
      rw [hfails]
      simp

end Style

/-- A pass over a buffer is append-only.  Whatever the buffer holds, a node adds
the same fragments at its end and has the same failure.  A node that fails and
is no container adds nothing; a container adds what its children add, up to and
including the first of them that fails.  So it makes no difference how nodes are
nested in containers. -/
theorem write_append_only (style : Style) :
    (∀ (node : Node) (buffer : Fragments),
      (style.write buffer node).fragments = buffer ++ (style.transcribe node).fragments ∧
      (style.write buffer node).failure = (style.transcribe node).failure) ∧
    (∀ node : Node, node.isContainer = false → (style.transcribe node).failure ≠ none →
      (style.transcribe node).fragments = []) ∧
    (∀ node : Node, node.isContainer = true → (style.transcribe node).fragments =
      (style.upToFailure node.children).flatMap fun child => (style.transcribe child).fragments) ∧
    ∀ (nodes : List Node) (buffer : Fragments),
      style.writeAll buffer nodes = style.writeAll buffer (nodes.flatMap Node.leaves) := by
  refine ⟨?_, ?_, ?_, ?_⟩
  · intro node buffer
    rw [style.write_eq]
    exact ⟨rfl, rfl⟩
  · intro node hcontainer hfailure
    exact style.fragments_eq_nil_of_failure hcontainer hfailure
  · intro node hcontainer
    rw [style.transcribe_of_isContainer hcontainer, style.fragments_transcribeAll_eq]
  · intro nodes buffer
    rw [style.writeAll_eq, style.writeAll_eq,
      style.transcribeAll_flatMap fun node _ => style.transcribeAll_leaves node]

/-- A list with an item, a paragraph that fails half-way, and one more item. -/
theorem write_append_only_list :
    let style : Style := { dialect := .reddit }
    let first : Node := .element .listItem "li".toList [] [] [.text "one".toList]
    let mark : Node := .element (.other "mark".toList) "mark".toList [] [] []
    let second : Node := .element .paragraph "p".toList [] [] [.text "two".toList, mark]
    let list : Node := .element .bulletList "ul".toList [] [] [first, second, first]
    (style.write ["so".toList] list).fragments = ["so".toList, "* one\n".toList] ∧
      (style.transcribe second).fragments = [] ∧
      (style.transcribe list).fragments = ["* one\n".toList] := by
  intro style first mark second list
  obtain ⟨happend, hnothing, hcontainer, -⟩ := write_append_only style
  have hfragments : (style.transcribe list).fragments = ["* one\n".toList] := by
    rw [hcontainer list (by decide)]
    decide +kernel
  refine ⟨?_, hnothing second (by decide) (by decide +kernel), hfragments⟩
  rw [(happend list ["so".toList]).1, hfragments]
  rfl

end ForumPost
