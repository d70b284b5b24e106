import ForumPost.Command.Arguments

/-!
# Help among the arguments

Reading arguments is broken off at the first one that asks for help.  What stands in
front of it has been read by then, without a fault; what stands behind it does not
matter (`Command.Form.read_help`).  So help is to be had behind a command whatever else
is given with it, a path to write to included (`Command.ofArguments?_help`).
-/

namespace ForumPost

namespace Command

variable {form : Form} {argument asking : Text} {before rest : List Text} {given read : Given}
  {detailed : Bool}

theorem Form.classify_of_helpAsked? (hasking : helpAsked? asking = some detailed) :
    form.classify asking = .help detailed := by
  rw [Form.classify, hasking]

/-- No option is a divider. -/
theorem Switch.argument_ne_divider (switch : Switch) (attached : Option Text) :
    switch.argument attached ≠ .divider := by
  unfold Switch.argument
  split <;> simp

/-- Only two dashes alone are a divider. -/
theorem Form.classify_ne_divider (hargument : argument ≠ "--".toList) :
    form.classify argument ≠ .divider := by
  unfold Form.classify
  split
  · simp
  · unfold Form.classifyOther
    split
    · exact absurd rfl hargument
    · dsimp only
      split
      · exact Switch.argument_ne_divider _ _
      · simp
    · split
      · exact Switch.argument_ne_divider _ _
      · simp
    · simp

/-- Two steps of reading, of which the second may be carried further. -/
theorem Form.bind_read_append {first : Except Stop Given} {others : List Text}
    (hread : first >>= (form.read · others) = .ok read)
    (hothers : ∀ given, form.read given others = .ok read →
      form.read given (others ++ rest) = form.read read rest) :
    first >>= (form.read · (others ++ rest)) = form.read read rest := by
  cases first with
  | error stop => cases hread
  | ok given => exact hothers given hread

/-- Arguments that were read to their end, and without a divider, can be read first. -/
theorem Form.read_append (hbefore : form.read given before = .ok read)
    (hdivider : "--".toList ∉ before) : form.read given (before ++ rest) = form.read read rest := by
  fun_induction Form.read form given before with
  | case1 given =>
    rw [Except.ok.inj hbefore, List.nil_append]
  | case2 given argument others hclass ih =>
    rw [List.cons_append, Form.read, hclass]
    exact Form.bind_read_append hbefore fun given hothers =>
      ih given hothers (List.not_mem_of_not_mem_cons hdivider)
  | case3 given argument others hclass =>
    exact absurd hclass (Form.classify_ne_divider (List.ne_of_not_mem_cons hdivider).symm)
  | case4 given argument others detailed hclass => cases hbefore
  | case5 given argument others switch hclass ih =>
    rw [List.cons_append, Form.read, hclass]
    exact Form.bind_read_append hbefore fun given hothers =>
      ih given hothers (List.not_mem_of_not_mem_cons hdivider)
  | case6 given argument others switch value hclass ih =>
    rw [List.cons_append, Form.read, hclass]
    exact Form.bind_read_append hbefore fun given hothers =>
      ih given hothers (List.not_mem_of_not_mem_cons hdivider)
  | case7 given argument switch hclass value others hvalue ih =>
    have hbehind := List.not_mem_of_not_mem_cons (List.not_mem_of_not_mem_cons hdivider)
    rw [List.cons_append, List.cons_append, Form.read, hclass]
    dsimp only
    rw [hvalue]
    exact Form.bind_read_append hbefore fun given hothers => ih given hothers hbehind
  -- What is left breaks a rule, at an option without a value or at one that nobody knows.
  | case8 given argument switch hclass value others hvalue => cases hbefore
  | case9 given argument switch hclass => cases hbefore
  | case10 given argument others hclass => cases hbefore

/-- Reading comes to an end where help is asked for. -/
theorem Form.read_help (hbefore : form.read given before = .ok read)
    (hdivider : "--".toList ∉ before) (hasking : helpAsked? asking = some detailed) :
    form.read given (before ++ asking :: rest) = .error (.help detailed) := by
  rw [Form.read_append hbefore hdivider, Form.read, Form.classify_of_helpAsked? hasking]

/-- Help may be asked for in front of a command, and behind each of the two once what
stands in between is read.  Nothing behind the question is looked at. -/
theorem ofArguments?_help (environment : Environment)
    (hasking : helpAsked? asking = some detailed) (rest : List Text) :
    ofArguments? environment (asking :: rest) = some (.showHelp .program detailed, false) ∧
    (∀ before read, postForm.read {} before = .ok read → "--".toList ∉ before →
      ofArguments? environment ("export".toList :: (before ++ asking :: rest)) =
        some (.showHelp .posts detailed, false)) ∧
    ∀ before read, listForm.read {} before = .ok read → "--".toList ∉ before →
      ofArguments? environment ("dialects".toList :: (before ++ asking :: rest)) =
        some (.showHelp .dialects detailed, false) := by
  refine ⟨?_, fun before read hbefore hdivider => ?_, fun before read hbefore hdivider => ?_⟩
  · rw [ofArguments?, ofArgumentsFrom, hasking]
  · change orHelp .posts false (postForm.read {} (before ++ asking :: rest)) _ = _
    rw [Form.read_help hbefore hdivider hasking, orHelp]
  · change orHelp .dialects false (listForm.read {} (before ++ asking :: rest)) _ = _
    rw [Form.read_help hbefore hdivider hasking, orHelp]

/-- An option that nobody knows goes unnoticed behind a question for help. -/
example : ofArguments? [] (["export", "-ox", "-h", "--nonsense"].map String.toList) =
    some (.showHelp .posts false, false) := by decide

end Command

end ForumPost
