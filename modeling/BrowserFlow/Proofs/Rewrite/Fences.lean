import BrowserFlow.Proofs.Text.Affix
import BrowserFlow.Proofs.Text.Trim
import BrowserFlow.Rewrite.Service

/-!
# Fences around a script

Taking the fences away leaves the trimmed text between them, whatever fences stand in that text.
Blank content of a reply counts as missing content. The fences are taken away only after that, so a
reply whose content is a fence with nothing in it is a success with an empty script, and it is the
only one.
-/

namespace BrowserFlow.Rewrite

open Text (IsBlank IsTrimmed)

/-! ### What the fences leave -/

theorem newline_not_mem_fence : '\n' ∉ fence := by decide

theorem afterFirstLine_eq_nil {text : List Char} (h : '\n' ∉ text) : afterFirstLine text = [] := by
  rw [afterFirstLine, Text.cut?_eq_none_iff.mpr h]

theorem afterFirstLine_append {line : List Char} (h : '\n' ∉ line) (rest : List Char) :
    afterFirstLine (line ++ '\n' :: rest) = rest := by
  rw [afterFirstLine, Text.cut?_append h]

theorem newline_not_mem_fence_append {line : List Char} (h : '\n' ∉ line) :
    '\n' ∉ fence ++ line := by
  rw [List.mem_append, not_or]
  exact ⟨newline_not_mem_fence, h⟩

section Shape

variable {content line body : List Char}

theorem stripFencesChars_of_unfenced (h : ¬fence <+: Text.trim content) :
    stripFencesChars content = Text.trim content := by
  rw [stripFencesChars]
  exact if_neg (mt List.isPrefixOf_iff_prefix.mp h)

theorem stripFencesChars_of_fenced {rest : List Char} (h : Text.trim content = fence ++ rest) :
    stripFencesChars content =
      Text.trim ((Text.before? fence (Text.trimRight (afterFirstLine (fence ++ rest)))).getD
        (afterFirstLine (fence ++ rest))) := by
  rw [stripFencesChars, h]
  exact if_pos (List.isPrefixOf_iff_prefix.mpr (List.prefix_append _ _))

/-- A fence without a second line encloses nothing. -/
theorem stripFencesChars_of_one_line (h : Text.trim content = fence ++ line) (hline : '\n' ∉ line) :
    stripFencesChars content = [] := by
  rw [stripFencesChars_of_fenced h, afterFirstLine_eq_nil (newline_not_mem_fence_append hline)]
  rfl

theorem stripFencesChars_of_closed
    (h : Text.trim content = fence ++ (line ++ '\n' :: (body ++ fence))) (hline : '\n' ∉ line) :
    stripFencesChars content = Text.trim body := by
  have hlast : Text.trimRight (body ++ fence) = body ++ fence := by
    refine Text.trimRight_of_last fun c hc => ?_
    rw [List.getLast?_append_of_ne_nil _ (by decide)] at hc
    obtain rfl : '\x60' = c := Option.some.inj hc
    decide
  rw [stripFencesChars_of_fenced h, ← List.append_assoc,
    afterFirstLine_append (newline_not_mem_fence_append hline), hlast, Text.before?_append]
  rfl

theorem stripFencesChars_of_open (h : Text.trim content = fence ++ (line ++ '\n' :: body))
    (hline : '\n' ∉ line) (hbody : ¬fence <:+ body) :
    stripFencesChars content = Text.trim body := by
  have hlast : Text.trimRight body = body := by
    refine Text.trimRight_of_last fun c hc => (Text.isTrimmed_trim content).last c ?_
    rw [h, ← List.append_assoc, List.getLast?_append, List.getLast?_cons, Option.mem_def.mp hc]
    rfl
  have hnone : Text.before? fence body = none := by
    rw [Option.eq_none_iff_forall_ne_some]
    intro head hhead
    exact hbody ⟨head, (Text.before?_eq_some_iff.mp hhead).symm⟩
  rw [stripFencesChars_of_fenced h, ← List.append_assoc,
    afterFirstLine_append (newline_not_mem_fence_append hline), hlast, hnone]
  rfl

/-- What trimming leaves of a content: no fence in front, one line, or lines with or without a
closing fence. -/
theorem fence_shapes (content : List Char) :
    ¬fence <+: Text.trim content ∨
      (∃ line, '\n' ∉ line ∧ Text.trim content = fence ++ line) ∨
      (∃ line body, '\n' ∉ line ∧ Text.trim content = fence ++ (line ++ '\n' :: (body ++ fence))) ∨
      ∃ line body, '\n' ∉ line ∧ ¬fence <:+ body ∧
        Text.trim content = fence ++ (line ++ '\n' :: body) := by
  by_cases hfenced : fence <+: Text.trim content
  · obtain ⟨rest, hrest⟩ := hfenced
    by_cases hlines : '\n' ∈ rest
    · obtain ⟨line, body, hsplit, hline⟩ := List.eq_append_cons_of_mem hlines
      rw [hsplit] at hrest
      by_cases hclosed : fence <:+ body
      · obtain ⟨inner, rfl⟩ := hclosed
        exact .inr (.inr (.inl ⟨line, inner, hline, hrest.symm⟩))
      · exact .inr (.inr (.inr ⟨line, body, hline, hclosed, hrest.symm⟩))
    · exact .inr (.inl ⟨rest, hlines, hrest.symm⟩)
  · exact .inl hfenced

end Shape

theorem isTrimmed_stripFencesChars (content : List Char) :
    IsTrimmed (stripFencesChars content) := by
  rw [stripFencesChars]
  split <;> exact Text.isTrimmed_trim _

/-! ### Fences around a text -/

theorem isTrimmed_between_fences (inner : List Char) : IsTrimmed (fence ++ (inner ++ fence)) where
  head c hc := by
    obtain rfl : '\x60' = c := Option.some.inj hc
    decide
  last c hc := by
    rw [← List.append_assoc, List.getLast?_append_of_ne_nil _ (by decide)] at hc
    obtain rfl : '\x60' = c := Option.some.inj hc
    decide

/-- The last line feed belongs to the closing fence, but it would be trimmed in any case. -/
theorem stripFencesChars_fenced {lead line trail : List Char} (hlead : IsBlank lead)
    (hline : '\n' ∉ line) (htrail : IsBlank trail) (body : List Char) :
    stripFencesChars (lead ++ (fence ++ (line ++ '\n' :: (body ++ ['\n'] ++ fence))) ++ trail) =
      Text.trim body := by
  have hcore : IsTrimmed (fence ++ (line ++ '\n' :: (body ++ ['\n'] ++ fence))) := by
    simpa using isTrimmed_between_fences (line ++ '\n' :: (body ++ ['\n']))
  rw [stripFencesChars_of_closed (Text.trim_surrounded hlead hcore htrail) hline,
    Text.trim_append_blank (List.forall_mem_singleton.mpr rfl)]

/-- A text between two fences, each on a line of its own; the opening one may be labelled. -/
def fenced (label body : String) : String :=
  "\x60\x60\x60" ++ label ++ "\n" ++ body ++ "\n\x60\x60\x60"

theorem toList_fenced (label body : String) :
    (fenced label body).toList =
      fence ++ (label.toList ++ '\n' :: (body.toList ++ ['\n'] ++ fence)) := by
  simp [fenced, fence]

/-- What stands between two fences comes back trimmed, also when it has fences of its own; a text
that does not start with a fence is only trimmed; and no blank is left at either end. -/
theorem stripFences_recovers_fenced :
    (∀ lead label body trail : String, IsBlank lead.toList → '\n' ∉ label.toList →
        IsBlank trail.toList →
        (stripFences (lead ++ fenced label body ++ trail)).toList = Text.trim body.toList) ∧
      (∀ content : String, ¬fence <+: Text.trim content.toList →
        (stripFences content).toList = Text.trim content.toList) ∧
      ∀ content : String, IsTrimmed (stripFences content).toList := by
  refine ⟨fun lead label body trail hlead hlabel htrail => ?_, fun content hplain => ?_,
    fun content => ?_⟩
  · rw [stripFences, String.toList_ofList, String.toList_append, String.toList_append,
      toList_fenced, stripFencesChars_fenced hlead hlabel htrail]
  · rw [stripFences, String.toList_ofList, stripFencesChars_of_unfenced hplain]
  · rw [stripFences, String.toList_ofList]
    exact isTrimmed_stripFencesChars content.toList

/-- A script that ends with a fence of its own keeps it. -/
theorem stripFences_of_nested_fences :
    (stripFences ("\n" ++ fenced "ts" " \x60\x60\x60\nx\n\x60\x60\x60" ++ " ")).toList =
        "\x60\x60\x60\nx\n\x60\x60\x60".toList ∧
      (stripFences " x ").toList = "x".toList := by
  obtain ⟨hfenced, hplain, -⟩ := stripFences_recovers_fenced
  have hlead : IsBlank "\n".toList := List.forall_mem_singleton.mpr rfl
  have htrail : IsBlank " ".toList := List.forall_mem_singleton.mpr rfl
  rw [hfenced "\n" "ts" _ " " hlead (by decide) htrail, hplain " x " (by decide)]
  decide

/-! ### Fences around nothing -/

/-- A fence with nothing in it and blanks around it. The line of the opening fence does not count,
and the closing fence may be missing when there is no other line. -/
def IsEmptyFence (content : List Char) : Prop :=
  ∃ lead line rest trail, IsBlank lead ∧ '\n' ∉ line ∧
    (rest = [] ∨ ∃ gap, IsBlank gap ∧ rest = '\n' :: (gap ++ fence)) ∧ IsBlank trail ∧
    content = lead ++ (fence ++ (line ++ rest)) ++ trail

theorem isEmptyFence_of_trim {content line rest : List Char} (hline : '\n' ∉ line)
    (hrest : rest = [] ∨ ∃ gap, IsBlank gap ∧ rest = '\n' :: (gap ++ fence))
    (h : Text.trim content = fence ++ (line ++ rest)) : IsEmptyFence content := by
  obtain ⟨lead, trail, hlead, htrail, hsplit⟩ := Text.exists_trim content
  rw [h] at hsplit
  exact ⟨lead, line, rest, trail, hlead, hline, hrest, htrail, hsplit⟩

theorem isTrimmed_fence_append {text : List Char}
    (h : ∀ c ∈ text.getLast?, Text.isBlank c = false) : IsTrimmed (fence ++ text) where
  head c hc := by
    obtain rfl : '\x60' = c := Option.some.inj hc
    decide
  last c hc := by
    cases hlast : text.getLast? with
    | none =>
        rw [List.getLast?_append, hlast] at hc
        obtain rfl : '\x60' = c := Option.some.inj hc
        decide
    | some d =>
        rw [List.getLast?_append, hlast] at hc
        obtain rfl : d = c := Option.some.inj hc
        exact h d hlast

theorem stripFencesChars_eq_nil_of_isEmptyFence {content : List Char} (h : IsEmptyFence content) :
    stripFencesChars content = [] := by
  obtain ⟨lead, line, rest, trail, hlead, hline, hrest, htrail, rfl⟩ := h
  rcases hrest with rfl | ⟨gap, hgap, rfl⟩
  · -- blanks at the end of the only line are trimmed with the others
    obtain ⟨blanks, hblanks, hkept⟩ := Text.exists_trail line
    have htrim : Text.trim (lead ++ (fence ++ (line ++ [])) ++ trail) =
        fence ++ Text.trimRight line := by
      have hcore := isTrimmed_fence_append (Text.last_trimRight line)
      rw [← Text.trim_surrounded hlead hcore (hblanks.append htrail)]
      conv_lhs => rw [hkept]
      simp only [List.append_assoc, List.append_nil]
    refine stripFencesChars_of_one_line htrim fun hmem => hline ?_
    rw [hkept]
    exact List.mem_append_left _ hmem
  · have hcore : IsTrimmed (fence ++ (line ++ '\n' :: (gap ++ fence))) := by
      refine isTrimmed_fence_append fun c hc => ?_
      have hlast : (line ++ '\n' :: (gap ++ fence)).getLast? = some '\x60' := by
        simp [List.getLast?_append, List.getLast?_cons, fence]
      obtain rfl : '\x60' = c := Option.some.inj (hlast.symm.trans hc)
      decide
    rw [stripFencesChars_of_closed (Text.trim_surrounded hlead hcore htrail) hline]
    exact Text.trim_eq_nil_iff.mpr hgap

theorem stripFencesChars_eq_nil_iff {content : List Char} :
    stripFencesChars content = [] ↔ IsBlank content ∨ IsEmptyFence content := by
  constructor
  · intro h
    rcases fence_shapes content with hplain | ⟨line, hline, hshape⟩ | ⟨line, body, hline, hshape⟩ |
      ⟨line, body, hline, hbody, hshape⟩
    · rw [stripFencesChars_of_unfenced hplain] at h
      exact .inl (Text.trim_eq_nil_iff.mp h)
    · refine .inr (isEmptyFence_of_trim hline (.inl rfl) ?_)
      rw [hshape, List.append_nil]
    · rw [stripFencesChars_of_closed hshape hline] at h
      exact .inr (isEmptyFence_of_trim hline (.inr ⟨body, Text.trim_eq_nil_iff.mp h, rfl⟩) hshape)
    · -- a blank last line would have been trimmed
      rw [stripFencesChars_of_open hshape hline hbody] at h
      have hblank : IsBlank ('\n' :: body) := by
        intro c hc
        rcases List.mem_cons.mp hc with rfl | hc
        · decide
        · exact Text.trim_eq_nil_iff.mp h c hc
      have hlast :
          ('\n' :: body).getLast (List.cons_ne_nil _ _) ∈ (Text.trim content).getLast? := by
        rw [hshape, ← List.append_assoc, List.getLast?_append_of_ne_nil _ (List.cons_ne_nil _ _)]
        exact List.getLast?_eq_getLast_of_ne_nil _
      have hkept := (Text.isTrimmed_trim content).last _ hlast
      rw [hblank _ (List.getLast_mem _)] at hkept
      exact nomatch hkept
  · rintro (hblank | hfence)
    · have htrim : Text.trim content = [] := Text.trim_eq_nil_iff.mpr hblank
      rw [stripFencesChars_of_unfenced (by rw [htrim]; decide), htrim]
    · exact stripFencesChars_eq_nil_of_isEmptyFence hfence

/-! ### Contents of replies -/

theorem isBlank_eq_true_iff {content : String} :
    isBlank content = true ↔ IsBlank content.toList := by
  rw [isBlank, List.isEmpty_iff, Text.trim_eq_nil_iff]

theorem isBlank_eq_false_iff {content : String} :
    isBlank content = false ↔ ¬IsBlank content.toList := by
  rw [← isBlank_eq_true_iff, Bool.not_eq_true]

/-- What the fences leave is trimmed, so it is blank only when it is empty. -/
theorem isBlank_stripFences_iff {content : String} :
    IsBlank (stripFences content).toList ↔
      IsBlank content.toList ∨ IsEmptyFence content.toList := by
  rw [← stripFencesChars_eq_nil_iff, stripFences, String.toList_ofList, ← Text.trim_eq_nil_iff,
    Text.trim_of_isTrimmed (isTrimmed_stripFencesChars content.toList)]

/-- A reply that is a success and is read as one of the provider's, with the content in it. -/
def Provider.Says (provider : Provider) (reply : Reply) (content : Option String) : Prop :=
  isSuccess reply.status = true ∧
    match provider with
    | .none => False
    | .openai => ∃ value, chatReplyReader.run reply.body = .ok value ∧ chatContent? value = content
    | .ollama =>
      ∃ value, generateReplyReader.run reply.body = .ok value ∧ generateContent? value = content

/-- The service is asked and replies with the content. -/
def Answered (transport : Transport) (config : Config) (key : Option String) (flow : Flow)
    (script : String) (content : Option String) : Prop :=
  ∃ request reply, request? config key (prompt flow script) = some request ∧
    transport request = some reply ∧ config.provider.Says reply content

theorem judgeContent_eq_script_iff {content : Option String} {text : String} :
    judgeContent content = .ok (some text) ↔
      ∃ raw, content = some raw ∧ ¬IsBlank raw.toList ∧ stripFences raw = text := by
  simp only [← isBlank_eq_false_iff]
  rcases content with _ | raw
  · simp [judgeContent]
  · cases hblank : isBlank raw <;> simp [judgeContent, Option.filter, hblank]

theorem judgeContent_eq_missing_iff {content : Option String} :
    judgeContent content = .error .missingContent ↔ ∀ raw ∈ content, IsBlank raw.toList := by
  simp only [← isBlank_eq_true_iff]
  rcases content with _ | raw
  · simp [judgeContent]
  · cases hblank : isBlank raw <;> simp [judgeContent, Option.filter, hblank]

section Outcome

variable {transport : Transport} {config : Config} {key : Option String} {flow : Flow}
  {script : String} {outcome : Outcome}

/-- A script and missing content are the outcomes that depend on the content of a reply. -/
def FromContent (outcome : Outcome) : Prop :=
  outcome = .error .missingContent ∨ ∃ text, outcome = .ok (some text)

theorem judgeReply_eq_iff {reader : Json.Reader} {content? : Json.Value → Option String}
    {reply : Option Reply} (h : FromContent outcome) :
    judgeReply reader content? reply = outcome ↔
      ∃ answer content, reply = some answer ∧
        (isSuccess answer.status = true ∧
          ∃ value, reader.run answer.body = .ok value ∧ content? value = content) ∧
        judgeContent content = outcome := by
  have htransport : outcome ≠ .error .transport := by
    rcases h with rfl | ⟨text, rfl⟩ <;> exact nofun
  have hstatus : ∀ status body, outcome ≠ .error (.status status body) := by
    rcases h with rfl | ⟨text, rfl⟩ <;> exact nofun
  rcases reply with _ | answer
  · simp [judgeReply, Ne.symm htransport]
  · cases hsuccess : isSuccess answer.status with
    | false => simp [judgeReply, hsuccess, Ne.symm (hstatus _ _)]
    | true =>
        cases hread : reader.run answer.body with
        | error e => simp [judgeReply, hsuccess, hread, Ne.symm htransport]
        | ok value => simp [judgeReply, hsuccess, hread]

theorem judge_eq_iff {provider : Provider} {reply : Option Reply} (h : FromContent outcome) :
    judge provider reply = outcome ↔
      ∃ answer content, reply = some answer ∧ provider.Says answer content ∧
        judgeContent content = outcome := by
  cases provider with
  | none =>
      have hnone : outcome ≠ .ok none := by
        rcases h with rfl | ⟨text, rfl⟩ <;> exact nofun
      simp [judge, Provider.Says, Ne.symm hnone]
  | openai => exact judgeReply_eq_iff h
  | ollama => exact judgeReply_eq_iff h

theorem rewriter_eq_iff (h : FromContent outcome) :
    rewriter transport config key flow script = outcome ↔
      ∃ content, Answered transport config key flow script content ∧
        judgeContent content = outcome := by
  have hnone : outcome ≠ .ok none := by
    rcases h with rfl | ⟨text, rfl⟩ <;> exact nofun
  rw [rewriter]
  cases hrequest : request? config key (prompt flow script) with
  | none => simp [Answered, hrequest, Ne.symm hnone]
  | some request =>
      simp only [judge_eq_iff h]
      constructor
      · rintro ⟨reply, content, hreply, hsays, houtcome⟩
        exact ⟨content, ⟨request, reply, hrequest, hreply, hsays⟩, houtcome⟩
      · rintro ⟨content, ⟨_, reply, hasked, hreply, hsays⟩, houtcome⟩
        obtain rfl := Option.some.inj (hrequest.symm.trans hasked)
        exact ⟨reply, content, hreply, hsays, houtcome⟩

theorem rewriter_eq_script_iff {text : String} :
    rewriter transport config key flow script = .ok (some text) ↔
      ∃ content, Answered transport config key flow script (some content) ∧
        ¬IsBlank content.toList ∧ stripFences content = text := by
  rw [rewriter_eq_iff (.inr ⟨text, rfl⟩)]
  simp only [judgeContent_eq_script_iff]
  constructor
  · rintro ⟨_, hanswered, content, rfl, hblank, hstripped⟩
    exact ⟨content, hanswered, hblank, hstripped⟩
  · rintro ⟨content, hanswered, hblank, hstripped⟩
    exact ⟨_, hanswered, content, rfl, hblank, hstripped⟩

end Outcome

/-- The fence itself is no blank, so an empty fence passes for content. -/
theorem not_isBlank_of_isEmptyFence {content : String} (h : IsEmptyFence content.toList) :
    ¬IsBlank content.toList := by
  obtain ⟨lead, line, rest, trail, -, -, -, -, hcontent⟩ := h
  rw [hcontent]
  intro hblank
  have hmem : '\x60' ∈ lead ++ (fence ++ (line ++ rest)) ++ trail := by simp [fence]
  exact nomatch hblank _ hmem

/-- The script of a reply is its content without the fences, and content that is missing or blank is
an error. A script is blank exactly when the content is an empty fence. -/
theorem rewriter_blank_iff_emptyFence (transport : Transport) (config : Config)
    (key : Option String) (flow : Flow) (script : String) :
    (∀ text, rewriter transport config key flow script = .ok (some text) ↔
      ∃ content, Answered transport config key flow script (some content) ∧
        ¬IsBlank content.toList ∧ stripFences content = text) ∧
    (rewriter transport config key flow script = .error .missingContent ↔
      ∃ content, Answered transport config key flow script content ∧
        ∀ raw ∈ content, IsBlank raw.toList) ∧
    ((∃ text, rewriter transport config key flow script = .ok (some text) ∧ IsBlank text.toList) ↔
      ∃ content, Answered transport config key flow script (some content) ∧
        IsEmptyFence content.toList) := by
  refine ⟨fun text => rewriter_eq_script_iff, ?_, ?_⟩
  · simp only [rewriter_eq_iff (.inl rfl), judgeContent_eq_missing_iff]
  · constructor
    · rintro ⟨text, htext, hblank⟩
      obtain ⟨content, hanswered, hcontent, rfl⟩ := rewriter_eq_script_iff.mp htext
      exact ⟨content, hanswered, (isBlank_stripFences_iff.mp hblank).resolve_left hcontent⟩
    · rintro ⟨content, hanswered, hfence⟩
      exact ⟨stripFences content,
        rewriter_eq_script_iff.mpr ⟨content, hanswered, not_isBlank_of_isEmptyFence hfence, rfl⟩,
        isBlank_stripFences_iff.mpr (.inr hfence)⟩

/-- A local service that replies with an empty fence. -/
def fenceReply : Reply := ⟨200, "\x7b\"response\":\"\x60\x60\x60\\n\x60\x60\x60\"\x7d"⟩

theorem emptyFence_rewritten :
    ∃ text, rewriter (fun _ => some fenceReply) ⟨.ollama, none, none, 20⟩ none ⟨"q", []⟩ "x" =
      .ok (some text) ∧ IsBlank text.toList := by
  refine (rewriter_blank_iff_emptyFence _ _ _ _ _).2.2.mpr
    ⟨"\x60\x60\x60\n\x60\x60\x60", ⟨_, fenceReply, rfl, rfl, rfl, ?_⟩, ?_⟩
  · exact ⟨.object [("response", .string "\x60\x60\x60\n\x60\x60\x60")], by cbv, by cbv⟩
  · exact ⟨[], [], '\n' :: ([] ++ fence), [], Text.isBlank_nil, List.not_mem_nil,
      .inr ⟨[], Text.isBlank_nil, rfl⟩, Text.isBlank_nil, by cbv⟩

end BrowserFlow.Rewrite
