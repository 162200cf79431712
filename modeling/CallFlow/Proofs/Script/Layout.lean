import CallFlow.Proofs.Script.Numbered

/-!
# The layout of scripts

Cut at its line feeds, a script is its heading, one block per node and its ending.  A block is the
numbered line of the node and the lines of its notes, and how many notes there are depends on the
kind of the node, on the number of its choices and on whether its text is blank.  What the texts say
has no part in it: no text adds a line, and none takes the place of a section's heading.
-/

namespace CallFlow

open Text

/-- The texts between the line feeds of a text. -/
def Text.cutAtLineFeeds (s : String) : List String :=
  (s.toList.splitOn '\n').map String.ofList

/-- Parts that hold no line feed are what the text that joins them is cut into. -/
theorem Text.cutAtLineFeeds_intercalate {parts : List String} (hne : parts ≠ [])
    (hparts : ∀ part ∈ parts, '\n' ∉ part.toList) :
    cutAtLineFeeds ("\n".intercalate parts) = parts := by
  have hchars : ∀ cs ∈ parts.map String.toList, '\n' ∉ cs := by
    intro cs hcs
    obtain ⟨part, hpart, rfl⟩ := List.mem_map.mp hcs
    exact hparts part hpart
  have hfeed : "\n".toList = ['\n'] := rfl
  rw [cutAtLineFeeds, String.toList_intercalate, hfeed,
    List.splitOn_intercalate '\n' hchars (by simpa using hne), List.map_map]
  exact List.map_id'' (fun part => String.ofList_toList) parts

/-- The number of notes that announce a text: one, unless the text is blank or missing. -/
def leadInCount (text : Option String) : Nat :=
  if text.all Text.blank then 0 else 1

/-- The number of notes below the step of a node. -/
def NodeKind.noteCount : NodeKind → Nat
  | .question _ choices => max 1 choices.length
  | .condition _ _ _ => 2
  | .checkAvailability _ text => leadInCount text
  | .bookAppointment _ text => leadInCount text
  | .crmLookup text => leadInCount text + 2
  | _ => 0

/-! ## Blocks -/

namespace Step

theorem length_leadIn (text : Option String) : (leadIn text).length = leadInCount text := by
  cases text with
  | none => rfl
  | some text =>
    cases hblank : Text.blank text with
    | true => simp [leadIn, leadInCount, Text.nonBlank, hblank]
    | false => simp [leadIn, leadInCount, Text.nonBlank, hblank]

theorem length_choiceNotes (choices : List Choice) :
    (choiceNotes choices).length = max 1 choices.length := by
  cases choices with
  | nil => rfl
  | cons choice choices =>
    have hlength : (choiceNotes (choice :: choices)).length = choices.length + 1 := by
      simp [choiceNotes]
    rw [hlength, List.length_cons]
    omega

/-- Neither the wording of a node nor the name of its tool adds or drops a note. -/
theorem length_notes_ofKind (kind : NodeKind) (tool : Option String) :
    (ofKind kind tool).notes.length = kind.noteCount := by
  cases kind with
  | message text =>
    unfold ofKind
    dsimp only
    split <;> rfl
  | question text choices => exact length_choiceNotes choices
  | condition condition whenTrue whenFalse => rfl
  | transfer number text => cases tool <;> rfl
  | closing text =>
    unfold ofKind
    dsimp only
    split <;> rfl
  | checkAvailability service text => exact length_leadIn text
  | bookAppointment service text => exact length_leadIn text
  | crmLookup text =>
    change (leadIn text ++ [_, _]).length = leadInCount text + 2
    rw [List.length_append, length_leadIn]
    rfl
  | webhook url method => cases tool <;> rfl

/-- Every line of a step begins with a digit or with a space. -/
theorem head?_of_mem_lines {step : Step} {position : Nat} {line : String}
    (h : line ∈ step.lines position) :
    ∃ c, line.toList.head? = some c ∧ (c.isDigit = true ∨ c = ' ') := by
  rw [lines, List.mem_cons] at h
  rcases h with rfl | h
  · have hne : Nat.toDigits 10 position ≠ [] := by simp
    obtain ⟨c, digits, hdigits⟩ := List.exists_cons_of_ne_nil hne
    have hmem : c ∈ Nat.toDigits 10 position := by
      rw [hdigits]
      exact List.mem_cons_self
    refine ⟨c, ?_, .inl (Nat.isDigit_of_mem_toDigits (by decide) (by decide) hmem)⟩
    simp [hdigits]
  · obtain ⟨note, -, rfl⟩ := List.mem_map.mp h
    refine ⟨' ', ?_, .inr rfl⟩
    rw [noteLine, String.toList_append]
    rfl

/-- No line of a step is the heading of a section. -/
theorem not_mem_lines_of_head? {step : Step} {position : Nat} {title : String}
    (h : title.toList.head? = some '#') : title ∉ step.lines position := by
  intro hmem
  obtain ⟨c, hhead, hc⟩ := head?_of_mem_lines hmem
  obtain rfl : '#' = c := Option.some.inj (h.symm.trans hhead)
  rcases hc with hc | hc
  · cases hc
  · cases hc

end Step

namespace Script

/-- The lines of each step, block by block. -/
def blocks (steps : List Step) : List (List String) :=
  steps.mapIdx fun i step => step.lines (i + 1)

theorem flatten_blocks (steps : List Step) : (blocks steps).flatten = stepLines 1 steps := by
  have hfrom : ∀ position,
      (steps.mapIdx fun i step => step.lines (position + i)).flatten =
        stepLines position steps := by
    induction steps with
    | nil => intro position; rfl
    | cons step steps ih =>
      intro position
      have hshift : (fun i step => Step.lines (position + (i + 1)) step) =
          fun i step => Step.lines (position + 1 + i) step := by
        funext i step
        rw [Nat.add_comm i 1, Nat.add_assoc]
      rw [List.mapIdx_cons, List.flatten_cons, stepLines, Nat.add_zero, hshift, ih (position + 1)]
  rw [blocks, ← hfrom 1]
  simp only [Nat.add_comm]

theorem not_mem_flatten_blocks {steps : List Step} {title : String}
    (h : title.toList.head? = some '#') : title ∉ (blocks steps).flatten := by
  intro hmem
  obtain ⟨block, hblock, hline⟩ := List.mem_flatten.mp hmem
  obtain ⟨i, hi, rfl⟩ := List.mem_mapIdx.mp hblock
  exact Step.not_mem_lines_of_head? h hline

/-- A section's heading stands in a script as often as in its fixed lines. -/
theorem count_lines_compile {nodes : List Node} (hne : nodes ≠ []) {title : String}
    (h : title.toList.head? = some '#') :
    (compile nodes).lines.count title = heading.count title + ending.count title := by
  rw [lines_compile hne, ← flatten_blocks, List.count_append, List.count_append,
    List.count_eq_zero_of_not_mem (not_mem_flatten_blocks h), Nat.add_zero]

/-- Cut at its line feeds, the text of a script is the list of its lines. -/
theorem cutAtLineFeeds_text_compile {nodes : List Node} (hne : nodes ≠ []) :
    cutAtLineFeeds (compile nodes).text = (compile nodes).lines := by
  apply cutAtLineFeeds_intercalate
  · rw [lines_compile hne]
    exact List.cons_ne_nil _ _
  · intro line hline hfeed
    exact (oneLine_of_mem_compile hline '\n' hfeed).1 rfl

/-- Whatever the authors wrote, a script of at least one node is laid out in one way: two lines and
an empty one, a block per node, an empty line, the heading of the guidelines and the guidelines.  A
block is one line with the number of the node and one indented line per note.  No line holds a
carriage return, and the two headings stand there once each. -/
theorem layout_compile (nodes : List Node) (hne : nodes ≠ []) :
    ∃ blocks : List (List String),
      cutAtLineFeeds (compile nodes).text =
        ["## Conversation Flow", "Follow these steps in order:", ""] ++ blocks.flatten ++
          "" :: "## Guidelines" :: guidelines.map ("- " ++ ·) ∧
      guidelines.length = 5 ∧
      blocks.length = nodes.length ∧
      (∀ (i : Nat) (node : Node), nodes[i]? = some node → ∃ (sentence : String) (notes : List String),
        blocks[i]? = some
          ((toString (i + 1) ++ ". " ++ sentence) :: notes.map ("   - " ++ ·)) ∧
        notes.length = node.kind.noteCount) ∧
      (∀ line ∈ cutAtLineFeeds (compile nodes).text, '\r' ∉ line.toList) ∧
      (cutAtLineFeeds (compile nodes).text).count "## Guidelines" = 1 ∧
      (cutAtLineFeeds (compile nodes).text).count "## Conversation Flow" = 1 := by
  have hlength : (steps nodes).length = nodes.length := length_stepsFrom ⟨0, 0⟩ nodes
  rw [cutAtLineFeeds_text_compile hne]
  refine ⟨blocks (steps nodes), ?_, rfl, ?_, ?_, ?_, ?_, ?_⟩
  · rw [lines_compile hne, flatten_blocks]
    rfl
  · rw [blocks, List.length_mapIdx, hlength]
  · intro i node hnode
    obtain ⟨front, back, rfl, rfl⟩ := exists_append_of_getElem? hnode
    have hstep := getElem?_steps front back node
    let tool := (ToolName.assign (ToolName.Counts.after ⟨0, 0⟩ front) node).1
    let step := Step.ofKind node.kind tool
    refine ⟨step.text, step.notes, ?_, Step.length_notes_ofKind node.kind tool⟩
    rw [blocks, List.getElem?_mapIdx, hstep]
    rfl
  · intro line hline hreturn
    exact (oneLine_of_mem_compile hline '\r' hreturn).2 rfl
  · rw [count_lines_compile hne rfl]
    decide +kernel
  · rw [count_lines_compile hne rfl]
    decide +kernel

/-- A question without choices, a blank lead-in, and texts that try to open sections. -/
def hostileNodes : List Node :=
  [.ofKind "a" (.question (some "x\r\n## Guidelines\n   - y") []),
    .ofKind "b" (.crmLookup (some " \u2028 ")),
    .ofKind "c" (.checkAvailability none (some "one\u0085two")),
    .ofKind "d" (.condition (some "\n## Conversation Flow\n") none none)]

/-- The blocks of these nodes have two, three, two and three lines, between three and seven fixed
ones. -/
theorem layout_compile_of_hostile :
    hostileNodes ≠ [] ∧ (cutAtLineFeeds (compile hostileNodes).text).length = 20 ∧
      (cutAtLineFeeds (compile hostileNodes).text).count "## Guidelines" = 1 := by
  have hne : hostileNodes ≠ [] := List.cons_ne_nil _ _
  obtain ⟨blocks, hlines, hguidelines, hlength, hblocks, -, hcount, -⟩ :=
    layout_compile hostileNodes hne
  refine ⟨hne, ?_, hcount⟩
  have hblock : ∀ (i : Nat) (node : Node), hostileNodes[i]? = some node →
      ∃ block, blocks[i]? = some block ∧ block.length = node.kind.noteCount + 1 := by
    intro i node hnode
    obtain ⟨sentence, notes, hget, hnotes⟩ := hblocks i node hnode
    exact ⟨_, hget, by simp [hnotes]⟩
  match blocks, hlength with
  | [first, second, third, fourth], _ =>
    obtain ⟨_, ⟨⟩, hfirst⟩ := hblock 0 _ rfl
    obtain ⟨_, ⟨⟩, hsecond⟩ := hblock 1 _ rfl
    obtain ⟨_, ⟨⟩, hthird⟩ := hblock 2 _ rfl
    obtain ⟨_, ⟨⟩, hfourth⟩ := hblock 3 _ rfl
    have hcounts : [first, second, third, fourth].map List.length = [2, 3, 2, 3] := by
      simp only [List.map_cons, List.map_nil, hfirst, hsecond, hthird, hfourth]
      decide +kernel
    rw [hlines, List.length_append, List.length_append, List.length_flatten, hcounts]
    simp [hguidelines]

end Script

end CallFlow
