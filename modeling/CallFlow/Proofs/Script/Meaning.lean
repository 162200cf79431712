import CallFlow.Proofs.Script.Compile
import CallFlow.Proofs.Text.Word
import CallFlow.Tool.Resolve
import Mathlib.Data.List.Forall2

/-!
# The meaning of nodes

What an agent is told depends on the meaning of the nodes only: on their kinds, on the words of the
author texts, on the calendar services and on the targets of webhooks and transfers.  Node ids,
links and the layout of white space have no part in it.  Two lists of nodes that mean the same, node
by node, are compiled to the same script and bring the same tools.
-/

namespace CallFlow

open Text

/-- Two payloads of one kind that mean the same.  Author texts have the same words, calendar
services are the same after defaulting, and targets after trimming, where a blank one is missing.
Links are left open. -/
inductive NodeKind.SameMeaning : NodeKind → NodeKind → Prop
  | message {text other : Option String} (htext : wordsOf text = wordsOf other) :
      SameMeaning (.message text) (.message other)
  | question {text other : Option String} {choices others : List Choice}
      (htext : wordsOf text = wordsOf other)
      (hchoices : List.Forall₂ (fun choice other => words choice.label = words other.label)
        choices others) :
      SameMeaning (.question text choices) (.question other others)
  | condition {condition other whenTrue whenFalse otherTrue otherFalse : Option String}
      (hcondition : wordsOf condition = wordsOf other) :
      SameMeaning (.condition condition whenTrue whenFalse) (.condition other otherTrue otherFalse)
  | transfer {number otherNumber text other : Option String}
      (hnumber : nonBlank number = nonBlank otherNumber) (htext : wordsOf text = wordsOf other) :
      SameMeaning (.transfer number text) (.transfer otherNumber other)
  | closing {text other : Option String} (htext : wordsOf text = wordsOf other) :
      SameMeaning (.closing text) (.closing other)
  | checkAvailability {service otherService : Option SchedulingProvider} {text other : Option String}
      (hservice : service.getD .calcom = otherService.getD .calcom)
      (htext : wordsOf text = wordsOf other) :
      SameMeaning (.checkAvailability service text) (.checkAvailability otherService other)
  | bookAppointment {service otherService : Option SchedulingProvider} {text other : Option String}
      (hservice : service.getD .calcom = otherService.getD .calcom)
      (htext : wordsOf text = wordsOf other) :
      SameMeaning (.bookAppointment service text) (.bookAppointment otherService other)
  | crmLookup {text other : Option String} (htext : wordsOf text = wordsOf other) :
      SameMeaning (.crmLookup text) (.crmLookup other)
  | webhook {url other : Option String} {method : WebhookMethod}
      (hurl : nonBlank url = nonBlank other) :
      SameMeaning (.webhook url method) (.webhook other method)

/-- Two nodes whose payloads mean the same, whatever their ids and links. -/
def Node.SameMeaning (node other : Node) : Prop :=
  node.kind.SameMeaning other.kind

/-! ## Steps -/

namespace Step

variable {text other : Option String}

theorem quote_eq_of_singleLine_eq {kept other : String} (h : singleLine kept = singleLine other) :
    quote kept = quote other := by
  rw [quote, quote, h]

theorem leadIn_eq_of_wordsOf_eq (h : wordsOf text = wordsOf other) : leadIn text = leadIn other := by
  rcases nonBlank_cases_of_wordsOf_eq h with ⟨hnone, hnone'⟩ | ⟨kept, kept', hkept, hkept', hline⟩
  · rw [leadIn, leadIn, hnone, hnone']
  · simp only [leadIn, hkept, hkept', quote_eq_of_singleLine_eq hline]

theorem announcement_eq_of_wordsOf_eq (h : wordsOf text = wordsOf other) :
    announcement text = announcement other := by
  rcases nonBlank_cases_of_wordsOf_eq h with ⟨hnone, hnone'⟩ | ⟨kept, kept', hkept, hkept', hline⟩
  · rw [announcement, announcement, hnone, hnone']
  · simp only [announcement, hkept, hkept', quote_eq_of_singleLine_eq hline]

theorem choiceNote_eq_of_words_eq {choice other : Choice}
    (h : words choice.label = words other.label) : choiceNote choice = choiceNote other := by
  have hquote : quote choice.label = quote other.label :=
    quote_eq_of_singleLine_eq (singleLine_eq_of_words_eq h)
  unfold choiceNote
  rw [hquote]

theorem choiceNotes_eq_of_words_eq {choices others : List Choice}
    (h : List.Forall₂ (fun choice other => words choice.label = words other.label)
      choices others) : choiceNotes choices = choiceNotes others := by
  have hnotes : choices.map choiceNote = others.map choiceNote := by
    induction h with
    | nil => rfl
    | cons hlabel _ ih =>
      rw [List.map_cons, List.map_cons, ih, choiceNote_eq_of_words_eq hlabel]
  have hempty : choices.isEmpty = others.isEmpty := by
    cases h <;> rfl
  rw [choiceNotes, choiceNotes, hnotes, hempty]

/-- The step of a node depends on the meaning of its payload only. -/
theorem ofKind_eq_of_sameMeaning {kind other : NodeKind} (h : kind.SameMeaning other)
    (tool : Option String) : ofKind kind tool = ofKind other tool := by
  cases h with
  | message htext =>
    unfold ofKind
    rcases nonBlank_cases_of_wordsOf_eq htext with
      ⟨hnone, hnone'⟩ | ⟨kept, kept', hkept, hkept', hline⟩
    · simp only [hnone, hnone']
    · simp only [hkept, hkept', quote_eq_of_singleLine_eq hline]
  | question htext hchoices =>
    unfold ofKind
    rcases nonBlank_cases_of_wordsOf_eq htext with
      ⟨hnone, hnone'⟩ | ⟨kept, kept', hkept, hkept', hline⟩
    · simp only [hnone, hnone', choiceNotes_eq_of_words_eq hchoices]
    · simp only [hkept, hkept', quote_eq_of_singleLine_eq hline,
        choiceNotes_eq_of_words_eq hchoices]
  | condition hcondition =>
    unfold ofKind
    rcases nonBlank_cases_of_wordsOf_eq hcondition with
      ⟨hnone, hnone'⟩ | ⟨kept, kept', hkept, hkept', hline⟩
    · simp only [hnone, hnone']
    · simp only [hkept, hkept', hline]
  | transfer _ htext =>
    unfold ofKind
    simp only [announcement_eq_of_wordsOf_eq htext]
  | closing htext =>
    unfold ofKind
    rcases nonBlank_cases_of_wordsOf_eq htext with
      ⟨hnone, hnone'⟩ | ⟨kept, kept', hkept, hkept', hline⟩
    · simp only [hnone, hnone']
    · simp only [hkept, hkept', quote_eq_of_singleLine_eq hline]
  | checkAvailability hservice htext =>
    unfold ofKind
    simp only [hservice, leadIn_eq_of_wordsOf_eq htext]
  | bookAppointment hservice htext =>
    unfold ofKind
    simp only [hservice, leadIn_eq_of_wordsOf_eq htext]
  | crmLookup htext =>
    unfold ofKind
    simp only [leadIn_eq_of_wordsOf_eq htext]
  | webhook _ => rfl

end Step

/-! ## Targets -/

namespace Node.SameMeaning

variable {node other : Node}

theorem webhookTarget_eq (h : node.SameMeaning other) :
    node.webhookTarget = other.webhookTarget := by
  obtain ⟨id, kind, next⟩ := node
  obtain ⟨id', kind', next'⟩ := other
  cases (h : kind.SameMeaning kind') with
  | webhook hurl => simp only [webhookTarget, hurl]
  | _ => rfl

theorem transferTarget_eq (h : node.SameMeaning other) :
    node.transferTarget = other.transferTarget := by
  obtain ⟨id, kind, next⟩ := node
  obtain ⟨id', kind', next'⟩ := other
  cases (h : kind.SameMeaning kind') with
  | transfer hnumber _ => simp only [transferTarget, hnumber]
  | _ => rfl

theorem assign_eq (h : node.SameMeaning other) (counts : ToolName.Counts) :
    ToolName.assign counts node = ToolName.assign counts other := by
  rw [ToolName.assign, ToolName.assign, h.webhookTarget_eq, h.transferTarget_eq]

theorem dynamicTool_eq (h : node.SameMeaning other) (resolver : Resolver) (name : Option String) :
    resolver.dynamicTool node name = resolver.dynamicTool other name := by
  unfold Resolver.dynamicTool
  rw [h.webhookTarget_eq, h.transferTarget_eq]

end Node.SameMeaning

/-! ## Lists of nodes -/

section Lists

variable {nodes others : List Node}

theorem ToolName.dynamicFrom_eq_of_sameMeaning (h : List.Forall₂ Node.SameMeaning nodes others)
    (counts : Counts) : dynamicFrom counts nodes = dynamicFrom counts others := by
  induction h generalizing counts with
  | nil => rfl
  | cons hnode _ ih => rw [dynamicFrom, dynamicFrom, hnode.assign_eq, ih]

theorem Script.stepsFrom_eq_of_sameMeaning (h : List.Forall₂ Node.SameMeaning nodes others)
    (counts : ToolName.Counts) : stepsFrom counts nodes = stepsFrom counts others := by
  induction h generalizing counts with
  | nil => rfl
  | cons hnode _ ih =>
    rw [stepsFrom_cons, stepsFrom_cons, hnode.assign_eq, ih, Step.ofKind_eq_of_sameMeaning hnode]

theorem Script.compile_eq_of_sameMeaning (h : List.Forall₂ Node.SameMeaning nodes others) :
    compile nodes = compile others := by
  have hempty : nodes.isEmpty = others.isEmpty := by
    cases h <;> rfl
  have hsteps : steps nodes = steps others := stepsFrom_eq_of_sameMeaning h ⟨0, 0⟩
  rw [compile, compile, hempty, hsteps]

theorem Resolver.zipWith_dynamicTool_eq (h : List.Forall₂ Node.SameMeaning nodes others)
    (resolver : Resolver) (names : List (Option String)) :
    List.zipWith resolver.dynamicTool nodes names =
      List.zipWith resolver.dynamicTool others names := by
  induction h generalizing names with
  | nil => rfl
  | cons hnode _ ih =>
    cases names with
    | nil => rfl
    | cons name names =>
      rw [List.zipWith_cons_cons, List.zipWith_cons_cons, hnode.dynamicTool_eq, ih]

theorem Resolver.dynamicTools_eq_of_sameMeaning (h : List.Forall₂ Node.SameMeaning nodes others)
    (resolver : Resolver) : resolver.dynamicTools nodes = resolver.dynamicTools others := by
  have hnames : ToolName.dynamic nodes = ToolName.dynamic others :=
    ToolName.dynamicFrom_eq_of_sameMeaning h ⟨0, 0⟩
  rw [dynamicTools, dynamicTools, hnames, resolver.zipWith_dynamicTool_eq h]

/-- Two lists of nodes that mean the same, node by node, cannot be told apart by the script that the
agent reads, by the providers or by the tools that it is given. -/
theorem Script.indistinguishable_of_sameMeaning (h : List.Forall₂ Node.SameMeaning nodes others) :
    (compile nodes).text = (compile others).text ∧
      (compile nodes).providers = (compile others).providers ∧
      ∀ (resolver : Resolver) (client : Client),
        resolver.resolve (compile nodes).providers nodes client =
          resolver.resolve (compile others).providers others client := by
  have hcompile : compile nodes = compile others := compile_eq_of_sameMeaning h
  refine ⟨congrArg text hcompile, congrArg providers hcompile, ?_⟩
  intro resolver client
  rw [Resolver.resolve, Resolver.resolve, hcompile, resolver.dynamicTools_eq_of_sameMeaning h]

end Lists

namespace Script

/-- A question, a calendar service, a webhook and a transfer as an author may write them. -/
def plainNodes : List Node :=
  [.ofKind "a" (.question (some "Which day ?") [⟨"This week", none⟩]),
    .ofKind "b" (.bookAppointment none none),
    .ofKind "c" (.webhook (some "https://h") .get),
    .ofKind "d" (.transfer none (some "One moment"))]

/-- The same nodes with other ids, links and white space, a service that is named, a text and a
number that are blank instead of missing. -/
def spacedNodes : List Node :=
  [⟨"x", .question (some "\u2028Which\r\n day\u00a0?") [⟨" This\tweek ", some "c"⟩], some "d"⟩,
    .ofKind "" (.bookAppointment (some .calcom) (some " \u3000")),
    .ofKind "x" (.webhook (some "\u0085https://h\n") .get),
    .ofKind "y" (.transfer (some "\u2003") (some "One\n\nmoment"))]

theorem indistinguishable_of_sameMeaning_of_spaced :
    List.Forall₂ Node.SameMeaning plainNodes spacedNodes ∧
      (compile plainNodes).text = (compile spacedNodes).text := by
  have hquestion : wordsOf (some "Which day ?") =
      wordsOf (some "\u2028Which\r\n day\u00a0?") := by decide +kernel
  have hchoice : words "This week" = words " This\tweek " := by decide +kernel
  have hblank : wordsOf none = wordsOf (some " \u3000") := by decide +kernel
  have hurl : nonBlank (some "https://h") = nonBlank (some "\u0085https://h\n") := by
    decide +kernel
  have hnumber : nonBlank none = nonBlank (some "\u2003") := by decide +kernel
  have htransfer : wordsOf (some "One moment") = wordsOf (some "One\n\nmoment") := by
    decide +kernel
  have hsame : List.Forall₂ Node.SameMeaning plainNodes spacedNodes := by
    refine .cons ?_ (.cons ?_ (.cons ?_ (.cons ?_ .nil)))
    · exact NodeKind.SameMeaning.question hquestion (.cons hchoice .nil)
    · exact NodeKind.SameMeaning.bookAppointment rfl hblank
    · exact NodeKind.SameMeaning.webhook hurl
    · exact NodeKind.SameMeaning.transfer hnumber htransfer
  exact ⟨hsame, (indistinguishable_of_sameMeaning hsame).1⟩

end Script

end CallFlow
