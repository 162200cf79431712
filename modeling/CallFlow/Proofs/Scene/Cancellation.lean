import CallFlow.Agent.Directory
import CallFlow.Proofs.Scene.Cancel
import CallFlow.Proofs.Scene.Setting

/-!
# No half deploys

Whenever the signal of a deploy is raised, and whatever the directory and others do meanwhile, the
deploy is stopped as a whole or not at all.  Raised before its write begins, the signal stops it:
nothing is written and nothing is marked.  Raised later, the signal makes no difference to the
store, the directory or any deploy.

The second half compares two runs with the same events, of which one lacks the raises.  A signal may
belong to several deploys; a raise is late when all of them are past their writes.
-/

namespace CallFlow

theorem Scene.advance_withRaised {scene : Scene} {raised : List String} {place : Nat}
    {deploy : Deploy} {input : Input}
    (hsame : deploy.step (isRaised { scene with raised := raised } deploy.signal) scene.store
        input =
      deploy.step (scene.isRaised deploy.signal) scene.store input) :
    advance { scene with raised := raised } place deploy input =
      { scene.advance place deploy input with raised := raised } := by
  simp only [advance, hsame]
  cases deploy.request? input <;> rfl

namespace Setting

variable {ι σ : Type} {behaviour : Behaviour ι σ} {store : Store} {remote : σ}
  {signal : String} {events : List (Event ι)}

def without (signal : String) (events : List (Event ι)) : List (Event ι) :=
  events.filter fun event => !event.raises signal

/-- Whenever a signal is raised, every deploy that listens to it is past its write, and no other
deploy is called with it later. -/
def RaisedLate (behaviour : Behaviour ι σ) (store : Store) (remote : σ) (signal : String)
    (events : List (Event ι)) : Prop :=
  ∀ front back, events = front ++ .raise signal :: back →
    (∀ deploy ∈ ((start store remote).run behaviour front).scene.deploys,
      deploy.signal = some signal → deploy.Past) ∧
    ∀ deployer client flowId, .call deployer client flowId (some signal) ∉ back

theorem RaisedLate.front {event : Event ι}
    (h : RaisedLate behaviour store remote signal (events ++ [event])) :
    RaisedLate behaviour store remote signal events := by
  rintro front back rfl
  obtain ⟨hpast, hcalls⟩ := h front (back ++ [event]) (by simp)
  refine ⟨hpast, ?_⟩
  intro deployer client flowId hcall
  exact hcalls deployer client flowId (List.mem_append_left _ hcall)

theorem raisedLate_of_once {front back : List (Event ι)} (hfront : .raise signal ∉ front)
    (hback : .raise signal ∉ back)
    (hpast : ∀ deploy ∈ ((start store remote).run behaviour front).scene.deploys,
      deploy.signal = some signal → deploy.Past)
    (hcalls : ∀ deployer client flowId, .call deployer client flowId (some signal) ∉ back) :
    RaisedLate behaviour store remote signal (front ++ .raise signal :: back) := by
  intro other rest hevents
  obtain ⟨rfl, -, rfl⟩ := (List.append_cons_inj_of_notMem hfront hback).mp hevents
  exact ⟨hpast, hcalls⟩

/-- After a late raise every deploy that listens to the signal is past its write. -/
theorem RaisedLate.past (h : RaisedLate behaviour store remote signal events)
    (hraised : .raise signal ∈ events) :
    ∀ deploy ∈ ((start store remote).run behaviour events).scene.deploys,
      deploy.signal = some signal → deploy.Past := by
  induction events using List.reverseRecOn with
  | nil => cases hraised
  | append_singleton events event ih =>
    rw [run_concat]
    intro deploy hdeploy hsignal
    rcases List.mem_append.mp hraised with hearlier | hnow
    · have hpast := ih h.front hearlier
      rcases mem_deploys_step hdeploy with
        hkept | ⟨deployer, client, flowId, other, rfl, rfl⟩ | ⟨before, hbefore, input, rfl⟩
      · exact hpast deploy hkept hsignal
      · -- No deploy that listens to the signal is called any more.
        obtain rfl : other = some signal := hsignal
        obtain ⟨front, back, hevents⟩ := List.append_of_mem hearlier
        have hcalls := (h front (back ++ [.call deployer client flowId (some signal)])
          (by simp [hevents])).2
        exact absurd (List.mem_append_right _ List.mem_cons_self) (hcalls deployer client flowId)
      · rw [Deploy.signal_step] at hsignal
        exact (hpast before hbefore hsignal).step ..
    · obtain rfl := List.mem_singleton.mp hnow
      exact (h events [] rfl).1 deploy hdeploy hsignal

theorem exists_run_start_eq (behaviour : Behaviour ι σ) (store : Store) (remote : σ)
    (events : List (Event ι)) :
    ∃ moves, ((start store remote).run behaviour events).scene = (Scene.start store).run moves :=
  exists_scene_run_eq behaviour (start store remote) events

theorem mem_raised_start {other : String} :
    other ∈ ((start store remote).run behaviour events).scene.raised ↔ .raise other ∈ events := by
  rw [mem_raised_run]
  simp [start, Scene.start]

theorem without_of_not_mem (h : .raise signal ∉ events) : without signal events = events := by
  rw [without, List.filter_eq_self]
  intro event hevent
  have hother : event.raises signal = false := by
    rw [Bool.eq_false_iff, ne_eq, Event.raises_iff]
    rintro rfl
    exact h hevent
  rw [hother]
  rfl

/-- Without the raises of one signal the others are raised as before. -/
theorem isRaised_without {other : Option String} (hother : other ≠ some signal) :
    ((start store remote).run behaviour (without signal events)).scene.isRaised other =
      ((start store remote).run behaviour events).scene.isRaised other := by
  rw [Bool.eq_iff_iff, Scene.isRaised_iff, Scene.isRaised_iff]
  refine exists_congr fun raised => ?_
  rw [mem_raised_start, mem_raised_start]
  constructor
  · rintro ⟨hraised, rfl⟩
    exact ⟨List.mem_of_mem_filter hraised, rfl⟩
  · rintro ⟨hraised, rfl⟩
    have hne : raised ≠ signal := fun hsame => hother (congrArg some hsame)
    exact ⟨List.mem_filter.mpr ⟨hraised, by simp [Event.raises, hne]⟩, rfl⟩

/-- Where a signal is raised late, no deploy steps otherwise than without the raises. -/
theorem RaisedLate.step_eq (h : RaisedLate behaviour store remote signal events) {deploy : Deploy}
    (hdeploy : deploy ∈ ((start store remote).run behaviour events).scene.deploys)
    (met : Store) (input : Input) :
    deploy.step (((start store remote).run behaviour events).scene.isRaised deploy.signal) met
        input =
      deploy.step (((start store remote).run behaviour (without signal events)).scene.isRaised
        deploy.signal) met input := by
  by_cases hsignal : deploy.signal = some signal
  · by_cases hraised : .raise signal ∈ events
    · have hpast := h.past hraised deploy hdeploy hsignal
      obtain ⟨moves, hmoves⟩ := exists_run_start_eq behaviour store remote events
      rw [hmoves] at hdeploy
      obtain ⟨place, hplace⟩ := List.mem_iff_getElem?.mp hdeploy
      exact hpast.step_eq (Scene.accounted_run store moves hplace).2 _ _ met input
    · rw [without_of_not_mem hraised]
  · rw [isRaised_without hsignal]

/-- Two settings that differ in the raised signals at most. -/
def SameButRaised (setting other : Setting σ) : Prop :=
  other = { setting with scene := { setting.scene with raised := other.scene.raised } }

theorem SameButRaised.raise {setting other : Setting σ} (h : setting.SameButRaised other)
    (signal : String) :
    setting.SameButRaised (other.step behaviour (.raise signal)) := by
  rw [SameButRaised] at h
  rw [h]
  rfl

/-- Settings that differ in the raised signals at most do so after an event, unless a deploy steps
otherwise in one of them. -/
theorem SameButRaised.step {setting other : Setting σ} (h : setting.SameButRaised other)
    (event : Event ι)
    (hsame : ∀ deploy ∈ setting.scene.deploys, ∀ input,
      deploy.step (other.scene.isRaised deploy.signal) setting.scene.store input =
        deploy.step (setting.scene.isRaised deploy.signal) setting.scene.store input) :
    (setting.step behaviour event).SameButRaised (other.step behaviour event) := by
  rw [SameButRaised] at h
  generalize other.scene.raised = raised at h
  subst h
  cases event with
  | resume place chance =>
    simp only [Setting.step, resume]
    cases hdeploy : setting.scene.deploys[place]? with
    | none => rfl
    | some deploy =>
      have hstep := hsame deploy (List.mem_of_getElem? hdeploy)
      simp only [hdeploy, Scene.step, hstep, Scene.advance_withRaised (hstep _)]
      rfl
  | _ => rfl

/-- A signal that is raised late makes no difference but that it is raised. -/
theorem RaisedLate.sameButRaised (h : RaisedLate behaviour store remote signal events) :
    ((start store remote).run behaviour (without signal events)).SameButRaised
      ((start store remote).run behaviour events) := by
  induction events using List.reverseRecOn with
  | nil => rfl
  | append_singleton events event ih =>
    have hearlier := ih h.front
    rw [run_concat]
    by_cases hevent : event.raises signal = true
    · -- The raise is missing in the other run, which stands still meanwhile.
      have hwithout : without signal (events ++ [event]) = without signal events := by
        simp [without, hevent]
      obtain rfl := Event.raises_iff.mp hevent
      rw [hwithout]
      exact hearlier.raise signal
    · have hwithout : without signal (events ++ [event]) = without signal events ++ [event] := by
        simp [without, hevent]
      rw [hwithout, run_concat]
      refine hearlier.step event ?_
      intro deploy hdeploy input
      refine h.front.step_eq ?_ _ input
      rw [hearlier]
      exact hdeploy

/-! ## Raised in time -/

/-- What every deploy has when it is called, and keeps by its steps while its signal is raised, a
deploy has at the end if it had it when its signal was raised. -/
theorem raised_induction {P : Deploy → Prop}
    (hnew : ∀ deployer client flowId signal, P (.new deployer client flowId signal))
    (hturn : ∀ {deploy next : Deploy} {met request},
      P deploy → deploy.Turn true met request next → P next)
    {front back : List (Event ι)} {place : Nat}
    (hfirst : ∀ before,
      ((start store remote).run behaviour front).scene.deploys[place]? = some before → P before)
    {deploy : Deploy}
    (hdeploy : ((start store remote).run behaviour
      (front ++ .raise signal :: back)).scene.deploys[place]? = some deploy)
    (hsignal : deploy.signal = some signal) : P deploy := by
  rw [run_append, run_cons] at hdeploy
  obtain ⟨moves, hmoves⟩ := exists_scene_run_eq behaviour
    (((start store remote).run behaviour front).step behaviour (.raise signal)) back
  rw [hmoves] at hdeploy
  have hraised : signal ∈ (((start store remote).run behaviour front).step behaviour
      (.raise signal)).scene.raised := mem_raised_step.mpr (.inl rfl)
  exact Scene.raised_induction hnew hturn hraised hfirst moves hdeploy hsignal

/-- A deploy is stopped by its signal as a whole or not at all. -/
structure AllOrNothing (behaviour : Behaviour ι σ) (store : Store) (remote : σ)
    (events : List (Event ι)) (place : Nat) (deploy : Deploy) : Prop where
  /-- It comes to an end when it goes on. -/
  ends : ∀ later : List (Event ι), 6 ≤ later.countP (Event.resumes place) →
    ∃ ended result,
      ((start store remote).run behaviour (events ++ later)).scene.deploys[place]? = some ended ∧
        ended.result? = some result
  /-- If its signal was raised before it began its write, it writes and marks nothing, and ends as
  the load of its flow tells. -/
  stopped : ∀ signal front back, deploy.signal = some signal →
    events = front ++ .raise signal :: back →
    (∀ before, ((start store remote).run behaviour front).scene.deploys[place]? = some before →
      before.writes = []) →
    deploy.writes = [] ∧ KeptBy place ((start store remote).run behaviour events).scene.log ∧
      ∀ result, deploy.result? = some result →
        ∃ access ∈ ((start store remote).run behaviour events).scene.log,
          access.caller = some place ∧
          access.request = .load deploy.client.id deploy.flowId ∧
          deploy.CutShort access.before result
  /-- If its signal was raised before it began a call, it begins none. -/
  silent : ∀ signal front back, deploy.signal = some signal →
    events = front ++ .raise signal :: back →
    (∀ before, ((start store remote).run behaviour front).scene.deploys[place]? = some before →
      before.calls = []) →
    deploy.calls = []
  /-- Once it has begun its write, its signal makes no difference to its steps. -/
  unheard : deploy.writes ≠ [] →
    ∀ met input, deploy.step true met input = deploy.step false met input
  /-- If a signal was raised late only, all is as if it had never been raised. -/
  undisturbed : ∀ signal, RaisedLate behaviour store remote signal events →
    ((start store remote).run behaviour (without signal events)).SameButRaised
      ((start store remote).run behaviour events)
  /-- It is cancelled only if its signal was raised. -/
  raised : deploy.result? = some (.error .cancelled) →
    ∃ signal, deploy.signal = some signal ∧ .raise signal ∈ events

/-- Every deploy of every run is stopped by its signal as a whole or not at all. -/
theorem allOrNothing_run {place : Nat} {deploy : Deploy}
    (hdeploy : ((start store remote).run behaviour events).scene.deploys[place]? = some deploy) :
    AllOrNothing behaviour store remote events place deploy := by
  obtain ⟨moves, hmoves⟩ := exists_run_start_eq behaviour store remote events
  have hscene := hdeploy
  rw [hmoves] at hscene
  obtain ⟨-, haccounted⟩ := Scene.accounted_run store moves hscene
  constructor
  case ends =>
    intro later hresumes
    rw [run_append]
    exact exists_result_run hdeploy hresumes
  case stopped =>
    rintro signal front back hsignal rfl hfirst
    -- A deploy that has written nothing yet cannot begin to while its signal is raised.
    have hwrites : deploy.writes = [] := raised_induction (P := fun deploy => deploy.writes = [])
      (fun _ _ _ _ => rfl) (fun hnone hturn => hturn.writes_eq.trans hnone) hfirst hdeploy hsignal
    have hfailed : ¬ deploy.Succeeded := by
      rintro ⟨outcome, houtcome⟩
      obtain ⟨hwrote, -⟩ := Scene.settled_run store moves hscene houtcome
      obtain ⟨target, patch, hwrite⟩ := hwrote.wrote
      rw [hwrites] at hwrite
      cases hwrite
    rw [hmoves]
    refine ⟨hwrites, (Scene.logged_run store moves hscene).kept hfailed, ?_⟩
    intro result hresult
    exact (Scene.judged_run store moves hscene).cutShort hresult
      (Scene.settled_run store moves hscene hresult) hwrites
  case silent =>
    rintro signal front back hsignal rfl hfirst
    -- Without a call the deploy waits for no reply, so only the first look at the signal is ahead.
    refine (raised_induction (P := fun deploy => deploy.Asked ∧ deploy.calls = [])
      (fun _ _ _ _ => ⟨rfl, rfl⟩) ?_ ?_ hdeploy hsignal).2
    · intro deploy next met request hsilent hturn
      exact ⟨hsilent.1.turn hturn, hturn.calls_eq_nil hsilent.1 hsilent.2⟩
    · intro before hbefore
      have hcalls := hfirst before hbefore
      obtain ⟨earlier, hearlier⟩ := exists_run_start_eq behaviour store remote front
      rw [hearlier] at hbefore
      exact ⟨Scene.asked_run store earlier hbefore, hcalls⟩
  case unheard =>
    intro hwrites met input
    exact Deploy.Past.step_eq (.inl hwrites) haccounted true false met input
  case undisturbed =>
    intro signal hlate
    exact hlate.sameButRaised
  case raised =>
    intro hresult
    have hraised := Scene.isRaised_of_cancelled store moves hscene hresult
    rw [← hmoves] at hraised
    obtain ⟨signal, hsignal, hname⟩ := Scene.isRaised_iff.mp hraised
    exact ⟨signal, hname, mem_raised_start.mp hsignal⟩

/-- The directory in memory, where any call may end in any way. -/
def inMemory : Behaviour Ending Directory :=
  ⟨fun _ _ directory => directory, fun ending call directory => directory.settle call ending,
    fun _ directory => directory⟩

def bareDirectory : Directory :=
  Directory.empty.insertAgent (.inline "a" [])

def played (events : List (Event Ending)) : Setting Directory :=
  (start Scene.rivalStore bareDirectory).run inMemory events

/-- A deploy begins to read its agent. -/
def readingEvents : List (Event Ending) :=
  [.call (Deployer.new "https://portal.example.com/api") ⟨"c", []⟩ "f" (some "s"),
    .resume 0 .completes, .resume 0 .completes]

/-- The reply comes, and the deploy begins to write. -/
def writingEvents : List (Event Ending) :=
  readingEvents ++ [.resume 0 .completes]

theorem raisedLate_of_writing (back : List (Event Ending)) (hback : .raise "s" ∉ back)
    (hcalls : ∀ deployer client flowId, .call deployer client flowId (some "s") ∉ back) :
    RaisedLate inMemory Scene.rivalStore bareDirectory "s"
      (writingEvents ++ .raise "s" :: back) := by
  refine raisedLate_of_once (by simp [writingEvents, readingEvents]) hback ?_ hcalls
  intro deploy hdeploy _
  obtain ⟨writing, hscene, hwrites⟩ : ∃ writing,
      (played writingEvents).scene.deploys = [writing] ∧ writing.writes.length = 1 := ⟨_, rfl, rfl⟩
  rw [← played, hscene] at hdeploy
  obtain rfl := List.mem_singleton.mp hdeploy
  exact .inl (List.ne_nil_of_length_pos (by omega))

/-- Raised while the agent is read, the signal stops the deploy; raised while the change is written,
it changes nothing. -/
theorem allOrNothing_run_of_reading :
    let rest : List (Event Ending) := [.resume 0 .completes, .resume 0 .completes]
    ∃ stopped ended outcome,
      (played (readingEvents ++ .raise "s" :: rest)).scene.deploys[0]? = some stopped ∧
      stopped.result? = some (.error .cancelled) ∧ stopped.writes = [] ∧
      (played (writingEvents ++ .raise "s" :: rest)).scene.deploys[0]? = some ended ∧
      ended.result? = some (.ok outcome) ∧
      (played (writingEvents ++ rest)).scene.deploys[0]? = some ended := by
  intro rest
  obtain ⟨stopped, hstopped, hcancelled, hsignal⟩ : ∃ stopped,
      (played (readingEvents ++ .raise "s" :: rest)).scene.deploys[0]? = some stopped ∧
      stopped.result? = some (.error .cancelled) ∧ stopped.signal = some "s" := ⟨_, rfl, rfl, rfl⟩
  obtain ⟨ended, outcome, hended, hok⟩ : ∃ ended outcome,
      (played (writingEvents ++ .raise "s" :: rest)).scene.deploys[0]? = some ended ∧
      ended.result? = some (.ok outcome) := ⟨_, _, rfl, rfl⟩
  have hwrites : stopped.writes = [] := by
    refine ((allOrNothing_run hstopped).stopped "s" readingEvents rest hsignal rfl ?_).1
    rintro before ⟨⟩
    rfl
  have hlate := raisedLate_of_writing rest (by simp [rest]) (by simp [rest])
  have hsame : (played (writingEvents ++ rest)).SameButRaised
      (played (writingEvents ++ .raise "s" :: rest)) :=
    (allOrNothing_run hended).undisturbed "s" hlate
  refine ⟨stopped, ended, outcome, hstopped, hcancelled, hwrites, hended, hok, ?_⟩
  rw [hsame] at hended
  exact hended

end Setting

end CallFlow
