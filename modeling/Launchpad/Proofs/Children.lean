import Launchpad.Proofs.Actions

/-!
What the children of an action come to. A journal shows when a child was started and with which
status it ended. The rules here follow the way an action is built, and say two things of it at once:
no child is started behind one that ended with a status other than zero, and the answer of the
action, or its failure, tells that status.
-/

namespace Launchpad

/-- The status of the child that is the cause of a failure; zero for every other cause. -/
def Failure.childStatus : Failure → Int
  | .child _ status => status
  | _ => 0

/-- An event in which no child starts or ends. -/
def Event.isAside : Event → Bool
  | .logged _ => true
  | .called _ _ => false
  | .ended _ => false
  | .wrote _ _ => true

/-- What is asked of an executor. The status of a child is a byte, and a child that cannot be
started is told from one that ended. -/
structure Executor.TellsEnds (executor : Executor) : Prop where
  ended : ∀ {mode command w status caught},
    (executor.respond mode command w).outcome = .ok (status, caught) → 0 ≤ status ∧ status < 256
  failed : ∀ {mode command w failure},
    (executor.respond mode command w).outcome = .error failure → failure.childStatus = 0

/-- What the children of a journal came to. It is zero as long as each of them ended with zero; the
first other status stands, and no child is started behind it. -/
inductive CameTo : List Event → Int → Prop where
  | start : CameTo [] 0
  | aside {journal : List Event} {status : Int} {event : Event} (h : CameTo journal status)
      (haside : event.isAside = true) : CameTo (journal ++ [event]) status
  | called {journal : List Event} (h : CameTo journal 0) (mode : CallMode) (command : Command) :
      CameTo (journal ++ [.called mode command]) 0
  | ended {journal : List Event} {status : Int} (h : CameTo journal 0)
      (hbyte : 0 ≤ status ∧ status < 256) : CameTo (journal ++ [.ended status]) status

namespace CameTo

variable {journal before after : List Event} {status : Int}

theorem asides (h : CameTo journal status) {events : List Event}
    (hasides : ∀ event ∈ events, event.isAside = true) : CameTo (journal ++ events) status := by
  induction events generalizing journal with
  | nil => simpa using h
  | cons event rest ih =>
    obtain ⟨hevent, hrest⟩ := List.forall_mem_cons.mp hasides
    simpa using ih (h.aside hevent) hrest

theorem byte (h : CameTo journal status) : 0 ≤ status ∧ status < 256 := by
  induction h with
  | start => decide
  | aside _ _ ih => exact ih
  | called _ _ _ ih => exact ih
  | ended _ hbyte => exact hbyte

theorem eq_zero_iff (h : CameTo journal status) :
    status = 0 ↔ ∀ c, Event.ended c ∈ journal → c = 0 := by
  induction h with
  | start => simp
  | @aside _ _ event _ haside ih =>
    have hother : ∀ c, Event.ended c ≠ event := by
      rintro c rfl
      cases haside
    simp [ih, hother]
  | called _ _ _ ih => simpa using ih
  | ended _ _ ih =>
    simp only [true_iff] at ih
    constructor
    · rintro rfl c hc
      rcases List.mem_append.mp hc with hc | hc
      · exact ih c hc
      · cases List.mem_singleton.mp hc
        rfl
    · intro hall
      exact hall _ (List.mem_append_right _ List.mem_cons_self)

/-- Where a list with one more event is split at an event, it is split at the last, or before. -/
theorem split_concat {event split : Event} (h : journal ++ [event] = before ++ split :: after) :
    (after = [] ∧ event = split) ∨
      ∃ rest, after = rest ++ [event] ∧ journal = before ++ split :: rest := by
  rcases after.eq_nil_or_concat with rfl | ⟨rest, last, rfl⟩
  · obtain ⟨-, hevent⟩ := List.append_inj' h rfl
    exact .inl ⟨rfl, List.singleton_inj.mp hevent⟩
  · rw [List.concat_eq_append, ← List.cons_append, ← List.append_assoc] at h
    obtain ⟨hjournal, hevent⟩ := List.append_inj' h rfl
    rw [List.singleton_inj.mp hevent]
    exact .inr ⟨rest, List.concat_eq_append, hjournal⟩

/-- The first status other than zero is what the children came to, and the last that was heard of
any child. -/
theorem of_ended (h : CameTo journal status) {c : Int}
    (hsplit : journal = before ++ .ended c :: after) (hc : c ≠ 0) : status = c ∧ ∀ mode command, Event.called mode command ∉ after := by
  induction h generalizing after with
  | start => simp at hsplit
  | @aside _ _ event _ haside ih =>
    rcases split_concat hsplit with ⟨-, rfl⟩ | ⟨rest, rfl, hjournal⟩
    · cases haside
    · obtain ⟨hstatus, hnone⟩ := ih hjournal
      have hother : ∀ mode command, Event.called mode command ≠ event := by
        rintro mode command rfl
        cases haside
      exact ⟨hstatus, fun mode command => by simp [hnone, hother]⟩
  | called _ _ _ ih =>
    -- A child is started only behind children that all ended with zero.
    rcases split_concat hsplit with ⟨-, hevent⟩ | ⟨rest, -, hjournal⟩
    · cases hevent
    · exact absurd (ih hjournal).1.symm hc
  | ended _ _ ih =>
    rcases split_concat hsplit with ⟨rfl, hevent⟩ | ⟨rest, -, hjournal⟩
    · cases hevent
      exact ⟨rfl, by simp⟩
    · exact absurd (ih hjournal).1.symm hc

end CameTo

namespace Action

variable {α β : Type} {status : Int}

/-- An action is done behind children that came to some status, and whatever it answers is what all
children came to, together with its own. A failure tells that as well. -/
structure Tells (a : Action α) (status : Int) (verdict : α → Int → Prop) : Prop where
  ok : ∀ {w x w'}, CameTo w.journal status → a.perform w = (.ok x, w') →
    ∃ total, CameTo w'.journal total ∧ verdict x total
  error : ∀ {w failure w'}, CameTo w.journal status → a.perform w = (.error failure, w') →
    CameTo w'.journal failure.childStatus

/-- No child of an action changes what the children came to. -/
def Keeps (a : Action α) (status : Int) : Prop :=
  a.Tells status fun _ total => total = status

namespace Tells

variable {verdict : α → Int → Prop}

theorem imp {a : Action α} {verdict' : α → Int → Prop} (ha : a.Tells status verdict)
    (h : ∀ x total, verdict x total → verdict' x total) : a.Tells status verdict' where
  ok hw hx := by
    obtain ⟨total, htotal, hverdict⟩ := ha.ok hw hx
    exact ⟨total, htotal, h _ _ hverdict⟩
  error := ha.error

theorem pure {x : α} (h : verdict x status) : (Pure.pure x : Action α).Tells status verdict where
  ok hw hx := by
    cases hx
    exact ⟨status, hw, h⟩
  error _ hfailure := by cases hfailure

theorem throw {failure : Failure} (h : failure.childStatus = status) :
    (MonadExcept.throw failure : Action α).Tells status verdict where
  ok _ hx := by cases hx
  error hw hfailure := by
    cases hfailure
    exact h.symm ▸ hw

theorem bind {a : Action α} {next : α → Action β} {verdict' : β → Int → Prop}
    (ha : a.Tells status verdict)
    (hnext : ∀ x total, verdict x total → (next x).Tells total verdict') :
    (a >>= next).Tells status verdict' where
  ok hw hy := by
    obtain ⟨x, between, hx, hy⟩ := perform_bind_ok.mp hy
    obtain ⟨total, htotal, hverdict⟩ := ha.ok hw hx
    exact (hnext x total hverdict).ok htotal hy
  error hw hfailure := by
    rcases perform_bind_error.mp hfailure with hfailure | ⟨x, between, hx, hfailure⟩
    · exact ha.error hw hfailure
    · obtain ⟨total, htotal, hverdict⟩ := ha.ok hw hx
      exact (hnext x total hverdict).error htotal hfailure

/-- What is done first may be passed over when it keeps what the children came to. -/
theorem past {a : Action α} {next : α → Action β} {verdict' : β → Int → Prop} (ha : a.Keeps status)
    (hnext : ∀ x, (next x).Tells status verdict') : (a >>= next).Tells status verdict' := by
  refine ha.bind fun x total htotal => ?_
  rw [htotal]
  exact hnext x

/-- Behind a failure nothing is done. -/
theorem throw_bind {failure : Failure} {next : α → Action β} {verdict : β → Int → Prop}
    (h : failure.childStatus = status) :
    (MonadExcept.throw failure >>= next).Tells status verdict :=
  bind (throw h) fun _ _ (hnever : False) => hnever.elim

/-- Whoever catches a failure goes on behind the child that is its cause. -/
theorem tryCatch {a : Action α} {handle : Failure → Action α} (ha : a.Tells status verdict)
    (hhandle : ∀ failure, (handle failure).Tells failure.childStatus verdict) :
    (MonadExcept.tryCatch a handle).Tells status verdict := by
  constructor
  · intro w x w' hw hx
    rw [perform_tryCatch] at hx
    rcases hperform : a.perform w with ⟨outcome, between⟩
    rw [hperform] at hx
    cases outcome with
    | ok y =>
      cases hx
      exact ha.ok hw hperform
    | error failure => exact (hhandle failure).ok (ha.error hw hperform) hx
  · intro w failure' w' hw hfailure
    rw [perform_tryCatch] at hfailure
    rcases hperform : a.perform w with ⟨outcome, between⟩
    rw [hperform] at hfailure
    cases outcome with
    | ok y => cases hfailure
    | error failure => exact (hhandle failure).error (ha.error hw hperform) hfailure

/-- A child tells the status with which it ended. -/
theorem call {executor : Executor} (h : executor.TellsEnds) (mode : CallMode) (command : Command) :
    (executor.call mode command).Tells 0 fun answer total => total = answer.1 := by
  have hheard : ∀ {w : World}, CameTo w.journal 0 →
      CameTo (w.journal ++ [.called mode command] ++ (executor.respond mode command w).output.map
        (fun written => Event.wrote written.1 written.2)) 0 := by
    intro w hw
    refine (hw.called mode command).asides fun event hevent => ?_
    obtain ⟨_, -, rfl⟩ := List.mem_map.mp hevent
    rfl
  constructor
  · intro w answer w' hw hanswer
    rw [perform_call, Prod.mk.injEq] at hanswer
    obtain ⟨houtcome, rfl⟩ := hanswer
    refine ⟨answer.1, ?_, rfl⟩
    simp only [houtcome]
    exact (hheard hw).ended (h.ended houtcome)
  · intro w failure w' hw hfailure
    rw [perform_call, Prod.mk.injEq] at hfailure
    obtain ⟨houtcome, rfl⟩ := hfailure
    simp only [houtcome, List.append_nil]
    exact (h.failed houtcome).symm ▸ hheard hw

end Tells

namespace Keeps

theorem pure (x : α) : (Pure.pure x : Action α).Keeps status :=
  Tells.pure rfl

theorem bind {a : Action α} {next : α → Action β} (ha : a.Keeps status)
    (hnext : ∀ x, (next x).Keeps status) : (a >>= next).Keeps status :=
  Tells.past ha hnext

theorem files : Action.files.Keeps status where
  ok hw hx := by
    cases hx
    exact ⟨status, hw, rfl⟩
  error _ hfailure := by cases hfailure

/-- An action that only records an event in which no child starts or ends. -/
theorem records {a : Action α} {x : α} {event : Event} (haside : event.isAside = true)
    (h : ∀ w, a.perform w = (.ok x, w.record event)) : a.Keeps status where
  ok hw hx := by
    rw [h] at hx
    cases hx
    exact ⟨status, hw.aside haside, rfl⟩
  error _ hfailure := by
    rw [h] at hfailure
    cases hfailure

theorem log (level : Level) (message : String) (fields : List (String × FieldValue)) :
    (Action.log level message fields).Keeps status :=
  records rfl fun _ => rfl

theorem print (stream : Stream) (text : String) : (Action.print stream text).Keeps status :=
  records rfl fun _ => rfl

theorem ofExcept {ε : Type} {asFailure : ε → Failure} {answer : Except ε α}
    (h : ∀ e, answer = .error e → (asFailure e).childStatus = 0) :
    (Action.ofExcept asFailure answer).Keeps 0 := by
  cases answer with
  | ok x => exact pure x
  | error e => exact Tells.throw (h e rfl)

theorem change {step : FileSystem → Except IoError Unit × FileSystem}
    {asFailure : IoError → Failure} (h : ∀ e, (asFailure e).childStatus = 0) :
    (Action.change step asFailure).Keeps 0 := by
  constructor
  · intro w x w' hw hx
    rw [perform_change, Prod.mk.injEq] at hx
    obtain ⟨-, rfl⟩ := hx
    exact ⟨0, hw, rfl⟩
  · intro w failure w' hw hfailure
    rw [perform_change, Prod.mk.injEq] at hfailure
    obtain ⟨houtcome, rfl⟩ := hfailure
    obtain ⟨e, -, rfl⟩ := Results.mapError_eq_error.mp houtcome
    exact (h e).symm ▸ hw

theorem forIn {ι : Type} {body : ι → PUnit → Action (ForInStep PUnit)} (items : List ι)
    (h : ∀ item, (body item ⟨⟩).Keeps status) : (ForIn.forIn items ⟨⟩ body).Keeps status := by
  induction items with
  | nil => exact pure _
  | cons item rest ih =>
    rw [List.forIn_cons]
    refine bind (h item) fun next => ?_
    cases next with
    | done => exact pure _
    | yield => exact ih

end Keeps

end Action

end Launchpad
