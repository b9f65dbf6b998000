import Launchpad.Proofs.Copy.Resolver
import Launchpad.Proofs.Copy.Unresolved

/-!
How a copy is found to be stale. The artifacts are dated one after the other, in any way that there
is to date them, up to the first that is newer than the copy or has no date; those behind it are
not dated. Where every artifact has a date this is a question about a set of dates: it does not
depend on the order of the artifacts, and more artifacts, newer ones or an older copy can turn the
answer from no to yes only.
-/

namespace Launchpad

open Results

namespace Timestamp

/-- A moment is newer than another by its whole seconds, or by the nanoseconds within the same
one. -/
def IsNewer (date moment : Timestamp) : Prop :=
  moment.seconds < date.seconds ∨
    moment.seconds = date.seconds ∧ moment.subsecond < date.subsecond

instance (date moment : Timestamp) : Decidable (date.IsNewer moment) :=
  inferInstanceAs (Decidable (_ ∨ _))

theorem lt_iff_isNewer {moment date : Timestamp} : moment < date ↔ date.IsNewer moment := by
  change moment.nanoseconds < date.nanoseconds ↔ _
  unfold IsNewer seconds subsecond
  omega

end Timestamp

/-- A way to date artifacts. Whoever is asked may do anything, and may answer otherwise the next
time. -/
abbrev Dating := String → Action Timestamp

/-- Dates that are known beforehand. -/
def Dating.answering (answers : String → Except Failure Timestamp) : Dating :=
  fun name => Action.ofExcept id (answers name)

/-- Dates that are read from the files. -/
def Resolver.dating (resolver : Resolver) : Dating := fun name => do
  Action.ofExcept id (resolver.modified (← Action.files) name)

namespace Copy

open Launchpad.Action

/-- The first artifact with a date behind a moment, each dated in its turn. -/
def firstNewerBy (dating : Dating) (moment : Timestamp) : List String → Action (Option String)
  | [] => return none
  | name :: rest => do
    let modified ← dating name
    if moment < modified then return some name else firstNewerBy dating moment rest

/-- Whether a copy has to be unpacked again, with any way to date its artifacts. -/
def needsRenewal (copy : Copy) (dating : Dating) : Action Bool := do
  let files ← Action.files
  if !files.pathExists copy.directory then
    Action.log .debug (copy.directory.text ++ " does not exist and needs to be extracted")
    return true
  else
    let moment ← Action.ofExcept id (Artifact.modifiedAt files copy.directory)
    match ← firstNewerBy dating moment copy.artifacts with
    | some name =>
      Action.log .debug (name ++ " needs to be extracted")
      return true
    | none => return false

variable {copy : Copy} {dating : Dating} {answers : String → Except Failure Timestamp}
  {moment : Timestamp} {names before : List String} {name : String} {w between w' : World}
  {outcome : Except Failure Bool}

/-! ### One artifact after the other -/

/-- Artifacts are dated in turn, and none of them is newer. -/
inductive Passes (dating : Dating) (moment : Timestamp) : List String → World → World → Prop where
  | nil (w : World) : Passes dating moment [] w w
  | cons {name : String} {rest : List String} {date : Timestamp} {w between w' : World}
      (hdate : (dating name).perform w = (.ok date, between)) (hold : ¬date.IsNewer moment)
      (hrest : Passes dating moment rest between w') : Passes dating moment (name :: rest) w w'

/-- The search goes on behind artifacts that are passed over. -/
theorem Passes.perform_append (h : Passes dating moment before w between) (rest : List String) :
    (firstNewerBy dating moment (before ++ rest)).perform w =
      (firstNewerBy dating moment rest).perform between := by
  induction h with
  | nil w => rfl
  | cons hdate hold _ ih =>
    rw [List.cons_append, firstNewerBy, perform_bind, hdate]
    simp only [Timestamp.lt_iff_isNewer, hold, if_false]
    exact ih

theorem Passes.perform_eq (h : Passes dating moment names w w') :
    (firstNewerBy dating moment names).perform w = (.ok none, w') := by
  have hall := h.perform_append []
  rw [List.append_nil] at hall
  rw [hall]
  rfl

theorem perform_firstNewerBy_of_newer {date : Timestamp} (after : List String)
    (hbefore : Passes dating moment before w between)
    (hdate : (dating name).perform between = (.ok date, w')) (hnewer : date.IsNewer moment) :
    (firstNewerBy dating moment (before ++ name :: after)).perform w = (.ok (some name), w') := by
  rw [hbefore.perform_append, firstNewerBy, perform_bind, hdate]
  simp only [Timestamp.lt_iff_isNewer, hnewer, if_true]
  rfl

theorem perform_firstNewerBy_of_failed {failure : Failure} (after : List String)
    (hbefore : Passes dating moment before w between)
    (hfailed : (dating name).perform between = (.error failure, w')) :
    (firstNewerBy dating moment (before ++ name :: after)).perform w = (.error failure, w') := by
  rw [hbefore.perform_append, firstNewerBy, perform_bind, hfailed]

/-- All artifacts are passed over, or there is a first that is newer or has no date. -/
theorem passes_or_exists_first (dating : Dating) (moment : Timestamp) (names : List String)
    (w : World) :
    (∃ w', Passes dating moment names w w') ∨
      ∃ before name after between, names = before ++ name :: after ∧
        Passes dating moment before w between ∧
        ((∃ date w', (dating name).perform between = (.ok date, w') ∧ date.IsNewer moment) ∨
          ∃ failure w', (dating name).perform between = (.error failure, w')) := by
  induction names generalizing w with
  | nil => exact .inl ⟨w, .nil w⟩
  | cons name rest ih =>
    rcases hasked : (dating name).perform w with ⟨answer, between⟩
    cases answer with
    | error failure => exact .inr ⟨[], name, rest, w, rfl, .nil w, .inr ⟨failure, between, hasked⟩⟩
    | ok date =>
      by_cases hnewer : date.IsNewer moment
      · exact .inr ⟨[], name, rest, w, rfl, .nil w, .inl ⟨date, between, hasked, hnewer⟩⟩
      · rcases ih between with ⟨w', hrest⟩ | ⟨before, first, after, w', rfl, hbefore, hfirst⟩
        · exact .inl ⟨w', .cons hasked hnewer hrest⟩
        · exact .inr ⟨name :: before, first, after, w', rfl, .cons hasked hnewer hbefore, hfirst⟩

/-! ### The question and its answer -/

theorem perform_needsRenewal_missing (h : w.files.pathExists copy.directory = false) :
    (copy.needsRenewal dating).perform w =
      (.ok true, w.record (.logged
        ⟨.debug, copy.directory.text ++ " does not exist and needs to be extracted", []⟩)) := by
  unfold needsRenewal
  simp only [perform_bind, perform_files, h, Bool.not_false, if_true, perform_log, perform_pure]

theorem perform_needsRenewal_there {l : Location} {e : Entry}
    (h : w.files.status copy.directory = .ok (l, e)) :
    (copy.needsRenewal dating).perform w =
      match (firstNewerBy dating e.modified copy.artifacts).perform w with
      | (.error failure, w') => (.error failure, w')
      | (.ok none, w') => (.ok false, w')
      | (.ok (some name), w') =>
        (.ok true, w'.record (.logged ⟨.debug, name ++ " needs to be extracted", []⟩)) := by
  have hthere := FileSystem.pathExists_eq_true_iff.mpr ⟨l, e, h⟩
  have hmoment : Artifact.modifiedAt w.files copy.directory = .ok e.modified := by
    rw [Artifact.modifiedAt, FileSystem.modified, h]
    rfl
  unfold needsRenewal
  simp only [perform_bind, perform_files, hthere, Bool.not_true, Bool.false_eq_true, if_false,
    perform_ofExcept, hmoment, mapError_id]
  rcases (firstNewerBy dating e.modified copy.artifacts).perform w with ⟨outcome, w'⟩
  cases outcome with
  | error failure => rfl
  | ok newer? => cases newer? <;> rfl

/-- How the question ends: its answer, and the world once it was asked. -/
inductive Decision (copy : Copy) (dating : Dating) (w : World) :
    Except Failure Bool → World → Prop where
  /-- There is no copy, and no artifact is dated. -/
  | missing (h : w.files.pathExists copy.directory = false) :
      Decision copy dating w (.ok true) (w.record (.logged
        ⟨.debug, copy.directory.text ++ " does not exist and needs to be extracted", []⟩))
  /-- Every artifact is dated, and none is newer than the copy. -/
  | current {l : Location} {e : Entry} {w' : World}
      (hthere : w.files.status copy.directory = .ok (l, e))
      (hall : Passes dating e.modified copy.artifacts w w') : Decision copy dating w (.ok false) w'
  /-- An artifact is newer than the copy, those in front are not, and those behind are not dated. -/
  | stale {l : Location} {e : Entry} {before after : List String} {name : String}
      {date : Timestamp} {between w' : World}
      (hthere : w.files.status copy.directory = .ok (l, e))
      (hsplit : copy.artifacts = before ++ name :: after)
      (hbefore : Passes dating e.modified before w between)
      (hdate : (dating name).perform between = (.ok date, w')) (hnewer : date.IsNewer e.modified) :
      Decision copy dating w (.ok true)
        (w'.record (.logged ⟨.debug, name ++ " needs to be extracted", []⟩))
  /-- An artifact has no date, those in front are no newer, and those behind are not dated. -/
  | failed {l : Location} {e : Entry} {before after : List String} {name : String}
      {failure : Failure} {between w' : World}
      (hthere : w.files.status copy.directory = .ok (l, e))
      (hsplit : copy.artifacts = before ++ name :: after)
      (hbefore : Passes dating e.modified before w between)
      (hfailed : (dating name).perform between = (.error failure, w')) :
      Decision copy dating w (.error failure) w'

theorem Decision.perform_eq (h : copy.Decision dating w outcome w') :
    (copy.needsRenewal dating).perform w = (outcome, w') := by
  cases h with
  | missing hmissing => exact perform_needsRenewal_missing hmissing
  | current hthere hall => rw [perform_needsRenewal_there hthere, hall.perform_eq]
  | stale hthere hsplit hbefore hdate hnewer =>
    rw [perform_needsRenewal_there hthere, hsplit,
      perform_firstNewerBy_of_newer _ hbefore hdate hnewer]
  | failed hthere hsplit hbefore hfailed =>
    rw [perform_needsRenewal_there hthere, hsplit,
      perform_firstNewerBy_of_failed _ hbefore hfailed]

theorem exists_decision (copy : Copy) (dating : Dating) (w : World) :
    ∃ outcome w', copy.Decision dating w outcome w' := by
  cases hstatus : w.files.status copy.directory with
  | error cause =>
    exact ⟨_, _, .missing (FileSystem.pathExists_of_status_error hstatus)⟩
  | ok there =>
    obtain ⟨l, e⟩ := there
    rcases passes_or_exists_first dating e.modified copy.artifacts w with
      ⟨w', hall⟩ | ⟨before, name, after, between, hsplit, hbefore, hfirst⟩
    · exact ⟨_, _, .current hstatus hall⟩
    · rcases hfirst with ⟨date, w', hdate, hnewer⟩ | ⟨failure, w', hfailed⟩
      · exact ⟨_, _, .stale hstatus hsplit hbefore hdate hnewer⟩
      · exact ⟨_, _, .failed hstatus hsplit hbefore hfailed⟩

theorem perform_needsRenewal_iff :
    (copy.needsRenewal dating).perform w = (outcome, w') ↔ copy.Decision dating w outcome w' := by
  constructor
  · intro h
    obtain ⟨outcome', w'', hdecision⟩ := exists_decision copy dating w
    have hsame := hdecision.perform_eq
    rw [h] at hsame
    cases hsame
    exact hdecision
  · exact Decision.perform_eq

/-! ### Ways to date that do nothing else -/

theorem perform_firstNewerBy (h : ∀ name, (dating name).perform w = (answers name, w))
    (moment : Timestamp) (names : List String) :
    (firstNewerBy dating moment names).perform w = (firstNewer answers moment names, w) := by
  induction names with
  | nil => rfl
  | cons name rest ih =>
    rw [firstNewerBy, firstNewer, perform_bind, h name]
    cases answers name with
    | error failure => rfl
    | ok date =>
      by_cases hnewer : moment < date
      · simp [hnewer]
      · simpa [hnewer] using ih

theorem perform_dating (resolver : Resolver) (name : String) (w : World) :
    (resolver.dating name).perform w = (resolver.modified w.files name, w) := by
  unfold Resolver.dating
  simp only [perform_bind, perform_files, perform_ofExcept, mapError_id]

theorem perform_answering (answers : String → Except Failure Timestamp) (name : String)
    (w : World) : (Dating.answering answers name).perform w = (answers name, w) := by
  rw [Dating.answering, perform_ofExcept, mapError_id]

/-- The question that the operations ask dates artifacts by the table of the configuration. -/
theorem isStale_eq_needsRenewal (copy : Copy) (c : Config) :
    copy.isStale c = copy.needsRenewal (Resolver.ofTable c).dating := by
  funext w
  change (copy.isStale c).perform w = (copy.needsRenewal (Resolver.ofTable c).dating).perform w
  cases hstatus : w.files.status copy.directory with
  | error cause =>
    have hmissing := FileSystem.pathExists_of_status_error hstatus
    rw [perform_needsRenewal_missing hmissing]
    unfold isStale
    simp only [perform_bind, perform_files, hmissing, Bool.not_false, if_true, perform_log,
      perform_pure]
  | ok there =>
    obtain ⟨l, e⟩ := there
    rw [perform_isStale_there hstatus, perform_needsRenewal_there hstatus,
      perform_firstNewerBy fun name => perform_dating (Resolver.ofTable c) name w]
    simp only [Resolver.ofTable]
    cases firstNewer (Artifact.modified c w.files) e.modified copy.artifacts with
    | error failure => rfl
    | ok newer? => cases newer? <;> rfl

/-! ### Artifacts that all have a date -/

/-- Every artifact has a date. -/
def IsDated (answers : String → Except Failure Timestamp) (names : List String) : Prop :=
  ∀ name ∈ names, ∃ date, answers name = .ok date

/-- The answer for dates that are known. -/
def verdict (copy : Copy) (answers : String → Except Failure Timestamp) (w : World) :
    Except Failure Bool :=
  ((copy.needsRenewal (.answering answers)).perform w).1

/-- There is no copy, or an artifact is newer. -/
def LooksStale (copy : Copy) (answers : String → Except Failure Timestamp) (w : World) : Prop :=
  ∀ l e, w.files.status copy.directory = .ok (l, e) →
    ∃ name ∈ copy.artifacts, ∃ date, answers name = .ok date ∧ date.IsNewer e.modified

theorem verdict_eq (h : IsDated answers copy.artifacts) (w : World) :
    ∃ stale, copy.verdict answers w = .ok stale ∧ (stale = true ↔ copy.LooksStale answers w) := by
  unfold verdict LooksStale
  cases hstatus : w.files.status copy.directory with
  | error cause =>
    have hmissing := FileSystem.pathExists_of_status_error hstatus
    rw [perform_needsRenewal_missing hmissing]
    exact ⟨true, rfl, by simp⟩
  | ok there =>
    obtain ⟨l, e⟩ := there
    rw [perform_needsRenewal_there hstatus,
      perform_firstNewerBy fun name => perform_answering answers name w]
    by_cases hnewer : ∃ name ∈ copy.artifacts, ∃ date, answers name = .ok date ∧ e.modified < date
    · obtain ⟨name, -, hfirst⟩ := firstNewer_eq_some [] h hnewer
      rw [List.append_nil] at hfirst
      rw [hfirst]
      simp only [Timestamp.lt_iff_isNewer] at hnewer
      refine ⟨true, rfl, fun _ => ?_, fun _ => rfl⟩
      rintro _ _ heq
      cases heq
      exact hnewer
    · have hnone : firstNewer answers e.modified copy.artifacts = .ok none := by
        refine firstNewer_eq_none.mpr fun name hname => ?_
        obtain ⟨date, hdate⟩ := h name hname
        exact ⟨date, hdate, fun hlater => hnewer ⟨name, hname, date, hdate, hlater⟩⟩
      rw [hnone]
      simp only [Timestamp.lt_iff_isNewer] at hnewer
      exact ⟨false, rfl, nofun, fun hstale => absurd (hstale l e rfl) hnewer⟩

/-- An answer can only turn from no to yes when less stands against it: the artifacts are more or
newer, or the copy is older. -/
theorem LooksStale.mono {copy' : Copy} {answers' : String → Except Failure Timestamp}
    (hdest : ∀ l' e', w'.files.status copy'.directory = .ok (l', e') →
      ∃ l e, w.files.status copy.directory = .ok (l, e) ∧ ¬e'.modified.IsNewer e.modified)
    (hartifacts : ∀ name ∈ copy.artifacts, ∀ date, answers name = .ok date →
      ∃ name' ∈ copy'.artifacts, ∃ date', answers' name' = .ok date' ∧ ¬date.IsNewer date')
    (h : copy.LooksStale answers w) : copy'.LooksStale answers' w' := by
  intro l' e' hthere'
  obtain ⟨l, e, hthere, holder⟩ := hdest l' e' hthere'
  obtain ⟨name, hname, date, hdate, hnewer⟩ := h l e hthere
  obtain ⟨name', hname', date', hdate', hlater⟩ := hartifacts name hname date hdate
  refine ⟨name', hname', date', hdate', ?_⟩
  rw [← Timestamp.lt_iff_isNewer] at holder hlater hnewer ⊢
  change ¬e.modified.nanoseconds < e'.modified.nanoseconds at holder
  change ¬date'.nanoseconds < date.nanoseconds at hlater
  change e.modified.nanoseconds < date.nanoseconds at hnewer
  change e'.modified.nanoseconds < date'.nanoseconds
  omega

/-- Two questions are answered, and the second with yes if the first is. -/
def AtMost (first second : Except Failure Bool) : Prop :=
  ∃ stale stale', first = .ok stale ∧ second = .ok stale' ∧ (stale = true → stale' = true)

theorem atMost_verdict {copy' : Copy} {answers' : String → Except Failure Timestamp}
    (hdated : IsDated answers copy.artifacts) (hdated' : IsDated answers' copy'.artifacts)
    (h : copy.LooksStale answers w → copy'.LooksStale answers' w') :
    AtMost (copy.verdict answers w) (copy'.verdict answers' w') := by
  obtain ⟨stale, hverdict, hstale⟩ := verdict_eq hdated w
  obtain ⟨stale', hverdict', hstale'⟩ := verdict_eq hdated' w'
  exact ⟨stale, stale', hverdict, hverdict', fun hyes => hstale'.mpr (h (hstale.mp hyes))⟩

theorem AtMost.antisymm {first second : Except Failure Bool} (h : AtMost first second)
    (h' : AtMost second first) : first = second := by
  obtain ⟨stale, stale', rfl, rfl, hyes⟩ := h
  obtain ⟨_, _, heq, heq', hyes'⟩ := h'
  cases heq
  cases heq'
  rw [Bool.eq_iff_iff.mpr ⟨hyes, hyes'⟩]

/-- The operations ask whether a copy is stale by one particular way to date artifacts. With any way
there is, the answer is settled by the first artifact that is newer than the copy or has no date,
and those behind it are not dated. Where all artifacts have a date, only the set of them counts;
more or newer artifacts can only make a copy stale, and a newer copy can only be current. -/
theorem first_settles_freshness (copy : Copy) (dating : Dating) (w : World)
    (answers : String → Except Failure Timestamp) :
    (∀ c, copy.isStale c = copy.needsRenewal (Resolver.ofTable c).dating) ∧
      (∀ outcome w', (copy.needsRenewal dating).perform w = (outcome, w') ↔
        copy.Decision dating w outcome w') ∧
      (IsDated answers copy.artifacts →
        (∀ names, (∀ name, name ∈ names ↔ name ∈ copy.artifacts) →
          Copy.verdict { copy with artifacts := names } answers w = copy.verdict answers w) ∧
        (∀ names answers', copy.artifacts ⊆ names → IsDated answers' names →
          (∀ name ∈ copy.artifacts, ∀ date date', answers name = .ok date →
            answers' name = .ok date' → ¬date.IsNewer date') →
          AtMost (copy.verdict answers w)
            (Copy.verdict { copy with artifacts := names } answers' w)) ∧
        (∀ w' l e l' e', w.files.status copy.directory = .ok (l, e) →
          w'.files.status copy.directory = .ok (l', e') → ¬e.modified.IsNewer e'.modified →
          AtMost (copy.verdict answers w') (copy.verdict answers w))) := by
  have hirrefl : ∀ date : Timestamp, ¬date.IsNewer date := by
    intro date hnewer
    exact absurd (Timestamp.lt_iff_isNewer.mpr hnewer) (Int.lt_irrefl date.nanoseconds)
  -- Each of the three comparisons is one way to meet the conditions of `LooksStale.mono`.
  refine ⟨copy.isStale_eq_needsRenewal, fun outcome w' => perform_needsRenewal_iff,
    fun hdated => ⟨fun names hnames => ?_, fun names answers' hmore hdated' hlater => ?_,
      fun w' l e l' e' hthere hthere' hlater => ?_⟩⟩
  · have hdated' : IsDated answers names := fun name hname => hdated name ((hnames name).mp hname)
    refine AtMost.antisymm (atMost_verdict hdated' hdated fun h => h.mono ?_ ?_)
      (atMost_verdict hdated hdated' fun h => h.mono ?_ ?_)
    · exact fun l e hthere => ⟨l, e, hthere, hirrefl _⟩
    · exact fun name hname date hdate =>
        ⟨name, (hnames name).mp hname, date, hdate, hirrefl date⟩
    · exact fun l e hthere => ⟨l, e, hthere, hirrefl _⟩
    · exact fun name hname date hdate =>
        ⟨name, (hnames name).mpr hname, date, hdate, hirrefl date⟩
  · refine atMost_verdict hdated hdated' fun h => h.mono ?_ ?_
    · exact fun l e hthere => ⟨l, e, hthere, hirrefl _⟩
    · intro name hname date hdate
      obtain ⟨date', hdate'⟩ := hdated' name (hmore hname)
      exact ⟨name, hmore hname, date', hdate', hlater name hname date date' hdate hdate'⟩
  · refine atMost_verdict hdated hdated fun h => h.mono ?_ ?_
    · rintro _ _ heq
      cases hthere.symm.trans heq
      exact ⟨l', e', hthere', hlater⟩
    · exact fun name hname date hdate => ⟨name, hname, date, hdate, hirrefl date⟩

/-- A working directory with a copy in it. -/
def besideCopy : World :=
  { files :=
      { entries :=
          [([], ⟨0, .directory, directoryMode, ⟨0⟩⟩),
            (.ofTexts ["d"], ⟨1, .directory, directoryMode, .ofParts 9 5⟩)]
        nextSerial := 2
        now := .ofParts 10 0
        here := [] } }

/-- An archive from before the copy and one from the nanosecond after it. -/
def twoDates : String → Except Failure Timestamp
  | "A" => .ok (.ofParts 8 900)
  | "B" => .ok (.ofParts 9 6)
  | name => .error (.unknownArtifact name)

/-- The newer archive makes the copy stale wherever it stands and however often; a name that leads
nowhere comes to light only where it stands in front of that archive. -/
theorem newer_archive_settles_freshness :
    IsDated twoDates ["A", "B"] ∧
      verdict ⟨.ofText "d", ["B", "A", "B"]⟩ twoDates besideCopy =
        verdict ⟨.ofText "d", ["A", "B"]⟩ twoDates besideCopy ∧
      verdict ⟨.ofText "d", ["A", "B", "C"]⟩ twoDates besideCopy = .ok true ∧
      verdict ⟨.ofText "d", ["A", "C", "B"]⟩ twoDates besideCopy =
        .error (.unknownArtifact "C") := by
  have hdated : IsDated twoDates ["A", "B"] := by
    intro name hname
    rcases List.mem_cons.mp hname with rfl | hname
    · exact ⟨_, rfl⟩
    · rw [List.mem_singleton.mp hname]
      exact ⟨_, rfl⟩
  have hthere : besideCopy.files.status (.ofText "d") =
      .ok (.ofTexts ["d"], ⟨1, .directory, directoryMode, .ofParts 9 5⟩) := by cbv
  have hold : Passes (.answering twoDates) (.ofParts 9 5) ["A"] besideCopy besideCopy :=
    .cons rfl (by decide) (.nil _)
  obtain ⟨-, -, hknown⟩ := first_settles_freshness ⟨.ofText "d", ["A", "B"]⟩
    (.answering twoDates) besideCopy twoDates
  obtain ⟨-, hsettled, -⟩ := first_settles_freshness ⟨.ofText "d", ["A", "B", "C"]⟩
    (.answering twoDates) besideCopy twoDates
  obtain ⟨-, hfailed, -⟩ := first_settles_freshness ⟨.ofText "d", ["A", "C", "B"]⟩
    (.answering twoDates) besideCopy twoDates
  refine ⟨hdated, (hknown hdated).1 ["B", "A", "B"] (by simp), ?_, ?_⟩
  · exact congrArg Prod.fst
      ((hsettled _ _).mpr (.stale hthere rfl hold rfl (by decide)))
  · exact congrArg Prod.fst ((hfailed _ _).mpr (.failed hthere rfl hold rfl))

end Copy

end Launchpad
