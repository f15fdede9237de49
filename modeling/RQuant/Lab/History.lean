import RQuant.Lab.Transactions

/-!
# Lab jobs: the event log

The events of a job replay to its state: they carry the versions from zero to
the version of the job, one each, and each starts from the status that the one
before it left.
-/

namespace RQuant.Lab

open Foundation
open List hiding after next count minimum

structure Replays (events : List EventRow) (version : ℕ) (status : JobStatus) : Prop where
  /-- Each version from zero on occurs once. -/
  versions : events.map EventRow.jobVersion = range (version + 1)
  submission : ∃ first rest, events = first :: rest ∧
    first.eventType = "job_submitted" ∧ first.priorStatus = none ∧
    first.newStatus = .queued
  /-- Each later event starts where the one before it ended. -/
  chained : events.IsChain fun earlier later => later.priorStatus = some earlier.newStatus
  /-- The last event ends in the status of the job. -/
  last : (events.getLast?).map EventRow.newStatus = some status

variable {event : EventRow}

variable {row : JobRow} {next : JobGraph}

theorem replays_of_submission (logged : LogsSubmission event row) : Replays [event] 0 .queued where
  versions := by simp [logged.version]
  submission := ⟨event, [], rfl, logged.type, logged.priorStatus, logged.newStatus⟩
  chained := isChain_singleton event
  last := by simp [logged.newStatus]

theorem Replays.concat (replays : Replays events version status)
    (prior : event.priorStatus = some status)
    (next : event.jobVersion = version + 1) :
    Replays (events ++ [event]) (version + 1) event.newStatus where
  versions := by
    rw [map_append, replays.versions, map_singleton, next, ← range_succ]
  submission := by
    obtain ⟨first, rest, rfl, submitted⟩ := replays.submission
    exact ⟨first, rest ++ [event], rfl, submitted⟩
  chained := by
    refine replays.chained.append (isChain_singleton event) ?_
    intro _ isLast later isHead
    have same : event = later := by simpa using isHead
    have reached := replays.last
    rw [Option.mem_def.mp isLast, Option.map_some, Option.some_inj] at reached
    rw [← same, prior, reached]
  last := by simp

/-- The log is faithful: every event belongs to a job, and the events of each
job replay to it. -/
structure Faithful (graph : JobGraph) : Prop where
  owned : ∀ event ∈ graph.events, event.jobId ∈ graph.jobs.map JobRow.jobId
  replays : ∀ job ∈ graph.jobs, Replays (graph.eventsOf job.jobId) job.version job.status

namespace Faithful

variable {graph : JobGraph} {event : EventRow} {jobId : Uuid} {new old : JobRow}

theorem eventsOf_addEvent (same : event.jobId = jobId) :
    (graph.addEvent event).eventsOf jobId = graph.eventsOf jobId ++ [event] := by
  unfold JobGraph.eventsOf JobGraph.addEvent
  rw [filter_append, filter_cons_of_pos (by simp [same]), filter_nil]

theorem eventsOf_addEvent_of_ne (different : event.jobId ≠ jobId) :
    (graph.addEvent event).eventsOf jobId = graph.eventsOf jobId := by
  unfold JobGraph.eventsOf JobGraph.addEvent
  rw [filter_append, filter_cons_of_neg (by simp [different]), filter_nil, append_nil]

theorem eventsOf_eq_nil (faithful : Faithful graph) (fresh : jobId ∉ graph.jobs.map JobRow.jobId) :
    graph.eventsOf jobId = [] :=
  filter_of_none fun event mem same => fresh (same ▸ faithful.owned event mem)

theorem submitted (faithful : Faithful graph) (fresh : row.jobId ∉ graph.jobs.map JobRow.jobId)
    (version : row.version = 0) (status : row.status = .queued)
    (logged : LogsSubmission event row) :
    Faithful ((graph.addJob row fresh).addEvent event) := by
  constructor
  · intro other mem
    change other.jobId ∈ (graph.jobs ++ [row]).map JobRow.jobId
    rw [map_append, mem_append]
    rcases mem_append.mp mem with earlier | last
    · exact .inl (faithful.owned other earlier)
    · rw [mem_singleton.mp last, logged.job]
      exact .inr (by simp)
  · intro job mem
    rcases mem_append.mp mem with earlier | last
    · have different : event.jobId ≠ job.jobId := by
        rw [logged.job]
        intro same
        exact fresh (same ▸ mem_map_of_mem earlier)
      rw [eventsOf_addEvent_of_ne different]
      exact faithful.replays job earlier
    · rw [mem_singleton.mp last, eventsOf_addEvent logged.job, version, status]
      have none : (graph.addJob row fresh).eventsOf row.jobId = [] := faithful.eventsOf_eq_nil fresh
      rw [none]
      exact replays_of_submission logged

theorem jobIds_setJob : (graph.setJob new).jobs.map JobRow.jobId = graph.jobs.map JobRow.jobId :=
  graph.jobIds_updateKey new

section

variable (faithful : Faithful graph)

include faithful

theorem setJob (found : graph.jobRow new.jobId = some old)
    (version : new.version = old.version) (status : new.status = old.status) :
    Faithful (graph.setJob new) := by
  obtain ⟨oldMem, sameId⟩ := JobGraph.mem_of_jobRow found
  constructor
  · intro event mem
    rw [jobIds_setJob]
    exact faithful.owned event mem
  · intro job mem
    rcases JobGraph.mem_setJob mem with rfl | ⟨earlier, -⟩
    · rw [version, status, ← sameId]
      exact faithful.replays old oldMem
    · exact faithful.replays job earlier

theorem jobMoved (found : graph.jobRow new.jobId = some old) (moved : JobMove old new)
    (logged : Logs event old new) :
    Faithful ((graph.setJob new).addEvent event) := by
  obtain ⟨oldMem, sameId⟩ := JobGraph.mem_of_jobRow found
  constructor
  · intro other mem
    change other.jobId ∈ (graph.setJob new).jobs.map JobRow.jobId
    rw [jobIds_setJob]
    rcases mem_append.mp mem with earlier | last
    · exact faithful.owned other earlier
    · rw [mem_singleton.mp last, logged.job, ← sameId]
      exact mem_map_of_mem oldMem
  · intro job mem
    rcases JobGraph.mem_setJob mem with rfl | ⟨earlier, different⟩
    · rw [eventsOf_addEvent logged.job, moved.version, ← logged.newStatus]
      refine Replays.concat ?_ logged.priorStatus (logged.version.trans moved.version)
      rw [← sameId]
      exact faithful.replays old oldMem
    · rw [eventsOf_addEvent_of_ne (logged.job ▸ different.symm)]
      exact faithful.replays job earlier

theorem congr (jobs : next.jobs = graph.jobs) (events : next.events = graph.events) :
    Faithful next := by
  constructor
  · rw [jobs, events]
    exact faithful.owned
  · unfold JobGraph.eventsOf
    rw [jobs, events]
    exact faithful.replays

theorem move (moved : Move digests graph emitted next) : Faithful next := by
  cases moved with
  | submitted jobId spec maxAttempts now fresh _ logged =>
    exact faithful.submitted fresh rfl rfl logged
  | @planned job now definitions fresh found =>
    have bound : Faithful (graph.setJob job.planned) := faithful.setJob found rfl rfl
    exact bound.congr rfl rfl
  | jobMoved authorization found move _ logged => exact faithful.jobMoved found move logged
  | shardsMoved keeps | claimed keeps | succeeded keeps | committed fresh | published row =>
    exact faithful.congr rfl rfl
  | @readied change _ _ _ _ _ keeps _ _ _ _ found move _ _ logged =>
    have changed : Faithful (graph.mapShards change keeps) := faithful.congr rfl rfl
    exact changed.jobMoved found move logged
  | @sealed _ _ _ artifact _ fresh _ _ _ found move _ logged =>
    have indexed : Faithful (graph.addArtifact artifact fresh) := faithful.congr rfl rfl
    exact indexed.jobMoved found move logged

end

end Faithful

/-- In every run the events of every job replay to its stored state. -/
theorem events_replay_to_job (digests : LabDigests) (calls : List LabCall) :
    ∀ job ∈ (LabSystem.run digests calls).ledger.jobs,
      Replays ((LabSystem.run digests calls).ledger.eventsOf job.jobId) job.version job.status := by
  have faithful : Faithful (LabSystem.run digests calls).ledger.toJobGraph := by
    refine LabSystem.resume_keeps (fun holds moved => holds.move moved) ?_ calls
    exact ⟨by simp [LabSystem.initial, Ledger.empty, JobGraph.empty],
      by simp [LabSystem.initial, Ledger.empty, JobGraph.empty]⟩
  exact faithful.replays

/-- The job is submitted, started with its first claim and asked to stop. -/
theorem events_replay_to_cancelled_job :
    let run := LabSystem.run blankDigests
      (claimedCalls ++ [.applyCommand ⟨8, .cancel 5 1 "stop"⟩ (tenSecondLease 1 1 0) 4 none])
    ∃ job ∈ run.ledger.jobs, (run.ledger.eventsOf job.jobId).length = 3 ∧
      Replays (run.ledger.eventsOf job.jobId) job.version job.status := by
  intro run
  have logged : ∀ job ∈ run.ledger.jobs, (run.ledger.eventsOf job.jobId).length = 3 := by
    decide +kernel
  obtain ⟨job, mem⟩ : ∃ job, job ∈ run.ledger.jobs := exists_mem_of_ne_nil _ (by decide +kernel)
  exact ⟨job, mem, logged job mem, events_replay_to_job _ _ job mem⟩

end RQuant.Lab
