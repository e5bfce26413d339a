import BrainMate.WriteRight.Closing

namespace BrainMate.WriteRight

open Interleaving System Program Ledger

/-- Besides, the `pending` of an enqueuing route comes before the end of the job. -/
def Orderly (ledger : Ledger) (client : Nat) (outcome : Outcome) (command : Command) : Bool :=
  Unbroken ledger client outcome command &&
    match command with
    | .redis (.hset jobId _) => decide (jobId ∉ ledger.ended)
    | _ => true

/-- Each job is enqueued once, and each command is orderly. Workers may crash, and what is
not excluded here may fail. -/
def InOrder (settings : Settings) (ledger : Ledger) (config : (jobQueue settings).Config)
    (move : (jobQueue settings).Move) : Prop :=
  EnqueuedOnce settings ledger config move ∧
    match move with
    | .act (.step client outcome) =>
      (config.threads client).next?.all (Orderly ledger client outcome) = true
    | _ => True

instance (settings : Settings) (ledger : Ledger) (config : (jobQueue settings).Config) :
    (move : (jobQueue settings).Move) → Decidable (InOrder settings ledger config move)
  | .act (.step client outcome) => inferInstanceAs (Decidable
      (EnqueuedOnce settings ledger config (.act (.step client outcome)) ∧
        (config.threads client).next?.all (Orderly ledger client outcome) = true))
  | .act (.start client made) => inferInstanceAs (Decidable
      (EnqueuedOnce settings ledger config (.act (.start client made)) ∧ True))
  | .act (.environment event) => inferInstanceAs (Decidable
      (EnqueuedOnce settings ledger config (.act (.environment event)) ∧ True))
  | .crash client => inferInstanceAs (Decidable
      (EnqueuedOnce settings ledger config (.crash client) ∧ True))

/-- The status of a job that is over stays so until it expires. -/
structure Over (settings : Settings) (ledger : Ledger) (world : World) : Prop where
  closed : Closed settings ledger world
  ceased : ∀ jobId ∈ ledger.ended, ∀ status, world.status? jobId = some status →
    status.terminal = true

variable {settings : Settings} {ledger : Ledger} {world : World} {client : Nat}
variable {command : Command} {outcome : Outcome} {jobId : String}

/-- Nobody writes the status of a job that is over. -/
theorem Closed.not_writes (closed : Closed settings ledger world)
    (allowed : Stage.Allowed settings (ledger.stages client) command)
    (timely : Orderly ledger client outcome command = true) (ended : jobId ∈ ledger.ended)
    (status : Status) : writes command ≠ some (jobId, status) := by
  intro written
  by_cases pending : status = .pending
  · rcases writes_cases allowed written with ⟨_, _, fields, rfl⟩ | ⟨job, own, shapes⟩
    · simp [Orderly, ended] at timely
    · subst pending
      simp at shapes
  · obtain ⟨job, opened, own⟩ := open_of_writes allowed written pending
    exact closed.not_open ended opened own

theorem Over.command_step (ceased : Over settings ledger world)
    (allowed : Stage.Allowed settings (ledger.stages client) command)
    (orderly : Orderly ledger client outcome command = true)
    (ended : jobId ∈ (noted settings ledger world client command outcome).ended) (status : Status)
    (found : (Command.exec outcome command world).2.status? jobId = some status) :
    status.terminal = true := by
  rcases ended_cases allowed ended with ⟨performed, written, terminal, given⟩ | old
  · rw [status?_exec allowed] at found
    simp only [performed, given, if_true, Option.some.injEq] at found
    exact found ▸ terminal
  · rw [status?_exec_unwritten allowed (ceased.closed.not_writes allowed orderly old)] at found
    exact ceased.ceased jobId old status found

/-- What has ended stays so in the ledger. -/
theorem ended_note {config : (jobQueue settings).Config} {next : (jobQueue settings).Config}
    {move : (jobQueue settings).Move} (moved : config.move? move = some next)
    (ended : jobId ∈ ledger.ended) :
    jobId ∈ ((Ledger.watcher settings).note ledger config move).ended := by
  obtain ⟨_, _, _, _, _, noted⟩ | ⟨_, _, _, _, _, _, _, _, noted⟩ | ⟨_, _, _, noted⟩ |
    ⟨_, _, _, noted⟩ := move?_cases (Ledger.watcher settings) ledger moved
  · rw [noted]
    exact ended
  · rw [noted]
    exact List.mem_append_right _ ended
  · rw [noted]
    exact ended
  · rw [noted]
    exact ended

private theorem over_keeps (settings : Settings) :
    (Ledger.phases settings).Keeps (InOrder settings) (Over settings) where
  follows _ _ _ call _ := Stage.program_follows settings call
  command ledger config client outcome call command rest permitted running allowed ceased := by
    obtain ⟨once, orderly⟩ := permitted
    simp only [running, Thread.next?, Option.all_some] at orderly
    have unbroken : Unbroken ledger client outcome command = true := by
      simp only [Orderly, Bool.and_eq_true] at orderly
      exact orderly.1
    exact ⟨ceased.closed.command_step once running allowed unbroken,
      fun _ => ceased.command_step allowed orderly⟩
  event ledger config event permitted ceased :=
    ⟨ceased.closed.event_step, fun jobId ended status found =>
      ceased.ceased jobId ended status (status?_event found)⟩
  crash ledger config client permitted ceased := ⟨ceased.closed.crash_step, ceased.ceased⟩

/-- Once a job is completed or failed, its status stays so until Redis drops it, when each
`pending` is written before its job ends and no exception reaches a worker between the
write of `completed` and the end of `_publish_result`. -/
theorem terminal_status_stays (settings : Settings) {world : World} (empty : world.jobs = [])
    (fresh : ∀ jobId, (world.status? jobId).any Status.terminal = false)
    {earlier later : List (jobQueue settings).Move} {ledger final : Ledger}
    {config last : (jobQueue settings).Config}
    (before : Watched (Ledger.watcher settings) (InOrder settings) .empty (.initial world) earlier
      ledger config) {jobId : String}
    (ceased : (config.world.status? jobId).any Status.terminal = true)
    (after : Watched (Ledger.watcher settings) (InOrder settings) ledger config later final last) :
    (last.world.status? jobId).all Status.terminal = true := by
  have initially : Over settings .empty world := ⟨.empty settings empty fresh, nofun⟩
  have middle : Over settings ledger config.world :=
    (over_keeps settings).run before (fun _ => rfl) initially
  have finally_ : Over settings final last.world :=
    (over_keeps settings).run (before.trans after) (fun _ => rfl) initially
  have still : jobId ∈ final.ended := by
    refine after.invariant (fun (ledger : Ledger) _ => jobId ∈ ledger.ended) ?_
      (middle.closed.known jobId ceased)
    exact fun _ _ _ _ _ => ended_note
  exact (Option.all_eq_true _ _).mpr fun status found => finally_.ceased jobId still status found

/-- The worker goes on after the write of `completed`, and is done with the sample job. -/
theorem completed_stays :
    ∃ ledger config final last,
      Watched (Ledger.watcher sampleSettings) (InOrder sampleSettings) .empty
        (.initial (World.empty 0)) (enqueuing 0 ++ completingRound 1 "w1") ledger config ∧
      (config.world.status? samplePayload.id).any Status.terminal = true ∧
      Watched (Ledger.watcher sampleSettings) (InOrder sampleSettings) ledger config (turns 1 6)
        final last ∧
      (last.world.status? samplePayload.id).all Status.terminal = true := by
  obtain ⟨ledger, config, before, checked⟩ := Watched.of_check (Ledger.watcher sampleSettings)
    (InOrder sampleSettings) .empty (.initial (World.empty 0))
    (enqueuing 0 ++ completingRound 1 "w1")
    (fun ledger config => (config.world.status? samplePayload.id).any Status.terminal &&
      (config.watch? (Ledger.watcher sampleSettings) (InOrder sampleSettings) ledger
        (turns 1 6)).any fun _ => true) (by decide +kernel)
  obtain ⟨ceased, checked⟩ := Bool.and_eq_true _ _ ▸ checked
  obtain ⟨final, last, after, _⟩ := Watched.of_check (Ledger.watcher sampleSettings)
    (InOrder sampleSettings) ledger config (turns 1 6) (fun _ _ => true) checked
  exact ⟨ledger, config, final, last, before, ceased, after,
    terminal_status_stays sampleSettings rfl (fun _ => rfl) before ceased after⟩

/-- Runs in which the sample job is completed first and has another status later. -/
def Reopened (earlier later : List (jobQueue sampleSettings).Move) (status : Status) : Prop :=
  ∃ ledger config final last,
    Watched (Ledger.watcher sampleSettings) (EnqueuedOnce sampleSettings) .empty
      (.initial (World.empty 0)) earlier ledger config ∧
    config.world.status? samplePayload.id = some .completed ∧
    Watched (Ledger.watcher sampleSettings) (EnqueuedOnce sampleSettings) ledger config later
      final last ∧
    last.world.status? samplePayload.id = some status

theorem Reopened.of_check (earlier later : List (jobQueue sampleSettings).Move) (status : Status)
    (evaluated : ((Config.initial (World.empty 0)).watch? (Ledger.watcher sampleSettings)
      (EnqueuedOnce sampleSettings) .empty earlier).any (fun middle =>
        decide (middle.2.world.status? samplePayload.id = some .completed) &&
        (middle.2.watch? (Ledger.watcher sampleSettings) (EnqueuedOnce sampleSettings) middle.1
          later).any fun reached =>
            decide (reached.2.world.status? samplePayload.id = some status)) = true) :
    Reopened earlier later status := by
  obtain ⟨⟨ledger, config⟩, before, checked⟩ := (Option.any_eq_true _ _).mp evaluated
  obtain ⟨ceased, checked⟩ := Bool.and_eq_true _ _ ▸ checked
  obtain ⟨⟨final, last⟩, after, lost⟩ := (Option.any_eq_true _ _).mp checked
  exact ⟨ledger, config, final, last, .of_watch? before, of_decide_eq_true ceased,
    .of_watch? after, of_decide_eq_true lost⟩

/-- The XADD of the result fails, and the handler puts the completed job back. Or the worker
takes the job and completes it before the enqueuing route writes `pending`. -/
theorem completed_job_reopened :
    Reopened (enqueuing 0 ++ completingRound 1 "w1")
      (.act (.step 1 (.failed false (.raised "connection reset"))) :: turns 1 2) .retrying ∧
    Reopened (.act (.start 0 (.enqueue samplePayload)) :: turns 0 3 ++ completingRound 1 "w1")
      (turns 0 1) .pending :=
  ⟨.of_check _ _ _ (by decide +kernel), .of_check _ _ _ (by decide +kernel)⟩

end BrainMate.WriteRight
