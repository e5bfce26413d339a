import BrainMate.WriteRight.SingleDispatch
import BrainMate.WriteRight.Statuses

namespace BrainMate.WriteRight

open Interleaving System Program Ledger

/-- The caller sees an exception. -/
def Outcome.raises : Outcome → Bool
  | .failed _ .cancelled => false
  | .failed _ _ => true
  | .ok | .drafted _ _ => false

/-- No exception interrupts a worker from the write of `completed` to the end of
`_publish_result`. -/
def Unbroken (ledger : Ledger) (client : Nat) (outcome : Outcome) (command : Command) : Bool :=
  match ledger.stages client, command with
  | .drafted _ _, .redis (.setStatus _ _ _) => !(outcome.raises && Command.performed outcome)
  | .completed _ _, .redis (.xadd _ _) | .published _ _, .redis (.expireStream _ _) =>
    !outcome.raises
  | _, _ => true

/-- Once a job is over, the only worker that may still have it in hand is the one that
ended it. -/
structure Closed (settings : Settings) (ledger : Ledger) (world : World) : Prop where
  sound : Sound settings ledger world
  known : ∀ jobId, (world.status? jobId).any Status.terminal = true → jobId ∈ ledger.ended
  shut : ∀ jobId ∈ ledger.ended, ∀ place ∈ places ledger world jobId,
    ∃ client, place = .held client ∧ (ledger.stages client).open? = none
  put : ∀ jobId ∈ ledger.ended, jobId ∈ ledger.put

variable {settings : Settings} {ledger : Ledger} {world : World} {client : Nat}
variable {command : Command} {outcome : Outcome} {jobId : String}

variable (world) in
/-- A worker with an open job has it in hand. -/
theorem placed_of_open {job : WritingJob} (opened : (ledger.stages client).open? = some job) :
    ∃ spent, Placed ledger world (.held client) job spent := by
  simp only [Placed]
  generalize ledger.stages client = stage at opened
  cases stage with
  | holds | started | drafted =>
    cases opened
    exact ⟨_, rfl⟩
  | _ => cases opened

theorem open_of_inHand {stage : Stage} {job : WritingJob} (inHand : Stage.InHand job stage) :
    stage.open? = some job := by
  cases inHand <;> rfl

/-- The ids a command ends are those whose status it writes as completed or failed. -/
theorem mem_ends_iff (allowed : Stage.Allowed settings (ledger.stages client) command) :
    jobId ∈ Ledger.ends command ↔
      ∃ status, status.terminal = true ∧ writes command = some (jobId, status) := by
  constructor
  · intro ended
    rcases command with _ | _ | _ | _ | _ | redis | _ | _
    · cases ended
    · cases ended
    · cases ended
    · cases ended
    · cases ended
    · cases redis with
      | setStatus written fields ttlSecs =>
        simp only [Ledger.ends] at ended
        split at ended
        · rename_i terminal
          obtain ⟨status, given, terminal⟩ := (Option.any_eq_true _ _).mp terminal
          cases List.mem_singleton.mp ended
          exact ⟨status, terminal, by simp [writes, given]⟩
        · cases ended
      | _ => cases ended
    · cases ended
    · cases ended
  · rintro ⟨status, terminal, written⟩
    generalize ledger.stages client = stage at allowed
    cases allowed with
    | pend jobId fields pending =>
      simp only [writes, pending, Option.map_some, Option.some.injEq, Prod.mk.injEq] at written
      obtain ⟨_, rfl⟩ := written
      cases terminal
    | process | retry =>
      cases written
      cases terminal
    | complete | giveUp =>
      cases written
      exact List.mem_singleton.mpr rfl
    | aside isApart =>
      rw [writes_apart isApart] at written
      cases written
    | _ => cases written

/-- A worker that writes the status of a job has it open. -/
theorem open_of_writes (allowed : Stage.Allowed settings (ledger.stages client) command)
    {status : Status} (written : writes command = some (jobId, status))
    (worker : status ≠ .pending) :
    ∃ job, (ledger.stages client).open? = some job ∧ job.id = jobId := by
  rcases writes_cases allowed written with ⟨pending, _⟩ | ⟨job, own, shapes⟩
  · exact absurd pending worker
  · refine ⟨job, ?_, own⟩
    rcases shapes with ⟨_, holds⟩ | ⟨_, inHand⟩ | ⟨_, inHand⟩ | ⟨_, result, drafted⟩
    · rw [holds]
      rfl
    · exact open_of_inHand inHand
    · exact open_of_inHand inHand
    · rw [drafted]
      rfl

theorem mem_jobs_zadd {member added : Member} {scored score : Nat}
    (stored : (member, scored) ∈
      (Command.exec outcome (.redis (.zadd added score)) world).2.jobs) :
    member = added ∨ (member, scored) ∈ world.jobs := by
  simp only [Command.exec] at stored
  split at stored
  · exact (World.mem_zadd.mp stored).imp And.left And.left
  · exact .inr stored

/-- The job a worker has in hand after a command it had before, or it was queued. -/
theorem credit_advance (allowed : Stage.Allowed settings (ledger.stages client) command)
    {job : WritingJob} {spent : Bool}
    (after : ((ledger.stages client).advance command
      (Command.exec outcome command world).1).credit = some (job, spent)) :
    (∃ earlier, Placed ledger world (.held client) job earlier) ∨
    (∃ member, Placed ledger world (.queued member) job false) := by
  rcases command_cases allowed with isQuiet | ⟨now, rfl, free⟩ | ⟨held, rfl, holds⟩ |
    ⟨held, score, rfl, inHand, _⟩ | ⟨payload, score, rfl, free⟩
  · obtain ⟨earlier, credited, _⟩ := Stage.advance_credit allowed isQuiet _ after
    exact .inl ⟨earlier, credited⟩
  · obtain ⟨reply, answered⟩ :
      ∃ reply, (Command.exec outcome (.redis (.popDue now)) world).1 = reply := ⟨_, rfl⟩
    rw [free, answered] at after
    rcases reply with _ | _ | member
    · cases after
    · cases after
    · change ((member.job?.map Stage.holds).getD .free).credit = _ at after
      cases parsed : member.job? with
      | none =>
        rw [parsed] at after
        cases after
      | some popped =>
        rw [parsed] at after
        cases after
        exact .inr ⟨member, World.mem_of_due? (popDue_answered answered).1, parsed, rfl⟩
  · rw [holds] at after
    rcases Stage.advance_free_or (.holds held) (.dispatch held)
      (Command.exec outcome (.dispatch held) world).1 with dropped | started
    · rw [dropped] at after
      cases after
    · rw [started] at after
      cases after
      exact .inl ⟨false, by simp only [Placed, holds]; rfl⟩
  · rcases Stage.advance_free_or (ledger.stages client)
      (.redis (.zadd (.requeued held.failedOnce) score))
      (Command.exec outcome (.redis (.zadd (.requeued held.failedOnce) score)) world).1
      with free | moved
    · rw [free] at after
      cases after
    · rw [moved] at after
      cases after
  · rw [free] at after
    cases after

/-- Where a job is after a command. -/
theorem places_step (allowed : Stage.Allowed settings (ledger.stages client) command)
    {place : Place} (placed : place ∈ places (noted settings ledger world client command outcome)
      (Command.exec outcome command world).2 jobId) :
    place ∈ places ledger world jobId ∨
    (∃ member, place = .held client ∧ .queued member ∈ places ledger world jobId) ∨
    (∃ job, Stage.InHand job (ledger.stages client) ∧ job.id = jobId) ∨
    (∃ payload score, command = .redis (.zadd (.enqueued payload) score) ∧ payload.id = jobId) := by
  obtain ⟨found, spent, placed, own⟩ := placed
  rcases place with member | holder
  · obtain ⟨⟨scored, stored⟩, parsed, _⟩ := placed
    have before (stored : (member, scored) ∈ world.jobs) :
        .queued member ∈ places ledger world jobId :=
      ⟨found, false, ⟨⟨scored, stored⟩, parsed, rfl⟩, own⟩
    rcases command_cases allowed with isQuiet | ⟨now, rfl, _⟩ | ⟨job, rfl, _⟩ |
      ⟨job, score, rfl, inHand, _⟩ | ⟨payload, score, rfl, _⟩
    · exact .inl (before (exec_jobs isQuiet outcome world ▸ stored))
    · exact .inl (before (Sound.popDue_fewer now _ stored))
    · rw [exec_unchanged] at stored
      exact .inl (before stored)
    · rcases mem_jobs_zadd stored with rfl | stored
      · cases Option.some.inj parsed
        exact .inr (.inr (.inl ⟨job, inHand, own⟩))
      · exact .inl (before stored)
    · rcases mem_jobs_zadd stored with rfl | stored
      · cases Option.some.inj parsed
        exact .inr (.inr (.inr ⟨payload, score, rfl, own⟩))
      · exact .inl (before stored)
  · by_cases same : holder = client
    · subst same
      simp only [Placed, Function.update_self] at placed
      rcases credit_advance allowed placed with ⟨earlier, before⟩ | ⟨member, before⟩
      · exact .inl ⟨found, earlier, before, own⟩
      · exact .inr (.inl ⟨member, rfl, found, false, before, own⟩)
    · exact .inl ⟨found, spent, Sound.placed_other same placed, own⟩

/-- A worker that has ended its job does not take it up again. -/
theorem open_advance (allowed : Stage.Allowed settings (ledger.stages client) command)
    (unbroken : Unbroken ledger client outcome command = true)
    (shut : (ledger.stages client).open? = none)
    (held : .held client ∈ places ledger world jobId) :
    ((ledger.stages client).advance command (Command.exec outcome command world).1).open? =
      none := by
  obtain ⟨job, spent, placed, _⟩ := held
  obtain ⟨stage, here⟩ : ∃ stage, ledger.stages client = stage := ⟨_, rfl⟩
  simp only [Placed] at placed
  simp only [Unbroken] at unbroken
  rw [here] at allowed shut placed unbroken ⊢
  have handled : stage.job?.isSome = true := by
    cases stage with
    | free | saw | fell | told => cases placed
    | _ => rfl
  cases allowed with
  | aside isApart =>
    rw [Stage.advance_error handled isApart]
    split
    · rfl
    · exact shut
  | publish job result =>
    rcases outcome with _ | _ | ⟨_, _ | _ | _⟩
    all_goals first | rfl | cases unbroken
  | keep job result =>
    rcases outcome with _ | _ | ⟨_, _ | _ | _⟩
    all_goals first | rfl | cases unbroken
  | report | keepReport =>
    rcases outcome with _ | _ | ⟨_, _ | _ | _⟩ <;> rfl
  | retry inHand | requeue inHand | giveUp inHand =>
    rw [open_of_inHand inHand] at shut
    cases shut
  | enqueue | pend | pop | fetch | fetchRow => cases placed
  | circuit idle | look idle | lookRow idle =>
    rw [idle] at handled
    cases handled
  | slot | lock | process | dispatch | persist | dispatched | complete => cases shut

/-- The worker that ends a job leaves it. -/
theorem closed_of_ends (allowed : Stage.Allowed settings (ledger.stages client) command)
    (unbroken : Unbroken ledger client outcome command = true)
    (performed : Command.performed outcome = true) {status : Status}
    (terminal : status.terminal = true) (given : writes command = some (jobId, status)) :
    ((ledger.stages client).advance command (Command.exec outcome command world).1).open? =
      none := by
  obtain ⟨stage, here⟩ : ∃ stage, ledger.stages client = stage := ⟨_, rfl⟩
  simp only [Unbroken] at unbroken
  rw [here] at allowed unbroken ⊢
  cases allowed with
  | complete job result =>
    rcases outcome with _ | _ | ⟨_, _ | _ | _⟩
    · rfl
    · rfl
    all_goals first | rfl | (cases performed; cases unbroken)
  | giveUp inHand error =>
    rcases outcome with _ | _ | ⟨_, _ | _ | _⟩ <;> cases inHand <;> rfl
  | pend jobId fields pending =>
    simp only [writes, pending, Option.map_some, Option.some.injEq, Prod.mk.injEq] at given
    obtain ⟨_, rfl⟩ := given
    cases terminal
  | process | retry =>
    cases given
    cases terminal
  | aside isApart =>
    rw [writes_apart isApart] at given
    cases given
  | _ => cases given

/-- A job that is over after a command was over before it, or the command ended it. -/
theorem ended_cases (allowed : Stage.Allowed settings (ledger.stages client) command)
    (ended : jobId ∈ (noted settings ledger world client command outcome).ended) :
    (Command.performed outcome = true ∧ ∃ status, status.terminal = true ∧
      writes command = some (jobId, status)) ∨ jobId ∈ ledger.ended := by
  rcases List.mem_append.mp ended with new | old
  · split at new
    · rename_i performed
      exact .inl ⟨performed, (mem_ends_iff allowed).mp new⟩
    · cases new
  · exact .inr old

namespace Closed

/-- No worker has a job that is over open. -/
theorem not_open (closed : Closed settings ledger world) (ended : jobId ∈ ledger.ended)
    {job : WritingJob} (opened : (ledger.stages client).open? = some job) : job.id ≠ jobId := by
  intro own
  obtain ⟨spent, placed⟩ := placed_of_open world opened
  obtain ⟨other, same, shut⟩ := closed.shut jobId ended (.held client) ⟨job, spent, placed, own⟩
  cases Place.held.inj same
  rw [shut] at opened
  cases opened

private theorem known_step (closed : Closed settings ledger world)
    (allowed : Stage.Allowed settings (ledger.stages client) command)
    (terminal : ((Command.exec outcome command world).2.status? jobId).any Status.terminal = true) :
    jobId ∈ (noted settings ledger world client command outcome).ended := by
  obtain ⟨status, found, terminal⟩ := (Option.any_eq_true _ _).mp terminal
  rcases status?_exec_cases allowed found with ⟨performed, given⟩ | before
  · refine List.mem_append_left _ ?_
    simp only [performed, if_true]
    exact (mem_ends_iff allowed).mpr ⟨status, terminal, given⟩
  · exact List.mem_append_right _
      (closed.known jobId ((Option.any_eq_true _ _).mpr ⟨status, before, terminal⟩))

private theorem shut_step (closed : Closed settings ledger world)
    (allowed : Stage.Allowed settings (ledger.stages client) command)
    (unbroken : Unbroken ledger client outcome command = true)
    (once : ∀ payload score, command = .redis (.zadd (.enqueued payload) score) →
      payload.id ∉ ledger.put)
    (ended : jobId ∈ (noted settings ledger world client command outcome).ended) (place : Place)
    (placed : place ∈ places (noted settings ledger world client command outcome)
      (Command.exec outcome command world).2 jobId) :
    ∃ client', place = .held client' ∧
      ((noted settings ledger world client command outcome).stages client').open? = none := by
  rcases ended_cases allowed ended with ⟨performed, status, terminal, given⟩ | old
  · obtain ⟨job, opened, own⟩ := open_of_writes allowed given (by rintro rfl; cases terminal)
    obtain ⟨spent, before⟩ := placed_of_open world opened
    have isQuiet : quiet command = true := by
      rcases command with _ | _ | _ | _ | _ | redis | _ | _
      · rfl
      · rfl
      · rfl
      · cases given
      · rfl
      · cases redis <;> first | rfl | cases given
      · rfl
      · rfl
    obtain ⟨found, _, placed, same⟩ := placed
    obtain ⟨earlier, placed', _⟩ := Sound.placed_of_quiet allowed isQuiet placed
    cases closed.sound.single jobId ⟨found, earlier, placed', same⟩ ⟨job, spent, before, own⟩
    refine ⟨client, rfl, ?_⟩
    simp only [Function.update_self]
    exact closed_of_ends allowed unbroken performed terminal given
  · rcases places_step allowed placed with before | ⟨member, _, before⟩ | ⟨job, inHand, own⟩ |
      ⟨payload, score, rfl, own⟩
    · obtain ⟨other, rfl, shut⟩ := closed.shut jobId old place before
      refine ⟨other, rfl, ?_⟩
      by_cases same : other = client
      · subst same
        simp only [Function.update_self]
        exact open_advance allowed unbroken shut before
      · simpa only [Function.update_of_ne same] using shut
    · obtain ⟨_, same, _⟩ := closed.shut jobId old _ before
      cases same
    · exact absurd own (closed.not_open old (open_of_inHand inHand))
    · exact absurd (own ▸ closed.put jobId old) (once payload score rfl)

theorem put_step (closed : Closed settings ledger world)
    (allowed : Stage.Allowed settings (ledger.stages client) command)
    (ended : jobId ∈ (noted settings ledger world client command outcome).ended) :
    jobId ∈ (noted settings ledger world client command outcome).put := by
  refine Sound.put_noted ?_
  rcases ended_cases allowed ended with ⟨_, status, terminal, given⟩ | old
  · obtain ⟨job, opened, own⟩ := open_of_writes allowed given (by rintro rfl; cases terminal)
    obtain ⟨spent, placed⟩ := placed_of_open world opened
    by_contra absent
    have member : Place.held client ∈ places ledger world jobId := ⟨job, spent, placed, own⟩
    rw [(closed.sound.fresh jobId absent).1] at member
    exact member
  · exact closed.put jobId old

end Closed

/-- Time only lets a status expire. -/
theorem status?_event {event : Event} {status : Status}
    (found : (event.apply world).status? jobId = some status) :
    world.status? jobId = some status := by
  obtain ⟨millis⟩ | _ := event
  swap
  · exact found
  obtain ⟨hash, seen, given⟩ := Option.bind_eq_some_iff.mp found
  obtain ⟨stored, held, alive, rfl⟩ := World.hash?_eq_some.mp seen
  refine Option.bind_eq_some_iff.mpr ⟨stored.value, World.hash?_eq_some.mpr ⟨stored, held, ?_, rfl⟩,
    given⟩
  have later : stored.alive (world.clock + millis) = true := alive
  cases until_ : stored.deadline with
  | none => simp [Stored.alive, until_]
  | some deadline =>
    simp only [Stored.alive, until_, decide_eq_true_eq] at later ⊢
    omega

theorem Closed.command_step {config : (jobQueue settings).Config} {call : Call}
    {rest : command.Reply → Program Command Command.Reply call.Result}
    (once : EnqueuedOnce settings ledger config (.act (.step client outcome)))
    (running : config.threads client = .running call (.call command rest))
    (allowed : Stage.Allowed settings (ledger.stages client) command)
    (unbroken : Unbroken ledger client outcome command = true)
    (closed : Closed settings ledger config.world) :
    Closed settings (noted settings ledger config.world client command outcome)
      (Command.exec outcome command config.world).2 := by
  refine ⟨(sound_keeps settings).command ledger config client outcome call command rest once running
    allowed closed.sound, fun _ => closed.known_step allowed,
    fun _ => closed.shut_step allowed unbroken ?_, fun _ => closed.put_step allowed⟩
  rintro payload score rfl
  simp only [EnqueuedOnce, running, Thread.next?] at once
  exact once.1

theorem Closed.event_step {config : (jobQueue settings).Config} {event : Event}
    (closed : Closed settings ledger config.world) :
    Closed settings ledger (event.apply config.world) := by
  refine ⟨(sound_keeps settings).event ledger config event trivial closed.sound, ?_, ?_, closed.put⟩
  · intro jobId terminal
    obtain ⟨status, found, terminal⟩ := (Option.any_eq_true _ _).mp terminal
    exact closed.known jobId ((Option.any_eq_true _ _).mpr ⟨status, status?_event found, terminal⟩)
  · rintro jobId ended place ⟨job, spent, placed, own⟩
    refine closed.shut jobId ended place ⟨job, spent, ?_, own⟩
    cases place with
    | queued member => cases event <;> exact placed
    | held client => exact placed

theorem Closed.crash_step {config : (jobQueue settings).Config}
    (closed : Closed settings ledger config.world) :
    Closed settings ((Ledger.watcher settings).crash ledger client (config.threads client).next?)
      config.world := by
  refine ⟨(sound_keeps settings).crash ledger config client trivial closed.sound, closed.known, ?_,
    closed.put⟩
  rintro jobId ended place ⟨job, spent, placed, own⟩
  rcases place with member | other
  · obtain ⟨_, same, _⟩ := closed.shut jobId ended (.queued member) ⟨job, spent, placed, own⟩
    cases same
  · by_cases same : other = client
    · subst same
      simp only [Placed, Function.update_self] at placed
      cases placed
    · simp only [Placed, Function.update_of_ne same] at placed
      refine ⟨other, rfl, ?_⟩
      obtain ⟨_, held, shut⟩ := closed.shut jobId ended (.held other) ⟨job, spent, placed, own⟩
      cases held
      simpa only [Function.update_of_ne same] using shut

theorem Closed.empty (settings : Settings) {world : World} (empty : world.jobs = [])
    (fresh : ∀ jobId, (world.status? jobId).any Status.terminal = false) :
    Closed settings .empty world :=
  ⟨.empty settings empty, fun jobId terminal => by simp [fresh jobId] at terminal, nofun, nofun⟩

end BrainMate.WriteRight
