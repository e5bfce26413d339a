import BrainMate.WriteRight.Ledger

namespace BrainMate.WriteRight

open Interleaving System Program Ledger

variable {settings : Settings} {ledger : Ledger} {world : World} {client : Nat}
variable {command : Command} {outcome : Outcome}

/-- Each job is in one place at most, and was dispatched no more often than the attempts
its place accounts for. -/
structure Sound (settings : Settings) (ledger : Ledger) (world : World) : Prop where
  single : ∀ jobId, (places ledger world jobId).Subsingleton
  fresh : ∀ jobId, jobId ∉ ledger.put →
    places ledger world jobId = ∅ ∧ ledger.dispatches.count jobId = 0
  credit : ∀ place job spent, Placed ledger world place job spent →
    (ledger.dispatches.count job.id : Int) ≤ job.attempt + spent.toInt ∧
      job.attempt + 1 ≤ max 1 settings.jobMaxRetries
  bound : ∀ jobId, (ledger.dispatches.count jobId : Int) ≤ max 1 settings.jobMaxRetries

namespace Sound

variable {after : Ledger} {left : World}

theorem empty (settings : Settings) {world : World} (none_ : world.jobs = []) :
    Sound settings .empty world := by
  have nowhere : ∀ place job spent, ¬ Placed .empty world place job spent := by
    rintro (member | client) job spent placed
    · obtain ⟨score, stored⟩ := placed.1
      rw [none_] at stored
      cases stored
    · cases placed
  refine ⟨?_, ?_, ?_, ?_⟩
  · rintro jobId place ⟨job, spent, placed, _⟩
    exact absurd placed (nowhere place job spent)
  · intro jobId _
    refine ⟨Set.eq_empty_of_forall_notMem ?_, rfl⟩
    rintro place ⟨job, spent, placed, _⟩
    exact nowhere place job spent placed
  · intro place job spent placed
    exact absurd placed (nowhere place job spent)
  · intro jobId
    simp [Ledger.empty]

theorem toInt_le {earlier later : Bool} (more : earlier = true → later = true) :
    earlier.toInt ≤ later.toInt := by
  cases earlier with
  | false => cases later <;> decide
  | true => rw [more rfl]

/-- A step after which every place had its job before. -/
theorem shrunk (sound : Sound settings ledger world)
    (put : ∀ jobId ∈ ledger.put, jobId ∈ after.put)
    (dispatches : after.dispatches = ledger.dispatches)
    (kept : ∀ place job spent, Placed after left place job spent →
      ∃ earlier, Placed ledger world place job earlier ∧ (earlier = true → spent = true)) :
    Sound settings after left := by
  have fewer (jobId : String) : places after left jobId ⊆ places ledger world jobId := by
    rintro place ⟨job, spent, placed, same⟩
    obtain ⟨earlier, before, _⟩ := kept place job spent placed
    exact ⟨job, earlier, before, same⟩
  refine ⟨fun jobId => (sound.single jobId).anti (fewer jobId), ?_, ?_, ?_⟩
  · intro jobId absent
    obtain ⟨nowhere, never⟩ := sound.fresh jobId fun member => absent (put jobId member)
    exact ⟨Set.subset_eq_empty (fewer jobId) nowhere, dispatches ▸ never⟩
  · intro place job spent placed
    obtain ⟨earlier, before, more⟩ := kept place job spent placed
    obtain ⟨accounted, within⟩ := sound.credit place job earlier before
    rw [dispatches]
    exact ⟨accounted.trans (Int.add_le_add_left (toInt_le more) _), within⟩
  · rw [dispatches]
    exact sound.bound

/-- A step that leaves one job in one place, and no other job in a new one. -/
theorem single_of_only (sound : Sound settings ledger world) {id : String} {target : Place}
    (only : ∀ {jobId place}, place ∈ places after left jobId →
      (jobId = id ∧ place = target) ∨ (jobId ≠ id ∧ place ∈ places ledger world jobId))
    (jobId : String) : (places after left jobId).Subsingleton := by
  intro first member second member'
  rcases only member with ⟨own, rfl⟩ | ⟨foreign, before⟩
  · rcases only member' with ⟨_, rfl⟩ | ⟨foreign, _⟩
    · rfl
    · exact absurd own foreign
  · rcases only member' with ⟨own, _⟩ | ⟨_, before'⟩
    · exact absurd own foreign
    · exact sound.single jobId before before'

/-- A step that takes a job from one place to another, and may dispatch it. -/
theorem moved {source : Place} {job : WritingJob} {spent : Bool}
    (sound : Sound settings ledger world) (target : Place) (next : WritingJob) (spending : Bool)
    (extra : Nat) (put : ∀ jobId ∈ ledger.put, jobId ∈ after.put)
    (dispatches : ∀ jobId, after.dispatches.count jobId =
      ledger.dispatches.count jobId + if jobId = job.id then extra else 0)
    (was : Placed ledger world source job spent) (sameId : next.id = job.id)
    (accounted : (ledger.dispatches.count job.id : Int) + extra ≤
      next.attempt + spending.toInt)
    (within : next.attempt + 1 ≤ max 1 settings.jobMaxRetries)
    (kept : ∀ place other spent, Placed after left place other spent →
      (place = target ∧ other = next ∧ spent = spending) ∨
      (place ≠ source ∧ ∃ earlier, Placed ledger world place other earlier ∧
        (earlier = true → spent = true))) :
    Sound settings after left := by
  have here : source ∈ places ledger world job.id := ⟨job, spent, was, rfl⟩
  -- No other place had this job, so whatever is kept belongs to another one.
  have other {place : Place} {kept : WritingJob} {earlier : Bool} (away : place ≠ source)
      (before : Placed ledger world place kept earlier) : kept.id ≠ job.id := by
    intro same
    exact away (sound.single job.id ⟨kept, earlier, before, same⟩ here)
  have only {jobId : String} {place : Place} (placed : place ∈ places after left jobId) :
      (jobId = job.id ∧ place = target) ∨
        (jobId ≠ job.id ∧ place ∈ places ledger world jobId) := by
    obtain ⟨found, spent, placed, rfl⟩ := placed
    rcases kept place found spent placed with ⟨at_, rfl, _⟩ | ⟨away, earlier, before, _⟩
    · exact .inl ⟨sameId, at_⟩
    · exact .inr ⟨other away before, found, earlier, before, rfl⟩
  refine ⟨sound.single_of_only only, ?_, ?_, ?_⟩
  · intro jobId absent
    obtain ⟨nowhere, never⟩ := sound.fresh jobId fun member => absent (put jobId member)
    have foreign : jobId ≠ job.id := by
      rintro rfl
      rw [nowhere] at here
      exact here
    refine ⟨Set.eq_empty_of_forall_notMem ?_, by simp [dispatches, never, foreign]⟩
    intro place placed
    rcases only placed with ⟨own, _⟩ | ⟨_, before⟩
    · exact foreign own
    · rw [nowhere] at before
      exact before
  · intro place found spent placed
    rcases kept place found spent placed with ⟨_, rfl, rfl⟩ | ⟨away, earlier, before, more⟩
    · rw [dispatches, sameId, if_pos rfl]
      exact ⟨by exact_mod_cast accounted, within⟩
    · obtain ⟨accounted, within⟩ := sound.credit place found earlier before
      rw [dispatches, if_neg (other away before)]
      exact ⟨accounted.trans (Int.add_le_add_left (toInt_le more) _), within⟩
  · intro jobId
    rw [dispatches]
    split
    · rename_i own
      rw [own]
      have most : spending.toInt ≤ 1 := toInt_le (fun _ => rfl)
      push_cast
      omega
    · exact sound.bound jobId

/-- A step that puts in the queue a job that was nowhere. -/
theorem added (sound : Sound settings ledger world) (target : Place) (job : WritingJob)
    (absent : job.id ∉ ledger.put) (put : ∀ jobId ∈ ledger.put, jobId ∈ after.put)
    (now_ : job.id ∈ after.put) (dispatches : after.dispatches = ledger.dispatches)
    (first : job.attempt = 0)
    (kept : ∀ place other spent, Placed after left place other spent →
      (place = target ∧ other = job ∧ spent = false) ∨ Placed ledger world place other spent) :
    Sound settings after left := by
  obtain ⟨nowhere, never⟩ := sound.fresh job.id absent
  have only {jobId : String} {place : Place} (placed : place ∈ places after left jobId) :
      (jobId = job.id ∧ place = target) ∨
        (jobId ≠ job.id ∧ place ∈ places ledger world jobId) := by
    obtain ⟨found, spent, placed, rfl⟩ := placed
    rcases kept place found spent placed with ⟨at_, rfl, _⟩ | before
    · exact .inl ⟨rfl, at_⟩
    · refine .inr ⟨fun same => ?_, found, spent, before, rfl⟩
      exact Set.notMem_empty place (nowhere ▸ ⟨found, spent, before, same⟩)
  refine ⟨sound.single_of_only only, ?_, ?_, dispatches ▸ sound.bound⟩
  · intro jobId missing
    obtain ⟨empty, none_⟩ := sound.fresh jobId fun member => missing (put jobId member)
    refine ⟨Set.eq_empty_of_forall_notMem ?_, dispatches ▸ none_⟩
    intro place placed
    rcases only placed with ⟨own, _⟩ | ⟨_, before⟩
    · exact missing (own ▸ now_)
    · exact Set.notMem_empty place (empty ▸ before)
  · intro place found spent placed
    rw [dispatches]
    rcases kept place found spent placed with ⟨_, rfl, rfl⟩ | before
    · rw [never, first]
      exact ⟨by decide, by simp⟩
    · exact sound.credit place found spent before

theorem put_noted {jobId : String} (member : jobId ∈ ledger.put) :
    jobId ∈ (noted settings ledger world client command outcome).put :=
  List.mem_append_right _ member

theorem placed_other {other : Nat} (different : other ≠ client) {job : WritingJob} {spent : Bool}
    (placed : Placed (noted settings ledger world client command outcome) left (.held other) job
      spent) : Placed ledger world (.held other) job spent := by
  simp only [Placed, Function.update_of_ne different] at placed
  exact placed

/-- After a quiet command every place has its job from before. -/
theorem placed_of_quiet (allowed : Stage.Allowed settings (ledger.stages client) command)
    (isQuiet : quiet command = true) {place : Place} {job : WritingJob} {spent : Bool}
    (placed : Placed (noted settings ledger world client command outcome)
      (Command.exec outcome command world).2 place job spent) :
    ∃ earlier, Placed ledger world place job earlier ∧ (earlier = true → spent = true) := by
  rcases place with member | other
  · obtain ⟨⟨score, stored⟩, parsed, undone⟩ := placed
    rw [exec_jobs isQuiet] at stored
    exact ⟨spent, ⟨⟨score, stored⟩, parsed, undone⟩, id⟩
  · by_cases own : other = client
    · subst own
      simp only [Placed, Function.update_self] at placed
      exact Stage.advance_credit allowed isQuiet _ placed
    · exact ⟨spent, placed_other own placed, id⟩

private theorem quiet_step (sound : Sound settings ledger world)
    (allowed : Stage.Allowed settings (ledger.stages client) command)
    (isQuiet : quiet command = true) :
    Sound settings (noted settings ledger world client command outcome)
      (Command.exec outcome command world).2 := by
  refine sound.shrunk (fun _ => put_noted) ?_ fun _ _ _ => placed_of_quiet allowed isQuiet
  cases command with
  | dispatch job => cases isQuiet
  | _ => rfl

private theorem dispatch_step {job : WritingJob} (sound : Sound settings ledger world)
    (holds : ledger.stages client = .holds job) :
    Sound settings (noted settings ledger world client (.dispatch job) outcome)
      (Command.exec outcome (.dispatch job) world).2 := by
  have was : Placed ledger world (.held client) job false := by
    simp only [Placed, holds]
    rfl
  obtain ⟨accounted, within⟩ := sound.credit _ _ _ was
  refine sound.moved (.held client) job true 1 (fun _ => put_noted) ?_ was rfl
    (by simpa using accounted) within ?_
  · intro jobId
    have same : (job.id == jobId) = decide (jobId = job.id) := by
      rw [beq_eq_decide, decide_eq_decide, eq_comm]
    simp [Ledger.starts, List.count_cons, same]
  · rintro (member | other) found spent placed
    · refine .inr ⟨nofun, spent, ?_, id⟩
      simpa [Placed, exec_unchanged] using placed
    · by_cases own : other = client
      · subst own
        simp only [Placed, Function.update_self, holds] at placed
        rcases Stage.advance_free_or (.holds job) (.dispatch job)
          (Command.exec outcome (.dispatch job) world).1 with dropped | started
        · rw [dropped] at placed
          cases placed
        · rw [started] at placed
          cases placed
          exact .inl ⟨rfl, rfl, rfl⟩
      · exact .inr ⟨fun same => own (Place.held.inj same), spent, placed_other own placed, id⟩

/-- A command after which its client has no job, and that adds nothing to the queue. -/
theorem idle_step (sound : Sound settings ledger world) (starts : Ledger.starts command = [])
    (idle : ((ledger.stages client).advance command
      (Command.exec outcome command world).1).credit = none)
    (fewer : ∀ stored ∈ (Command.exec outcome command world).2.jobs, stored ∈ world.jobs) :
    Sound settings (noted settings ledger world client command outcome)
      (Command.exec outcome command world).2 := by
  refine sound.shrunk (fun _ => put_noted) (by simp [starts]) ?_
  rintro (member | other) job spent placed
  · obtain ⟨⟨score, stored⟩, rest⟩ := placed
    exact ⟨spent, ⟨⟨score, fewer _ stored⟩, rest⟩, id⟩
  · by_cases own : other = client
    · subst own
      simp only [Placed, Function.update_self, idle] at placed
      cases placed
    · exact ⟨spent, placed_other own placed, id⟩

theorem popDue_fewer (now : Nat) :
    ∀ stored ∈ (Command.exec outcome (.redis (.popDue now)) world).2.jobs, stored ∈ world.jobs := by
  rintro ⟨other, score⟩ stored
  simp only [Command.exec, Command.effect, RedisCommand.effect] at stored
  split at stored
  · split at stored
    · exact (World.mem_zrem.mp stored).1
    · exact stored
  · exact stored

theorem pop_step {now : Nat} (sound : Sound settings ledger world)
    (free : ledger.stages client = .free) :
    Sound settings (noted settings ledger world client (.redis (.popDue now)) outcome)
      (Command.exec outcome (.redis (.popDue now)) world).2 := by
  obtain ⟨reply, answered⟩ : ∃ reply, (Command.exec outcome (.redis (.popDue now)) world).1 = reply :=
    ⟨_, rfl⟩
  by_cases taken : ∃ member job, reply = .ok (some member) ∧ member.job? = some job
  · obtain ⟨member, job, rfl, parsed⟩ := taken
    obtain ⟨due, removed⟩ := popDue_answered answered
    have was : Placed ledger world (.queued member) job false :=
      ⟨World.mem_of_due? due, parsed, rfl⟩
    have holds : Stage.free.advance (.redis (.popDue now)) (.ok (some member)) = .holds job := by
      change (member.job?.map Stage.holds).getD .free = .holds job
      rw [parsed]
      rfl
    obtain ⟨accounted, within⟩ := sound.credit _ _ _ was
    refine sound.moved (.held client) job false 0 (fun _ => put_noted) (by simp [Ledger.starts]) was
      rfl (by simpa using accounted) within ?_
    rintro (other | other) found spent placed
    · obtain ⟨⟨score, stored⟩, rest⟩ := placed
      rw [removed] at stored
      obtain ⟨stored, different⟩ := World.mem_zrem.mp stored
      exact .inr ⟨fun same => different (Place.queued.inj same), spent, ⟨⟨score, stored⟩, rest⟩, id⟩
    · by_cases own : other = client
      · subst own
        simp only [Placed, Function.update_self, free, answered, holds] at placed
        cases placed
        exact .inl ⟨rfl, rfl, rfl⟩
      · exact .inr ⟨nofun, spent, placed_other own placed, id⟩
  · refine sound.idle_step rfl ?_ (popDue_fewer now)
    rw [free, answered]
    rcases reply with failure | _ | member
    · rfl
    · rfl
    · change ((member.job?.map Stage.holds).getD .free).credit = none
      cases parsed : member.job? with
      | none => rfl
      | some job => exact absurd ⟨member, job, rfl, parsed⟩ taken

private theorem requeue_step {job : WritingJob} {score : Nat} (sound : Sound settings ledger world)
    (inHand : Stage.InHand job (ledger.stages client))
    (left : job.failedOnce.attempt < settings.jobMaxRetries) :
    Sound settings
      (noted settings ledger world client (.redis (.zadd (.requeued job.failedOnce) score)) outcome)
      (Command.exec outcome (.redis (.zadd (.requeued job.failedOnce) score)) world).2 := by
  obtain ⟨spent, credited⟩ := Stage.credit_of_inHand inHand
  have was : Placed ledger world (.held client) job spent := credited
  have gone (reply : Except Failure Unit) : ((ledger.stages client).advance
      (.redis (.zadd (.requeued job.failedOnce) score)) reply).credit = none := by
    rcases Stage.advance_free_or (ledger.stages client)
      (.redis (.zadd (.requeued job.failedOnce) score)) reply with free | moved
    · rw [free]
      rfl
    · rw [moved]
      rfl
  cases performs : Command.performed outcome with
  | false =>
    refine sound.idle_step rfl (gone _) ?_
    simp [Command.exec, performs]
  | true =>
    obtain ⟨accounted, _⟩ := sound.credit (.held client) job spent was
    have most : spent.toInt ≤ 1 := toInt_le fun _ => rfl
    have attempt : job.failedOnce.attempt = job.attempt + 1 := rfl
    refine sound.moved (.queued (.requeued job.failedOnce)) job.failedOnce false 0
      (fun _ => put_noted) (by simp [Ledger.starts]) was rfl ?_ (by omega) ?_
    · simp only [Nat.cast_zero, Bool.toInt_false]
      omega
    · rintro (member | other) found spent placed
      · obtain ⟨⟨scored, stored⟩, parsed, undone⟩ := placed
        simp only [Command.exec, performs, if_true] at stored
        rcases World.mem_zadd.mp stored with ⟨rfl, rfl⟩ | ⟨earlier, _⟩
        · exact .inl ⟨rfl, (Option.some.inj parsed).symm, undone⟩
        · exact .inr ⟨by rintro ⟨⟩, spent, ⟨⟨scored, earlier⟩, parsed, undone⟩, id⟩
      · by_cases own : other = client
        · subst own
          simp only [Placed, Function.update_self] at placed
          rw [gone] at placed
          cases placed
        · exact .inr ⟨fun same => own (Place.held.inj same), spent, placed_other own placed, id⟩

private theorem enqueue_step {payload : WritingJobPayload} {score : Nat}
    (sound : Sound settings ledger world) (free : ledger.stages client = .free)
    (absent : payload.id ∉ ledger.put) (first : payload.attempt = 0) :
    Sound settings
      (noted settings ledger world client (.redis (.zadd (.enqueued payload) score)) outcome)
      (Command.exec outcome (.redis (.zadd (.enqueued payload) score)) world).2 := by
  have stays (reply : Except Failure Unit) : ((ledger.stages client).advance
      (.redis (.zadd (.enqueued payload) score)) reply).credit = none := by
    rw [free]
    rfl
  cases performs : Command.performed outcome with
  | false =>
    refine sound.idle_step rfl (stays _) ?_
    simp [Command.exec, performs]
  | true =>
    obtain ⟨job, parsed⟩ : ∃ job, (Member.enqueued payload).job? = some job := ⟨_, rfl⟩
    have sameId : job.id = payload.id := by
      cases Option.some.inj parsed
      rfl
    have zeroth : job.attempt = 0 := by
      cases Option.some.inj parsed
      exact first
    refine sound.added (.queued (.enqueued payload)) job (sameId ▸ absent) (fun _ => put_noted)
      ?_ rfl zeroth ?_
    · simp [performs, Ledger.puts, sameId]
    · rintro (member | other) found spent placed
      · obtain ⟨⟨scored, stored⟩, parsed', undone⟩ := placed
        simp only [Command.exec, performs, if_true] at stored
        rcases World.mem_zadd.mp stored with ⟨rfl, rfl⟩ | ⟨earlier, _⟩
        · rw [parsed] at parsed'
          exact .inl ⟨rfl, (Option.some.inj parsed').symm, undone⟩
        · exact .inr ⟨⟨scored, earlier⟩, parsed', undone⟩
      · by_cases own : other = client
        · subst own
          simp only [Placed, Function.update_self] at placed
          rw [stays] at placed
          cases placed
        · exact .inr (placed_other own placed)

end Sound

/-- `enqueueWriteRightJob` is called once for each job id, with `attempt: 0`. -/
def EnqueuedOnce (settings : Settings) (ledger : Ledger) (config : (jobQueue settings).Config) :
    (jobQueue settings).Move → Prop
  | .act (.step client _) =>
    match (config.threads client).next? with
    | some (.redis (.zadd (.enqueued payload) _)) =>
      payload.id ∉ ledger.put ∧ payload.attempt = 0
    | _ => True
  | _ => True

instance (settings : Settings) (ledger : Ledger) (config : (jobQueue settings).Config)
    (move : (jobQueue settings).Move) : Decidable (EnqueuedOnce settings ledger config move) := by
  unfold EnqueuedOnce
  split
  · split <;> infer_instance
  · infer_instance

theorem sound_keeps (settings : Settings) :
    (Ledger.phases settings).Keeps (EnqueuedOnce settings) (Sound settings) where
  follows _ _ _ call _ := Stage.program_follows settings call
  command ledger config client outcome call command rest permitted running allowed sound := by
    rcases command_cases allowed with isQuiet | ⟨now, rfl, free⟩ | ⟨job, rfl, holds⟩ |
      ⟨job, score, rfl, inHand, left⟩ | ⟨payload, score, rfl, free⟩
    · exact sound.quiet_step allowed isQuiet
    · exact sound.pop_step free
    · exact sound.dispatch_step holds
    · exact sound.requeue_step inHand left
    · simp only [EnqueuedOnce, running, Thread.next?] at permitted
      exact sound.enqueue_step free permitted.1 permitted.2
  event ledger config event _ sound := by
    refine sound.shrunk (fun _ => id) rfl ?_
    rintro (member | other) job spent placed
    · cases event <;> exact ⟨spent, placed, id⟩
    · exact ⟨spent, placed, id⟩
  crash ledger config client _ sound := by
    refine sound.shrunk (fun _ => id) rfl ?_
    rintro (member | other) job spent placed
    · exact ⟨spent, placed, id⟩
    · by_cases own : other = client
      · subst own
        simp only [Placed, Function.update_self] at placed
        cases placed
      · simp only [Placed, Function.update_of_ne own] at placed
        exact ⟨spent, placed, id⟩

/-- The client is between the start of `_dispatch_job` for a job and what follows it. -/
def Dispatching (ledger : Ledger) (client : Nat) (jobId : String) : Prop :=
  ∃ job, ledger.stages client = .started job ∧ job.id = jobId

/-- Whatever becomes of the locks, and whoever crashes, fails or is cancelled: a job is a
member of the queue or in the hands of one worker, never both and never twice, so that one
worker at most is dispatching it; and it is dispatched as often as its retries allow. -/
theorem never_dispatched_twice_at_once (settings : Settings) {world : World}
    (empty : world.jobs = []) {moves : List (jobQueue settings).Move} {ledger : Ledger}
    {last : (jobQueue settings).Config}
    (run : Watched (Ledger.watcher settings) (EnqueuedOnce settings) .empty (.initial world) moves
      ledger last) (jobId : String) :
    (places ledger last.world jobId).encard ≤ 1 ∧
    (∀ first second, Dispatching ledger first jobId → Dispatching ledger second jobId →
      first = second) ∧
    (ledger.dispatches.count jobId : Int) ≤ max 1 settings.jobMaxRetries := by
  have sound : Sound settings ledger last.world :=
    (sound_keeps settings).run run (fun _ => rfl) (Sound.empty settings empty)
  have single := sound.single jobId
  refine ⟨Set.encard_le_one_iff_subsingleton.mpr single, ?_, sound.bound jobId⟩
  rintro first second ⟨job, started, rfl⟩ ⟨other, started', same⟩
  have one : Place.held first ∈ places ledger last.world job.id :=
    ⟨job, true, by simp only [Placed, started]; rfl, rfl⟩
  have two : Place.held second ∈ places ledger last.world job.id :=
    ⟨other, true, by simp only [Placed, started']; rfl, same⟩
  exact Place.held.inj (single one two)

/-- The sample job fails once, is put back, and is dispatched again by another worker. -/
def retriedMoves : List (jobQueue sampleSettings).Move :=
  enqueuing 0 ++ failingRound 1 "w1" ++ turns 1 6 ++
    .act (.environment (.advance 1000)) :: failingRound 2 "w2"

theorem retried_in_one_place :
    ∃ ledger last, Watched (Ledger.watcher sampleSettings) (EnqueuedOnce sampleSettings) .empty
        (.initial (World.empty 0)) retriedMoves ledger last ∧
      ledger.dispatches.count samplePayload.id = 2 ∧
      (places ledger last.world samplePayload.id).encard ≤ 1 ∧
      (∀ first second, Dispatching ledger first samplePayload.id →
        Dispatching ledger second samplePayload.id → first = second) ∧
      (ledger.dispatches.count samplePayload.id : Int) ≤ max 1 sampleSettings.jobMaxRetries := by
  obtain ⟨ledger, last, run, counted⟩ := Watched.of_check (Ledger.watcher sampleSettings)
    (EnqueuedOnce sampleSettings) .empty (.initial (World.empty 0)) retriedMoves
    (fun ledger _ => decide (ledger.dispatches.count samplePayload.id = 2)) (by decide +kernel)
  exact ⟨ledger, last, run, of_decide_eq_true counted,
    never_dispatched_twice_at_once sampleSettings rfl run samplePayload.id⟩

end BrainMate.WriteRight
