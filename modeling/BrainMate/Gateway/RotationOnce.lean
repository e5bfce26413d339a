import BrainMate.Interleaving.Passage
import BrainMate.Gateway.Effects

namespace BrainMate.Gateway.RotationOnce

open Interleaving System

/-- The answer of a rotation transaction that consumed the row. -/
def CommitReply (oldHash : String) : (command : Command) → command.Reply → Prop
  | .db (.rotateRefreshTokenTx tokenHash _ _ _ _ _), reply =>
    tokenHash = oldHash ∧ ∃ row, reply = .ok (some row)
  | _, _ => False

/-- The client's transaction consumes the row of the token. -/
def Commits (site : Deployment) (token : String) (client : Nat) :
    site.system.Config → site.system.Action → site.system.Config → Prop :=
  PassesCommand (CommitReply (site.sha256Hex token)) client

/-- A `cleanup_expired_auth()` deletes the row of the token. -/
def CleansUp (site : Deployment) (token : String) (before : site.system.Config)
    (action : site.system.Action) (after : site.system.Config) : Prop :=
  (∃ client outcome call rest, action = .step client outcome ∧
    before.threads client = .running call (.call (.db .cleanupExpiredAuth) rest)) ∧
  TokenPresent (site.sha256Hex token) before.world ∧
  ¬ TokenPresent (site.sha256Hex token) after.world

/-- The transaction found the row live and leaves it revoked. -/
theorem commit_consumes {oldHash : String} {command : Command} {outcome : Outcome} {world : World}
    (committed : CommitReply oldHash command (Command.exec outcome command world).1) :
    ¬ TokenRevoked oldHash world ∧
      TokenRevoked oldHash (Command.exec outcome command world).2 := by
  cases command with
  | now => exact committed.elim
  | http => exact committed.elim
  | redis command => exact committed.elim
  | db command =>
    cases command with
    | rotateRefreshTokenTx =>
      obtain ⟨rfl, row, answered⟩ := committed
      obtain ⟨rfl, gate, _⟩ := rotateTx_answered answered
      refine ⟨?_, rotateTx_revokes gate⟩
      obtain ⟨stored, found, live, _⟩ := rotationGate_row gate
      rintro ⟨other, same, marked⟩
      rw [found] at same
      cases same
      rw [live] at marked
      cases marked
    | _ => exact committed.elim

/-- A revoked row leaves that state only by being deleted. -/
theorem unrevoked_by_cleanup {site : Deployment} {token : String}
    {before after : site.system.Config} {action : site.system.Action}
    (moves : before.step? action = some after)
    (revoked : TokenRevoked (site.sha256Hex token) before.world)
    (released : ¬ TokenRevoked (site.sha256Hex token) after.world) :
    CleansUp site token before action after := by
  obtain ⟨_, _, _, _, rfl⟩ | ⟨client, outcome, call, command, rest, rfl, state, rfl⟩ |
    ⟨event, rfl, rfl⟩ := step?_cases moves
  · exact absurd revoked released
  · by_cases cleanup : command = .db .cleanupExpiredAuth
    · subst command
      refine ⟨⟨client, outcome, call, rest, rfl, state⟩, revoked.imp fun _ => And.left, ?_⟩
      rintro ⟨row, kept⟩
      apply released
      rcases Command.exec_world outcome (.db .cleanupExpiredAuth) before.world with same | same
      · simpa only [same] using revoked
      · simp only [same, Command.effect, cleanup_token, Option.filter_eq_some_iff] at kept
        obtain ⟨stored, found, marked⟩ := revoked
        have identical : stored = row := Option.some.inj (found.symm.trans kept.1)
        refine ⟨row, ?_, identical ▸ marked⟩
        simp only [same, Command.effect, cleanup_token, Option.filter_eq_some_iff]
        exact kept
    · refine absurd ?_ released
      rcases Command.exec_world outcome command before.world with same | same <;>
        simp only [same]
      · exact revoked
      · exact revoked.effect cleanup
  · exact absurd (by simpa [TokenRevoked] using revoked) released

/-- Between two commits on one token the cleanup job deleted its row. -/
theorem cleanup_between_commits {site : Deployment} {token : String} {first second : Nat}
    {permitted : site.system.Config → site.system.Action → Prop}
    {before middle late : site.system.Config} {action later : site.system.Action}
    {between : List site.system.Action} {after : site.system.Config}
    (consumed : Commits site token first before action middle)
    (moves : before.step? action = some middle) (run : Run permitted middle between late)
    (again : Commits site token second late later after) :
    Happens permitted [CleansUp site token] middle between late := by
  obtain ⟨outcome, call, command, rest, rfl, state, committed⟩ := consumed
  obtain ⟨_, _, _, _, _, _, recommitted⟩ := again
  have revoked : TokenRevoked (site.sha256Hex token) middle.world := by
    simp only [Config.step?, state, Option.some.injEq] at moves
    subst moves
    exact (commit_consumes committed).2
  obtain ⟨_, _, _, _, _, rfl, start, allowed, deletes, ⟨marked, released⟩, finish⟩ :=
    (run.breaks (fun config => TokenRevoked (site.sha256Hex token) config.world) revoked
      (commit_consumes recommitted).1).single
  exact .next start allowed deletes (unrevoked_by_cleanup deletes marked released) (.none finish)

section

variable (sha256Hex : String → String) (old new : String) (expiresAt : Nat)

private theorem rotateRecordDb_passes (newTtl : Nat) (record : RefreshTokenRecord) :
    (RefreshStore.rotateRecordDb sha256Hex old new expiresAt newTtl record).Passes
      (CommitReply (sha256Hex old)) (· = .ok .rotated) := by
  simp only [RefreshStore.rotateRecordDb, RefreshStore.rotateRefreshTokenTx, nowUnixSecs_eq,
    database_eq, Program.call_bind, Program.done_bind]
  refine fun millis => .inr fun reply => ?_
  rcases reply with error | _ | row
  · exact .inr (by simp [Program.Passes])
  · refine .inr (Program.Passes.bind (.of_never _) fun _ _ => ?_)
    simp [Program.Passes]
  · exact .inl ⟨rfl, row, rfl⟩

private theorem doRotateDb_passes (newTtl : Nat) :
    (RefreshStore.doRotateDb sha256Hex old new expiresAt newTtl).Passes
      (CommitReply (sha256Hex old)) (· = .ok .rotated) := by
  refine Program.Passes.bind (.of_never _) fun reply _ => ?_
  rcases reply with error | _ | record
  · simp [Program.Passes]
  · simp [Program.Passes]
  · refine Program.Passes.bind (.of_never _) fun spent _ => ?_
    cases spent with
    | true => simp [Program.Passes]
    | false => exact rotateRecordDb_passes sha256Hex old new expiresAt newTtl record

/-- No rotation is answered `Rotated` without a commit. -/
theorem rotate_passes :
    (RefreshStore.rotate sha256Hex true old new expiresAt).Passes
      (CommitReply (sha256Hex old)) (· = .ok .rotated) := by
  unfold RefreshStore.rotate
  split
  · simp [Program.Passes]
  · split
    · simp [Program.Passes]
    · refine Program.Passes.bind (.of_never _) fun reply _ => ?_
      cases reply with
      | error error => simp [Program.Passes]
      | ok newTtl =>
        simp only [RefreshStore.rotateLocked, redis_eq, Program.call_bind, Program.done_bind]
        refine fun locked => .inr ?_
        rcases locked with error | _ | _
        · simp [Program.Passes]
        · simp [Program.Passes]
        · refine Program.Passes.bind (doRotateDb_passes sha256Hex old new expiresAt newTtl) ?_
          exact fun result failed => fun _ => .inr failed

end

/-- The client's rotation has not committed. -/
abbrev Uncommitted (site : Deployment) (client : Nat) (old new : String) (expiresAt : Nat) :
    site.system.Config → Prop :=
  Owes (CommitReply (site.sha256Hex old)) client (.rotate old new expiresAt) (· = .ok .rotated)

/-- Two rotations of one token that both answered `Rotated` are separated by the
deletion of its row: a row's lifetime yields at most one `Rotated`. -/
theorem rotations_separated_by_cleanup (site : Deployment) (world : World)
    {actions : List { site with db := true }.system.Action}
    {last : { site with db := true }.system.Config}
    (run : Run (fun _ _ => True) (.initial world) actions last) {first second : Nat}
    (different : first ≠ second) {old new new' : String} {expiresAt expiresAt' : Nat}
    (rotated : last.threads first = .returned (.rotate old new expiresAt) (.ok .rotated))
    (rotated' : last.threads second = .returned (.rotate old new' expiresAt') (.ok .rotated)) :
    Happens (fun _ _ => True)
        [Commits _ old first, CleansUp _ old, Commits _ old second] (.initial world) actions last ∨
      Happens (fun _ _ => True)
        [Commits _ old second, CleansUp _ old, Commits _ old first]
        (.initial world) actions last := by
  have passes (new : String) (expiresAt : Nat) := rotate_passes site.sha256Hex old new expiresAt
  have committed : ¬ Uncommitted { site with db := true } first old new expiresAt last :=
    fun owes => owes.returned _ rotated rfl
  have committed' : ¬ Uncommitted { site with db := true } second old new' expiresAt' last :=
    fun owes => owes.returned _ rotated' rfl
  obtain ⟨_, _, _, before, after, rfl, start, allowed, moves, consumed, finish⟩ :=
    (run.passes (passes new expiresAt) (.of_idle rfl) committed).single
  -- The other commit is still owed after this one, or it came before.
  by_cases owed : Uncommitted { site with db := true } second old new' expiresAt' after
  · obtain ⟨_, _, _, _, _, rfl, between, allowed', moves', again, finish'⟩ :=
      (finish.passes (passes new' expiresAt') owed committed').single
    obtain ⟨_, _, _, _, _, rfl, toDelete, permits, deletes, cleaned, fromDelete⟩ :=
      (cleanup_between_commits consumed moves between again).single
    refine .inl (.next start allowed moves consumed ?_)
    rw [List.append_assoc]
    exact .next toDelete permits deletes cleaned
      (.next fromDelete allowed' moves' again (.none finish'))
  · have earlier : ¬ Uncommitted { site with db := true } second old new' expiresAt' before :=
      fun owes => owed (owes.congr (consumed.others moves (Ne.symm different)))
    obtain ⟨_, _, _, _, _, rfl, start', allowed', moves', again, between⟩ :=
      (start.passes (passes new' expiresAt') (.of_idle rfl) earlier).single
    obtain ⟨_, _, _, _, _, rfl, toDelete, permits, deletes, cleaned, fromDelete⟩ :=
      (cleanup_between_commits again moves' between consumed).single
    right
    rw [List.append_assoc, List.cons_append, List.append_assoc]
    exact .next start' allowed' moves' again
      (.next toDelete permits deletes cleaned
        (.next fromDelete allowed moves consumed (.none finish)))

/-- A token that is issued again after the cleanup job can be rotated again. -/
theorem rotated_again_after_cleanup :
    ∃ actions last, Run (fun _ _ => True)
        (.initial (World.empty 1000000) : (Sample.site true).system.Config) actions last ∧
      (Happens (fun _ _ => True) [Commits _ Sample.oldToken 1, CleansUp _ Sample.oldToken,
          Commits _ Sample.oldToken 4] (.initial (World.empty 1000000)) actions last ∨
        Happens (fun _ _ => True) [Commits _ Sample.oldToken 4, CleansUp _ Sample.oldToken,
          Commits _ Sample.oldToken 1] (.initial (World.empty 1000000)) actions last) := by
  have evaluated : Config.runsTo (fun _ _ => True)
      (.initial (World.empty 1000000) : (Sample.site true).system.Config)
      ((Sample.site true).serve 0 (.issue Sample.oldToken "user_1" "device_1" 2000) 3 ++
        (Sample.site true).serve 1 (.rotate Sample.oldToken Sample.newToken 3000) 10 ++
        [.environment (.tick 1001000)] ++ (Sample.site true).serve 2 .cleanup 1 ++
        (Sample.site true).serve 3 (.issue Sample.oldToken "user_1" "device_1" 5000) 3 ++
        (Sample.site true).serve 4 (.rotate Sample.oldToken Sample.newerToken 6000) 10)
      (fun last => decide (last.answer? 1 (.rotate Sample.oldToken Sample.newToken 3000) =
          some (.ok .rotated)) &&
        decide (last.answer? 4 (.rotate Sample.oldToken Sample.newerToken 6000) =
          some (.ok .rotated))) = true := by
    decide +kernel
  obtain ⟨last, run, facts⟩ := Run.of_runsTo evaluated
  simp only [Bool.and_eq_true, decide_eq_true_eq] at facts
  refine ⟨_, last, run, ?_⟩
  exact rotations_separated_by_cleanup (Sample.site true) (World.empty 1000000) run (by decide)
    (Config.returned_of_answer? facts.1) (Config.returned_of_answer? facts.2)

end BrainMate.Gateway.RotationOnce
