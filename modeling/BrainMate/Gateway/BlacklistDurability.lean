import BrainMate.Gateway.Effects

namespace BrainMate.Gateway.BlacklistDurability

open Interleaving System

/-- After a revocation was acknowledged, at the second its last step was made, no
check that returns within the next `ttlSecs` seconds answers `false`. What may happen
during the revocation can depend on that second. -/
def Durable (site : Deployment) (jti : String) (ttlSecs : Nat)
    (during : Nat → site.system.Config → site.system.Action → Prop) : Prop :=
  ∀ (clock : Nat) (before earlier after : List site.system.Action)
    (present returning acknowledged final : site.system.Config) (client reader : Nat)
    (outcome : Outcome) (answer : Except ApiError Bool),
    Run (fun _ _ => True) (.initial (World.empty clock)) before present →
    present.threads client = .idle →
    Run (during acknowledged.world.second) present earlier returning →
    during acknowledged.world.second returning (.step client outcome) →
    returning.step? (.step client outcome) = some acknowledged →
    acknowledged.threads client = .returned (.blacklist jti ttlSecs) (.ok ()) →
    acknowledged.threads reader = .idle →
    Run (fun _ _ => True) acknowledged after final →
    final.threads reader = .returned (.isBlacklisted jti) answer →
    final.world.second < acknowledged.world.second + ttlSecs → answer ≠ .ok false

/-- The row is there and expires no earlier, or that time has passed. -/
def RowLasts (jti : String) (expiry : Nat) (world : World) : Prop :=
  (∃ row, world.db.blacklist.find? jti = some row ∧ (expiry : Int) ≤ row.expiresAt) ∨
    expiry ≤ world.second

instance (jti : String) (expiry : Nat) (world : World) : Decidable (RowLasts jti expiry world) :=
  decidable_of_iff ((world.db.blacklist.find? jti).any
      (fun row => decide ((expiry : Int) ≤ row.expiresAt)) = true ∨ expiry ≤ world.second)
    (by simp [RowLasts, Option.any_eq_true])

/-- While no row lasts until `expiry`, the clock second does not change, and an
INSERT finds no row and an expiry in range. -/
def promptRules (site : Deployment) (jti : String) (ttlSecs expiry : Nat) :
    site.system.Rules where
  admits world command _ := RowLasts jti expiry world ∨
    (command = .db (.addToBlacklist jti (addI64 (asI64 world.second) (asI64 ttlSecs))) →
      world.db.blacklist.find? jti = none ∧ world.second + ttlSecs < 2 ^ 63)
  occurs world event := RowLasts jti expiry world ∨ (environment event world).second = world.second

instance (site : Deployment) (jti : String) (ttlSecs expiry : Nat) (world : World)
    (command : Command) (outcome : Outcome) :
    Decidable ((promptRules site jti ttlSecs expiry).admits world command outcome) := by
  unfold promptRules
  infer_instance

instance (site : Deployment) (jti : String) (ttlSecs expiry : Nat) (world : World) (event : Event) :
    Decidable ((promptRules site jti ttlSecs expiry).occurs world event) := by
  unfold promptRules
  infer_instance

/-- Anything may happen. -/
def openRules (site : Deployment) : site.system.Rules where
  admits _ _ _ := True
  occurs _ _ := True

/-- Only the cleanup job removes a row, and only an expired one. -/
theorem effect_blacklist (command : DbCommand) (world : World) {jti : String} {row : DbBlacklisted}
    (found : world.db.blacklist.find? jti = some row) :
    (command.effect world).blacklist.find? jti = some row ∨ row.expiresAt < world.pgEpoch := by
  cases command
  case addToBlacklist added expiresAt =>
    left
    simp only [DbCommand.effect, Storage.Table.find?_insertNew, found, Option.getD_some, ite_self]
  case rotateRefreshTokenTx =>
    left
    simp only [DbCommand.effect]
    split <;> exact found
  case cleanupExpiredAuth =>
    by_cases expired : row.expiresAt < world.pgEpoch
    · exact .inr expired
    · left
      simp [DbCommand.effect, found, expired]
  all_goals exact .inl found

private theorem second_of_pgEpoch {world : World} {expiresAt : Int}
    (expired : expiresAt < world.pgEpoch) :
    expiresAt ≤ world.second := by
  unfold World.pgEpoch at expired
  unfold World.second
  omega

theorem RowLasts.exec {jti : String} {expiry : Nat} {world : World}
    (lasts : RowLasts jti expiry world) (outcome : Outcome) (command : Command) :
    RowLasts jti expiry (Command.exec outcome command world).2 := by
  have clock := Command.exec_clock outcome command world
  rcases lasts with ⟨row, found, long⟩ | passed
  · rcases Command.exec_world outcome command world with same | same <;> rw [same] at clock ⊢
    · exact .inl ⟨row, found, long⟩
    · cases command with
      | now => exact .inl ⟨row, found, long⟩
      | http => exact .inl ⟨row, found, long⟩
      | redis command => exact .inl ⟨row, by simpa [Command.effect] using found, long⟩
      | db command =>
        rcases effect_blacklist command world found with kept | expired
        · exact .inl ⟨row, kept, long⟩
        · have past := second_of_pgEpoch expired
          exact .inr (by simp only [World.second, clock] at past ⊢; omega)
  · exact .inr (by simpa only [World.second, clock] using passed)

private theorem second_environment (event : Event) (world : World) :
    world.second ≤ (environment event world).second := by
  cases event with
  | tick milliseconds => exact Nat.div_le_div_right (Nat.le_add_right _ _)
  | evict key => exact Nat.le_refl _

theorem RowLasts.environment {jti : String} {expiry : Nat} {world : World}
    (lasts : RowLasts jti expiry world) (event : Event) :
    RowLasts jti expiry (Gateway.environment event world) := by
  refine lasts.imp (fun ⟨row, found, long⟩ => ⟨row, by simpa using found, long⟩) fun passed => ?_
  exact Nat.le_trans passed (second_environment event world)

section

variable {site : Deployment} {jti : String} {ttlSecs expiry : Nat}

private theorem lasts_stable (rules : site.system.Rules) : rules.Stable (RowLasts jti expiry) where
  command _ command outcome _ _ lasts := lasts.exec outcome command
  event _ event _ lasts := lasts.environment event

/-- The clock has reached this second. -/
theorem reached_stable (rules : site.system.Rules) (second : Nat) :
    rules.Stable (fun world => second ≤ world.second) where
  command world command outcome _ _ reached := by
    simpa only [World.second, Command.exec_clock] using reached
  event world event _ reached := Nat.le_trans reached (second_environment event world)

theorem denial_stable {rules : site.system.Rules} {denied : Prop} :
    rules.Stable (fun world => denied → expiry ≤ world.second) :=
  .imp fun _ => reached_stable rules expiry

/-- Either the row lasts, or the clock still shows the second at which it was read. -/
theorem prompt_stable (second : Nat) : (promptRules site jti ttlSecs expiry).Stable
    (fun world => RowLasts jti expiry world ∨ world.second = second) where
  command world command outcome _ _ holds := by
    refine holds.imp (fun lasts => lasts.exec outcome command) fun same => ?_
    simpa only [World.second, Command.exec_clock] using same
  event world event occurs holds := by
    rcases holds with lasts | same
    · exact .inl (lasts.environment event)
    · exact occurs.imp (fun lasts => lasts.environment event) fun unchanged => unchanged.trans same

/-- The row lasts for the TTL from now on, unless it is known to last long enough. -/
theorem settled_stable : (promptRules site jti ttlSecs expiry).Stable
    (fun world => RowLasts jti expiry world ∨ RowLasts jti (world.second + ttlSecs) world) where
  command world command outcome _ _ holds := by
    refine holds.imp (fun lasts => lasts.exec outcome command) fun lasts => ?_
    simpa only [World.second, Command.exec_clock] using lasts.exec outcome command
  event world event occurs holds := by
    rcases occurs with lasts | unchanged
    · exact .inl (lasts.environment event)
    · rw [unchanged]
      exact holds.imp (fun lasts => lasts.environment event) fun lasts => lasts.environment event

/-- The INSERT of a prompt revocation leaves a row that lasts. -/
theorem insert_lasts {world : World} {outcome : Outcome}
    (vacant : world.db.blacklist.find? jti = none) (bounded : world.second + ttlSecs < 2 ^ 63)
    (answered : (Command.exec outcome
      (.db (.addToBlacklist jti (addI64 (asI64 world.second) (asI64 ttlSecs)))) world).1 = .ok ()) :
    RowLasts jti (world.second + ttlSecs) (Command.exec outcome
      (.db (.addToBlacklist jti (addI64 (asI64 world.second) (asI64 ttlSecs)))) world).2 := by
  rw [addI64_asI64 bounded] at answered ⊢
  cases outcome with
  | lost => cases answered
  | applied => cases answered
  | success =>
    refine .inl ⟨⟨jti, (world.second + ttlSecs : Nat)⟩, ?_, Int.le_refl _⟩
    simp only [Command.exec, Command.effect, DbCommand.effect, Storage.Table.find?_insertNew,
      ↓reduceIte, vacant, Option.getD_none]

theorem revoke_outline :
    (promptRules site jti ttlSecs expiry).Outline (fun _ => True)
      (fun answer world => answer = .ok () →
        RowLasts jti expiry world ∨ RowLasts jti (world.second + ttlSecs) world)
      (TokenBlacklist.revoke true jti ttlSecs) := by
  unfold TokenBlacklist.revoke
  split
  · exact fun _ _ impossible => by cases impossible
  · simp only [↓reduceIte, nowUnixSecs_eq, database_eq, Program.call_bind, Program.done_bind]
    refine ⟨fun millis world => RowLasts jti expiry world ∨ world.second = millis / 1000,
      fun _ => prompt_stable _, ?_, fun millis => ?_⟩
    · intro world outcome _ _
      refine ⟨trivial, .inr ?_⟩
      cases outcome <;> rfl
    · refine ⟨fun reply world => reply = .ok () →
        RowLasts jti expiry world ∨ RowLasts jti (world.second + ttlSecs) world,
        fun _ => .imp fun _ => settled_stable, ?_, ?_⟩
      · intro world outcome holds admitted
        refine ⟨trivial, fun answered => ?_⟩
        rcases holds with lasts | same
        · exact .inl (lasts.exec outcome _)
        · rcases admitted with lasts | insertable
          · exact .inl (lasts.exec outcome _)
          · rw [← same] at insertable answered ⊢
            obtain ⟨vacant, bounded⟩ := insertable rfl
            have lasts := insert_lasts vacant bounded answered
            exact .inr (by simpa only [World.second, Command.exec_clock] using lasts)
      · intro reply
        rcases reply with error | _
        · exact fun _ _ impossible => by cases impossible
        · simp only [TokenBlacklist.cacheRevocation, redis_eq, Program.call_bind,
            Program.done_bind]
          refine .skip (.imp fun _ => settled_stable) (fun _ _ _ _ => trivial) fun cached => ?_
          rcases cached with error | _
          · exact fun _ holds _ => holds trivial
          · exact fun _ holds _ => holds trivial

private theorem asI64_le (value : Nat) : asI64 value ≤ value := by
  unfold asI64
  omega

/-- The database denies a lasting row only when its time has passed. -/
theorem checkBlacklist_denies {world : World} {outcome : Outcome} {second : Nat}
    {entry : BlacklistEntry} (lasts : RowLasts jti expiry world) (reached : second ≤ world.second)
    (answered : (Command.exec outcome (.db (.checkBlacklist jti (asI64 second))) world).1 =
      .ok entry) (absent : entry.present = false) : expiry ≤ world.second := by
  rcases lasts with ⟨row, found, long⟩ | passed
  · cases outcome with
    | lost => cases answered
    | applied => cases answered
    | success =>
      by_cases alive : asI64 second < row.expiresAt
      · simp only [Command.exec, Command.answer, DbCommand.answer, found, Option.filter_some, alive,
          decide_true, ↓reduceIte, Except.ok.injEq] at answered
        subst answered
        cases absent
      · have late := asI64_le second
        omega
  · exact passed

private theorem isBlacklistedDb_outline :
    (openRules site).Outline (RowLasts jti expiry)
      (fun answer world => answer = .ok false → expiry ≤ world.second)
      (TokenBlacklist.isBlacklistedDb jti) := by
  simp only [TokenBlacklist.isBlacklistedDb, TokenBlacklist.checkBlacklist, nowUnixSecs_eq,
    database_eq, Program.call_bind, Program.done_bind]
  refine ⟨fun millis world => RowLasts jti expiry world ∧ millis / 1000 ≤ world.second,
    fun _ => (lasts_stable _).and (reached_stable _ _), ?_, fun millis => ?_⟩
  · intro world outcome lasts _
    refine ⟨trivial, lasts.exec outcome .now, ?_⟩
    cases outcome <;> exact Nat.le_refl _
  · refine ⟨fun reply world => (∃ entry, reply = .ok entry ∧ entry.present = false) →
      expiry ≤ world.second, fun _ => denial_stable, ?_, ?_⟩
    · intro world outcome holds admitted
      refine ⟨trivial, fun ⟨entry, answered, absent⟩ => ?_⟩
      have passed := checkBlacklist_denies holds.1 holds.2 answered absent
      exact (reached_stable _ expiry).command world _ outcome admitted trivial passed
    · intro reply
      rcases reply with error | ⟨_ | _, _ | expiresAt⟩
      · exact fun _ _ impossible => by cases impossible
      · exact fun _ holds _ => holds ⟨_, rfl, rfl⟩
      · exact fun _ holds _ => holds ⟨_, rfl, rfl⟩
      · exact fun _ _ impossible => by cases impossible
      · simp only [redis_eq, Program.call_bind, Program.done_bind]
        refine .skip denial_stable (fun _ _ _ _ => trivial) fun _ => ?_
        refine .skip denial_stable (fun _ _ _ _ => trivial) fun _ => ?_
        exact fun _ _ impossible => by cases impossible

private theorem isBlacklisted_outline :
    (openRules site).Outline (RowLasts jti expiry)
      (fun answer world => answer = .ok false → expiry ≤ world.second)
      (TokenBlacklist.isBlacklisted true jti) := by
  unfold TokenBlacklist.isBlacklisted
  split
  · exact fun _ _ impossible => by cases impossible
  · simp only [redis_eq, Program.call_bind, Program.done_bind]
    refine .skip (lasts_stable _) (fun _ _ _ _ => trivial) fun reply => ?_
    rcases reply with error | _ | _
    · exact isBlacklistedDb_outline
    · exact isBlacklistedDb_outline
    · exact fun _ _ impossible => by cases impossible

end

private theorem openRules_governs (site : Deployment) :
    (openRules site).Governs fun _ _ => True := by
  intro config action _
  cases action with
  | start => trivial
  | environment => trivial
  | step client outcome =>
    simp only [Rules.permits]
    split <;> trivial

/-- A revocation lasts for its whole TTL, if its INSERT finds a row that does, or finds
none, in range, and the call returns in the second in which it read the clock. -/
theorem durable_of_prompt (site : Deployment) (jti : String) (ttlSecs : Nat) :
    Durable { site with db := true } jti ttlSecs (fun second =>
      (promptRules { site with db := true } jti ttlSecs (second + ttlSecs)).permits) := by
  intro clock before earlier after present returning acknowledged final client reader outcome answer
    _ idle revoking allowed returns revoked fresh checking checked early denied
  have whole := revoking.trans (.step allowed returns .refl)
  have lasts : RowLasts jti (acknowledged.world.second + ttlSecs) acknowledged.world := by
    have settled := whole.outline
      (fun answer (world : World) => answer = Except.ok () →
        RowLasts jti (acknowledged.world.second + ttlSecs) world ∨
          RowLasts jti (world.second + ttlSecs) world)
      (fun _ _ permitted => permitted) (fun _ _ _ => trivial) revoke_outline (.pure True)
      (fun _ => .imp fun _ => settled_stable) idle trivial revoked rfl
    exact settled.elim id id
  have passed := checking.outline
    (fun answer (world : World) => answer = Except.ok false →
      acknowledged.world.second + ttlSecs ≤ world.second)
    (openRules_governs { site with db := true }) (fun _ _ _ => trivial) isBlacklisted_outline
    (lasts_stable _) (fun _ => denial_stable) fresh lasts checked denied
  omega

theorem revoked_token_blacklisted :
    ∃ acknowledged final : (Sample.site true).system.Config, Run (fun _ _ => True) acknowledged
        ([.environment (.evict (.blacklist "jti_1")), .environment (.tick 3599000)] ++
          (Sample.site true).serve 2 (.isBlacklisted "jti_1") 5) final ∧
      acknowledged.threads 1 = .returned (.blacklist "jti_1" 3600) (.ok ()) ∧
      ∃ answer, final.threads 2 = .returned (.isBlacklisted "jti_1") answer ∧
        answer ≠ .ok false := by
  have evaluated : Config.runsTo (promptRules (Sample.site true) "jti_1" 3600 4600).permits
      (.initial (World.empty 1000000)) ((Sample.site true).serve 1 (.blacklist "jti_1" 3600) 2)
      (fun returning =>
        decide ((promptRules (Sample.site true) "jti_1" 3600 4600).permits returning
          (.step 1 Outcome.success)) &&
        (returning.step? (.step 1 Outcome.success)).any fun acknowledged =>
          decide (acknowledged.world.second = 1000) &&
          decide (acknowledged.answer? 1 (.blacklist "jti_1" 3600) = some (.ok ())) &&
          (acknowledged.threads 2).isIdle &&
          acknowledged.runsTo (fun _ _ => True)
            ([.environment (.evict (.blacklist "jti_1")), .environment (.tick 3599000)] ++
              (Sample.site true).serve 2 (.isBlacklisted "jti_1") 5)
            (fun final => decide (final.world.second < 4600) &&
              (final.answer? 2 (.isBlacklisted "jti_1")).isSome)) = true := by
    decide +kernel
  obtain ⟨returning, revoking, facts⟩ := Run.of_runsTo evaluated
  simp only [Bool.and_eq_true, decide_eq_true_eq] at facts
  obtain ⟨allowed, returned⟩ := facts
  obtain ⟨acknowledged, returns, facts⟩ := (Option.any_eq_true _ _).mp returned
  simp only [Bool.and_eq_true, decide_eq_true_eq] at facts
  obtain ⟨⟨⟨second, revoked⟩, fresh⟩, evaluated⟩ := facts
  obtain ⟨final, checking, facts⟩ := Run.of_runsTo evaluated
  simp only [Bool.and_eq_true, decide_eq_true_eq] at facts
  obtain ⟨early, answered⟩ := facts
  obtain ⟨answer, answered⟩ := Option.isSome_iff_exists.mp answered
  have acknowledges := Config.returned_of_answer? revoked
  have checked := Config.returned_of_answer? answered
  have expiry : acknowledged.world.second + 3600 = 4600 := by rw [second]
  rw [← expiry] at revoking allowed early
  exact ⟨acknowledged, final, checking, acknowledges, answer, checked,
    durable_of_prompt (Sample.site true) "jti_1" 3600 1000000 [] _ _ (.initial _) returning
      acknowledged final 1 2 .success answer .refl rfl revoking allowed returns acknowledges
      (Thread.eq_idle fresh) checking checked early⟩

/-- A token revoked for ten seconds and then for an hour: the row keeps the first
expiry, and Redis loses the second one. -/
theorem longer_revocation_lost :
    ¬ Durable (Sample.site true) "jti_1" 3600 (fun _ _ _ => True) := by
  intro durable
  have evaluated : Config.runsTo (fun _ _ => True)
      (.initial (World.empty 1000000) : (Sample.site true).system.Config)
      ((Sample.site true).serve 0 (.blacklist "jti_1" 10) 3)
      (fun present => (present.threads 1).isIdle &&
        present.runsTo (fun _ _ => True)
          ((Sample.site true).serve 1 (.blacklist "jti_1" 3600) 2)
          (fun returning => (returning.step? (.step 1 Outcome.success)).any fun acknowledged =>
            decide (acknowledged.answer? 1 (.blacklist "jti_1" 3600) = some (.ok ())) &&
            (acknowledged.threads 2).isIdle &&
            acknowledged.runsTo (fun _ _ => True)
              ([.environment (.evict (.blacklist "jti_1")), .environment (.tick 20000)] ++
                (Sample.site true).serve 2 (.isBlacklisted "jti_1") 3)
              (fun final => decide (final.world.second < acknowledged.world.second + 3600) &&
                decide (final.answer? 2 (.isBlacklisted "jti_1") = some (.ok false))))) = true := by
    decide +kernel
  obtain ⟨present, earlier, facts⟩ := Run.of_runsTo evaluated
  simp only [Bool.and_eq_true] at facts
  obtain ⟨idle, evaluated⟩ := facts
  obtain ⟨returning, revoking, returned⟩ := Run.of_runsTo evaluated
  obtain ⟨acknowledged, returns, facts⟩ := (Option.any_eq_true _ _).mp returned
  simp only [Bool.and_eq_true, decide_eq_true_eq] at facts
  obtain ⟨⟨revoked, fresh⟩, evaluated⟩ := facts
  obtain ⟨final, checking, facts⟩ := Run.of_runsTo evaluated
  simp only [Bool.and_eq_true, decide_eq_true_eq] at facts
  obtain ⟨early, denied⟩ := facts
  exact durable 1000000 _ _ _ present returning acknowledged final 1 2 .success _ earlier
    (Thread.eq_idle idle) revoking trivial returns (Config.returned_of_answer? revoked)
    (Thread.eq_idle fresh) checking (Config.returned_of_answer? denied) early rfl

end BrainMate.Gateway.BlacklistDurability
