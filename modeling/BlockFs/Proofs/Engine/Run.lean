import BlockFs.Engine

/-!
How computations on a device run: one rule for each way to build them.

`Engine.Keeps` says that a computation relates every host to the one that it leaves, whether or not
it fails.  It is closed under sequencing for every preorder on hosts.
-/

namespace BlockFs.Engine

variable {δ α β : Type} {work : Engine δ α} {next : α → Engine δ β} {host after : Host δ}

theorem run_bind_of_ok {value : α} {between : Host δ}
    (first : work.run.run host = (.ok value, between)) :
    (work >>= next).run.run host = (next value).run.run between := by
  rw [ExceptT.run_bind, StateT.run_bind, first]
  rfl

theorem run_bind_of_error {error : Error} (first : work.run.run host = (.error error, after)) :
    (work >>= next).run.run host = (.error error, after) := by
  rw [ExceptT.run_bind, StateT.run_bind, first]
  rfl

/-- A sequence either gets behind its first part or ends with its failure. -/
theorem bind_cases {answer : Except Error β}
    (ran : (work >>= next).run.run host = (answer, after)) :
    (∃ value between, work.run.run host = (.ok value, between) ∧
      (next value).run.run between = (answer, after)) ∨
    ∃ error, work.run.run host = (.error error, after) ∧ answer = .error error := by
  cases first : work.run.run host with
  | mk found between =>
      cases found with
      | error error =>
          rw [run_bind_of_error first] at ran
          cases ran
          exact .inr ⟨error, rfl, rfl⟩
      | ok value =>
          rw [run_bind_of_ok first] at ran
          exact .inl ⟨value, between, rfl, ran⟩

theorem bind_eq_ok {value : β} (ran : (work >>= next).run.run host = (.ok value, after)) :
    ∃ middle between, work.run.run host = (.ok middle, between) ∧
      (next middle).run.run between = (.ok value, after) := by
  obtain found | ⟨_, _, failed⟩ := bind_cases ran
  · exact found
  · cases failed

theorem run_tryCatch_of_ok {value : α} {handler : Error → Engine δ α}
    (ran : work.run.run host = (.ok value, after)) :
    (tryCatch work handler).run.run host = (.ok value, after) := by
  rw [ExceptT.run_tryCatch, StateT.run_bind, ran]
  rfl

theorem run_tryCatch_of_error {error : Error} {handler : Error → Engine δ α}
    (ran : work.run.run host = (.error error, after)) :
    (tryCatch work handler).run.run host = (handler error).run.run after := by
  rw [ExceptT.run_tryCatch, StateT.run_bind, ran]
  rfl

theorem run_lift (result : Except Error α) (host : Host δ) :
    (liftM result : Engine δ α).run.run host = (result, host) := by
  cases result <;> rfl

/-- A step that calls no device goes on where it was, or ends with its failure. -/
theorem lift_bind_cases {result : Except Error α} {answer : Except Error β}
    (ran : ((liftM result : Engine δ α) >>= next).run.run host = (answer, after)) :
    (∃ value, result = .ok value ∧ (next value).run.run host = (answer, after)) ∨
      ∃ error, result = .error error ∧ answer = .error error ∧ after = host := by
  cases result with
  | error error =>
      rw [run_bind_of_error (run_lift _ host)] at ran
      cases ran
      exact .inr ⟨error, rfl, rfl, rfl⟩
  | ok value =>
      rw [run_bind_of_ok (run_lift _ host)] at ran
      exact .inl ⟨value, rfl, ran⟩

theorem lift_bind_eq_ok {result : Except Error α} {value : β}
    (ran : ((liftM result : Engine δ α) >>= next).run.run host = (.ok value, after)) :
    ∃ middle, result = .ok middle ∧ (next middle).run.run host = (.ok value, after) := by
  obtain found | ⟨_, _, failed, _⟩ := lift_bind_cases ran
  · exact found
  · cases failed

theorem run_pure (value : α) (host : Host δ) :
    (pure value : Engine δ α).run.run host = (.ok value, host) :=
  rfl

theorem run_get (host : Host δ) : (get : Engine δ (Host δ)).run.run host = (.ok host, host) :=
  rfl

theorem run_report (event : Event) (host : Host δ) :
    (report event).run.run host = (.ok (), { host with events := host.events.push event }) :=
  rfl

theorem run_call (region : Region) (transfer : δ → Except DeviceError α × δ) (host : Host δ) :
    (call region transfer).run.run host =
      ((transfer host.device).1.mapError (.device region),
        { host with device := (transfer host.device).2 }) :=
  rfl

theorem run_call_eq_ok {region : Region} {transfer : δ → Except DeviceError α × δ} {value : α}
    (ran : (call region transfer).run.run host = (.ok value, after)) :
    (transfer host.device).1 = .ok value ∧
      after = { host with device := (transfer host.device).2 } := by
  rw [run_call, Prod.mk.injEq] at ran
  obtain ⟨answered, rfl⟩ := ran
  cases answer : (transfer host.device).1 with
  | error cause =>
      rw [answer] at answered
      cases answered
  | ok found =>
      rw [answer] at answered
      cases answered
      exact ⟨rfl, rfl⟩

theorem run_reserve (bytes : Nat) (host : Host δ) :
    (reserve bytes).run.run host =
      if host.bufferLimit < bytes then (.error (.outOfMemory bytes), host) else (.ok (), host) := by
  rw [reserve, run_bind_of_ok (run_get host)]
  split <;> rfl

theorem run_reserve_of_le {bytes : Nat} (room : bytes ≤ host.bufferLimit) :
    (reserve bytes).run.run host = (.ok (), host) := by
  rw [run_reserve, if_neg (Nat.not_lt.mpr room)]

theorem reserve_eq_ok {bytes : Nat} (ran : (reserve bytes).run.run host = (.ok (), after)) :
    bytes ≤ host.bufferLimit ∧ after = host := by
  rw [run_reserve] at ran
  split at ran
  · cases ran
  · rename_i room
    cases ran
    exact ⟨Nat.le_of_not_lt room, rfl⟩

/-- Whatever a computation answers, the host afterwards is related to the one before. -/
def Keeps (relation : Host δ → Host δ → Prop) (work : Engine δ α) : Prop :=
  ∀ host, relation host (work.run.run host).2

section Keeps

variable {relation : Host δ → Host δ → Prop}

theorem Keeps.of_run {answer : Except Error α} (keeps : Keeps relation work)
    (ran : work.run.run host = (answer, after)) : relation host after := by
  have kept := keeps host
  rwa [ran] at kept

theorem Keeps.bind (transitive : ∀ {first second third : Host δ},
      relation first second → relation second third → relation first third)
    (keeps : Keeps relation work) (keepsNext : ∀ value, Keeps relation (next value)) :
    Keeps relation (work >>= next) := by
  intro host
  have kept := keeps host
  cases first : work.run.run host with
  | mk found between =>
      rw [first] at kept
      cases found with
      | error error =>
          rw [run_bind_of_error first]
          exact kept
      | ok value =>
          rw [run_bind_of_ok first]
          exact transitive kept (keepsNext value between)

theorem Keeps.tryCatch (transitive : ∀ {first second third : Host δ},
      relation first second → relation second third → relation first third)
    {handler : Error → Engine δ α} (keeps : Keeps relation work)
    (keepsNext : ∀ error, Keeps relation (handler error)) :
    Keeps relation (tryCatch work handler) := by
  intro host
  have kept := keeps host
  cases first : work.run.run host with
  | mk found between =>
      rw [first] at kept
      cases found with
      | error error =>
          rw [run_tryCatch_of_error first]
          exact transitive kept (keepsNext error between)
      | ok value =>
          rw [run_tryCatch_of_ok first]
          exact kept

theorem keeps_lift (reflexive : ∀ host, relation host host) (result : Except Error α) :
    Keeps relation (liftM result : Engine δ α) := by
  intro host
  rw [run_lift]
  exact reflexive host

end Keeps

end BlockFs.Engine
