import CityBus.GuardedRuns
import CityBus.LiveTracking

/-!
`updateDriverLocation` and `removeSession` on different threads, one map step at
a time. A frame is a call between two of its steps. The steps of one call, taken
without interruption, are the call of `LiveTracking`.
-/

namespace CityBus.TrackingThreads

open GeoUtils KeyedMaps LiveTracking GuardedRuns

/-- The arguments of `updateDriverLocation` and the time it read. -/
structure Ping (K : Type) where
  lat : K
  lng : K
  accuracy : Option K
  visible : Option Bool
  now : Int

inductive Frame (K : Type) where
  | retiring (busCode : String)
  | pinging (busCode clientId : String) (ping : Ping K)
  | missing (busCode clientId : String) (ping : Ping K)
  | writing (busCode : String) (ping : Ping K)

structure Threads (K : Type) where
  tracking : Tracking K
  frames : Nat → Option (Frame K)

/-- `hits` tells whether the bus that the thread holds is still the one in the map. -/
inductive Action (K : Type) where
  | call (now : Int) (call : Call K)
  | removeSession (thread : Nat) (sessionId : String)
  | removeBus (thread : Nat)
  | getSession (thread : Nat) (sessionId : String) (ping : Ping K)
  | getBus (thread : Nat)
  | computeIfAbsent (thread : Nat)
  | addPoint (thread : Nat) (hits : Bool)

variable {K : Type}

def Threads.empty : Threads K := ⟨Tracking.empty, fun _ => none⟩

def Threads.move (threads : Threads K) (thread : Nat) (tracking : Tracking K)
    (frame : Option (Frame K)) : Threads K :=
  ⟨tracking, Function.update threads.frames thread frame⟩

def changeBus (tracking : Tracking K) (busCode : String) (ping : Ping K) : Tracking K :=
  match tracking.liveBuses.lookup busCode with
  | none => tracking
  | some bus => tracking.putBus (bus.locate ping.lat ping.lng ping.accuracy ping.visible ping.now)

section Steps
variable [Field K] [LinearOrder K] (geo : GeoDistance K) (threads : Threads K)

omit [Field K] [LinearOrder K] in
/-- The first step of `removeSession`: of a driver the bus is still to be removed. -/
def startRemoval (thread : Nat) (sessionId : String) : Threads K :=
  threads.move thread (threads.tracking.dropSession sessionId)
    ((driverBus threads.tracking sessionId).map .retiring)

/-- The first step of `updateDriverLocation`; a location that is not taken ends it. -/
def startPing (thread : Nat) (sessionId : String) (ping : Ping K) : Threads K :=
  match LiveTracking.getSession threads.tracking sessionId with
  | none => threads
  | some session =>
      match session.role.busCode with
      | none => threads
      | some busCode =>
          -- The thread keeps the session it found and does not look it up again.
          if isValidLatitude ping.lat && isValidLongitude ping.lng then
            threads.move thread
              (threads.tracking.changeSession sessionId fun session =>
                { session with coords := some (ping.lat, ping.lng), lastSeen := ping.now })
              (some (.pinging busCode session.clientId ping))
          else threads

omit [Field K] [LinearOrder K] in
def resume (thread : Nat) (frame : Frame K) : Action K → Option (Threads K)
  | .removeBus _ =>
      match frame with
      | .retiring busCode => some (threads.move thread (threads.tracking.dropBus busCode) none)
      | _ => none
  | .getBus _ =>
      match frame with
      | .pinging busCode clientId ping =>
          if (threads.tracking.liveBuses.lookup busCode).isSome then
            some (threads.move thread threads.tracking (some (.writing busCode ping)))
          else some (threads.move thread threads.tracking (some (.missing busCode clientId ping)))
      | _ => none
  | .computeIfAbsent _ =>
      match frame with
      | .missing busCode clientId ping =>
          let bus := LiveTracking.computeIfAbsent threads.tracking ping.now busCode clientId
          some (threads.move thread (threads.tracking.putBus bus) (some (.writing busCode ping)))
      | _ => none
  | .addPoint _ hits =>
      match frame with
      | .writing busCode ping =>
          let tracking :=
            if hits then changeBus threads.tracking busCode ping else threads.tracking
          some (threads.move thread tracking none)
      | _ => none
  | _ => none

def step (action : Action K) : Option (Threads K) :=
  match action with
  | .call now call => some ⟨perform geo threads.tracking now call, threads.frames⟩
  | .removeSession thread sessionId =>
      if (threads.frames thread).isSome then none
      else some (startRemoval threads thread sessionId)
  | .getSession thread sessionId ping =>
      if (threads.frames thread).isSome then none else some (startPing threads thread sessionId ping)
  | .removeBus thread | .getBus thread | .computeIfAbsent thread | .addPoint thread _ =>
      (threads.frames thread).bind fun frame => resume threads thread frame action

end Steps

/-! ## Whole calls -/

section Whole
variable [Field K] [LinearOrder K] (geo : GeoDistance K) {threads : Threads K} {thread : Nat}

omit [Field K] [LinearOrder K] in
theorem tracking_eq {left right : Tracking K} (sessions : left.sessions = right.sessions)
    (buses : left.liveBuses = right.liveBuses) : left = right := by
  cases left
  cases right
  cases sessions
  cases buses
  rfl

omit [Field K] [LinearOrder K] in
@[simp] theorem move_frame (tracking : Tracking K) (frame : Option (Frame K)) :
    (threads.move thread tracking frame).frames thread = frame := by
  simp [Threads.move]

omit [Field K] [LinearOrder K] in
@[simp] theorem move_tracking (tracking : Tracking K) (frame : Option (Frame K)) :
    (threads.move thread tracking frame).tracking = tracking := rfl

omit [Field K] [LinearOrder K] in
@[simp] theorem move_move (tracking next : Tracking K) (frame last : Option (Frame K)) :
    (threads.move thread tracking frame).move thread next last =
      threads.move thread next last := by
  simp [Threads.move]

omit [Field K] [LinearOrder K] in
theorem move_idle (tracking : Tracking K) (idle : threads.frames thread = none) :
    threads.move thread tracking none = ⟨tracking, threads.frames⟩ := by
  rw [Threads.move, ← idle, Function.update_eq_self]

def removalSteps (tracking : Tracking K) (thread : Nat) (sessionId : String) : List (Action K) :=
  .removeSession thread sessionId ::
    if (driverBus tracking sessionId).isSome then [.removeBus thread] else []

def pingSteps (tracking : Tracking K) (thread : Nat) (sessionId : String) (ping : Ping K) :
    List (Action K) :=
  .getSession thread sessionId ping ::
    match locatedBus tracking ping.now sessionId ping.lat ping.lng ping.accuracy ping.visible with
    | none => []
    | some bus =>
        if (tracking.liveBuses.lookup bus.busCode).isSome then
          [.getBus thread, .addPoint thread true]
        else [.getBus thread, .computeIfAbsent thread, .addPoint thread true]

/-- The steps of a removal, taken without interruption, are `removeSession`. -/
theorem removal_uninterrupted (sessionId : String) (idle : threads.frames thread = none) :
    exec (step geo) threads (removalSteps threads.tracking thread sessionId) =
      some ⟨LiveTracking.removeSession threads.tracking sessionId, threads.frames⟩ := by
  cases found : LiveTracking.getSession threads.tracking sessionId with
  | none =>
      have undriven : driverBus threads.tracking sessionId = none := by simp [driverBus, found]
      have same : threads.tracking.dropSession sessionId = threads.tracking := by
        apply tracking_eq
        · exact AList.ext (List.kerase_of_notMem_keys (AList.lookup_eq_none.mp found))
        · rfl
      simp [removalSteps, exec, step, idle, startRemoval, undriven, same,
        LiveTracking.removeSession, found, move_idle]
  | some session =>
      cases role : session.role.busCode with
      | none =>
          have undriven : driverBus threads.tracking sessionId = none := by
            simp [driverBus, found, role]
          simp [removalSteps, exec, step, idle, startRemoval, undriven,
            LiveTracking.removeSession, found, retireBus, role, move_idle]
      | some busCode =>
          have drives : driverBus threads.tracking sessionId = some busCode := by
            simp [driverBus, found, role]
          simp [removalSteps, exec, step, idle, startRemoval, drives, resume,
            LiveTracking.removeSession, found, retireBus, role, move_idle]

theorem ping_uninterrupted (sessionId : String) (ping : Ping K)
    (idle : threads.frames thread = none) :
    exec (step geo) threads (pingSteps threads.tracking thread sessionId ping) =
      some ⟨updateDriverLocation threads.tracking ping.now sessionId ping.lat ping.lng
        ping.accuracy ping.visible, threads.frames⟩ := by
  cases found : LiveTracking.getSession threads.tracking sessionId with
  | none =>
      simp [pingSteps, locatedBus, found, exec, step, idle, startPing, updateDriverLocation]
  | some session =>
      cases role : session.role.busCode with
      | none =>
          simp [pingSteps, locatedBus, found, role, exec, step, idle, startPing,
            updateDriverLocation]
      | some busCode =>
          cases valid : isValidLatitude ping.lat && isValidLongitude ping.lng with
          | false =>
              simp [pingSteps, locatedBus, found, role, valid, exec, step, idle, startPing,
                updateDriverLocation]
          | true =>
              cases live : threads.tracking.liveBuses.lookup busCode with
              | none =>
                  simp [pingSteps, locatedBus, found, role, valid, exec, step, idle, startPing,
                    updateDriverLocation, LiveTracking.computeIfAbsent, live, newLiveBus, resume,
                    LiveBusState.locate, changeBus, move_idle]
                  apply tracking_eq
                  · rfl
                  · exact AList.insert_insert _
              | some bus =>
                  have code := threads.tracking.busKeys busCode bus live
                  simp [pingSteps, locatedBus, found, role, valid, exec, step, idle, startPing,
                    updateDriverLocation, LiveTracking.computeIfAbsent, live, code, resume,
                    LiveBusState.locate, changeBus, move_idle]

end Whole

/-! ## Ghost buses -/

def retiring (threads : Threads K) (code : String) : Prop :=
  ∃ thread, threads.frames thread = some (.retiring code)

/-- A live bus has a driver session, or its removal is half done. -/
def NoGhosts (threads : Threads K) : Prop :=
  ∀ code, (threads.tracking.liveBuses.lookup code).isSome → ¬ retiring threads code →
    ∃ id, driverBus threads.tracking id = some code

/-- The old bus of a session that registers anew is left to another driver. -/
def handsOver (threads : Threads K) (sessionId : String) (next : Option String) : Prop :=
  ∀ code, driverBus threads.tracking sessionId = some code → next ≠ some code →
    (threads.tracking.liveBuses.lookup code).isSome → ¬ retiring threads code →
    ∃ other, other ≠ sessionId ∧ driverBus threads.tracking other = some code

/-- A bus is created only while somebody drives it, or is about to remove it. -/
def createsDriven (threads : Threads K) (code : String) : Prop :=
  (threads.tracking.liveBuses.lookup code).isSome ∨ retiring threads code ∨
    ∃ id, driverBus threads.tracking id = some code

def ghostFree (threads : Threads K) : Action K → Prop
  | .call _ (.registerDriver sessionId _ busCode _ _) =>
      handsOver threads sessionId (some busCode)
  | .call _ (.registerUser sessionId _) => handsOver threads sessionId none
  | .computeIfAbsent thread => ∀ busCode clientId ping,
      threads.frames thread = some (.missing busCode clientId ping) →
        createsDriven threads busCode
  | _ => True

theorem retiring_move (threads : Threads K) (thread : Nat) (tracking : Tracking K)
    {frame : Option (Frame K)} {code : String}
    (kept : ∀ other, threads.frames thread = some (.retiring other) → other ≠ code)
    (quiet : frame ≠ some (.retiring code)) :
    retiring (threads.move thread tracking frame) code ↔ retiring threads code := by
  constructor
  · rintro ⟨other, holds⟩
    by_cases same : other = thread
    · subst same
      simp only [Threads.move, Function.update_self] at holds
      exact absurd holds quiet
    · simp only [Threads.move, Function.update_of_ne same] at holds
      exact ⟨other, holds⟩
  · rintro ⟨other, holds⟩
    refine ⟨other, ?_⟩
    by_cases same : other = thread
    · subst same
      exact absurd rfl (kept code holds)
    · simpa only [Threads.move, Function.update_of_ne same] using holds

theorem no_ghosts_of {before after : Threads K} (clean : NoGhosts before)
    (drivers : ∀ id, driverBus after.tracking id = driverBus before.tracking id)
    (removals : ∀ code, retiring before code → retiring after code)
    (created : ∀ code, (after.tracking.liveBuses.lookup code).isSome → ¬ retiring before code →
      (before.tracking.liveBuses.lookup code).isSome ∨
        ∃ id, driverBus before.tracking id = some code) : NoGhosts after := by
  intro code live kept
  have quiet : ¬ retiring before code := fun half => kept (removals code half)
  have driven : ∃ id, driverBus before.tracking id = some code := by
    cases created code live quiet with
    | inl old => exact clean code old quiet
    | inr driven => exact driven
  obtain ⟨id, drives⟩ := driven
  exact ⟨id, by rw [drivers, drives]⟩

section Registrations
variable {threads : Threads K} {now : Int} {sessionId : String}

theorem put_session_ghosts (clean : NoGhosts threads) (session : ClientSession K)
    {tracking : Tracking K}
    (drivers : ∀ id, driverBus tracking id =
      if id = sessionId then session.role.busCode else driverBus threads.tracking id)
    (buses : ∀ code, session.role.busCode ≠ some code →
      tracking.liveBuses.lookup code = threads.tracking.liveBuses.lookup code) :
    NoGhosts ⟨tracking, threads.frames⟩ ↔ handsOver threads sessionId session.role.busCode := by
  constructor
  · intro after code drives next live kept
    rw [← buses code next] at live
    obtain ⟨id, found⟩ := after code live kept
    simp only [drivers] at found
    split at found
    · exact absurd found next
    · rename_i other
      exact ⟨id, other, found⟩
  · intro hands code live kept
    by_cases next : session.role.busCode = some code
    · exact ⟨sessionId, by simp only [drivers, if_pos, next]⟩
    · simp only [buses code next] at live
      obtain ⟨id, drives⟩ := clean code live kept
      by_cases same : id = sessionId
      · subst same
        obtain ⟨other, different, found⟩ := hands code drives next live kept
        exact ⟨other, by simp only [drivers, if_neg different, found]⟩
      · exact ⟨id, by simp only [drivers, if_neg same, drives]⟩

theorem removals_no_ghosts (clean : NoGhosts threads) (gone : List String) :
    NoGhosts ⟨gone.foldl removeSession threads.tracking, threads.frames⟩ := by
  intro code live kept
  simp only [remove_all_lookup] at live
  split at live
  · simp at live
  · rename_i unshared
    obtain ⟨id, drives⟩ := clean code live kept
    refine ⟨id, ?_⟩
    simp only [driver_remove_all]
    rw [if_neg, drives]
    intro member
    exact unshared ⟨id, member, drives⟩

end Registrations

section Steps
variable [Field K] [LinearOrder K] {geo : GeoDistance K} {threads after : Threads K}

theorem call_ghosts (clean : NoGhosts threads) (now : Int) (call : Call K) :
    NoGhosts ⟨perform geo threads.tracking now call, threads.frames⟩ ↔
      ghostFree threads (.call now call) := by
  have quiet : call.isTelemetry = true →
      NoGhosts ⟨perform geo threads.tracking now call, threads.frames⟩ := by
    intro telemetry
    obtain ⟨drivers, live⟩ := telemetry_spec geo threads.tracking now telemetry
    exact no_ghosts_of clean drivers (fun _ half => half) fun code lives _ => (live code).2 lives
  cases call with
  | registerDriver sessionId driverId busCode routeNumber routeColor =>
      apply put_session_ghosts clean (newSession sessionId (.DRIVER busCode) driverId now)
      · intro id
        simp only [perform, registerDriver, driver_put_bus, driver_put_session]
        rfl
      · intro code other
        simp only [perform, registerDriver, put_bus_lookup, put_session_buses]
        rw [if_neg]
        rintro rfl
        exact other rfl
  | registerUser sessionId userId =>
      apply put_session_ghosts clean (newSession sessionId .USER userId now)
      · intro id
        simp only [perform, registerUser, driver_put_session]
        rfl
      · intro code _
        rfl
  | removeSession sessionId => exact iff_of_true (removals_no_ghosts clean [sessionId]) trivial
  | evictStaleSessions timeoutMs => exact iff_of_true (removals_no_ghosts clean _) trivial
  | updateDriverLocation => exact iff_of_true (quiet rfl) trivial
  | updateUserLocation => exact iff_of_true (quiet rfl) trivial
  | trackBus => exact iff_of_true (quiet rfl) trivial
  | subscribeRoute => exact iff_of_true (quiet rfl) trivial
  | setOccupancy => exact iff_of_true (quiet rfl) trivial
  | setDriverVisibility => exact iff_of_true (quiet rfl) trivial
  | touch => exact iff_of_true (quiet rfl) trivial
  | pendingProximityAlerts => exact iff_of_true (quiet rfl) trivial

omit [Field K] [LinearOrder K] in
theorem start_removal_no_ghosts (clean : NoGhosts threads) {thread : Nat} {sessionId : String}
    (idle : threads.frames thread = none) : NoGhosts (startRemoval threads thread sessionId) := by
  intro code live kept
  by_cases drove : driverBus threads.tracking sessionId = some code
  -- The bus of the session is `retiring` from here on; for others nothing changed.
  · exact absurd ⟨thread, by simp [startRemoval, Threads.move, drove]⟩ kept
  · have still : ¬ retiring threads code := by
      intro half
      apply kept
      apply (retiring_move threads thread _ (by simp [idle]) _).mpr half
      simpa using drove
    obtain ⟨id, drives⟩ := clean code live still
    refine ⟨id, ?_⟩
    simp only [startRemoval, Threads.move, driver_drop_session]
    rw [if_neg, drives]
    rintro rfl
    exact drove drives

theorem start_ping_no_ghosts (clean : NoGhosts threads) {thread : Nat} {sessionId : String}
    {ping : Ping K} (idle : threads.frames thread = none) :
    NoGhosts (startPing threads thread sessionId ping) := by
  unfold startPing
  split
  · exact clean
  · split
    · exact clean
    · split
      · apply no_ghosts_of clean
        · intro id
          simp only [Threads.move]
          exact driver_change_session threads.tracking sessionId id
        · intro code half
          exact (retiring_move threads thread _ (by simp [idle]) (by simp)).mpr half
        · intro code live _
          exact Or.inl live
      · exact clean

omit [Field K] [LinearOrder K] in
theorem remove_bus_no_ghosts (clean : NoGhosts threads) {thread : Nat} {busCode : String}
    (holds : threads.frames thread = some (.retiring busCode)) :
    NoGhosts (threads.move thread (threads.tracking.dropBus busCode) none) := by
  intro code live kept
  simp only [Threads.move, drop_bus_lookup] at live
  split at live
  · simp at live
  · rename_i other
    apply clean code live
    intro half
    apply kept
    refine (retiring_move threads thread _ (fun held same => ?_) (by simp)).mpr half
    rw [holds] at same
    cases same
    exact fun same => other same.symm

omit [Field K] [LinearOrder K] in
theorem create_bus_ghosts (clean : NoGhosts threads) {thread : Nat} {busCode clientId : String}
    {ping : Ping K} (holds : threads.frames thread = some (.missing busCode clientId ping)) :
    NoGhosts (threads.move thread (threads.tracking.putBus
        (LiveTracking.computeIfAbsent threads.tracking ping.now busCode clientId))
        (some (.writing busCode ping))) ↔ createsDriven threads busCode := by
  have half : ∀ code, retiring (threads.move thread (threads.tracking.putBus
      (LiveTracking.computeIfAbsent threads.tracking ping.now busCode clientId))
      (some (.writing busCode ping))) code ↔ retiring threads code := fun code =>
    retiring_move threads thread _ (by simp [holds]) (by simp)
  have code := compute_if_absent_code threads.tracking ping.now busCode clientId
  constructor
  · intro after
    by_cases kept : retiring threads busCode
    · exact Or.inr (Or.inl kept)
    · have live : ((threads.tracking.putBus
          (LiveTracking.computeIfAbsent threads.tracking ping.now busCode clientId)).liveBuses.lookup
            busCode).isSome := by
        rw [put_bus_lookup, if_pos code.symm]
        rfl
      exact Or.inr (Or.inr (after busCode live fun still => kept ((half busCode).mp still)))
  · intro driven
    refine no_ghosts_of clean (fun _ => rfl) (fun code still => (half code).mpr still) ?_
    intro other live quiet
    simp only [Threads.move, put_bus_lookup] at live
    split at live
    · rename_i same
      rw [code] at same
      subst same
      rcases driven with old | still | driver
      · exact Or.inl old
      · exact absurd still quiet
      · exact Or.inr driver
    · exact Or.inl live

omit [Field K] [LinearOrder K] in
theorem change_bus_no_ghosts (clean : NoGhosts threads) {thread : Nat} {busCode : String}
    {ping : Ping K} (holds : threads.frames thread = some (.writing busCode ping)) :
    NoGhosts (threads.move thread (changeBus threads.tracking busCode ping) none) := by
  unfold changeBus
  split
  · exact no_ghosts_of clean (fun _ => rfl)
      (fun _ half => (retiring_move threads thread _ (by simp [holds]) (by simp)).mpr half)
      (fun _ live _ => Or.inl live)
  · rename_i bus found
    refine no_ghosts_of clean (fun _ => rfl)
      (fun _ half => (retiring_move threads thread _ (by simp [holds]) (by simp)).mpr half) ?_
    intro code live _
    simp only [Threads.move, put_bus_lookup] at live
    split at live
    · rename_i same
      have kept : bus.busCode = busCode := threads.tracking.busKeys busCode bus found
      have here : code = busCode := same.trans kept
      exact Or.inl (by rw [here, found]; rfl)
    · exact Or.inl live

theorem step_ghosts (clean : NoGhosts threads) {action : Action K}
    (taken : step geo threads action = some after) :
    NoGhosts after ↔ ghostFree threads action := by
  cases action with
  | call now call =>
      rw [← Option.some.inj taken]
      exact call_ghosts clean now call
  | removeSession thread sessionId =>
      simp only [step] at taken
      split at taken
      · exact absurd taken.symm (Option.some_ne_none after)
      · rename_i idle
        rw [← Option.some.inj taken]
        exact iff_of_true (start_removal_no_ghosts clean (by simpa using idle)) trivial
  | getSession thread sessionId ping =>
      simp only [step] at taken
      split at taken
      · exact absurd taken.symm (Option.some_ne_none after)
      · rename_i idle
        rw [← Option.some.inj taken]
        exact iff_of_true (start_ping_no_ghosts clean (by simpa using idle)) trivial
  | removeBus thread =>
      obtain ⟨frame, holds, taken⟩ := Option.bind_eq_some_iff.mp taken
      cases frame with
      | retiring busCode =>
          rw [← Option.some.inj taken]
          exact iff_of_true (remove_bus_no_ghosts clean holds) trivial
      | pinging | missing | writing => exact absurd taken.symm (Option.some_ne_none after)
  | getBus thread =>
      obtain ⟨frame, holds, taken⟩ := Option.bind_eq_some_iff.mp taken
      cases frame with
      | pinging busCode clientId ping =>
          have moved : ∃ next, after = threads.move thread threads.tracking (some next) ∧
              ∀ code, next ≠ .retiring code := by
            simp only [resume] at taken
            split at taken
            · exact ⟨_, (Option.some.inj taken).symm, by simp⟩
            · exact ⟨_, (Option.some.inj taken).symm, by simp⟩
          obtain ⟨next, same, kind⟩ := moved
          subst same
          refine iff_of_true (no_ghosts_of clean (fun _ => rfl) ?_ fun _ live _ => Or.inl live) trivial
          intro code half
          exact (retiring_move threads thread _ (by simp [holds]) (by simp [kind])).mpr half
      | retiring | missing | writing => exact absurd taken.symm (Option.some_ne_none after)
  | computeIfAbsent thread =>
      obtain ⟨frame, holds, taken⟩ := Option.bind_eq_some_iff.mp taken
      cases frame with
      | missing busCode clientId ping =>
          rw [← Option.some.inj taken, create_bus_ghosts clean holds]
          simp [ghostFree, holds]
      | retiring | pinging | writing => exact absurd taken.symm (Option.some_ne_none after)
  | addPoint thread hits =>
      obtain ⟨frame, holds, taken⟩ := Option.bind_eq_some_iff.mp taken
      cases frame with
      | writing busCode ping =>
          rw [← Option.some.inj taken]
          refine iff_of_true ?_ trivial
          cases hits with
          | true => exact change_bus_no_ghosts clean holds
          | false =>
              exact no_ghosts_of clean (fun _ => rfl) (fun _ half =>
                (retiring_move threads thread _ (by simp [holds]) (by simp)).mpr half)
                (fun _ live _ => Or.inl live)
      | retiring | pinging | missing => exact absurd taken.symm (Option.some_ne_none after)

/-- A run without such a registration and without such a creation leaves no ghost:
the removal of some session retires each live bus. The next step makes a ghost
exactly when it is one of the two. -/
theorem ghost_free_run {actions : List (Action K)}
    (run : Run (guarded ghostFree (fires (step geo))) Threads.empty actions threads) :
    NoGhosts threads ∧
      (∀ code, (threads.tracking.liveBuses.lookup code).isSome → ¬ retiring threads code →
        ∃ id, driverBus threads.tracking id = some code ∧
          (removeSession threads.tracking id).liveBuses.lookup code = none) ∧
      ∀ action after, step geo threads action = some after →
        (NoGhosts after ↔ ghostFree threads action) := by
  have clean : NoGhosts threads := by
    refine run_invariant NoGhosts (fun _ _ _ taken clean => ?_) run ?_
    · exact (step_ghosts clean taken.2).mpr taken.1
    · simp [NoGhosts, Threads.empty, Tracking.empty]
  refine ⟨clean, fun code live kept => ?_, fun _ _ taken => step_ghosts clean taken⟩
  obtain ⟨id, drives⟩ := clean code live kept
  exact ⟨id, drives, by rw [remove_session_lookup, if_pos drives]⟩

end Steps

def laterShift : List (Action ℚ) :=
  [.call 0 (.registerDriver "s1" "asha" "bus-1" none none), .removeSession 0 "s1", .removeBus 0,
    .call 5 (.registerUser "s1" "asha")]

theorem later_shift_ghost_free :
    ∃ threads : Threads ℚ, NoGhosts threads ∧
      (∀ code, (threads.tracking.liveBuses.lookup code).isSome → ¬ retiring threads code →
        ∃ id, driverBus threads.tracking id = some code ∧
          (removeSession threads.tracking id).liveBuses.lookup code = none) ∧
      ∀ action after, step taxicab threads action = some after →
        (NoGhosts after ↔ ghostFree threads action) := by
  have run : ∃ threads, Run (guarded ghostFree (fires (step (taxicab : GeoDistance ℚ))))
      Threads.empty laterShift threads := by
    refine ⟨_, Run.next ⟨?_, rfl⟩ (Run.next ⟨trivial, rfl⟩ (Run.next ⟨trivial, rfl⟩
      (Run.next ⟨?_, rfl⟩ (Run.refl _))))⟩
    · intro code drives
      exact absurd drives (by simp [driverBus, LiveTracking.getSession, Threads.empty,
        Tracking.empty])
    · intro code drives
      exact absurd drives (by simp [startRemoval, Threads.move])
  obtain ⟨threads, taken⟩ := run
  exact ⟨threads, ghost_free_run taken⟩

theorem no_driver {tracking : Tracking K} (alone : tracking.sessions.keys = []) {code : String}
    (id : String) : driverBus tracking id ≠ some code := by
  have absent : id ∉ tracking.sessions := by
    rw [AList.mem_keys, alone]
    exact List.not_mem_nil
  simp [driverBus, LiveTracking.getSession, AList.lookup_eq_none.mpr absent]

/-- A driver's socket registers as a rider, and a ping overlaps the removal of its session. -/
theorem undriven_buses_live :
    (∃ threads : Threads ℚ, Run (fires (step taxicab)) Threads.empty
        [.call 0 (.registerDriver "s1" "asha" "bus-1" none none),
          .call 5 (.registerUser "s1" "asha")] threads ∧
      (threads.tracking.liveBuses.lookup "bus-1").isSome ∧
      (∀ thread, threads.frames thread = none) ∧
      ∀ id, driverBus threads.tracking id ≠ some "bus-1") ∧
    ∃ threads : Threads ℚ, Run (fires (step taxicab)) Threads.empty
        [.call 0 (.registerDriver "s1" "asha" "bus-1" none none),
          .getSession 0 "s1" ⟨1, 2, none, none, 5⟩, .removeSession 1 "s1", .removeBus 1,
          .getBus 0, .computeIfAbsent 0, .addPoint 0 true] threads ∧
      (threads.tracking.liveBuses.lookup "bus-1").isSome ∧
      (∀ thread, threads.frames thread = none) ∧
      ∀ id, driverBus threads.tracking id ≠ some "bus-1" := by
  constructor
  · refine ⟨_, Run.next rfl (Run.next rfl (Run.refl _)), by decide +kernel, fun _ => rfl, ?_⟩
    intro id
    simp only [perform, registerUser, registerDriver, driver_put_session, driver_put_bus]
    by_cases same : id = "s1"
    · simp [same, newSession, ClientRole.busCode]
    · simp [same, newSession, driverBus, LiveTracking.getSession, Threads.empty, Tracking.empty]
  · refine ⟨_, Run.next rfl (Run.next rfl (Run.next rfl (Run.next rfl (Run.next rfl (Run.next rfl
      (Run.next rfl (Run.refl _))))))), by decide +kernel, ?_, ?_⟩
    · intro thread
      cases thread with
      | zero => rfl
      | succ other =>
          cases other with
          | zero => rfl
          | succ => rfl
    · exact no_driver (by decide +kernel)

end CityBus.TrackingThreads
