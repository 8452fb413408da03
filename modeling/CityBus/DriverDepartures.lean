import CityBus.GuardedRuns
import CityBus.LiveTracking

/-!
What a departing driver takes along. Live buses are keyed by code and sessions
by socket, so a bus driven from two sessions is retired with the first of them.
-/

namespace CityBus.DriverDepartures

open GeoUtils KeyedMaps LiveTracking GuardedRuns

variable {K : Type}

def Spares (tracking : Tracking K) (gone : List String) (code : String) : Prop :=
  (gone.foldl removeSession tracking).liveBuses.lookup code = tracking.liveBuses.lookup code ∧
    ((gone.foldl removeSession tracking).liveBuses.lookup code).isSome

/-- No driver who stays has the bus of one who leaves. -/
def Unshared (tracking : Tracking K) (gone : List String) : Prop :=
  ∀ other, other ∉ gone → ∀ code, driverBus tracking other = some code →
    ∀ id ∈ gone, driverBus tracking id ≠ some code

def Served (tracking : Tracking K) : Prop :=
  ∀ id code, driverBus tracking id = some code → (tracking.liveBuses.lookup code).isSome

def departing (tracking : Tracking K) (now : Int) : Call K → List String
  | .removeSession sessionId => [sessionId]
  | .evictStaleSessions timeoutMs => (staleSessions tracking now timeoutMs).map (·.sessionId)
  | _ => []

/-- A departure spares a bus exactly when no one who leaves is registered for it;
from a shared bus the first departure takes it down, whatever its state was. -/
theorem spares_iff {tracking : Tracking K} {gone : List String} {other code : String}
    (served : Served tracking) (drives : driverBus tracking other = some code) :
    Spares tracking gone code ↔ ∀ id ∈ gone, driverBus tracking id ≠ some code := by
  constructor
  · intro spared id member shared
    -- The first of those who share it retires the bus, and nobody makes it anew.
    have live := spared.2
    rw [remove_all_lookup, if_pos ⟨id, member, shared⟩] at live
    simp at live
  · intro unshared
    have kept : (gone.foldl removeSession tracking).liveBuses.lookup code =
        tracking.liveBuses.lookup code := by
      rw [remove_all_lookup, if_neg]
      rintro ⟨id, member, same⟩
      exact unshared id member same
    exact ⟨kept, by rw [kept]; exact served other code drives⟩

theorem removals_served {tracking : Tracking K} {gone : List String} (served : Served tracking)
    (unshared : Unshared tracking gone) : Served (gone.foldl removeSession tracking) := by
  intro id code drives
  rw [driver_remove_all] at drives
  split at drives
  · exact absurd drives.symm (Option.some_ne_none code)
  · rename_i stays
    exact ((spares_iff served drives).mpr (unshared id stays code drives)).2

section Runs
variable [Field K] [LinearOrder K] (geo : GeoDistance K)

def performs (tracking : Tracking K) (action : Int × Call K) (after : Tracking K) : Prop :=
  perform geo tracking action.1 action.2 = after

omit [Field K] [LinearOrder K] in
def unsharedDeparture (tracking : Tracking K) (action : Int × Call K) : Prop :=
  Unshared tracking (departing tracking action.1 action.2)

variable {geo} {tracking after : Tracking K} {action : Int × Call K}

theorem step_served (served : Served tracking) (unshared : unsharedDeparture tracking action)
    (done : performs geo tracking action after) : Served after := by
  obtain ⟨now, call⟩ := action
  subst done
  have quiet : call.isTelemetry = true → Served (perform geo tracking now call) := by
    intro telemetry id code drives
    obtain ⟨drivers, live⟩ := telemetry_spec geo tracking now telemetry
    rw [drivers] at drives
    exact (live code).1 (served id code drives)
  cases call with
  | registerDriver sessionId driverId busCode routeNumber routeColor =>
      intro id code drives
      simp only [perform, registerDriver, put_bus_lookup, put_session_buses]
      split
      · rfl
      · rename_i other
        simp only [perform, registerDriver, driver_put_bus, driver_put_session] at drives
        split at drives
        · exact absurd (Option.some.inj drives).symm other
        · exact served id code drives
  | registerUser sessionId userId =>
      intro id code drives
      simp only [perform, registerUser, driver_put_session] at drives
      split at drives
      · exact absurd drives.symm (Option.some_ne_none code)
      · exact served id code drives
  | removeSession sessionId => exact removals_served served unshared
  | evictStaleSessions timeoutMs => exact removals_served served unshared
  | updateDriverLocation => exact quiet rfl
  | updateUserLocation => exact quiet rfl
  | trackBus => exact quiet rfl
  | subscribeRoute => exact quiet rfl
  | setOccupancy => exact quiet rfl
  | setDriverVisibility => exact quiet rfl
  | touch => exact quiet rfl
  | pendingProximityAlerts => exact quiet rfl

/-- After a run whose departures left no shared bus, every registered driver's bus
is live, and the sessions that leave next spare the bus of a driver who stays
exactly when none of them is registered for it too. -/
theorem departures_spare_iff {actions : List (Int × Call K)}
    (run : Run (guarded unsharedDeparture (performs geo)) Tracking.empty actions tracking) :
    Served tracking ∧ ∀ gone other code, driverBus tracking other = some code →
      (Spares tracking gone code ↔ ∀ id ∈ gone, driverBus tracking id ≠ some code) := by
  have served : Served tracking := by
    refine run_invariant Served (fun _ _ _ taken served => ?_) run ?_
    · exact step_served served taken.1 taken.2
    · simp [Served, driverBus, getSession, Tracking.empty]
  exact ⟨served, fun _ _ _ drives => spares_iff served drives⟩

end Runs

def twoDrivers : List (Int × Call ℚ) :=
  [(0, .registerDriver "s1" "asha" "bus-1" none none),
    (1, .registerDriver "s2" "ravi" "bus-2" none none)]

theorem two_drivers_spared :
    ∃ tracking : Tracking ℚ, driverBus tracking "s2" = some "bus-2" ∧
      (Served tracking ∧ ∀ gone other code, driverBus tracking other = some code →
        (Spares tracking gone code ↔ ∀ id ∈ gone, driverBus tracking id ≠ some code)) := by
  have run : ∃ tracking, Run (guarded unsharedDeparture (performs (taxicab : GeoDistance ℚ)))
      Tracking.empty twoDrivers tracking ∧ driverBus tracking "s2" = some "bus-2" :=
    ⟨_, Run.next ⟨by simp [unsharedDeparture, Unshared, departing], rfl⟩
      (Run.next ⟨by simp [unsharedDeparture, Unshared, departing], rfl⟩ (Run.refl _)), by decide⟩
  obtain ⟨tracking, taken, drives⟩ := run
  exact ⟨tracking, drives, departures_spare_iff taken⟩

/-- A driver reconnects on a new socket before the old one is closed. -/
theorem reconnected_bus_retired :
    ∃ tracking : Tracking ℚ, Run (performs taxicab) Tracking.empty
        [(0, .registerDriver "s1" "asha" "bus-1" (some 7) none),
          (5, .registerDriver "s2" "asha" "bus-1" (some 7) none),
          (6, .updateDriverLocation "s2" 1 2 none none)] tracking ∧
      driverBus tracking "s1" = some "bus-1" ∧ driverBus tracking "s2" = some "bus-1" ∧
      (tracking.liveBuses.lookup "bus-1").isSome ∧
      driverBus (removeSession tracking "s1") "s2" = some "bus-1" ∧
      (removeSession tracking "s1").liveBuses.lookup "bus-1" = none := by
  refine ⟨_, Run.next rfl (Run.next rfl (Run.next rfl (Run.refl _))), ?_⟩
  refine ⟨by decide +kernel, by decide +kernel, by decide +kernel, by decide +kernel, ?_⟩
  rw [remove_session_lookup, if_pos]
  decide +kernel

end CityBus.DriverDepartures
