import CityBus.TrackingRuns

/-!
The proximity alerts of a run, against what its calls have said: where a rider last
reported to be, which bus the rider follows, where that bus last reported to be, and
when the rider was alerted. A registration of the session, or of a driver for the bus,
starts anew.
-/

namespace CityBus.ProximityAlerts

open GeoUtils GuardedRuns KeyedMaps LiveTracking RingBuffers TrackingRuns

/-- A call of a run, with its time and the registry that it found. -/
structure Entry (K : Type) where
  before : Tracking K
  now : Int
  call : Call K

structure World (K : Type) where
  tracking : Tracking K
  clock : Int
  log : List (Entry K)

variable {K : Type}

def World.start (clock : Int) : World K := ⟨Tracking.empty, clock, []⟩

def registers : Call K → Option String
  | .registerDriver sessionId .. | .registerUser sessionId _ => some sessionId
  | _ => none

def Entry.tracks (entry : Entry K) (id : String) (older : Option String) : Option String :=
  if registers entry.call = some id then none else
    match entry.call with
    | .trackBus sessionId busCode => if sessionId = id then some busCode else older
    | _ => older

section Reports
variable [Field K] [LinearOrder K] (geo : GeoDistance K)

def Entry.place (entry : Entry K) (id : String) (older : Option (K × K)) : Option (K × K) :=
  if registers entry.call = some id then none else
    match entry.call with
    | .updateUserLocation sessionId lat lng =>
        if sessionId = id ∧ (isValidLatitude lat && isValidLongitude lng) = true then some (lat, lng)
        else older
    | _ => older

def Entry.fix (entry : Entry K) (code : String) (older : Option (K × K)) : Option (K × K) :=
  match entry.call with
  | .registerDriver _ _ busCode _ _ => if busCode = code then none else older
  | .updateDriverLocation sessionId lat lng _ _ =>
      if driverBus entry.before sessionId = some code ∧
          (isValidLatitude lat && isValidLongitude lng) = true then some (lat, lng)
      else older
  | _ => older

def Entry.alerts (entry : Entry K) (id : String) (older : List Int) : List Int :=
  if registers entry.call = some id then [] else
    match entry.call with
    | .pendingProximityAlerts =>
        if id ∈ (pendingProximityAlerts geo entry.before entry.now).map (·.sessionId) then
          entry.now :: older
        else older
    | _ => older

def trackOf (id : String) (log : List (Entry K)) : Option String :=
  log.foldr (fun entry older => entry.tracks id older) none

def placeOf (id : String) (log : List (Entry K)) : Option (K × K) :=
  log.foldr (fun entry older => entry.place id older) none

def fixOf (code : String) (log : List (Entry K)) : Option (K × K) :=
  log.foldr (fun entry older => entry.fix code older) none

def alertsOf (id : String) (log : List (Entry K)) : List Int :=
  log.foldr (fun entry older => entry.alerts geo id older) []

def step (world : World K) (action : Int × Call K) : Option (World K) :=
  if world.clock ≤ action.1 then
    some ⟨perform geo world.tracking action.1 action.2, action.1,
      ⟨world.tracking, action.1, action.2⟩ :: world.log⟩
  else none

/-- An alert is due: its session is a rider's, with a location, and follows a live and
visible bus with a fix, that is near enough, and was not alerted a short time ago. -/
def Due (world : World K) (now : Int) (alert : ProximityAlert K) : Prop :=
  ∃ session bus place fix,
    getSession world.tracking alert.sessionId = some session ∧ session.role = .USER ∧
    placeOf alert.sessionId world.log = some place ∧
    trackOf alert.sessionId world.log = some alert.busCode ∧
    world.tracking.liveBuses.lookup alert.busCode = some bus ∧ bus.visible = true ∧
    fixOf alert.busCode world.log = some fix ∧
    alert.distanceKm = geo.distanceKm place.1 place.2 fix.1 fix.2 ∧
    alert.distanceKm ≤ 1 / (2 : Nat) ∧
    ∀ last ∈ (alertsOf geo alert.sessionId world.log).head?, PROXIMITY_COOLDOWN_MS ≤ now - last

end Reports

/-! ## One session -/

/-- What the alerts read of a rider's session is what was said. -/
structure Rider (session : ClientSession K) (place : Option (K × K)) (track : Option String)
    (alerts : List Int) : Prop where
  coords : session.coords = place
  trackingBusCode : session.trackingBusCode = track
  lastProximityAlert : session.lastProximityAlert = alerts.headD 0

structure Same (old session : ClientSession K) : Prop where
  role : session.role = old.role
  coords : session.coords = old.coords
  trackingBusCode : session.trackingBusCode = old.trackingBusCode
  lastProximityAlert : session.lastProximityAlert = old.lastProximityAlert

section Sessions
variable {tracking : Tracking K} {now : Int} {id sender : String} {session : ClientSession K}
  {place : Option (K × K)} {track : Option String} {alerts : List Int}

theorem rider_new (now : Int) (userId : String) :
    Rider (newSession id .USER userId now : ClientSession K) none none [] :=
  ⟨rfl, rfl, rfl⟩

theorem same_refl (session : ClientSession K) : Same session session := ⟨rfl, rfl, rfl, rfl⟩

theorem same_rider {old : ClientSession K} (same : Same old session)
    (rider : Rider old place track alerts) : Rider session place track alerts :=
  ⟨same.coords.trans rider.coords, same.trackingBusCode.trans rider.trackingBusCode,
    same.lastProximityAlert.trans rider.lastProximityAlert⟩

theorem changed_same {change : ClientSession K → ClientSession K}
    {keeps : ∀ session, (change session).sessionId = session.sessionId}
    (found : getSession (tracking.changeSession sender change keeps) id = some session)
    (same : ∀ old, Same old (change old)) :
    ∃ old, getSession tracking id = some old ∧ Same old session := by
  rw [get_change_session] at found
  split at found
  · obtain ⟨old, before, rfl⟩ := Option.map_eq_some_iff.mp found
    exact ⟨old, before, same old⟩
  · exact ⟨session, found, same_refl session⟩

variable [Field K] [LinearOrder K] {geo : GeoDistance K} {entry : Entry K}

theorem rider_step
    (found : getSession (perform geo entry.before entry.now entry.call) id = some session)
    (user : session.role = .USER)
    (older : ∀ old, getSession entry.before id = some old → old.role = .USER →
      Rider old place track alerts) :
    Rider session (entry.place id place) (entry.tracks id track) (entry.alerts geo id alerts) := by
  obtain ⟨before, now, call⟩ := entry
  have kept : ∀ old, getSession before id = some old → Same old session →
      Rider session place track alerts := by
    intro old there same
    exact same_rider same (older old there (same.role.symm.trans user))
  cases call with
  | registerDriver sessionId driverId busCode routeNumber routeColor =>
      simp only [perform, get_registered_driver] at found
      by_cases own : id = sessionId
      · rw [if_pos own, Option.some.injEq] at found
        rw [← found] at user
        cases user
      · rw [if_neg own] at found
        simp only [Entry.place, Entry.tracks, Entry.alerts, registers, Option.some.injEq,
          Ne.symm own, if_false]
        exact kept session found (same_refl session)
  | registerUser sessionId userId =>
      simp only [perform, get_registered_user] at found
      by_cases own : id = sessionId
      · rw [if_pos own, Option.some.injEq] at found
        simp only [Entry.place, Entry.tracks, Entry.alerts, registers, own, if_true]
        rw [← found]
        exact rider_new now userId
      · rw [if_neg own] at found
        simp only [Entry.place, Entry.tracks, Entry.alerts, registers, Option.some.injEq,
          Ne.symm own, if_false]
        exact kept session found (same_refl session)
  | updateDriverLocation sessionId lat lng accuracy visible =>
      simp only [perform, updateDriverLocation] at found
      cases located : locatedBus before now sessionId lat lng accuracy visible with
      | none =>
          rw [located] at found
          exact kept session found (same_refl session)
      | some bus =>
          simp only [located, get_put_bus, get_change_session] at found
          by_cases own : id = sessionId
          · subst own
            obtain ⟨client, there, role⟩ := driver_role (located_bus_spec located).1
            rw [if_pos rfl, there, Option.map_some, Option.some.injEq] at found
            rw [← found, role] at user
            cases user
          · rw [if_neg own] at found
            exact kept session found (same_refl session)
  | updateUserLocation sessionId lat lng =>
      simp only [perform, updateUserLocation] at found
      simp only [Entry.place, Entry.tracks, Entry.alerts, registers]
      by_cases valid : (isValidLatitude lat && isValidLongitude lng) = true
      · rw [if_pos valid, get_change_session] at found
        by_cases own : id = sessionId
        · rw [if_pos own] at found
          obtain ⟨old, there, rfl⟩ := Option.map_eq_some_iff.mp found
          have rider := older old there user
          simp only [own, valid, and_self, if_true]
          exact ⟨rfl, rider.trackingBusCode, rider.lastProximityAlert⟩
        · rw [if_neg own] at found
          simp only [Ne.symm own, false_and, if_false]
          exact kept session found (same_refl session)
      · rw [if_neg valid] at found
        simp only [valid, Bool.false_eq_true, and_false, if_false]
        exact kept session found (same_refl session)
  | trackBus sessionId busCode =>
      simp only [perform, trackBus, get_change_session] at found
      simp only [Entry.place, Entry.tracks, Entry.alerts, registers]
      by_cases own : id = sessionId
      · rw [if_pos own] at found
        obtain ⟨old, there, rfl⟩ := Option.map_eq_some_iff.mp found
        have rider := older old there user
        simp only [own, if_true]
        exact ⟨rider.coords, rfl, rider.lastProximityAlert⟩
      · rw [if_neg own] at found
        simp only [Ne.symm own, if_false]
        exact kept session found (same_refl session)
  | subscribeRoute sessionId routeNumber =>
      simp only [perform, subscribeRoute] at found
      obtain ⟨old, there, same⟩ := changed_same found fun old => by
        split
        · exact ⟨rfl, rfl, rfl, rfl⟩
        · exact ⟨rfl, rfl, rfl, rfl⟩
      exact kept old there same
  | setOccupancy sessionId occupancy =>
      simp only [perform, setOccupancy] at found
      cases crowded : crowdedBus before sessionId occupancy with
      | none =>
          rw [crowded] at found
          exact kept session found (same_refl session)
      | some bus =>
          rw [crowded] at found
          obtain ⟨old, there, same⟩ := changed_same found fun _ => ⟨rfl, rfl, rfl, rfl⟩
          exact kept old there same
  | setDriverVisibility driverId visible =>
      exact kept session found (same_refl session)
  | touch sessionId =>
      simp only [perform, touch] at found
      obtain ⟨old, there, same⟩ := changed_same found fun _ => ⟨rfl, rfl, rfl, rfl⟩
      exact kept old there same
  | pendingProximityAlerts =>
      simp only [perform, marked_session] at found
      simp only [Entry.place, Entry.tracks, Entry.alerts, registers]
      by_cases alerted : id ∈ (pendingProximityAlerts geo before now).map (·.sessionId)
      · rw [if_pos alerted] at found
        obtain ⟨old, there, rfl⟩ := Option.map_eq_some_iff.mp found
        have rider := older old there user
        simp only [alerted, if_true]
        exact ⟨rider.coords, rider.trackingBusCode, rfl⟩
      · rw [if_neg alerted] at found
        simp only [alerted, if_false]
        exact kept session found (same_refl session)
  | removeSession sessionId =>
      exact kept session (removed_session [sessionId] found) (same_refl session)
  | evictStaleSessions timeoutMs =>
      exact kept session (removed_session _ found) (same_refl session)

end Sessions

/-! ## One bus -/

def lastFix (bus : LiveBusState K) : Option (K × K) := bus.recent.latest.map fun p => (p.lat, p.lng)

section Buses
variable [Field K] [LinearOrder K] {geo : GeoDistance K} {entry : Entry K} {code : String}
  {bus : LiveBusState K} {fix : Option (K × K)}

theorem fix_located {tracking : Tracking K} {now : Int} {id : String} {lat lng : K}
    {accuracy : Option K} {visible : Option Bool}
    (located : locatedBus tracking now id lat lng accuracy visible = some bus) :
    lastFix bus = some (lat, lng) := by
  obtain ⟨_, session, _, same⟩ := located_bus_spec located
  rw [same, lastFix, LiveBusState.locate, latest_push]
  rfl

theorem fix_step
    (found : (perform geo entry.before entry.now entry.call).liveBuses.lookup code = some bus)
    (older : ∀ old, entry.before.liveBuses.lookup code = some old → lastFix old = fix) :
    lastFix bus = entry.fix code fix := by
  obtain ⟨before, now, call⟩ := entry
  cases call with
  | registerDriver sessionId driverId busCode routeNumber routeColor =>
      simp only [perform, register_driver_lookup] at found
      simp only [Entry.fix]
      by_cases own : code = busCode
      · rw [if_pos own, Option.some.injEq] at found
        rw [← found, if_pos own.symm]
        rfl
      · rw [if_neg own] at found
        rw [if_neg (Ne.symm own)]
        exact older bus found
  | updateDriverLocation sessionId lat lng accuracy visible =>
      simp only [perform, location_lookup] at found
      simp only [Entry.fix]
      by_cases drives : driverBus before sessionId = some code
      · have taken := located_some before now sessionId lat lng accuracy visible
        rw [drives, Option.isSome_some, Bool.true_and] at taken
        rw [if_pos drives] at found
        cases located : locatedBus before now sessionId lat lng accuracy visible with
        | none =>
            rw [located, Option.isSome_none] at taken
            rw [located, Option.none_or] at found
            simp only [← taken, Bool.false_eq_true, and_false, if_false]
            exact older bus found
        | some new =>
            rw [located, Option.isSome_some] at taken
            rw [located, Option.some_or, Option.some.injEq] at found
            simp only [← taken, drives, and_self, if_true]
            rw [← found]
            exact fix_located located
      · rw [if_neg drives] at found
        simp only [drives, false_and, if_false]
        exact older bus found
  | setOccupancy sessionId occupancy =>
      simp only [perform, occupancy_lookup] at found
      split at found
      · obtain ⟨old, there, rfl⟩ := Option.map_eq_some_iff.mp found
        exact older old there
      · exact older bus found
  | setDriverVisibility driverId visible =>
      simp only [perform, visibility_lookup] at found
      obtain ⟨old, there, same⟩ := Option.map_eq_some_iff.mp found
      have kept : lastFix bus = lastFix old := by
        rw [← same]
        split
        · rfl
        · rfl
      exact kept.trans (older old there)
  | removeSession sessionId => exact older bus (removed_lookup before [sessionId] found)
  | evictStaleSessions timeoutMs => exact older bus (removed_lookup before _ found)
  | registerUser | updateUserLocation | trackBus | subscribeRoute | touch
  | pendingProximityAlerts =>
      rw [leaves_buses_eq before now geo rfl] at found
      exact older bus found

end Buses

/-! ## The alerts of a pass -/

section Alerts
variable [Field K] [LinearOrder K] {geo : GeoDistance K} {tracking : Tracking K} {now : Int}
  {alert : ProximityAlert K}

theorem alert_iff {session : ClientSession K} :
    proximityAlert geo tracking now session = some alert ↔
      session.role = .USER ∧ ∃ place bus fix, session.coords = some place ∧
        session.trackingBusCode = some alert.busCode ∧
        PROXIMITY_COOLDOWN_MS ≤ now - session.lastProximityAlert ∧
        tracking.liveBuses.lookup alert.busCode = some bus ∧ bus.visible = true ∧
        lastFix bus = some fix ∧ alert.sessionId = session.sessionId ∧
        alert.distanceKm = geo.distanceKm place.1 place.2 fix.1 fix.2 ∧
        alert.distanceKm ≤ 1 / (2 : Nat) := by
  constructor
  · intro due
    unfold proximityAlert at due
    split at due
    · rename_i lat lng busCode role coords follows
      split at due
      · cases due
      · rename_i rested
        split at due
        · cases due
        · rename_i bus found
          split at due
          · cases due
          · rename_i visible
            split at due
            · cases due
            · rename_i latest newest
              simp only at due
              split at due
              · rename_i near
                cases due
                refine ⟨role, (lat, lng), bus, (latest.lat, latest.lng), coords, follows,
                  Int.not_lt.mp rested, found, ?_, ?_, rfl, rfl, near⟩
                · simpa using visible
                · rw [lastFix, newest]
                  rfl
              · cases due
    · cases due
  · rintro ⟨role, place, bus, fix, coords, follows, rested, found, visible, fixed, named, far, near⟩
    obtain ⟨latest, newest, rfl⟩ := Option.map_eq_some_iff.mp fixed
    obtain ⟨sessionId, busCode, distanceKm⟩ := alert
    simp only at follows found named far near
    subst named
    subst far
    unfold proximityAlert
    simp only [role, coords, follows, found, visible, newest, near, if_neg (Int.not_lt.mpr rested),
      Bool.not_true, Bool.false_eq_true, if_false, if_true]

theorem alert_session {session : ClientSession K}
    (due : proximityAlert geo tracking now session = some alert) :
    alert.sessionId = session.sessionId := by
  obtain ⟨_, _, _, _, _, _, _, _, _, _, named, _⟩ := alert_iff.mp due
  exact named

variable (geo tracking now) in
theorem alerts_nodup : ((pendingProximityAlerts geo tracking now).map (·.sessionId)).Nodup := by
  have sessions := session_ids_nodup tracking
  rw [List.Nodup, List.pairwise_map] at sessions ⊢
  unfold pendingProximityAlerts
  rw [List.pairwise_filterMap]
  refine sessions.imp ?_
  intro first second different alert due other again
  rw [alert_session due, alert_session again]
  exact different

theorem pending_iff : alert ∈ pendingProximityAlerts geo tracking now ↔
    ∃ session, getSession tracking alert.sessionId = some session ∧
      proximityAlert geo tracking now session = some alert := by
  unfold pendingProximityAlerts
  rw [List.mem_filterMap]
  constructor
  · rintro ⟨session, member, due⟩
    obtain ⟨id, found⟩ := mem_values.mp member
    have named := tracking.sessionKeys id session found
    refine ⟨session, ?_, due⟩
    rw [alert_session due, named]
    exact found
  · rintro ⟨session, found, due⟩
    exact ⟨session, mem_values.mpr ⟨_, found⟩, due⟩

end Alerts

/-! ## Runs -/

section Runs
variable [Field K] [LinearOrder K] {geo : GeoDistance K} {world after : World K}

structure Faithful (geo : GeoDistance K) (world : World K) : Prop where
  late : PROXIMITY_COOLDOWN_MS ≤ world.clock
  riders : ∀ id session, getSession world.tracking id = some session → session.role = .USER →
    Rider session (placeOf id world.log) (trackOf id world.log) (alertsOf geo id world.log)
  buses : ∀ code bus, world.tracking.liveBuses.lookup code = some bus →
    lastFix bus = fixOf code world.log
  spaced : ∀ id, (alertsOf geo id world.log).Pairwise fun later earlier =>
    PROXIMITY_COOLDOWN_MS ≤ later - earlier

theorem faithful_start {clock : Int} (late : PROXIMITY_COOLDOWN_MS ≤ clock) :
    Faithful geo (World.start clock : World K) where
  late := late
  riders := by
    intro id session found
    cases found
  buses := by
    intro code bus found
    cases found
  spaced := fun _ => List.Pairwise.nil

theorem rested_iff {now : Int} {alerts : List Int} (late : PROXIMITY_COOLDOWN_MS ≤ now) :
    PROXIMITY_COOLDOWN_MS ≤ now - alerts.headD 0 ↔
      ∀ last ∈ alerts.head?, PROXIMITY_COOLDOWN_MS ≤ now - last := by
  cases alerts with
  | nil => simpa using late
  | cons last rest => simp

theorem pending_due (faithful : Faithful geo world) {now : Int} (passes : world.clock ≤ now)
    (alert : ProximityAlert K) :
    alert ∈ pendingProximityAlerts geo world.tracking now ↔ Due geo world now alert := by
  have late : PROXIMITY_COOLDOWN_MS ≤ now := le_trans faithful.late passes
  rw [pending_iff]
  constructor
  · rintro ⟨session, found, due⟩
    obtain ⟨user, place, bus, fix, coords, follows, rested, live, visible, fixed, _, far, near⟩ :=
      alert_iff.mp due
    have rider := faithful.riders _ session found user
    rw [rider.coords] at coords
    rw [rider.trackingBusCode] at follows
    rw [rider.lastProximityAlert, rested_iff late] at rested
    rw [faithful.buses _ bus live] at fixed
    exact ⟨session, bus, place, fix, found, user, coords, follows, live, visible, fixed, far, near,
      rested⟩
  · rintro ⟨session, bus, place, fix, found, user, coords, follows, live, visible, fixed, far, near,
      rested⟩
    have rider := faithful.riders _ session found user
    have named := world.tracking.sessionKeys _ session found
    rw [← rider.coords] at coords
    rw [← rider.trackingBusCode] at follows
    rw [← rested_iff late, ← rider.lastProximityAlert] at rested
    rw [← faithful.buses _ bus live] at fixed
    exact ⟨session, found, alert_iff.mpr ⟨user, place, bus, fix, coords, follows, rested, live,
      visible, fixed, named.symm, far, near⟩⟩

theorem spaced_alert {now : Int} {alerts : List Int}
    (spaced : alerts.Pairwise fun later earlier => PROXIMITY_COOLDOWN_MS ≤ later - earlier)
    (rested : ∀ last ∈ alerts.head?, PROXIMITY_COOLDOWN_MS ≤ now - last) :
    (now :: alerts).Pairwise fun later earlier => PROXIMITY_COOLDOWN_MS ≤ later - earlier := by
  refine List.pairwise_cons.mpr ⟨?_, spaced⟩
  intro earlier member
  cases alerts with
  | nil => cases member
  | cons last rest =>
      have gap := rested last rfl
      rcases List.mem_cons.mp member with rfl | older
      · exact gap
      · have before := (List.pairwise_cons.mp spaced).1 earlier older
        unfold PROXIMITY_COOLDOWN_MS at *
        omega

theorem spaced_step (faithful : Faithful geo world) {action : Int × Call K}
    (passes : world.clock ≤ action.1) (id : String) :
    (Entry.alerts geo ⟨world.tracking, action.1, action.2⟩ id
      (alertsOf geo id world.log)).Pairwise fun later earlier =>
        PROXIMITY_COOLDOWN_MS ≤ later - earlier := by
  unfold Entry.alerts
  split
  · exact List.Pairwise.nil
  · split
    · split
      · rename_i alerted
        obtain ⟨alert, member, rfl⟩ := List.mem_map.mp alerted
        obtain ⟨_, _, _, _, _, _, _, _, _, _, _, _, _, rested⟩ :=
          (pending_due faithful passes alert).mp member
        exact spaced_alert (faithful.spaced _) rested
      · exact faithful.spaced id
    · exact faithful.spaced id

theorem step_faithful {action : Int × Call K} (faithful : Faithful geo world)
    (taken : step geo world action = some after) : Faithful geo after := by
  unfold step at taken
  split at taken
  · rename_i passes
    rw [← Option.some.inj taken]
    refine ⟨le_trans faithful.late passes, ?_, ?_, spaced_step faithful passes⟩
    · intro id session found user
      exact rider_step found user fun old there rides => faithful.riders id old there rides
    · intro code bus found
      exact fix_step found fun old there => faithful.buses code old there
  · cases taken

/-- In every run from two minutes on, a pass alerts of exactly what is due, each
session once, and two alerts under one registration are two minutes apart. -/
theorem alerts_exact {clock : Int} {actions : List (Int × Call K)}
    (late : PROXIMITY_COOLDOWN_MS ≤ clock)
    (run : Run (fires (step geo)) (World.start clock) actions world) :
    (∀ now, world.clock ≤ now →
      (∀ alert, alert ∈ pendingProximityAlerts geo world.tracking now ↔ Due geo world now alert) ∧
        ((pendingProximityAlerts geo world.tracking now).map (·.sessionId)).Nodup) ∧
      ∀ id, (alertsOf geo id world.log).Pairwise fun later earlier =>
        PROXIMITY_COOLDOWN_MS ≤ later - earlier := by
  have faithful : Faithful geo world := by
    refine run_invariant (Faithful geo) ?_ run (faithful_start late)
    intro before action after taken held
    exact step_faithful held taken
  refine ⟨?_, faithful.spaced⟩
  intro now passes
  exact ⟨pending_due faithful passes, alerts_nodup geo world.tracking now⟩

end Runs

def waiting : List (Int × Call ℚ) :=
  [(120000, .registerUser "rider" "anon"), (120000, .updateUserLocation "rider" 0 0),
    (120000, .trackBus "rider" "BUS-1"), (120000, .registerDriver "driver" "asha" "BUS-1" none none),
    (120000, .pendingProximityAlerts), (120001, .updateDriverLocation "driver" (1 / 4) 0 none none),
    (120002, .pendingProximityAlerts), (200000, .pendingProximityAlerts), (210000, .touch "rider"),
    (240002, .pendingProximityAlerts)]

theorem waiting_alerted : ∃ world : World ℚ, alertsOf taxicab "rider" world.log = [240002, 120002] ∧
    (∀ now, world.clock ≤ now →
      (∀ alert, alert ∈ pendingProximityAlerts taxicab world.tracking now ↔
        Due taxicab world now alert) ∧
        ((pendingProximityAlerts taxicab world.tracking now).map (·.sessionId)).Nodup) ∧
      ∀ id, (alertsOf taxicab id world.log).Pairwise fun later earlier =>
        PROXIMITY_COOLDOWN_MS ≤ later - earlier := by
  have run : ∃ world, Run (fires (step (taxicab : GeoDistance ℚ))) (World.start 120000) waiting
      world ∧ alertsOf taxicab "rider" world.log = [240002, 120002] :=
    ⟨_, exec_run _ _ _ _ rfl, by decide +kernel⟩
  obtain ⟨world, taken, alerts⟩ := run
  exact ⟨world, alerts, alerts_exact (by decide) taken⟩

end CityBus.ProximityAlerts
