import CityBus.TrackingRuns

/-!
Whether only silent sessions are evicted. Each operation of the registry moves
`lastSeen` itself, and the sweep looks at nothing else. A run keeps beside the
registry when which session was heard.
-/

namespace CityBus.SilentSessions

open AuthService GeoUtils GuardedRuns KeyedMaps LiveTracking RingBuffers Store TrackingHandler
  TrackingRuns

variable {K : Type}

structure World (K : Type) where
  tracking : Tracking K
  /-- The inbound messages that were handled: whose and when. -/
  heard : List (String × Int)
  clock : Int

def World.start (clock : Int) : World K := ⟨Tracking.empty, [], clock⟩

def heardWith (now : Int) : Event K → List (String × Int)
  | .message _ id _ => [(id, now)]
  | _ => []

/-- A sweep at any later time evicts nobody who was heard within the timeout. -/
def OnlySilent (world : World K) : Prop :=
  ∀ timeoutMs now, world.clock ≤ now → ∀ id session,
    getSession world.tracking id = some session →
    getSession (evictStaleSessions world.tracking now timeoutMs) id = none →
    ∀ time, (id, time) ∈ world.heard → ¬ (now - timeoutMs ≤ time ∧ time ≤ now)

def Past (world : World K) : Prop := ∀ id time, (id, time) ∈ world.heard → time ≤ world.clock

def UpToDate (world : World K) : Prop :=
  ∀ id session time, getSession world.tracking id = some session → (id, time) ∈ world.heard →
    time ≤ session.lastSeen

variable [Field K] [LinearOrder K]

/-- A message of a registered session moves its `lastSeen`, if it is not there already. -/
def noticed (world : World K) (action : Int × Event K) : Prop :=
  match action.2 with
  | .message db id message =>
      ∀ session, getSession world.tracking id = some session →
        (∃ call, messageCall world.tracking action.1 db id message = some call ∧
          refreshes world.tracking id call = true) ∨ action.1 ≤ session.lastSeen
  | _ => True

variable [FloorRing K] (geo : GeoDistance K)

def step (world : World K) (action : Int × Event K) (after : World K) : Prop :=
  world.clock ≤ action.1 ∧
    after = ⟨serve world.tracking action.1 geo action.2,
      heardWith action.1 action.2 ++ world.heard, action.1⟩

/-! ## The sweep -/

section Sweep
variable {tracking : Tracking K} {now : Int} {id : String} {session : ClientSession K}

omit [Field K] [LinearOrder K] [FloorRing K] in
theorem evicted_iff {timeoutMs : Int} (found : getSession tracking id = some session) :
    getSession (evictStaleSessions tracking now timeoutMs) id = none ↔
      session.lastSeen < now - timeoutMs := by
  rw [evictStaleSessions, remove_all_sessions]
  have stale : id ∈ (staleSessions tracking now timeoutMs).map (·.sessionId) ↔
      session.lastSeen < now - timeoutMs := by
    simp only [staleSessions, List.mem_map, List.mem_filter, decide_eq_true_eq]
    constructor
    · rintro ⟨other, ⟨listed, late⟩, same⟩
      obtain ⟨key, there⟩ := mem_values.mp listed
      have named := tracking.sessionKeys key other there
      rw [same] at named
      subst named
      cases found.symm.trans there
      exact late
    · intro late
      exact ⟨session, ⟨mem_values.mpr ⟨id, found⟩, late⟩, tracking.sessionKeys id session found⟩
  rw [← stale]
  by_cases gone : id ∈ (staleSessions tracking now timeoutMs).map (·.sessionId)
  · simp [gone]
  · simp [gone, found]

omit [Field K] [LinearOrder K] [FloorRing K] in
theorem only_silent_iff {world : World K} (past : Past world) :
    OnlySilent world ↔ UpToDate world := by
  constructor
  · intro silent id session time found heard
    by_contra later
    -- A sweep at this very moment, with a timeout that reaches back to the message.
    have reached := past id time heard
    refine silent (world.clock - time) world.clock le_rfl id session found ?_ time heard ?_
    · rw [evicted_iff found]
      omega
    · omega
  · intro current timeoutMs now _ id session found evicted time heard within
    rw [evicted_iff found] at evicted
    have seen := current id session time found heard
    omega

end Sweep

/-! ## One event -/

section Steps
variable {geo} {world after : World K} {now : Int} {id : String}

omit [Field K] [LinearOrder K] [FloorRing K] in
theorem message_call_kind {db : Database K} {message : Incoming K} {call : Call K}
    (made : messageCall world.tracking now db id message = some call) :
    call.isTelemetry = true ∨
      (∃ driverId busCode routeNumber routeColor,
        call = .registerDriver id driverId busCode routeNumber routeColor) ∨
      ∃ userId, call = .registerUser id userId := by
  cases message with
  | driverRegister token =>
      obtain ⟨driver, _, rfl⟩ := Option.map_eq_some_iff.mp made
      exact Or.inr (Or.inl ⟨_, _, _, _, rfl⟩)
  | userRegister userId =>
      cases made
      exact Or.inr (Or.inr ⟨userId, rfl⟩)
  | driverLocation | driverOccupancy | userLocation | driverVisibility | trackBus =>
      obtain ⟨value, _, rfl⟩ := Option.map_eq_some_iff.mp made
      exact Or.inl rfl
  | subscribeRoute | ping =>
      cases made
      exact Or.inl rfl
  | getActiveBuses | getOtherDrivers | unknown => cases made

omit [Field K] [LinearOrder K] [FloorRing K] in
theorem registered_current {moved : Tracking K} {role : ClientRole} {clientId : String}
    (past : Past world) (current : UpToDate world) (later : world.clock ≤ now)
    (shape : ∀ other, getSession moved other =
      if other = id then some (newSession id role clientId now)
      else getSession world.tracking other) :
    UpToDate ⟨moved, [(id, now)] ++ world.heard, now⟩ := by
  intro other session time found heard
  simp only [shape] at found
  by_cases here : other = id
  · rw [if_pos here] at found
    cases found
    rcases List.mem_cons.mp heard with first | before
    · cases first
      exact le_rfl
    · exact le_trans (past other time before) later
  · rw [if_neg here] at found
    rcases List.mem_cons.mp heard with first | before
    · cases first
      exact absurd rfl here
    · exact current other session time found before

omit [FloorRing K] in
theorem telemetry_current_iff {call : Call K} (quiet : call.isTelemetry = true)
    (past : Past world) (current : UpToDate world) (later : world.clock ≤ now) :
    UpToDate ⟨perform geo world.tracking now call, [(id, now)] ++ world.heard, now⟩ ↔
      ∀ session, getSession world.tracking id = some session →
        refreshes world.tracking id call = true ∨ now ≤ session.lastSeen := by
  constructor
  · intro current' session found
    by_cases moves : refreshes world.tracking id call = true
    · exact Or.inl moves
    · have kept := telemetry_kept geo world.tracking now id quiet
      rw [found, Option.isSome_some, Option.isSome_iff_exists] at kept
      obtain ⟨next, there⟩ := kept
      obtain ⟨old, before, continues⟩ := telemetry_session quiet there
      cases found.symm.trans before
      have seen := current' id next now there (List.mem_cons_self ..)
      rw [continues.lastSeen, if_neg moves] at seen
      exact Or.inr seen
  · intro moved other next time there heard
    obtain ⟨old, before, continues⟩ := telemetry_session quiet there
    rw [continues.lastSeen]
    by_cases moves : refreshes world.tracking other call = true
    · rw [if_pos moves]
      rcases List.mem_cons.mp heard with first | earlier
      · cases first
        exact le_rfl
      · exact le_trans (past other time earlier) later
    · rw [if_neg moves]
      rcases List.mem_cons.mp heard with first | earlier
      · cases first
        exact (moved old before).resolve_left moves
      · exact current other old time before earlier

theorem message_current_iff {db : Database K} {message : Incoming K} (past : Past world)
    (current : UpToDate world) (later : world.clock ≤ now) :
    UpToDate ⟨serve world.tracking now geo (.message db id message),
        [(id, now)] ++ world.heard, now⟩ ↔ noticed world (now, .message db id message) := by
  rw [serve_eq, eventCall]
  simp only [noticed]
  cases made : messageCall world.tracking now db id message with
  -- Nothing is asked of the registry, so `lastSeen` stays where it is.
  | none =>
      constructor
      · intro current' session found
        exact Or.inr (current' id session now found (List.mem_cons_self ..))
      · intro seen other session time found heard
        rcases List.mem_cons.mp heard with first | earlier
        · cases first
          rcases seen session found with ⟨call, never, _⟩ | there
          · cases never
          · exact there
        · exact current other session time found earlier
  | some call =>
      have same : (∃ other, some call = some other ∧
          refreshes world.tracking id other = true) ↔
          refreshes world.tracking id call = true := by simp
      simp only [same, settle]
      rcases message_call_kind made with quiet | ⟨_, _, _, _, rfl⟩ | ⟨_, rfl⟩
      · exact telemetry_current_iff quiet past current later
      · refine iff_of_true ?_ fun _ _ => Or.inl (by simp [refreshes])
        exact registered_current past current later fun other => get_registered_driver other
      · refine iff_of_true ?_ fun _ _ => Or.inl (by simp [refreshes])
        exact registered_current past current later fun other => get_registered_user other

omit [Field K] [LinearOrder K] [FloorRing K] in
theorem unheard_current {moved : Tracking K} (current : UpToDate world)
    (back : ∀ other session, getSession moved other = some session →
      ∃ old, getSession world.tracking other = some old ∧ session.lastSeen = old.lastSeen) :
    UpToDate ⟨moved, [] ++ world.heard, now⟩ := by
  intro other session time found heard
  obtain ⟨old, before, same⟩ := back other session found
  rw [same]
  exact current other old time before heard

theorem step_current_iff {action : Int × Event K} (past : Past world) (current : UpToDate world)
    (taken : step geo world action after) : UpToDate after ↔ noticed world action := by
  obtain ⟨later, rfl⟩ := taken
  obtain ⟨time, event⟩ := action
  cases event with
  | message db id message => exact message_current_iff past current later
  | closed id =>
      refine iff_of_true (unheard_current current fun other session found => ?_) trivial
      rw [serve_eq] at found
      exact ⟨session, removed_session [id] found, rfl⟩
  | broadcastActiveBuses =>
      refine iff_of_true (unheard_current current fun other session found => ?_) trivial
      rw [serve_eq] at found
      simp only [eventCall] at found
      split at found
      · exact ⟨session, found, rfl⟩
      · obtain ⟨old, before, continues⟩ := alerted_session found
        exact ⟨old, before, continues.lastSeen⟩
  | evictStaleSessions timeoutMs =>
      refine iff_of_true (unheard_current current fun other session found => ?_) trivial
      exact ⟨session, removed_session _ found, rfl⟩

theorem step_past {action : Int × Event K} (past : Past world)
    (taken : step geo world action after) : Past after := by
  obtain ⟨later, rfl⟩ := taken
  intro id time heard
  rcases List.mem_append.mp heard with first | earlier
  · obtain ⟨now, event⟩ := action
    cases event with
    | message db sender message =>
        cases List.mem_singleton.mp first
        exact le_rfl
    | closed | broadcastActiveBuses | evictStaleSessions => cases first
  · exact le_trans (past id time earlier) later

end Steps

/-! ## Runs -/

/-- While every message of a registered session moves its `lastSeen`, a sweep evicts
silent sessions only; the next event breaks this exactly if it is a message that is
not noticed. -/
theorem sweeps_evict_silent {world : World K} {clock : Int} {actions : List (Int × Event K)}
    (run : Run (guarded noticed (step geo)) (World.start clock) actions world) :
    OnlySilent world ∧ ∀ action after, step geo world action after →
      (OnlySilent after ↔ noticed world action) := by
  have kept : Past world ∧ UpToDate world := by
    refine run_invariant (fun world => Past world ∧ UpToDate world)
      (fun before action after taken held => ?_) run ?_
    · exact ⟨step_past held.1 taken.2, (step_current_iff held.1 held.2 taken.2).mpr taken.1⟩
    · constructor
      · intro id time heard
        cases heard
      · intro id session time found
        cases found
  refine ⟨(only_silent_iff kept.1).mpr kept.2, fun action after taken => ?_⟩
  rw [only_silent_iff (step_past kept.1 taken)]
  exact step_current_iff kept.1 kept.2 taken

def twoRiders : List (Int × Event ℚ) :=
  [(0, .message Database.empty "r1" (.userRegister "rider")),
    (0, .message Database.empty "r2" (.userRegister "sleeper")),
    (60000, .message Database.empty "r1" .ping),
    (150000, .evictStaleSessions STALE_SESSION_TIMEOUT_MS)]

theorem pinging_rider_kept :
    ∃ world : World ℚ, ("r1", 60000) ∈ world.heard ∧
      (getSession world.tracking "r1").isSome ∧ getSession world.tracking "r2" = none ∧
      (OnlySilent world ∧ ∀ action after, step taxicab world action after →
        (OnlySilent after ↔ noticed world action)) := by
  have run : ∃ world, Run (guarded noticed (step (taxicab : GeoDistance ℚ))) (World.start 0)
      twoRiders world ∧ ("r1", 60000) ∈ world.heard ∧
      (getSession world.tracking "r1").isSome ∧ getSession world.tracking "r2" = none := by
    refine ⟨_, Run.next ⟨fun _ _ => Or.inl ⟨_, rfl, rfl⟩, by decide, rfl⟩
      (Run.next ⟨fun _ _ => Or.inl ⟨_, rfl, rfl⟩, by decide, rfl⟩
        (Run.next ⟨fun _ _ => Or.inl ⟨_, rfl, rfl⟩, by decide, rfl⟩
          (Run.next ⟨trivial, by decide, rfl⟩ (Run.refl _)))), by decide, ?_, ?_⟩
    · decide +kernel
    · decide +kernel
  obtain ⟨world, taken, heard, stays, leaves⟩ := run
  exact ⟨world, heard, stays, leaves, sweeps_evict_silent taxicab taken⟩

/-- A rider who only asks for the buses is evicted a millisecond after a question. -/
theorem asking_rider_evicted :
    ∃ world : World ℚ, Run (step taxicab) (World.start 0)
        [(0, .message Database.empty "r1" (.userRegister "rider")),
          (60000, .message Database.empty "r1" .getActiveBuses),
          (120000, .message Database.empty "r1" .getActiveBuses)] world ∧
      ("r1", 120000) ∈ world.heard ∧ (getSession world.tracking "r1").isSome ∧
      getSession (evictStaleSessions world.tracking 120001 STALE_SESSION_TIMEOUT_MS) "r1" =
        none := by
  refine ⟨_, Run.next ⟨by decide, rfl⟩ (Run.next ⟨by decide, rfl⟩ (Run.next ⟨by decide, rfl⟩
    (Run.refl _))), by decide, by decide +kernel, ?_⟩
  refine (evicted_iff (?_ : getSession _ "r1" = some (newSession "r1" .USER "rider" 0))).mpr ?_
  · rfl
  · decide

end CityBus.SilentSessions
