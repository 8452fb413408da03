import CityBus.RouteService
import CityBus.TrackingRuns

/-!
The numbers in the JSON of a driver's location, a rider's location and a route
subscription. The handlers read them with the accessors of the JSON library, which
give a number for every node; how these read a number from a text is a parameter.
-/

namespace CityBus.InboundJson

open GeoUtils KeyedMaps LiveTracking RingBuffers Store TrackingHandler TrackingRuns

/-- A `JsonNode`; a number is integral or has a fraction or an exponent. -/
inductive Json (K : Type) where
  | null
  | bool (value : Bool)
  | integer (value : Int)
  | decimal (value : K)
  | string (text : String)
  | array (elements : List (Json K))
  | object (fields : List (String × Json K))

/-- How the library reads a number from a text, `none` where it finds none. A text that
reads as infinite or as no number stands for a value in no range. -/
structure Jackson (K : Type) where
  parseDouble : String → Option K
  parseInt : String → Option Int

variable {K : Type}

/-! ## The accessors -/

/-- `none` is the missing node. A field that comes twice has its last value. -/
def Json.path (node : Json K) (field : String) : Option (Json K) :=
  match node with
  | .object fields => fields.reverse.lookup field
  | _ => none

def Json.nonNull (node : Json K) (field : String) : Option (Json K) :=
  match node.path field with
  | none | some .null => none
  | some value => some value

def Json.asBoolean : Json K → Bool
  | .bool value => value
  | .integer value => value ≠ 0
  | .string text => RouteService.trim text = "true"
  | _ => false

section Numbers
variable [Field K] (jackson : Jackson K)

def Json.asDouble : Json K → K
  | .integer value => value
  | .decimal value => value
  | .bool value => if value then 1 else 0
  | .string text => (jackson.parseDouble text).getD 0
  | .null | .array _ | .object _ => 0

def Json.number : Json K → Option K
  | .integer value => some value
  | .decimal value => some value
  | _ => none

theorem as_double_number {node : Json K} {value : K} (number : node.number = some value) :
    node.asDouble jackson = value := by
  cases node with
  | integer | decimal => exact Option.some.inj number
  | null | bool | string | array | object => cases number

variable [LinearOrder K] [FloorRing K]

/-- `(int)` of a `double`. -/
def toInt (v : K) : Int := max (-2 ^ 31) (min (2 ^ 31 - 1) (if 0 ≤ v then ⌊v⌋ else ⌈v⌉))

def Json.asInt : Json K → Int
  -- `intValue` of a longer number keeps its low 32 bits.
  | .integer value => value.bmod (2 ^ 32)
  | .decimal value => toInt value
  | .bool value => if value then 1 else 0
  | .string text => (jackson.parseInt text).getD 0
  | .null | .array _ | .object _ => 0

def IntNumber (node : Json K) (value : Int) : Prop :=
  node.number = some (value : K) ∧ -2 ^ 31 ≤ value ∧ value < 2 ^ 31

theorem as_int_number [IsStrictOrderedRing K] {node : Json K} {value : Int}
    (number : IntNumber node value) : node.asInt jackson = value := by
  obtain ⟨same, low, high⟩ := number
  cases node with
  | integer other =>
      have equal : other = value := Int.cast_injective (Option.some.inj same)
      rw [Json.asInt, equal, Int.bmod_def]
      omega
  | decimal other =>
      have equal : other = (value : K) := Option.some.inj same
      rw [Json.asInt, equal, toInt, Int.floor_intCast, Int.ceil_intCast, ite_self]
      omega
  | null | bool | string | array | object => cases same

end Numbers

/-! ## The messages -/

inductive Kind where
  | driverLocation
  | userLocation
  | subscribeRoute

def coordsOf (data : Json K) : Option (Json K × Json K) :=
  match data.path "coords" with
  | some (.array (first :: second :: _)) => some (first, second)
  | _ => none

section Handling
variable [Field K] [LinearOrder K] [FloorRing K] (jackson : Jackson K)

def readCoords (data : Json K) : Option (K × K) :=
  (coordsOf data).map fun nodes => (nodes.1.asDouble jackson, nodes.2.asDouble jackson)

def incoming (kind : Kind) (data : Json K) : Incoming K :=
  match kind with
  | .driverLocation =>
      .driverLocation (readCoords jackson data)
        ((data.nonNull "accuracy").map (Json.asDouble jackson))
        ((data.nonNull "visible").map Json.asBoolean)
  | .userLocation => .userLocation (readCoords jackson data)
  | .subscribeRoute => .subscribeRoute ((data.nonNull "routeNumber").map (Json.asInt jackson))

def receive (geo : GeoDistance K) (db : Database K) (tracking : Tracking K) (now : Int)
    (sessionId : String) (kind : Kind) (data : Json K) : Tracking K :=
  (handleMessage db tracking now sessionId geo (incoming jackson kind data)).1

end Handling

/-! ## What is kept of a message -/

def coordsAt (tracking : Tracking K) (id : String) : Option (Option (K × K)) :=
  (getSession tracking id).map (·.coords)

def subscriptionAt (tracking : Tracking K) (id : String) : Option (Option Int) :=
  (getSession tracking id).map (·.subscribedRouteNumber)

structure Unmoved (before after : Tracking K) : Prop where
  fixes : ∀ code, history after code = history before code
  coords : ∀ id, coordsAt after id = coordsAt before id
  subscriptions : ∀ id, subscriptionAt after id = subscriptionAt before id

section Kept
variable [Field K] [LinearOrder K] [FloorRing K] (jackson : Jackson K)

/-- The numbers that the handler uses are JSON numbers in range, and it is these that
the registry has. -/
def Stored (sessionId : String) (data : Json K) (after : Tracking K) : Kind → Prop
  | .driverLocation => ∃ nodes lat lng code fix, coordsOf data = some nodes ∧
      nodes.1.number = some lat ∧ nodes.2.number = some lng ∧
      (isValidLatitude lat && isValidLongitude lng) = true ∧
      coordsAt after sessionId = some (some (lat, lng)) ∧ driverBus after sessionId = some code ∧
      (history after code).getLast? = some fix ∧ fix.lat = lat ∧ fix.lng = lng
  | .userLocation => ∃ nodes lat lng, coordsOf data = some nodes ∧
      nodes.1.number = some lat ∧ nodes.2.number = some lng ∧
      (isValidLatitude lat && isValidLongitude lng) = true ∧
      coordsAt after sessionId = some (some (lat, lng))
  | .subscribeRoute =>
      match data.nonNull "routeNumber" with
      | none => subscriptionAt after sessionId = some none
      | some node => ∃ value, IntNumber node value ∧
          subscriptionAt after sessionId = some (some value)

def Numeric (data : Json K) : Kind → Prop
  | .driverLocation | .userLocation => ∀ nodes, coordsOf data = some nodes →
      nodes.1.number.isSome ∧ nodes.2.number.isSome
  | .subscribeRoute => ∀ node, data.nonNull "routeNumber" = some node → ∃ value, IntNumber node value

/-- The message is one to store: the session may send it, and what is read from it
passes the checks. -/
def Taken (tracking : Tracking K) (sessionId : String) (data : Json K) : Kind → Prop
  | .driverLocation => (driverBus tracking sessionId).isSome ∧ ∃ read,
      readCoords jackson data = some read ∧
        (isValidLatitude read.1 && isValidLongitude read.2) = true
  | .userLocation => (getSession tracking sessionId).isSome ∧ ∃ read,
      readCoords jackson data = some read ∧
        (isValidLatitude read.1 && isValidLongitude read.2) = true
  | .subscribeRoute => ∃ session, getSession tracking sessionId = some session ∧ session.role = .USER

/-- What is read from the message is what the registry has already; of a bus, all of its
buffer is this fix. -/
def Repeats (tracking : Tracking K) (now : Int) (sessionId : String) (data : Json K) : Kind → Prop
  | .driverLocation => ∃ read code, readCoords jackson data = some read ∧
      driverBus tracking sessionId = some code ∧ coordsAt tracking sessionId = some (some read) ∧
      history tracking code = List.replicate RING_BUFFER_SIZE ⟨read.1, read.2, now⟩
  | .userLocation => ∃ read, readCoords jackson data = some read ∧
      coordsAt tracking sessionId = some (some read)
  | .subscribeRoute => subscriptionAt tracking sessionId =
      some ((data.nonNull "routeNumber").map (Json.asInt jackson))

end Kept

/-! ## What the calls do to it -/

theorem unmoved_refl (tracking : Tracking K) : Unmoved tracking tracking :=
  ⟨fun _ => rfl, fun _ => rfl, fun _ => rfl⟩

theorem history_eq (tracking : Tracking K) (code : String) :
    history tracking code = ((tracking.liveBuses.lookup code).map (·.recent.items)).getD [] := by
  unfold history
  cases tracking.liveBuses.lookup code with
  | none => rfl
  | some bus => rfl

theorem history_bounded (tracking : Tracking K) (code : String) :
    (history tracking code).length ≤ RING_BUFFER_SIZE := by
  unfold history
  split
  · exact Nat.zero_le _
  · exact Buffer.bounded _

section Changes
variable {tracking : Tracking K} {sender : String} {change : ClientSession K → ClientSession K}
  {keeps : ∀ session, (change session).sessionId = session.sessionId}

theorem coords_put_bus (tracking : Tracking K) (bus : LiveBusState K) (id : String) :
    coordsAt (tracking.putBus bus) id = coordsAt tracking id := rfl

theorem subscription_put_bus (tracking : Tracking K) (bus : LiveBusState K) (id : String) :
    subscriptionAt (tracking.putBus bus) id = subscriptionAt tracking id := rfl

theorem change_absent (absent : getSession tracking sender = none) (id : String) :
    getSession (tracking.changeSession sender change keeps) id = getSession tracking id := by
  rw [get_change_session]
  split
  · rename_i own
    rw [own, absent]
    rfl
  · rfl

theorem change_kept {Part : Type} (part : ClientSession K → Part)
    (kept : ∀ session, part (change session) = part session) (id : String) :
    (getSession (tracking.changeSession sender change keeps) id).map part =
      (getSession tracking id).map part := by
  rw [get_change_session]
  split
  · cases getSession tracking id with
    | none => rfl
    | some session => exact congrArg some (kept session)
  · rfl

theorem coords_moved {place : K × K} (there : (getSession tracking sender).isSome)
    (moves : ∀ session, (change session).coords = some place) (id : String) :
    coordsAt (tracking.changeSession sender change keeps) id =
      if id = sender then some (some place) else coordsAt tracking id := by
  obtain ⟨session, found⟩ := Option.isSome_iff_exists.mp there
  unfold coordsAt
  rw [get_change_session]
  by_cases own : id = sender
  · rw [if_pos own, if_pos own, own, found, Option.map_some, Option.map_some, moves]
  · rw [if_neg own, if_neg own]

end Changes

section Calls
variable [Field K] [LinearOrder K] {tracking : Tracking K} {now : Int} {sessionId code : String}
  {lat lng : K} {accuracy : Option K} {visible : Option Bool}

theorem driver_refused
    (refused : ¬ ((driverBus tracking sessionId).isSome ∧
      (isValidLatitude lat && isValidLongitude lng) = true)) :
    updateDriverLocation tracking now sessionId lat lng accuracy visible = tracking := by
  have taken := located_some tracking now sessionId lat lng accuracy visible
  rw [← Bool.and_eq_true, ← taken, Option.not_isSome_iff_eq_none] at refused
  rw [updateDriverLocation, refused]

structure DriverMoved (tracking after : Tracking K) (now : Int) (sessionId code : String)
    (lat lng : K) : Prop where
  coords : ∀ id, coordsAt after id =
    if id = sessionId then some (some (lat, lng)) else coordsAt tracking id
  subscriptions : ∀ id, subscriptionAt after id = subscriptionAt tracking id
  drives : driverBus after sessionId = some code
  fixes : ∀ other, history after other =
    if other = code then (history tracking code ++ [(⟨lat, lng, now⟩ : TimedPoint K)]).rtake
      RING_BUFFER_SIZE
    else history tracking other

theorem driver_moved (drives : driverBus tracking sessionId = some code)
    (valid : (isValidLatitude lat && isValidLongitude lng) = true) :
    DriverMoved tracking (updateDriverLocation tracking now sessionId lat lng accuracy visible) now
      sessionId code lat lng := by
  obtain ⟨session, found, role⟩ := driver_role drives
  have located : locatedBus tracking now sessionId lat lng accuracy visible =
      some ((computeIfAbsent tracking now code session.clientId).locate
        lat lng accuracy visible now) := by
    rw [located_valid found role, if_pos valid]
  have there : (getSession tracking sessionId).isSome := by
    rw [found]
    rfl
  refine ⟨?_, ?_, ?_, ?_⟩
  · intro id
    simp only [updateDriverLocation, located, coords_put_bus]
    exact coords_moved there (fun _ => rfl) id
  · intro id
    simp only [updateDriverLocation, located, subscription_put_bus]
    apply change_kept (·.subscribedRouteNumber)
    intro session
    rfl
  · rw [updateDriverLocation, located, driver_put_bus, driver_change_session, drives]
  · intro other
    rw [history_eq, location_lookup, located, drives]
    by_cases own : other = code
    · subst own
      rw [if_pos rfl, if_pos rfl, Option.some_or, Option.map_some, Option.getD_some, history_eq]
      simp only [LiveBusState.locate, items_push, computeIfAbsent]
      cases tracking.liveBuses.lookup other with
      | none => rfl
      | some bus => rfl
    · rw [if_neg own, if_neg (by simpa using Ne.symm own), history_eq]

theorem user_refused
    (refused : ¬ ((getSession tracking sessionId).isSome ∧
      (isValidLatitude lat && isValidLongitude lng) = true)) :
    Unmoved tracking (updateUserLocation tracking now sessionId lat lng) := by
  unfold updateUserLocation
  split
  · rename_i valid
    have absent : getSession tracking sessionId = none := by
      rw [← Option.not_isSome_iff_eq_none]
      exact fun there => refused ⟨there, valid⟩
    refine ⟨fun _ => rfl, ?_, ?_⟩
    · intro id
      simp only [coordsAt, change_absent absent]
    · intro id
      simp only [subscriptionAt, change_absent absent]
  · exact unmoved_refl tracking

variable (now) in
theorem user_moved (there : (getSession tracking sessionId).isSome)
    (valid : (isValidLatitude lat && isValidLongitude lng) = true) :
    (∀ id, coordsAt (updateUserLocation tracking now sessionId lat lng) id =
        if id = sessionId then some (some (lat, lng)) else coordsAt tracking id) ∧
      (∀ id, subscriptionAt (updateUserLocation tracking now sessionId lat lng) id =
        subscriptionAt tracking id) ∧
      ∀ code, history (updateUserLocation tracking now sessionId lat lng) code =
        history tracking code := by
  rw [updateUserLocation, if_pos valid]
  exact ⟨coords_moved there fun _ => rfl, change_kept (·.subscribedRouteNumber) fun _ => rfl,
    fun _ => rfl⟩

omit [Field K] [LinearOrder K] in
theorem subscribe_moved (tracking : Tracking K) (now : Int) (sessionId : String)
    (routeNumber : Option Int) :
    (∀ id, coordsAt (subscribeRoute tracking now sessionId routeNumber) id =
        coordsAt tracking id) ∧
      (∀ id, subscriptionAt (subscribeRoute tracking now sessionId routeNumber) id =
        if id = sessionId then (getSession tracking id).map fun session =>
          if session.role = .USER then routeNumber else session.subscribedRouteNumber
        else subscriptionAt tracking id) ∧
      ∀ code, history (subscribeRoute tracking now sessionId routeNumber) code =
        history tracking code := by
  refine ⟨?_, ?_, fun _ => rfl⟩
  · apply change_kept (·.coords)
    intro session
    split
    · rfl
    · rfl
  · intro id
    simp only [subscriptionAt, subscribeRoute, get_change_session]
    split
    · rw [Option.map_map]
      congr 1
      funext session
      simp only [Function.comp_apply]
      split
      · rfl
      · rfl
    · rfl

omit [Field K] [LinearOrder K] in
theorem subscribe_refused (now : Int) (routeNumber : Option Int)
    (refused : ∀ session, getSession tracking sessionId = some session → session.role ≠ .USER) :
    Unmoved tracking (subscribeRoute tracking now sessionId routeNumber) := by
  obtain ⟨coords, subscriptions, fixes⟩ := subscribe_moved tracking now sessionId routeNumber
  refine ⟨fixes, coords, ?_⟩
  intro id
  rw [subscriptions]
  split
  · rename_i own
    subst own
    rw [subscriptionAt]
    cases found : getSession tracking id with
    | none => rfl
    | some session => rw [Option.map_some, Option.map_some, if_neg (refused session found)]
  · rfl

end Calls

/-! ## Each message -/

section Reads
variable [Field K] {jackson : Jackson K} {data : Json K} {nodes : Json K × Json K} {read : K × K}

theorem read_numbers (found : coordsOf data = some nodes)
    (reads : readCoords jackson data = some read) :
    nodes.1.asDouble jackson = read.1 ∧ nodes.2.asDouble jackson = read.2 := by
  rw [readCoords, found, Option.map_some, Option.some.injEq] at reads
  rw [← reads]
  exact ⟨rfl, rfl⟩

theorem numeric_read (found : coordsOf data = some nodes)
    (reads : readCoords jackson data = some read)
    (numbers : nodes.1.number.isSome ∧ nodes.2.number.isSome) :
    nodes.1.number = some read.1 ∧ nodes.2.number = some read.2 := by
  obtain ⟨lat, latNumber⟩ := Option.isSome_iff_exists.mp numbers.1
  obtain ⟨lng, lngNumber⟩ := Option.isSome_iff_exists.mp numbers.2
  obtain ⟨latRead, lngRead⟩ := read_numbers found reads
  rw [as_double_number jackson latNumber] at latRead
  rw [as_double_number jackson lngNumber] at lngRead
  rw [latNumber, lngNumber, latRead, lngRead]
  exact ⟨rfl, rfl⟩

theorem numbers_numeric {lat lng : K} (found : coordsOf data = some nodes)
    (first : nodes.1.number = some lat) (second : nodes.2.number = some lng) :
    ∀ other, coordsOf data = some other → other.1.number.isSome ∧ other.2.number.isSome := by
  intro other again
  rw [found, Option.some.injEq] at again
  rw [← again, first, second]
  exact ⟨rfl, rfl⟩

theorem none_numeric (reads : readCoords jackson data = none) :
    ∀ other, coordsOf data = some other → other.1.number.isSome ∧ other.2.number.isSome := by
  intro other found
  rw [Option.map_eq_none_iff.mp reads] at found
  cases found

theorem read_valid_iff [LinearOrder K] (reads : readCoords jackson data = some read) :
    (∃ other, readCoords jackson data = some other ∧
        (isValidLatitude other.1 && isValidLongitude other.2) = true) ↔
      (isValidLatitude read.1 && isValidLongitude read.2) = true := by
  constructor
  · rintro ⟨other, again, valid⟩
    rw [reads, Option.some.injEq] at again
    rwa [again]
  · intro valid
    exact ⟨read, reads, valid⟩

end Reads

section Messages
variable [Field K] [LinearOrder K] [FloorRing K] {jackson : Jackson K} {geo : GeoDistance K}
  {db : Database K} {tracking after : Tracking K} {now : Int} {sessionId : String} {data : Json K}
  {read : K × K}

theorem receive_driver (reads : readCoords jackson data = some read) :
    receive jackson geo db tracking now sessionId .driverLocation data =
      updateDriverLocation tracking now sessionId read.1 read.2
        ((data.nonNull "accuracy").map (Json.asDouble jackson))
        ((data.nonNull "visible").map Json.asBoolean) := by
  rw [receive, handle_message_call, incoming, reads]
  rfl

theorem receive_user (reads : readCoords jackson data = some read) :
    receive jackson geo db tracking now sessionId .userLocation data =
      updateUserLocation tracking now sessionId read.1 read.2 := by
  rw [receive, incoming, reads]
  rfl

theorem driver_taken_iff {code : String} (reads : readCoords jackson data = some read)
    (drives : driverBus tracking sessionId = some code)
    (valid : (isValidLatitude read.1 && isValidLongitude read.2) = true)
    (moved : DriverMoved tracking after now sessionId code read.1 read.2) :
    (Stored sessionId data after .driverLocation ∨ Unmoved tracking after) ↔
      (Numeric data .driverLocation ∨ Repeats jackson tracking now sessionId data .driverLocation) := by
  have coords := moved.coords sessionId
  have fixes := moved.fixes code
  rw [if_pos rfl] at coords fixes
  constructor
  · rintro (stored | unmoved)
    · obtain ⟨nodes, lat, lng, _, _, found, first, second, _⟩ := stored
      exact Or.inl (numbers_numeric found first second)
    · rw [unmoved.coords] at coords
      rw [unmoved.fixes] at fixes
      have room : 0 < RING_BUFFER_SIZE := by decide
      have full := (rtake_same_iff room (history_bounded tracking code) _).mp fixes.symm
      exact Or.inr ⟨read, code, reads, drives, coords, full⟩
  · rintro (numeric | repeats)
    · obtain ⟨nodes, found, _⟩ := Option.map_eq_some_iff.mp reads
      obtain ⟨first, second⟩ := numeric_read found reads (numeric nodes found)
      have last : (history after code).getLast? = some ⟨read.1, read.2, now⟩ := by
        rw [fixes]
        show ((history tracking code ++ [_]).rtake (59 + 1)).getLast? = _
        rw [List.rtake_concat_succ, List.getLast?_concat]
      exact Or.inl ⟨nodes, read.1, read.2, code, _, found, first, second, valid, coords,
        moved.drives, last, rfl, rfl⟩
    · obtain ⟨again, bus, readsAgain, drivesAgain, same, full⟩ := repeats
      rw [reads, Option.some.injEq] at readsAgain
      rw [drives, Option.some.injEq] at drivesAgain
      subst readsAgain
      subst drivesAgain
      refine Or.inr ⟨?_, ?_, moved.subscriptions⟩
      · intro other
        by_cases own : other = code
        · have room : 0 < RING_BUFFER_SIZE := by decide
          rw [own, fixes]
          exact (rtake_same_iff room (history_bounded tracking code) _).mpr full
        · rw [moved.fixes other, if_neg own]
      · intro id
        by_cases own : id = sessionId
        · rw [own, coords, same]
        · rw [moved.coords id, if_neg own]

variable (jackson geo db tracking now sessionId data) in
theorem driver_iff :
    (Stored sessionId data (receive jackson geo db tracking now sessionId .driverLocation data)
        .driverLocation ∨
      Unmoved tracking (receive jackson geo db tracking now sessionId .driverLocation data)) ↔
    (Numeric data .driverLocation ∨ ¬ Taken jackson tracking sessionId data .driverLocation ∨
      Repeats jackson tracking now sessionId data .driverLocation) := by
  cases reads : readCoords jackson data with
  | none =>
      have same : receive jackson geo db tracking now sessionId .driverLocation data =
          tracking := by
        rw [receive, incoming, reads]
        rfl
      rw [same]
      exact ⟨fun _ => Or.inl (none_numeric reads), fun _ => Or.inr (unmoved_refl tracking)⟩
  | some read =>
      rw [receive_driver reads]
      rw [Taken, read_valid_iff reads]
      by_cases taken : (driverBus tracking sessionId).isSome ∧
          (isValidLatitude read.1 && isValidLongitude read.2) = true
      · obtain ⟨code, drives⟩ := Option.isSome_iff_exists.mp taken.1
        rw [driver_taken_iff reads drives taken.2 (driver_moved drives taken.2)]
        simp only [taken, and_self, not_true_eq_false, false_or]
      · rw [driver_refused taken]
        exact ⟨fun _ => Or.inr (Or.inl taken), fun _ => Or.inr (unmoved_refl tracking)⟩

variable (jackson geo db tracking now sessionId data) in
theorem user_iff :
    (Stored sessionId data (receive jackson geo db tracking now sessionId .userLocation data)
        .userLocation ∨
      Unmoved tracking (receive jackson geo db tracking now sessionId .userLocation data)) ↔
    (Numeric data .userLocation ∨ ¬ Taken jackson tracking sessionId data .userLocation ∨
      Repeats jackson tracking now sessionId data .userLocation) := by
  cases reads : readCoords jackson data with
  | none =>
      have same : receive jackson geo db tracking now sessionId .userLocation data = tracking := by
        rw [receive, incoming, reads]
        rfl
      rw [same]
      exact ⟨fun _ => Or.inl (none_numeric reads), fun _ => Or.inr (unmoved_refl tracking)⟩
  | some read =>
      rw [receive_user reads]
      rw [Taken, read_valid_iff reads]
      by_cases taken : (getSession tracking sessionId).isSome ∧
          (isValidLatitude read.1 && isValidLongitude read.2) = true
      · obtain ⟨coords, subscriptions, fixes⟩ := user_moved now taken.1 taken.2
        have here := coords sessionId
        rw [if_pos rfl] at here
        simp only [taken, and_self, not_true_eq_false, false_or]
        constructor
        · rintro (stored | unmoved)
          · obtain ⟨nodes, lat, lng, found, first, second, _⟩ := stored
            exact Or.inl (numbers_numeric found first second)
          · rw [unmoved.coords] at here
            exact Or.inr ⟨read, reads, here⟩
        · rintro (numeric | repeats)
          · obtain ⟨nodes, found, _⟩ := Option.map_eq_some_iff.mp reads
            obtain ⟨first, second⟩ := numeric_read found reads (numeric nodes found)
            exact Or.inl ⟨nodes, read.1, read.2, found, first, second, taken.2, here⟩
          · obtain ⟨again, readsAgain, same⟩ := repeats
            rw [reads, Option.some.injEq] at readsAgain
            subst readsAgain
            refine Or.inr ⟨fixes, ?_, subscriptions⟩
            intro id
            by_cases own : id = sessionId
            · rw [own, here, same]
            · rw [coords id, if_neg own]
      · exact ⟨fun _ => Or.inr (Or.inl taken), fun _ => Or.inr (user_refused taken)⟩

variable (jackson geo db tracking now sessionId data) in
theorem subscribe_iff [IsStrictOrderedRing K] :
    (Stored sessionId data (receive jackson geo db tracking now sessionId .subscribeRoute data)
        .subscribeRoute ∨
      Unmoved tracking (receive jackson geo db tracking now sessionId .subscribeRoute data)) ↔
    (Numeric data .subscribeRoute ∨ ¬ Taken jackson tracking sessionId data .subscribeRoute ∨
      Repeats jackson tracking now sessionId data .subscribeRoute) := by
  have calls : receive jackson geo db tracking now sessionId .subscribeRoute data =
      subscribeRoute tracking now sessionId
        ((data.nonNull "routeNumber").map (Json.asInt jackson)) := rfl
  rw [calls]
  by_cases taken : Taken jackson tracking sessionId data .subscribeRoute
  · simp only [taken, not_true_eq_false, false_or]
    obtain ⟨session, found, user⟩ := taken
    obtain ⟨coords, subscriptions, fixes⟩ := subscribe_moved tracking now sessionId
      ((data.nonNull "routeNumber").map (Json.asInt jackson))
    have here := subscriptions sessionId
    rw [if_pos rfl, found, Option.map_some, if_pos user] at here
    constructor
    · rintro (stored | unmoved)
      · refine Or.inl ?_
        intro node asked
        simp only [Stored, asked] at stored
        obtain ⟨value, number, _⟩ := stored
        exact ⟨value, number⟩
      · rw [unmoved.subscriptions] at here
        exact Or.inr here
    · rintro (numeric | repeats)
      · refine Or.inl ?_
        cases asked : data.nonNull "routeNumber" with
        | none =>
            simp only [Stored, asked]
            rw [asked] at here
            exact here
        | some node =>
            obtain ⟨value, number⟩ := numeric node asked
            simp only [Stored, asked]
            rw [asked] at here
            refine ⟨value, number, here.trans ?_⟩
            rw [Option.map_some, as_int_number jackson number]
      · refine Or.inr ⟨fixes, coords, ?_⟩
        intro id
        by_cases own : id = sessionId
        · rw [own, here]
          exact repeats.symm
        · rw [subscriptions, if_neg own]
  · refine ⟨fun _ => Or.inr (Or.inl taken), fun _ => Or.inr ?_⟩
    exact subscribe_refused now _ fun session found user => taken ⟨session, found, user⟩

/-- A message stores the JSON numbers that it has or leaves everything as it was, exactly
if it has JSON numbers, or is not one to store, or says what is there already. -/
theorem numbers_kept_iff [IsStrictOrderedRing K] (jackson : Jackson K) (geo : GeoDistance K)
    (db : Database K) (tracking : Tracking K) (now : Int) (sessionId : String) (kind : Kind)
    (data : Json K) :
    (Stored sessionId data (receive jackson geo db tracking now sessionId kind data) kind ∨
      Unmoved tracking (receive jackson geo db tracking now sessionId kind data)) ↔
    (Numeric data kind ∨ ¬ Taken jackson tracking sessionId data kind ∨
      Repeats jackson tracking now sessionId data kind) := by
  cases kind with
  | driverLocation => exact driver_iff jackson geo db tracking now sessionId data
  | userLocation => exact user_iff jackson geo db tracking now sessionId data
  | subscribeRoute => exact subscribe_iff jackson geo db tracking now sessionId data

end Messages

/-! ## A ping without numbers -/

def noTexts : Jackson ℚ := ⟨fun _ => none, fun _ => none⟩

def oneDriver : Tracking ℚ := registerDriver Tracking.empty 0 "s1" "asha" "BUS-1" none none

def nowhere : Json ℚ := .object [("coords", .array [.null, .null])]

def somewhere : Json ℚ := .object [("coords", .array [.decimal (397 / 20), .integer 75])]

theorem somewhere_kept :
    Stored "s1" somewhere
        (receive noTexts taxicab Database.empty oneDriver 1 "s1" .driverLocation somewhere)
        .driverLocation ∨
      Unmoved oneDriver
        (receive noTexts taxicab Database.empty oneDriver 1 "s1" .driverLocation somewhere) := by
  have numeric : Numeric somewhere .driverLocation := by
    intro nodes found
    cases found
    exact ⟨rfl, rfl⟩
  exact (numbers_kept_iff noTexts taxicab Database.empty oneDriver 1 "s1" .driverLocation
    somewhere).mpr (Or.inl numeric)

/-- Two nulls put a bus where the equator meets the prime meridian. -/
theorem nulls_stored : ¬ ∀ (jackson : Jackson ℚ) (geo : GeoDistance ℚ) (db : Database ℚ)
    (tracking : Tracking ℚ) (now : Int) (sessionId : String) (kind : Kind) (data : Json ℚ),
    Stored sessionId data (receive jackson geo db tracking now sessionId kind data) kind ∨
      Unmoved tracking (receive jackson geo db tracking now sessionId kind data) := by
  intro always
  rcases always noTexts taxicab Database.empty oneDriver 1 "s1" .driverLocation nowhere with
    stored | unmoved
  · obtain ⟨nodes, lat, lng, _, _, found, first, _⟩ := stored
    cases found
    cases first
  · have fixes := unmoved.fixes "BUS-1"
    have invented : history (receive noTexts taxicab Database.empty oneDriver 1 "s1"
        .driverLocation nowhere) "BUS-1" = [⟨0, 0, 1⟩] := by decide +kernel
    rw [invented] at fixes
    have nothing : history oneDriver "BUS-1" = [] := by decide +kernel
    rw [nothing] at fixes
    cases fixes

end CityBus.InboundJson
