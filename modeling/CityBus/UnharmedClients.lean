import CityBus.FailingSockets

/-!
Whether a bad socket harms the others. What an operation is to do is known
beforehand; an exception that escapes leaves the rest of it undone, so nobody is
harmed exactly if nothing that is owed to somebody is left.
-/

namespace CityBus.UnharmedClients

open AbortingLoops KeyedMaps LiveTracking TrackingHandler FailingSockets

variable {K : Type}

/-! ## What is owed to whom -/

def fails (sockets : KeyedMap String Socket) (sessionId : String) : Bool :=
  (sockets.lookup sessionId).any (·.throwing.isSome)

def mended (sockets : KeyedMap String Socket) : KeyedMap String Socket :=
  mapValues (fun socket => { socket with throwing := none }) sockets

def receivedBy (server : Server K) (sessionId : String) : List (Outgoing K) :=
  server.received.filterMap fun sent => if sent.1 = sessionId then some sent.2 else none

variable [Field K] [LinearOrder K] [FloorRing K] (geo : GeoUtils.GeoDistance K)

/-- Whoever does not fail receives what it receives when nobody fails, and eviction
takes every stale session's socket from the map and closes it. -/
def Unharmed (operation : Operation K) (tracking : Tracking K)
    (sockets : KeyedMap String Socket) : Prop :=
  (∀ id, fails sockets id = false →
    receivedBy (after geo operation tracking sockets) id =
      receivedBy (after geo operation tracking (mended sockets)) id) ∧
  ∀ now, operation = .evictStaleSessions now →
    ∀ stale ∈ staleSessions tracking now STALE_SESSION_TIMEOUT_MS,
      (after geo operation tracking sockets).sockets.lookup stale.sessionId = none ∧
      (isOpen sockets stale.sessionId = true →
        stale.sessionId ∈ (after geo operation tracking sockets).closed)

/-- The effect is somebody's message, or a socket's removal or end. -/
def owed (sockets : KeyedMap String Socket) : Effect K → Bool
  | .send sessionId _ => reaches sockets sessionId
  | .registry _ => false
  | .removeSocket sessionId => (sockets.lookup sessionId).isSome
  | .close sessionId => isOpen sockets sessionId

/-- From the first send on that escapes. -/
def leftUndone (operation : Operation K) (tracking : Tracking K)
    (sockets : KeyedMap String Socket) : List (Effect K) :=
  (planned geo tracking operation).dropWhile fun effect => !throwing sockets effect

/-! ## What the effects leave -/

section Effects
variable (sockets : KeyedMap String Socket) (server : Server K) (effects : List (Effect K))
  (id : String)

def receipt : Effect K → Option (Outgoing K)
  | .send sessionId message =>
      if sessionId = id && reaches sockets sessionId then some message else none
  | _ => none

omit [Field K] [LinearOrder K] [FloorRing K]

def delivered : Effect K → Option (String × Outgoing K)
  | .send sessionId message =>
      if reaches sockets sessionId then some (sessionId, message) else none
  | _ => none

theorem received_effects :
    (effects.foldl (Effect.apply sockets) server).received =
      server.received ++ effects.filterMap (delivered sockets) := by
  induction effects generalizing server with
  | nil => simp
  | cons effect rest ih =>
      rw [List.foldl_cons, ih]
      cases effect with
      | send sessionId message =>
          by_cases reached : reaches sockets sessionId = true
          · simp [Effect.apply, delivered, reached]
          · simp [Effect.apply, delivered, reached]
      | registry | removeSocket => rfl
      | close sessionId =>
          simp only [Effect.apply, delivered, List.filterMap_cons]
          split <;> rfl

theorem received_by_effects :
    receivedBy (effects.foldl (Effect.apply sockets) server) id =
      receivedBy server id ++ effects.filterMap (receipt sockets id) := by
  simp only [receivedBy, received_effects, List.filterMap_append, List.filterMap_filterMap]
  congr 1
  refine List.filterMap_congr fun effect _ => ?_
  cases effect with
  | send sessionId message =>
      by_cases reached : reaches sockets sessionId = true
      · simp [delivered, receipt, reached]
      · simp [delivered, receipt, reached]
  | registry | removeSocket | close => rfl

theorem closed_by_effects : id ∈ (effects.foldl (Effect.apply sockets) server).closed ↔
    id ∈ server.closed ∨ (Effect.close id ∈ effects ∧ isOpen sockets id = true) := by
  induction effects generalizing server with
  | nil => simp
  | cons effect rest ih =>
      rw [List.foldl_cons, ih]
      cases effect with
      | send sessionId message =>
          simp only [Effect.apply, List.mem_cons, reduceCtorEq, false_or]
          split <;> rfl
      | registry tracking => simp [Effect.apply]
      | removeSocket sessionId => simp [Effect.apply]
      | close sessionId =>
          by_cases opened : isOpen sockets sessionId = true
          · by_cases same : id = sessionId
            · simp [Effect.apply, same, opened]
            · simp [Effect.apply, same, opened]
          · by_cases same : id = sessionId
            · simp [Effect.apply, same, opened]
            · simp [Effect.apply, same, opened]

theorem removed_by_effects :
    (effects.foldl (Effect.apply sockets) server).sockets.lookup id = none ↔
      server.sockets.lookup id = none ∨ Effect.removeSocket id ∈ effects := by
  induction effects generalizing server with
  | nil => simp
  | cons effect rest ih =>
      rw [List.foldl_cons, ih]
      cases effect with
      | send sessionId message =>
          simp only [Effect.apply, List.mem_cons, reduceCtorEq, false_or]
          split <;> rfl
      | registry tracking => simp [Effect.apply]
      | removeSocket sessionId =>
          by_cases same : id = sessionId
          · subst same
            simp [Effect.apply]
          · simp [Effect.apply, same]
      | close sessionId =>
          simp only [Effect.apply, List.mem_cons, reduceCtorEq, false_or]
          split <;> rfl

end Effects

/-! ## What is planned for evicted sessions -/

section Plans
variable {tracking : Tracking K} {sockets : KeyedMap String Socket} {operation : Operation K}

def removal : Effect K → Option String
  | .removeSocket sessionId => some sessionId
  | _ => none

def ending : Effect K → Option String
  | .close sessionId => some sessionId
  | _ => none

omit [Field K] [LinearOrder K] [FloorRing K] in
theorem sends_of_mem {sends : Sends K} {effect : Effect K} (member : effect ∈ sendsOf sends) :
    ∃ sessionId message, effect = .send sessionId message := by
  obtain ⟨sent, _, rfl⟩ := List.mem_map.mp member
  exact ⟨sent.1, sent.2, rfl⟩

theorem planned_socket {effect : Effect K} (member : effect ∈ planned geo tracking operation)
    (socket : (removal effect).isSome ∨ (ending effect).isSome) :
    ∃ now, operation = .evictStaleSessions now := by
  have sends {sends : Sends K} (listed : effect ∈ sendsOf sends) : False := by
    obtain ⟨sessionId, message, rfl⟩ := sends_of_mem listed
    simp [removal, ending] at socket
  cases operation with
  | evictStaleSessions now => exact ⟨now, rfl⟩
  | broadcastToUsers message => exact (sends member).elim
  | broadcastToSubscribedUsers message bus => exact (sends member).elim
  | broadcastToOtherDrivers message excludeSessionId => exact (sends member).elim
  | broadcastActiveBuses now =>
      simp only [planned] at member
      split at member
      · cases member
      · rcases List.mem_append.mp member with shown | alerted
        · split at shown
          · cases shown
          · exact (sends shown).elim
        · rcases List.mem_cons.mp alerted with rfl | told
          · simp [removal, ending] at socket
          · exact (sends told).elim

omit [Field K] [LinearOrder K] [FloorRing K] in
theorem sends_of_read {read : Effect K → Option String} (sends : Sends K)
    (silent : ∀ sessionId message, read (.send sessionId message) = none) :
    (sendsOf sends).filterMap read = [] := by
  rw [List.filterMap_eq_nil_iff]
  intro effect member
  obtain ⟨sessionId, message, rfl⟩ := sends_of_mem member
  exact silent sessionId message

omit [Field K] [LinearOrder K] [FloorRing K] in
theorem farewells_read {read : Effect K → Option String} (swept : Tracking K)
    (stale : List (ClientSession K))
    (silent : ∀ sessionId message, read (.send sessionId message) = none)
    (once : ∀ sessionId, [Effect.removeSocket sessionId, .close sessionId].filterMap read =
      [sessionId]) :
    (stale.flatMap (farewell swept)).filterMap read = stale.map (·.sessionId) := by
  induction stale with
  | nil => rfl
  | cons client rest ih =>
      have one := once client.sessionId
      have first : (farewell swept client).filterMap read = [client.sessionId] := by
        have told := sends_of_read (TrackingHandler.announceDeparture swept client) silent
        simp only [farewell, List.filterMap_cons, List.filterMap_append, told, List.nil_append,
          List.filterMap_nil] at one ⊢
        exact one
      rw [List.flatMap_cons, List.filterMap_append, first, ih, List.map_cons]
      rfl

theorem evicted_read (tracking : Tracking K) (read : Effect K → Option String) (now : Int)
    (silent : ∀ sessionId message, read (.send sessionId message) = none)
    (quiet : ∀ swept, read (.registry swept) = none)
    (once : ∀ sessionId, [Effect.removeSocket sessionId, .close sessionId].filterMap read =
      [sessionId]) :
    (planned geo tracking (.evictStaleSessions now)).filterMap read =
      (staleSessions tracking now STALE_SESSION_TIMEOUT_MS).map (·.sessionId) := by
  simp only [planned, List.filterMap_cons, quiet]
  exact farewells_read _ _ silent once

theorem left_once {read : Effect K → Option String} {id : String}
    (distinct : ((planned geo tracking operation).filterMap read).Nodup)
    (left : id ∈ (leftUndone geo operation tracking sockets).filterMap read) :
    id ∉ ((planned geo tracking operation).takeWhile fun effect =>
      !throwing sockets effect).filterMap read := by
  intro done
  have whole : (planned geo tracking operation).filterMap read =
      ((planned geo tracking operation).takeWhile fun effect =>
        !throwing sockets effect).filterMap read ++
      (leftUndone geo operation tracking sockets).filterMap read := by
    rw [leftUndone, ← List.filterMap_append, List.takeWhile_append_dropWhile]
  rw [whole] at distinct
  exact List.disjoint_of_nodup_append distinct done left

end Plans

/-! ## Failures -/

section Failures
variable {geo} {tracking : Tracking K} {sockets : KeyedMap String Socket}
  {operation : Operation K}

/-- What is done is what comes before the first send that escapes. -/
theorem after_eq : after geo operation tracking sockets =
    ((planned geo tracking operation).takeWhile fun effect => !throwing sockets effect).foldl
      (Effect.apply sockets) (Server.start tracking sockets) := by
  rw [after, operate_run]
  exact until_throw_end (planned geo tracking operation) (Server.start tracking sockets)

omit [Field K] [LinearOrder K] [FloorRing K] in
theorem mended_calm (effect : Effect K) : throwing (mended sockets) effect = false := by
  cases effect with
  | send sessionId message =>
      simp only [throwing, escapes, mended, lookup_mapValues]
      cases sockets.lookup sessionId with
      | none => rfl
      | some socket => simp
  | registry | removeSocket | close => rfl

omit [Field K] [LinearOrder K] [FloorRing K] in
theorem mended_receipt {id : String} (well : fails sockets id = false) (effect : Effect K) :
    receipt (mended sockets) id effect = receipt sockets id effect := by
  cases effect with
  | send sessionId message =>
      by_cases same : sessionId = id
      · subst same
        have reached : reaches (mended sockets) sessionId = reaches sockets sessionId := by
          simp only [reaches, mended, lookup_mapValues]
          simp only [fails] at well
          rcases Option.eq_none_or_eq_some (sockets.lookup sessionId) with absent | ⟨socket, found⟩
          · simp [absent]
          · have fine : socket.throwing = none := by simpa [found] using well
            simp [found, fine]
        simp only [receipt, reached]
      · simp [receipt, same]
  | registry | removeSocket | close => rfl

omit [Field K] [LinearOrder K] [FloorRing K] in
theorem failing_receipt {id : String} (bad : fails sockets id = true) (effect : Effect K) :
    receipt sockets id effect = none := by
  cases effect with
  | send sessionId message =>
      by_cases same : sessionId = id
      · subst same
        have lost : reaches sockets sessionId = false := by
          simp only [reaches, fails] at bad ⊢
          rcases Option.eq_none_or_eq_some (sockets.lookup sessionId) with absent | ⟨socket, found⟩
          · simp [absent]
          · have thrown : socket.throwing.isSome = true := by simpa [found] using bad
            obtain ⟨exception, same⟩ := Option.isSome_iff_exists.mp thrown
            simp [found, same]
        simp [receipt, lost]
      · simp [receipt, same]
  | registry | removeSocket | close => rfl

theorem received_eq (id : String) : receivedBy (after geo operation tracking sockets) id =
    ((planned geo tracking operation).takeWhile fun effect =>
      !throwing sockets effect).filterMap (receipt sockets id) := by
  rw [after_eq, received_by_effects]
  rfl

theorem received_mended {id : String} (well : fails sockets id = false) :
    receivedBy (after geo operation tracking (mended sockets)) id =
      (planned geo tracking operation).filterMap (receipt sockets id) := by
  have all : (planned geo tracking operation).takeWhile (fun effect =>
      !throwing (mended sockets) effect) = planned geo tracking operation := by
    apply List.takeWhile_eq_self_iff.mpr
    intro effect _
    rw [mended_calm, Bool.not_false]
  rw [received_eq, all]
  exact List.filterMap_congr fun effect _ => mended_receipt well effect

theorem deliveries_iff :
    (∀ id, fails sockets id = false →
      receivedBy (after geo operation tracking sockets) id =
        receivedBy (after geo operation tracking (mended sockets)) id) ↔
    ∀ id message, Effect.send id message ∈ leftUndone geo operation tracking sockets →
      reaches sockets id = false := by
  constructor
  · intro equal id message left
    -- A client that fails is owed nothing; one that does not misses this very message.
    cases bad : fails sockets id with
    | true =>
        have lost := failing_receipt bad (Effect.send id message)
        simpa [receipt] using lost
    | false =>
        have same := equal id bad
        rw [received_eq, received_mended bad, takeWhile_filterMap_iff] at same
        simpa [receipt] using same _ left
  · intro lost id well
    rw [received_eq, received_mended well, takeWhile_filterMap_iff]
    intro effect left
    cases effect with
    | send sessionId message => simp [receipt, lost sessionId message left]
    | registry | removeSocket | close => rfl

omit [Field K] [LinearOrder K] [FloorRing K] in
theorem mem_read {read : Effect K → Option String} {kind : String → Effect K}
    (reads : ∀ effect id, read effect = some id ↔ effect = kind id) {effects : List (Effect K)}
    {id : String} : id ∈ effects.filterMap read ↔ kind id ∈ effects := by
  rw [List.mem_filterMap]
  constructor
  · rintro ⟨effect, member, same⟩
    rw [reads] at same
    rw [← same]
    exact member
  · intro member
    exact ⟨kind id, member, (reads _ id).mpr rfl⟩

omit [Field K] [LinearOrder K] [FloorRing K] in
theorem mem_removal {effects : List (Effect K)} {id : String} :
    id ∈ effects.filterMap removal ↔ Effect.removeSocket id ∈ effects :=
  mem_read fun effect id => by cases effect <;> simp [removal]

omit [Field K] [LinearOrder K] [FloorRing K] in
theorem mem_ending {effects : List (Effect K)} {id : String} :
    id ∈ effects.filterMap ending ↔ Effect.close id ∈ effects :=
  mem_read fun effect id => by cases effect <;> simp [ending]

theorem planned_split {effect : Effect K} (member : effect ∈ planned geo tracking operation) :
    effect ∈ (planned geo tracking operation).takeWhile (fun effect => !throwing sockets effect) ∨
      effect ∈ leftUndone geo operation tracking sockets := by
  rw [leftUndone, ← List.mem_append, List.takeWhile_append_dropWhile]
  exact member

theorem left_planned {effect : Effect K}
    (left : effect ∈ leftUndone geo operation tracking sockets) :
    effect ∈ planned geo tracking operation :=
  (List.dropWhile_sublist _).subset left

theorem sockets_iff (now : Int) :
    (∀ stale ∈ staleSessions tracking now STALE_SESSION_TIMEOUT_MS,
      (after geo (.evictStaleSessions now) tracking sockets).sockets.lookup stale.sessionId =
          none ∧
        (isOpen sockets stale.sessionId = true →
          stale.sessionId ∈ (after geo (.evictStaleSessions now) tracking sockets).closed)) ↔
    ∀ id, (Effect.removeSocket id ∈ leftUndone geo (.evictStaleSessions now) tracking sockets →
        sockets.lookup id = none) ∧
      (Effect.close id ∈ leftUndone geo (.evictStaleSessions now) tracking sockets →
        isOpen sockets id = false) := by
  have removals := evicted_read geo tracking removal now
    (fun _ _ => rfl) (fun _ => rfl) fun _ => rfl
  have endings := evicted_read geo tracking ending now
    (fun _ _ => rfl) (fun _ => rfl) fun _ => rfl
  have distinct := stale_ids_nodup tracking now STALE_SESSION_TIMEOUT_MS
  simp only [after_eq, removed_by_effects, closed_by_effects]
  constructor
  · intro kept id
    constructor
    · intro left
      have listed : id ∈ (staleSessions tracking now STALE_SESSION_TIMEOUT_MS).map
          (·.sessionId) := by
        rw [← removals, mem_removal]
        exact left_planned left
      obtain ⟨stale, member, rfl⟩ := List.mem_map.mp listed
      -- One removal is planned for a session: what is left was not done before.
      refine (kept stale member).1.resolve_right fun done => ?_
      exact left_once geo (removals ▸ distinct) (mem_removal.mpr left) (mem_removal.mpr done)
    · intro left
      have listed : id ∈ (staleSessions tracking now STALE_SESSION_TIMEOUT_MS).map
          (·.sessionId) := by
        rw [← endings, mem_ending]
        exact left_planned left
      obtain ⟨stale, member, rfl⟩ := List.mem_map.mp listed
      by_contra opened
      rcases (kept stale member).2 (by simpa using opened) with never | ⟨done, _⟩
      · cases never
      · exact left_once geo (endings ▸ distinct) (mem_ending.mpr left) (mem_ending.mpr done)
  · intro settled stale member
    have listed : stale.sessionId ∈ (staleSessions tracking now STALE_SESSION_TIMEOUT_MS).map
        (·.sessionId) := List.mem_map.mpr ⟨stale, member, rfl⟩
    constructor
    · rw [← removals, mem_removal] at listed
      rcases planned_split listed with done | left
      · exact Or.inr done
      · exact Or.inl ((settled stale.sessionId).1 left)
    · intro opened
      rw [← endings, mem_ending] at listed
      rcases planned_split listed with done | left
      · exact Or.inr ⟨done, opened⟩
      · rw [(settled stale.sessionId).2 left] at opened
        cases opened

end Failures

variable (operation : Operation K) (tracking : Tracking K) (sockets : KeyedMap String Socket)

/-- A bad socket harms nobody else exactly if, from the first send on that escapes,
nothing is left undone that is owed to a reachable client or to an open socket. -/
theorem unharmed_iff : Unharmed geo operation tracking sockets ↔
    ∀ effect ∈ leftUndone geo operation tracking sockets, owed sockets effect = false := by
  rw [Unharmed, deliveries_iff]
  constructor
  · rintro ⟨messages, evicted⟩ effect left
    cases effect with
    | send id message => exact messages id message left
    | registry swept => rfl
    | removeSocket id =>
        obtain ⟨now, rfl⟩ := planned_socket geo (left_planned left) (Or.inl rfl)
        have gone := ((sockets_iff now).mp (evicted now rfl) id).1 left
        simp [owed, gone]
    | close id =>
        obtain ⟨now, rfl⟩ := planned_socket geo (left_planned left) (Or.inr rfl)
        exact ((sockets_iff now).mp (evicted now rfl) id).2 left
  · intro settled
    constructor
    · intro id message left
      exact settled _ left
    · rintro now rfl
      refine (sockets_iff now).mpr fun id => ⟨fun left => ?_, fun left => settled _ left⟩
      simpa [owed] using settled _ left

/-! ## The scheduled passes without a failure -/

section Calm
variable {geo} {tracking : Tracking K} {sockets : KeyedMap String Socket}

omit [Field K] [LinearOrder K] [FloorRing K] in
theorem sends_delivered (sends : Sends K) : (sendsOf sends).filterMap (delivered sockets) =
    sends.filter fun sent => reaches sockets sent.1 := by
  induction sends with
  | nil => rfl
  | cons sent rest ih =>
      have parts : sendsOf (sent :: rest) = .send sent.1 sent.2 :: sendsOf rest := rfl
      by_cases reached : reaches sockets sent.1 = true
      · simp [parts, delivered, reached, ih]
      · simp [parts, delivered, reached, ih]

theorem after_calm {operation : Operation K} (calm : ∀ id, escapes sockets id = false) :
    after geo operation tracking sockets =
      (planned geo tracking operation).foldl (Effect.apply sockets)
        (Server.start tracking sockets) := by
  rw [after_eq, List.takeWhile_eq_self_iff.mpr]
  intro effect _
  cases effect with
  | send sessionId message => simp [throwing, calm]
  | registry | removeSocket | close => rfl

/-- The fleet pass is the one of the handler's model, as far as it reaches somebody. -/
theorem active_buses_refine (calm : ∀ id, escapes sockets id = false) (now : Int) :
    (after geo (.broadcastActiveBuses now) tracking sockets).tracking =
        (TrackingHandler.broadcastActiveBuses tracking now geo).1 ∧
      (after geo (.broadcastActiveBuses now) tracking sockets).received =
        (TrackingHandler.broadcastActiveBuses tracking now geo).2.filter fun sent =>
          reaches sockets sent.1 := by
  rw [after_calm calm, received_effects]
  simp only [planned, TrackingHandler.broadcastActiveBuses]
  by_cases nobody : (userSessions tracking).isEmpty = true
  · simp [nobody, Server.start]
  · simp only [if_neg nobody, List.foldl_append, List.foldl_cons, List.filterMap_append,
      List.filterMap_cons, List.filter_append, delivered, sends_delivered]
    constructor
    · rw [(sends_keep sockets _ _).2]
      rfl
    · by_cases dark : (snapshotVisibleBuses geo tracking).isEmpty = true
      · simp [dark, Server.start]
      · simp [dark, Server.start, sends_delivered]

omit [Field K] [LinearOrder K] [FloorRing K] in
theorem farewells_delivered (swept : Tracking K) (stale : List (ClientSession K)) :
    (stale.flatMap (farewell swept)).filterMap (delivered sockets) =
      (stale.flatMap (TrackingHandler.announceDeparture swept)).filter fun sent =>
        reaches sockets sent.1 := by
  induction stale with
  | nil => rfl
  | cons client rest ih =>
      have first : (farewell swept client).filterMap (delivered sockets) =
          (TrackingHandler.announceDeparture swept client).filter fun sent =>
            reaches sockets sent.1 := by
        rw [← sends_delivered]
        simp only [farewell, List.filterMap_cons, List.filterMap_append, delivered,
          List.filterMap_nil, List.append_nil]
      rw [List.flatMap_cons, List.filterMap_append, first, ih, List.flatMap_cons,
        List.filter_append]

omit [Field K] [LinearOrder K] [FloorRing K] in
theorem farewells_tracking (server : Server K) (swept : Tracking K)
    (stale : List (ClientSession K)) :
    ((stale.flatMap (farewell swept)).foldl (Effect.apply sockets) server).tracking =
      server.tracking := by
  induction stale generalizing server with
  | nil => rfl
  | cons client rest ih =>
      rw [List.flatMap_cons, List.foldl_append, ih]
      exact (farewell_keeps sockets server swept client).1

theorem evict_refines (calm : ∀ id, escapes sockets id = false) (now : Int) :
    (after geo (.evictStaleSessions now) tracking sockets).tracking =
        (TrackingHandler.evictStale tracking now).1 ∧
      (after geo (.evictStaleSessions now) tracking sockets).received =
        (TrackingHandler.evictStale tracking now).2.filter fun sent => reaches sockets sent.1 := by
  rw [after_calm calm, received_effects]
  simp only [planned, TrackingHandler.evictStale, List.foldl_cons, List.filterMap_cons, delivered]
  constructor
  · exact farewells_tracking _ _ _
  · exact farewells_delivered _ _

end Calm

/-! ## One bad rider -/

def badRider : KeyedMap String Socket :=
  ((AList.insert "r1" ⟨true, some .RuntimeException⟩ ∅).insert "r2" ⟨true, none⟩).insert "s1"
    ⟨true, none⟩

def silentDriver : Tracking ℚ :=
  registerUser (registerUser (registerDriver Tracking.empty 0 "s1" "asha" "bus-1" none none)
    300000 "r2" "ravi") 300000 "r1" "meera"

/-- The second rider is not told that the driver left, and the driver's socket stays open. -/
theorem bad_rider_harms :
    fails badRider "r2" = false ∧
      receivedBy (after GeoUtils.taxicab (.evictStaleSessions 300000) silentDriver badRider) "r2" =
        [] ∧
      receivedBy (after GeoUtils.taxicab (.evictStaleSessions 300000) silentDriver
        (mended badRider)) "r2" = [.driverLeft "asha" "bus-1"] ∧
      isOpen badRider "s1" = true ∧
      (after GeoUtils.taxicab (.evictStaleSessions 300000) silentDriver badRider).closed = [] := by
  decide +kernel

end CityBus.UnharmedClients
