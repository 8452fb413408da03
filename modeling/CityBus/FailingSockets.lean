import CityBus.AbortingLoops
import CityBus.TrackingHandler

/-!
Delivery with sockets that fail. `send` catches what it expects of a bad socket, an
`IOException`; anything else that a send throws leaves the broadcast that it is part
of. Each broadcast is a program over the server's state, and the effects that it is
made of are listed beside it.
-/

namespace CityBus.FailingSockets

open AbortingLoops GeoUtils KeyedMaps LiveTracking TrackingHandler

inductive Exception where
  | IOException
  | RuntimeException
  deriving DecidableEq

/-- A `WebSocketSession`: whether it is open, and what `sendMessage` throws. -/
structure Socket where
  isOpen : Bool
  throwing : Option Exception
  deriving DecidableEq

/-- The registry and the sockets; what was received and which sockets were closed. -/
structure Server (K : Type) where
  tracking : Tracking K
  sockets : KeyedMap String Socket
  received : Sends K
  closed : List String

variable {K : Type}

def Server.start (tracking : Tracking K) (sockets : KeyedMap String Socket) : Server K :=
  ⟨tracking, sockets, [], []⟩

abbrev Handler (K : Type) := EStateM Exception (Server K)

/-! ## The programs -/

def sendMessage (socket : Socket) (sessionId : String) (message : Outgoing K) : Handler K PUnit :=
  match socket.throwing with
  | none => modify fun server => { server with received := server.received ++ [(sessionId, message)] }
  | some exception => throw exception

def send (sessionId : String) (message : Outgoing K) : Handler K PUnit := do
  match (← get).sockets.lookup sessionId with
  | none => pure ⟨⟩
  | some socket =>
      if !socket.isOpen then pure ⟨⟩
      else
        tryCatch (sendMessage socket sessionId message) fun
          -- The one exception that is caught and logged; any other ends the caller's loop.
          | .IOException => pure ⟨⟩
          | exception => throw exception

def broadcastToUsers (message : Outgoing K) : Handler K PUnit := do
  (userSessions (← get).tracking).forM fun user => send user.sessionId message

def broadcastToSubscribedUsers (message : Outgoing K) (bus : LiveBusDto K) : Handler K PUnit := do
  (userSessions (← get).tracking).forM fun user =>
    if wantsRoute user bus.routeNumber then send user.sessionId message else pure ⟨⟩

def broadcastToOtherDrivers (message : Outgoing K) (excludeSessionId : String) :
    Handler K PUnit := do
  (driverSessions (← get).tracking).forM fun driver =>
    if driver.sessionId ≠ excludeSessionId then send driver.sessionId message else pure ⟨⟩

def announceDeparture (client : ClientSession K) : Handler K PUnit :=
  match client.role with
  | .USER => pure ⟨⟩
  | .DRIVER busCode => broadcastToUsers (.driverLeft client.clientId busCode)

def removeSocket (sessionId : String) : Handler K (Option Socket) :=
  modifyGet fun server => (server.sockets.lookup sessionId,
    { server with sockets := server.sockets.erase sessionId })

def close (sessionId : String) : Handler K PUnit :=
  modify fun server => { server with closed := server.closed ++ [sessionId] }

def seeOff (stale : ClientSession K) : Handler K PUnit := do
  -- The announcement can throw: then the socket is out of the map and still open.
  let socket ← removeSocket stale.sessionId
  announceDeparture stale
  match socket with
  | none => pure ⟨⟩
  | some socket => if socket.isOpen then close stale.sessionId else pure ⟨⟩

def evictStaleSessions (now : Int) : Handler K PUnit := do
  let stale := staleSessions (← get).tracking now STALE_SESSION_TIMEOUT_MS
  modify fun server =>
    { server with
      tracking := LiveTracking.evictStaleSessions server.tracking now STALE_SESSION_TIMEOUT_MS }
  stale.forM seeOff

variable [Field K] [LinearOrder K] (geo : GeoDistance K)

/-- The alerts that are due; their sessions note the time before one is sent. -/
def pendingProximityAlerts (now : Int) : Handler K (List (ProximityAlert K)) :=
  modifyGet fun server => (LiveTracking.pendingProximityAlerts geo server.tracking now,
    { server with tracking := markAlerted geo server.tracking now })

variable [FloorRing K]

def broadcastActiveBuses (now : Int) : Handler K PUnit := do
  let users := userSessions (← get).tracking
  if users.isEmpty then pure ⟨⟩
  else
    let snapshot := snapshotVisibleBuses geo (← get).tracking
    if snapshot.isEmpty then pure ⟨⟩
    else users.forM fun user => send user.sessionId (.activeBuses snapshot)
    let alerts ← pendingProximityAlerts geo now
    alerts.forM fun alert => send (alertMessage alert).1 (alertMessage alert).2

inductive Operation (K : Type) where
  | broadcastToUsers (message : Outgoing K)
  | broadcastToSubscribedUsers (message : Outgoing K) (bus : LiveBusDto K)
  | broadcastToOtherDrivers (message : Outgoing K) (excludeSessionId : String)
  | broadcastActiveBuses (now : Int)
  | evictStaleSessions (now : Int)

def operate : Operation K → Handler K PUnit
  | .broadcastToUsers message => FailingSockets.broadcastToUsers message
  | .broadcastToSubscribedUsers message bus =>
      FailingSockets.broadcastToSubscribedUsers message bus
  | .broadcastToOtherDrivers message excludeSessionId =>
      FailingSockets.broadcastToOtherDrivers message excludeSessionId
  | .broadcastActiveBuses now => FailingSockets.broadcastActiveBuses geo now
  | .evictStaleSessions now => FailingSockets.evictStaleSessions now

def after (operation : Operation K) (tracking : Tracking K) (sockets : KeyedMap String Socket) :
    Server K :=
  endState ((operate geo operation).run (Server.start tracking sockets))

/-! ## The effects of an operation -/

inductive Effect (K : Type) where
  | send (sessionId : String) (message : Outgoing K)
  | registry (tracking : Tracking K)
  | removeSocket (sessionId : String)
  | close (sessionId : String)

def sendsOf (sends : Sends K) : List (Effect K) := sends.map fun sent => .send sent.1 sent.2

/-- The effects of seeing a session off from the swept registry. -/
def farewell (swept : Tracking K) (stale : ClientSession K) : List (Effect K) :=
  .removeSocket stale.sessionId ::
    (sendsOf (TrackingHandler.announceDeparture swept stale) ++ [.close stale.sessionId])

def planned (tracking : Tracking K) : Operation K → List (Effect K)
  | .broadcastToUsers message => sendsOf (TrackingHandler.broadcastToUsers tracking message)
  | .broadcastToSubscribedUsers message bus =>
      sendsOf (TrackingHandler.broadcastToSubscribedUsers tracking message bus)
  | .broadcastToOtherDrivers message excludeSessionId =>
      sendsOf (TrackingHandler.broadcastToOtherDrivers tracking message excludeSessionId)
  | .broadcastActiveBuses now =>
      let users := userSessions tracking
      if users.isEmpty then []
      else
        let snapshot := snapshotVisibleBuses geo tracking
        (if snapshot.isEmpty then []
          else sendsOf (users.map fun user => (user.sessionId, .activeBuses snapshot))) ++
          .registry (markAlerted geo tracking now) ::
            sendsOf ((LiveTracking.pendingProximityAlerts geo tracking now).map alertMessage)
  | .evictStaleSessions now =>
      let swept := LiveTracking.evictStaleSessions tracking now STALE_SESSION_TIMEOUT_MS
      .registry swept ::
        (staleSessions tracking now STALE_SESSION_TIMEOUT_MS).flatMap (farewell swept)

def isOpen (sockets : KeyedMap String Socket) (sessionId : String) : Bool :=
  (sockets.lookup sessionId).any (·.isOpen)

def escapes (sockets : KeyedMap String Socket) (sessionId : String) : Bool :=
  (sockets.lookup sessionId).any fun socket =>
    socket.isOpen && socket.throwing = some .RuntimeException

def reaches (sockets : KeyedMap String Socket) (sessionId : String) : Bool :=
  (sockets.lookup sessionId).any fun socket => socket.isOpen && socket.throwing.isNone

def throwing (sockets : KeyedMap String Socket) : Effect K → Bool
  | .send sessionId _ => escapes sockets sessionId
  | _ => false

def Effect.apply (sockets : KeyedMap String Socket) (server : Server K) : Effect K → Server K
  | .send sessionId message =>
      if reaches sockets sessionId then
        { server with received := server.received ++ [(sessionId, message)] }
      else server
  | .registry tracking => { server with tracking := tracking }
  | .removeSocket sessionId => { server with sockets := server.sockets.erase sessionId }
  | .close sessionId =>
      if isOpen sockets sessionId then { server with closed := server.closed ++ [sessionId] }
      else server

def performed (sockets : KeyedMap String Socket) (effects : List (Effect K)) : Handler K PUnit :=
  untilThrow .RuntimeException (throwing sockets) (Effect.apply sockets) effects

section Programs
variable {sockets : KeyedMap String Socket} {server : Server K}

omit [Field K] [LinearOrder K] [FloorRing K] in
theorem performed_append (effects rest : List (Effect K)) :
    performed sockets (effects ++ rest) =
      performed sockets effects >>= fun _ => performed sockets rest :=
  until_throw_append effects rest

omit [Field K] [LinearOrder K] [FloorRing K] in
theorem send_run {sessionId : String} {message : Outgoing K}
    (same : server.sockets.lookup sessionId = sockets.lookup sessionId) :
    (send sessionId message).run server =
      (performed sockets [.send sessionId message]).run server := by
  simp only [send, EStateM.run_bind, EStateM.run_get, performed, untilThrow, throwing, escapes,
    Effect.apply, reaches, same]
  rcases Option.eq_none_or_eq_some (sockets.lookup sessionId) with absent | ⟨socket, found⟩
  · simp [absent]
  · obtain ⟨isOpen, throwing⟩ := socket
    cases isOpen with
    | false => simp [found]
    | true =>
        rcases throwing with _ | _ | _
        · simp [found, sendMessage]
        · simp [found, sendMessage]
          rfl
        · simp [found, sendMessage]
          rfl

omit [Field K] [LinearOrder K] [FloorRing K] in
variable (sockets server) in
theorem sends_keep (sends : Sends K) :
    ((sendsOf sends).foldl (Effect.apply sockets) server).sockets = server.sockets ∧
      ((sendsOf sends).foldl (Effect.apply sockets) server).tracking = server.tracking := by
  induction sends generalizing server with
  | nil => exact ⟨rfl, rfl⟩
  | cons sent rest ih =>
      have first : (Effect.apply sockets server (.send sent.1 sent.2)).sockets = server.sockets ∧
          (Effect.apply sockets server (.send sent.1 sent.2)).tracking = server.tracking := by
        simp only [Effect.apply]
        split <;> exact ⟨rfl, rfl⟩
      obtain ⟨kept, same⟩ := ih (Effect.apply sockets server (.send sent.1 sent.2))
      exact ⟨kept.trans first.1, same.trans first.2⟩

omit [Field K] [LinearOrder K] [FloorRing K] in
theorem deliver_run (sends : Sends K)
    (same : ∀ sent ∈ sends, server.sockets.lookup sent.1 = sockets.lookup sent.1) :
    (sends.forM fun sent => send sent.1 sent.2).run server =
      (performed sockets (sendsOf sends)).run server := by
  induction sends generalizing server with
  | nil => rfl
  | cons sent rest ih =>
      have parts : sendsOf (sent :: rest) = [.send sent.1 sent.2] ++ sendsOf rest := rfl
      rw [parts, performed_append, List.forM_eq_forM, List.forM_cons, EStateM.run_bind,
        EStateM.run_bind, send_run (same sent (List.mem_cons_self ..))]
      cases first : (performed sockets [.send sent.1 sent.2]).run server with
      | error exception stuck => rfl
      | ok value next =>
          apply ih
          intro other member
          have kept : next.sockets = server.sockets := by
            rw [until_throw_returns first]
            exact (sends_keep sockets server [sent]).1
          rw [kept]
          exact same other (List.mem_cons_of_mem sent member)

omit [Field K] [LinearOrder K] [FloorRing K] in
theorem users_run {message : Outgoing K}
    (same : ∀ user ∈ userSessions server.tracking,
      server.sockets.lookup user.sessionId = sockets.lookup user.sessionId) :
    (broadcastToUsers message).run server =
      (performed sockets
        (sendsOf (TrackingHandler.broadcastToUsers server.tracking message))).run server := by
  rw [← deliver_run, TrackingHandler.broadcastToUsers, List.forM_eq_forM, List.forM_map]
  · rfl
  · intro sent listed
    obtain ⟨user, member, rfl⟩ := List.mem_map.mp listed
    exact same user member

omit [Field K] [LinearOrder K] [FloorRing K] in
theorem announce_run (server : Server K) (client : ClientSession K)
    (same : ∀ user ∈ userSessions server.tracking,
      server.sockets.lookup user.sessionId = sockets.lookup user.sessionId) :
    (announceDeparture client).run server =
      (performed sockets
        (sendsOf (TrackingHandler.announceDeparture server.tracking client))).run server := by
  unfold announceDeparture TrackingHandler.announceDeparture
  cases client.role with
  | USER => rfl
  | DRIVER busCode => exact users_run same

omit [Field K] [LinearOrder K] [FloorRing K] in
theorem remove_run (sessionId : String) :
    (performed sockets [.removeSocket sessionId]).run server =
      .ok ⟨⟩ { server with sockets := server.sockets.erase sessionId } := rfl

omit [Field K] [LinearOrder K] [FloorRing K] in
theorem close_run (sessionId : String) :
    (performed sockets [.close sessionId]).run server =
      (match sockets.lookup sessionId with
        | none => (pure ⟨⟩ : Handler K PUnit)
        | some socket => if socket.isOpen then close sessionId else pure ⟨⟩).run server := by
  simp only [performed, untilThrow, throwing, Effect.apply, isOpen]
  rcases Option.eq_none_or_eq_some (sockets.lookup sessionId) with absent | ⟨socket, found⟩
  · simp [absent]
  · cases opened : socket.isOpen with
    | false => simp [found, opened]
    | true =>
        simp [found, opened, close]

omit [Field K] [LinearOrder K] [FloorRing K] in
theorem see_off_run {stale : ClientSession K}
    (own : server.sockets.lookup stale.sessionId = sockets.lookup stale.sessionId)
    (same : ∀ user ∈ userSessions server.tracking, user.sessionId ≠ stale.sessionId ∧
      server.sockets.lookup user.sessionId = sockets.lookup user.sessionId) :
    (seeOff stale).run server = (performed sockets (farewell server.tracking stale)).run server := by
  have kept (user : ClientSession K) (member : user ∈ userSessions server.tracking) :
      (server.sockets.erase stale.sessionId).lookup user.sessionId =
        sockets.lookup user.sessionId := by
    rw [lookup_erase_eq, if_neg (same user member).1]
    exact (same user member).2
  have announced := announce_run
    { server with sockets := server.sockets.erase stale.sessionId } stale kept
  have parts : farewell server.tracking stale = [.removeSocket stale.sessionId] ++
      (sendsOf (TrackingHandler.announceDeparture server.tracking stale) ++
        [.close stale.sessionId]) := rfl
  rw [parts, performed_append, performed_append]
  simp only [seeOff, removeSocket, EStateM.run_bind, EStateM.run_modifyGet, announced, own, remove_run,
    close_run]

omit [Field K] [LinearOrder K] [FloorRing K] in
theorem farewell_keeps (sockets : KeyedMap String Socket) (server : Server K)
    (swept : Tracking K) (stale : ClientSession K) :
    ((farewell swept stale).foldl (Effect.apply sockets) server).tracking = server.tracking ∧
      ((farewell swept stale).foldl (Effect.apply sockets) server).sockets =
        server.sockets.erase stale.sessionId := by
  simp only [farewell, List.foldl_cons, List.foldl_append, List.foldl_nil]
  obtain ⟨kept, same⟩ := sends_keep sockets
    (Effect.apply sockets server (.removeSocket stale.sessionId))
    (TrackingHandler.announceDeparture swept stale)
  simp only [Effect.apply] at kept same ⊢
  split <;> exact ⟨same, kept⟩

omit [Field K] [LinearOrder K] [FloorRing K] in
theorem see_all_off_run (stale : List (ClientSession K))
    (distinct : (stale.map (·.sessionId)).Nodup)
    (own : ∀ client ∈ stale,
      server.sockets.lookup client.sessionId = sockets.lookup client.sessionId)
    (same : ∀ user ∈ userSessions server.tracking, user.sessionId ∉ stale.map (·.sessionId) ∧
      server.sockets.lookup user.sessionId = sockets.lookup user.sessionId) :
    (stale.forM seeOff).run server =
      (performed sockets (stale.flatMap (farewell server.tracking))).run server := by
  induction stale generalizing server with
  | nil => rfl
  | cons client rest ih =>
      obtain ⟨fresh, distinct⟩ := List.nodup_cons.mp distinct
      have others (user : ClientSession K) (member : user ∈ userSessions server.tracking) :
          user.sessionId ≠ client.sessionId ∧ user.sessionId ∉ rest.map (·.sessionId) := by
        have away := (same user member).1
        rw [List.map_cons, List.mem_cons, not_or] at away
        exact away
      have first := see_off_run (own client (List.mem_cons_self ..)) fun user member =>
        ⟨(others user member).1, (same user member).2⟩
      rw [List.flatMap_cons, performed_append, List.forM_eq_forM, List.forM_cons,
        EStateM.run_bind, EStateM.run_bind, first]
      cases went : (performed sockets (farewell server.tracking client)).run server with
      | error exception stuck => rfl
      | ok value next =>
          obtain ⟨registry, remaining⟩ := farewell_keeps sockets server server.tracking client
          rw [← until_throw_returns went] at registry remaining
          simp only [← registry]
          -- The ids are distinct, so the sessions to come still have their sockets.
          refine ih distinct (fun other member => ?_) fun user member => ?_
          · have away : other.sessionId ≠ client.sessionId := by
              intro clash
              exact fresh (List.mem_map.mpr ⟨other, member, clash⟩)
            rw [remaining, lookup_erase_eq, if_neg away]
            exact own other (List.mem_cons_of_mem client member)
          · rw [registry] at member
            rw [remaining, lookup_erase_eq, if_neg (others user member).1]
            exact ⟨(others user member).2, (same user member).2⟩

/-! ### Each operation performs its plan -/

omit [Field K] [LinearOrder K] [FloorRing K] in
theorem stale_ids_nodup (tracking : Tracking K) (now timeoutMs : Int) :
    ((staleSessions tracking now timeoutMs).map (·.sessionId)).Nodup :=
  List.Nodup.sublist (List.Sublist.map _ List.filter_sublist) (session_ids_nodup tracking)

omit [Field K] [LinearOrder K] [FloorRing K] in
theorem swept_user_fresh {tracking : Tracking K} {now timeoutMs : Int} {user : ClientSession K}
    (member : user ∈ userSessions (LiveTracking.evictStaleSessions tracking now timeoutMs)) :
    user.sessionId ∉ (staleSessions tracking now timeoutMs).map (·.sessionId) := by
  obtain ⟨id, found⟩ := mem_values.mp (List.mem_filter.mp member).1
  have named := (LiveTracking.evictStaleSessions tracking now timeoutMs).sessionKeys id user found
  have there : getSession (LiveTracking.evictStaleSessions tracking now timeoutMs) id =
      some user := found
  rw [LiveTracking.evictStaleSessions, remove_all_sessions] at there
  rw [named]
  intro stale
  rw [if_pos stale] at there
  cases there

omit [Field K] [LinearOrder K] [FloorRing K] in
theorem chosen_run (sockets : KeyedMap String Socket) (server : Server K)
    (sessions : List (ClientSession K)) (keep : ClientSession K → Bool) (message : Outgoing K)
    (same : ∀ session ∈ sessions,
      server.sockets.lookup session.sessionId = sockets.lookup session.sessionId) :
    (sessions.forM fun session =>
        if keep session then send session.sessionId message else pure ⟨⟩).run server =
      (performed sockets (sendsOf ((sessions.filter keep).map fun session =>
        (session.sessionId, message)))).run server := by
  rw [← deliver_run, AbortingLoops.forM_filter, List.forM_eq_forM, List.forM_eq_forM, List.forM_map]
  intro sent listed
  obtain ⟨session, member, rfl⟩ := List.mem_map.mp listed
  exact same session (List.mem_filter.mp member).1

theorem alerts_run (tracking : Tracking K) (now : Int)
    (registry : server.tracking = tracking) (same : server.sockets = sockets) :
    (pendingProximityAlerts geo now >>= fun alerts =>
      alerts.forM fun alert => send (alertMessage alert).1 (alertMessage alert).2).run server =
    (performed sockets (.registry (markAlerted geo tracking now) ::
      sendsOf ((LiveTracking.pendingProximityAlerts geo tracking now).map
        alertMessage))).run server := by
  have parts : Effect.registry (markAlerted geo tracking now) ::
      sendsOf ((LiveTracking.pendingProximityAlerts geo tracking now).map alertMessage) =
      [.registry (markAlerted geo tracking now)] ++
        sendsOf ((LiveTracking.pendingProximityAlerts geo tracking now).map alertMessage) := rfl
  have noted : (performed sockets [.registry (markAlerted geo tracking now)]).run server =
      .ok ⟨⟩ { server with tracking := markAlerted geo tracking now } := rfl
  rw [parts, performed_append, EStateM.run_bind, EStateM.run_bind, noted, pendingProximityAlerts,
    EStateM.run_modifyGet, registry]
  simp only
  rw [← deliver_run, List.forM_eq_forM, List.forM_eq_forM, List.forM_map]
  intro sent _
  exact congrArg (AList.lookup sent.1) same

variable (sockets) in
theorem active_buses_run (tracking : Tracking K) (now : Int) :
    (broadcastActiveBuses geo now).run (Server.start tracking sockets) =
      (performed sockets (planned geo tracking (.broadcastActiveBuses now))).run
        (Server.start tracking sockets) := by
  by_cases nobody : (userSessions tracking).isEmpty = true
  · simp only [broadcastActiveBuses, EStateM.run_bind, EStateM.run_get, Server.start, planned,
      if_pos nobody]
    rfl
  · simp only [broadcastActiveBuses, EStateM.run_bind, EStateM.run_get, Server.start, planned,
      if_neg nobody]
    by_cases dark : (snapshotVisibleBuses geo tracking).isEmpty = true
    · rw [if_pos dark, if_pos dark]
      exact alerts_run geo tracking now rfl rfl
    · have shown : ((userSessions tracking).forM fun user =>
          send user.sessionId (.activeBuses (snapshotVisibleBuses geo tracking))).run
          (Server.start tracking sockets) =
        (performed sockets (sendsOf ((userSessions tracking).map fun user =>
          (user.sessionId, .activeBuses (snapshotVisibleBuses geo tracking))))).run
          (Server.start tracking sockets) := by
        rw [← deliver_run, List.forM_eq_forM, List.forM_eq_forM, List.forM_map]
        intro sent _
        rfl
      simp only [Server.start] at shown
      rw [if_neg dark, if_neg dark, performed_append, EStateM.run_bind, EStateM.run_bind, shown]
      cases went : (performed sockets (sendsOf ((userSessions tracking).map fun user =>
          (user.sessionId, .activeBuses (snapshotVisibleBuses geo tracking))))).run
          ⟨tracking, sockets, [], []⟩ with
      | error exception stuck => rfl
      | ok value next =>
          obtain ⟨kept, registry⟩ := sends_keep sockets (Server.start tracking sockets)
            ((userSessions tracking).map fun user =>
              (user.sessionId, .activeBuses (snapshotVisibleBuses geo tracking)))
          have ended := until_throw_returns went
          exact alerts_run geo tracking now (ended ▸ registry) (ended ▸ kept)

variable (sockets) in
theorem evict_run (tracking : Tracking K) (now : Int) :
    (evictStaleSessions now).run (Server.start tracking sockets) =
      (performed sockets (planned geo tracking (.evictStaleSessions now))).run
        (Server.start tracking sockets) := by
  have registry : planned geo tracking (.evictStaleSessions now) =
      [.registry (LiveTracking.evictStaleSessions tracking now STALE_SESSION_TIMEOUT_MS)] ++
        (staleSessions tracking now STALE_SESSION_TIMEOUT_MS).flatMap (farewell
          (LiveTracking.evictStaleSessions tracking now STALE_SESSION_TIMEOUT_MS)) := rfl
  rw [registry, performed_append]
  exact see_all_off_run _ (stale_ids_nodup tracking now STALE_SESSION_TIMEOUT_MS)
    (fun _ _ => rfl) fun user member => ⟨swept_user_fresh member, rfl⟩

theorem operate_run (operation : Operation K) (tracking : Tracking K)
    (sockets : KeyedMap String Socket) :
    (operate geo operation).run (Server.start tracking sockets) =
      (performed sockets (planned geo tracking operation)).run (Server.start tracking sockets) := by
  cases operation with
  | broadcastToUsers message => exact users_run fun _ _ => rfl
  | broadcastToSubscribedUsers message bus =>
      exact chosen_run sockets (Server.start tracking sockets) (userSessions tracking)
        (fun user => wantsRoute user bus.routeNumber) message fun _ _ => rfl
  | broadcastToOtherDrivers message excludeSessionId =>
      have chosen := chosen_run sockets (Server.start tracking sockets) (driverSessions tracking)
        (fun driver => driver.sessionId ≠ excludeSessionId) message fun _ _ => rfl
      simp only [decide_eq_true_eq] at chosen
      exact chosen
  | broadcastActiveBuses now => exact active_buses_run geo sockets tracking now
  | evictStaleSessions now => exact evict_run geo sockets tracking now

end Programs

end CityBus.FailingSockets
