import CityBus.AuthService
import CityBus.FixedWindows
import CityBus.GuardedRuns
import CityBus.KeyedMaps
import Mathlib

/-!
`LoginRateLimitFilter` in front of the login mapping. The filter looks at the raw
request URI and takes the client from a header; the dispatcher goes by the decoded
path. How a URI decodes is a parameter (`none` where the firewall turns it away).
-/

namespace CityBus.LoginRateLimit

open AuthService FixedWindows GuardedRuns KeyedMaps

def MAX_ATTEMPTS_PER_WINDOW : Nat := 10
def WINDOW_MS : Int := 60000
def MAX_TRACKED_CLIENTS : Nat := 10000
def LOGIN_PATH : String := "/api/v1/auth/login"

/-- What the filter and the mapping read of a request; no payload where the body is
unreadable or fails its validation. -/
structure HttpRequest where
  method : String
  remoteAddr : String
  requestURI : String
  forwardedFor : Option String
  payload : Option LoginRequest

inductive Answer where
  | tooManyRequests
  | login (request : LoginRequest)
  | badRequest
  | internalError
  | elsewhere

/-- A `Window` of the filter; the count is an `AtomicInteger`. -/
structure ClientWindow where
  startedAt : Int
  count : BitVec 32

abbrev Windows := KeyedMap String ClientWindow

/-! ## The client key -/

def isWhitespace (c : Char) : Bool :=
  let code := c.toNat
  code = 32 || (9 ≤ code && code ≤ 13) || (28 ≤ code && code ≤ 31) || code = 0x1680 ||
    (0x2000 ≤ code && code ≤ 0x200A && code ≠ 0x2007) || code = 0x2028 || code = 0x2029 ||
    code = 0x205F || code = 0x3000

def isBlank (text : String) : Bool := text.toList.all isWhitespace

/-- `split(",")`: empty parts at the end are dropped, all of them in ",". -/
def splitCommas (text : String) : List String :=
  ((text.toList.splitOn ',').rdropWhile (·.isEmpty)).map String.ofList

/-- `none` where the first part of the header is looked up in an empty array. -/
def clientIp (request : HttpRequest) : Option String :=
  match request.forwardedFor with
  | none => some request.remoteAddr
  | some forwarded =>
      if isBlank forwarded then some request.remoteAddr
      else (splitCommas forwarded).head?.map RouteService.trim

/-! ## The filter -/

def shouldNotFilter (request : HttpRequest) : Bool :=
  !(request.method = "POST" && request.requestURI = LOGIN_PATH)

def ranOut (now : Int) (window : ClientWindow) : Bool := WINDOW_MS < now - window.startedAt

def tracked (windows : Windows) (now : Int) : Windows :=
  if MAX_TRACKED_CLIENTS < windows.entries.length then
    keepValues (fun window => !ranOut now window) windows
  else windows

def counted (windows : Windows) (now : Int) (clientKey : String) : ClientWindow :=
  match (tracked windows now).lookup clientKey with
  | none => ⟨now, 1⟩
  -- `incrementAndGet` of an `AtomicInteger` wraps around.
  | some existing =>
      if ranOut now existing then ⟨now, 1⟩
      else { existing with count := existing.count + 1 }

def tryAcquire (windows : Windows) (now : Int) (clientKey : String) : Windows × Bool :=
  let window := counted windows now clientKey
  ((tracked windows now).insert clientKey window,
    window.count.toInt ≤ MAX_ATTEMPTS_PER_WINDOW)

section Chain
variable (decode : String → Option String)

/-- The request is one that the dispatcher maps to `AuthController.login`, and readable. -/
def asksLogin (request : HttpRequest) : Prop :=
  request.method = "POST" ∧ decode request.requestURI = some LOGIN_PATH ∧ request.payload.isSome

/-- `filterChain.doFilter`, down to the controller. -/
def dispatch (request : HttpRequest) : Answer :=
  if request.method = "POST" ∧ decode request.requestURI = some LOGIN_PATH then
    match request.payload with
    | none => .badRequest
    | some payload => .login payload
  else .elsewhere

def handle (windows : Windows) (now : Int) (request : HttpRequest) : Windows × Answer :=
  if shouldNotFilter request then (windows, dispatch decode request)
  else
    match clientIp request with
    -- `split(",")[0]` of a header of commas only.
    | none => (windows, .internalError)
    | some clientKey =>
        let (next, acquired) := tryAcquire windows now clientKey
        (next, if acquired then dispatch decode request else .tooManyRequests)

end Chain

/-! ## Runs -/

structure Served where
  now : Int
  request : HttpRequest
  answer : Answer

structure Server where
  windows : Windows
  clock : Int
  served : List Served

def Server.start (clock : Int) : Server := ⟨∅, clock, []⟩

def step (decode : String → Option String) (server : Server) (arrival : Int × HttpRequest) :
    Option Server :=
  let (now, request) := arrival
  if server.clock ≤ now then
    let (windows, answer) := handle decode server.windows now request
    some ⟨windows, now, server.served ++ [⟨now, request, answer⟩]⟩
  else none

def Served.reached (address : String) (since : Int) (entry : Served) : Bool :=
  entry.request.remoteAddr = address && since ≤ entry.now && entry.now ≤ since + WINDOW_MS &&
    match entry.answer with
    | .login _ => true
    | _ => false

def attempts (address : String) (since : Int) (server : Server) : Nat :=
  (server.served.filter (Served.reached address since)).length

def Answered (decode : String → Option String) (address : String) (server : Server) : Prop :=
  ∀ entry ∈ server.served, entry.request.remoteAddr = address → asksLogin decode entry.request →
    (∃ payload, entry.answer = .login payload) ∨ entry.answer = .tooManyRequests

/-- The login requests of the address spell the path as the filter has it and come
under one client key, and the counter of this key does not wrap around. -/
def plain (decode : String → Option String) (address clientKey : String) (server : Server)
    (arrival : Int × HttpRequest) : Prop :=
  (arrival.2.remoteAddr = address → asksLogin decode arrival.2 →
    arrival.2.requestURI = LOGIN_PATH ∧ clientIp arrival.2 = some clientKey) ∧
  (shouldNotFilter arrival.2 = false → clientIp arrival.2 = some clientKey →
    ∀ window, server.windows.lookup clientKey = some window → ranOut arrival.1 window = false →
      window.count.toNat + 1 < 2 ^ 31)

/-! ## The window of one client -/

section Window
variable {windows : Windows} {now clock since : Int} {clientKey : String} {spent : Nat}

def ClientWindow.plain (window : ClientWindow) : Window := ⟨window.startedAt, window.count.toNat⟩

theorem ran_out_iff (now : Int) (window : ClientWindow) :
    ranOut now window = true ↔ WINDOW_MS < now - window.plain.startedAt := by
  simp [ranOut, ClientWindow.plain]

theorem tracked_bounded
    (bounded : Bounded MAX_ATTEMPTS_PER_WINDOW WINDOW_MS since clock
      ((windows.lookup clientKey).map ClientWindow.plain) spent) (passes : clock ≤ now) :
    Bounded MAX_ATTEMPTS_PER_WINDOW WINDOW_MS since now
      (((tracked windows now).lookup clientKey).map ClientWindow.plain) spent := by
  have later := bounded_wait bounded passes
  unfold tracked
  split
  · rw [lookup_keepValues]
    cases found : windows.lookup clientKey with
    | none =>
        rw [found] at later
        exact later
    | some window =>
        rw [found] at later
        cases gone : ranOut now window with
        | false => simpa [Option.filter, gone] using later
        | true =>
            simpa [Option.filter, gone] using bounded_forget later ((ran_out_iff now window).mp gone)
  · exact later

theorem tracked_lookup {window : ClientWindow}
    (found : (tracked windows now).lookup clientKey = some window) :
    windows.lookup clientKey = some window := by
  unfold tracked at found
  split at found
  · rw [lookup_keepValues, Option.filter_eq_some_iff] at found
    exact found.1
  · exact found

def countIn (now : Int) : Option ClientWindow → ClientWindow
  | none => ⟨now, 1⟩
  | some existing =>
      if ranOut now existing then ⟨now, 1⟩
      else { existing with count := existing.count + 1 }

theorem counted_in (windows : Windows) (now : Int) (clientKey : String) :
    counted windows now clientKey = countIn now ((tracked windows now).lookup clientKey) := by
  unfold counted
  cases (tracked windows now).lookup clientKey with
  | none => rfl
  | some existing => rfl

/-- Below the wrap-around the filter counts as a fixed window does. -/
theorem count_in_plain (window : Option ClientWindow)
    (room : ∀ existing, window = some existing → ranOut now existing = false →
      existing.count.toNat + 1 < 2 ^ 31) :
    (countIn now window).plain = acquire WINDOW_MS now (window.map ClientWindow.plain) ∧
      (countIn now window).count.toInt = (countIn now window).plain.count := by
  cases window with
  | none => exact ⟨rfl, rfl⟩
  | some existing =>
      simp only [Option.map_some, acquire, countIn]
      cases gone : ranOut now existing with
      | true =>
          rw [if_pos ((ran_out_iff now existing).mp gone), if_pos rfl]
          exact ⟨rfl, rfl⟩
      | false =>
          have still : ¬ WINDOW_MS < now - existing.plain.startedAt := by
            rw [← ran_out_iff, gone]
            exact Bool.false_ne_true
          have small := room existing rfl gone
          have next : (existing.count + 1).toNat = existing.count.toNat + 1 := by bv_omega
          rw [if_neg still, if_neg Bool.false_ne_true]
          refine ⟨?_, ?_⟩
          · simp only [ClientWindow.plain, next]
          · simp only [ClientWindow.plain, BitVec.toInt_eq_toNat_cond, next]
            rw [if_pos (by omega)]

theorem counted_plain
    (room : ∀ window, windows.lookup clientKey = some window → ranOut now window = false →
      window.count.toNat + 1 < 2 ^ 31) :
    (counted windows now clientKey).plain =
        acquire WINDOW_MS now (((tracked windows now).lookup clientKey).map ClientWindow.plain) ∧
      (counted windows now clientKey).count.toInt =
        (counted windows now clientKey).plain.count := by
  rw [counted_in]
  apply count_in_plain
  intro existing found gone
  exact room existing (tracked_lookup found) gone

end Window

/-! ## One request -/

section Requests
variable {decode : String → Option String} {address clientKey : String} {since : Int}
  {server after : Server} {arrival : Int × HttpRequest}

theorem dispatch_login {request : HttpRequest} {payload : LoginRequest}
    (reached : dispatch decode request = .login payload) : asksLogin decode request := by
  unfold dispatch at reached
  split at reached
  · rename_i mapped
    cases body : request.payload with
    | none =>
        rw [body] at reached
        cases reached
    | some readable => exact ⟨mapped.1, mapped.2, by rw [body]; rfl⟩
  · cases reached

theorem dispatch_asked {request : HttpRequest} (asks : asksLogin decode request) :
    ∃ payload, dispatch decode request = .login payload := by
  obtain ⟨method, mapped, readable⟩ := asks
  obtain ⟨payload, body⟩ := Option.isSome_iff_exists.mp readable
  exact ⟨payload, by simp [dispatch, method, mapped, body]⟩

theorem filtered {request : HttpRequest} (method : request.method = "POST")
    (spelled : request.requestURI = LOGIN_PATH) : shouldNotFilter request = false := by
  simp [shouldNotFilter, method, spelled]

theorem reached_iff (entry : Served) : entry.reached address since = true ↔
    entry.request.remoteAddr = address ∧ since ≤ entry.now ∧ entry.now ≤ since + WINDOW_MS ∧
      ∃ payload, entry.answer = .login payload := by
  unfold Served.reached
  cases entry.answer <;> simp [and_assoc]

theorem step_cases (taken : step decode server arrival = some after) :
    server.clock ≤ arrival.1 ∧ ∃ windows answer,
      handle decode server.windows arrival.1 arrival.2 = (windows, answer) ∧
        after = ⟨windows, arrival.1, server.served ++ [⟨arrival.1, arrival.2, answer⟩]⟩ := by
  obtain ⟨now, request⟩ := arrival
  simp only [step] at taken
  split at taken
  · rename_i passes
    exact ⟨passes, _, _, rfl, (Option.some.inj taken).symm⟩
  · cases taken

theorem attempts_append (windows : Windows) (clock : Int) (entry : Served) :
    let total := attempts address since ⟨windows, clock, server.served ++ [entry]⟩
    (entry.reached address since = false ∧ total = attempts address since server) ∨
      entry.reached address since = true ∧ total = attempts address since server + 1 := by
  simp only [attempts, List.filter_append, List.length_append]
  cases reached : entry.reached address since with
  | false => exact Or.inl ⟨rfl, by simp [reached]⟩
  | true => exact Or.inr ⟨rfl, by simp [reached]⟩

theorem attempts_unmoved (windows : Windows) (clock : Int) (entry : Served)
    (misses : ∀ payload, entry.answer = .login payload → entry.request.remoteAddr ≠ address) :
    attempts address since ⟨windows, clock, server.served ++ [entry]⟩ =
      attempts address since server := by
  rcases attempts_append windows clock entry with ⟨_, same⟩ | ⟨reached, _⟩
  · exact same
  · obtain ⟨owned, _, _, payload, login⟩ := (reached_iff entry).mp reached
    exact absurd owned (misses payload login)

def Charged (address clientKey : String) (since : Int) (server : Server) : Prop :=
  Bounded MAX_ATTEMPTS_PER_WINDOW WINDOW_MS since server.clock
    ((server.windows.lookup clientKey).map ClientWindow.plain) (attempts address since server)

theorem step_charged (charged : Charged address clientKey since server)
    (allowed : plain decode address clientKey server arrival)
    (taken : step decode server arrival = some after) : Charged address clientKey since after := by
  obtain ⟨now, request⟩ := arrival
  obtain ⟨passes, windows, answer, handled, rfl⟩ := step_cases taken
  obtain ⟨spelling, room⟩ := allowed
  simp only at passes handled spelling room
  unfold Charged
  unfold handle at handled
  cases skips : shouldNotFilter request with
  | true =>
      rw [skips, if_pos rfl, Prod.mk.injEq] at handled
      obtain ⟨rfl, rfl⟩ := handled
      rw [attempts_unmoved]
      · exact bounded_wait charged passes
      · intro payload reached owned
        have asks := dispatch_login reached
        rw [filtered asks.1 (spelling owned asks).1] at skips
        cases skips
  | false =>
      rw [skips, if_neg Bool.false_ne_true] at handled
      cases key : clientIp request with
      | none =>
          rw [key, Prod.mk.injEq] at handled
          obtain ⟨rfl, rfl⟩ := handled
          rw [attempts_unmoved]
          · exact bounded_wait charged passes
          · intro payload reached
            cases reached
      | some other =>
          rw [key, Prod.mk.injEq] at handled
          obtain ⟨rfl, rfl⟩ := handled
          have waiting := tracked_bounded charged passes
          by_cases same : clientKey = other
          · subst same
            obtain ⟨counts, fits⟩ := counted_plain (room skips key)
            simp only [tryAcquire, AList.lookup_insert, Option.map_some, counts]
            apply bounded_acquire waiting (Int.le_refl now)
            rcases attempts_append _ now ⟨now, request, _⟩ with ⟨_, kept⟩ | ⟨reached, more⟩
            · exact Or.inl kept
            · refine Or.inr ⟨more, ?_⟩
              obtain ⟨_, begins, ends, payload, login⟩ := (reached_iff _).mp reached
              refine ⟨?_, begins, ends⟩
              simp only [decide_eq_true_eq, fits] at login
              split at login
              · rename_i acquired
                rw [← counts]
                exact Int.ofNat_le.mp acquired
              · cases login
          · rw [attempts_unmoved]
            · simp only [tryAcquire, lookup_insert_eq, if_neg same]
              exact waiting
            · intro payload reached owned
              split at reached
              · have asks := dispatch_login reached
                have keyed := (spelling owned asks).2
                rw [key, Option.some.injEq] at keyed
                exact same keyed.symm
              · cases reached

theorem step_answered (answered : Answered decode address server)
    (allowed : plain decode address clientKey server arrival)
    (taken : step decode server arrival = some after) : Answered decode address after := by
  obtain ⟨now, request⟩ := arrival
  obtain ⟨_, windows, answer, handled, rfl⟩ := step_cases taken
  intro entry member owned asks
  rcases List.mem_append.mp member with before | last
  · exact answered entry before owned asks
  · rw [List.mem_singleton] at last
    subst last
    obtain ⟨spelled, key⟩ := allowed.1 owned asks
    obtain ⟨payload, login⟩ := dispatch_asked asks
    simp only at asks
    simp only [handle, filtered asks.1 spelled, key, Bool.false_eq_true, if_false,
      Prod.mk.injEq] at handled
    rw [← handled.2]
    split
    · exact Or.inl ⟨payload, login⟩
    · exact Or.inr rfl

/-- Another spelling of the path passes by the filter, whatever was counted before. -/
theorem respelled_reaches {request : HttpRequest} (asks : asksLogin decode request)
    (spelled : request.requestURI ≠ LOGIN_PATH) (windows : Windows) (now : Int) :
    ∃ payload, handle decode windows now request = (windows, .login payload) := by
  obtain ⟨payload, login⟩ := dispatch_asked asks
  have skips : shouldNotFilter request = true := by simp [shouldNotFilter, spelled]
  exact ⟨payload, by simp [handle, skips, login]⟩

theorem fresh_key_reaches {request : HttpRequest} (asks : asksLogin decode request) {key : String}
    (keyed : clientIp request = some key) {windows : Windows} (fresh : windows.lookup key = none)
    (now : Int) : ∃ payload, (handle decode windows now request).2 = .login payload := by
  by_cases spelled : request.requestURI = LOGIN_PATH
  · have none : (tracked windows now).lookup key = none := by
      cases found : (tracked windows now).lookup key with
      | none => rfl
      | some window => rw [tracked_lookup found] at fresh; cases fresh
    obtain ⟨payload, login⟩ := dispatch_asked asks
    refine ⟨payload, ?_⟩
    have first : (1 : BitVec 32).toInt ≤ (MAX_ATTEMPTS_PER_WINDOW : Int) := by decide
    simp only [handle, filtered asks.1 spelled, keyed, tryAcquire, counted, none, first, login,
      Bool.false_eq_true, if_false, decide_true, if_true]
  · obtain ⟨payload, reaches⟩ := respelled_reaches asks spelled windows now
    exact ⟨payload, congrArg Prod.snd reaches⟩

/-! ## Runs -/

/-- In every run in which the requests of an address meet the filter under one key, at
most two windows of them reach the login in a minute; the others are turned away. -/
theorem plain_attempts_bounded {clock : Int} {arrivals : List (Int × HttpRequest)}
    (run : Run (guarded (plain decode address clientKey) (fires (step decode))) (Server.start clock)
      arrivals after) :
    (∀ since, attempts address since after ≤ 2 * MAX_ATTEMPTS_PER_WINDOW) ∧
      Answered decode address after := by
  constructor
  · intro since
    have charged : Charged address clientKey since after := by
      refine run_invariant (Charged address clientKey since) ?_ run (bounded_start none)
      rintro before arrival next ⟨allowed, taken⟩ held
      exact step_charged held allowed taken
    exact bounded_le charged
  · refine run_invariant (Answered decode address) ?_ run ?_
    · rintro before arrival next ⟨allowed, taken⟩ held
      exact step_answered held allowed taken
    · intro entry member
      cases member

end Requests

/-! ## Guessing from one address -/

def hexDigit (c : Char) : Option Nat :=
  if '0' ≤ c ∧ c ≤ '9' then some (c.toNat - '0'.toNat)
  else if 'a' ≤ c ∧ c ≤ 'f' then some (c.toNat - 'a'.toNat + 10)
  else if 'A' ≤ c ∧ c ≤ 'F' then some (c.toNat - 'A'.toNat + 10)
  else none

def percentDecode : List Char → List Char
  | '%' :: high :: low :: rest =>
      match hexDigit high, hexDigit low with
      | some h, some l => Char.ofNat (16 * h + l) :: percentDecode rest
      | _, _ => '%' :: percentDecode (high :: low :: rest)
  | c :: rest => c :: percentDecode rest
  | [] => []

def decodedPath (uri : String) : Option String := some (String.ofList (percentDecode uri.toList))

def guess (uri : String) (forwardedFor : Option String) : HttpRequest :=
  ⟨"POST", "203.0.113.9", uri, forwardedFor, some ⟨"asha", "guess"⟩⟩

theorem plain_guesses_bounded : ∃ after, attempts "203.0.113.9" 0 after = 2 ∧
    (∀ since, attempts "203.0.113.9" since after ≤ 2 * MAX_ATTEMPTS_PER_WINDOW) ∧
      Answered decodedPath "203.0.113.9" after := by
  have first : plain decodedPath "203.0.113.9" "203.0.113.9" (Server.start 0)
      (0, guess LOGIN_PATH none) := by
    refine ⟨fun _ _ => ⟨rfl, rfl⟩, fun _ _ window found => ?_⟩
    cases found
  have second : plain decodedPath "203.0.113.9" "203.0.113.9"
      ⟨(∅ : Windows).insert "203.0.113.9" ⟨0, 1⟩, 0,
        [⟨0, guess LOGIN_PATH none, .login ⟨"asha", "guess"⟩⟩]⟩ (7, guess LOGIN_PATH none) := by
    refine ⟨fun _ _ => ⟨rfl, rfl⟩, fun _ _ window found _ => ?_⟩
    rw [AList.lookup_insert] at found
    cases found
    decide
  have run : ∃ after, Run (guarded (plain decodedPath "203.0.113.9" "203.0.113.9")
      (fires (step decodedPath))) (Server.start 0)
      [(0, guess LOGIN_PATH none), (7, guess LOGIN_PATH none)] after ∧
      attempts "203.0.113.9" 0 after = 2 :=
    ⟨_, Run.next ⟨first, rfl⟩ (Run.next ⟨second, rfl⟩ (Run.refl _)), by decide +kernel⟩
  obtain ⟨after, taken, counts⟩ := run
  exact ⟨after, counts, plain_attempts_bounded taken⟩

/-- Twenty-one guesses in one millisecond reach the login, under another spelling of its
path or each under another client of its own making. -/
theorem guesses_unbounded :
    ∃ respelled forged : Server,
      Run (fires (step decodedPath)) (Server.start 0)
        (List.replicate 21 (0, guess "/api/v1/auth/%6cogin" none)) respelled ∧
      attempts "203.0.113.9" 0 respelled = 21 ∧
      Run (fires (step decodedPath)) (Server.start 0)
        ((List.range 21).map fun i => (0, guess LOGIN_PATH (some (toString i)))) forged ∧
      attempts "203.0.113.9" 0 forged = 21 := by
  refine ⟨_, _, exec_run _ _ _ _ rfl, ?_, exec_run _ _ _ _ rfl, ?_⟩
  · decide +kernel
  · decide +kernel

end CityBus.LoginRateLimit
