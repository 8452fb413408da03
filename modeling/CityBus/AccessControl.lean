import CityBus.GuardedRuns
import CityBus.LoginRateLimit
import CityBus.Services
import Mathlib

/-!
The HTTP API behind the filters: the rate limit of the login, the bearer token, the
rules of `SecurityConfig`, the mappings of the controllers and the envelope of
errors. The signature check of a token, the decoding of a URI and the conversion of
a path variable are parameters. Reads are answered elsewhere; they store nothing. The
console of the database under `/h2-console`, which `anyRequest` permits, is not part of it.
-/

namespace CityBus.AccessControl

open AlertService AuthService BusService GuardedRuns KeyedMaps LoginRateLimit RouteService
  Services Store

/-! ## Paths -/

def segments (path : String) : List String := (path.toList.splitOn '/').map String.ofList

/-- A pattern that ends in `/**` covers all that is below its base, and the base. -/
def covers (pattern path : String) : Bool :=
  let parts := segments pattern
  if parts.getLast? = some "**" then parts.dropLast.isPrefixOf (segments path)
  else parts = segments path

/-! ## `SecurityConfig.filterChain` -/

inductive Access where
  | permitAll
  | authenticated
  | hasRole (role : String)
  deriving DecidableEq

structure Rule where
  method : Option String
  patterns : List String
  access : Access

def Rule.applies (rule : Rule) (method path : String) : Bool :=
  rule.method.all (· = method) && rule.patterns.any fun pattern => covers pattern path

def filterChain : List Rule :=
  [⟨some "POST", ["/api/v1/auth/login"], .permitAll⟩,
    ⟨none, ["/api/v1/auth/me"], .authenticated⟩,
    ⟨some "GET", ["/api/v1/alerts/all"], .hasRole "ADMIN"⟩,
    ⟨some "GET", ["/api/v1/routes/**", "/api/v1/buses/**", "/api/v1/alerts", "/api/v1/journeys"],
      .permitAll⟩,
    ⟨some "POST", ["/api/v1/**"], .hasRole "ADMIN"⟩,
    ⟨some "PUT", ["/api/v1/**"], .hasRole "ADMIN"⟩,
    ⟨some "PATCH", ["/api/v1/**"], .hasRole "ADMIN"⟩,
    ⟨some "DELETE", ["/api/v1/**"], .hasRole "ADMIN"⟩,
    ⟨none, ["/actuator/health", "/actuator/info"], .permitAll⟩,
    ⟨none, ["/actuator/**"], .hasRole "ADMIN"⟩]

def accessOf (method path : String) : Access :=
  ((filterChain.find? fun rule => rule.applies method path).map (·.access)).getD .permitAll

/-! ## `JwtAuthenticationFilter` -/

def BEARER_PREFIX : String := "Bearer "

structure Authentication where
  name : String
  authorities : List String
  deriving DecidableEq

def buildAuthentication (claims : Claims) : Authentication :=
  ⟨claims.subject, ["ROLE_" ++ claims.role]⟩

/-- The claims under a verified signature in the header, expired or not. -/
def presented (verified : String → Option Claims) (authorization : Option String) :
    Option Claims :=
  authorization.bind fun header =>
    if BEARER_PREFIX.toList.isPrefixOf header.toList then
      verified (String.ofList (header.toList.drop BEARER_PREFIX.length))
    else none

def authenticate (verified : String → Option Claims) (now : Int) (authorization : Option String) :
    Option Authentication :=
  ((presented verified authorization).bind (parse now)).map buildAuthentication

/-! ## Errors -/

structure ApiError where
  status : Nat
  error : String
  message : String
  path : String
  fieldErrors : List (String × String)
  deriving DecidableEq

/-- `ApiError.of`; an error of no fields carries no list of them. -/
def apiError (status : Nat) (error message path : String) : ApiError :=
  ⟨status, error, message, path, []⟩

def handleException (path : String) : ServiceException → ApiError
  | .BadRequestException message => apiError 400 "Bad Request" message path
  | .ConflictException message => apiError 409 "Conflict" message path
  | .ResourceNotFoundException message => apiError 404 "Not Found" message path
  | .BadCredentialsException message => apiError 401 "Unauthorized" message path
  | .OptimisticLockingFailureException =>
      apiError 409 "Conflict" "The record was modified by someone else. Reload and try again." path
  | .DataIntegrityViolationException =>
      apiError 409 "Conflict" "The change violates a data constraint." path

/-- Why a body is not taken: it is no JSON of the type, or its validation fails. -/
inductive BodyProblem where
  | unreadable
  | invalid (fieldErrors : List (String × String))

def malformed (path : String) : ApiError :=
  apiError 400 "Bad Request" "Malformed request payload" path

def handleBody (path : String) : BodyProblem → ApiError
  | .unreadable => malformed path
  | .invalid fieldErrors =>
      ⟨400, "Validation Failed", "One or more fields are invalid", path, fieldErrors⟩

/-- The handler of `Exception`; a method that no mapping of the path takes ends there. -/
def unexpected (path : String) : ApiError :=
  apiError 500 "Internal Server Error" "An unexpected error occurred" path

def permits : Access → Option Authentication → Bool
  | .permitAll, _ => true
  | .authenticated, caller => caller.isSome
  | .hasRole role, caller => caller.any fun known => ("ROLE_" ++ role) ∈ known.authorities

/-- `authenticationEntryPoint` for the anonymous, `accessDeniedHandler` for others. -/
def denied (access : Access) (authentication : Option Authentication) (path : String) :
    Option ApiError :=
  if permits access authentication then none
  else if authentication.isNone then
    some (apiError 401 "Unauthorized" "Authentication required" path)
  else some (apiError 403 "Forbidden" "You do not have permission to perform this action" path)

/-! ## The mappings of the controllers -/

inductive Handler where
  | login
  | me
  | listRoutes
  | getRoute (id : String)
  | createRoute
  | updateRoute (id : String)
  | deleteRoute (id : String)
  | listBuses
  | live
  | getBus (id : String)
  | history (code : String)
  | createBus
  | updateBus (id : String)
  | deleteBus (id : String)
  | liveFeed
  | findAllAlerts
  | createAlert
  | updateAlert (id : String)
  | deleteAlert (id : String)
  | plan
  deriving DecidableEq

def Handler.writes : Handler → Bool
  | .createRoute | .updateRoute _ | .deleteRoute _ | .createBus | .updateBus _ | .deleteBus _
  | .createAlert | .updateAlert _ | .deleteAlert _ => true
  | _ => false

/-- The methods that are mapped under a path. A path variable takes no empty part, and
a mapping without variables comes before one that has them. -/
def mappings (path : String) : List (String × Handler) :=
  match segments path with
  | ["", "api", "v1", "auth", "login"] => [("POST", .login)]
  | ["", "api", "v1", "auth", "me"] => [("GET", .me)]
  | ["", "api", "v1", "routes"] => [("GET", .listRoutes), ("POST", .createRoute)]
  | ["", "api", "v1", "routes", id] =>
      if id = "" then [] else
        [("GET", .getRoute id), ("PUT", .updateRoute id), ("DELETE", .deleteRoute id)]
  | ["", "api", "v1", "buses"] => [("GET", .listBuses), ("POST", .createBus)]
  | ["", "api", "v1", "buses", id] =>
      if id = "" then [] else
        [("GET", if id = "live" then .live else .getBus id), ("PUT", .updateBus id),
          ("DELETE", .deleteBus id)]
  | ["", "api", "v1", "buses", "code", code, "history"] =>
      if code = "" then [] else [("GET", .history code)]
  | ["", "api", "v1", "alerts"] => [("GET", .liveFeed), ("POST", .createAlert)]
  | ["", "api", "v1", "alerts", id] =>
      if id = "" then [] else
        (if id = "all" then [("GET", .findAllAlerts)] else []) ++
          [("PUT", .updateAlert id), ("DELETE", .deleteAlert id)]
  | ["", "api", "v1", "journeys"] => [("GET", .plan)]
  | _ => []

/-- What is mapped for GET also answers HEAD. -/
def findHandler (method path : String) : Option Handler :=
  (mappings path).lookup (if method = "HEAD" then "GET" else method)

/-! ## The handlers -/

/-- A request as the filters and the handlers read it. Its body is given by what it
reads as for each type of request, and by why it is not taken where it is not. -/
structure ApiRequest (K : Type) where
  http : HttpRequest
  authorization : Option String
  route : Option (RouteRequest K)
  bus : Option BusRequest
  alert : Option AlertRequest
  problem : BodyProblem

/-- `AuthController.me` tells who the token is of; there is no new token in it. -/
structure CurrentUser where
  username : String
  displayName : String
  role : String
  busCode : Option String
  deriving DecidableEq

def currentUser {K : Type} (db : Database K) (username : String) :
    Except ServiceException CurrentUser :=
  match findByUsername db username with
  | none => .error (.BadCredentialsException "Unknown user")
  | some user => .ok ⟨user.username, user.displayName, roleName user.role, assignedCode db user⟩

inductive Call (K : Type) where
  | malformedId
  | refusedBody
  | absent (entity : String) (id : Int)
  | attempt (operation : Operation K) (status : Nat)

def withArguments {K Body : Type} (id : Option Int) (entity : String) (body : Option Body)
    (status : Nat) (operation : Nat → Body → Operation K) : Call K :=
  match id, body with
  | none, _ => .malformedId
  | some _, none => .refusedBody
  | some (.ofNat key), some request => .attempt (operation key request) status
  -- No row has a negative id.
  | some (.negSucc key), some _ => .absent entity (.negSucc key)

def withBody {K Body : Type} (body : Option Body) (operation : Body → Operation K) : Call K :=
  match body with
  | none => .refusedBody
  | some request => .attempt (operation request) 201

def call {K : Type} (longValue : String → Option Int) (request : ApiRequest K) :
    Handler → Option (Call K)
  | .createRoute => some (withBody request.route .createRoute)
  | .updateRoute id => some (withArguments (longValue id) "Route" request.route 200 .updateRoute)
  | .deleteRoute id =>
      some (withArguments (longValue id) "Route" (some ()) 204 fun key _ => .deleteRoute key)
  | .createBus => some (withBody request.bus .createBus)
  | .updateBus id => some (withArguments (longValue id) "Bus" request.bus 200 .updateBus)
  | .deleteBus id =>
      some (withArguments (longValue id) "Bus" (some ()) 204 fun key _ => .deleteBus key)
  | .createAlert => some (withBody request.alert .createAlert)
  | .updateAlert id => some (withArguments (longValue id) "Alert" request.alert 200 .updateAlert)
  | .deleteAlert id =>
      some (withArguments (longValue id) "Alert" (some ()) 204 fun key _ => .deleteAlert key)
  | _ => none

/-- `read` leaves to the services what a read answers. What fails before the filters or
in one has the answer of the container, and `elsewhere` is what no controller maps. -/
inductive Answer where
  | loggedIn (response : LoginResponse)
  | currentUser (user : CurrentUser)
  | read (handler : Handler)
  | done (status : Nat)
  | allowed (methods : List String)
  | error (problem : ApiError)
  | container (status : Nat)
  | elsewhere
  deriving DecidableEq

structure World (K : Type) where
  tables : Tables K
  windows : Windows
  issued : List Claims
  clock : Int

def World.start {K : Type} (tables : Tables K) (clock : Int) : World K := ⟨tables, ∅, [], clock⟩

/-! ## One request -/

section Server
variable {K : Type} [Field K] [LinearOrder K] [ToString K]
  (decode : String → Option String) (verified : String → Option Claims)
  (longValue : String → Option Int) (matching : String → String → Bool) (foreignKeys : Bool)
  (expirationMs : Int)

def handle (world : World K) (request : ApiRequest K) (caller : Option Authentication)
    (path : String) : World K × Answer :=
  match findHandler request.http.method path with
  | none =>
      if mappings path = [] then (world, .elsewhere)
      else if request.http.method = "OPTIONS" then
        (world, .allowed ((mappings path).map Prod.fst))
      else (world, .error (unexpected path))
  | some .me =>
      match currentUser world.tables.db ((caller.map (·.name)).getD "") with
      | .error problem => (world, .error (handleException path problem))
      | .ok user => (world, .currentUser user)
  | some handler =>
      match call longValue request handler with
      | none => (world, .read handler)
      | some .malformedId => (world, .error (malformed path))
      | some .refusedBody => (world, .error (handleBody path request.problem))
      | some (.absent entity id) =>
          (world, .error (handleException path
            (.ResourceNotFoundException (entity ++ " not found: " ++ toString id))))
      | some (.attempt operation status) =>
          match attempt foreignKeys world.tables world.clock operation with
          | .error problem => (world, .error (handleException path problem))
          | .ok tables => ({ world with tables := tables }, .done status)

def dispatched (world : World K) (request : ApiRequest K) : World K × Answer :=
  match decode request.http.requestURI with
  | none => (world, .container 400)
  | some path =>
      let caller := authenticate verified world.clock request.authorization
      match denied (accessOf request.http.method path) caller path with
      | some problem => (world, .error problem)
      | none => handle longValue foreignKeys world request caller path

def serve (world : World K) (request : ApiRequest K) : World K × Answer :=
  let (windows, passed) := LoginRateLimit.handle decode world.windows world.clock request.http
  let counted : World K := { world with windows := windows }
  match passed with
  | .tooManyRequests =>
      (counted, .error (apiError 429 "Too Many Requests"
        "Too many login attempts. Try again in a minute." request.http.requestURI))
  | .internalError => (counted, .container 500)
  | .badRequest => (counted, .error (handleBody request.http.requestURI request.problem))
  | .login payload =>
      match login matching world.tables.db expirationMs world.clock payload with
      | .error problem => (counted, .error (handleException request.http.requestURI problem))
      | .ok response =>
          ({ counted with issued := world.issued ++ [response.accessToken] }, .loggedIn response)
  | .elsewhere => dispatched decode verified longValue foreignKeys counted request

inductive Action (K : Type) where
  | wait (millis : Nat)
  | serve (request : ApiRequest K)

/-- Only the server signs: a signature that verifies is of a token that it issued. -/
def step (world : World K) : Action K → Option (World K)
  | .wait millis => some { world with clock := world.clock + millis }
  | .serve request =>
      if (presented verified request.authorization).all (· ∈ world.issued) then
        some (serve decode verified longValue matching foreignKeys expirationMs world request).1
      else none

end Server

/-! ## Who may write -/

section Rules
variable {K : Type} {longValue : String → Option Int} {request : ApiRequest K}
  {method path : String} {handler : Handler}

theorem handler_mapped (found : findHandler method path = some handler) :
    ((if method = "HEAD" then "GET" else method), handler) ∈ mappings path := by
  obtain ⟨before, after, mapped, _⟩ := List.lookup_eq_some_iff.mp found
  rw [mapped]
  exact List.mem_append_right _ (List.mem_cons_self ..)

theorem mappings_write (path : String) : ∀ entry ∈ mappings path, entry.2.writes = true →
    (entry.1 = "POST" ∨ entry.1 = "PUT" ∨ entry.1 = "DELETE") ∧
      ∃ area rest, segments path = "" :: "api" :: "v1" :: area :: rest ∧ area ≠ "auth" := by
  unfold mappings
  split
  case h_11 => simp
  all_goals
    rename_i parts
    simp only [parts]
  case h_4 =>
    split
    · simp
    · simp [Handler.writes]
  case h_6 id =>
    split
    · simp
    · by_cases live : id = "live" <;> simp [Handler.writes, live]
  case h_9 id =>
    split
    · simp
    · by_cases all : id = "all" <;> simp [Handler.writes, all]
  all_goals simp [Handler.writes]

theorem mapped_write (found : findHandler method path = some handler)
    (writes : handler.writes = true) :
    (method = "POST" ∨ method = "PUT" ∨ method = "DELETE") ∧
      ∃ area rest, segments path = "" :: "api" :: "v1" :: area :: rest ∧ area ≠ "auth" := by
  obtain ⟨keyed, below⟩ := mappings_write path _ (handler_mapped found) writes
  refine ⟨?_, below⟩
  split at keyed
  · simp at keyed
  · exact keyed

theorem write_guarded (found : findHandler method path = some handler)
    (writes : handler.writes = true) : accessOf method path = .hasRole "ADMIN" := by
  obtain ⟨keyed, area, rest, parts, other⟩ := mapped_write found writes
  have login : segments "/api/v1/auth/login" = ["", "api", "v1", "auth", "login"] := rfl
  have me : segments "/api/v1/auth/me" = ["", "api", "v1", "auth", "me"] := rfl
  have api : segments "/api/v1/**" = ["", "api", "v1", "**"] := rfl
  rcases keyed with rfl | rfl | rfl
  all_goals
    simp [accessOf, filterChain, Rule.applies, covers, parts, login, me, api,
      Ne.symm other]

theorem call_writes : (call longValue request handler).isSome = handler.writes := by
  cases handler <;> rfl

theorem denied_admin (verified : String → Option Claims) (now : Int) (header : Option String) :
    denied (.hasRole "ADMIN") (authenticate verified now header) path =
      match (presented verified header).bind (parse now) with
      | none => some (apiError 401 "Unauthorized" "Authentication required" path)
      | some claims =>
          if claims.role = "ADMIN" then none
          else some (apiError 403 "Forbidden" "You do not have permission to perform this action"
            path) := by
  unfold authenticate
  cases (presented verified header).bind (parse now) with
  | none => rfl
  | some claims =>
      simp only [denied, permits, Option.map_some, Option.any_some, buildAuthentication,
        List.mem_singleton, String.append_right_inj, Option.isNone_some, decide_eq_true_eq,
        eq_comm (a := "ADMIN")]
      rfl

end Rules

/-! ## Which writes a request asks for -/

structure Write (K : Type) where
  claims : Claims
  time : Int
  operation : Operation K

def Call.operation {K : Type} : Call K → Option (Operation K)
  | .attempt operation _ => some operation
  | _ => none

section Asked
variable {K : Type} (decode : String → Option String) (verified : String → Option Claims)
  (longValue : String → Option Int)

def asked (now : Int) (request : ApiRequest K) : Option (Write K) :=
  (decode request.http.requestURI).bind fun path =>
    (((presented verified request.authorization).bind (parse now)).filter
        fun claims => claims.role = "ADMIN").bind fun claims =>
      (((findHandler request.http.method path).bind (call longValue request)).bind
        Call.operation).map fun operation => ⟨claims, now, operation⟩

def writesFrom (clock : Int) : List (Action K) → List (Write K)
  | [] => []
  | .wait millis :: rest => writesFrom (clock + millis) rest
  | .serve request :: rest =>
      (asked decode verified longValue clock request).toList ++ writesFrom clock rest

def Action.later (clock : Int) : Action K → Int
  | .wait millis => clock + millis
  | .serve _ => clock

def loginsFrom (clock : Int) : List (Action K) → List (Int × LoginRequest)
  | [] => []
  | .wait millis :: rest => loginsFrom (clock + millis) rest
  | .serve request :: rest =>
      if request.http.method = "POST" ∧ decode request.http.requestURI = some LOGIN_PATH then
        (request.http.payload.map fun payload => (clock, payload)).toList ++ loginsFrom clock rest
      else loginsFrom clock rest

end Asked

section Requests
variable {K : Type} [Field K] [LinearOrder K] [ToString K]
  {decode : String → Option String} {verified : String → Option Claims}
  {longValue : String → Option Int} {matching : String → String → Bool} {foreignKeys : Bool}
  {expirationMs : Int} {world : World K} {request : ApiRequest K}

def Write.perform (foreignKeys : Bool) (tables : Tables K) (write : Write K) : Tables K :=
  Services.perform foreignKeys tables write.time write.operation

omit [Field K] [LinearOrder K] [ToString K] in
theorem asked_login (post : request.http.method = "POST")
    (mapped : decode request.http.requestURI = some LOGIN_PATH) (now : Int) :
    asked decode verified longValue now request = none := by
  have handler : findHandler "POST" LOGIN_PATH = some .login := by decide
  simp only [asked, mapped, post, handler, Option.bind_some, call, Option.bind_none,
    Option.map_none, Option.bind_fun_none]

theorem dispatch_payload {http : HttpRequest} {payload : LoginRequest}
    (reached : dispatch decode http = .login payload) : http.payload = some payload := by
  unfold dispatch at reached
  split at reached
  · split at reached
    · cases reached
    · rename_i body
      cases reached
      exact body
  · cases reached

theorem passed_cases (plain : decode LOGIN_PATH = some LOGIN_PATH) (windows : Windows) (now : Int)
    (http : HttpRequest) :
    let passed := (LoginRateLimit.handle decode windows now http).2
    (passed = .elsewhere ∧ ¬ (http.method = "POST" ∧ decode http.requestURI = some LOGIN_PATH)) ∨
      (http.method = "POST" ∧ decode http.requestURI = some LOGIN_PATH ∧ passed ≠ .elsewhere ∧
        ∀ payload, passed = .login payload → http.payload = some payload) := by
  by_cases login : http.method = "POST" ∧ decode http.requestURI = some LOGIN_PATH
  · refine Or.inr ⟨login.1, login.2, ?_, ?_⟩
    · unfold LoginRateLimit.handle dispatch
      rw [if_pos login]
      grind
    · intro payload reached
      unfold LoginRateLimit.handle at reached
      grind [dispatch_payload]
  · refine Or.inl ⟨?_, login⟩
    have unfiltered : shouldNotFilter http = true := by
      by_contra filtered
      simp only [shouldNotFilter, Bool.not_eq_true', Bool.not_eq_false, Bool.and_eq_true,
        decide_eq_true_eq] at filtered
      exact login ⟨filtered.1, by rw [filtered.2, plain]⟩
    rw [LoginRateLimit.handle, if_pos unfiltered, dispatch, if_neg login]

theorem handle_tables (caller : Option Authentication) (path : String) :
    (handle longValue foreignKeys world request caller path).1 =
      { world with
        tables := (((findHandler request.http.method path).bind (call longValue request)).bind
          Call.operation).elim world.tables
            (Services.perform foreignKeys world.tables world.clock) } := by
  unfold handle
  split
  · rename_i found
    rw [found]
    split
    · rfl
    · split <;> rfl
  · rename_i found
    rw [found]
    split <;> rfl
  · rename_i handler _ found
    rw [found, Option.bind_some]
    cases called : call longValue request handler with
    | none => rfl
    | some asks =>
        cases asks with
        | malformedId => rfl
        | refusedBody => rfl
        | absent entity id => rfl
        | attempt operation status =>
            simp only [Option.bind_some, Call.operation, Option.elim_some, Services.perform]
            cases attempt foreignKeys world.tables world.clock operation with
            | error problem => rfl
            | ok tables => rfl

theorem dispatched_tables :
    (dispatched decode verified longValue foreignKeys world request).1 =
      { world with
        tables := (asked decode verified longValue world.clock request).elim world.tables
          (Write.perform foreignKeys world.tables) } := by
  unfold dispatched asked
  cases decode request.http.requestURI with
  | none => rfl
  | some path =>
      simp only [Option.bind_some]
      by_cases writes : ∃ handler, findHandler request.http.method path = some handler ∧
          handler.writes = true
      · obtain ⟨handler, found, writing⟩ := writes
        rw [write_guarded found writing, denied_admin]
        cases (presented verified request.authorization).bind (parse world.clock) with
        | none => rfl
        | some claims =>
            by_cases admin : claims.role = "ADMIN"
            · simp only [admin, if_true, Option.filter_some, decide_true, Option.bind_some]
              rw [handle_tables]
              cases ((findHandler request.http.method path).bind (call longValue request)).bind
                Call.operation with
              | none => rfl
              | some operation => rfl
            · simp [admin, Option.filter_some]
      -- Nothing else leads to an operation, whatever the rules say of it.
      · have idle : ((findHandler request.http.method path).bind (call longValue request)).bind
            Call.operation = none := by
          cases found : findHandler request.http.method path with
          | none => rfl
          | some handler =>
              have reads : ¬ (call longValue request handler).isSome = true := by
                rw [call_writes]
                exact fun writing => writes ⟨handler, found, writing⟩
              rw [Option.bind_some, Option.not_isSome_iff_eq_none.mp reads]
              rfl
        simp only [idle, Option.map_none, Option.bind_fun_none, Option.elim_none]
        split
        · rfl
        · rw [handle_tables, idle]
          rfl

def Logged (decode : String → Option String) (matching : String → String → Bool)
    (expirationMs : Int) (world : World K) (request : ApiRequest K) (response : LoginResponse) :
    Prop :=
  request.http.method = "POST" ∧ decode request.http.requestURI = some LOGIN_PATH ∧
    ∃ payload, request.http.payload = some payload ∧
      login matching world.tables.db expirationMs world.clock payload = .ok response

variable (verified longValue matching foreignKeys expirationMs world request) in
theorem serve_spec (plain : decode LOGIN_PATH = some LOGIN_PATH) :
    let after := (serve decode verified longValue matching foreignKeys expirationMs world request).1
    after.clock = world.clock ∧
      after.tables = (asked decode verified longValue world.clock request).elim world.tables
        (Write.perform foreignKeys world.tables) ∧
      (after.issued = world.issued ∨ ∃ response, Logged decode matching expirationMs world request
        response ∧ after.issued = world.issued ++ [response.accessToken]) := by
  unfold serve
  have passes := passed_cases plain world.windows world.clock request.http
  revert passes
  generalize LoginRateLimit.handle decode world.windows world.clock request.http = filtered
  obtain ⟨windows, passed⟩ := filtered
  rintro (⟨rfl, _⟩ | ⟨post, mapped, stopped, paid⟩)
  · simp only
    rw [dispatched_tables]
    exact ⟨rfl, rfl, Or.inl rfl⟩
  · rw [asked_login post mapped]
    cases passed with
    | tooManyRequests => exact ⟨rfl, rfl, Or.inl rfl⟩
    | internalError => exact ⟨rfl, rfl, Or.inl rfl⟩
    | badRequest => exact ⟨rfl, rfl, Or.inl rfl⟩
    | elsewhere => exact absurd rfl stopped
    | login payload =>
        simp only
        cases logged : login matching world.tables.db expirationMs world.clock payload with
        | error problem => exact ⟨rfl, rfl, Or.inl rfl⟩
        | ok response =>
            exact ⟨rfl, rfl, Or.inr ⟨response, ⟨post, mapped, payload, paid payload rfl, logged⟩,
              rfl⟩⟩

omit [Field K] [LinearOrder K] [ToString K] in
theorem login_shown {db : Database K} {now : Int} {payload : LoginRequest}
    {response : LoginResponse}
    (logged : login matching db expirationMs now payload = .ok response) :
    ∃ user, findByUsername db (trim payload.username) = some user ∧ user.enabled = true ∧
      matching payload.password user.passwordHash = true ∧
      response.accessToken = issueToken db expirationMs now user := by
  unfold login at logged
  split at logged
  · cases logged
  · rename_i user found
    split at logged
    · cases logged
    · rename_i taken
      cases logged
      simp only [Bool.or_eq_true, Bool.not_eq_true', not_or, Bool.not_eq_false] at taken
      exact ⟨user, found, taken.1, taken.2, rfl⟩

theorem perform_users (tables : Tables K) (now : Int) (operation : Operation K) :
    (Services.perform foreignKeys tables now operation).db.users = tables.db.users := by
  unfold Services.perform
  cases done : attempt foreignKeys tables now operation with
  | error problem => rfl
  | ok after =>
      simp only
      cases operation with
      | createRoute request =>
          obtain ⟨_, _, _, rfl⟩ := create_route_ok done
          rfl
      | updateRoute id request =>
          obtain ⟨_, _, _, _, _, _, _, _, rfl⟩ := update_route_ok done
          rfl
      | deleteRoute id =>
          obtain ⟨_, _, _, rfl⟩ := delete_route_ok done
          rfl
      | createBus request =>
          obtain ⟨_, _, _, _, rfl⟩ := create_bus_ok done
          rfl
      | updateBus id request =>
          obtain ⟨_, _, _, _, _, _, rfl⟩ := update_bus_ok done
          rfl
      | deleteBus id =>
          obtain ⟨_, _, rfl⟩ := delete_bus_ok done
          rfl
      | createAlert request =>
          obtain ⟨_, _, _, same, _⟩ := write_alert_ok (Or.inl rfl) done
          rw [same]
      | updateAlert id request =>
          obtain ⟨_, _, _, same, _⟩ := write_alert_ok (Or.inr ⟨id, rfl⟩) done
          rw [same]
      | deleteAlert id =>
          obtain ⟨_, rfl⟩ := AlertService.delete_ok done
          rfl

end Requests

/-! ## Runs -/

section Runs
variable {K : Type} {decode : String → Option String} {verified : String → Option Claims}
  {longValue : String → Option Int} (matching : String → String → Bool)
  (expirationMs : Int) (db : Database K) (logins : List (Int × LoginRequest))

/-- The token goes back to a login with the password of an account that is enabled. -/
def Backed (now : Int) (token : Claims) : Prop :=
  ∃ user since request, findByUsername db token.subject = some user ∧ user.enabled = true ∧
    token.role = roleName user.role ∧ (since, request) ∈ logins ∧
    trim request.username = user.username ∧ matching request.password user.passwordHash = true ∧
    since ≤ now ∧ token.expiration = wholeSeconds (since + expirationMs)

variable {matching expirationMs db logins}

theorem backed_later {now later : Int} {more : List (Int × LoginRequest)} {token : Claims}
    (backed : Backed matching expirationMs db logins now token) (passes : now ≤ later) :
    Backed matching expirationMs db (logins ++ more) later token := by
  obtain ⟨user, since, request, known, enabled, role, logged, named, shown, before, expires⟩ :=
    backed
  exact ⟨user, since, request, known, enabled, role, List.mem_append_left _ logged, named, shown,
    before.trans passes, expires⟩

theorem logged_backed {world : World K} {request : ApiRequest K} {response : LoginResponse}
    (logged : Logged decode matching expirationMs world request response)
    (users : world.tables.db.users = db.users) :
    Backed matching expirationMs db (logins ++ loginsFrom decode world.clock [.serve request])
      world.clock response.accessToken := by
  obtain ⟨post, mapped, payload, body, logged⟩ := logged
  obtain ⟨user, found, enabled, shown, token⟩ := login_shown logged
  have named : user.username = trim payload.username := by
    simpa using List.find?_some found
  have known : findByUsername db user.username = some user := by
    rw [named, ← found]
    simp only [findByUsername, users]
  rw [token]
  refine ⟨user, world.clock, payload, known, enabled, rfl, ?_, named.symm, shown, le_refl _, rfl⟩
  rw [loginsFrom, if_pos ⟨post, mapped⟩, body]
  exact List.mem_append_right _ (List.mem_append_left _ (List.mem_singleton.mpr rfl))

def Administered (matching : String → String → Bool) (expirationMs : Int) (db : Database K)
    (logins : List (Int × LoginRequest)) (write : Write K) : Prop :=
  ∃ user since request, findByUsername db write.claims.subject = some user ∧
    user.enabled = true ∧ user.role = .ADMIN ∧ (since, request) ∈ logins ∧
    trim request.username = user.username ∧ matching request.password user.passwordHash = true ∧
    since ≤ write.time ∧ write.time ≤ since + expirationMs

theorem asked_administered {now : Int} {request : ApiRequest K} {write : Write K}
    (asks : asked decode verified longValue now request = some write)
    (backed : ∀ token, presented verified request.authorization = some token →
      Backed matching expirationMs db logins now token) :
    Administered matching expirationMs db logins write := by
  obtain ⟨path, _, asks⟩ := Option.bind_eq_some_iff.mp asks
  obtain ⟨claims, live, asks⟩ := Option.bind_eq_some_iff.mp asks
  obtain ⟨operation, _, rfl⟩ := Option.map_eq_some_iff.mp asks
  obtain ⟨parsed, admin⟩ := Option.filter_eq_some_iff.mp live
  obtain ⟨token, shown, unexpired⟩ := Option.bind_eq_some_iff.mp parsed
  unfold parse at unexpired
  split at unexpired
  · cases unexpired
  · rename_i alive
    have same : token = claims := Option.some.inj unexpired
    subst same
    obtain ⟨user, since, login, known, enabled, role, logged, named, password, before, expires⟩ :=
      backed token shown
    refine ⟨user, since, login, known, enabled, ?_, logged, named, password, before, ?_⟩
    · cases given : user.role with
      | ADMIN => rfl
      | DRIVER =>
          rw [given, of_decide_eq_true admin] at role
          exact absurd role (by decide)
    · simp only [wholeSeconds] at expires
      simp only
      omega

variable [Field K] [LinearOrder K] [ToString K] {foreignKeys : Bool}

section Steps
variable {world after : World K} {action : Action K}

omit [Field K] [LinearOrder K] [ToString K] in
theorem writes_cons (clock : Int) (action : Action K) (rest : List (Action K)) :
    writesFrom decode verified longValue clock (action :: rest) =
      writesFrom decode verified longValue clock [action] ++
        writesFrom decode verified longValue (action.later clock) rest := by
  cases action <;> simp [writesFrom, Action.later]

omit [Field K] [LinearOrder K] [ToString K] in
theorem logins_cons (clock : Int) (action : Action K) (rest : List (Action K)) :
    loginsFrom decode clock (action :: rest) =
      loginsFrom decode clock [action] ++ loginsFrom decode (action.later clock) rest := by
  cases action with
  | wait millis => rfl
  | serve request =>
      simp only [loginsFrom, Action.later]
      split
      · rw [List.append_nil]
      · rfl

theorem step_serve {request : ApiRequest K}
    (taken : step decode verified longValue matching foreignKeys expirationMs world
      (.serve request) = some after) :
    (∀ token, presented verified request.authorization = some token → token ∈ world.issued) ∧
      after =
        (serve decode verified longValue matching foreignKeys expirationMs world request).1 := by
  simp only [step] at taken
  split at taken
  · rename_i signed
    cases taken
    exact ⟨fun token shown => by simpa [shown] using signed, rfl⟩
  · cases taken

theorem step_tables (plain : decode LOGIN_PATH = some LOGIN_PATH)
    (taken : step decode verified longValue matching foreignKeys expirationMs world action =
      some after) :
    after.clock = action.later world.clock ∧
      after.tables = (writesFrom decode verified longValue world.clock [action]).foldl
        (Write.perform foreignKeys) world.tables := by
  cases action with
  | wait millis =>
      cases taken
      exact ⟨rfl, rfl⟩
  | serve request =>
      obtain ⟨_, rfl⟩ := step_serve taken
      obtain ⟨clock, tables, _⟩ :=
        serve_spec verified longValue matching foreignKeys expirationMs world request plain
      refine ⟨clock, tables.trans ?_⟩
      rw [writesFrom, writesFrom, List.append_nil]
      cases asked decode verified longValue world.clock request with
      | none => rfl
      | some write => rfl

theorem step_users
    (taken : step decode verified longValue matching foreignKeys expirationMs world action =
      some after) (plain : decode LOGIN_PATH = some LOGIN_PATH) :
    after.tables.db.users = world.tables.db.users := by
  rw [(step_tables plain taken).2]
  generalize writesFrom decode verified longValue world.clock [action] = writes
  generalize world.tables = tables
  induction writes generalizing tables with
  | nil => rfl
  | cons write rest ih => rw [List.foldl_cons, ih, Write.perform, perform_users]

theorem step_backed (plain : decode LOGIN_PATH = some LOGIN_PATH)
    (taken : step decode verified longValue matching foreignKeys expirationMs world action =
      some after)
    (users : world.tables.db.users = db.users)
    (backed : ∀ token ∈ world.issued, Backed matching expirationMs db logins world.clock token) :
    ∀ token ∈ after.issued, Backed matching expirationMs db
      (logins ++ loginsFrom decode world.clock [action]) after.clock token := by
  cases action with
  | wait millis =>
      cases taken
      exact fun token issued => backed_later (backed token issued) (by simp)
  | serve request =>
      obtain ⟨_, rfl⟩ := step_serve taken
      obtain ⟨clock, _, kept | ⟨response, logged, added⟩⟩ :=
        serve_spec verified longValue matching foreignKeys expirationMs world request plain
      · rw [kept, clock]
        exact fun token issued => backed_later (backed token issued) (le_refl _)
      · rw [added, clock]
        intro token issued
        rcases List.mem_append.mp issued with old | new
        · exact backed_later (backed token old) (le_refl _)
        · rw [List.mem_singleton.mp new]
          exact logged_backed logged users

theorem step_administered
    (taken : step decode verified longValue matching foreignKeys expirationMs world action =
      some after)
    (backed : ∀ token ∈ world.issued, Backed matching expirationMs db logins world.clock token) :
    ∀ write ∈ writesFrom decode verified longValue world.clock [action],
      Administered matching expirationMs db logins write := by
  cases action with
  | wait millis => simp [writesFrom]
  | serve request =>
      obtain ⟨signed, _⟩ := step_serve taken
      intro write member
      rw [writesFrom, writesFrom, List.append_nil, Option.mem_toList] at member
      exact asked_administered member fun token shown => backed token (signed token shown)

end Steps

omit [Field K] [LinearOrder K] [ToString K] in
theorem administered_more {more : List (Int × LoginRequest)} {write : Write K}
    (administered : Administered matching expirationMs db logins write) :
    Administered matching expirationMs db (logins ++ more) write := by
  obtain ⟨user, since, request, known, enabled, role, logged, rest⟩ := administered
  exact ⟨user, since, request, known, enabled, role, List.mem_append_left _ logged, rest⟩

theorem run_administered (plain : decode LOGIN_PATH = some LOGIN_PATH) {before after : World K}
    {actions : List (Action K)}
    (run : Run (fires (step decode verified longValue matching foreignKeys expirationMs)) before
      actions after)
    (users : before.tables.db.users = db.users)
    (backed : ∀ token ∈ before.issued,
      Backed matching expirationMs db logins before.clock token) :
    after.tables = (writesFrom decode verified longValue before.clock actions).foldl
        (Write.perform foreignKeys) before.tables ∧
      ∀ write ∈ writesFrom decode verified longValue before.clock actions,
        Administered matching expirationMs db (logins ++ loginsFrom decode before.clock actions)
          write := by
  induction run generalizing logins with
  | refl world => exact ⟨rfl, by simp [writesFrom]⟩
  | next head tail ih =>
      obtain ⟨clock, tables⟩ := step_tables plain head
      obtain ⟨done, administered⟩ := ih ((step_users head plain).trans users)
        (step_backed plain head users backed)
      rw [writes_cons, logins_cons, List.foldl_append, ← clock, ← tables, ← List.append_assoc]
      refine ⟨done, ?_⟩
      intro write member
      rcases List.mem_append.mp member with now | later
      · rw [List.append_assoc]
        exact administered_more (step_administered head backed write now)
      · exact administered write later

/-- After any run the tables are what the operations of administrators have made of them:
whatever else was requested has changed nothing, and behind each operation is a login
with the password of an enabled administrator, no longer ago than a token lives. -/
theorem tables_administered (plain : decode LOGIN_PATH = some LOGIN_PATH) {tables : Tables K}
    {clock : Int} {actions : List (Action K)} {world : World K}
    (run : Run (fires (step decode verified longValue matching foreignKeys expirationMs))
      (World.start tables clock) actions world) :
    world.tables = (writesFrom decode verified longValue clock actions).foldl
        (Write.perform foreignKeys) tables ∧
      ∀ write ∈ writesFrom decode verified longValue clock actions,
        Administered matching expirationMs tables.db (loginsFrom decode clock actions) write := by
  have started : ∀ token ∈ (World.start tables clock).issued,
      Backed matching expirationMs tables.db [] clock token := by
    intro token issued
    cases issued
  exact run_administered plain run rfl started

end Runs

/-! ## A notice that is taken under a token only -/

def ravi : UserAccount := ⟨1, "ravi", "secret", "Ravi", .ADMIN, none, true⟩

def staffed : Tables ℚ := Tables.of { Database.empty with users := AList.insert 1 ravi ∅ }

def posted (path : String) (payload : Option LoginRequest) (authorization : Option String)
    (alert : Option AlertRequest) : ApiRequest ℚ :=
  ⟨⟨"POST", "10.0.0.1", path, none, payload⟩, authorization, none, none, alert, .unreadable⟩

def worksNotice : AlertRequest := ⟨"Works", "Stops moved", .INFO, none, none, none⟩

def plainMatch (password hash : String) : Bool := password = hash

def oneSigned (text : String) : Option Claims :=
  if text = "signed" then some (issueToken staffed.db 1000 0 ravi) else none

theorem notice_administered :
    ∃ world : World ℚ, world.tables.nextAlertId = 2 ∧
      let actions : List (Action ℚ) :=
        [.serve (posted LOGIN_PATH (some ⟨" ravi", "secret"⟩) none none),
          .serve (posted "/api/v1/alerts" none none (some worksNotice)),
          .wait 400,
          .serve (posted "/api/v1/alerts" none (some "Bearer signed") (some worksNotice))]
      world.tables = (writesFrom some oneSigned String.toInt? 0 actions).foldl
          (Write.perform true) staffed ∧
        ∀ write ∈ writesFrom some oneSigned String.toInt? 0 actions,
          Administered plainMatch 1000 staffed.db (loginsFrom some 0 actions) write := by
  have run : ∃ world : World ℚ, world.tables.nextAlertId = 2 ∧
      Run (fires (step some oneSigned String.toInt? plainMatch true 1000)) (World.start staffed 0)
        [.serve (posted LOGIN_PATH (some ⟨" ravi", "secret"⟩) none none),
          .serve (posted "/api/v1/alerts" none none (some worksNotice)),
          .wait 400,
          .serve (posted "/api/v1/alerts" none (some "Bearer signed") (some worksNotice))]
        world := by
    refine ⟨_, ?_, Run.next rfl (Run.next rfl (Run.next rfl (Run.next rfl (Run.refl _))))⟩
    rfl
  obtain ⟨world, stored, taken⟩ := run
  exact ⟨world, stored, tables_administered rfl taken⟩

end CityBus.AccessControl
