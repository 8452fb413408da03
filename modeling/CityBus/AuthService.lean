import CityBus.Domain
import CityBus.RouteService
import CityBus.Store

/-!
`AuthService` and the tokens of `JwtService`. A token stands for its claims: only
the server can sign one, so a token that parses is one that was issued. The
password encoder is a parameter.
-/

namespace CityBus.AuthService

open KeyedMaps Store

def INVALID_CREDENTIALS : String := "Invalid username or password"

/-- The claims of a signed token; times in milliseconds. -/
structure Claims where
  subject : String
  role : String
  displayName : String
  busCode : Option String
  issuedAt : Int
  expiration : Int
  deriving DecidableEq

structure LoginRequest where
  username : String
  password : String

structure LoginResponse where
  accessToken : Claims
  tokenType : String
  expiresIn : Int
  username : String
  displayName : String
  role : String
  busCode : Option String
  deriving DecidableEq

def roleName : UserRole → String
  | .ADMIN => "ADMIN"
  | .DRIVER => "DRIVER"

variable {K : Type}

def assignedCode (db : Database K) (user : UserAccount) : Option String :=
  (user.busId.bind db.buses.lookup).map (·.code)

/-- A token keeps its times in whole seconds. -/
def wholeSeconds (millis : Int) : Int := millis / 1000 * 1000

def issueToken (db : Database K) (expirationMs now : Int) (user : UserAccount) : Claims where
  subject := user.username
  role := roleName user.role
  displayName := user.displayName
  busCode := assignedCode db user
  issuedAt := wholeSeconds now
  expiration := wholeSeconds (now + expirationMs)

def parse (now : Int) (token : Claims) : Option Claims :=
  if token.expiration < now then none else some token

/-- `matches` is `passwordEncoder.matches`. -/
def login (matching : String → String → Bool) (db : Database K) (expirationMs now : Int)
    (request : LoginRequest) : Except ServiceException LoginResponse :=
  match findByUsername db (RouteService.trim request.username) with
  | none => .error (.BadCredentialsException INVALID_CREDENTIALS)
  -- A disabled account and a wrong password are answered alike.
  | some user =>
      if !user.enabled || !matching request.password user.passwordHash then
        .error (.BadCredentialsException INVALID_CREDENTIALS)
      else .ok
        { accessToken := issueToken db expirationMs now user
          tokenType := "Bearer"
          expiresIn := expirationMs / 1000
          username := user.username
          displayName := user.displayName
          role := roleName user.role
          busCode := assignedCode db user }

theorem login_spec {matching : String → String → Bool} {db : Database K} {expirationMs now : Int}
    {request : LoginRequest} {response : LoginResponse}
    (logged : login matching db expirationMs now request = .ok response) :
    ∃ user, findByUsername db user.username = some user ∧
      response.accessToken = issueToken db expirationMs now user := by
  unfold login at logged
  split at logged
  · cases logged
  · rename_i user found
    have named : user.username = RouteService.trim request.username := by
      simpa using List.find?_some found
    split at logged
    · cases logged
    · cases logged
      exact ⟨user, by rw [named, found], rfl⟩

end CityBus.AuthService
