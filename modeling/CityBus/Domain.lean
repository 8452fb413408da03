import Mathlib.Data.Fin.Basic

/-!
The entities of `domain/` and the exceptions. Coordinates are over an arbitrary type; the creation
times of routes and buses are left out, nothing computes with them.
-/

namespace CityBus

structure GeoPoint (K : Type) where
  lat : K
  lng : K
  deriving DecidableEq

/-- A stop that is not saved yet has no `id`. -/
structure Stop (K : Type) where
  id : Option Nat
  name : String
  lat : K
  lng : K
  deriving DecidableEq

/-- `java.time.LocalTime` at the precision of "HH:mm". -/
structure LocalTime where
  hour : Fin 24
  minute : Fin 60
  deriving DecidableEq

def LocalTime.of (hour minute : Nat) : LocalTime := ⟨Fin.ofNat 24 hour, Fin.ofNat 60 minute⟩

/-- `RouteRequest` admits no frequency below one minute, so a stored route has none. -/
structure Route (K : Type) where
  id : Nat
  routeNumber : Nat
  name : String
  color : String
  firstBus : LocalTime
  lastBus : LocalTime
  frequencyMinutes : Nat
  active : Bool
  path : List (GeoPoint K)
  stops : List (Stop K)
  version : Nat
  updatedAt : Int
  frequency_pos : 0 < frequencyMinutes := by decide
  deriving DecidableEq

/-- `new Route()`; the identity column and the version are assigned by the store. -/
def newRoute {K : Type} : Route K where
  id := 0
  routeNumber := 0
  name := ""
  color := ""
  firstBus := LocalTime.of 0 0
  lastBus := LocalTime.of 0 0
  frequencyMinutes := 1
  active := true
  path := []
  stops := []
  version := 0
  updatedAt := 0

/-- `code` names the vehicle on the wire; `routeId` is the foreign key. -/
structure Bus where
  id : Nat
  code : String
  routeId : Option Nat
  active : Bool
  updatedAt : Int
  deriving DecidableEq

inductive UserRole where
  | ADMIN
  | DRIVER
  deriving DecidableEq

structure UserAccount where
  id : Nat
  username : String
  passwordHash : String
  displayName : String
  role : UserRole
  busId : Option Nat
  enabled : Bool
  deriving DecidableEq

inductive Severity where
  | INFO
  | WARNING
  | CRITICAL
  deriving DecidableEq

structure ServiceAlert where
  id : Nat
  title : String
  message : String
  severity : Severity
  routeId : Option Nat
  active : Bool
  createdAt : Int
  expiresAt : Option Int
  deriving DecidableEq

/-- The exceptions that leave a service, those of Spring included. -/
inductive ServiceException where
  | BadRequestException (message : String)
  | ConflictException (message : String)
  | ResourceNotFoundException (message : String)
  | BadCredentialsException (message : String)
  | OptimisticLockingFailureException
  | DataIntegrityViolationException
  deriving DecidableEq

end CityBus
