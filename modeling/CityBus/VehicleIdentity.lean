import CityBus.GuardedRuns
import CityBus.TrackingHandler

/-!
Which vehicle a driver's token lets it broadcast for. Tokens last for hours and
carry the code of a bus; the rows of the fleet are renamed in the meantime. Only
issued tokens are presented, and the clock does not go back.
-/

namespace CityBus.VehicleIdentity

open AuthService BusService GuardedRuns KeyedMaps LiveTracking Store TrackingHandler

variable {K : Type}

structure World (K : Type) where
  db : Database K
  tracking : Tracking K
  issued : List Claims
  clock : Int

inductive Action where
  | wait (millis : Nat)
  | login (request : LoginRequest)
  | create (request : BusRequest)
  | update (id : Nat) (request : BusRequest)
  | delete (id : Nat)
  | driverRegister (sessionId : String) (token : Claims)

def World.start (db : Database K) (clock : Int) : World K := ⟨db, Tracking.empty, [], clock⟩

/-- The store after a transaction; a failed one leaves it as it was. -/
def World.settle (world : World K) (result : Except ServiceException (Database K)) : World K :=
  match result with
  | .error _ => world
  | .ok db => { world with db := db }

def register (world : World K) (sessionId : String) (token : Claims) : Tracking K × Sends K :=
  handleDriverRegister world.db world.tracking world.clock sessionId (some token)

section Steps
variable (matching : String → String → Bool) (expirationMs : Int)

def step (world : World K) : Action → Option (World K)
  | .wait millis => some { world with clock := world.clock + millis }
  | .login request =>
      match login matching world.db expirationMs world.clock request with
      | .error _ => some world
      | .ok response => some { world with issued := world.issued ++ [response.accessToken] }
  | .create request => some (world.settle (BusService.create world.db world.clock request))
  | .update id request => some (world.settle (BusService.update world.db world.clock id request))
  | .delete id => some (world.settle (BusService.delete world.db id))
  | .driverRegister sessionId token =>
      if token ∈ world.issued then
        some { world with tracking := (register world sessionId token).1 }
      else none

end Steps

/-- The handler takes the token; `driver-registered` is its answer. -/
def Accepted (world : World K) (sessionId : String) (token : Claims) : Prop :=
  ∃ busId, (sessionId, Outgoing.driverRegistered token.subject busId) ∈
    (register world sessionId token).2

/-- The session broadcasts for the row that is assigned to the token's account. -/
def DrivesOwn (world : World K) (sessionId : String) (token : Claims) : Prop :=
  ∃ user code, findByUsername world.db token.subject = some user ∧
    assignedCode world.db user = some code ∧
    driverBus (register world sessionId token).1 sessionId = some code

def NoImpersonation (world : World K) : Prop :=
  ∀ token ∈ world.issued, ∀ sessionId, Accepted world sessionId token →
    DrivesOwn world sessionId token

def usable (world : World K) (token : Claims) : Prop :=
  token ∈ world.issued ∧ ¬ token.expiration < world.clock ∧ token.role = "DRIVER" ∧
    token.busCode.isSome

/-- A bus is renamed only while no usable token is of an account assigned to it. -/
def renamesFree (world : World K) : Action → Prop
  | .update id request => ∀ db, BusService.update world.db world.clock id request = .ok db →
      ∀ bus, world.db.buses.lookup id = some bus → request.code ≠ bus.code →
        ∀ token, usable world token → ∀ user, findByUsername world.db token.subject = some user →
          user.busId ≠ some id
  | _ => True

/-- Identity columns are handed out in order. -/
def IdsFresh (db : Database K) : Prop :=
  ∀ id bus, db.buses.lookup id = some bus → id < db.nextBusId

/-! ## Registration -/

section Registration
variable {world : World K} {sessionId : String} {token : Claims}

theorem register_cases (world : World K) (sessionId : String) (token : Claims) :
    (∃ code, token.busCode = some code ∧ ¬ token.expiration < world.clock ∧
        token.role = "DRIVER" ∧ Accepted world sessionId token ∧
        driverBus (register world sessionId token).1 sessionId = some code) ∨
      (¬ (¬ token.expiration < world.clock ∧ token.role = "DRIVER" ∧ token.busCode.isSome) ∧
        ¬ Accepted world sessionId token) := by
  simp only [Accepted, register, handleDriverRegister, Option.bind_some, parse]
  by_cases expired : token.expiration < world.clock
  · exact Or.inr ⟨by simp [expired], by simp [expired]⟩
  · by_cases driver : token.role = "DRIVER"
    · cases bus : token.busCode with
      | none => exact Or.inr ⟨by simp, by simp [expired, driver, bus, Option.filter_some]⟩
      | some code =>
          refine Or.inl ⟨code, rfl, expired, driver, ⟨code, ?_⟩, ?_⟩
          · simp [expired, driver, bus, Option.filter_some]
          · simp [expired, driver, bus, Option.filter_some, registerDriver, newSession,
              ClientRole.busCode]
    · exact Or.inr ⟨by simp [driver], by simp [expired, driver, Option.filter_some]⟩

theorem accepted_iff : Accepted world sessionId token ↔
    ¬ token.expiration < world.clock ∧ token.role = "DRIVER" ∧ token.busCode.isSome := by
  rcases register_cases world sessionId token with
    ⟨code, bus, valid, driver, taken, _⟩ | ⟨unusable, refused⟩
  · exact iff_of_true taken ⟨valid, driver, by rw [bus]; rfl⟩
  · exact iff_of_false refused unusable

def Current (db : Database K) (token : Claims) : Prop :=
  ∃ user code, findByUsername db token.subject = some user ∧
    assignedCode db user = some code ∧ token.busCode = some code

theorem drives_own_iff (taken : Accepted world sessionId token) :
    DrivesOwn world sessionId token ↔ Current world.db token := by
  rcases register_cases world sessionId token with
    ⟨code, bus, _, _, _, drives⟩ | ⟨_, refused⟩
  · simp only [DrivesOwn, Current, bus, drives]
  · exact absurd taken refused

theorem no_impersonation_iff :
    NoImpersonation world ↔ ∀ token, usable world token → Current world.db token := by
  constructor
  · intro safe token able
    have taken : Accepted world "" token := accepted_iff.mpr able.2
    exact (drives_own_iff taken).mp (safe token able.1 "" taken)
  · intro current token issued sessionId taken
    exact (drives_own_iff taken).mpr (current token ⟨issued, accepted_iff.mp taken⟩)

end Registration

/-! ## Mutations of the fleet -/

section Fleet
variable {db after : Database K}

theorem assigned_put_bus (db : Database K) (bus : Bus) (user : UserAccount) :
    assignedCode (db.putBus bus) user =
      if user.busId = some bus.id then some bus.code else assignedCode db user := by
  cases assigned : user.busId with
  | none => simp [assignedCode, assigned]
  | some id =>
      by_cases same : id = bus.id
      · subst same
        simp [assignedCode, assigned, Database.putBus]
      · simp [assignedCode, assigned, Database.putBus, lookup_insert_eq, same]

theorem assigned_remove_bus (db : Database K) (gone : Nat) (user : UserAccount)
    (kept : user.busId ≠ some gone) :
    assignedCode (db.removeBus gone) user = assignedCode db user := by
  cases assigned : user.busId with
  | none => simp [assignedCode, assigned]
  | some id =>
      have other : id ≠ gone := by
        rintro rfl
        exact kept assigned
      simp [assignedCode, assigned, Database.removeBus, lookup_erase_eq, other]

theorem found_unassigned {id : Nat} {username : String} {user : UserAccount}
    (unassigned : existsByBusId db id = false) (found : findByUsername db username = some user) :
    user.busId ≠ some id := by
  intro assigned
  have member := List.mem_of_find?_eq_some found
  have nobody := List.any_eq_false.mp unassigned user member
  simp [assigned] at nobody

end Fleet

/-! ## Runs -/

section Runs
variable {matching : String → String → Bool} {expirationMs : Int} {world after : World K}
  {action : Action}

theorem current_kept {db next : Database K} {token : Claims} (current : Current db token)
    (users : next.users = db.users)
    (codes : ∀ user code, findByUsername db token.subject = some user →
      assignedCode db user = some code → assignedCode next user = some code) :
    Current next token := by
  obtain ⟨user, code, found, assigned, named⟩ := current
  refine ⟨user, code, ?_, codes user code found assigned, named⟩
  simpa only [findByUsername, users] using found

theorem assigned_row {db : Database K} {user : UserAccount} {code : String}
    (assigned : assignedCode db user = some code) :
    ∃ id bus, user.busId = some id ∧ db.buses.lookup id = some bus ∧ bus.code = code := by
  obtain ⟨bus, found, same⟩ := Option.map_eq_some_iff.mp assigned
  obtain ⟨id, chosen, row⟩ := Option.bind_eq_some_iff.mp found
  exact ⟨id, bus, chosen, row, same⟩

theorem put_bus_fresh {db : Database K} (fresh : IdsFresh db) {bus : Bus} {id : Nat} {other : Bus}
    (found : (db.putBus bus).buses.lookup id = some other) : id = bus.id ∨ id < db.nextBusId := by
  simp only [Database.putBus, lookup_insert_eq] at found
  split at found
  · rename_i same
    exact Or.inl same
  · exact Or.inr (fresh id other found)

theorem step_fresh (fresh : IdsFresh world.db)
    (taken : step matching expirationMs world action = some after) : IdsFresh after.db := by
  cases action with
  | wait millis =>
      cases taken
      exact fresh
  | login request =>
      simp only [step] at taken
      split at taken
      · cases taken
        exact fresh
      · cases taken
        exact fresh
  | create request =>
      cases taken
      cases done : BusService.create world.db world.clock request with
      | error problem => exact fresh
      | ok db =>
          obtain ⟨bus, id, _, _, _, same⟩ := BusService.create_ok done
          subst same
          intro key other found
          rcases put_bus_fresh fresh found with same | before
          · rw [same, id]
            exact Nat.lt_succ_self _
          · exact Nat.lt_succ_of_lt before
  | update id request =>
      cases taken
      cases done : BusService.update world.db world.clock id request with
      | error problem => exact fresh
      | ok db =>
          obtain ⟨old, bus, stored, same, _, _, _, next⟩ := BusService.update_ok done
          subst next
          intro key other found
          rcases put_bus_fresh fresh found with here | before
          · rw [here, same]
            exact fresh id old stored
          · exact before
  | delete id =>
      cases taken
      cases done : BusService.delete world.db id with
      | error problem => exact fresh
      | ok db =>
          obtain ⟨_, _, next⟩ := BusService.delete_ok done
          subst next
          intro key other found
          simp only [World.settle, Database.removeBus, lookup_erase_eq] at found
          split at found
          · exact absurd found.symm (Option.some_ne_none other)
          · exact fresh key other found
  | driverRegister sessionId token =>
      simp only [step] at taken
      split at taken
      · cases taken
        exact fresh
      · exact absurd taken.symm (Option.some_ne_none after)

/-- A rename takes a usable token's code out of date exactly if it is of its account's bus. -/
theorem rename_current (safe : ∀ token, usable world token → Current world.db token) {id : Nat}
    {request : BusRequest} {db : Database K}
    (done : BusService.update world.db world.clock id request = .ok db) :
    (∀ token, usable world token → Current db token) ↔
      renamesFree world (.update id request) := by
  obtain ⟨old, bus, stored, same, renamed, _, _, next⟩ := BusService.update_ok done
  subst next
  constructor
  · intro current db' done' row found changes token able user known chosen
    obtain ⟨user', code, known', assigned, carried⟩ := safe token able
    cases known.symm.trans known'
    obtain ⟨next, code', known'', assigned', carried'⟩ := current token able
    have again : findByUsername world.db token.subject = some next := known''
    cases known.symm.trans again
    rw [assigned_put_bus, if_pos (by rw [chosen, same])] at assigned'
    have before : assignedCode world.db user = some row.code := by
      simp [assignedCode, chosen, found]
    apply changes
    have kept : code' = code := Option.some.inj (carried'.symm.trans carried)
    rw [← renamed, Option.some.inj assigned', kept]
    exact Option.some.inj (assigned.symm.trans before)
  · intro free token able
    apply current_kept (safe token able)
    · rfl
    · intro user code known assigned
      rw [assigned_put_bus]
      split
      · rename_i chosen
        rw [same] at chosen
        have before : assignedCode world.db user = some old.code := by
          simp [assignedCode, chosen, stored]
        have kept : request.code = old.code := by
          by_contra changes
          exact free _ done old stored changes token able user known chosen
        rw [renamed, kept, ← before, assigned]
      · exact assigned

theorem step_safe (fresh : IdsFresh world.db) (safe : NoImpersonation world)
    (taken : step matching expirationMs world action = some after) :
    NoImpersonation after ↔ renamesFree world action := by
  rw [no_impersonation_iff] at safe ⊢
  cases action with
  | wait millis =>
      cases taken
      refine iff_of_true (fun token able => safe token ⟨able.1, ?_, able.2.2⟩) trivial
      intro expired
      apply able.2.1
      have later : world.clock ≤ world.clock + millis := by omega
      exact lt_of_lt_of_le expired later
  | login request =>
      refine iff_of_true ?_ trivial
      simp only [step] at taken
      split at taken
      · cases taken
        exact safe
      · rename_i response logged
        cases taken
        obtain ⟨user, known, token⟩ := login_spec logged
        intro other able
        rcases List.mem_append.mp able.1 with old | new
        · exact safe other ⟨old, able.2⟩
        -- The code of a new token is read off the account's row.
        · rw [List.mem_singleton.mp new, token] at able ⊢
          obtain ⟨code, carried⟩ := Option.isSome_iff_exists.mp able.2.2.2
          exact ⟨user, code, known, carried, carried⟩
  | create request =>
      refine iff_of_true ?_ trivial
      cases taken
      cases done : BusService.create world.db world.clock request with
      | error problem => exact safe
      | ok db =>
          obtain ⟨bus, id, _, _, _, next⟩ := BusService.create_ok done
          subst next
          intro token able
          apply current_kept (safe token able)
          · rfl
          · intro user code _ assigned
            obtain ⟨row, old, chosen, stored, _⟩ := assigned_row assigned
            -- The new row has a fresh id, so it is nobody's yet.
            have different : row ≠ bus.id := by
              rw [id]
              exact ne_of_lt (fresh row old stored)
            have kept := assigned_put_bus world.db bus user
            rw [if_neg (by simpa [chosen] using different), assigned] at kept
            exact kept
  | update id request =>
      cases taken
      cases done : BusService.update world.db world.clock id request with
      | error problem =>
          refine iff_of_true safe ?_
          intro db written
          rw [done] at written
          cases written
      | ok db => exact rename_current safe done
  | delete id =>
      refine iff_of_true ?_ trivial
      cases taken
      cases done : BusService.delete world.db id with
      | error problem => exact safe
      | ok db =>
          obtain ⟨_, unassigned, next⟩ := BusService.delete_ok done
          subst next
          intro token able
          apply current_kept (safe token able)
          · rfl
          · intro user code known assigned
            have kept := assigned_remove_bus world.db id user (found_unassigned unassigned known)
            rw [assigned] at kept
            exact kept
  | driverRegister sessionId token =>
      refine iff_of_true ?_ trivial
      simp only [step] at taken
      split at taken
      · cases taken
        exact safe
      · exact absurd taken.symm (Option.some_ne_none after)

/-- While no bus is renamed under a usable token, every registration that is accepted
is for the bus assigned to the account; the next step keeps it so exactly if it renames
no such bus. -/
theorem registrations_drive_own {db : Database K} {clock : Int} (fresh : IdsFresh db)
    {actions : List Action}
    (run : Run (guarded renamesFree (fires (step matching expirationMs))) (World.start db clock)
      actions world) :
    NoImpersonation world ∧ ∀ action after, step matching expirationMs world action = some after →
      (NoImpersonation after ↔ renamesFree world action) := by
  have kept : IdsFresh world.db ∧ NoImpersonation world := by
    refine run_invariant (fun world => IdsFresh world.db ∧ NoImpersonation world)
      (fun before action next taken held => ?_) run ?_
    · exact ⟨step_fresh held.1 taken.2, (step_safe held.1 held.2 taken.2).mpr taken.1⟩
    · refine ⟨fresh, ?_⟩
      intro token issued
      cases issued
  exact ⟨kept.2, fun _ _ taken => step_safe kept.1 kept.2 taken⟩

end Runs

/-! ## A token that outlives a rename -/

def asha : UserAccount := ⟨1, "asha", "secret", "Asha", .DRIVER, some 1, true⟩

def twoBuses : Database ℚ :=
  { ((Database.empty.putRoute { newRoute with id := 1 }).putBus
      ⟨1, "bus-1", some 1, true, 0⟩).putBus ⟨2, "bus-2", some 1, true, 0⟩ with
    users := AList.insert 1 asha ∅
    nextBusId := 3 }

theorem two_buses_fresh : IdsFresh twoBuses := by
  intro id bus found
  have member : id ∈ twoBuses.buses := AList.lookup_isSome.mp (by rw [found]; rfl)
  have keys : twoBuses.buses.keys = [2, 1] := by decide
  rw [AList.mem_keys, keys] at member
  simp only [List.mem_cons, List.not_mem_nil, or_false] at member
  simp only [twoBuses]
  omega

def plainMatch (password hash : String) : Bool := password = hash

def renameTo (code : String) (valid : isBusCode code = true := by decide) : BusRequest :=
  ⟨code, 1, none, valid⟩

/-- While Asha holds a token for bus-1, bus-2 is renamed. -/
theorem own_bus_driven :
    ∃ world : World ℚ, (∃ token ∈ world.issued, Accepted world "s1" token) ∧
      (findByCode world.db "bus-7").map (·.id) = some 2 ∧
      (NoImpersonation world ∧ ∀ action after, step plainMatch 1000 world action = some after →
        (NoImpersonation after ↔ renamesFree world action)) := by
  have run : ∃ world, Run (guarded renamesFree (fires (step plainMatch 1000)))
      (World.start twoBuses 0)
      [.login ⟨"asha", "secret"⟩, .wait 10, .update 2 (renameTo "bus-7")] world ∧
      (∃ token ∈ world.issued, Accepted world "s1" token) ∧
      (findByCode world.db "bus-7").map (·.id) = some 2 := by
    refine ⟨_, Run.next ⟨trivial, rfl⟩ (Run.next ⟨trivial, rfl⟩ (Run.next ⟨?_, rfl⟩ (Run.refl _))),
      ⟨_, List.mem_singleton.mpr rfl, accepted_iff.mpr ⟨by decide, by decide, by decide⟩⟩,
      by decide +kernel⟩
    intro _ _ _ _ _ token able user named
    have mine : token.subject = "asha" := by
      rw [List.mem_singleton.mp able.1]
      rfl
    rw [mine] at named
    obtain rfl : asha = user := Option.some.inj named
    decide
  obtain ⟨world, taken, accepted, renamed⟩ := run
  exact ⟨world, accepted, renamed, registrations_drive_own two_buses_fresh taken⟩

/-- Asha logs in, then her bus-1 becomes bus-9 and bus-2 becomes bus-1. -/
theorem old_token_drives_other_bus :
    ∃ (world : World ℚ) (token : Claims),
      Run (fires (step plainMatch 1000)) (World.start twoBuses 0)
        [.login ⟨"asha", "secret"⟩, .update 1 (renameTo "bus-9"), .update 2 (renameTo "bus-1")]
        world ∧
      token ∈ world.issued ∧ Accepted world "s1" token ∧
      driverBus (register world "s1" token).1 "s1" = some "bus-1" ∧
      (findByUsername world.db token.subject).bind (assignedCode world.db) = some "bus-9" ∧
      (Store.findByCode world.db "bus-1").map (·.id) = some 2 := by
  refine ⟨_, _, Run.next rfl (Run.next rfl (Run.next rfl (Run.refl _))), List.mem_singleton.mpr rfl,
    accepted_iff.mpr ⟨by decide, by decide, by decide⟩, ?_, ?_, ?_⟩
  · decide +kernel
  · decide +kernel
  · decide +kernel

end CityBus.VehicleIdentity
