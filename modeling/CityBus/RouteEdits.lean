import CityBus.GuardedRuns
import CityBus.RouteService

/-!
Admins who read routes and save edited copies. A copy carries no version, so what
the version check protects is the span of one save: from the read of its own
transaction to its commit.
-/

namespace CityBus.RouteEdits

open GuardedRuns KeyedMaps RouteService Store

/-- The statuses of `GlobalExceptionHandler`. -/
def status : ServiceException → Nat
  | .BadRequestException _ => 400
  | .BadCredentialsException _ => 401
  | .ResourceNotFoundException _ => 404
  | .ConflictException _ | .OptimisticLockingFailureException
  | .DataIntegrityViolationException => 409

variable {K : Type}

/-- What a client has on its screen; the number of commits tells when it was read. -/
structure Copy (K : Type) where
  response : RouteResponse K
  readAt : Nat

/-- A PUT between the reads of its transaction and its commit. -/
structure Saving (K : Type) where
  id : Nat
  request : RouteRequest K
  db : Database K
  loadedAt : Nat

structure Client (K : Type) where
  copies : Nat → Option (Copy K)
  saving : Option (Saving K)

/-- `commits` lists who saved which route, in the order of the commits. -/
structure World (K : Type) where
  db : Database K
  clients : Nat → Client K
  commits : List (Nat × Nat)

inductive Action (K : Type) where
  | get (client id : Nat)
  | list (client : Nat)
  | load (client id : Nat) (request : RouteRequest K)
  | save (client : Nat) (now : Int)

def World.start (db : Database K) : World K := ⟨db, fun _ => ⟨fun _ => none, none⟩, []⟩

def World.setClient (world : World K) (client : Nat) (next : Client K) : World K :=
  { world with clients := Function.update world.clients client next }

def copyOf (world : World K) (id : Nat) : Option (Copy K) :=
  (world.db.routes.lookup id).map fun route => ⟨toResponse world.db route, world.commits.length⟩

section Steps
variable [Field K] [LinearOrder K] [ToString K]

def outcome (saving : Saving K) (db : Database K) (now : Int) :
    Except ServiceException (Database K) :=
  match RouteService.update saving.db saving.id saving.request with
  | .error problem => .error problem
  | .ok write => commit db now write

def step (world : World K) : Action K → Option (World K)
  | .get client id =>
      let state := world.clients client
      let copies := Function.update state.copies id ((copyOf world id).or (state.copies id))
      some (world.setClient client { state with copies := copies })
  | .list client =>
      let state := world.clients client
      let copies := fun id => (copyOf world id).or (state.copies id)
      some (world.setClient client { state with copies := copies })
  | .load client id request =>
      let state := world.clients client
      -- The transaction reads the store anew; the copy has no part in it.
      if state.saving.isSome then none
      else
        let saving : Saving K := ⟨id, request, world.db, world.commits.length⟩
        some (world.setClient client { state with saving := some saving })
  | .save client now =>
      let state := world.clients client
      state.saving.map fun saving =>
        let done := world.setClient client { state with saving := none }
        match outcome saving world.db now with
        | .error _ => done
        | .ok db => { done with db := db, commits := world.commits ++ [(client, saving.id)] }

end Steps

/-! ## What a save is checked against -/

/-- Another client's save of the route was committed since this client read it. -/
def Stale (world : World K) (client : Nat) (saving : Saving K) : Prop :=
  ∃ copy, (world.clients client).copies saving.id = some copy ∧
    ∃ entry ∈ world.commits.drop copy.readAt, entry.2 = saving.id ∧ entry.1 ≠ client

/-- A save of the route was committed since the transaction of this save read it. -/
def overtaken (world : World K) (saving : Saving K) : Prop :=
  ∃ entry ∈ world.commits.drop saving.loadedAt, entry.2 = saving.id

section Rejection
variable [Field K] [LinearOrder K] [ToString K]

def Rejected (world : World K) (client : Nat) (saving : Saving K) (now : Int) : Prop :=
  ∃ problem after, outcome saving world.db now = .error problem ∧ status problem = 409 ∧
    step world (.save client now) = some after ∧ after.db = world.db

def numberInUse (db : Database K) (id routeNumber : Nat) : Bool :=
  ((findByRouteNumber db routeNumber).filter fun other => other.id ≠ id).isSome

def validPath (request : RouteRequest K) : Bool := (request.path.mapM pathPoint).isOk

def guardedSave (world : World K) (saving : Saving K) : Prop :=
  numberInUse saving.db saving.id saving.request.routeNumber = true ∨
    validPath saving.request = true ∧ (overtaken world saving ∨
      routeNumberTaken world.db (some saving.id) saving.request.routeNumber = true)

/-! ## One save -/

theorem path_point_status {point : List K} {problem : ServiceException}
    (fails : pathPoint point = .error problem) : status problem = 400 := by
  unfold pathPoint at fails
  split at fails
  · split at fails
    · cases fails
    · cases fails
      rfl
  · cases fails
    rfl

theorem path_status {path : List (List K)} {problem : ServiceException}
    (fails : path.mapM pathPoint = .error problem) : status problem = 400 := by
  induction path with
  | nil => cases fails
  | cons point rest ih =>
      rw [List.mapM_cons] at fails
      cases first : pathPoint point with
      | error early =>
          rw [first] at fails
          cases fails
          exact path_point_status first
      | ok place =>
          rw [first] at fails
          cases later : rest.mapM pathPoint with
          | error late =>
              rw [later] at fails ih
              cases fails
              exact ih rfl
          | ok places =>
              rw [later] at fails
              cases fails

theorem apply_request_cases (route : Route K) (request : RouteRequest K) :
    (validPath request = false ∧
        ∃ problem, applyRequest route request = .error problem ∧ status problem = 400) ∨
      validPath request = true ∧ ∃ row, applyRequest route request = .ok row ∧
        row.id = route.id ∧ row.version = route.version ∧ row.routeNumber = request.routeNumber := by
  unfold validPath applyRequest
  cases path : request.path.mapM pathPoint with
  | error problem => exact Or.inl ⟨rfl, problem, rfl, path_status path⟩
  | ok points => exact Or.inr ⟨rfl, _, rfl, rfl, rfl, rfl⟩

theorem update_cases {db : Database K} {id : Nat} {route : Route K}
    (found : db.routes.lookup id = some route) (request : RouteRequest K) :
    (numberInUse db id request.routeNumber = true ∧
        ∃ problem, RouteService.update db id request = .error problem ∧ status problem = 409) ∨
      numberInUse db id request.routeNumber = false ∧
        ((validPath request = false ∧
            ∃ problem, RouteService.update db id request = .error problem ∧ status problem = 400) ∨
          validPath request = true ∧ ∃ row, RouteService.update db id request = .ok (.update row) ∧
            row.id = id ∧ row.version = route.version ∧ row.routeNumber = request.routeNumber) := by
  cases inUse : numberInUse db id request.routeNumber with
  | true =>
      unfold numberInUse at inUse
      refine Or.inl ⟨rfl, numberTaken request.routeNumber, ?_, rfl⟩
      simp only [RouteService.update, RouteService.getEntity, found]
      rw [if_pos inUse]
  | false =>
      unfold numberInUse at inUse
      have body : RouteService.update db id request =
          (applyRequest route request).map .update := by
        simp only [RouteService.update, RouteService.getEntity, found]
        rw [if_neg (by rw [inUse]; exact Bool.false_ne_true)]
      refine Or.inr ⟨rfl, ?_⟩
      rcases apply_request_cases route request with
        ⟨invalid, problem, fails, code⟩ | ⟨valid, row, applied, same, version, number⟩
      · exact Or.inl ⟨invalid, problem, by rw [body, fails]; rfl, code⟩
      · refine Or.inr ⟨valid, row, by rw [body, applied]; rfl, ?_, version, number⟩
        rw [same, db.routeKeys id route found]

omit [Field K] [LinearOrder K] [ToString K] in
theorem commit_update_cases {db : Database K} {row current : Route K}
    (found : db.routes.lookup row.id = some current) (now : Int) :
    ((current.version ≠ row.version ∨ routeNumberTaken db (some row.id) row.routeNumber = true) ∧
        ∃ problem, commit db now (.update row) = .error problem ∧ status problem = 409) ∨
      current.version = row.version ∧ routeNumberTaken db (some row.id) row.routeNumber = false ∧
        commit db now (.update row) =
          .ok (db.saveRoute { row with version := row.version + 1, updatedAt := now }) := by
  simp only [commit, found]
  by_cases version : current.version = row.version
  · cases taken : routeNumberTaken db (some row.id) row.routeNumber with
    | true => exact Or.inl ⟨Or.inr rfl, _, by simp [version]; rfl, rfl⟩
    | false => exact Or.inr ⟨version, rfl, by simp [version]⟩
  · exact Or.inl ⟨Or.inl version, _, by simp [version]; rfl, rfl⟩

end Rejection

/-! ## Runs -/

def savedSince (world : World K) (id since : Nat) : Nat :=
  (world.commits.drop since).countP fun entry => entry.2 = id

/-- Routes stay, a copy is of a route, and the version of a route counts its saves. -/
structure Tracked (world : World K) : Prop where
  copied : ∀ client id copy, (world.clients client).copies id = some copy →
    (world.db.routes.lookup id).isSome
  loaded : ∀ client saving, (world.clients client).saving = some saving →
    saving.loadedAt ≤ world.commits.length
  kept : ∀ client saving, (world.clients client).saving = some saving → ∀ id,
    (world.db.routes.lookup id).isSome = (saving.db.routes.lookup id).isSome
  counted : ∀ client saving, (world.clients client).saving = some saving → ∀ id route current,
    saving.db.routes.lookup id = some route → world.db.routes.lookup id = some current →
      current.version = route.version + savedSince world id saving.loadedAt

theorem overtaken_iff (world : World K) (saving : Saving K) :
    overtaken world saving ↔ savedSince world saving.id saving.loadedAt ≠ 0 := by
  unfold overtaken savedSince
  rw [← Nat.pos_iff_ne_zero, List.countP_pos_iff]
  simp

section Tracking
variable {world : World K}

theorem set_client_eq (client other : Nat) (next : Client K) :
    (world.setClient client next).clients other =
      if other = client then next else world.clients other := by
  unfold World.setClient
  by_cases same : other = client
  · subst same
    simp
  · simp [same]

theorem tracked_copies (tracked : Tracked world) (client : Nat) (copies : Nat → Option (Copy K))
    (exist : ∀ id copy, copies id = some copy → (world.db.routes.lookup id).isSome) :
    Tracked (world.setClient client { world.clients client with copies := copies }) := by
  have saves : ∀ other saving,
      ((world.setClient client { world.clients client with copies := copies }).clients
        other).saving = some saving → (world.clients other).saving = some saving := by
    intro other saving held
    rw [set_client_eq] at held
    split at held
    · rename_i same
      rw [same]
      exact held
    · exact held
  constructor
  · intro other id copy held
    rw [set_client_eq] at held
    split at held
    · exact exist id copy held
    · exact tracked.copied other id copy held
  · exact fun other saving held => tracked.loaded other saving (saves other saving held)
  · exact fun other saving held => tracked.kept other saving (saves other saving held)
  · exact fun other saving held => tracked.counted other saving (saves other saving held)

theorem tracked_load (tracked : Tracked world) (client id : Nat) (request : RouteRequest K) :
    Tracked (world.setClient client { world.clients client with
      saving := some ⟨id, request, world.db, world.commits.length⟩ }) := by
  have saves : ∀ other saving, ((world.setClient client { world.clients client with
      saving := some ⟨id, request, world.db, world.commits.length⟩ }).clients other).saving =
        some saving → saving = ⟨id, request, world.db, world.commits.length⟩ ∨
          (world.clients other).saving = some saving := by
    intro other saving held
    rw [set_client_eq] at held
    split at held
    · exact Or.inl (Option.some.inj held).symm
    · exact Or.inr held
  constructor
  · intro other route copy held
    rw [set_client_eq] at held
    split at held
    · exact tracked.copied client route copy held
    · exact tracked.copied other route copy held
  · intro other saving held
    rcases saves other saving held with rfl | old
    · exact le_refl _
    · exact tracked.loaded other saving old
  · intro other saving held
    rcases saves other saving held with rfl | old
    · exact fun _ => rfl
    · exact tracked.kept other saving old
  · intro other saving held key route current loaded stored
    rcases saves other saving held with rfl | old
    · rw [Option.some.inj (stored.symm.trans loaded)]
      simp [savedSince, World.setClient]
    · exact tracked.counted other saving old key route current loaded stored

theorem tracked_done (tracked : Tracked world) (client : Nat) :
    Tracked (world.setClient client { world.clients client with saving := none }) := by
  have saves : ∀ other saving, ((world.setClient client { world.clients client with
      saving := none }).clients other).saving = some saving →
        (world.clients other).saving = some saving := by
    intro other saving held
    rw [set_client_eq] at held
    split at held
    · exact absurd held.symm (Option.some_ne_none saving)
    · exact held
  constructor
  · intro other id copy held
    rw [set_client_eq] at held
    split at held
    · exact tracked.copied client id copy held
    · exact tracked.copied other id copy held
  · exact fun other saving held => tracked.loaded other saving (saves other saving held)
  · exact fun other saving held => tracked.kept other saving (saves other saving held)
  · exact fun other saving held => tracked.counted other saving (saves other saving held)

theorem tracked_commit (tracked : Tracked world) {row current : Route K} (client : Nat)
    (stored : world.db.routes.lookup row.id = some current)
    (version : row.version = current.version + 1) :
    Tracked { world with
      db := world.db.saveRoute row
      commits := world.commits ++ [(client, row.id)] } := by
  have live : ∀ id, ((world.db.saveRoute row).routes.lookup id).isSome =
      (world.db.routes.lookup id).isSome := by
    intro id
    simp only [Database.saveRoute, Database.putRoute, lookup_insert_eq]
    split
    · rename_i same
      rw [same, stored]
      rfl
    · rfl
  constructor
  · intro other id copy held
    simp only [live]
    exact tracked.copied other id copy held
  · intro other saving held
    have before := tracked.loaded other saving held
    simp only [List.length_append]
    omega
  · intro other saving held id
    simp only [live]
    exact tracked.kept other saving held id
  · intro other saving held id route after loaded found
    have since : savedSince { world with
        db := world.db.saveRoute row
        commits := world.commits ++ [(client, row.id)] } id saving.loadedAt =
        savedSince world id saving.loadedAt + if row.id = id then 1 else 0 := by
      simp only [savedSince, List.drop_append_of_le_length (tracked.loaded other saving held),
        List.countP_append, List.countP_singleton, decide_eq_true_eq]
    rw [since]
    simp only [Database.saveRoute, Database.putRoute, lookup_insert_eq] at found
    split at found
    · rename_i same
      subst same
      have counted := tracked.counted other saving held _ route current loaded stored
      rw [if_pos rfl, ← Option.some.inj found, version, counted]
      omega
    · rename_i different
      rw [if_neg (Ne.symm different)]
      exact tracked.counted other saving held id route after loaded found

end Tracking

theorem copy_exists {world : World K} (tracked : Tracked world) (client : Nat) {id : Nat}
    {copy : Copy K}
    (held : (copyOf world id).or ((world.clients client).copies id) = some copy) :
    (world.db.routes.lookup id).isSome := by
  rcases Option.or_eq_some_iff.mp held with read | ⟨_, old⟩
  · obtain ⟨route, found, _⟩ := Option.map_eq_some_iff.mp read
    rw [found]
    rfl
  · exact tracked.copied client id copy old

section Saves
variable [Field K] [LinearOrder K] [ToString K] {world after : World K} {action : Action K}

/-- A save of an existing route is a conflict exactly where it is guarded; else it is
malformed, or it writes the next version. -/
theorem save_cases (tracked : Tracked world) {client : Nat} {saving : Saving K}
    (held : (world.clients client).saving = some saving)
    (exists' : (saving.db.routes.lookup saving.id).isSome) (now : Int) :
    (guardedSave world saving ∧
        ∃ problem, outcome saving world.db now = .error problem ∧ status problem = 409) ∨
      ¬ guardedSave world saving ∧
        ((∃ problem, outcome saving world.db now = .error problem ∧ status problem = 400) ∨
          ∃ row current, outcome saving world.db now = .ok (world.db.saveRoute row) ∧
            row.id = saving.id ∧ world.db.routes.lookup row.id = some current ∧
            row.version = current.version + 1) := by
  obtain ⟨route, loaded⟩ := Option.isSome_iff_exists.mp exists'
  rcases update_cases loaded saving.request with
    ⟨inUse, problem, fails, code⟩ | ⟨free, ⟨invalid, problem, fails, code⟩ |
      ⟨valid, row, writes, same, version, number⟩⟩
  · exact Or.inl ⟨Or.inl inUse, problem, by simp [outcome, fails], code⟩
  · refine Or.inr ⟨?_, Or.inl ⟨problem, by simp [outcome, fails], code⟩⟩
    simp [guardedSave, free, invalid]
  -- The version counts the saves since the read, so it differs exactly when overtaken.
  · have stored : (world.db.routes.lookup row.id).isSome := by
      rw [same, tracked.kept client saving held saving.id]
      exact exists'
    obtain ⟨current, found⟩ := Option.isSome_iff_exists.mp stored
    have counted : current.version = row.version + savedSince world saving.id saving.loadedAt := by
      rw [version]
      exact tracked.counted client saving held saving.id route current loaded (same ▸ found)
    have late : current.version ≠ row.version ↔ overtaken world saving := by
      rw [overtaken_iff, counted]
      omega
    have guards : guardedSave world saving ↔ current.version ≠ row.version ∨
        routeNumberTaken world.db (some row.id) row.routeNumber = true := by
      rw [late, same, number]
      simp [guardedSave, free, valid]
    rw [guards]
    rcases commit_update_cases found now with ⟨refused, problem, fails, code⟩ | ⟨fits, open', done⟩
    · exact Or.inl ⟨refused, problem, by simp [outcome, writes, fails], code⟩
    · refine Or.inr ⟨by simp [fits, open'], Or.inr ⟨
        { row with
          version := row.version + 1
          updatedAt := now }, current, ?_, same, found, ?_⟩⟩
      · simp only [outcome, writes]
        exact done
      · simp [fits]

theorem missing_route {saving : Saving K} (absent : (saving.db.routes.lookup saving.id).isSome = false)
    (db : Database K) (now : Int) : ∃ problem, outcome saving db now = .error problem := by
  have missing : saving.db.routes.lookup saving.id = none := by simpa using absent
  refine ⟨.ResourceNotFoundException ("Route not found: " ++ toString saving.id), ?_⟩
  simp only [outcome, RouteService.update, RouteService.getEntity, missing]

theorem step_tracked (tracked : Tracked world) (taken : step world action = some after) :
    Tracked after := by
  cases action with
  | get client id =>
      rw [← Option.some.inj taken]
      apply tracked_copies tracked
      intro other copy held
      by_cases same : other = id
      · subst same
        rw [Function.update_self] at held
        exact copy_exists tracked client held
      · rw [Function.update_of_ne same] at held
        exact tracked.copied client other copy held
  | list client =>
      rw [← Option.some.inj taken]
      apply tracked_copies tracked
      exact fun other copy held => copy_exists tracked client held
  | load client id request =>
      simp only [step] at taken
      split at taken
      · exact absurd taken.symm (Option.some_ne_none after)
      · rw [← Option.some.inj taken]
        exact tracked_load tracked client id request
  | save client now =>
      obtain ⟨saving, held, same⟩ := Option.map_eq_some_iff.mp taken
      have done := tracked_done tracked client
      cases exists' : (saving.db.routes.lookup saving.id).isSome with
      | false =>
          obtain ⟨problem, fails⟩ := missing_route exists' world.db now
          rw [fails] at same
          rw [← same]
          exact done
      | true =>
          rcases save_cases tracked held exists' now with
            ⟨_, problem, fails, _⟩ | ⟨_, ⟨problem, fails, _⟩ | ⟨row, current, fits, id, stored, version⟩⟩
          · rw [fails] at same
            rw [← same]
            exact done
          · rw [fails] at same
            rw [← same]
            exact done
          · rw [fits] at same
            rw [← same, ← id]
            exact tracked_commit done client stored version

/-- In every run, a save over a copy that another client has since changed is answered
as a conflict exactly if the other commit falls into its own transaction, or the number
it asks for belongs to another route. -/
theorem stale_save_rejected_iff {db : Database K} {actions : List (Action K)}
    (run : Run (fires step) (World.start db) actions world) {client : Nat} {saving : Saving K}
    (held : (world.clients client).saving = some saving) (stale : Stale world client saving)
    (now : Int) : Rejected world client saving now ↔ guardedSave world saving := by
  have tracked : Tracked world := by
    refine run_invariant Tracked (fun _ _ _ taken kept => step_tracked kept taken) run ?_
    constructor
    · intro _ _ _ held
      cases held
    · intro _ _ held
      cases held
    · intro _ _ held
      cases held
    · intro _ _ held
      cases held
  obtain ⟨copy, copied, _⟩ := stale
  have present : (saving.db.routes.lookup saving.id).isSome := by
    rw [← tracked.kept client saving held]
    exact tracked.copied client saving.id copy copied
  have cases' := save_cases tracked held present now
  constructor
  · rintro ⟨problem, after, fails, code, _, _⟩
    rcases cases' with ⟨guards, _⟩ | ⟨_, ⟨other, malformed, wrong⟩ | ⟨row, current, fits, _⟩⟩
    · exact guards
    · have same : problem = other := by
        rw [fails] at malformed
        exact Except.error.inj malformed
      rw [same, wrong] at code
      exact absurd code (by decide)
    · rw [fails] at fits
      cases fits
  · intro guards
    rcases cases' with ⟨_, problem, fails, code⟩ | ⟨open', _⟩
    · refine ⟨problem, world.setClient client { world.clients client with saving := none },
        fails, code, ?_, rfl⟩
      simp only [step, held, Option.map_some, fails]
    · exact absurd guards open'

end Saves

/-! ## Two admins, one route -/

def harbourLine : Database ℚ := Database.empty.saveRoute
  { (newRoute : Route ℚ) with
    id := 1
    routeNumber := 7
    name := "Harbour"
    path := [⟨1, 2⟩, ⟨1, 3⟩]
    stops := [⟨none, "Pier", 1, 2⟩, ⟨none, "Lighthouse", 1, 3⟩] }

def renamed (name : String) : RouteRequest ℚ where
  routeNumber := 7
  name := name
  color := "#34d399"
  firstBus := LocalTime.of 6 0
  lastBus := LocalTime.of 22 0
  frequencyMinutes := 12
  active := none
  path := [[1, 2], [1, 3]]
  stops := [⟨none, "Pier", 1, 2⟩, ⟨none, "Lighthouse", 1, 3⟩]

theorem overlapping_save_rejected :
    ∃ (world : World ℚ) (saving : Saving ℚ), Stale world 0 saving ∧
      (Rejected world 0 saving 9 ↔ guardedSave world saving) := by
  have run : ∃ world, Run (fires step) (World.start harbourLine)
      [.get 0 1, .load 0 1 (renamed "Port"), .get 1 1, .load 1 1 (renamed "Quay"), .save 1 5]
        world ∧ ∃ saving, (world.clients 0).saving = some saving ∧ Stale world 0 saving :=
    ⟨_, exec_run _ _ _ _ rfl, _, rfl, _, rfl, (1, 1), by decide, by decide⟩
  obtain ⟨world, taken, saving, held, stale⟩ := run
  exact ⟨world, saving, stale, stale_save_rejected_iff taken held stale 9⟩

/-- Both admins read the route, then one saves "Quay" and the other "Port". -/
theorem second_save_overwrites :
    ∃ (world after : World ℚ) (saving : Saving ℚ),
      Run (fires step) (World.start harbourLine)
        [.get 0 1, .get 1 1, .load 1 1 (renamed "Quay"), .save 1 5, .load 0 1 (renamed "Port")]
        world ∧
      (world.clients 0).saving = some saving ∧ Stale world 0 saving ∧
      step world (.save 0 9) = some after ∧
      (world.db.routes.lookup 1).map (·.name) = some "Quay" ∧
      (after.db.routes.lookup 1).map (·.name) = some "Port" ∧ ¬ Rejected world 0 saving 9 := by
  refine ⟨_, _, _, exec_run _ _ _ _ rfl, rfl, ⟨_, rfl, (1, 1), by decide, by decide⟩, rfl,
    by decide +kernel, by decide +kernel, ?_⟩
  rintro ⟨_, after, _, _, taken, kept⟩
  cases Option.some.inj taken
  have names := congrArg (fun db => (db.routes.lookup 1).map (·.name)) kept
  exact absurd names (by decide +kernel)

end CityBus.RouteEdits
