import CityBus.BusService
import CityBus.GuardedRuns
import CityBus.TableRows

/-!
The question that the console asks before it deletes a row. Several consoles are open,
each with the lists that it loaded last; others write to the tables in the meantime, and
answers and requests may be under way for any time. A `DELETE` is sent by a console only;
what another client deletes has no question to it.
-/

namespace CityBus.ConfirmedDeletions

open GeoUtils GuardedRuns KeyedMaps LiveTracking Services Store TableRows
open AlertService (AlertResponse)
open BusService (BusResponse)
open RouteService (RouteResponse)

variable {K : Type}

/-- A row as the server answered with it. -/
inductive Row (K : Type) where
  | route (route : RouteResponse K)
  | bus (bus : BusResponse K)
  | alert (alert : AlertResponse)

def Row.item : Row K → Item
  | .route r => .route r.id
  | .bus b => .bus b.id
  | .alert a => .alert a.id

def confirmMessage : Row K → String
  | .route route => "Delete route " ++ toString route.routeNumber ++ " (" ++ route.name ++
      ")? Buses must be reassigned first."
  | .bus bus => "Delete " ++ bus.code.toUpper ++ "? This cannot be undone."
  | .alert alert => "Delete the alert \"" ++ alert.title ++ "\"?"

inductive Query where
  | routes
  | buses
  | alerts

inductive Answer (K : Type) where
  | routes (routes : List (RouteResponse K))
  | buses (buses : List (BusResponse K))
  | alerts (alerts : List AlertResponse)

def Answer.rows : Answer K → List (Row K)
  | .routes list => list.map .route
  | .buses list => list.map .bus
  | .alerts list => list.map .alert

/-- What `runConfirmedAction` waits for, with its button disabled. -/
inductive Phase where
  | ready
  | deleting
  | reloading
  deriving DecidableEq

structure Console (K : Type) where
  routes : List (RouteResponse K)
  buses : List (BusResponse K)
  alerts : List AlertResponse
  message : String
  confirmAction : Option Item
  opened : Bool
  phase : Phase

def Console.fresh : Console K := ⟨[], [], [], "Are you sure?", none, false, .ready⟩

def Console.rows (console : Console K) : List (Row K) :=
  (Answer.routes console.routes).rows ++ (Answer.buses console.buses).rows ++
    (Answer.alerts console.alerts).rows

def confirmDelete (console : Console K) (row : Row K) : Console K :=
  { console with message := confirmMessage row, confirmAction := some row.item, opened := true }

def closeModal (console : Console K) : Console K := { console with opened := false }

def finish (console : Console K) : Console K :=
  { console with phase := .ready, confirmAction := none }

/-- `answers` are those that the server gave, `deletes` the requests under way. -/
structure World (K : Type) where
  tables : Tables K
  answers : List (Answer K)
  consoles : Nat → Console K
  deletes : List Item

def World.start (tables : Tables K) : World K := ⟨tables, [], fun _ => .fresh, []⟩

def World.put (world : World K) (tab : Nat) (console : Console K) : World K :=
  { world with consoles := Function.update world.consoles tab console }

inductive Action (K : Type) where
  | write (now : Int) (operation : Operation K)
  | answer (now : Int) (tracking : Tracking K) (query : Query)
  | loadAll (tab i j k : Nat)
  | confirmDelete (tab : Nat) (item : Item)
  | closeModal (tab : Nat)
  | runConfirmedAction (tab : Nat)
  | receive (now : Int) (item : Item)
  | settle (tab : Nat) (deleted : Bool)
  | reloaded (tab : Nat)
  | openConsole (tab : Nat)

def deletion : Item → Operation K
  | .route id => .deleteRoute id
  | .bus id => .deleteBus id
  | .alert id => .deleteAlert id

section Steps
variable [Field K] [LinearOrder K] [FloorRing K] [ToString K] (foreignKeys : Bool)
  (geo : GeoDistance K)

/-- A list with a row that cannot be read is answered with an error. -/
def answer (tables : Tables K) (now : Int) (tracking : Tracking K) : Query → Option (Answer K)
  | .routes => some (.routes (RouteService.findAll tables.db))
  | .buses => some (.buses (BusService.page geo tables.db tracking 0 100))
  | .alerts => (AlertService.findAll tables now).map .alerts

def step (world : World K) : Action K → Option (World K)
  -- The forms of the consoles create and change rows, and so may other clients.
  | .write now operation =>
      if deleted operation = none then
        some { world with tables := perform foreignKeys world.tables now operation }
      else none
  | .answer now tracking query =>
      (answer geo world.tables now tracking query).map fun list =>
        { world with answers := list :: world.answers }
  -- A console waits for all its lists; which of the answers they are is open.
  | .loadAll tab i j k =>
      match world.answers[i]?, world.answers[j]?, world.answers[k]? with
      | some (.routes routes), some (.buses buses), some (.alerts alerts) =>
          some (world.put tab
            { world.consoles tab with routes := routes, buses := buses, alerts := alerts })
      | _, _, _ => none
  | .confirmDelete tab item =>
      ((world.consoles tab).rows.find? fun row => row.item = item).map fun row =>
        world.put tab (confirmDelete (world.consoles tab) row)
  | .closeModal tab => some (world.put tab (closeModal (world.consoles tab)))
  -- A dialog that is closed is transparent; the keyboard still reaches its button.
  | .runConfirmedAction tab =>
      if (world.consoles tab).phase = .ready then
        (world.consoles tab).confirmAction.map fun item =>
          { world.put tab { world.consoles tab with phase := .deleting } with
            deletes := item :: world.deletes }
      else none
  | .receive now item =>
      if item ∈ world.deletes then
        some { world with
          tables := perform foreignKeys world.tables now (deletion item)
          deletes := world.deletes.erase item }
      else none
  -- The request may fail on its way there or back.
  | .settle tab deleted =>
      if (world.consoles tab).phase = .deleting then
        let console := closeModal (world.consoles tab)
        some (world.put tab
          (if deleted then { console with phase := .reloading } else finish console))
      else none
  | .reloaded tab =>
      if (world.consoles tab).phase = .reloading then
        some (world.put tab (finish (world.consoles tab)))
      else none
  | .openConsole tab => some (world.put tab .fresh)

end Steps

/-! ## What the server answers with -/

section Read
variable [Field K] [LinearOrder K] [FloorRing K] {geo : GeoDistance K} {tables : Tables K}

omit [Field K] [LinearOrder K] [FloorRing K] in
theorem route_stands {row : RouteResponse K} (listed : row ∈ RouteService.findAll tables.db) :
    standing tables (.route row.id) := by
  obtain ⟨route, member, rfl⟩ := List.mem_map.mp listed
  obtain ⟨id, found⟩ := mem_values.mp (List.mem_mergeSort.mp member)
  rw [RouteService.toResponse, tables.db.routeKeys id route found]
  exact Option.isSome_of_mem found

theorem bus_stands {tracking : Tracking K} {row : BusResponse K}
    (listed : row ∈ BusService.page geo tables.db tracking 0 100) :
    standing tables (.bus row.id) := by
  have all : row ∈ BusService.findAll geo tables.db tracking :=
    List.mem_of_mem_drop (List.mem_of_mem_take listed)
  obtain ⟨bus, member, rfl⟩ := List.mem_map.mp all
  obtain ⟨id, found⟩ := mem_values.mp (List.mem_mergeSort.mp member)
  rw [BusService.toResponse, tables.db.busKeys id bus found]
  exact Option.isSome_of_mem found

omit [Field K] [LinearOrder K] [FloorRing K] in
theorem alert_stands {now : Int} {list : List AlertResponse} {row : AlertResponse}
    (read : AlertService.findAll tables now = some list) (listed : row ∈ list) :
    standing tables (.alert row.id) := by
  have member : some row ∈ (findAllByOrderByCreatedAtDesc tables).map
      (AlertService.respond tables.db now) := by
    rw [(mapM_some_iff _ _ _).mp read]
    exact List.mem_map.mpr ⟨row, listed, rfl⟩
  obtain ⟨alert, stored, answer⟩ := List.mem_map.mp member
  obtain ⟨id, found⟩ := mem_values.mp (List.mem_mergeSort.mp stored)
  obtain ⟨route, _, rfl⟩ := Option.map_eq_some_iff.mp answer
  rw [AlertService.responseFrom, tables.alertKeys id alert found]
  exact Option.isSome_of_mem found

theorem answer_stands {now : Int} {tracking : Tracking K} {query : Query} {list : Answer K}
    (read : answer geo tables now tracking query = some list) {row : Row K}
    (listed : row ∈ list.rows) : standing tables row.item := by
  cases query with
  | routes =>
      cases read
      obtain ⟨route, member, rfl⟩ := List.mem_map.mp listed
      exact route_stands member
  | buses =>
      cases read
      obtain ⟨bus, member, rfl⟩ := List.mem_map.mp listed
      exact bus_stands member
  | alerts =>
      obtain ⟨alerts, found, rfl⟩ := Option.map_eq_some_iff.mp read
      obtain ⟨alert, member, rfl⟩ := List.mem_map.mp listed
      exact alert_stands found member

end Read

/-! ## What a console shows -/

section Consoles
variable {world : World K} {answers later : List (Answer K)} {console : Console K}

def known (row : Row K) (answers : List (Answer K)) : Prop := ∃ list ∈ answers, row ∈ list.rows

/-- Every row of a console was answered, and so was the one that its dialog asks about. -/
structure Sound (answers : List (Answer K)) (console : Console K) : Prop where
  rows : ∀ row ∈ console.rows, known row answers
  asked : ∀ item, console.confirmAction = some item →
    ∃ row, known row answers ∧ row.item = item ∧ console.message = confirmMessage row

def AllSound (world : World K) : Prop := ∀ tab, Sound world.answers (world.consoles tab)

theorem sound_mono (grows : ∀ list ∈ answers, list ∈ later) (sound : Sound answers console) :
    Sound later console := by
  have more {row : Row K} (was : known row answers) : known row later := by
    obtain ⟨list, member, listed⟩ := was
    exact ⟨list, grows list member, listed⟩
  constructor
  · exact fun row listed => more (sound.rows row listed)
  · intro item asks
    obtain ⟨row, was, same, text⟩ := sound.asked item asks
    exact ⟨row, more was, same, text⟩

theorem sound_fresh (answers : List (Answer K)) : Sound answers .fresh :=
  ⟨List.forall_mem_nil _, fun _ asks => absurd asks (Option.some_ne_none _).symm⟩

theorem sound_put (sound : AllSound world) (tab : Nat) (own : Sound world.answers console) :
    AllSound (world.put tab console) := by
  intro other
  rcases eq_or_ne other tab with rfl | apart
  · simpa only [World.put, Function.update_self] using own
  · simpa only [World.put, Function.update_of_ne apart] using sound other

theorem sound_confirm (sound : Sound answers console) {row : Row K} (listed : row ∈ console.rows) :
    Sound answers (confirmDelete console row) := by
  refine ⟨sound.rows, ?_⟩
  intro item asks
  exact ⟨row, sound.rows row listed, Option.some.inj asks, rfl⟩

theorem sound_close (sound : Sound answers console) : Sound answers (closeModal console) :=
  ⟨sound.rows, sound.asked⟩

theorem sound_finish (sound : Sound answers console) : Sound answers (finish console) :=
  ⟨sound.rows, fun _ asks => absurd asks (Option.some_ne_none _).symm⟩

theorem sound_load (sound : Sound answers console) {routes : List (RouteResponse K)}
    {buses : List (BusResponse K)} {alerts : List AlertResponse} (first : .routes routes ∈ answers)
    (second : .buses buses ∈ answers) (third : .alerts alerts ∈ answers) :
    Sound answers { console with routes := routes, buses := buses, alerts := alerts } := by
  refine ⟨?_, sound.asked⟩
  intro row listed
  rcases List.mem_append.mp listed with both | alert
  · rcases List.mem_append.mp both with route | bus
    · exact ⟨_, first, route⟩
    · exact ⟨_, second, bus⟩
  · exact ⟨_, third, alert⟩

end Consoles

/-! ## Where a deletion comes from -/

section Runs
variable [Field K] [LinearOrder K] [FloorRing K] [ToString K] {foreignKeys : Bool}
  {geo : GeoDistance K} {world after : World K} {action : Action K} {item : Item} {row : Row K}

theorem load_spec {tab i j k : Nat}
    (taken : step foreignKeys geo world (.loadAll tab i j k) = some after) :
    ∃ routes buses alerts, .routes routes ∈ world.answers ∧ .buses buses ∈ world.answers ∧
      .alerts alerts ∈ world.answers ∧
      after = world.put tab
        { world.consoles tab with routes := routes, buses := buses, alerts := alerts } := by
  simp only [step] at taken
  split at taken
  · rename_i routes buses alerts first second third
    exact ⟨routes, buses, alerts, List.mem_of_getElem? first, List.mem_of_getElem? second,
      List.mem_of_getElem? third, (Option.some.inj taken).symm⟩
  · cases taken

def reads (geo : GeoDistance K) (row : Row K) (world : World K) : Action K → Prop
  | .answer now tracking query =>
      ∃ list, answer geo world.tables now tracking query = some list ∧ row ∈ list.rows
  | _ => False

def presses (item : Item) (world : World K) : Action K → Prop
  | .runConfirmedAction tab => (world.consoles tab).confirmAction = some item
  | _ => False

/-- What a step may do: rows go by requests alone, requests come from the button of a
dialog, and what is shown or asked about was read. -/
structure Effect (foreignKeys : Bool) (geo : GeoDistance K) (world : World K) (action : Action K)
    (after : World K) : Prop where
  tables : after.tables = world.tables ∨ ∃ now operation,
    after.tables = perform foreignKeys world.tables now operation ∧
      ∀ item, deleted operation = some item → item ∈ world.deletes
  answers : ∀ row, known row after.answers → known row world.answers ∨ reads geo row world action
  deletes : ∀ item ∈ after.deletes, item ∈ world.deletes ∨ presses item world action
  consoles : AllSound world → AllSound after

theorem effect_put (tab : Nat) {console : Console K}
    (own : Sound world.answers (world.consoles tab) → Sound world.answers console) :
    Effect foreignKeys geo world action (world.put tab console) where
  tables := Or.inl rfl
  answers := fun _ => Or.inl
  deletes := fun _ => Or.inl
  consoles := fun sound => sound_put sound tab (own (sound tab))

theorem effect_perform {now : Int} {operation : Operation K}
    (owed : ∀ item, deleted operation = some item → item ∈ world.deletes) {deletes : List Item}
    (fewer : ∀ item ∈ deletes, item ∈ world.deletes) :
    Effect foreignKeys geo world action
      { world with
        tables := perform foreignKeys world.tables now operation
        deletes := deletes } where
  tables := Or.inr ⟨now, operation, rfl, owed⟩
  answers := fun _ => Or.inl
  deletes := fun item member => Or.inl (fewer item member)
  consoles := id

omit [Field K] [LinearOrder K] [FloorRing K] [ToString K] in
theorem deleted_deletion : deleted (deletion item : Operation K) = some item := by
  cases item with
  | route | bus | alert => rfl

theorem step_effect (taken : step foreignKeys geo world action = some after) :
    Effect foreignKeys geo world action after := by
  cases action with
  | write now operation =>
      simp only [step] at taken
      split at taken
      · rename_i spares
        cases taken
        refine effect_perform ?_ fun _ => id
        intro item deletes
        rw [spares] at deletes
        cases deletes
      · cases taken
  | answer now tracking query =>
      obtain ⟨list, read, rfl⟩ := Option.map_eq_some_iff.mp taken
      refine ⟨Or.inl rfl, ?_, fun _ => Or.inl, ?_⟩
      · rintro row ⟨other, member, listed⟩
        rcases List.mem_cons.mp member with rfl | earlier
        · exact Or.inr ⟨other, read, listed⟩
        · exact Or.inl ⟨other, earlier, listed⟩
      · exact fun sound tab => sound_mono (fun _ => List.mem_cons_of_mem list) (sound tab)
  | loadAll tab i j k =>
      obtain ⟨routes, buses, alerts, first, second, third, rfl⟩ := load_spec taken
      exact effect_put tab fun sound => sound_load sound first second third
  | confirmDelete tab item =>
      obtain ⟨row, found, rfl⟩ := Option.map_eq_some_iff.mp taken
      exact effect_put tab fun sound => sound_confirm sound (List.mem_of_find?_eq_some found)
  | closeModal tab =>
      cases taken
      exact effect_put tab sound_close
  | runConfirmedAction tab =>
      simp only [step] at taken
      split at taken
      · obtain ⟨item, asks, rfl⟩ := Option.map_eq_some_iff.mp taken
        refine ⟨Or.inl rfl, fun _ => Or.inl, ?_, ?_⟩
        · intro other member
          rcases List.mem_cons.mp member with rfl | earlier
          · exact Or.inr asks
          · exact Or.inl earlier
        · exact fun sound => sound_put sound tab ⟨(sound tab).rows, (sound tab).asked⟩
      · cases taken
  | receive now item =>
      simp only [step] at taken
      split at taken
      · rename_i sent
        cases taken
        refine effect_perform ?_ fun _ => List.mem_of_mem_erase
        intro other deletes
        rw [deleted_deletion] at deletes
        exact Option.some.inj deletes ▸ sent
      · cases taken
  | settle tab deleted =>
      simp only [step] at taken
      split at taken
      · cases taken
        refine effect_put tab fun sound => ?_
        cases deleted with
        | true => exact ⟨sound.rows, sound.asked⟩
        | false => exact sound_finish (sound_close sound)
      · cases taken
  | reloaded tab =>
      simp only [step] at taken
      split at taken
      · cases taken
        exact effect_put tab sound_finish
      · cases taken
  | openConsole tab =>
      cases taken
      exact effect_put tab fun _ => sound_fresh world.answers

theorem step_given (taken : step foreignKeys geo world action = some after)
    (was : given world.tables item) : given after.tables item := by
  rcases (step_effect taken).tables with same | ⟨now, operation, same, _⟩
  · rwa [same]
  · rw [same]
    exact perform_given was

theorem step_rows (taken : step foreignKeys geo world action = some after)
    (rows : ∀ item, standing world.tables item → given world.tables item) (item : Item)
    (there : standing after.tables item) : given after.tables item := by
  rcases (step_effect taken).tables with same | ⟨now, operation, same, _⟩
  · rw [same] at there ⊢
    exact rows item there
  · rw [same] at there ⊢
    exact perform_rows (rows item) there

/-- A row that stands now stood whenever its id was handed out. -/
theorem run_standing {actions : List (Action K)}
    (run : Run (fires (step foreignKeys geo)) world actions after) (was : given world.tables item)
    (there : standing after.tables item) : standing world.tables item := by
  induction run with
  | refl => exact there
  | next head _ ih =>
      have before := ih (step_given head was) there
      rcases (step_effect head).tables with same | ⟨now, operation, same, _⟩
      · rwa [same] at before
      · rw [same] at before
        exact perform_standing was before

theorem step_gone (taken : step foreignKeys geo world action = some after)
    (there : standing world.tables item) (gone : ¬ standing after.tables item) :
    item ∈ world.deletes := by
  rcases (step_effect taken).tables with same | ⟨now, operation, same, owed⟩
  · rw [same] at gone
    exact absurd there gone
  · rw [same] at gone
    exact owed item (perform_gone there gone)

/-- Somebody pressed the button under the text of a row that had been read, and the row
stood all the time from then on. -/
def Confirmed (foreignKeys : Bool) (geo : GeoDistance K) (tables : Tables K)
    (actions : List (Action K)) (item : Item) : Prop :=
  ∃ (row : Row K) (early late back : List (Action K)) (query : Action K) (tab : Nat)
    (read asked : World K),
    row.item = item ∧
      actions = early ++ query :: late ++ .runConfirmedAction tab :: back ∧
      Run (fires (step foreignKeys geo)) (World.start tables) early read ∧
      reads geo row read query ∧
      Run (fires (step foreignKeys geo)) (World.start tables) (early ++ query :: late) asked ∧
      (asked.consoles tab).message = confirmMessage row ∧
      ∀ past state, early <+: past → past <+: actions →
        Run (fires (step foreignKeys geo)) (World.start tables) past state →
          standing state.tables item

/-- However consoles, answers and requests overtake one another, a row that is deleted is
one whose text stood over the button that somebody pressed. It is the row that the console
had read, not a later one under the same id. -/
theorem deletions_confirmed {tables : Tables K} {actions : List (Action K)}
    (rows : ∀ item, standing tables item → given tables item)
    (run : Run (fires (step foreignKeys geo)) (World.start tables) actions world)
    (taken : step foreignKeys geo world action = some after) (there : standing world.tables item)
    (gone : ¬ standing after.tables item) : Confirmed foreignKeys geo tables actions item := by
  -- The request was sent by a press of the button.
  have pressed := run_origin (fun world : World K => item ∈ world.deletes) (presses item)
    (fun _ _ _ head member => (step_effect head).deletes item member) run
    (step_gone taken there gone)
  rcases pressed with never | ⟨front, press, back, asked, split, reached, pressing⟩
  · cases never
  cases press with
  | runConfirmedAction tab =>
      -- The dialog asked about a row that was known then.
      have sound : AllSound asked :=
        run_invariant AllSound (fun _ _ _ head => (step_effect head).consoles) reached
          fun _ => sound_fresh _
      obtain ⟨row, was, same, text⟩ := (sound tab).asked item pressing
      have origin := run_origin (fun world : World K => known row world.answers) (reads geo row)
        (fun _ _ _ head => (step_effect head).answers row) reached was
      rcases origin with ⟨_, never, _⟩ | ⟨early, query, late, read, same', reached', reading⟩
      · cases never
      subst same'
      refine ⟨row, early, late, back, query, tab, read, asked, same, split, reached', reading,
        reached, text, ?_⟩
      have stood : standing read.tables item := by
        cases query with
        | answer now tracking query =>
            obtain ⟨list, answered, listed⟩ := reading
            exact same ▸ answer_stands answered listed
        | _ => exact reading.elim
      have handed : given read.tables item :=
        run_invariant (fun world : World K => ∀ item, standing world.tables item →
          given world.tables item) (fun _ _ _ head => step_rows head) reached' rows item stood
      rintro past state ⟨more, rfl⟩ ⟨rest, rfl⟩ passed
      obtain ⟨middle, first, second⟩ := run_split passed
      cases fires_unique first reached'
      obtain ⟨middle, third, last⟩ := run_split run
      cases fires_unique third passed
      refine run_standing last ?_ there
      exact run_invariant (fun world : World K => given world.tables item)
        (fun _ _ _ head => step_given head) second handed
  | _ => exact pressing.elim

end Runs

/-! ## A question that was closed -/

def ferryNotice : AlertService.AlertRequest :=
  ⟨"Ferry late", "Ten minutes", .WARNING, none, none, none⟩

def ferryTables : Tables ℚ := perform true (Tables.of Database.empty) 1 (.createAlert ferryNotice)

def ferryAnswer : AlertResponse :=
  ⟨1, "Ferry late", "Ten minutes", .WARNING, none, none, none, none, true, true, 1, none⟩

theorem ferry_read : AlertService.findAll ferryTables 2 = some [ferryAnswer] := by decide +kernel

theorem ferry_standing : standing ferryTables (.alert 1) := by
  rw [standing]
  decide +kernel

theorem ferry_gone : ¬ standing (perform true ferryTables 3 (.deleteAlert 1)) (.alert 1) := by
  rw [standing]
  decide +kernel

/-- The console asks about the ferry, the administrator cancels, and the keyboard still
presses the button. -/
def ferryDay : List (Action ℚ) :=
  [.write 1 (.createAlert ferryNotice), .answer 2 Tracking.empty .routes,
    .answer 2 Tracking.empty .buses, .answer 2 Tracking.empty .alerts, .loadAll 0 2 1 0,
    .confirmDelete 0 (.alert 1), .closeModal 0, .runConfirmedAction 0]

theorem ferry_run : ∃ world : World ℚ,
    Run (fires (step true taxicab)) (World.start (Tables.of Database.empty)) ferryDay world ∧
      world.tables = ferryTables ∧ world.deletes = [.alert 1] := by
  have noRoutes : RouteService.findAll ferryTables.db = [] := by decide +kernel
  have noBuses : BusService.page taxicab ferryTables.db Tracking.empty 0 100 = [] := by
    decide +kernel
  have written : step true taxicab (World.start (Tables.of Database.empty))
      (.write 1 (.createAlert ferryNotice)) = some (World.start ferryTables) := rfl
  have routes : step true taxicab (World.start ferryTables) (.answer 2 Tracking.empty .routes) =
      some ⟨ferryTables, [.routes []], fun _ => .fresh, []⟩ := by
    simp only [step, answer, World.start, noRoutes, Option.map_some]
  have buses : step true taxicab (⟨ferryTables, [.routes []], fun _ => .fresh, []⟩ : World ℚ)
      (.answer 2 Tracking.empty .buses) =
      some ⟨ferryTables, [.buses [], .routes []], fun _ => .fresh, []⟩ := by
    simp only [step, answer, noBuses, Option.map_some]
  have alerts : step true taxicab
      (⟨ferryTables, [.buses [], .routes []], fun _ => .fresh, []⟩ : World ℚ)
      (.answer 2 Tracking.empty .alerts) =
      some ⟨ferryTables, [.alerts [ferryAnswer], .buses [], .routes []], fun _ => .fresh, []⟩ := by
    simp only [step, answer, ferry_read, Option.map_some]
  exact ⟨_, Run.next written (Run.next routes (Run.next buses (Run.next alerts (Run.next rfl
    (Run.next rfl (Run.next rfl (Run.next rfl (Run.refl _)))))))), rfl, rfl⟩

theorem ferry_confirmed : ∃ world after : World ℚ,
    Run (fires (step true taxicab)) (World.start (Tables.of Database.empty)) ferryDay world ∧
      step true taxicab world (.receive 3 (.alert 1)) = some after ∧
      standing world.tables (.alert 1) ∧ ¬ standing after.tables (.alert 1) ∧
      Confirmed true taxicab (Tables.of Database.empty) ferryDay (.alert 1) := by
  obtain ⟨world, run, same, sent⟩ := ferry_run
  have received : step true taxicab world (.receive 3 (.alert 1)) =
      some { world with tables := perform true ferryTables 3 (.deleteAlert 1), deletes := [] } := by
    simp only [step, sent, same, deletion, List.mem_singleton, if_true, List.erase_cons_head]
  have there : standing world.tables (.alert 1) := by
    rw [same]
    exact ferry_standing
  have none (item : Item) (there : standing (Tables.of (Database.empty : Database ℚ)) item) :
      given (Tables.of (Database.empty : Database ℚ)) item := by
    cases item with
    | route | bus | alert => simp [standing, Tables.of, Database.empty] at there
  exact ⟨world, _, run, received, there, ferry_gone,
    deletions_confirmed none run received there ferry_gone⟩

end CityBus.ConfirmedDeletions
