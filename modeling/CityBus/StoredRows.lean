import CityBus.DataSeeder
import CityBus.RouteForm

/-!
What the tables keep. The bean validation looks at requests only; the services trim the
texts and lower the colour before they store a row. Every row keeps to the constraints
all the same, so a route that a client got can be sent back as it is.
-/

namespace CityBus.StoredRows

open DataSeeder GeoUtils GuardedRuns KeyedMaps ReferentialIntegrity RouteForm RouteService
open Services Store
open Texts
open AlertService (AlertRequest AlertResponse)
open BusService (BusRequest isBusCode)

/-! ## The bean validation -/

/-- The constraints of `AlertRequest`; `@NotBlank` trims as Java does. -/
def validAlert (request : AlertRequest) : Bool :=
  trim request.title ≠ "" && utf16Length request.title ≤ 120 &&
    (trim request.message ≠ "" && utf16Length request.message ≤ 500)

section Validation
variable {K : Type} [Field K] [LinearOrder K]

/-- The constraints of `RouteRequest` on what its type leaves open. -/
def validRoute (request : RouteRequest K) : Bool :=
  (1 ≤ request.routeNumber && request.routeNumber ≤ 999) &&
    (trim request.name ≠ "" && utf16Length request.name ≤ 100) && isColor request.color &&
    request.frequencyMinutes ≤ 240 && 2 ≤ request.path.length &&
    (2 ≤ request.stops.length && request.stops.all validStop)

def validated (_ : Tables K) : Event K → Prop
  | .call _ (.createAlert request) | .call _ (.updateAlert _ request) => validAlert request = true
  | .call _ (.createRoute request) | .call _ (.updateRoute _ request) => validRoute request = true
  | _ => True

end Validation

/-! ## What the tables keep -/

structure StoredText (limit : Nat) (text : String) : Prop where
  trimmed : Trimmed (· ≤ ' ') text.toList
  filled : text ≠ ""
  short : utf16Length text ≤ limit

/-! ### Texts that are stored -/

theorem trim_eq (text : String) : (trim text).toList = trimBy (· ≤ ' ') text.toList := by
  rw [trim, String.toList_ofList]
  rfl

theorem utf16_length_sublist {xs ys : List Char} (sub : xs.Sublist ys) :
    utf16Length (String.ofList xs) ≤ utf16Length (String.ofList ys) := by
  simp only [utf16Length, String.toList_ofList]
  exact (sub.map _).sum_le_sum fun _ _ => Nat.zero_le _

theorem stored_trim {limit : Nat} {text : String} (filled : trim text ≠ "")
    (short : utf16Length text ≤ limit) : StoredText limit (trim text) := by
  refine ⟨?_, filled, ?_⟩
  · rw [trim_eq]
    exact trim_trimmed _ _
  · have shorter := utf16_length_sublist (trim_sublist (· ≤ ' ') text.toList)
    rw [String.ofList_toList] at shorter
    exact le_trans shorter short

/-! ### Checks before a write -/

section Checks
variable {K : Type}

theorem insert_distinct {Row Mark : Type} {rows : KeyedMap Nat Row} {mark : Row → Mark}
    (distinct : ∀ id other row row', rows.lookup id = some row → rows.lookup other = some row' →
      mark row = mark row' → id = other)
    {key : Nat} {row : Row}
    (free : ∀ id other, rows.lookup id = some other → mark other = mark row → id = key) :
    ∀ id other entry entry', (rows.insert key row).lookup id = some entry →
      (rows.insert key row).lookup other = some entry' → mark entry = mark entry' →
        id = other := by
  intro id other entry entry' found found' same
  rw [lookup_insert_eq] at found found'
  split at found
  · rename_i here
    split at found'
    · rename_i there
      exact here.trans there.symm
    · cases found
      exact here.trans (free other entry' found' same.symm).symm
  · split at found'
    · rename_i there
      cases found'
      exact (free id entry found same).trans there.symm
    · exact distinct id other entry entry' found found' same

theorem code_free {db : Database K} {code : String} (none : findByCode db code = none)
    {id : Nat} {bus : Bus} (found : db.buses.lookup id = some bus) : bus.code ≠ code := by
  simpa using List.find?_eq_none.mp none bus (mem_values.mpr ⟨id, found⟩)

theorem number_free {db : Database K} {own : Option Nat} {number : Nat}
    (free : routeNumberTaken db own number = false) {id : Nat} {route : Route K}
    (found : db.routes.lookup id = some route) (same : route.routeNumber = number) :
    some id = own := by
  have untaken := List.any_eq_false.mp free route (mem_values.mpr ⟨id, found⟩)
  rw [same, db.routeKeys id route found] at untaken
  simpa using untaken

theorem created_bus {db next : Database K} {now : Int} {request : BusRequest}
    (done : BusService.create db now request = .ok next) :
    ∃ bus, bus.code = request.code ∧ findByCode db bus.code = none ∧
      next = { db.putBus bus with nextBusId := db.nextBusId + 1 } := by
  unfold BusService.create at done
  split at done
  · cases done
  · rename_i free
    split at done
    · cases done
    · cases done
      rw [existsByCode, Bool.not_eq_true, Option.isSome_eq_false_iff, Option.isNone_iff_eq_none]
        at free
      exact ⟨_, rfl, free, rfl⟩

theorem written_texts {db : Database K} {alert changed : ServiceAlert}
    {request : AlertRequest} {route : Option (Route K)}
    (applied : AlertService.apply db alert request = .ok (changed, route)) :
    changed.title = trim request.title ∧ changed.message = trim request.message := by
  unfold AlertService.apply at applied
  split at applied
  · cases applied
    exact ⟨rfl, rfl⟩
  · split at applied
    · cases applied
    · cases applied
      exact ⟨rfl, rfl⟩

theorem valid_texts {request : AlertRequest} (valid : validAlert request = true) :
    StoredText 120 (trim request.title) ∧ StoredText 500 (trim request.message) := by
  simp only [validAlert, Bool.and_eq_true, decide_eq_true_eq] at valid
  exact ⟨stored_trim valid.1.1 valid.1.2, stored_trim valid.2.1 valid.2.2⟩

end Checks

section Tidy
variable {K : Type} [Field K] [LinearOrder K]

structure StoredRoute (route : Route K) : Prop where
  number : 1 ≤ route.routeNumber ∧ route.routeNumber ≤ 999
  name : StoredText 100 route.name
  color : isColor route.color = true
  lower : route.color.toLower = route.color
  frequency : route.frequencyMinutes ≤ 240
  points : 2 ≤ route.path.length
  path : ∀ p ∈ route.path, isValidLatitude p.lat = true ∧ isValidLongitude p.lng = true
  served : 2 ≤ route.stops.length
  stops : ∀ s ∈ route.stops,
    StoredText 100 s.name ∧ isValidLatitude s.lat = true ∧ isValidLongitude s.lng = true

structure Tidy (tables : Tables K) : Prop where
  titles : ∀ id alert, tables.alerts.lookup id = some alert → StoredText 120 alert.title
  messages : ∀ id alert, tables.alerts.lookup id = some alert → StoredText 500 alert.message
  codes : ∀ id bus, tables.db.buses.lookup id = some bus → isBusCode bus.code = true
  oneCode : ∀ id other bus bus', tables.db.buses.lookup id = some bus →
    tables.db.buses.lookup other = some bus' → bus.code = bus'.code → id = other
  routes : ∀ id route, tables.db.routes.lookup id = some route → StoredRoute route
  oneNumber : ∀ id other route route', tables.db.routes.lookup id = some route →
    tables.db.routes.lookup other = some route' → route.routeNumber = route'.routeNumber →
    id = other
  keys : ∀ id route, tables.db.routes.lookup id = some route → ∀ s ∈ route.stops,
    ∃ key < tables.db.nextStopId, s.id = some key

/-! ### Rows that are written -/

variable {tables after : Tables K}

theorem fewer_tidy (tidy : Tidy tables)
    (alerts : ∀ id alert, after.alerts.lookup id = some alert →
      tables.alerts.lookup id = some alert)
    (buses : ∀ id bus, after.db.buses.lookup id = some bus → tables.db.buses.lookup id = some bus)
    (routes : ∀ id route, after.db.routes.lookup id = some route →
      tables.db.routes.lookup id = some route)
    (next : after.db.nextStopId = tables.db.nextStopId) : Tidy after where
  titles id alert found := tidy.titles id alert (alerts id alert found)
  messages id alert found := tidy.messages id alert (alerts id alert found)
  codes id bus found := tidy.codes id bus (buses id bus found)
  oneCode id other bus bus' found found' :=
    tidy.oneCode id other bus bus' (buses id bus found) (buses other bus' found')
  routes id route found := tidy.routes id route (routes id route found)
  oneNumber id other route route' found found' :=
    tidy.oneNumber id other route route' (routes id route found) (routes other route' found')
  keys id route found s member := next ▸ tidy.keys id route (routes id route found) s member

theorem put_alert_tidy (tidy : Tidy tables) {alert : ServiceAlert}
    (title : StoredText 120 alert.title) (message : StoredText 500 alert.message) (next : Nat) :
    Tidy { tables.putAlert alert with nextAlertId := next } := by
  refine ⟨?_, ?_, tidy.codes, tidy.oneCode, tidy.routes, tidy.oneNumber, tidy.keys⟩
  · intro id other found
    simp only [Tables.putAlert, lookup_insert_eq] at found
    split at found
    · rw [← Option.some.inj found]
      exact title
    · exact tidy.titles id other found
  · intro id other found
    simp only [Tables.putAlert, lookup_insert_eq] at found
    split at found
    · rw [← Option.some.inj found]
      exact message
    · exact tidy.messages id other found

theorem put_bus_tidy (tidy : Tidy tables) {bus : Bus} (valid : isBusCode bus.code = true)
    (free : ∀ id other, tables.db.buses.lookup id = some other → other.code = bus.code →
      id = bus.id) (next : Nat) :
    Tidy { tables with db := { tables.db.putBus bus with nextBusId := next } } := by
  refine ⟨tidy.titles, tidy.messages, ?_, insert_distinct tidy.oneCode free, tidy.routes,
    tidy.oneNumber, tidy.keys⟩
  intro id other found
  simp only [Database.putBus, lookup_insert_eq] at found
  split at found
  · rw [← Option.some.inj found]
    exact valid
  · exact tidy.codes id other found

theorem stored_numbered {row : Route K} (stored : StoredRoute row) (next : Nat) :
    StoredRoute { row with stops := numberStops next row.stops } := by
  have stops : ∀ s ∈ numberStops next row.stops,
      StoredText 100 s.name ∧ isValidLatitude s.lat = true ∧ isValidLongitude s.lng = true := by
    intro s member
    obtain ⟨i, bound, rfl⟩ := mem_number_stops.mp member
    exact stored.stops row.stops[i] (List.getElem_mem bound)
  have served : 2 ≤ (numberStops next row.stops).length := by
    rw [length_number_stops]
    exact stored.served
  exact { stored with served, stops }

theorem save_route_tidy (tidy : Tidy tables) {row : Route K} (stored : StoredRoute row)
    (free : ∀ id other, tables.db.routes.lookup id = some other →
      other.routeNumber = row.routeNumber → id = row.id) (next : Nat) :
    Tidy { tables with db := { tables.db.saveRoute row with nextRouteId := next } } := by
  refine ⟨tidy.titles, tidy.messages, tidy.codes, tidy.oneCode, ?_,
    insert_distinct tidy.oneNumber free, ?_⟩
  · intro id other found
    simp only [Database.saveRoute, Database.putRoute, lookup_insert_eq] at found
    split at found
    · rw [← Option.some.inj found]
      exact stored_numbered stored _
    · exact tidy.routes id other found
  · intro id other found s member
    simp only [Database.saveRoute, Database.putRoute, lookup_insert_eq] at found ⊢
    split at found
    · rw [← Option.some.inj found] at member
      obtain ⟨i, bound, rfl⟩ := mem_number_stops.mp member
      exact ⟨tables.db.nextStopId + i, Nat.add_lt_add_left bound _, rfl⟩
    · obtain ⟨key, below, same⟩ := tidy.keys id other found s member
      exact ⟨key, Nat.lt_add_right _ below, same⟩

theorem updated_bus (tidy : Tidy tables) {next : Database K} {now : Int} {id : Nat}
    {request : BusRequest} (done : BusService.update tables.db now id request = .ok next) :
    ∃ bus, bus.code = request.code ∧ bus.id = id ∧ next = tables.db.putBus bus ∧
      ∀ other row, tables.db.buses.lookup other = some row → row.code = bus.code →
        other = bus.id := by
  unfold BusService.update at done
  split at done
  · cases done
  · rename_i old loaded
    have stored := BusService.get_entity_ok loaded
    split at done
    · cases done
    · rename_i free
      split at done
      · cases done
      · cases done
        have key : old.id = id := tables.db.busKeys id old stored
        refine ⟨_, rfl, ?_, rfl, ?_⟩
        · exact key
        · intro other row found same
          simp only [key]
          rw [Bool.not_eq_true, Option.isSome_eq_false_iff, Option.isNone_iff_eq_none,
            Option.filter_eq_none_iff] at free
          cases holder : findByCode tables.db request.code with
          | none => exact absurd same (code_free holder found)
          | some bus =>
              obtain ⟨here, stored'⟩ := mem_values.mp (List.mem_of_find?_eq_some holder)
              have code : bus.code = request.code := by simpa using List.find?_some holder
              have mine : bus.id = id := by simpa using free bus holder
              rw [← mine, tables.db.busKeys here bus stored']
              exact tidy.oneCode other here row bus found stored' (same.trans code.symm)

/-! ### Routes that are written -/

section Routes
variable [ToString K]

theorem path_point_iff {point : List K} {p : GeoPoint K} :
    pathPoint point = .ok p ↔ point = [p.lat, p.lng] ∧
      isValidLatitude p.lat = true ∧ isValidLongitude p.lng = true := by
  constructor
  · intro read
    unfold pathPoint at read
    split at read
    · split at read
      · rename_i inside
        cases read
        exact ⟨rfl, (Bool.and_eq_true _ _).mp inside⟩
      · cases read
    · cases read
  · rintro ⟨rfl, lat, lng⟩
    simp only [pathPoint, lat, lng, Bool.and_true, if_true]

theorem path_taken_iff {points : List (List K)} {path : List (GeoPoint K)} :
    points.mapM pathPoint = .ok path ↔ points = path.map (fun p => [p.lat, p.lng]) ∧
      ∀ p ∈ path, isValidLatitude p.lat = true ∧ isValidLongitude p.lng = true := by
  induction points generalizing path with
  | nil =>
      constructor
      · intro taken
        cases taken
        simp
      · rintro ⟨same, _⟩
        rw [List.map_eq_nil_iff.mp same.symm]
        rfl
  | cons point rest ih =>
      rw [List.mapM_cons]
      constructor
      · intro taken
        cases first : pathPoint point with
        | error problem =>
            rw [first] at taken
            cases taken
        | ok p =>
            cases later : rest.mapM pathPoint with
            | error problem =>
                rw [first, later] at taken
                cases taken
            | ok places =>
                rw [first, later] at taken
                cases taken
                obtain ⟨same, valid⟩ := path_point_iff.mp first
                obtain ⟨same', valid'⟩ := ih.mp later
                exact ⟨by rw [same, same', List.map_cons], List.forall_mem_cons.mpr ⟨valid, valid'⟩⟩
      · rintro ⟨same, valid⟩
        cases path with
        | nil => cases same
        | cons p places =>
            obtain ⟨here, there⟩ := List.cons.inj same
            obtain ⟨first, later⟩ := List.forall_mem_cons.mp valid
            rw [path_point_iff.mpr ⟨here, first⟩, ih.mpr ⟨there, later⟩]
            rfl

theorem hex_lower {c : Char} (hex : isHexDigit c = true) : isHexDigit c.toLower = true := by
  by_cases upper : c.isUpper = true
  · have range : 65 ≤ c.toNat ∧ c.toNat ≤ 70 := by
      simp only [Char.isUpper, ge_iff_le, decide_eq_true_eq] at upper
      have low : 65 ≤ c.toNat := upper.1
      have high : c.toNat ≤ 90 := upper.2
      simp only [isHexDigit, Bool.or_eq_true, Bool.and_eq_true, decide_eq_true_eq] at hex
      omega
    have shifted : (Char.ofNat (c.toNat + 32)).toNat = c.toNat + 32 := by
      rw [Char.toNat_ofNat, if_pos (Or.inl (by omega))]
    rw [Char.toLower_eq_of_isUpper upper, isHexDigit, shifted]
    simp only [Bool.or_eq_true, Bool.and_eq_true, decide_eq_true_eq]
    omega
  · rw [Char.toLower_eq_of_not_isUpper upper]
    exact hex

theorem color_lower {color : String} (valid : isColor color = true) :
    isColor color.toLower = true ∧ color.toLower.toLower = color.toLower := by
  constructor
  · unfold isColor at valid ⊢
    rw [String.toLower, String.toList_map]
    cases chars : color.toList with
    | nil => simp [chars] at valid
    | cons first digits =>
        rw [chars] at valid
        split at valid
        · rename_i same
          obtain ⟨rfl, rfl⟩ := List.cons.inj same
          simp only [Bool.and_eq_true, decide_eq_true_eq, List.all_eq_true] at valid
          show (decide ((digits.map Char.toLower).length = 6) &&
            (digits.map Char.toLower).all isHexDigit) = true
          simp only [Bool.and_eq_true, decide_eq_true_eq, List.all_eq_true, List.length_map,
            List.mem_map]
          refine ⟨valid.1, ?_⟩
          rintro _ ⟨c, member, rfl⟩
          exact hex_lower (valid.2 c member)
        · cases valid
  · rw [← String.toList_inj]
    simp only [String.toLower, String.toList_map, List.map_map]
    refine List.map_congr_left fun c _ => ?_
    exact Char.toLower_eq_of_not_isUpper (by simp)

theorem applied_stored {route row : Route K} {request : RouteRequest K}
    (valid : validRoute request = true) (applied : applyRequest route request = .ok row) :
    StoredRoute row := by
  unfold applyRequest at applied
  split at applied
  · cases applied
  · rename_i path taken
    cases applied
    obtain ⟨same, inside⟩ := path_taken_iff.mp taken
    simp only [validRoute, Bool.and_eq_true, decide_eq_true_eq, List.all_eq_true, validStop]
      at valid
    obtain ⟨⟨⟨⟨⟨number, filled, short⟩, color⟩, frequency⟩, points⟩, served, stops⟩ := valid
    obtain ⟨lower, twice⟩ := color_lower color
    refine ⟨number, stored_trim filled short, lower, twice, frequency, ?_, inside, ?_, ?_⟩
    · simpa [same] using points
    · simpa using served
    · intro s member
      obtain ⟨stop, asked, rfl⟩ := List.mem_map.mp member
      obtain ⟨⟨⟨filled, short⟩, lat⟩, lng⟩ := stops stop asked
      exact ⟨stored_trim filled short, lat, lng⟩

def writtenRow : RowWrite K → Option (Route K)
  | .insert row | .update row => some row
  | .delete _ _ => none

def requested : RouteService.Mutation K → Option (RouteRequest K)
  | .create request | .update _ request => some request
  | .delete _ => none

theorem body_stored {db : Database K} {mutation : RouteService.Mutation K} {write : RowWrite K}
    (valid : ∀ request, requested mutation = some request → validRoute request = true)
    (done : mutation.body db = .ok write) (row : Route K) (written : writtenRow write = some row) :
    StoredRoute row := by
  cases mutation with
  | create request =>
      simp only [Mutation.body, RouteService.create] at done
      split at done
      · cases done
      · cases applied : applyRequest newRoute request with
        | error problem =>
            rw [applied] at done
            cases done
        | ok stored =>
            rw [applied] at done
            cases done
            cases written
            exact applied_stored (valid request rfl) applied
  | update id request =>
      simp only [Mutation.body, RouteService.update] at done
      split at done
      · cases done
      · split at done
        · cases done
        · rename_i route _ _
          cases applied : applyRequest route request with
          | error problem =>
              rw [applied] at done
              cases done
          | ok stored =>
              rw [applied] at done
              cases done
              cases written
              exact applied_stored (valid request rfl) applied
  | delete id =>
      simp only [Mutation.body, RouteService.delete] at done
      split at done
      · cases done
      · split at done
        · cases done
        · cases done
          cases written

end Routes

/-! ### Runs -/

theorem stored_stamped {row : Route K} (stored : StoredRoute row) (id version : Nat) (now : Int) :
    StoredRoute { row with id := id, version := version, updatedAt := now } :=
  { stored with }

theorem commit_tidy (tidy : Tidy tables) {next : Database K} {now : Int} {write : RowWrite K}
    (stored : ∀ row, writtenRow write = some row → StoredRoute row)
    (committed : commit tables.db now write = .ok next) : Tidy { tables with db := next } := by
  cases write with
  | insert row =>
      simp only [commit] at committed
      split at committed
      · cases committed
      · rename_i untaken
        cases committed
        refine save_route_tidy tidy
          (stored_stamped (stored row rfl) tables.db.nextRouteId _ now) ?_ _
        intro id other found same
        exact absurd (number_free (eq_false_of_ne_true untaken) found same)
          (Option.some_ne_none id)
  | update row =>
      simp only [commit] at committed
      split at committed
      · cases committed
      · split at committed
        · cases committed
        · split at committed
          · cases committed
          · rename_i untaken
            cases committed
            refine save_route_tidy tidy (stored_stamped (stored row rfl) row.id _ now) ?_ _
            intro id other found same
            exact Option.some.inj (number_free (eq_false_of_ne_true untaken) found same)
  | delete id loaded =>
      simp only [commit] at committed
      split at committed
      · cases committed
      · split at committed
        · cases committed
        · cases committed
          refine fewer_tidy tidy (fun _ _ found => found) (fun _ _ found => found) ?_ rfl
          intro other route found
          simp only [Database.removeRoute, lookup_erase_eq] at found
          split at found
          · cases found
          · exact found

section Steps
variable [ToString K] {now : Int}

theorem write_route_tidy (tidy : Tidy tables) {mutation : RouteService.Mutation K}
    (valid : ∀ request, requested mutation = some request → validRoute request = true)
    (done : writeRoute false tables now mutation = .ok after) : Tidy after := by
  unfold writeRoute at done
  split at done
  · cases done
  · rename_i write body
    obtain ⟨next, committed, rfl⟩ := flush_ok done
    exact commit_tidy tidy (body_stored valid body) committed

omit [Field K] [LinearOrder K] [ToString K] in
theorem write_fleet_ok {result : Except ServiceException (Database K)}
    (done : writeFleet tables result = .ok after) :
    ∃ next, result = .ok next ∧ after = { tables with db := next } := by
  cases result with
  | error problem => cases done
  | ok next => exact ⟨next, rfl, (Except.ok.inj done).symm⟩

omit [ToString K] in
theorem create_alert_tidy (tidy : Tidy tables) {request : AlertRequest}
    {response : AlertResponse} (valid : validAlert request = true)
    (done : AlertService.create tables now request = .ok (after, response)) : Tidy after := by
  unfold AlertService.create at done
  split at done
  · cases done
  · rename_i alert route applied
    obtain ⟨title, message⟩ := written_texts applied
    obtain ⟨title', message'⟩ := valid_texts valid
    cases done
    rw [← title] at title'
    rw [← message] at message'
    have stored : StoredText 120 { alert with id := tables.nextAlertId, createdAt := now }.title :=
      title'
    exact put_alert_tidy tidy stored message' _

omit [ToString K] in
theorem update_alert_tidy (tidy : Tidy tables) {id : Nat} {request : AlertRequest}
    {response : AlertResponse} (valid : validAlert request = true)
    (done : AlertService.update tables now id request = .ok (after, response)) : Tidy after := by
  unfold AlertService.update at done
  split at done
  · cases done
  · split at done
    · cases done
    · rename_i alert route applied
      obtain ⟨title, message⟩ := written_texts applied
      obtain ⟨title', message'⟩ := valid_texts valid
      cases done
      rw [← title] at title'
      rw [← message] at message'
      exact put_alert_tidy tidy title' message' _

theorem attempt_tidy {operation : Operation K} (tidy : Tidy tables)
    (valid : validated tables (.call now operation))
    (done : attempt false tables now operation = .ok after) : Tidy after := by
  cases operation with
  | createRoute request =>
      refine write_route_tidy tidy ?_ done
      rintro _ ⟨⟩
      exact valid
  | updateRoute id request =>
      refine write_route_tidy tidy ?_ done
      rintro _ ⟨⟩
      exact valid
  | deleteRoute id => exact write_route_tidy tidy (fun _ none => by cases none) done
  | createBus request =>
      obtain ⟨next, made, rfl⟩ := write_fleet_ok done
      obtain ⟨bus, code, free, rfl⟩ := created_bus made
      refine put_bus_tidy tidy (code ▸ request.code_valid) ?_ _
      intro id other found same
      exact absurd same (code_free free found)
  | updateBus id request =>
      obtain ⟨next, made, rfl⟩ := write_fleet_ok done
      obtain ⟨bus, code, _, rfl, free⟩ := updated_bus tidy made
      exact put_bus_tidy tidy (code ▸ request.code_valid) free _
  | deleteBus id =>
      obtain ⟨next, made, rfl⟩ := write_fleet_ok done
      obtain ⟨_, _, rfl⟩ := BusService.delete_ok made
      refine fewer_tidy tidy (fun _ _ found => found) ?_ (fun _ _ found => found) rfl
      intro other bus found
      simp only [Database.removeBus, lookup_erase_eq] at found
      split at found
      · cases found
      · exact found
  | createAlert request =>
      simp only [attempt] at done
      cases result : AlertService.create tables now request with
      | error problem =>
          rw [result] at done
          cases done
      | ok written =>
          rw [result] at done
          cases done
          exact create_alert_tidy tidy valid result
  | updateAlert id request =>
      simp only [attempt] at done
      cases result : AlertService.update tables now id request with
      | error problem =>
          rw [result] at done
          cases done
      | ok written =>
          rw [result] at done
          cases done
          exact update_alert_tidy tidy valid result
  | deleteAlert id =>
      obtain ⟨gone, rfl⟩ := AlertService.delete_ok done
      refine fewer_tidy tidy ?_ (fun _ _ found => found) (fun _ _ found => found) rfl
      intro other alert found
      simp only [Tables.removeAlert, lookup_erase_eq] at found
      split at found
      · cases found
      · exact found

omit [ToString K] in
theorem empty_tidy : Tidy (Tables.of (Database.empty : Database K)) := by
  constructor <;> simp [Tables.of, Database.empty]

end Steps

/-! ### A start of the application -/

section Seeds

theorem text_stored {limit : Nat} {text : String} (trimmed : trim text = text)
    (filled : text ≠ "") (short : utf16Length text ≤ limit) : StoredText limit text := by
  refine ⟨?_, filled, short⟩
  rw [Trimmed, ← trim_eq, trimmed]

def seedable (number : Nat) (name color : String) (frequency : Nat) (points : List (Nat × Nat))
    (places : List (String × Nat × Nat)) : Bool :=
  (1 ≤ number && number ≤ 999) && (trim name = name && name ≠ "" && utf16Length name ≤ 100) &&
    (isColor color && color.toLower = color && frequency ≤ 240) &&
    (2 ≤ points.length && points.all fun p => p.1 ≤ 90000000 && p.2 ≤ 180000000) &&
    (2 ≤ places.length && places.all fun s =>
      (trim s.1 = s.1 && s.1 ≠ "" && utf16Length s.1 ≤ 100) &&
        (s.2.1 ≤ 90000000 && s.2.2 ≤ 180000000))

variable [IsStrictOrderedRing K]

theorem degrees_valid {lat lng : Nat} (below : lat ≤ 90000000) (below' : lng ≤ 180000000) :
    isValidLatitude (degrees lat : K) = true ∧ isValidLongitude (degrees lng : K) = true := by
  have million : (0 : K) < ((1000000 : Nat) : K) := by positivity
  have north : (lat : K) ≤ ((90000000 : Nat) : K) := Nat.cast_le.mpr below
  have east : (lng : K) ≤ ((180000000 : Nat) : K) := Nat.cast_le.mpr below'
  have lat_nonneg : (0 : K) ≤ degrees lat := by unfold degrees; positivity
  have lng_nonneg : (0 : K) ≤ degrees lng := by unfold degrees; positivity
  have lat_le : (degrees lat : K) ≤ 90 := by
    rw [degrees, div_le_iff₀ million]
    push_cast at north ⊢
    linarith
  have lng_le : (degrees lng : K) ≤ 180 := by
    rw [degrees, div_le_iff₀ million]
    push_cast at east ⊢
    linarith
  constructor
  · simp only [isValidLatitude, Bool.and_eq_true, decide_eq_true_eq]
    exact ⟨by linarith, lat_le⟩
  · simp only [isValidLongitude, Bool.and_eq_true, decide_eq_true_eq]
    exact ⟨by linarith, lng_le⟩

theorem seed_stored {number frequency : Nat} {name color : String} {firstBus lastBus : LocalTime}
    {points : List (Nat × Nat)} {places : List (String × Nat × Nat)} {runs : frequency ≠ 0}
    (checked : seedable number name color frequency points places = true) :
    StoredRoute (route number name color firstBus lastBus frequency (path points) (stops places)
      runs : Route K) := by
  simp only [seedable, Bool.and_eq_true, decide_eq_true_eq, List.all_eq_true] at checked
  obtain ⟨⟨⟨⟨range, ⟨trimmed, filled⟩, short⟩, ⟨valid, lower⟩, seldom⟩, points, inside⟩, served,
    named⟩ := checked
  refine ⟨range, text_stored trimmed filled short, valid, lower, seldom, ?_, ?_, ?_, ?_⟩
  · simpa [route, path] using points
  · intro p member
    obtain ⟨point, listed, rfl⟩ := List.mem_map.mp member
    exact degrees_valid (inside point listed).1 (inside point listed).2
  · simpa [route, stops] using served
  · intro s member
    obtain ⟨place, listed, rfl⟩ := List.mem_map.mp member
    obtain ⟨⟨⟨trimmed, filled⟩, short⟩, lat, lng⟩ := named place listed
    exact ⟨text_stored trimmed filled short, degrees_valid lat lng⟩

theorem seeds_stored : ∀ row ∈ ([r1, r2, r3, r4] : List (Route K)), StoredRoute row := by
  intro row member
  simp only [List.mem_cons, List.not_mem_nil, or_false] at member
  rcases member with rfl | rfl | rfl | rfl
  · exact seed_stored (by decide +kernel)
  · exact seed_stored (by decide +kernel)
  · exact seed_stored (by decide +kernel)
  · exact seed_stored (by decide +kernel)

variable {encode : NewAccount → String} {now : Int}

omit [IsStrictOrderedRing K] in
theorem save_bus_tidy {db next : Database K} {firstRoute : Nat} {bus : String × Nat}
    (tidy : Tidy { tables with db := db }) (member : bus ∈ fleet)
    (saved : saveBus now firstRoute db bus = .ok next) : Tidy { tables with db := next } := by
  have codes : ∀ bus ∈ fleet, isBusCode bus.1 = true := by decide
  unfold saveBus at saved
  split at saved
  · cases saved
  · rename_i free
    cases saved
    refine put_bus_tidy tidy (codes bus member) ?_ _
    intro id other found same
    exact absurd same ((code_free_iff db bus.1).mp (eq_false_of_ne_true free) id other found)

omit [IsStrictOrderedRing K] in
theorem save_user_tidy {db next : Database K} {firstBus : Nat} {account : NewAccount}
    (tidy : Tidy { tables with db := db })
    (saved : saveUser encode firstBus db account = .ok next) :
    Tidy { tables with db := next } := by
  unfold saveUser at saved
  split at saved
  · cases saved
  · cases saved
    exact ⟨tidy.titles, tidy.messages, tidy.codes, tidy.oneCode, tidy.routes, tidy.oneNumber,
      tidy.keys⟩

theorem boot_tidy (tidy : Tidy tables) (done : run encode tables now = .ok after) : Tidy after := by
  rcases run_ok encode done with rfl | ⟨_, routed, manned, db, routes, buses, users, rfl⟩
  · exact tidy
  · have routedTidy : Tidy { tables with db := routed } := by
      apply saves_keep (fun db => Tidy { tables with db := db }) ?_ tidy routes
      intro db row next member tidy saved
      refine commit_tidy tidy ?_ saved
      rintro _ ⟨⟩
      exact seeds_stored row member
    have mannedTidy : Tidy { tables with db := manned } := by
      apply saves_keep (fun db => Tidy { tables with db := db }) ?_ routedTidy buses
      exact fun db bus next member tidy saved => save_bus_tidy tidy member saved
    apply saves_keep (fun db => Tidy { tables with db := db }) ?_ mannedTidy users
    exact fun db account next _ tidy saved => save_user_tidy tidy saved

variable [ToString K]

theorem step_tidy {event : Event K} (tidy : Tidy tables)
    (taken : guarded validated (lives encode) tables event after) : Tidy after := by
  obtain ⟨valid, taken⟩ := taken
  cases event with
  | boot now =>
      cases started : run encode tables now with
      | error problem =>
          have same : tables = after := by rw [← taken, started]; rfl
          exact same ▸ tidy
      | ok seeded =>
          have same : seeded = after := by rw [← taken, started]; rfl
          exact same ▸ boot_tidy tidy started
  | call now operation =>
      have same : perform false tables now operation = after := taken
      unfold perform at same
      split at same
      · exact same ▸ tidy
      · rename_i done
        exact same ▸ attempt_tidy tidy valid done

variable {events : List (Event K)}

/-- However the application is started and used, the tables are tidy. -/
theorem run_tidy
    (history : Run (guarded validated (lives encode)) (Tables.of Database.empty) events tables) :
    Tidy tables :=
  run_invariant Tidy (fun _ _ _ taken tidy => step_tidy tidy taken) history empty_tidy

end Seeds

end Tidy

/-! ## A route that is sent back -/

section SentBack
variable {K : Type} [Field K] [LinearOrder K] [ToString K]

def sentBack (shown : RouteResponse K) (positive : 0 < shown.frequencyMinutes) :
    RouteRequest K where
  routeNumber := shown.routeNumber
  name := shown.name
  color := shown.color
  firstBus := shown.firstBus
  lastBus := shown.lastBus
  frequencyMinutes := shown.frequencyMinutes
  active := some shown.active
  path := shown.path.map fun p => [p.1, p.2]
  stops := shown.stops
  frequency_pos := positive

def putBack (tables : Tables K) (now : Int) (id : Nat) (shown : RouteResponse K) :
    Option (Tables K) :=
  if positive : 0 < shown.frequencyMinutes then
    if validRoute (sentBack shown positive) then
      (attempt false tables now (.updateRoute id (sentBack shown positive))).toOption
    else none
  else none

/-- The stop that `applyRequest` makes of one that was given out. -/
def unsaved (s : Stop K) : Stop K := { s with id := none }

/-- The same stops under keys of which none is in the tables. -/
structure Rekeyed (tables : Tables K) (old new : List (Stop K)) : Prop where
  same : new.map unsaved = old.map unsaved
  keyed : ∀ s ∈ new, ∃ key, s.id = some key
  apart : (new.map (·.id)).Nodup
  fresh : ∀ s ∈ new, ∀ id route, tables.db.routes.lookup id = some route →
    ∀ known ∈ route.stops, known.id ≠ s.id

theorem stored_kept {limit : Nat} {text : String} (stored : StoredText limit text) :
    trim text = text := by
  rw [← String.toList_inj, trim_eq]
  exact stored.trimmed

variable {tables : Tables K} {id : Nat} {route : Route K}

omit [ToString K] in
theorem sent_valid (stored : StoredRoute route) (db : Database K) :
    validRoute (sentBack (toResponse db route) route.frequency_pos) = true := by
  have stops : ∀ s ∈ route.stops, validStop (⟨s.id, s.name, s.lat, s.lng⟩ : StopDto K) = true := by
    intro s member
    obtain ⟨name, lat, lng⟩ := stored.stops s member
    simp [validStop, stored_kept name, name.filled, name.short, lat, lng]
  simpa [validRoute, sentBack, toResponse, stored_kept stored.name, stored.name.filled,
    stored.name.short, stored.color, stored.number, stored.frequency, stored.points, stored.served]
    using stops

/-- What is made of the request is the row itself, with stops that are not saved yet. -/
theorem sent_applied (stored : StoredRoute route) (db : Database K) :
    applyRequest route (sentBack (toResponse db route) route.frequency_pos) =
      .ok { route with stops := route.stops.map unsaved } := by
  have path : (sentBack (toResponse db route) route.frequency_pos).path.mapM pathPoint =
      .ok route.path := by
    refine path_taken_iff.mpr ⟨?_, stored.path⟩
    simp [sentBack, toResponse]
  have stops : route.stops.map (fun s => (⟨none, trim s.name, s.lat, s.lng⟩ : Stop K)) =
      route.stops.map unsaved := by
    refine List.map_congr_left fun s member => ?_
    rw [stored_kept (stored.stops s member).1, unsaved]
  simp only [applyRequest, path]
  simp only [sentBack, toResponse, stored_kept stored.name, stored.lower, Option.getD_some,
    List.map_map, Function.comp_def, stops]

omit [Field K] [LinearOrder K] [ToString K] in
theorem number_unsaved (next : Nat) (stops : List (Stop K)) :
    (numberStops next stops).map unsaved = stops.map unsaved := by
  refine List.ext_getElem (by simp) fun i _ _ => ?_
  simp [numberStops, unsaved]

omit [ToString K] in
theorem saved_rekeyed (tidy : Tidy tables) (stops : List (Stop K)) :
    Rekeyed tables stops (numberStops tables.db.nextStopId (stops.map unsaved)) where
  same := by
    rw [number_unsaved, List.map_map]
    exact List.map_congr_left fun _ _ => rfl
  keyed s member := by
    obtain ⟨i, bound, rfl⟩ := mem_number_stops.mp member
    exact ⟨_, rfl⟩
  apart := by
    rw [List.nodup_iff_injective_getElem]
    intro i j same
    simp only [numberStops, List.getElem_map, List.getElem_mapIdx, Option.some.injEq] at same
    exact Fin.ext (Nat.add_left_cancel same)
  fresh s member id route found known listed := by
    obtain ⟨i, bound, rfl⟩ := mem_number_stops.mp member
    obtain ⟨key, below, same⟩ := tidy.keys id route found known listed
    rw [same]
    intro taken
    have key' : key = tables.db.nextStopId + i := Option.some.inj taken
    omega

omit [ToString K] in
theorem own_number (tidy : Tidy tables) (found : tables.db.routes.lookup id = some route) :
    (findByRouteNumber tables.db route.routeNumber).filter (fun other => other.id ≠ id) = none := by
  rw [Option.filter_eq_none_iff]
  intro other holder
  obtain ⟨here, stored⟩ := mem_values.mp (List.mem_of_find?_eq_some holder)
  have number : other.routeNumber = route.routeNumber := by simpa using List.find?_some holder
  have same := tidy.oneNumber here id other route stored found number
  simp [tables.db.routeKeys here other stored, same]

omit [ToString K] in
theorem own_number_free (tidy : Tidy tables) (found : tables.db.routes.lookup id = some route) :
    routeNumberTaken tables.db (some id) route.routeNumber = false := by
  refine List.any_eq_false.mpr fun other member => ?_
  obtain ⟨here, stored⟩ := mem_values.mp member
  by_cases number : other.routeNumber = route.routeNumber
  · have same := tidy.oneNumber here id other route stored found number
    simp [tables.db.routeKeys here other stored, same]
  · simp [number]

variable [IsStrictOrderedRing K] {encode : NewAccount → String} {events : List (Event K)}

/-- The server takes a route as it gave it out, whatever was written before, and only the
version and the time of the row change and the keys of its stops, which are new. -/
theorem route_put_back
    (history : Run (guarded validated (lives encode)) (Tables.of Database.empty) events tables)
    (found : tables.db.routes.lookup id = some route) (now : Int) :
    ∃ stops, Rekeyed tables route.stops stops ∧
      putBack tables now id (toResponse tables.db route) = some { tables with
        db := { tables.db.putRoute
            { route with stops := stops, version := route.version + 1, updatedAt := now } with
          nextStopId := tables.db.nextStopId + stops.length } } := by
  have tidy := run_tidy history
  have stored := tidy.routes id route found
  obtain rfl : route.id = id := tables.db.routeKeys id route found
  have body : (Mutation.update route.id
      (sentBack (toResponse tables.db route) route.frequency_pos)).body tables.db =
        .ok (.update { route with stops := route.stops.map unsaved }) := by
    have number : (sentBack (toResponse tables.db route) route.frequency_pos).routeNumber =
        route.routeNumber := rfl
    simp only [Mutation.body, RouteService.update, getEntity, found, number, own_number tidy found,
      Option.isSome_none, sent_applied stored]
    rfl
  have committed : commit tables.db now (.update { route with stops := route.stops.map unsaved }) =
      .ok (tables.db.saveRoute { route with
        stops := route.stops.map unsaved, version := route.version + 1, updatedAt := now }) := by
    simp [commit, found, own_number_free tidy found]
  have positive : 0 < (toResponse tables.db route).frequencyMinutes := route.frequency_pos
  refine ⟨_, saved_rekeyed tidy route.stops, ?_⟩
  rw [putBack, dif_pos positive, if_pos (sent_valid stored tables.db), attempt,
    writeRoute, body, length_number_stops]
  simp only [flush, Bool.false_and, committed]
  rfl

end SentBack

theorem gate_put_back : ∃ (tables : Tables ℚ) (route : Route ℚ) (stops : List (Stop ℚ)),
    Run (guarded validated (lives fun account => account.username)) (Tables.of Database.empty)
        [.call 5 (.createRoute gateRequest)] tables ∧
      Rekeyed tables route.stops stops ∧
      putBack tables 9 1 (toResponse tables.db route) = some { tables with
        db := { tables.db.putRoute
            { route with stops := stops, version := route.version + 1, updatedAt := 9 } with
          nextStopId := tables.db.nextStopId + stops.length } } := by
  have history : ∃ (tables : Tables ℚ) (route : Route ℚ),
      Run (guarded validated (lives fun account => account.username)) (Tables.of Database.empty)
          [.call 5 (.createRoute gateRequest)] tables ∧ tables.db.routes.lookup 1 = some route :=
    ⟨_, _, Run.next ⟨show validRoute gateRequest = true by decide +kernel, rfl⟩ (Run.refl _), rfl⟩
  obtain ⟨tables, route, history, found⟩ := history
  obtain ⟨stops, rekeyed, taken⟩ := route_put_back history found 9
  exact ⟨tables, route, stops, history, rekeyed, taken⟩

end CityBus.StoredRows
