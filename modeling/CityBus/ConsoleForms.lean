import CityBus.StoredRows

/-!
The notice form and the bus form of admin.js. An administrator opens the form of a
row and saves it as it stands: what the row is like afterwards. The form controls of
the browser change the texts they are given, and an expiry is edited in minutes of
the local clock, whose offset changes in the course of the year.
-/

namespace CityBus.ConsoleForms

open DataSeeder (Event NewAccount lives)
open GuardedRuns KeyedMaps RouteForm RouteService Services Store StoredRows Texts
open AlertService (AlertRequest AlertResponse respond)
open BusService (BusRequest BusResponse busRoute isBusCode)

/-! ## Form controls -/

/-- The value of a select after it was set; there is none where no option has it. -/
def chosen (options : List Nat) (routeId : Nat) : Option Nat :=
  if routeId ∈ options then some routeId else none

def hasYear (clock : Int) : Bool := -62135596800000 ≤ clock && clock < 253402300800000

/-- The clock of a browser: the minutes it is ahead of UTC at an instant, and those that a
reading of it is taken to be ahead. Where the clock is put back a reading comes twice and
is taken for the first time, where it is put forward a skipped one is taken by the old offset. -/
structure Zone where
  ahead : Int → Int
  aheadAt : Int → Int

def Zone.clock (zone : Zone) (instant : Int) : Int := instant + zone.ahead instant * 60000

def Zone.utc (zone : Zone) (reading : Int) : Int := reading - zone.aheadAt reading * 60000

/-- `local.setMinutes(local.getMinutes() - local.getTimezoneOffset())`, which sets the minutes
of the local clock. -/
def Zone.shifted (zone : Zone) (instant : Int) : Int :=
  zone.utc (zone.clock instant + zone.ahead instant * 60000)

/-- The minute that `datetime-local` shows. It takes no year of more than four digits. -/
def localMinute (zone : Zone) (instant : Int) : Option Int :=
  if hasYear (zone.shifted instant) then some (zone.shifted instant / 60000) else none

def ofLocalMinute (zone : Zone) (minute : Int) : Int := zone.utc (minute * 60000)

def summerTime (forward back : Int) : Zone where
  ahead instant := if forward ≤ instant ∧ instant < back then 60 else 0
  aheadAt reading := if forward + 3600000 ≤ reading ∧ reading < back + 3600000 then 60 else 0

/-! ## The notice form -/

structure AlertForm where
  title : String
  message : String
  severity : Severity
  routeId : Option Nat
  active : Bool
  expiresAt : Option Int

section Alerts
variable {K : Type}

def openAlertModal (zone : Zone) (routes : List (RouteResponse K)) (alert : AlertResponse) :
    AlertForm where
  title := lineValue alert.title
  message := areaValue alert.message
  severity := alert.severity
  routeId := alert.routeId.bind (chosen (routes.map (·.id)))
  active := alert.active
  expiresAt := alert.expiresAt.bind (localMinute zone)

def saveAlert (zone : Zone) (form : AlertForm) : AlertRequest where
  title := jsTrim form.title
  message := jsTrim form.message
  severity := form.severity
  routeId := form.routeId
  active := some form.active
  expiresAt := form.expiresAt.map (ofLocalMinute zone)

def putAlert (tables : Tables K) (now : Int) (id : Nat) (request : AlertRequest) :
    Option (Tables K) :=
  if validAlert request then
    (AlertService.update tables now id request).toOption.map Prod.fst
  else none

end Alerts

/-! ## The bus form -/

structure BusForm where
  code : String
  routeId : Option Nat
  active : Bool

structure BusPayload where
  code : String
  routeId : Nat
  active : Bool

section Buses
variable {K : Type}

/-- No choice counts as zero. -/
def saveBus (form : BusForm) : BusPayload where
  code := (jsTrim form.code).toLower
  routeId := form.routeId.getD 0
  active := form.active

def putBus (tables : Tables K) (now : Int) (id : Nat) (payload : BusPayload) :
    Option (Tables K) :=
  if valid : isBusCode payload.code = true then
    (BusService.update tables.db now id
      ⟨payload.code, payload.routeId, some payload.active, valid⟩).toOption.map fun db =>
        { tables with db := db }
  else none

end Buses

/-! ## A notice is saved as it stands -/

/-- The form keeps the row: no text loses anything to its control or to the trimming of
the browser, and the expiry is a whole minute, shown in a year that the control takes, that
the browser reads back from what it shows. -/
structure Carries (zone : Zone) (alert : ServiceAlert) : Prop where
  title : ('\n' ∉ alert.title.toList ∧ '\r' ∉ alert.title.toList) ∧
    Trimmed isJsSpace alert.title.toList
  message : '\r' ∉ alert.message.toList ∧ Trimmed isJsSpace alert.message.toList
  expiry : ∀ expiry ∈ alert.expiresAt, hasYear (zone.shifted expiry) = true ∧
    expiry % 60000 = 0 ∧ zone.utc (zone.shifted expiry) = expiry

def resaved (zone : Zone) (alert : ServiceAlert) : ServiceAlert :=
  { alert with
    title := trim (jsTrim (lineValue alert.title))
    message := trim (jsTrim (areaValue alert.message))
    expiresAt := (alert.expiresAt.bind (localMinute zone)).map (ofLocalMinute zone) }

/-! ### Texts -/

theorem js_trim_chars (text : String) : (jsTrim text).toList = trimBy isJsSpace text.toList := by
  rw [jsTrim, String.toList_ofList]

theorem title_kept_iff {text : String} (stored : Trimmed (· ≤ ' ') text.toList) :
    trim (jsTrim (lineValue text)) = text ↔
      ('\n' ∉ text.toList ∧ '\r' ∉ text.toList) ∧ Trimmed isJsSpace text.toList := by
  rw [← String.toList_inj, trim_eq, js_trim_chars, lineValue, String.toList_ofList,
    ← line_chars_iff]
  constructor
  · intro kept
    have sub : text.toList.Sublist (lineChars text.toList) := by
      have twice := (trim_sublist (· ≤ ' ') _).trans
        (trim_sublist isJsSpace (lineChars text.toList))
      rwa [kept] at twice
    have clean : lineChars text.toList = text.toList := List.filter_sublist.antisymm sub
    rw [clean] at kept
    exact ⟨clean, (trim_twice_iff.mp kept).1⟩
  · rintro ⟨clean, trimmed⟩
    rw [clean]
    exact trim_twice_iff.mpr ⟨trimmed, stored⟩

theorem message_kept_iff {text : String} (stored : Trimmed (· ≤ ' ') text.toList) :
    trim (jsTrim (areaValue text)) = text ↔
      '\r' ∉ text.toList ∧ Trimmed isJsSpace text.toList := by
  rw [← String.toList_inj, trim_eq, js_trim_chars, areaValue, String.toList_ofList]
  constructor
  · intro kept
    have clean : '\r' ∉ text.toList := by
      intro member
      rw [← kept] at member
      exact area_chars_clean text.toList (mem_trim (mem_trim member))
    rw [(area_chars_iff text.toList).mpr clean] at kept
    exact ⟨clean, (trim_twice_iff.mp kept).1⟩
  · rintro ⟨clean, trimmed⟩
    rw [(area_chars_iff text.toList).mpr clean]
    exact trim_twice_iff.mpr ⟨trimmed, stored⟩

/-- An expiry loses its seconds, and all of it past the year 9999. -/
theorem expiry_resaved (zone : Zone) (expiry : Int) :
    (localMinute zone expiry).map (ofLocalMinute zone) =
      if hasYear (zone.shifted expiry) then
        some (zone.utc (zone.shifted expiry - zone.shifted expiry % 60000))
      else none := by
  unfold localMinute ofLocalMinute
  split
  · rw [Option.map_some, Option.some.injEq]
    congr 1
    omega
  · rfl

-- Half an hour before the clock is put back the shift leads past that hour.
example : (localMinute (summerTime 0 86400000) 84600000).map
    (ofLocalMinute (summerTime 0 86400000)) = some (84600000 + 2 * 3600000) := by decide

/-- Where the shift and the reading meet the offset of the expiry itself, the form shows
the local clock and reads it back. -/
theorem steady_read_back {zone : Zone} {expiry : Int}
    (shift : zone.aheadAt (zone.clock expiry + zone.ahead expiry * 60000) = zone.ahead expiry)
    (reading : zone.aheadAt (zone.clock expiry) = zone.ahead expiry) :
    zone.shifted expiry = zone.clock expiry ∧ zone.utc (zone.shifted expiry) = expiry := by
  have shown : zone.shifted expiry = zone.clock expiry := by
    rw [Zone.shifted, Zone.utc, shift]
    omega
  refine ⟨shown, ?_⟩
  rw [shown, Zone.utc, reading, Zone.clock]
  omega

theorem expiry_kept_iff (zone : Zone) (expiresAt : Option Int) :
    (expiresAt.bind (localMinute zone)).map (ofLocalMinute zone) = expiresAt ↔
      ∀ expiry ∈ expiresAt, hasYear (zone.shifted expiry) = true ∧ expiry % 60000 = 0 ∧
        zone.utc (zone.shifted expiry) = expiry := by
  cases expiresAt with
  | none => simp
  | some expiry =>
      -- Offsets are whole minutes, so the seconds of the expiry are those that are shown.
      have seconds : zone.shifted expiry % 60000 = expiry % 60000 := by
        unfold Zone.shifted Zone.utc Zone.clock
        omega
      rw [Option.bind_some, expiry_resaved]
      simp only [Option.mem_def, Option.some.injEq, forall_eq']
      constructor
      · intro kept
        split at kept
        · rename_i year
          have same := Option.some.inj kept
          have whole : expiry % 60000 = 0 := by
            unfold Zone.utc at same
            omega
          rw [seconds, whole, sub_zero] at same
          exact ⟨year, whole, same⟩
        · cases kept
      · rintro ⟨year, whole, same⟩
        rw [if_pos year, seconds, whole, sub_zero, same]

section Resave
variable {K : Type} {tables after : Tables K} {zone : Zone} {shownAt now : Int} {id : Nat}
  {alert : ServiceAlert} {response : AlertResponse}

theorem resaved_iff (title : StoredText 120 alert.title) (message : StoredText 500 alert.message) :
    resaved zone alert = alert ↔ Carries zone alert := by
  have parts : resaved zone alert = alert ↔
      trim (jsTrim (lineValue alert.title)) = alert.title ∧
        trim (jsTrim (areaValue alert.message)) = alert.message ∧
        (alert.expiresAt.bind (localMinute zone)).map (ofLocalMinute zone) = alert.expiresAt := by
    obtain ⟨id, title, message, severity, routeId, active, createdAt, expiresAt⟩ := alert
    simp [resaved]
  rw [parts, title_kept_iff title.trimmed, message_kept_iff message.trimmed, expiry_kept_iff]
  exact ⟨fun ⟨first, second, third⟩ => ⟨first, second, third⟩,
    fun carries => ⟨carries.title, carries.message, carries.expiry⟩⟩

theorem route_listed {db : Database K} {routeId : Nat} {route : Route K}
    (found : db.routes.lookup routeId = some route) :
    route.id ∈ (RouteService.findAll db).map (·.id) := by
  refine List.mem_map.mpr ⟨toResponse db route, List.mem_map.mpr ⟨route, ?_, rfl⟩, rfl⟩
  exact List.mem_mergeSort.mpr (mem_values.mpr ⟨routeId, found⟩)

variable (zone) in
theorem scope_kept (delivered : respond tables.db shownAt alert = some response) :
    (openAlertModal zone (RouteService.findAll tables.db) response).routeId = alert.routeId ∧
      ∀ routeId ∈ alert.routeId, ∃ route, tables.db.routes.lookup routeId = some route ∧
        route.id = routeId := by
  obtain ⟨route, loaded, rfl⟩ := Option.map_eq_some_iff.mp delivered
  unfold AlertService.alertRoute at loaded
  cases named : alert.routeId with
  | none =>
      rw [named] at loaded
      cases loaded
      exact ⟨rfl, nofun⟩
  | some routeId =>
      rw [named] at loaded
      obtain ⟨row, found, rfl⟩ := Option.map_eq_some_iff.mp loaded
      have key := tables.db.routeKeys routeId row found
      constructor
      · have listed := route_listed found
        rw [key] at listed
        simp only [openAlertModal, AlertService.responseFrom, Option.map_some, Option.bind_some,
          chosen, if_pos listed, key]
      · rintro other same
        cases same
        exact ⟨row, found, key⟩

theorem resave_put (found : tables.alerts.lookup id = some alert)
    (delivered : respond tables.db shownAt alert = some response) :
    putAlert tables now id
        (saveAlert zone (openAlertModal zone (RouteService.findAll tables.db) response)) =
      if validAlert (saveAlert zone
          (openAlertModal zone (RouteService.findAll tables.db) response)) then
        some (tables.putAlert (resaved zone alert))
      else none := by
  obtain ⟨scope, exist⟩ := scope_kept zone delivered
  obtain ⟨route, loaded, rfl⟩ := Option.map_eq_some_iff.mp delivered
  unfold putAlert
  congr 1
  simp only [AlertService.update, AlertService.getEntity, found, AlertService.apply, saveAlert,
    scope]
  cases named : alert.routeId with
  | none => simp [resaved, openAlertModal, AlertService.responseFrom, named, Except.toOption]
  | some routeId =>
      obtain ⟨row, stored, key⟩ := exist routeId named
      simp [stored, key, resaved, openAlertModal, AlertService.responseFrom, named,
        Except.toOption]

theorem stored_valid {limit : Nat} {text : String} (stored : StoredText limit text) :
    (trim text ≠ "" && utf16Length text ≤ limit) = true := by
  have kept : trim text = text := by
    rw [← String.toList_inj, trim_eq]
    exact stored.trimmed
  simp [kept, stored.filled, stored.short]

theorem carried_valid (title : StoredText 120 alert.title) (message : StoredText 500 alert.message)
    (carries : Carries zone alert) (delivered : respond tables.db shownAt alert = some response) :
    validAlert (saveAlert zone
      (openAlertModal zone (RouteService.findAll tables.db) response)) = true := by
  obtain ⟨route, loaded, rfl⟩ := Option.map_eq_some_iff.mp delivered
  have first : jsTrim (lineValue alert.title) = alert.title := by
    rw [← String.toList_inj, js_trim_chars, lineValue, String.toList_ofList,
      (line_chars_iff _).mpr carries.title.1]
    exact carries.title.2
  have second : jsTrim (areaValue alert.message) = alert.message := by
    rw [← String.toList_inj, js_trim_chars, areaValue, String.toList_ofList,
      (area_chars_iff _).mpr carries.message.1]
    exact carries.message.2
  simp only [validAlert, saveAlert, openAlertModal, AlertService.responseFrom, first, second]
  rw [Bool.and_eq_true]
  exact ⟨stored_valid title, stored_valid message⟩

variable [Field K] [LinearOrder K] [IsStrictOrderedRing K] [ToString K]
  {encode : NewAccount → String} {events : List (Event K)}

/-- A notice that is opened and saved without a change is taken and stays as it is exactly
when its form carries it: no text has line breaks that its control drops or blanks at its
ends that only the browser trims, and it expires at a whole minute, before the year 10000,
that the clock of the browser reads back from the minute it shows. -/
theorem notice_resaved_iff
    (history : Run (guarded validated (lives encode)) (Tables.of Database.empty) events tables)
    (found : tables.alerts.lookup id = some alert)
    (delivered : respond tables.db shownAt alert = some response) :
    (∃ after, putAlert tables now id (saveAlert zone
        (openAlertModal zone (RouteService.findAll tables.db) response)) = some after ∧
      after.alerts.lookup id = some alert) ↔ Carries zone alert := by
  have tidy := run_tidy history
  have title := tidy.titles id alert found
  have message := tidy.messages id alert found
  have key : (resaved zone alert).id = id := by
    simp only [resaved]
    exact tables.alertKeys id alert found
  have row : (tables.putAlert (resaved zone alert)).alerts.lookup id =
      some (resaved zone alert) := by
    rw [Tables.putAlert, lookup_insert_eq, if_pos key.symm]
  rw [← resaved_iff title message, resave_put found delivered]
  constructor
  · rintro ⟨after, taken, same⟩
    split at taken
    · cases taken
      exact Option.some.inj (row.symm.trans same)
    · cases taken
  · intro same
    have valid := carried_valid title message ((resaved_iff title message).mp same) delivered
    rw [if_pos valid]
    exact ⟨_, rfl, by rw [row, same]⟩

end Resave

def worksUntilNoon : AlertRequest :=
  ⟨"Pier closed", "Works until noon", .WARNING, none, none, some 43200000⟩

/-- The clock is put back in the night after the notice has expired. -/
theorem noon_resaved : ∃ (tables after : Tables ℚ) (alert : ServiceAlert) (response : AlertResponse),
    Run (guarded validated (lives fun account => account.username)) (Tables.of Database.empty)
        [.call 5 (.createAlert worksUntilNoon)] tables ∧
      alert.expiresAt = some 43200000 ∧ tables.alerts.lookup 1 = some alert ∧
      respond tables.db 9 alert = some response ∧
      putAlert tables 9 1 (saveAlert (summerTime 0 86400000)
        (openAlertModal (summerTime 0 86400000) (RouteService.findAll tables.db) response)) =
          some after ∧ after.alerts.lookup 1 = some alert := by
  have history : ∃ (tables : Tables ℚ) (alert : ServiceAlert) (response : AlertResponse),
      Run (guarded validated (lives fun account => account.username)) (Tables.of Database.empty)
          [.call 5 (.createAlert worksUntilNoon)] tables ∧ alert.title = "Pier closed" ∧
        alert.message = "Works until noon" ∧ alert.expiresAt = some 43200000 ∧
        tables.alerts.lookup 1 = some alert ∧ respond tables.db 9 alert = some response :=
    ⟨_, _, _, Run.next ⟨show validAlert worksUntilNoon = true by decide +kernel, rfl⟩ (Run.refl _),
      by decide +kernel, by decide +kernel, rfl, rfl, rfl⟩
  obtain ⟨tables, alert, response, history, title, message, expiry, found, delivered⟩ := history
  have carries : Carries (summerTime 0 86400000) alert := by
    constructor
    case title =>
      rw [title]
      decide
    case message =>
      rw [message]
      decide
    case expiry =>
      rw [expiry]
      rintro _ ⟨⟩
      exact ⟨by decide, by decide, (steady_read_back rfl rfl).2⟩
  obtain ⟨after, taken, kept⟩ := (notice_resaved_iff history found delivered).mpr carries
  exact ⟨tables, after, alert, response, history, expiry, found, delivered, taken, kept⟩

/-! ## A bus is saved as it stands -/

section Fleet
variable {K : Type}

variable {tables : Tables K} {now : Int} {id : Nat} {bus : Bus}

variable [Field K] [LinearOrder K]

variable [FloorRing K] (geo : GeoUtils.GeoDistance K) (tracking : LiveTracking.Tracking K)

variable [IsStrictOrderedRing K] [ToString K] {encode : NewAccount → String}
  {events : List (Event K)}

end Fleet

end CityBus.ConsoleForms
