import CityBus.Departures
import CityBus.StoredRows

/-!
Bodies that the bean validation refuses, and the fields that the forms of the console
mark for it. A violation names the property it is about, a property of a stop by the
path to it; violations come in no order. A body that cannot be read, say for a number
that no `int` holds, and a request that the service refuses, say for a path point out of
range, are answered without violations.
-/

namespace CityBus.FieldErrors

open Departures GeoUtils RouteForm StoredRows
open AlertService (AlertRequest)
open BusService (BusRequest isBusCode)
open RouteService (RouteRequest StopDto trim)

/-! ## The constraints of the requests -/

structure FieldViolation where
  field : String
  message : String

structure Constraint (Value : Type) where
  message : String
  holds : Value → Bool

namespace Constraint
variable {Value : Type}

-- All but `@NotNull` and `@NotBlank` let an absent value pass.
def notNull (message : String) : Constraint (Option Value) := ⟨message, Option.isSome⟩

def notBlank (message : String) : Constraint (Option String) :=
  ⟨message, fun text => text.any fun text => trim text ≠ ""⟩

def pattern (isMatch : String → Bool) (message : String) : Constraint (Option String) :=
  ⟨message, fun text => text.all isMatch⟩

def maxSize (max : Nat) (message : String) : Constraint (Option String) :=
  ⟨message, fun text => text.all fun text => utf16Length text ≤ max⟩

def minSize (min : Nat) (message : String) : Constraint (Option (List Value)) :=
  ⟨message, fun items => items.all fun items => min ≤ items.length⟩

def min (bound : Int) (message : String) : Constraint Int32 :=
  ⟨message, fun n => bound ≤ n.toInt⟩

def max (bound : Int) (message : String) : Constraint Int32 :=
  ⟨message, fun n => n.toInt ≤ bound⟩

def decimalMin [LE Value] [DecidableLE Value] (bound : Value) (message : String) :
    Constraint Value :=
  ⟨message, fun value => bound ≤ value⟩

def decimalMax [LE Value] [DecidableLE Value] (bound : Value) (message : String) :
    Constraint Value :=
  ⟨message, fun value => value ≤ bound⟩

end Constraint

def broken {Value : Type} (path : String) (constraints : List (Constraint Value)) (value : Value) :
    List FieldViolation :=
  (constraints.filter fun constraint => !constraint.holds value).map fun constraint =>
    ⟨path, constraint.message⟩

def within (low high c : Char) : Bool := low ≤ c && c ≤ high

/-- `^([01]\d|2[0-3]):[0-5]\d$` -/
def isTime (text : String) : Bool :=
  match text.toList with
  | [h, h', ':', m, m'] =>
      ((within '0' '1' h && within '0' '9' h') || (h = '2' && within '0' '3' h')) &&
        (within '0' '5' m && within '0' '9' m')
  | _ => false

/-! ## The bodies -/

structure StopBody (K : Type) where
  id : Option Nat
  name : Option String
  lat : K
  lng : K

/-- A body of `RouteRequest` as it is read, before its validation. -/
structure RouteBody (K : Type) where
  routeNumber : Int32
  name : Option String
  color : Option String
  firstBus : Option String
  lastBus : Option String
  frequencyMinutes : Int32
  active : Option Bool
  path : Option (List (List K))
  stops : Option (List (StopBody K))

structure BusBody where
  code : Option String
  routeId : Option Nat
  active : Option Bool

structure AlertBody where
  title : Option String
  message : Option String
  severity : Option Severity
  routeId : Option Nat
  active : Option Bool
  expiresAt : Option Int

section Violations
variable {K : Type} [Field K] [LinearOrder K]

def stopViolations (path : String) (stop : StopBody K) : List FieldViolation :=
  broken (path ++ ".name") [.notBlank "Stop name is required",
    .maxSize 100 "Stop name must be at most 100 characters"] stop.name ++
  broken (path ++ ".lat") [.decimalMin (-((90 : Nat) : K)) "Latitude must be >= -90",
    .decimalMax ((90 : Nat) : K) "Latitude must be <= 90"] stop.lat ++
  broken (path ++ ".lng") [.decimalMin (-((180 : Nat) : K)) "Longitude must be >= -180",
    .decimalMax ((180 : Nat) : K) "Longitude must be <= 180"] stop.lng

def routeViolations (body : RouteBody K) : List FieldViolation :=
  broken "routeNumber" [.min 1 "Route number must be positive",
    .max 999 "Route number must be at most 999"] body.routeNumber ++
  broken "name" [.notBlank "Route name is required",
    .maxSize 100 "Route name must be at most 100 characters"] body.name ++
  broken "color" [.notBlank "Color is required",
    .pattern isColor "Color must be a hex value like #1d4ed8"] body.color ++
  broken "firstBus" [.notBlank "First bus time is required",
    .pattern isTime "First bus must be HH:mm"] body.firstBus ++
  broken "lastBus" [.notBlank "Last bus time is required",
    .pattern isTime "Last bus must be HH:mm"] body.lastBus ++
  broken "frequencyMinutes" [.min 1 "Frequency must be at least 1 minute",
    .max 240 "Frequency must be at most 240 minutes"] body.frequencyMinutes ++
  broken "path" [.notNull "Path is required", .minSize 2 "Path needs at least 2 points"]
    body.path ++
  broken "stops" [.notNull "Stops are required", .minSize 2 "A route needs at least 2 stops"]
    body.stops ++
  (body.stops.getD []).zipIdx.flatMap fun (stop, i) =>
    stopViolations ("stops[" ++ toString i ++ "]") stop

def busViolations (body : BusBody) : List FieldViolation :=
  broken "code" [.notBlank "Bus code is required",
    .pattern isBusCode "Bus code must be 2-32 lowercase letters, digits or hyphens"] body.code ++
  broken "routeId" [.notNull "Route id is required"] body.routeId

def alertViolations (body : AlertBody) : List FieldViolation :=
  broken "title" [.notBlank "Title is required",
    .maxSize 120 "Title must be at most 120 characters"] body.title ++
  broken "message" [.notBlank "Message is required",
    .maxSize 500 "Message must be at most 500 characters"] body.message ++
  broken "severity" [.notNull "Severity is required (INFO, WARNING or CRITICAL)"] body.severity

end Violations

/-! ## The forms of the console -/

/-- A wrapper with its `data-field` and its error text. -/
structure FormField where
  dataField : String
  invalid : Bool
  errorText : String

def clearFieldErrors (form : List FormField) : List FormField :=
  form.map fun field => { field with invalid := false, errorText := "" }

/-- `field.split(/[\.\[]/)[0]` -/
def root (field : String) : String :=
  String.ofList (field.toList.takeWhile fun c => c ≠ '.' && c ≠ '[')

/-- `querySelector` finds the first wrapper of a field. -/
def mark (root message : String) : List FormField → List FormField
  | [] => []
  | field :: rest =>
      if field.dataField = root then
        { field with
          invalid := true
          errorText := if field.errorText = "" then message else field.errorText } :: rest
      else field :: mark root message rest

def applyFieldErrors (form : List FormField) (fieldErrors : List FieldViolation) : List FormField :=
  fieldErrors.foldl (fun form violation => mark (root violation.field) violation.message form) form

def routeForm : List String :=
  ["routeNumber", "name", "color", "frequencyMinutes", "firstBus", "lastBus", "stops", "path",
    "active"]

def busForm : List String := ["code", "routeId", "active"]

def alertForm : List String := ["title", "message", "severity", "routeId", "expiresAt", "active"]

/-! ## What a list of violations marks -/

section Marks
variable {form : List FormField} {seen : List FieldViolation} {violation : FieldViolation}

def told (message : String) (field : FormField) : FormField :=
  { field with
    invalid := true
    errorText := if field.errorText = "" then message else field.errorText }

theorem mark_eq (distinct : (form.map (·.dataField)).Nodup) (root message : String) :
    mark root message form =
      form.map fun field => if field.dataField = root then told message field else field := by
  induction form with
  | nil => rfl
  | cons field rest ih =>
      obtain ⟨other, distinct⟩ := List.nodup_cons.mp distinct
      rw [mark, List.map_cons]
      split
      · rename_i same
        have unmarked : ∀ later ∈ rest, (if later.dataField = root then told message later
            else later) = later := by
          intro later member
          apply if_neg
          rintro rfl
          exact other (List.mem_map.mpr ⟨later, member, same.symm⟩)
        rw [List.map_congr_left unmarked, List.map_id']
        rfl
      · rw [ih distinct]

theorem mark_names (root message : String) (form : List FormField) :
    (mark root message form).map (·.dataField) = form.map (·.dataField) := by
  induction form with
  | nil => rfl
  | cons field rest ih =>
      rw [mark]
      split
      · rfl
      · rw [List.map_cons, ih, List.map_cons]

theorem apply_names (form : List FormField) (fieldErrors : List FieldViolation) :
    (applyFieldErrors form fieldErrors).map (·.dataField) = form.map (·.dataField) := by
  induction fieldErrors generalizing form with
  | nil => rfl
  | cons violation rest ih => exact (ih _).trans (mark_names _ _ form)

def Names (violation : FieldViolation) (dataField : String) : Prop :=
  root violation.field = dataField

structure Marks (seen : List FieldViolation) (field : FormField) : Prop where
  marked : field.invalid = true ↔ ∃ violation ∈ seen, Names violation field.dataField
  text : field.invalid = true →
    ∃ violation ∈ seen, Names violation field.dataField ∧ field.errorText = violation.message
  clean : field.invalid = false → field.errorText = ""

theorem told_marks {field : FormField} (marks : Marks seen field)
    (names : Names violation field.dataField) :
    Marks (seen ++ [violation]) (told violation.message field) where
  marked := iff_of_true rfl ⟨violation, List.mem_append_right _ List.mem_cons_self, names⟩
  text := by
    intro _
    by_cases empty : field.errorText = ""
    · exact ⟨violation, List.mem_append_right _ List.mem_cons_self, names, if_pos empty⟩
    · cases before : field.invalid with
      | false => exact absurd (marks.clean before) empty
      | true =>
          obtain ⟨earlier, member, named, text⟩ := marks.text before
          exact ⟨earlier, List.mem_append_left _ member, named, (if_neg empty).trans text⟩
  clean := fun never => absurd never Bool.noConfusion

theorem spared_marks {field : FormField} (marks : Marks seen field)
    (other : ¬ Names violation field.dataField) : Marks (seen ++ [violation]) field where
  marked := by
    rw [marks.marked]
    simp only [List.mem_append, List.mem_singleton, or_and_right, exists_or, exists_eq_left]
    exact (or_iff_left other).symm
  text := by
    intro invalid
    obtain ⟨earlier, member, told⟩ := marks.text invalid
    exact ⟨earlier, List.mem_append_left _ member, told⟩
  clean := marks.clean

theorem apply_marks (fieldErrors : List FieldViolation)
    (distinct : (form.map (·.dataField)).Nodup) (marks : ∀ field ∈ form, Marks seen field) :
    ∀ field ∈ applyFieldErrors form fieldErrors, Marks (seen ++ fieldErrors) field := by
  induction fieldErrors generalizing form seen with
  | nil =>
      rw [List.append_nil]
      exact marks
  | cons violation rest ih =>
      rw [List.append_cons]
      apply ih
      · rw [mark_names]
        exact distinct
      · intro field member
        replace member : field ∈ mark (root violation.field) violation.message form := member
        rw [mark_eq distinct] at member
        obtain ⟨before, listed, rfl⟩ := List.mem_map.mp member
        split
        · rename_i same
          exact told_marks (marks before listed) same.symm
        · rename_i other
          exact spared_marks (marks before listed) fun same => other same.symm

theorem clear_marks (form : List FormField) :
    ∀ field ∈ clearFieldErrors form, Marks [] field := by
  intro field member
  obtain ⟨before, _, rfl⟩ := List.mem_map.mp member
  exact ⟨iff_of_false Bool.noConfusion fun ⟨_, never, _⟩ => List.not_mem_nil never,
    fun never => absurd never Bool.noConfusion, fun _ => rfl⟩

end Marks

/-! ## What a body breaks -/

section Values

theorem not_blank {text : String} {c : Char} (member : c ∈ text.toList) (visible : ¬ c ≤ ' ') :
    trim text ≠ "" := by
  intro empty
  have nothing : Texts.trimBy (· ≤ ' ') text.toList = [] := by
    rw [← trim_eq, empty]
    rfl
  have blank := List.rdropWhile_eq_nil_iff.mp nothing
  rw [← List.takeWhile_append_dropWhile (p := (· ≤ ' ')) (l := text.toList)] at member
  rcases List.mem_append.mp member with front | back
  · have cut := List.mem_takeWhile_imp front
    exact visible (of_decide_eq_true cut)
  · exact visible (of_decide_eq_true (blank c back))

theorem color_not_blank {color : String} (valid : isColor color = true) : trim color ≠ "" := by
  unfold isColor at valid
  split at valid
  · rename_i digits chars
    exact not_blank (c := '#') (by rw [chars]; exact List.mem_cons_self) (by decide)
  · cases valid

theorem time_not_blank {text : String} (valid : isTime text = true) : trim text ≠ "" := by
  unfold isTime at valid
  split at valid
  · rename_i h h' m m' chars
    exact not_blank (c := ':') (by rw [chars]; simp) (by decide)
  · cases valid

theorem within_iff {low high c : Char} :
    within low high c = true ↔ low.toNat ≤ c.toNat ∧ c.toNat ≤ high.toNat := by
  simp only [within, Bool.and_eq_true, decide_eq_true_eq]
  rfl

theorem digit_char {c : Char} (low : 48 ≤ c.toNat) (high : c.toNat ≤ 57) {n : Nat}
    (last : n % 10 = c.toNat - 48) : digit n = c := by
  have same : '0'.toNat + n % 10 = c.toNat := by
    change 48 + n % 10 = c.toNat
    omega
  rw [digit, same, Char.ofNat_toNat]

theorem two_digits {c c' : Char} {limit : Nat}
    (digits : 48 ≤ c.toNat ∧ c.toNat ≤ 57 ∧ 48 ≤ c'.toNat ∧ c'.toNat ≤ 57 ∧
      10 * (c.toNat - 48) + (c'.toNat - 48) < limit) :
    ∃ n : Fin limit, digit (n / 10) = c ∧ digit n = c' := by
  obtain ⟨low, high, low', high', below⟩ := digits
  exact ⟨⟨_, below⟩, digit_char low high (by simp only; omega),
    digit_char low' high' (by simp only; omega)⟩

theorem time_valid (time : LocalTime) : isTime (HH_MM time) = true := by
  have hours : ∀ n < 24, ((within '0' '1' (digit (n / 10)) && within '0' '9' (digit n)) ||
      (digit (n / 10) = '2' && within '0' '3' (digit n))) = true := by decide
  have minutes : ∀ n < 60, (within '0' '5' (digit (n / 10)) && within '0' '9' (digit n)) =
      true := by decide
  have hour := hours time.hour time.hour.isLt
  have minute := minutes time.minute time.minute.isLt
  simp only [isTime, HH_MM, String.toList_ofList, List.cons_append, List.nil_append, hour,
    Bool.true_and, minute]

theorem hour_below {h h' : Char} (valid : ((within '0' '1' h && within '0' '9' h') ||
      (h = '2' && within '0' '3' h')) = true) :
    48 ≤ h.toNat ∧ h.toNat ≤ 57 ∧ 48 ≤ h'.toNat ∧ h'.toNat ≤ 57 ∧
      10 * (h.toNat - 48) + (h'.toNat - 48) < 24 := by
  simp only [Bool.or_eq_true, Bool.and_eq_true, decide_eq_true_eq, within_iff] at valid
  rcases valid with ⟨tens, ones⟩ | ⟨rfl, ones⟩
  · have bounds : 48 ≤ h.toNat ∧ h.toNat ≤ 49 := tens
    have bounds' : 48 ≤ h'.toNat ∧ h'.toNat ≤ 57 := ones
    omega
  · have bounds' : 48 ≤ h'.toNat ∧ h'.toNat ≤ 51 := ones
    change 48 ≤ 50 ∧ 50 ≤ 57 ∧ 48 ≤ h'.toNat ∧ h'.toNat ≤ 57 ∧
      10 * (50 - 48) + (h'.toNat - 48) < 24
    omega

theorem minute_below {m m' : Char} (valid : (within '0' '5' m && within '0' '9' m') = true) :
    48 ≤ m.toNat ∧ m.toNat ≤ 57 ∧ 48 ≤ m'.toNat ∧ m'.toNat ≤ 57 ∧
      10 * (m.toNat - 48) + (m'.toNat - 48) < 60 := by
  simp only [Bool.and_eq_true, within_iff] at valid
  have bounds : 48 ≤ m.toNat ∧ m.toNat ≤ 53 := valid.1
  have bounds' : 48 ≤ m'.toNat ∧ m'.toNat ≤ 57 := valid.2
  omega

theorem is_time_iff {text : String} : isTime text = true ↔ ∃ time, text = HH_MM time := by
  constructor
  · intro valid
    unfold isTime at valid
    split at valid
    · rename_i h h' m m' chars
      obtain ⟨hours, minutes⟩ := Bool.and_eq_true_iff.mp valid
      obtain ⟨hour, tens, ones⟩ := two_digits (hour_below hours)
      obtain ⟨minute, tens', ones'⟩ := two_digits (minute_below minutes)
      refine ⟨⟨hour, minute⟩, String.toList_inj.mp ?_⟩
      rw [chars, HH_MM, String.toList_ofList, tens, ones, tens', ones']
      rfl
    · cases valid
  · rintro ⟨time, rfl⟩
    exact time_valid time

end Values

def Breaks (violations : List FieldViolation) (dataField : String) : Prop :=
  ∃ violation ∈ violations, Names violation dataField

section Breaks
variable {violations later : List FieldViolation} {dataField : String}

theorem breaks_append :
    Breaks (violations ++ later) dataField ↔
      Breaks violations dataField ∨ Breaks later dataField := by
  simp only [Breaks, List.mem_append, or_and_right, exists_or]

theorem breaks_broken {Value : Type} (path : String) (constraints : List (Constraint Value))
    (value : Value) : Breaks (broken path constraints value) dataField ↔
      root path = dataField ∧ ∃ constraint ∈ constraints, constraint.holds value = false := by
  constructor
  · rintro ⟨violation, member, names⟩
    obtain ⟨constraint, kept, rfl⟩ := List.mem_map.mp member
    obtain ⟨listed, fails⟩ := List.mem_filter.mp kept
    exact ⟨names, constraint, listed, Bool.not_eq_true' _ ▸ fails⟩
  · rintro ⟨names, constraint, listed, fails⟩
    refine ⟨⟨path, constraint.message⟩, List.mem_map.mpr ⟨constraint, ?_, rfl⟩, names⟩
    exact List.mem_filter.mpr ⟨listed, by rw [fails]; rfl⟩

theorem pair_broken {Value : Type} (first second : Constraint Value) (value : Value) :
    (∃ constraint ∈ [first, second], constraint.holds value = false) ↔
      first.holds value = false ∨ second.holds value = false := by
  simp

theorem number_broken (low high : Int) (n : Int32) (message message' : String) :
    (∃ constraint ∈ [Constraint.min low message, .max high message'],
      constraint.holds n = false) ↔ ¬ (low ≤ n.toInt ∧ n.toInt ≤ high) := by
  rw [pair_broken, Constraint.min, Constraint.max, decide_eq_false_iff_not,
    decide_eq_false_iff_not, not_and_or]

theorem text_broken (size : Nat) (text : Option String) (message message' : String) :
    (∃ constraint ∈ [Constraint.notBlank message, .maxSize size message'],
      constraint.holds text = false) ↔
      ¬ ∃ t, text = some t ∧ trim t ≠ "" ∧ utf16Length t ≤ size := by
  rw [pair_broken]
  cases text with
  | none => simp [Constraint.notBlank, Constraint.maxSize]
  | some t => simp [Constraint.notBlank, Constraint.maxSize, or_iff_not_imp_left]

theorem pattern_broken {isMatch : String → Bool}
    (visible : ∀ t, isMatch t = true → trim t ≠ "") (text : Option String)
    (message message' : String) :
    (∃ constraint ∈ [Constraint.notBlank message, .pattern isMatch message'],
      constraint.holds text = false) ↔ ¬ ∃ t, text = some t ∧ isMatch t = true := by
  rw [pair_broken]
  cases text with
  | none => simp [Constraint.notBlank, Constraint.pattern]
  | some t =>
      have blank : trim t = "" → isMatch t = false := fun blank =>
        Bool.eq_false_of_not_eq_true fun valid => visible t valid blank
      simpa [Constraint.notBlank, Constraint.pattern] using blank

theorem list_broken {Value : Type} (size : Nat) (items : Option (List Value))
    (message message' : String) :
    (∃ constraint ∈ [Constraint.notNull message, .minSize size message'],
      constraint.holds items = false) ↔ ¬ ∃ list, items = some list ∧ size ≤ list.length := by
  rw [pair_broken]
  cases items with
  | none => simp [Constraint.notNull, Constraint.minSize]
  | some list => simp [Constraint.notNull, Constraint.minSize]

theorem null_broken {Value : Type} (value : Option Value) (message : String) :
    (∃ constraint ∈ [Constraint.notNull message], constraint.holds value = false) ↔
      ¬ value.isSome = true := by
  simp [Constraint.notNull]

end Breaks

/-! ## What a field has to meet -/

section Fields
variable {K : Type} [Field K] [LinearOrder K]

def stopBody (stop : StopDto K) : StopBody K := ⟨stop.id, some stop.name, stop.lat, stop.lng⟩

def routeBody (request : RouteRequest K) : RouteBody K where
  routeNumber := Int32.ofNat request.routeNumber
  name := some request.name
  color := some request.color
  firstBus := some (HH_MM request.firstBus)
  lastBus := some (HH_MM request.lastBus)
  frequencyMinutes := Int32.ofNat request.frequencyMinutes
  active := request.active
  path := some request.path
  stops := some (request.stops.map stopBody)

def validStops (stops : List (StopBody K)) : Prop :=
  2 ≤ stops.length ∧ ∀ stop ∈ stops, ∃ dto, stop = stopBody dto ∧ validStop dto = true

def routeFields (body : RouteBody K) : List (String × Prop) :=
  [("routeNumber", 1 ≤ body.routeNumber.toInt ∧ body.routeNumber.toInt ≤ 999),
    ("name", ∃ name, body.name = some name ∧ trim name ≠ "" ∧ utf16Length name ≤ 100),
    ("color", ∃ color, body.color = some color ∧ isColor color = true),
    ("firstBus", ∃ time, body.firstBus = some (HH_MM time)),
    ("lastBus", ∃ time, body.lastBus = some (HH_MM time)),
    ("frequencyMinutes",
      1 ≤ body.frequencyMinutes.toInt ∧ body.frequencyMinutes.toInt ≤ 240),
    ("path", ∃ path, body.path = some path ∧ 2 ≤ path.length),
    ("stops", ∃ stops, body.stops = some stops ∧ validStops stops),
    ("active", True)]

theorem stop_root (i : Nat) (rest : String) :
    root ("stops[" ++ toString i ++ "]" ++ rest) = "stops" := by
  simp [root, String.toList_append]

omit [Field K] in
theorem within_broken (low high value : K) (message message' : String) :
    (∃ constraint ∈ [Constraint.decimalMin low message, .decimalMax high message'],
      constraint.holds value = false) ↔ ¬ (low ≤ value ∧ value ≤ high) := by
  rw [pair_broken, Constraint.decimalMin, Constraint.decimalMax, decide_eq_false_iff_not,
    decide_eq_false_iff_not, not_and_or]

theorem stop_breaks (i : Nat) (stop : StopBody K) (dataField : String) :
    Breaks (stopViolations ("stops[" ++ toString i ++ "]") stop) dataField ↔
      "stops" = dataField ∧ ¬ ∃ dto, stop = stopBody dto ∧ validStop dto = true := by
  simp only [stopViolations, breaks_append, breaks_broken, stop_root, text_broken, within_broken,
    ← and_or_left]
  refine and_congr_right fun _ => ?_
  rw [← not_and_or, ← not_and_or, not_iff_not]
  constructor
  · rintro ⟨⟨⟨name, named, filled, short⟩, lat⟩, lng⟩
    refine ⟨⟨stop.id, name, stop.lat, stop.lng⟩, ?_, ?_⟩
    · rw [stopBody, ← named]
    · simpa [validStop, isValidLatitude, isValidLongitude, filled, short] using ⟨lat, lng⟩
  · rintro ⟨dto, rfl, valid⟩
    simpa [validStop, isValidLatitude, isValidLongitude, stopBody, and_assoc] using valid

theorem stops_break (stops : Option (List (StopBody K))) (dataField : String) :
    Breaks (broken "stops" [.notNull "Stops are required",
        .minSize 2 "A route needs at least 2 stops"] stops ++
      (stops.getD []).zipIdx.flatMap fun (stop, i) =>
        stopViolations ("stops[" ++ toString i ++ "]") stop) dataField ↔
      "stops" = dataField ∧ ¬ ∃ list, stops = some list ∧ validStops list := by
  have own : root "stops" = "stops" := by decide
  have items (list : List (StopBody K)) : Breaks (list.zipIdx.flatMap fun (stop, i) =>
      stopViolations ("stops[" ++ toString i ++ "]") stop) dataField ↔
        "stops" = dataField ∧
          ∃ stop ∈ list, ¬ ∃ dto, stop = stopBody dto ∧ validStop dto = true := by
    constructor
    · rintro ⟨violation, member, names⟩
      obtain ⟨⟨stop, i⟩, listed, breaks⟩ := List.mem_flatMap.mp member
      obtain ⟨same, invalid⟩ := (stop_breaks i stop dataField).mp ⟨violation, breaks, names⟩
      exact ⟨same, stop, (List.mem_zipIdx' listed).2 ▸ List.getElem_mem _, invalid⟩
    · rintro ⟨same, stop, listed, invalid⟩
      obtain ⟨i, bound, rfl⟩ := List.mem_iff_getElem.mp listed
      obtain ⟨violation, breaks, names⟩ := (stop_breaks i _ dataField).mpr ⟨same, invalid⟩
      refine ⟨violation, List.mem_flatMap.mpr ⟨(list[i], i), ?_, breaks⟩, names⟩
      exact List.mem_zipIdx_iff_getElem?.mpr (List.getElem?_eq_getElem bound)
  rw [breaks_append, breaks_broken, list_broken, own, items, ← and_or_left]
  refine and_congr_right fun _ => ?_
  cases stops with
  | none => simp
  | some list =>
      simp only [Option.getD_some, Option.some.injEq, exists_eq_left', validStops, not_and_or,
        not_forall, exists_prop]

theorem time_broken (text : Option String) (message message' : String) :
    (∃ constraint ∈ [Constraint.notBlank message, .pattern isTime message'],
      constraint.holds text = false) ↔ ¬ ∃ time, text = some (HH_MM time) := by
  rw [pattern_broken fun _ => time_not_blank, not_iff_not]
  constructor
  · rintro ⟨t, rfl, valid⟩
    obtain ⟨time, rfl⟩ := is_time_iff.mp valid
    exact ⟨time, rfl⟩
  · rintro ⟨time, rfl⟩
    exact ⟨HH_MM time, rfl, time_valid time⟩

theorem route_breaks_iff (body : RouteBody K) (dataField : String) :
    Breaks (routeViolations body) dataField ↔
      ∃ item ∈ routeFields body, item.1 = dataField ∧ ¬ item.2 := by
  have roots : root "routeNumber" = "routeNumber" ∧ root "name" = "name" ∧
      root "color" = "color" ∧ root "firstBus" = "firstBus" ∧ root "lastBus" = "lastBus" ∧
      root "frequencyMinutes" = "frequencyMinutes" ∧ root "path" = "path" := by decide
  rw [routeViolations, List.append_assoc, breaks_append, stops_break]
  simp only [breaks_append, breaks_broken, number_broken, text_broken, time_broken,
    pattern_broken fun _ => color_not_blank, list_broken, roots]
  simp only [routeFields, List.mem_cons, List.not_mem_nil, or_false, exists_eq_or_imp,
    exists_eq_left, not_true_eq_false, and_false, or_assoc]

theorem code_not_blank {code : String} (valid : isBusCode code = true) : trim code ≠ "" := by
  unfold isBusCode at valid
  split at valid
  · cases valid
  · rename_i first rest chars
    have letter : BusService.isCodeLetter first = true := by
      simp only [Bool.and_eq_true] at valid
      exact valid.1.1.1
    refine not_blank (c := first) (by rw [chars]; exact List.mem_cons_self) ?_
    intro blank
    have low : first.toNat ≤ 32 := blank
    simp only [BusService.isCodeLetter, Bool.or_eq_true, Bool.and_eq_true,
      decide_eq_true_eq] at letter
    rcases letter with ⟨high, _⟩ | ⟨high, _⟩
    · have high' : 97 ≤ first.toNat := high
      omega
    · have high' : 48 ≤ first.toNat := high
      omega

def busFields (body : BusBody) : List (String × Prop) :=
  [("code", ∃ code, body.code = some code ∧ isBusCode code = true),
    ("routeId", body.routeId.isSome = true), ("active", True)]

theorem bus_breaks_iff (body : BusBody) (dataField : String) :
    Breaks (busViolations body) dataField ↔
      ∃ item ∈ busFields body, item.1 = dataField ∧ ¬ item.2 := by
  have roots : root "code" = "code" ∧ root "routeId" = "routeId" := by decide
  rw [busViolations]
  simp only [breaks_append, breaks_broken, pattern_broken fun _ => code_not_blank, null_broken,
    roots]
  simp only [busFields, List.mem_cons, List.not_mem_nil, or_false, exists_eq_or_imp,
    exists_eq_left, not_true_eq_false, and_false]

def alertFields (body : AlertBody) : List (String × Prop) :=
  [("title", ∃ title, body.title = some title ∧ trim title ≠ "" ∧ utf16Length title ≤ 120),
    ("message", ∃ message, body.message = some message ∧ trim message ≠ "" ∧
      utf16Length message ≤ 500),
    ("severity", body.severity.isSome = true), ("routeId", True), ("expiresAt", True),
    ("active", True)]

theorem alert_breaks_iff (body : AlertBody) (dataField : String) :
    Breaks (alertViolations body) dataField ↔
      ∃ item ∈ alertFields body, item.1 = dataField ∧ ¬ item.2 := by
  have roots : root "title" = "title" ∧ root "message" = "message" ∧
      root "severity" = "severity" := by decide
  rw [alertViolations]
  simp only [breaks_append, breaks_broken, text_broken, null_broken, roots]
  simp only [alertFields, List.mem_cons, List.not_mem_nil, or_false, exists_eq_or_imp,
    exists_eq_left, not_true_eq_false, and_false, or_assoc]

/-! ## The bodies of requests -/

def busBody (request : BusRequest) : BusBody :=
  ⟨some request.code, some request.routeId, request.active⟩

def alertBody (request : AlertRequest) : AlertBody :=
  ⟨some request.title, some request.message, some request.severity, request.routeId,
    request.active, request.expiresAt⟩

omit [Field K] [LinearOrder K] in
theorem stops_read {stops : List (StopBody K)} {valid : StopDto K → Prop}
    (each : ∀ stop ∈ stops, ∃ dto, stop = stopBody dto ∧ valid dto) :
    ∃ dtos : List (StopDto K), dtos.map stopBody = stops ∧ ∀ dto ∈ dtos, valid dto := by
  induction stops with
  | nil => exact ⟨[], rfl, List.forall_mem_nil _⟩
  | cons stop rest ih =>
      obtain ⟨⟨dto, rfl, first⟩, others⟩ := List.forall_mem_cons.mp each
      obtain ⟨dtos, rfl, all⟩ := ih others
      exact ⟨dto :: dtos, rfl, List.forall_mem_cons.mpr ⟨first, all⟩⟩

theorem int_back {n : Int32} (positive : 1 ≤ n.toInt) : Int32.ofNat n.toInt.toNat = n := by
  rw [← Int32.ofInt_eq_ofNat, Int.toNat_of_nonneg (by omega), Int32.ofInt_toInt]

theorem route_accepted_iff (body : RouteBody K) :
    (∃ request : RouteRequest K, validRoute request = true ∧ routeBody request = body) ↔
      ∀ item ∈ routeFields body, item.2 := by
  simp only [routeFields, List.forall_mem_cons, List.not_mem_nil, false_implies, implies_true,
    and_true]
  constructor
  · rintro ⟨request, valid, rfl⟩
    simp only [validRoute, Bool.and_eq_true, decide_eq_true_eq] at valid
    obtain ⟨⟨⟨⟨⟨number, name⟩, color⟩, frequency⟩, path⟩, many, stops⟩ := valid
    have pos := request.frequency_pos
    refine ⟨?_, ⟨_, rfl, name⟩, ⟨_, rfl, color⟩, ⟨_, rfl⟩, ⟨_, rfl⟩, ?_, ⟨_, rfl, path⟩,
      ⟨_, rfl, ?_, ?_⟩⟩
    · rw [routeBody, Int32.toInt_ofNat_of_lt (by omega)]
      omega
    · rw [routeBody, Int32.toInt_ofNat_of_lt (by omega)]
      omega
    · rw [List.length_map]
      exact many
    · intro stop member
      obtain ⟨dto, listed, rfl⟩ := List.mem_map.mp member
      exact ⟨dto, rfl, List.all_eq_true.mp stops dto listed⟩
  · rintro ⟨number, ⟨name, named, filled⟩, ⟨color, colored, hex⟩, ⟨first, opens⟩, ⟨last, closes⟩,
      frequency, ⟨path, drawn, points⟩, stops, served, many, each⟩
    obtain ⟨dtos, rfl, valid⟩ := stops_read each
    refine ⟨⟨body.routeNumber.toInt.toNat, name, color, first, last,
      body.frequencyMinutes.toInt.toNat, body.active, path, dtos, by omega⟩, ?_, ?_⟩
    · rw [List.length_map] at many
      simp only [validRoute, Bool.and_eq_true, decide_eq_true_eq, List.all_eq_true]
      exact ⟨⟨⟨⟨⟨by omega, filled⟩, hex⟩, by omega⟩, points⟩, many, valid⟩
    · have number' := int_back number.1
      have frequency' := int_back frequency.1
      cases body
      cases named
      cases colored
      cases opens
      cases closes
      cases drawn
      cases served
      simp only [routeBody, RouteBody.mk.injEq, and_true, true_and]
      exact ⟨number', frequency'⟩

theorem bus_accepted_iff (body : BusBody) :
    (∃ request, busBody request = body) ↔ ∀ item ∈ busFields body, item.2 := by
  simp only [busFields, List.forall_mem_cons, List.not_mem_nil, false_implies, implies_true,
    and_true]
  constructor
  · rintro ⟨request, rfl⟩
    exact ⟨⟨_, rfl, request.code_valid⟩, rfl⟩
  · rintro ⟨⟨code, named, valid⟩, some⟩
    obtain ⟨routeId, runs⟩ := Option.isSome_iff_exists.mp some
    refine ⟨⟨code, routeId, body.active, valid⟩, ?_⟩
    cases body
    cases named
    cases runs
    rfl

theorem alert_accepted_iff (body : AlertBody) :
    (∃ request, validAlert request = true ∧ alertBody request = body) ↔
      ∀ item ∈ alertFields body, item.2 := by
  simp only [alertFields, List.forall_mem_cons, List.not_mem_nil, false_implies, implies_true,
    and_true]
  constructor
  · rintro ⟨request, valid, rfl⟩
    simp only [validAlert, Bool.and_eq_true, decide_eq_true_eq] at valid
    exact ⟨⟨_, rfl, valid.1⟩, ⟨_, rfl, valid.2⟩, rfl⟩
  · rintro ⟨⟨title, titled, short⟩, ⟨message, told, short'⟩, some⟩
    obtain ⟨severity, weighs⟩ := Option.isSome_iff_exists.mp some
    refine ⟨⟨title, message, severity, body.routeId, body.active, body.expiresAt⟩, ?_, ?_⟩
    · simp only [validAlert, Bool.and_eq_true, decide_eq_true_eq]
      exact ⟨short, short'⟩
    · cases body
      cases titled
      cases told
      cases weighs
      rfl

end Fields

/-! ## A refusal and its form -/

section Refusals
variable {K : Type} [Field K] [LinearOrder K]

inductive Body (K : Type) where
  | route (body : RouteBody K)
  | bus (body : BusBody)
  | alert (body : AlertBody)

def Body.violations : Body K → List FieldViolation
  | .route body => routeViolations body
  | .bus body => busViolations body
  | .alert body => alertViolations body

/-- The `data-field` of the wrappers of the form that sends the body. -/
def Body.form : Body K → List String
  | .route _ => routeForm
  | .bus _ => busForm
  | .alert _ => alertForm

def Body.fields : Body K → List (String × Prop)
  | .route body => routeFields body
  | .bus body => busFields body
  | .alert body => alertFields body

/-- The services know of valid requests only. -/
def Body.Accepted : Body K → Prop
  | .route body => ∃ request : RouteRequest K, validRoute request = true ∧ routeBody request = body
  | .bus body => ∃ request : BusRequest, busBody request = body
  | .alert body => ∃ request, validAlert request = true ∧ alertBody request = body

theorem breaks_iff (body : Body K) (dataField : String) :
    Breaks body.violations dataField ↔ ∃ item ∈ body.fields, item.1 = dataField ∧ ¬ item.2 := by
  cases body with
  | route body => exact route_breaks_iff body dataField
  | bus body => exact bus_breaks_iff body dataField
  | alert body => exact alert_breaks_iff body dataField

theorem accepted_iff (body : Body K) : body.Accepted ↔ ∀ item ∈ body.fields, item.2 := by
  cases body with
  | route body => exact route_accepted_iff body
  | bus body => exact bus_accepted_iff body
  | alert body => exact alert_accepted_iff body

omit [Field K] [LinearOrder K] in
theorem form_distinct (body : Body K) : body.form.Nodup := by
  cases body with
  | route => exact (by decide : routeForm.Nodup)
  | bus => exact (by decide : busForm.Nodup)
  | alert => exact (by decide : alertForm.Nodup)

theorem form_fields (body : Body K) : body.form.Perm (body.fields.map Prod.fst) := by
  cases body with
  | route body =>
      change routeForm.Perm ["routeNumber", "name", "color", "firstBus", "lastBus",
        "frequencyMinutes", "path", "stops", "active"]
      decide
  | bus body => exact List.Perm.refl _
  | alert body => exact List.Perm.refl _

theorem no_violations_iff (body : Body K) : body.violations = [] ↔ body.Accepted := by
  rw [accepted_iff]
  constructor
  · intro none item listed
    by_contra invalid
    obtain ⟨violation, member, _⟩ := (breaks_iff body item.1).mpr ⟨item, listed, rfl, invalid⟩
    rw [none] at member
    exact List.not_mem_nil member
  · intro valid
    apply List.eq_nil_iff_forall_not_mem.mpr
    intro violation member
    obtain ⟨item, listed, _, invalid⟩ :=
      (breaks_iff body (root violation.field)).mp ⟨violation, member, rfl⟩
    exact invalid (valid item listed)

structure Marked (body : Body K) (form : List FormField) (reported : List FieldViolation) :
    Prop where
  accepted : reported = [] ↔ body.Accepted
  shown : reported ≠ [] →
    ∃ field ∈ applyFieldErrors (clearFieldErrors form) reported, field.invalid = true
  marked : ∀ field ∈ applyFieldErrors (clearFieldErrors form) reported,
    field.invalid = true ↔ ∃ item ∈ body.fields, item.1 = field.dataField ∧ ¬ item.2
  text : ∀ field ∈ applyFieldErrors (clearFieldErrors form) reported, field.invalid = true →
    ∃ violation ∈ body.violations,
      root violation.field = field.dataField ∧ field.errorText = violation.message
  clean : ∀ field ∈ applyFieldErrors (clearFieldErrors form) reported,
    field.invalid = false → field.errorText = ""

/-- Whatever the form showed before and in whatever order the violations come: a body
that is no request is refused with violations, and the form marks the fields that make
it so, each with a message about it, and no others. -/
theorem refusals_marked (body : Body K) {form : List FormField} {reported : List FieldViolation}
    (wrappers : form.map (·.dataField) = body.form) (order : reported.Perm body.violations) :
    Marked body form reported := by
  have cleared : (clearFieldErrors form).map (·.dataField) = body.form := by
    rw [← wrappers, clearFieldErrors, List.map_map]
    rfl
  have distinct : ((clearFieldErrors form).map (·.dataField)).Nodup := by
    rw [cleared]
    exact form_distinct body
  have marks : ∀ field ∈ applyFieldErrors (clearFieldErrors form) reported,
      Marks reported field := by
    simpa only [List.nil_append] using apply_marks reported distinct (clear_marks form)
  have named (dataField : String) : (∃ violation ∈ reported, Names violation dataField) ↔
      ∃ item ∈ body.fields, item.1 = dataField ∧ ¬ item.2 := by
    rw [← breaks_iff body dataField]
    simp only [Breaks, order.mem_iff]
  have empty : reported = [] ↔ body.Accepted := by
    rw [← no_violations_iff body]
    constructor
    · rintro rfl
      exact order.nil_eq.symm
    · intro none
      rw [none] at order
      exact order.eq_nil
  refine ⟨empty, ?_, ?_, ?_, fun field member => (marks field member).clean⟩
  · intro refused
    rw [ne_eq, empty, accepted_iff] at refused
    simp only [not_forall, exists_prop] at refused
    obtain ⟨item, listed, invalid⟩ := refused
    -- Every field has its wrapper.
    have wrapped : item.1 ∈ (applyFieldErrors (clearFieldErrors form) reported).map
        (·.dataField) := by
      rw [apply_names, cleared, (form_fields body).mem_iff]
      exact List.mem_map_of_mem listed
    obtain ⟨field, member, same⟩ := List.mem_map.mp wrapped
    refine ⟨field, member, (marks field member).marked.mpr ?_⟩
    exact (named field.dataField).mpr ⟨item, listed, same.symm, invalid⟩
  · exact fun field member => (marks field member).marked.trans (named field.dataField)
  · intro field member invalid
    obtain ⟨violation, told, names, text⟩ := (marks field member).text invalid
    exact ⟨violation, order.mem_iff.mp told, names, text⟩

end Refusals

/-! ## A route with three faults -/

def barBody : RouteBody ℚ where
  routeNumber := 0
  name := some "Bar"
  color := some "#34d399"
  firstBus := some "06:00"
  lastBus := some "25:00"
  frequencyMinutes := 12
  active := none
  path := some [[1, 2], [1, 3]]
  stops := some [⟨none, some "Quay", 1, 2⟩, ⟨none, some " ", 1, 3⟩]

def barForm : List FormField :=
  routeForm.map fun name =>
    ⟨name, name = "color", if name = "color" then "Color is required" else ""⟩

theorem bar_marked :
    ((applyFieldErrors (clearFieldErrors barForm) (Body.route barBody).violations.reverse).filter
        (·.invalid)).map (fun field => (field.dataField, field.errorText)) =
      [("routeNumber", "Route number must be positive"), ("lastBus", "Last bus must be HH:mm"),
        ("stops", "Stop name is required")] ∧
      Marked (.route barBody) barForm (Body.route barBody).violations.reverse := by
  refine ⟨by decide +kernel, ?_⟩
  exact refusals_marked (.route barBody) rfl (List.reverse_perm _)

end CityBus.FieldErrors
