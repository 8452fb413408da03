import CityBus.Departures
import CityBus.RouteService
import CityBus.Texts
import Mathlib

/-!
The route form of admin.js. Stops and path are edited as text, a line for each;
`openRouteModal` writes the text and `parseStops` and `parsePath` read it, out of form
controls that change the texts they are given. How the browser prints numbers and what
unary plus makes of a text are parameters.
-/

namespace CityBus.RouteForm

open Departures GeoUtils RouteService Store Texts

/-! ## Texts in the browser -/

/-- What `trim` of JavaScript cuts off: white space and line terminators. -/
def isJsSpace (c : Char) : Bool :=
  let code := c.toNat
  code = 32 || (9 ≤ code && code ≤ 13) || code = 0xA0 || code = 0x1680 ||
    (0x2000 ≤ code && code ≤ 0x200A) || code = 0x2028 || code = 0x2029 || code = 0x202F ||
    code = 0x205F || code = 0x3000 || code = 0xFEFF

def jsTrim (text : String) : String := String.ofList (trimBy isJsSpace text.toList)

/-- `text.split(sep).map(part => part.trim())` -/
def fieldsOf (sep : Char) (text : String) : List String :=
  (fields isJsSpace sep text.toList).map String.ofList

/-- The lines that are not blank, `filter(Boolean)`. -/
def lines (text : String) : List String := (fieldsOf '\n' text).filter (· ≠ "")

/-! ### Form controls -/

/-- The value of a text input has no line breaks. -/
def lineChars (text : List Char) : List Char := text.filter fun c => c ≠ '\n' && c ≠ '\r'

/-- The value of a textarea has line feeds for line breaks. -/
def areaChars : List Char → List Char
  | [] => []
  | '\r' :: '\n' :: rest => '\n' :: areaChars rest
  | '\r' :: rest => '\n' :: areaChars rest
  | c :: rest => c :: areaChars rest

def lineValue (text : String) : String := String.ofList (lineChars text.toList)

def areaValue (text : String) : String := String.ofList (areaChars text.toList)

def isHexDigit (c : Char) : Bool :=
  (48 ≤ c.toNat && c.toNat ≤ 57) || (97 ≤ c.toNat && c.toNat ≤ 102) ||
    (65 ≤ c.toNat && c.toNat ≤ 70)

/-- `^#[0-9a-fA-F]{6}$` -/
def isColor (color : String) : Bool :=
  match color.toList with
  | '#' :: digits => digits.length = 6 && digits.all isHexDigit
  | _ => false

/-- A color input takes `#rrggbb` and shows it in lower case. -/
def colorValue (text : String) : String := if isColor text then text.toLower else "#000000"

theorem line_chars_iff (text : List Char) :
    lineChars text = text ↔ '\n' ∉ text ∧ '\r' ∉ text := by
  rw [lineChars, List.filter_eq_self]
  constructor
  · intro kept
    exact ⟨fun member => by simpa using kept _ member, fun member => by simpa using kept _ member⟩
  · rintro ⟨feed, carriage⟩ c member
    have first : c ≠ '\n' := fun same => feed (same ▸ member)
    have second : c ≠ '\r' := fun same => carriage (same ▸ member)
    simp [first, second]

theorem area_chars_clean (text : List Char) : '\r' ∉ areaChars text := by
  induction text using areaChars.induct with
  | case1 => simp [areaChars]
  | case2 rest ih => simp [areaChars, ih]
  | case3 rest other ih =>
      rw [areaChars]
      · simp [ih]
      · exact other
  | case4 c rest both plain ih =>
      rw [areaChars]
      · have apart : c ≠ '\r' := fun same => plain same
        simp [ih, Ne.symm apart]
      · exact both
      · exact plain

theorem area_chars_iff (text : List Char) : areaChars text = text ↔ '\r' ∉ text := by
  constructor
  · intro kept
    rw [← kept]
    exact area_chars_clean text
  · intro clean
    induction text using areaChars.induct with
    | case1 => rfl
    | case2 rest ih => simp at clean
    | case3 rest other ih => simp at clean
    | case4 c rest both plain ih =>
        rw [areaChars]
        · rw [ih fun member => clean (List.mem_cons_of_mem c member)]
        · exact both
        · exact plain

/-! ### Numbers -/

/-- Template literals and unary plus; `none` is `NaN`. A number is printed with digits,
signs, a point and an exponent, and a blank text is zero. -/
structure Numerals (K : Type) [Zero K] where
  print : K → String
  toNumber : String → Option K
  round_trip : ∀ v, toNumber (print v) = some v
  printed : ∀ v, print v ≠ ""
  plain : ∀ v, ∀ c ∈ (print v).toList, c.isDigit = true ∨ c ∈ ['+', '-', '.', 'e']
  blank : toNumber "" = some 0

section Parse
variable {K : Type} [Zero K] (numerals : Numerals K)

/-- `map` with the index, up to the first line that throws. -/
def mapLines {β : Type} (read : String → Nat → Except String β) :
    Nat → List String → Except String (List β)
  | _, [] => .ok []
  | i, line :: rest =>
      match read line i with
      | .error problem => .error problem
      | .ok entry =>
          match mapLines read (i + 1) rest with
          | .error problem => .error problem
          | .ok entries => .ok (entry :: entries)

def stopProblem (i : Nat) (problem : String) : String :=
  "Stop line " ++ toString (i + 1) ++ ": " ++ problem

def readStop (line : String) (i : Nat) : Except String (StopDto K) :=
  match fieldsOf '|' line with
  | [name, lat, lng] =>
      if name = "" then .error (stopProblem i "name is empty")
      else
        match numerals.toNumber lat, numerals.toNumber lng with
        | some lat, some lng => .ok ⟨none, name, lat, lng⟩
        | _, _ => .error (stopProblem i "coordinates must be numbers")
  | _ => .error (stopProblem i "expected \"Name | lat | lng\"")

def parseStops (text : String) : Except String (List (StopDto K)) :=
  mapLines (readStop numerals) 0 (lines text)

def pathProblem (i : Nat) : String :=
  "Path line " ++ toString (i + 1) ++ ": expected \"lat, lng\""

def readPoint (line : String) (i : Nat) : Except String (K × K) :=
  match fieldsOf ',' line with
  | [lat, lng] =>
      match numerals.toNumber lat, numerals.toNumber lng with
      | some lat, some lng => .ok (lat, lng)
      | _, _ => .error (pathProblem i)
  | _ => .error (pathProblem i)

def parsePath (text : String) : Except String (List (K × K)) :=
  mapLines (readPoint numerals) 0 (lines text)

end Parse

/-! ## The form -/

structure FormFields where
  routeNumber : String
  name : String
  color : String
  firstBus : String
  lastBus : String
  frequencyMinutes : String
  active : String
  stops : String
  path : String

section Form
variable {K : Type} [Zero K] (numerals : Numerals K)

def stopText (s : StopDto K) : String :=
  s.name ++ " | " ++ numerals.print s.lat ++ " | " ++ numerals.print s.lng

def pointText (p : K × K) : String := numerals.print p.1 ++ ", " ++ numerals.print p.2

def openRouteModal (route : RouteResponse K) : FormFields where
  routeNumber := toString route.routeNumber
  name := lineValue route.name
  color := colorValue route.color
  firstBus := HH_MM route.firstBus
  lastBus := HH_MM route.lastBus
  frequencyMinutes := toString route.frequencyMinutes
  active := if route.active then "true" else "false"
  stops := areaValue ("\n".intercalate (route.stops.map (stopText numerals)))
  path := areaValue ("\n".intercalate (route.path.map (pointText numerals)))

/-- The body of the request; a field that is not a number goes out as `null`. -/
structure Payload (K : Type) where
  routeNumber : Option K
  name : String
  color : String
  firstBus : String
  lastBus : String
  frequencyMinutes : Option K
  active : Bool
  stops : List (StopDto K)
  path : List (K × K)

structure ApiCall (K : Type) where
  method : String
  url : String
  body : Payload K

abbrev FieldProblem := String × String

def readStops (form : FormFields) : Except FieldProblem (List (StopDto K)) :=
  match parseStops numerals form.stops with
  | .error problem => .error ("stops", problem)
  | .ok stops =>
      if stops.length < 2 then .error ("stops", "A route needs at least 2 stops") else .ok stops

def readPath (form : FormFields) (stops : List (StopDto K)) : Except FieldProblem (List (K × K)) :=
  let parsed :=
    if jsTrim form.path = "" then .ok (stops.map fun s => (s.lat, s.lng))
    else parsePath numerals form.path
  match parsed with
  | .error problem => .error ("path", problem)
  | .ok path =>
      if path.length < 2 then .error ("path", "The path needs at least 2 points") else .ok path

def saveRoute (editingRouteId : Option Nat) (form : FormFields) :
    Except FieldProblem (ApiCall K) :=
  match readStops numerals form with
  | .error problem => .error problem
  | .ok stops =>
      match readPath numerals form stops with
      | .error problem => .error problem
      | .ok path =>
          let payload : Payload K :=
            { routeNumber := numerals.toNumber form.routeNumber
              name := jsTrim form.name
              color := form.color
              firstBus := form.firstBus
              lastBus := form.lastBus
              frequencyMinutes := numerals.toNumber form.frequencyMinutes
              active := form.active = "true"
              stops := stops
              path := path }
          match editingRouteId with
          | some id => .ok ⟨"PUT", "/api/v1/routes/" ++ toString id, payload⟩
          | none => .ok ⟨"POST", "/api/v1/routes", payload⟩

end Form

/-! ## The grammar -/

section Grammar
variable {K : Type} [Zero K] (numerals : Numerals K)

theorem map_lines_iff {β : Type} {read : String → Nat → Except String β}
    {reads : String → β → Prop} (spec : ∀ line i entry, read line i = .ok entry ↔ reads line entry)
    (i : Nat) (texts : List String) (entries : List β) :
    mapLines read i texts = .ok entries ↔ List.Forall₂ reads texts entries := by
  induction texts generalizing i entries with
  | nil => cases entries <;> simp [mapLines]
  | cons line rest ih =>
      rw [mapLines]
      cases found : read line i with
      | error problem =>
          simp only [reduceCtorEq, false_iff]
          rintro (_ | ⟨first, _⟩)
          rw [← spec line i, found] at first
          cases first
      | ok entry =>
          cases later : mapLines read (i + 1) rest with
          | error problem =>
              simp only [reduceCtorEq, false_iff]
              rintro (_ | ⟨_, others⟩)
              rw [← ih (i + 1), later] at others
              cases others
          | ok others =>
              simp only [Except.ok.injEq]
              constructor
              · rintro rfl
                exact List.Forall₂.cons ((spec line i entry).mp found) ((ih (i + 1) others).mp later)
              · rintro (_ | ⟨first, rest⟩)
                rw [← spec line i, found, Except.ok.injEq] at first
                rw [← ih (i + 1), later, Except.ok.injEq] at rest
                rw [first, rest]

/-- `name | lat | lng` with the coordinates read by `number`. -/
def StopLine (number : String → K → Prop) (line : String) (stop : StopDto K) : Prop :=
  stop.id = none ∧ ∃ lat lng, fieldsOf '|' line = [stop.name, lat, lng] ∧ stop.name ≠ "" ∧
    number lat stop.lat ∧ number lng stop.lng

/-- `lat, lng` -/
def PointLine (number : String → K → Prop) (line : String) (point : K × K) : Prop :=
  ∃ lat lng, fieldsOf ',' line = [lat, lng] ∧ number lat point.1 ∧ number lng point.2

def Reads (text : String) (v : K) : Prop := numerals.toNumber text = some v

theorem read_stop_iff (line : String) (i : Nat) (stop : StopDto K) :
    readStop numerals line i = .ok stop ↔ StopLine (Reads numerals) line stop := by
  unfold readStop StopLine Reads
  constructor
  · intro result
    split at result
    · rename_i name lat lng parts
      split at result
      · cases result
      · rename_i named
        split at result
        · rename_i latitude longitude atLat atLng
          rw [Except.ok.injEq] at result
          subst result
          exact ⟨rfl, lat, lng, parts, named, atLat, atLng⟩
        · cases result
    · cases result
  · rintro ⟨unsaved, lat, lng, parts, named, atLat, atLng⟩
    simp only [parts, if_neg named, atLat, atLng, ← unsaved]

theorem read_point_iff (line : String) (i : Nat) (point : K × K) :
    readPoint numerals line i = .ok point ↔ PointLine (Reads numerals) line point := by
  unfold readPoint PointLine Reads
  constructor
  · intro result
    split at result
    · rename_i lat lng parts
      split at result
      · rename_i latitude longitude atLat atLng
        rw [Except.ok.injEq] at result
        subst result
        exact ⟨lat, lng, parts, atLat, atLng⟩
      · cases result
    · cases result
  · rintro ⟨lat, lng, parts, atLat, atLng⟩
    simp only [parts, atLat, atLng]

theorem parse_stops_iff (text : String) (stops : List (StopDto K)) :
    parseStops numerals text = .ok stops ↔
      List.Forall₂ (StopLine (Reads numerals)) (lines text) stops :=
  map_lines_iff (read_stop_iff numerals) 0 (lines text) stops

theorem parse_path_iff (text : String) (path : List (K × K)) :
    parsePath numerals text = .ok path ↔
      List.Forall₂ (PointLine (Reads numerals)) (lines text) path :=
  map_lines_iff (read_point_iff numerals) 0 (lines text) path

def Exact {β : Type} (parse : String → Except String (List β)) (grammar : String → β → Prop)
    (text : String) : Prop :=
  ∀ entries, parse text = .ok entries ↔ List.Forall₂ grammar (lines text) entries

end Grammar

/-! ## Names that survive the form -/

section Names

/-- No separator of the form in it, no carriage return, which the textarea makes one, and
nothing at its ends that the browser trims. -/
structure Plain (name : String) : Prop where
  bar : '|' ∉ name.toList
  line : '\n' ∉ name.toList
  carriage : '\r' ∉ name.toList
  trimmed : Trimmed isJsSpace name.toList

theorem field_cases {sep : Char} {text part : String} (member : part ∈ fieldsOf sep text) :
    Trimmed isJsSpace part.toList ∧ sep ∉ part.toList ∧ ∀ c ∈ part.toList, c ∈ text.toList := by
  obtain ⟨raw, found, rfl⟩ := List.mem_map.mp member
  rw [String.toList_ofList]
  exact fields_part found

theorem read_from {β : Type} {reads : String → β → Prop} {texts : List String} {entries : List β}
    (reading : List.Forall₂ reads texts entries) {entry : β} (member : entry ∈ entries) :
    ∃ line ∈ texts, reads line entry := by
  induction reading with
  | nil => cases member
  | cons first _ ih =>
      rcases List.mem_cons.mp member with rfl | later
      · exact ⟨_, List.mem_cons_self, first⟩
      · obtain ⟨line, inside, found⟩ := ih later
        exact ⟨line, List.mem_cons_of_mem _ inside, found⟩

theorem read_name_plain {K : Type} {number : String → K → Prop} {text : String}
    {stops : List (StopDto K)}
    (reading : List.Forall₂ (StopLine number) (lines (areaValue text)) stops)
    (stop : StopDto K) (member : stop ∈ stops) : Plain stop.name := by
  obtain ⟨line, inside, _, _, _, parts, _⟩ := read_from reading member
  obtain ⟨trimmed, bar, within⟩ := field_cases (by rw [parts]; exact List.mem_cons_self)
  obtain ⟨_, clear, within'⟩ := field_cases (List.mem_of_mem_filter inside)
  refine ⟨bar, fun newline => clear (within _ newline), fun carriage => ?_, trimmed⟩
  have inText := within' _ (within _ carriage)
  rw [areaValue, String.toList_ofList] at inText
  exact area_chars_clean text.toList inText

structure Written (text : String) : Prop where
  there : text ≠ ""
  line : '\n' ∉ text.toList
  carriage : '\r' ∉ text.toList
  trimmed : Trimmed isJsSpace text.toList

theorem lines_written {texts : List String} (written : ∀ text ∈ texts, Written text) :
    lines ("\n".intercalate texts) = texts := by
  cases texts with
  | nil => rfl
  | cons first rest =>
      have joined : fields isJsSpace '\n' ("\n".intercalate (first :: rest)).toList =
          (first :: rest).map String.toList := by
        rw [String.toList_intercalate]
        apply fields_intercalate (by simp)
        · intro part member
          obtain ⟨text, inside, rfl⟩ := List.mem_map.mp member
          exact (written text inside).line
        · intro part member
          obtain ⟨text, inside, rfl⟩ := List.mem_map.mp member
          exact (written text inside).trimmed
      rw [lines, fieldsOf, joined, List.map_map]
      have same : String.ofList ∘ String.toList = id := by
        funext text
        exact String.ofList_toList
      rw [same, List.map_id, List.filter_eq_self]
      intro text member
      simpa using (written text member).there

theorem area_written {texts : List String} (written : ∀ text ∈ texts, Written text) :
    areaValue ("\n".intercalate texts) = "\n".intercalate texts := by
  have clean : '\r' ∉ ("\n".intercalate texts).toList := by
    rw [String.toList_intercalate]
    intro member
    rcases mem_intercalate member with between | ⟨part, listed, inside⟩
    · simp at between
    · obtain ⟨text, known, rfl⟩ := List.mem_map.mp listed
      exact (written text known).carriage inside
  rw [areaValue, (area_chars_iff _).mpr clean, String.ofList_toList]

variable {K : Type} [Zero K] (numerals : Numerals K)

theorem space_blank : isJsSpace ' ' = true := by decide

theorem plain_char {c : Char} (known : c.isDigit = true ∨ c ∈ ['+', '-', '.', 'e']) :
    isJsSpace c = false ∧ c ≠ '|' ∧ c ≠ ',' ∧ c ≠ '\n' ∧ c ≠ '\r' := by
  rcases known with digit | sign
  · have lower : 48 ≤ c.toNat := by
      simp only [Char.isDigit, Bool.and_eq_true, decide_eq_true_eq] at digit
      exact digit.1
    have upper : c.toNat ≤ 57 := by
      simp only [Char.isDigit, Bool.and_eq_true, decide_eq_true_eq] at digit
      exact digit.2
    refine ⟨?_, ?_, ?_, ?_, ?_⟩
    · simp only [isJsSpace, Bool.or_eq_false_iff, Bool.and_eq_false_iff, decide_eq_false_iff_not]
      omega
    all_goals
      rintro rfl
      revert digit
      decide
  · simp only [List.mem_cons, List.not_mem_nil, or_false] at sign
    rcases sign with rfl | rfl | rfl | rfl <;> decide

theorem print_trimmed (v : K) : Trimmed isJsSpace (numerals.print v).toList :=
  trimmed_of_none fun c member => (plain_char (numerals.plain v c member)).1

theorem print_there (v : K) : (numerals.print v).toList ≠ [] := by
  simpa using numerals.printed v

theorem print_clear (v : K) : '|' ∉ (numerals.print v).toList ∧
    ',' ∉ (numerals.print v).toList ∧ '\n' ∉ (numerals.print v).toList ∧
    '\r' ∉ (numerals.print v).toList := by
  refine ⟨?_, ?_, ?_, ?_⟩
  · exact fun inside => (plain_char (numerals.plain v _ inside)).2.1 rfl
  · exact fun inside => (plain_char (numerals.plain v _ inside)).2.2.1 rfl
  · exact fun inside => (plain_char (numerals.plain v _ inside)).2.2.2.1 rfl
  · exact fun inside => (plain_char (numerals.plain v _ inside)).2.2.2.2 rfl

theorem stop_text_chars (s : StopDto K) : (stopText numerals s).toList =
    s.name.toList ++ ' ' :: '|' :: ' ' :: ((numerals.print s.lat).toList ++ ' ' :: '|' :: ' ' ::
      (numerals.print s.lng).toList) := by
  simp [stopText]

theorem point_text_chars (p : K × K) : (pointText numerals p).toList =
    (numerals.print p.1).toList ++ ',' :: ' ' :: (numerals.print p.2).toList := by
  simp [pointText]

/-- What the form keeps of a stop: `openRouteModal` writes no key. -/
def unkeyed (s : StopDto K) : StopDto K := { s with id := none }

theorem stop_text_line {s : StopDto K} (named : s.name ≠ "") (plain : Plain s.name) :
    Written (stopText numerals s) ∧ StopLine (Reads numerals) (stopText numerals s) (unkeyed s) := by
  have chars := stop_text_chars numerals s
  have named' : s.name.toList ≠ [] := by simpa using named
  obtain ⟨clearLat, _, lineLat, carriageLat⟩ := print_clear numerals s.lat
  obtain ⟨clearLng, _, lineLng, carriageLng⟩ := print_clear numerals s.lng
  refine ⟨⟨?_, ?_, ?_, ?_⟩, rfl, numerals.print s.lat, numerals.print s.lng, ?_, named,
    numerals.round_trip s.lat, numerals.round_trip s.lng⟩
  · intro empty
    have none := congrArg String.toList empty
    rw [chars] at none
    simp at none
  · rw [chars]
    simp [plain.line, lineLat, lineLng]
  · rw [chars]
    simp [plain.carriage, carriageLat, carriageLng]
  · have whole := trimmed_append named' (print_there numerals s.lng) plain.trimmed
      (print_trimmed numerals s.lng)
      (' ' :: '|' :: ' ' :: ((numerals.print s.lat).toList ++ [' ', '|', ' ']))
    rw [chars]
    simpa using whole
  · rw [fieldsOf, chars, fields_spaced space_blank (by decide) plain.bar plain.trimmed,
      fields_spaced space_blank (by decide) clearLat (print_trimmed numerals s.lat),
      fields_last clearLng, print_trimmed numerals s.lng]
    simp [unkeyed]

theorem point_text_line (p : K × K) :
    Written (pointText numerals p) ∧ PointLine (Reads numerals) (pointText numerals p) p := by
  have chars := point_text_chars numerals p
  obtain ⟨_, clearLat, lineLat, carriageLat⟩ := print_clear numerals p.1
  obtain ⟨_, clearLng, lineLng, carriageLng⟩ := print_clear numerals p.2
  refine ⟨⟨?_, ?_, ?_, ?_⟩, numerals.print p.1, numerals.print p.2, ?_, numerals.round_trip p.1,
    numerals.round_trip p.2⟩
  · intro empty
    have none := congrArg String.toList empty
    rw [chars] at none
    simp at none
  · rw [chars]
    simp [lineLat, lineLng]
  · rw [chars]
    simp [carriageLat, carriageLng]
  · have whole := trimmed_append (print_there numerals p.1) (print_there numerals p.2)
      (print_trimmed numerals p.1) (print_trimmed numerals p.2) [',', ' ']
    rw [chars]
    simpa using whole
  · rw [fieldsOf, chars, fields_next clearLat, fields_cons space_blank (by decide),
      fields_last clearLng, print_trimmed numerals p.1, print_trimmed numerals p.2]
    simp

end Names

/-! ## A route that is edited -/

section Edited
variable {K : Type} [Field K] [LinearOrder K] [ToString K]

/-- `@Size` counts UTF-16 units. -/
def utf16Length (text : String) : Nat :=
  (text.toList.map fun c => if c.toNat < 0x10000 then 1 else 2).sum

/-- The constraints of `StopDto`; `@NotBlank` trims as Java does. -/
def validStop (s : StopDto K) : Bool :=
  trim s.name ≠ "" && utf16Length s.name ≤ 100 && isValidLatitude s.lat && isValidLongitude s.lng

theorem apply_request_stops {old route : Route K} {request : RouteRequest K}
    (stored : applyRequest old request = .ok route) :
    route.stops = request.stops.map fun s => ⟨none, trim s.name, s.lat, s.lng⟩ := by
  unfold applyRequest at stored
  split at stored
  · cases stored
  · rw [Except.ok.injEq] at stored
    rw [← stored]

theorem named_stored {old row : Route K} {request : RouteRequest K}
    (valid : ∀ s ∈ request.stops, validStop s = true)
    (stored : applyRequest old request = .ok row) : ∀ stop ∈ row.stops, stop.name ≠ "" := by
  intro stop member
  rw [apply_request_stops stored] at member
  obtain ⟨s, inside, rfl⟩ := List.mem_map.mp member
  have checked := valid s inside
  simp only [validStop, Bool.and_eq_true, decide_eq_true_eq] at checked
  exact checked.1.1.1

/-- What is edited without a change is read back as it was exactly when every name is
plain, whichever keys the stops got. -/
theorem edit_lossless_iff (numerals : Numerals K) (db : Database K) (old row route : Route K)
    (request : RouteRequest K) (valid : ∀ s ∈ request.stops, validStop s = true)
    (stored : applyRequest old request = .ok row) (next : Nat)
    (saved : route = { row with stops := numberStops next row.stops }) :
    (parseStops numerals (openRouteModal numerals (toResponse db route)).stops =
        .ok ((toResponse db route).stops.map unkeyed) ∧
      parsePath numerals (openRouteModal numerals (toResponse db route)).path =
        .ok (toResponse db route).path) ↔
      ∀ stop ∈ route.stops, Plain stop.name := by
  have named : ∀ stop ∈ (toResponse db route).stops, stop.name ≠ "" := by
    intro stop member
    obtain ⟨s, inside, rfl⟩ := List.mem_map.mp member
    rw [saved] at inside
    obtain ⟨i, bound, rfl⟩ := mem_number_stops.mp inside
    exact named_stored valid stored _ (List.getElem_mem bound)
  have names : (∀ stop ∈ route.stops, Plain stop.name) ↔
      ∀ stop ∈ (toResponse db route).stops, Plain stop.name := by
    simp [toResponse]
  rw [names, parse_stops_iff, parse_path_iff]
  constructor
  · rintro ⟨reading, _⟩ stop member
    exact read_name_plain reading (unkeyed stop) (List.mem_map_of_mem member)
  · intro plain
    have stops : ∀ text ∈ (toResponse db route).stops.map (stopText numerals), Written text := by
      intro text member
      obtain ⟨stop, inside, rfl⟩ := List.mem_map.mp member
      exact (stop_text_line numerals (named stop inside) (plain stop inside)).1
    have path : ∀ text ∈ (toResponse db route).path.map (pointText numerals), Written text := by
      intro text member
      obtain ⟨point, _, rfl⟩ := List.mem_map.mp member
      exact (point_text_line numerals point).1
    constructor
    · simp only [openRouteModal]
      rw [area_written stops, lines_written stops, List.forall₂_map_left_iff,
        List.forall₂_map_right_iff, List.forall₂_same]
      exact fun stop member => (stop_text_line numerals (named stop member) (plain stop member)).2
    · simp only [openRouteModal]
      rw [area_written path, lines_written path, List.forall₂_map_left_iff, List.forall₂_same]
      exact fun point _ => (point_text_line numerals point).2

end Edited

/-! ## Whole coordinates -/

section Whole

/-- Whole numbers are printed as the browser prints them; the other fractions, which no
input below has, as two whole numbers. -/
def printWhole (q : ℚ) : String :=
  if q.den = 1 then q.num.repr else q.num.repr ++ "e" ++ q.den.repr

def readWhole (text : String) : Option ℚ :=
  if text = "" then some 0 else
    match (text.toList.splitOn 'e').map String.ofList with
    | [n] => n.toInt?.map fun n : Int => (n : ℚ)
    | [n, d] => n.toInt?.bind fun n => d.toNat?.map fun d => mkRat n d
    | _ => none

theorem nat_repr_chars (n : Nat) : ∀ c ∈ n.repr.toList, c.isDigit = true := by
  intro c member
  have digits : c ∈ Nat.toDigits 10 n := by simpa [Nat.repr] using member
  exact Nat.isDigit_of_mem_toDigits (by decide) (by decide) digits

theorem int_repr_chars (n : Int) : ∀ c ∈ n.repr.toList, c.isDigit = true ∨ c = '-' := by
  intro c member
  cases n with
  | ofNat n => exact Or.inl (nat_repr_chars n c member)
  | negSucc n =>
      have chars : (Int.negSucc n).repr.toList = '-' :: n.succ.repr.toList := by
        simp [Int.repr]
      rw [chars] at member
      rcases List.mem_cons.mp member with sign | digit
      · exact Or.inr sign
      · exact Or.inl (nat_repr_chars _ c digit)

theorem int_repr_there (n : Int) : n.repr ≠ "" := by
  cases n with
  | ofNat n => exact Nat.repr_ne_empty
  | negSucc n =>
      intro empty
      have none := congrArg String.toList empty
      simp [Int.repr] at none

theorem no_exponent (n : Int) : 'e' ∉ n.repr.toList := by
  intro inside
  rcases int_repr_chars n 'e' inside with digit | sign
  · revert digit
    decide
  · revert sign
    decide

theorem read_print_whole (q : ℚ) : readWhole (printWhole q) = some q := by
  have numerator := int_repr_there q.num
  have clear := no_exponent q.num
  have clear' : 'e' ∉ q.den.repr.toList := no_exponent q.den
  unfold printWhole
  split
  · rename_i whole
    have value : ((q.num : ℤ) : ℚ) = q := Rat.coe_int_num_of_den_eq_one whole
    rw [readWhole, if_neg numerator, List.splitOn_eq_singleton clear]
    simp [value]
  · have there : q.num.repr ++ "e" ++ q.den.repr ≠ "" := by
      intro empty
      have none := congrArg String.toList empty
      simp at none
    have chars : (q.num.repr ++ "e" ++ q.den.repr).toList =
        q.num.repr.toList ++ 'e' :: q.den.repr.toList := by
      simp
    rw [readWhole, if_neg there, chars, List.splitOn_append_cons_self_of_not_mem clear,
      List.splitOn_eq_singleton clear']
    simp only [List.map_cons, List.map_nil, String.ofList_toList, Int.toInt?_repr, Option.bind_some,
      Nat.toNat?_repr, Option.map_some, Rat.mkRat_self]

def wholeNumerals : Numerals ℚ where
  print := printWhole
  toNumber := readWhole
  round_trip := read_print_whole
  printed := by
    intro q empty
    have numerator := int_repr_there q.num
    unfold printWhole at empty
    split at empty
    · exact numerator empty
    · have none := congrArg String.toList empty
      simp at none
  plain := by
    intro q c member
    have known : ∀ n : Int, c ∈ n.repr.toList → c.isDigit = true ∨ c ∈ ['+', '-', '.', 'e'] := by
      intro n inside
      rcases int_repr_chars n c inside with digit | rfl
      · exact Or.inl digit
      · exact Or.inr (by decide)
    unfold printWhole at member
    split at member
    · exact known q.num member
    · simp only [String.toList_append, List.mem_append] at member
      rcases member with (front | exponent) | back
      · exact known q.num front
      · right
        obtain rfl : c = 'e' := by simpa using exponent
        decide
      · exact Or.inl (nat_repr_chars q.den c back)
  blank := rfl

def barRequest : RouteRequest ℚ where
  routeNumber := 7
  name := "Ring"
  color := "#1d4ed8"
  firstBus := LocalTime.of 6 0
  lastBus := LocalTime.of 22 0
  frequencyMinutes := 15
  active := none
  path := [[19, 75], [20, 75]]
  stops := [⟨none, "Gate 2 | North", 19, 75⟩, ⟨none, "Depot", 20, 75⟩]

def barRow : Route ℚ :=
  { (newRoute : Route ℚ) with
    routeNumber := 7
    name := "Ring"
    color := "#1d4ed8"
    firstBus := LocalTime.of 6 0
    lastBus := LocalTime.of 22 0
    frequencyMinutes := 15
    path := [⟨19, 75⟩, ⟨20, 75⟩]
    stops := [⟨none, "Gate 2 | North", 19, 75⟩, ⟨none, "Depot", 20, 75⟩]
    frequency_pos := by decide }

def barRoute : Route ℚ := { barRow with stops := numberStops 1 barRow.stops }

def gateRequest : RouteRequest ℚ :=
  { barRequest with stops := [⟨none, " Gate 2", 19, 75⟩, ⟨none, "Depot ", 20, 75⟩] }

def gateRow : Route ℚ :=
  { barRow with stops := [⟨none, "Gate 2", 19, 75⟩, ⟨none, "Depot", 20, 75⟩] }

def gateRoute : Route ℚ := { gateRow with stops := numberStops 1 gateRow.stops }

def gateForm : FormFields := openRouteModal wholeNumerals (toResponse Database.empty gateRoute)

theorem gate_plain : ∀ stop ∈ gateRoute.stops, Plain stop.name := by
  have plain : ∀ stop ∈ gateRow.stops, Plain stop.name := by
    intro stop member
    simp only [gateRow, List.mem_cons, List.not_mem_nil, or_false] at member
    rcases member with rfl | rfl
    · exact ⟨by decide, by decide, by decide, by decide⟩
    · exact ⟨by decide, by decide, by decide, by decide⟩
  intro stop member
  obtain ⟨i, bound, rfl⟩ := mem_number_stops.mp member
  exact plain gateRow.stops[i] (List.getElem_mem bound)

theorem edit_lossless_gate : (∀ s ∈ gateRequest.stops, validStop s = true) ∧
    applyRequest newRoute gateRequest = .ok gateRow ∧
    parseStops wholeNumerals gateForm.stops =
      .ok ((toResponse Database.empty gateRoute).stops.map unkeyed) ∧
    parsePath wholeNumerals gateForm.path = .ok (toResponse Database.empty gateRoute).path :=
  ⟨by decide +kernel, by decide +kernel,
    (edit_lossless_iff wholeNumerals Database.empty newRoute gateRow gateRoute gateRequest
      (by decide +kernel) (by decide +kernel) 1 rfl).mpr gate_plain⟩

-- A bar in a name makes a fourth field.
theorem bar_lost : (∀ s ∈ barRequest.stops, validStop s = true) ∧
    applyRequest newRoute barRequest = .ok barRow ∧
    parseStops wholeNumerals
        (openRouteModal wholeNumerals (toResponse Database.empty barRoute)).stops =
      .error "Stop line 1: expected \"Name | lat | lng\"" := by
  refine ⟨by decide +kernel, by decide +kernel, ?_⟩
  have text : (openRouteModal wholeNumerals (toResponse Database.empty barRoute)).stops =
      "Gate 2 | North | 19 | 75\nDepot | 20 | 75" := by
    decide +kernel
  rw [text]
  decide +kernel

end Whole

end CityBus.RouteForm
