import CityBus.FixedDigits
import CityBus.GuardedRuns
import CityBus.Thinning
import Mathlib

/-!
The road geometry of roads.js. A page asks the road service for the waypoints of a line
and keeps what it got, a failure too, for itself and in the storage that all pages of
the browser share. Pages are loaded and closed, calls overlap, and writes may fail.
-/

namespace CityBus.RoadSnaps

open FixedDigits GuardedRuns Thinning

variable {K : Type}

/-! ## What is kept -/

def CACHE_PREFIX : String := "roadsnap:v1:"

def CACHE_TTL_MS : Int := 7 * 24 * 60 * 60 * 1000

def OSRM : String := "https://router.project-osrm.org/route/v1/driving/"

structure Stored (K : Type) where
  t : Int
  geom : List (K × K)

structure Asked (K : Type) where
  waypoints : List (K × K)
  url : String

structure Page (K : Type) where
  opened : Int
  memo : String → Option (List (K × K))
  waiting : Nat → Option (Asked K)

/-- How a request ended; `line` is the geometry of the answer, if it had one. -/
structure Reply (K : Type) where
  asked : Asked K
  line : Option (List (K × K))
  time : Int

structure Answer (K : Type) where
  opened : Int
  waypoints : List (K × K)
  geom : List (K × K)
  time : Int

/-- `clock` is the time at the last step; `replies` and `answers` keep what happened. -/
structure Browser (K : Type) where
  storage : String → Option (Stored K)
  pages : Nat → Option (Page K)
  clock : Int
  replies : List (Reply K)
  answers : List (Answer K)

def Browser.start (clock : Int) : Browser K := ⟨fun _ => none, fun _ => none, clock, [], []⟩

def Browser.setPage (browser : Browser K) (tab : Nat) (page : Option (Page K)) : Browser K :=
  { browser with pages := Function.update browser.pages tab page }

/-- The storage may turn reads and writes away, and the user may clear it. -/
inductive Action (K : Type) where
  | load (tab : Nat) (now : Int)
  | close (tab : Nat)
  | snapToRoads (tab call : Nat) (waypoints : List (K × K)) (readable : Bool) (now : Int)
  | settle (tab call : Nat) (line : Option (List (K × K))) (writable : Bool) (now : Int)
  | clear (key : String)

/-! ## The steps -/

/-- Points are sent and kept as `[lat, lng]`; the service has the longitude first. -/
def roads (waypoints : List (K × K)) : Option (List (K × K)) → List (K × K)
  | some line => if line.length < 2 then waypoints else line.map Prod.swap
  | none => waypoints

theorem roads_cases (waypoints : List (K × K)) (line : Option (List (K × K))) :
    (∃ points, line = some points ∧ 2 ≤ points.length ∧
        roads waypoints line = points.map Prod.swap) ∨
      ((∀ points, line = some points → points.length < 2) ∧ roads waypoints line = waypoints) := by
  cases line with
  | none => exact Or.inr ⟨nofun, rfl⟩
  | some points =>
      by_cases short : points.length < 2
      · refine Or.inr ⟨?_, if_pos short⟩
        rintro _ ⟨⟩
        exact short
      · exact Or.inl ⟨points, rfl, not_lt.mp short, if_neg short⟩

section Steps
variable [Field K] [LinearOrder K] [FloorRing K]

def pointKey (p : K × K) : String := ",".intercalate [toFixed 5 p.1, toFixed 5 p.2]

def keyFor (waypoints : List (K × K)) : String :=
  CACHE_PREFIX ++ ";".intercalate (waypoints.map pointKey)

def coordinates (p : K × K) : String := toFixed 6 p.2 ++ "," ++ toFixed 6 p.1

/-- There is none where `thin` reads a point that is not there. -/
def requestUrl (waypoints : List (K × K)) : Option String :=
  ((thin waypoints).mapM id).map fun pts =>
    OSRM ++ ";".intercalate (pts.map coordinates) ++
      "?overview=full&geometries=geojson&continue_straight=true"

def readCache (storage : String → Option (Stored K)) (memo : String → Option (List (K × K)))
    (key : String) (readable : Bool) (now : Int) :
    (String → Option (Stored K)) × (String → Option (List (K × K))) × Option (List (K × K)) :=
  match memo key with
  | some geom => (storage, memo, some geom)
  | none =>
      if readable then
        match storage key with
        | none => (storage, memo, none)
        | some entry =>
            if CACHE_TTL_MS < now - entry.t then (Function.update storage key none, memo, none)
            else (storage, Function.update memo key (some entry.geom), some entry.geom)
      else (storage, memo, none)

def writeCache (storage : String → Option (Stored K)) (key : String) (geom : List (K × K))
    (writable : Bool) (now : Int) : String → Option (Stored K) :=
  if writable then Function.update storage key (some ⟨now, geom⟩) else storage

def step (browser : Browser K) : Action K → Option (Browser K)
  | .load tab now =>
      some { browser.setPage tab (some ⟨now, fun _ => none, fun _ => none⟩) with clock := now }
  | .close tab => some (browser.setPage tab none)
  | .snapToRoads tab call waypoints readable now =>
      (browser.pages tab).bind fun page =>
        if (page.waiting call).isSome then none
        else if waypoints.length < 2 then
          some { browser with
            clock := now
            answers := browser.answers ++ [⟨page.opened, waypoints, waypoints, now⟩] }
        else
          let (storage, memo, cached) :=
            readCache browser.storage page.memo (keyFor waypoints) readable now
          match cached with
          | some geom =>
              some { browser.setPage tab (some { page with memo := memo }) with
                storage := storage
                clock := now
                answers := browser.answers ++ [⟨page.opened, waypoints, geom, now⟩] }
          | none =>
              let asked := (requestUrl waypoints).map (Asked.mk waypoints)
              let waiting := Function.update page.waiting call asked
              some { browser.setPage tab (some { page with memo := memo, waiting := waiting }) with
                storage := storage
                clock := now }
  | .settle tab call line writable now =>
      (browser.pages tab).bind fun page => (page.waiting call).map fun asked =>
        let geom := roads asked.waypoints line
        let key := keyFor asked.waypoints
        let memo := Function.update page.memo key (some geom)
        let waiting := Function.update page.waiting call none
        { browser.setPage tab (some { page with memo := memo, waiting := waiting }) with
          storage := writeCache browser.storage key geom writable now
          clock := now
          replies := browser.replies ++ [⟨asked, line, now⟩]
          answers := browser.answers ++ [⟨page.opened, asked.waypoints, geom, now⟩] }
  | .clear key => some { browser with storage := Function.update browser.storage key none }

end Steps

def forward (browser : Browser K) : Action K → Prop
  | .load _ now | .snapToRoads _ _ _ _ now | .settle _ _ _ _ now => browser.clock ≤ now
  | .close _ | .clear _ => True

/-! ## Keys -/

section Keys
variable [Field K] [LinearOrder K] [FloorRing K]

theorem number_clear (digits : Nat) (x : K) :
    ',' ∉ (toFixed digits x).toList ∧ ';' ∉ (toFixed digits x).toList := by
  constructor
  · intro member
    rcases to_fixed_chars member with digit | point | sign
    · exact absurd digit (by decide)
    · exact absurd point (by decide)
    · exact absurd sign (by decide)
  · intro member
    rcases to_fixed_chars member with digit | point | sign
    · exact absurd digit (by decide)
    · exact absurd point (by decide)
    · exact absurd sign (by decide)

theorem joined_inj {sep : String} {c : Char} (single : sep.toList = [c])
    {parts parts' : List String} (nonempty : parts ≠ []) (nonempty' : parts' ≠ [])
    (clear : ∀ part ∈ parts, c ∉ part.toList) (clear' : ∀ part ∈ parts', c ∉ part.toList)
    (same : sep.intercalate parts = sep.intercalate parts') : parts = parts' := by
  have chars := congrArg (fun text => text.toList.splitOn c) same
  simp only [String.toList_intercalate, single] at chars
  rw [List.splitOn_intercalate, List.splitOn_intercalate] at chars
  · exact List.map_injective_iff.mpr (fun _ _ => String.toList_injective) chars
  · simpa using clear'
  · simpa using nonempty'
  · simpa using clear
  · simpa using nonempty

def Close (p q : K × K) : Prop :=
  |p.1 - q.1| < 1 / (10 ^ 5 : Nat) ∧ |p.2 - q.2| < 1 / (10 ^ 5 : Nat)

theorem point_key_clear (p : K × K) : ';' ∉ (pointKey p).toList := by
  have joined : (pointKey p).toList =
      (toFixed 5 p.1).toList ++ ',' :: (toFixed 5 p.2).toList := by
    simp [pointKey]
  rw [joined, List.mem_append, List.mem_cons]
  rintro (lat | comma | lng)
  · exact (number_clear 5 p.1).2 lat
  · exact absurd comma (by decide)
  · exact (number_clear 5 p.2).2 lng

variable [IsStrictOrderedRing K]

theorem point_key_close {p q : K × K} (same : pointKey p = pointKey q) : Close p q := by
  have parts : [toFixed 5 p.1, toFixed 5 p.2] = [toFixed 5 q.1, toFixed 5 q.2] := by
    apply joined_inj (c := ',') rfl (List.cons_ne_nil _ _) (List.cons_ne_nil _ _) _ _ same
    · intro part member
      rcases List.mem_pair.mp member with rfl | rfl
      · exact (number_clear 5 p.1).1
      · exact (number_clear 5 p.2).1
    · intro part member
      rcases List.mem_pair.mp member with rfl | rfl
      · exact (number_clear 5 q.1).1
      · exact (number_clear 5 q.2).1
  simp only [List.cons.injEq, and_true] at parts
  exact ⟨to_fixed_near parts.1, to_fixed_near parts.2⟩

/-- One key stands for waypoints at the same places only. -/
theorem key_close {waypoints waypoints' : List (K × K)} (some : waypoints ≠ [])
    (some' : waypoints' ≠ []) (same : keyFor waypoints = keyFor waypoints') :
    List.Forall₂ Close waypoints waypoints' := by
  have joined : ";".intercalate (waypoints.map pointKey) =
      ";".intercalate (waypoints'.map pointKey) := String.append_right_inj _ |>.mp same
  have keys : waypoints.map pointKey = waypoints'.map pointKey := by
    apply joined_inj (c := ';') rfl (by simpa using some) (by simpa using some') _ _ joined
    · intro part member
      obtain ⟨p, _, rfl⟩ := List.mem_map.mp member
      exact point_key_clear p
    · intro part member
      obtain ⟨p, _, rfl⟩ := List.mem_map.mp member
      exact point_key_clear p
  have pairs : List.Forall₂ (fun p q => pointKey p = pointKey q) waypoints waypoints' := by
    have mapped : List.Forall₂ Eq (waypoints.map pointKey) (waypoints'.map pointKey) := by
      rw [keys, List.forall₂_same]
      exact fun _ _ => rfl
    exact List.forall₂_map_right_iff.mp (List.forall₂_map_left_iff.mp mapped)
  exact pairs.imp fun _ _ => point_key_close

end Keys

/-! ## Where geometry comes from -/

section Origin
variable [Field K] [LinearOrder K] [FloorRing K]

structure Gives (reply : Reply K) (key : String) (geom : List (K × K)) : Prop where
  long : 2 ≤ reply.asked.waypoints.length
  url : requestUrl reply.asked.waypoints = some reply.asked.url
  key : keyFor reply.asked.waypoints = key
  geom : roads reply.asked.waypoints reply.line = geom

structure PageSound (replies : List (Reply K)) (clock : Int) (page : Page K) : Prop where
  opened : page.opened ≤ clock
  memo : ∀ key geom, page.memo key = some geom →
    ∃ reply ∈ replies, Gives reply key geom ∧ page.opened ≤ reply.time + CACHE_TTL_MS
  waiting : ∀ call asked, page.waiting call = some asked →
    2 ≤ asked.waypoints.length ∧ requestUrl asked.waypoints = some asked.url

def StorageSound (replies : List (Reply K)) (storage : String → Option (Stored K)) : Prop :=
  ∀ key entry, storage key = some entry →
    ∃ reply ∈ replies, Gives reply key entry.geom ∧ reply.time = entry.t

/-- Waypoints that make no line come back as they are; others get what a request for the
same places ended with, at most a week before the page was loaded. -/
structure Answered (replies : List (Reply K)) (answer : Answer K) : Prop where
  point : answer.waypoints.length < 2 → answer.geom = answer.waypoints
  line : 2 ≤ answer.waypoints.length → ∃ reply ∈ replies,
    Gives reply (keyFor answer.waypoints) answer.geom ∧ reply.time ≤ answer.time ∧
      answer.opened ≤ reply.time + CACHE_TTL_MS

structure Sound (browser : Browser K) : Prop where
  pages : ∀ tab page, browser.pages tab = some page →
    PageSound browser.replies browser.clock page
  storage : StorageSound browser.replies browser.storage
  replies : ∀ reply ∈ browser.replies, reply.time ≤ browser.clock
  answers : ∀ answer ∈ browser.answers, Answered browser.replies answer

variable {browser after : Browser K} {replies : List (Reply K)} {page : Page K}

theorem start_sound (clock : Int) : Sound (Browser.start clock : Browser K) := by
  constructor <;> simp [Browser.start, StorageSound]

/-! ### More replies and a later time -/

theorem page_sound_grows {clock clock' : Int} (sound : PageSound replies clock page)
    (more : List (Reply K)) (later : clock ≤ clock') : PageSound (replies ++ more) clock' page where
  opened := sound.opened.trans later
  memo key geom kept := by
    obtain ⟨reply, listed, gives, young⟩ := sound.memo key geom kept
    exact ⟨reply, List.mem_append_left _ listed, gives, young⟩
  waiting := sound.waiting

theorem page_sound_later {clock clock' : Int} (sound : PageSound replies clock page)
    (later : clock ≤ clock') : PageSound replies clock' page := by
  simpa using page_sound_grows sound [] later

theorem storage_sound_grows {storage : String → Option (Stored K)}
    (sound : StorageSound replies storage) (more : List (Reply K)) :
    StorageSound (replies ++ more) storage := by
  intro key entry kept
  obtain ⟨reply, listed, gives, time⟩ := sound key entry kept
  exact ⟨reply, List.mem_append_left _ listed, gives, time⟩

theorem answered_grows {answer : Answer K} (told : Answered replies answer)
    (more : List (Reply K)) : Answered (replies ++ more) answer := by
  refine ⟨told.point, fun long => ?_⟩
  obtain ⟨reply, listed, known⟩ := told.line long
  exact ⟨reply, List.mem_append_left _ listed, known⟩

theorem storage_cleared {storage : String → Option (Stored K)}
    (sound : StorageSound replies storage) (key : String) :
    StorageSound replies (Function.update storage key none) := by
  intro other entry kept
  rw [Function.update_apply] at kept
  split at kept
  · cases kept
  · exact sound other entry kept

theorem pages_set {pages : Nat → Option (Page K)} {clock : Int}
    (others : ∀ tab page, pages tab = some page → PageSound replies clock page) (tab : Nat)
    {next : Option (Page K)} (own : ∀ page, next = some page → PageSound replies clock page) :
    ∀ other page, Function.update pages tab next other = some page →
      PageSound replies clock page := by
  intro other page kept
  rw [Function.update_apply] at kept
  split at kept
  · exact own page kept
  · exact others other page kept

/-! ### One step -/

theorem read_sound {storage storage' : String → Option (Stored K)} {clock now : Int}
    {memo' : String → Option (List (K × K))} {key : String} {readable : Bool}
    {cached : Option (List (K × K))}
    (read : readCache storage page.memo key readable now = (storage', memo', cached))
    (kept : StorageSound replies storage) (sound : PageSound replies clock page)
    (later : clock ≤ now) :
    StorageSound replies storage' ∧
      PageSound replies now { page with memo := memo' } ∧
      ∀ geom, cached = some geom → memo' key = some geom := by
  have grown := page_sound_later sound later
  unfold readCache at read
  split at read
  · rename_i geom known
    cases read
    exact ⟨kept, grown, fun _ same => same ▸ known⟩
  · split at read
    · split at read
      · cases read
        exact ⟨kept, grown, nofun⟩
      · rename_i entry stored
        split at read
        · cases read
          exact ⟨storage_cleared kept key, grown, nofun⟩
        · rename_i young
          cases read
          refine ⟨kept, ⟨grown.opened, ?_, grown.waiting⟩, ?_⟩
          · intro other geom known
            simp only [Function.update_apply] at known
            split at known
            · rename_i same
              cases known
              obtain ⟨reply, listed, gives, time⟩ := kept key entry stored
              have opened := grown.opened
              have recent : page.opened ≤ reply.time + CACHE_TTL_MS := by omega
              exact ⟨reply, listed, same ▸ gives, recent⟩
            · exact grown.memo other geom known
          · rintro geom ⟨⟩
            exact Function.update_self _ _ _
    · cases read
      exact ⟨kept, grown, nofun⟩

theorem answered_last {answers : List (Answer K)} {last : Answer K}
    (earlier : ∀ answer ∈ answers, Answered replies answer) (told : Answered replies last) :
    ∀ answer ∈ answers ++ [last], Answered replies answer := by
  intro answer listed
  rcases List.mem_append.mp listed with before | same
  · exact earlier answer before
  · exact List.mem_singleton.mp same ▸ told

theorem snap_sound {tab call : Nat} {waypoints : List (K × K)} {readable : Bool} {now : Int}
    (sound : Sound browser) (later : browser.clock ≤ now)
    (taken : step browser (.snapToRoads tab call waypoints readable now) = some after) :
    Sound after := by
  obtain ⟨page, shown, taken⟩ := Option.bind_eq_some_iff.mp taken
  have own := sound.pages tab page shown
  have replies : ∀ reply ∈ browser.replies, reply.time ≤ now := fun reply listed =>
    (sound.replies reply listed).trans later
  split at taken
  · cases taken
  · split at taken
    · rename_i short
      cases taken
      refine ⟨fun other page found => page_sound_later (sound.pages other page found) later,
        sound.storage, replies, answered_last sound.answers ?_⟩
      exact ⟨fun _ => rfl, fun long => absurd short (not_lt.mpr long)⟩
    · rename_i long
      cases read : readCache browser.storage page.memo (keyFor waypoints) readable now with
      | mk storage rest =>
          obtain ⟨memo, cached⟩ := rest
          obtain ⟨stored, current, found⟩ := read_sound read sound.storage own later
          simp only [read] at taken
          cases cached with
          | some geom =>
              cases taken
              refine ⟨?_, stored, replies, answered_last sound.answers ?_⟩
              · apply pages_set fun other page found =>
                  page_sound_later (sound.pages other page found) later
                rintro _ ⟨⟩
                exact current
              · refine ⟨fun short => absurd short long, fun _ => ?_⟩
                obtain ⟨reply, listed, gives, young⟩ := current.memo _ geom (found geom rfl)
                exact ⟨reply, listed, gives, replies reply listed, young⟩
          | none =>
              cases taken
              refine ⟨?_, stored, replies, sound.answers⟩
              apply pages_set fun other page found =>
                page_sound_later (sound.pages other page found) later
              rintro _ ⟨⟩
              refine ⟨current.opened, current.memo, ?_⟩
              intro other asked waits
              simp only [Function.update_apply] at waits
              split at waits
              · obtain ⟨url, sent, rfl⟩ := Option.map_eq_some_iff.mp waits
                exact ⟨not_lt.mp long, sent⟩
              · exact own.waiting other asked waits

theorem settle_sound {tab call : Nat} {line : Option (List (K × K))} {writable : Bool} {now : Int}
    (sound : Sound browser) (later : browser.clock ≤ now)
    (taken : step browser (.settle tab call line writable now) = some after) : Sound after := by
  obtain ⟨page, shown, taken⟩ := Option.bind_eq_some_iff.mp taken
  obtain ⟨asked, waits, rfl⟩ := Option.map_eq_some_iff.mp taken
  have own := sound.pages tab page shown
  obtain ⟨long, sent⟩ := own.waiting call asked waits
  have gives : Gives ⟨asked, line, now⟩ (keyFor asked.waypoints) (roads asked.waypoints line) :=
    ⟨long, sent, rfl, rfl⟩
  have listed : (⟨asked, line, now⟩ : Reply K) ∈ browser.replies ++ [⟨asked, line, now⟩] := by simp
  have ttl : 0 ≤ CACHE_TTL_MS := by decide
  have opened := own.opened
  constructor
  case pages =>
    apply pages_set fun other page found =>
      page_sound_grows (sound.pages other page found) [⟨asked, line, now⟩] later
    rintro _ ⟨⟩
    have grown := page_sound_grows own [⟨asked, line, now⟩] later
    refine ⟨grown.opened, ?_, ?_⟩
    · intro key geom known
      simp only [Function.update_apply] at known
      split at known
      · rename_i same
        cases known
        have recent : page.opened ≤ now + CACHE_TTL_MS := by omega
        exact ⟨_, listed, same ▸ gives, recent⟩
      · exact grown.memo key geom known
    · intro other asked waits
      simp only [Function.update_apply] at waits
      split at waits
      · cases waits
      · exact own.waiting other asked waits
  case storage =>
    intro key entry kept
    simp only [writeCache] at kept
    split at kept
    · rw [Function.update_apply] at kept
      split at kept
      · rename_i same
        cases kept
        exact ⟨_, listed, same ▸ gives, rfl⟩
      · exact storage_sound_grows sound.storage _ key entry kept
    · exact storage_sound_grows sound.storage _ key entry kept
  case replies =>
    intro reply member
    rcases List.mem_append.mp member with before | last
    · exact (sound.replies reply before).trans later
    · rw [List.mem_singleton.mp last]
  case answers =>
    have recent : page.opened ≤ now + CACHE_TTL_MS := by omega
    refine answered_last (fun answer before => answered_grows (sound.answers answer before) _) ?_
    exact ⟨fun short => absurd short (not_lt.mpr long),
      fun _ => ⟨_, listed, gives, le_refl now, recent⟩⟩

theorem step_sound {action : Action K} (sound : Sound browser)
    (taken : guarded forward (fires step) browser action after) : Sound after := by
  obtain ⟨later, taken⟩ := taken
  cases action with
  | load tab now =>
      cases taken
      refine ⟨?_, sound.storage, fun reply listed => (sound.replies reply listed).trans later,
        sound.answers⟩
      apply pages_set fun other page found =>
        page_sound_later (sound.pages other page found) later
      rintro _ ⟨⟩
      exact ⟨le_refl now, nofun, nofun⟩
  | close tab =>
      cases taken
      exact ⟨pages_set sound.pages tab nofun, sound.storage, sound.replies, sound.answers⟩
  | snapToRoads tab call waypoints readable now => exact snap_sound sound later taken
  | settle tab call line writable now => exact settle_sound sound later taken
  | clear key =>
      cases taken
      exact ⟨sound.pages, storage_cleared sound.storage key, sound.replies, sound.answers⟩

variable {actions : List (Action K)}

theorem run_sound {clock : Int}
    (run : Run (guarded forward (fires step)) (Browser.start clock) actions browser) :
    Sound browser :=
  run_invariant Sound (fun _ _ _ taken sound => step_sound sound taken) run (start_sound clock)

/-- A call gets the road geometry that the service gave for waypoints at the same places, or
waypoints at the same places where it gave none; however pages and calls overlap and the
storage fails, that was at most a week before the page was loaded. -/
theorem road_lines [IsStrictOrderedRing K] {clock : Int}
    (run : Run (guarded forward (fires step)) (Browser.start clock) actions browser) :
    ∀ answer ∈ browser.answers,
      (answer.waypoints.length < 2 → answer.geom = answer.waypoints) ∧
      (2 ≤ answer.waypoints.length → ∃ reply ∈ browser.replies,
        requestUrl reply.asked.waypoints = some reply.asked.url ∧
        List.Forall₂ Close reply.asked.waypoints answer.waypoints ∧
        ((∃ line, reply.line = some line ∧ 2 ≤ line.length ∧ answer.geom = line.map Prod.swap) ∨
          ((∀ line, reply.line = some line → line.length < 2) ∧
            answer.geom = reply.asked.waypoints)) ∧
        reply.time ≤ answer.time ∧ answer.opened ≤ reply.time + CACHE_TTL_MS) := by
  intro answer told
  have answered := (run_sound run).answers answer told
  refine ⟨answered.point, fun long => ?_⟩
  obtain ⟨reply, listed, gives, before, recent⟩ := answered.line long
  have there : reply.asked.waypoints ≠ [] := by
    intro empty
    have none := gives.long
    simp [empty] at none
  have there' : answer.waypoints ≠ [] := by
    intro empty
    simp [empty] at long
  refine ⟨reply, listed, gives.url, key_close there there' gives.key, ?_, before, recent⟩
  rw [← gives.geom]
  exact roads_cases reply.asked.waypoints reply.line

end Origin

def gateRoad : List (ℚ × ℚ) := [(19, 75), (20, 75)]

def failedCall : List (Action ℚ) :=
  [.load 0 0, .snapToRoads 0 0 gateRoad true 10, .settle 0 0 none true 20]

theorem gate_lines : ∃ browser : Browser ℚ,
    Run (guarded forward (fires step)) (Browser.start 0) failedCall browser ∧
    browser.answers.length = 1 ∧
    ∀ answer ∈ browser.answers,
      (answer.waypoints.length < 2 → answer.geom = answer.waypoints) ∧
      (2 ≤ answer.waypoints.length → ∃ reply ∈ browser.replies,
        requestUrl reply.asked.waypoints = some reply.asked.url ∧
        List.Forall₂ Close reply.asked.waypoints answer.waypoints ∧
        ((∃ line, reply.line = some line ∧ 2 ≤ line.length ∧ answer.geom = line.map Prod.swap) ∨
          ((∀ line, reply.line = some line → line.length < 2) ∧
            answer.geom = reply.asked.waypoints)) ∧
        reply.time ≤ answer.time ∧ answer.opened ≤ reply.time + CACHE_TTL_MS) := by
  have run : ∃ browser : Browser ℚ,
      Run (guarded forward (fires step)) (Browser.start 0) failedCall browser ∧
        browser.answers.length = 1 :=
    ⟨_, Run.next ⟨le_refl (0 : Int), rfl⟩ (Run.next ⟨show (0 : Int) ≤ 10 by decide, rfl⟩
      (Run.next ⟨show (10 : Int) ≤ 20 by decide, rfl⟩ (Run.refl _))), rfl⟩
  obtain ⟨browser, run, one⟩ := run
  exact ⟨browser, run, one, road_lines run⟩

/-! ## Requests that are spared -/

section Spared

/-- What was kept at `t` is still there, or a week has passed. -/
structure Spared (key : String) (t : Int) (browser : Browser K) : Prop where
  kept : t ≤ browser.clock
  there : browser.clock ≤ t + CACHE_TTL_MS →
    ∃ entry, browser.storage key = some entry ∧ t ≤ entry.t

def keeping (key : String) (browser : Browser K) (action : Action K) : Prop :=
  forward browser action ∧ action ≠ .clear key

variable {browser after : Browser K} {key : String} {t now : Int}

theorem read_keeps {storage storage' : String → Option (Stored K)}
    {memo memo' : String → Option (List (K × K))} {asked : String} {readable : Bool}
    {cached : Option (List (K × K))} {entry : Stored K}
    (read : readCache storage memo asked readable now = (storage', memo', cached))
    (stored : storage key = some entry) (young : now ≤ entry.t + CACHE_TTL_MS) :
    storage' key = some entry := by
  unfold readCache at read
  split at read
  · cases read
    exact stored
  · split at read
    · split at read
      · cases read
        exact stored
      · rename_i other found
        split at read
        · rename_i old
          cases read
          rw [Function.update_apply]
          split
          · rename_i same
            rw [← same, stored, Option.some.injEq] at found
            rw [← found] at old
            omega
          · exact stored
        · cases read
          exact stored
    · cases read
      exact stored

theorem read_finds {storage : String → Option (Stored K)} {entry : Stored K}
    (memo : String → Option (List (K × K))) (stored : storage key = some entry)
    (young : now ≤ entry.t + CACHE_TTL_MS) :
    ∃ memo' geom, readCache storage memo key true now = (storage, memo', some geom) := by
  cases known : memo key with
  | some geom => exact ⟨memo, geom, by rw [readCache, known]⟩
  | none =>
      refine ⟨Function.update memo key (some entry.geom), entry.geom, ?_⟩
      simp only [readCache, known, stored, if_true]
      rw [if_neg (by omega)]

theorem spared_later (spared : Spared key t browser) (later : browser.clock ≤ now)
    (clock : after.clock = now)
    (storage : ∀ entry, browser.storage key = some entry → t ≤ entry.t → now ≤ t + CACHE_TTL_MS →
      ∃ entry, after.storage key = some entry ∧ t ≤ entry.t) : Spared key t after where
  kept := clock ▸ spared.kept.trans later
  there early := by
    rw [clock] at early
    obtain ⟨entry, stored, recent⟩ := spared.there (later.trans early)
    exact storage entry stored recent early

variable [Field K] [LinearOrder K] [FloorRing K]

theorem step_spared {action : Action K} (spared : Spared key t browser)
    (taken : guarded (keeping key) (fires step) browser action after) : Spared key t after := by
  obtain ⟨⟨later, other⟩, taken⟩ := taken
  cases action with
  | load tab now =>
      cases taken
      exact spared_later spared later rfl fun entry stored recent _ => ⟨entry, stored, recent⟩
  | close tab =>
      cases taken
      exact ⟨spared.kept, spared.there⟩
  | snapToRoads tab call waypoints readable now =>
      obtain ⟨page, _, taken⟩ := Option.bind_eq_some_iff.mp taken
      split at taken
      · cases taken
      · split at taken
        · cases taken
          exact spared_later spared later rfl fun entry stored recent _ => ⟨entry, stored, recent⟩
        · cases read : readCache browser.storage page.memo (keyFor waypoints) readable now with
          | mk storage rest =>
              obtain ⟨memo, cached⟩ := rest
              have keeps : ∀ entry, browser.storage key = some entry → t ≤ entry.t →
                  now ≤ t + CACHE_TTL_MS → ∃ entry, storage key = some entry ∧ t ≤ entry.t :=
                fun entry stored recent early =>
                  ⟨entry, read_keeps read stored (by omega), recent⟩
              simp only [read] at taken
              cases cached with
              | some geom =>
                  cases taken
                  exact spared_later spared later rfl keeps
              | none =>
                  cases taken
                  exact spared_later spared later rfl keeps
  | settle tab call line writable now =>
      obtain ⟨page, _, taken⟩ := Option.bind_eq_some_iff.mp taken
      obtain ⟨asked, _, rfl⟩ := Option.map_eq_some_iff.mp taken
      refine spared_later spared later rfl fun entry stored recent _ => ?_
      simp only [writeCache]
      split
      · rw [Function.update_apply]
        split
        · exact ⟨_, rfl, spared.kept.trans later⟩
        · exact ⟨entry, stored, recent⟩
      · exact ⟨entry, stored, recent⟩
  | clear cleared =>
      cases taken
      refine ⟨spared.kept, fun early => ?_⟩
      obtain ⟨entry, stored, recent⟩ := spared.there early
      refine ⟨entry, ?_, recent⟩
      have apart : key ≠ cleared := fun same => other (congrArg Action.clear same.symm)
      simp only [Function.update_of_ne apart]
      exact stored

def requests (browser : Browser K) (tab call : Nat) : Option (Asked K) :=
  (browser.pages tab).bind fun page => page.waiting call

/-- Once a request has ended, with a failure too, and the storage took what it ended with, no
page of the browser asks for waypoints at these places for a week, unless the user clears
them: calls that can read the storage are resolved at once. -/
theorem week_spared {settled next : Browser K} {actions : List (Action K)} {tab call : Nat}
    {asked : Asked K} {line : Option (List (K × K))}
    (waits : requests browser tab call = some asked)
    (ended : step browser (.settle tab call line true t) = some settled)
    (run : Run (guarded (keeping (keyFor asked.waypoints)) (fires step)) settled actions after)
    {tab' call' : Nat} {waypoints : List (K × K)}
    (called : step after (.snapToRoads tab' call' waypoints true now) = some next)
    (long : 2 ≤ waypoints.length) (same : keyFor waypoints = keyFor asked.waypoints)
    (later : after.clock ≤ now) (early : now ≤ t + CACHE_TTL_MS) :
    requests next = requests after ∧ ∃ answer, next.answers = after.answers ++ [answer] := by
  have kept : Spared (keyFor asked.waypoints) t settled := by
    obtain ⟨page, shown, ended⟩ := Option.bind_eq_some_iff.mp ended
    rw [requests, shown, Option.bind_some] at waits
    rw [waits, Option.map_some, Option.some.injEq] at ended
    subst ended
    refine ⟨le_refl t, fun _ => ⟨⟨t, roads asked.waypoints line⟩, ?_, le_refl t⟩⟩
    simp only [writeCache, if_true]
    exact Function.update_self _ _ _
  have spared : Spared (keyFor asked.waypoints) t after :=
    run_invariant (Spared (keyFor asked.waypoints) t)
      (fun _ _ _ taken spared => step_spared spared taken) run kept
  obtain ⟨entry, stored, recent⟩ := spared.there (later.trans early)
  obtain ⟨page, shown, called⟩ := Option.bind_eq_some_iff.mp called
  split at called
  · cases called
  · have young : now ≤ entry.t + CACHE_TTL_MS := by omega
    obtain ⟨memo, geom, read⟩ := read_finds page.memo stored young
    simp only [if_neg (not_lt.mpr long), same, read, Option.some.injEq] at called
    subst called
    refine ⟨?_, _, rfl⟩
    funext other call
    simp only [requests, Browser.setPage, Function.update_apply]
    split
    · rename_i here
      rw [here, shown]
      rfl
    · rfl

end Spared

theorem gate_spared : ∃ (browser settled after next : Browser ℚ) (asked : Asked ℚ),
    requests browser 0 0 = some asked ∧
    step browser (.settle 0 0 none true 20) = some settled ∧
    Run (guarded (keeping (keyFor asked.waypoints)) (fires step)) settled [.load 1 30] after ∧
    step after (.snapToRoads 1 0 gateRoad true 40) = some next ∧
    requests next = requests after ∧ ∃ answer, next.answers = after.answers ++ [answer] := by
  have calls : ∃ (browser settled after : Browser ℚ) (asked : Asked ℚ),
      requests browser 0 0 = some asked ∧ asked.waypoints = gateRoad ∧
      step browser (.settle 0 0 none true 20) = some settled ∧
      Run (guarded (keeping (keyFor asked.waypoints)) (fires step)) settled [.load 1 30] after ∧
      after.clock = 30 ∧ (step after (.snapToRoads 1 0 gateRoad true 40)).isSome = true := by
    refine ⟨((exec step (Browser.start 0) (failedCall.take 2)).getD (Browser.start 0)), _, _, _,
      rfl, rfl, rfl, Run.next ⟨⟨show (20 : Int) ≤ 30 by decide, nofun⟩, rfl⟩ (Run.refl _), rfl, ?_⟩
    decide +kernel
  obtain ⟨browser, settled, after, asked, waits, same, ended, run, clock, there⟩ := calls
  obtain ⟨next, called⟩ := Option.isSome_iff_exists.mp there
  refine ⟨browser, settled, after, next, asked, waits, ended, run, called, ?_⟩
  exact week_spared waits ended run called (by decide) (by rw [same])
    (by rw [clock]; decide) (by decide)

end CityBus.RoadSnaps
