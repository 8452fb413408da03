import CityBus.LoginRateLimit
import Mathlib

/-!
What `tryAcquire` decides over a whole list of attempts, of any clients. A window that
has run out counts as much as none at all, so the map may be purged at any time.
-/

namespace CityBus.WindowLaw

open FixedWindows KeyedMaps LoginRateLimit

structure Attempt where
  clientKey : String
  now : Int

def acquireWith (prunes : Bool) (windows : Windows) (now : Int) (clientKey : String) :
    Windows × Bool :=
  let kept := if prunes then keepValues (fun window => !ranOut now window) windows else windows
  let window := countIn now (kept.lookup clientKey)
  (kept.insert clientKey window, window.count.toInt ≤ MAX_ATTEMPTS_PER_WINDOW)

/-- A limiter whose map is full when the rule says so, for each attempt by its number. -/
def pruning (full : Nat → Windows → Bool) (place : Nat) (windows : Windows) :
    Int → String → Windows × Bool :=
  acquireWith (full place windows) windows

def never : Nat → Windows → Bool := fun _ _ => false

def decisions (acquire : Nat → Windows → Int → String → Windows × Bool) :
    Nat → Windows → List Attempt → List Bool
  | _, _, [] => []
  | place, windows, attempt :: rest =>
      let (next, accepted) := acquire place windows attempt.now attempt.clientKey
      accepted :: decisions acquire (place + 1) next rest

def timesOf (clientKey : String) (attempts : List Attempt) : List Int :=
  (attempts.filter fun attempt => attempt.clientKey = clientKey).map Attempt.now

def decisionsOf (clientKey : String) (attempts : List Attempt) (answers : List Bool) : List Bool :=
  ((attempts.zip answers).filter fun entry => entry.1.clientKey = clientKey).map Prod.snd

variable {clock now : Int} {windows whole : Windows} {clientKey : String} {attempts : List Attempt}

theorem try_acquire_with (windows : Windows) (now : Int) (clientKey : String) :
    tryAcquire windows now clientKey =
      acquireWith (MAX_TRACKED_CLIENTS < windows.entries.length) windows now clientKey := by
  unfold tryAcquire acquireWith
  simp only [counted_in, tracked, decide_eq_true_eq]

/-! ## Purging -/

/-- Each client has the window of the map that was never purged, or none where that one
has run out. -/
def Tracks (clock : Int) (windows whole : Windows) : Prop :=
  ∀ clientKey, windows.lookup clientKey = whole.lookup clientKey ∨
    windows.lookup clientKey = none ∧
      ∃ window, whole.lookup clientKey = some window ∧ ranOut clock window = true

theorem ran_out_later {window : ClientWindow} (gone : ranOut clock window = true)
    (passes : clock ≤ now) : ranOut now window = true := by
  rw [ran_out_iff] at gone ⊢
  omega

theorem tracks_wait (tracks : Tracks clock windows whole) (passes : clock ≤ now) :
    Tracks now windows whole := by
  intro clientKey
  rcases tracks clientKey with same | ⟨absent, window, found, gone⟩
  · exact Or.inl same
  · exact Or.inr ⟨absent, window, found, ran_out_later gone passes⟩

theorem tracks_prune (tracks : Tracks now windows whole) :
    Tracks now (keepValues (fun window => !ranOut now window) windows) whole := by
  intro clientKey
  rw [lookup_keepValues]
  rcases tracks clientKey with same | ⟨absent, forgotten⟩
  · rw [same]
    cases found : whole.lookup clientKey with
    | none => exact Or.inl rfl
    | some window =>
        cases gone : ranOut now window with
        | false => exact Or.inl (by simp [Option.filter, gone])
        | true => exact Or.inr ⟨by simp [Option.filter, gone], window, rfl, gone⟩
  · exact Or.inr ⟨by rw [absent, Option.filter_none], forgotten⟩

theorem tracks_count (tracks : Tracks now windows whole) (clientKey : String) :
    countIn now (windows.lookup clientKey) = countIn now (whole.lookup clientKey) := by
  rcases tracks clientKey with same | ⟨absent, window, found, gone⟩
  · rw [same]
  · simp only [absent, found, countIn, gone, if_true]

theorem tracks_insert (tracks : Tracks now windows whole) (clientKey : String)
    (window : ClientWindow) :
    Tracks now (windows.insert clientKey window) (whole.insert clientKey window) := by
  intro other
  rw [lookup_insert_eq, lookup_insert_eq]
  by_cases same : other = clientKey
  · simp only [if_pos same, true_or]
  · simp only [if_neg same]
    exact tracks other

theorem acquire_tracks (prunes : Bool) (tracks : Tracks clock windows whole) (passes : clock ≤ now)
    (clientKey : String) :
    Tracks now (acquireWith prunes windows now clientKey).1
        (acquireWith false whole now clientKey).1 ∧
      (acquireWith prunes windows now clientKey).2 =
        (acquireWith false whole now clientKey).2 := by
  have later := tracks_wait tracks passes
  cases prunes with
  | false =>
      simp only [acquireWith, Bool.false_eq_true, if_false, tracks_count later clientKey, and_true]
      exact tracks_insert later clientKey _
  | true =>
      have pruned := tracks_prune later
      simp only [acquireWith, if_true, Bool.false_eq_true, if_false,
        tracks_count pruned clientKey, and_true]
      exact tracks_insert pruned clientKey _

/-- Whenever the map is purged, the decisions are those of a map that never is. -/
theorem pruning_decides (full : Nat → Windows → Bool) (place : Nat) (attempts : List Attempt)
    (tracks : Tracks clock windows whole) (after : ∀ attempt ∈ attempts, clock ≤ attempt.now)
    (ordered : attempts.Pairwise fun before after => before.now ≤ after.now) :
    decisions (pruning full) place windows attempts =
      decisions (pruning never) place whole attempts := by
  induction attempts generalizing clock place windows whole with
  | nil => rfl
  | cons attempt rest ih =>
      obtain ⟨first, ordered⟩ := List.pairwise_cons.mp ordered
      obtain ⟨tracks, same⟩ := acquire_tracks (full place windows) tracks
        (after attempt List.mem_cons_self) attempt.clientKey
      simp only [decisions, pruning, never]
      rw [same]
      exact congrArg _ (ih (place + 1) tracks first ordered)

/-! ## The attempts of one client -/

def clientDecisions : Option ClientWindow → List Int → List Bool
  | _, [] => []
  | window, now :: rest =>
      decide ((countIn now window).count.toInt ≤ MAX_ATTEMPTS_PER_WINDOW) ::
        clientDecisions (some (countIn now window)) rest

theorem never_decides (place : Nat) (whole : Windows) (clientKey : String)
    (attempts : List Attempt) :
    decisionsOf clientKey attempts (decisions (pruning never) place whole attempts) =
      clientDecisions (whole.lookup clientKey) (timesOf clientKey attempts) := by
  induction attempts generalizing place whole with
  | nil => rfl
  | cons attempt rest ih =>
      have next := ih (place + 1) (acquireWith false whole attempt.now attempt.clientKey).1
      simp only [acquireWith, Bool.false_eq_true, if_false, lookup_insert_eq] at next
      by_cases own : attempt.clientKey = clientKey
      · subst own
        rw [if_pos rfl] at next
        simp only [decisions, pruning, never, acquireWith, decisionsOf, timesOf,
          List.zip_cons_cons, List.filter_cons, decide_true, if_true, List.map_cons,
          clientDecisions, Bool.false_eq_true, if_false]
        exact congrArg _ next
      · rw [if_neg (Ne.symm own)] at next
        simp only [decisions, pruning, never, acquireWith, decisionsOf, timesOf,
          List.zip_cons_cons, List.filter_cons, own, decide_false, Bool.false_eq_true, if_false]
        exact next

/-- No window of the attempts reaches the wrap-around of its count. -/
def Roomy : Option ClientWindow → List Int → Prop
  | none, times => ∀ window ∈ windowsOf WINDOW_MS times, window.length < 2 ^ 31
  | some opened, times =>
      opened.count.toNat + (splitFrom WINDOW_MS opened.startedAt times).1.length < 2 ^ 31 ∧
        ∀ window ∈ (splitFrom WINDOW_MS opened.startedAt times).2, window.length < 2 ^ 31

theorem roomy_opens {rest : List Int}
    (few : ∀ window ∈ windowsOf WINDOW_MS (now :: rest), window.length < 2 ^ 31) :
    Roomy (some ⟨now, 1⟩) rest := by
  obtain ⟨first, later⟩ := List.forall_mem_cons.mp few
  refine ⟨?_, later⟩
  have one : (1 : BitVec 32).toNat = 1 := rfl
  simp only [List.length_cons] at first
  simp only [one]
  omega

theorem roomy_next {window : Option ClientWindow} {rest : List Int}
    (roomy : Roomy window (now :: rest)) :
    (∀ existing, window = some existing → ranOut now existing = false →
      existing.count.toNat + 1 < 2 ^ 31) ∧ Roomy (some (countIn now window)) rest := by
  cases window with
  | none =>
      refine ⟨?_, roomy_opens roomy⟩
      intro existing absent
      cases absent
  | some opened =>
      obtain ⟨inside, later⟩ := roomy
      by_cases past : WINDOW_MS < now - opened.startedAt
      · have gone : ranOut now opened = true := (ran_out_iff now opened).mpr past
        rw [split_past past] at later
        refine ⟨?_, ?_⟩
        · intro existing same still
          cases same
          rw [gone] at still
          cases still
        · simp only [countIn, gone, if_true]
          exact roomy_opens later
      · have still : ¬ ranOut now opened = true := (ran_out_iff now opened).not.mpr past
        rw [split_still past] at inside later
        simp only [List.length_cons] at inside
        refine ⟨?_, ?_⟩
        · intro existing same _
          cases same
          omega
        · simp only [countIn, if_neg still]
          refine ⟨?_, later⟩
          have counts : (opened.count + 1).toNat = opened.count.toNat + 1 := by bv_omega
          simp only [counts]
          omega

/-- Below the wrap-around a client is admitted as in fixed windows. -/
theorem client_admitted (window : Option ClientWindow) (times : List Int)
    (roomy : Roomy window times) : clientDecisions window times =
      admitted MAX_ATTEMPTS_PER_WINDOW WINDOW_MS (window.map ClientWindow.plain) times := by
  induction times generalizing window with
  | nil => rfl
  | cons now rest ih =>
      obtain ⟨room, roomy⟩ := roomy_next roomy
      obtain ⟨counts, fits⟩ := count_in_plain window room
      have next := ih _ roomy
      rw [Option.map_some, counts] at next
      rw [clientDecisions, admitted, next, fits, counts]
      simp only [Nat.cast_le]

theorem times_ordered (clientKey : String)
    (ordered : attempts.Pairwise fun before after => before.now ≤ after.now) :
    (timesOf clientKey attempts).Pairwise (· ≤ ·) :=
  List.pairwise_map.mpr (ordered.filter _)

/-! ## Every list of attempts -/

/-- The attempts of every client come in fixed windows, each of which accepts its first
ten; and purging the map, at any of the attempts, does not change a decision. -/
theorem window_law
    (ordered : attempts.Pairwise fun before after => before.now ≤ after.now)
    (few : ∀ clientKey, ∀ window ∈ windowsOf WINDOW_MS (timesOf clientKey attempts),
      window.length < 2 ^ 31) :
    (∀ clientKey,
      Split WINDOW_MS (timesOf clientKey attempts)
          (windowsOf WINDOW_MS (timesOf clientKey attempts)) ∧
        decisionsOf clientKey attempts (decisions (fun _ => tryAcquire) 0 ∅ attempts) =
          (windowsOf WINDOW_MS (timesOf clientKey attempts)).flatMap fun window =>
            firstOf MAX_ATTEMPTS_PER_WINDOW window.length) ∧
      ∀ full : Nat → Windows → Bool,
        decisions (pruning full) 0 ∅ attempts = decisions (fun _ => tryAcquire) 0 ∅ attempts := by
  have code : (fun _ => tryAcquire : Nat → Windows → Int → String → Windows × Bool) =
      pruning fun _ windows => MAX_TRACKED_CLIENTS < windows.entries.length := by
    funext _ windows now clientKey
    exact try_acquire_with windows now clientKey
  have unpruned : ∀ full, decisions (pruning full) 0 ∅ attempts =
      decisions (pruning never) 0 ∅ attempts := by
    intro full
    cases attempts with
    | nil => rfl
    | cons attempt rest =>
        have after := (List.pairwise_cons.mp ordered).1
        have empty : Tracks attempt.now ∅ ∅ := fun _ => Or.inl rfl
        apply pruning_decides full 0 (attempt :: rest) empty ?_ ordered
        exact List.forall_mem_cons.mpr ⟨Int.le_refl _, after⟩
  rw [code]
  refine ⟨?_, ?_⟩
  · intro clientKey
    refine ⟨windows_split _ _ (times_ordered clientKey ordered), ?_⟩
    rw [unpruned, never_decides, ← admitted_windows]
    exact client_admitted none _ (few clientKey)
  · intro full
    exact (unpruned full).trans (unpruned _).symm

def fourteen : List Attempt :=
  List.replicate 11 ⟨"a", 0⟩ ++ [⟨"b", 5⟩, ⟨"a", 60000⟩, ⟨"a", 60001⟩]

theorem fourteen_law :
    decisionsOf "a" fourteen (decisions (fun _ => tryAcquire) 0 ∅ fourteen) =
        firstOf 10 12 ++ [true] ∧
      ∀ full : Nat → Windows → Bool,
        decisions (pruning full) 0 ∅ fourteen = decisions (fun _ => tryAcquire) 0 ∅ fourteen := by
  have ordered : fourteen.Pairwise fun before after => before.now ≤ after.now := by decide
  have law := window_law ordered (by
    intro clientKey window member
    have split := windows_split WINDOW_MS _ (times_ordered clientKey ordered)
    have short := (List.sublist_flatten_of_mem member).length_le
    rw [split_flatten split, timesOf, List.length_map] at short
    have fewer := List.length_filter_le (fun attempt => decide (attempt.clientKey = clientKey))
      fourteen
    have size : fourteen.length = 14 := by decide
    omega)
  refine ⟨?_, law.2⟩
  rw [(law.1 "a").2]
  decide

end CityBus.WindowLaw
