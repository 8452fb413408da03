import CityBus.GuardedRuns
import CityBus.TableRows

/-!
The notices on the rider's page. The page asks for the live feed every minute and
keeps in the storage of its tab which notices the rider dismissed. A feed may have
waited in the cache of the server, and answers may overtake one another.
-/

namespace CityBus.NoticeBanner

open GuardedRuns KeyedMaps Services Store TableRows
open AlertService (AlertRequest AlertResponse isLive liveFeed respond)

variable {K : Type}

/-! ## The page and the server -/

structure World (K : Type) where
  tables : Tables K
  feeds : List (List AlertResponse)
  dismissedAlerts : List Nat
  banner : List AlertResponse

inductive Action (K : Type) where
  | operate (now : Int) (operation : Operation K)
  | liveFeed (now : Int)
  | renderAlertsBanner (alerts : List AlertResponse)
  | dismiss (id : Nat)
  | reopen

def World.start (db : Database K) : World K := ⟨Tables.of db, [], [], []⟩

def renderAlertsBanner (world : World K) (alerts : List AlertResponse) : World K :=
  { world with banner := alerts.filter fun a => a.id ∉ world.dismissedAlerts }

section Steps
variable [Field K] [LinearOrder K] [ToString K]

def step (world : World K) : Action K → Option (World K)
  | .operate now operation =>
      some { world with tables := perform false world.tables now operation }
  -- A feed that cannot be read, and one that cannot be loaded, leave the banner.
  | .liveFeed now =>
      (liveFeed world.tables now).map fun feed => { world with feeds := feed :: world.feeds }
  | .renderAlertsBanner alerts =>
      if alerts ∈ world.feeds then some (renderAlertsBanner world alerts) else none
  | .dismiss id =>
      if world.banner.any (·.id = id) then
        some { world with
          dismissedAlerts := id :: world.dismissedAlerts
          banner := world.banner.filter (·.id ≠ id) }
      else none
  -- A new tab starts with an empty storage.
  | .reopen => some { world with dismissedAlerts := [], banner := [] }

end Steps

/-! ## What is on the banner -/

section Banner
variable {world after : World K} {db : Database K}

def IsFeedOf (tables : Tables K) (now : Int) (notice : AlertResponse) : Prop :=
  ∃ alert, tables.alerts.lookup notice.id = some alert ∧ isLive now alert = true ∧
    respond tables.db now alert = some notice

theorem feed_rows {tables : Tables K} {now : Int} {feed : List AlertResponse}
    (read : liveFeed tables now = some feed) {notice : AlertResponse} (listed : notice ∈ feed) :
    IsFeedOf tables now notice := by
  have answers := (AlertService.feed_iff tables now feed).mp read
  have member : some notice ∈ (AlertService.shown tables now).map (respond tables.db now) := by
    rw [answers]
    exact List.mem_map.mpr ⟨notice, listed, rfl⟩
  obtain ⟨alert, shown, answer⟩ := List.mem_map.mp member
  obtain ⟨row, live⟩ := List.mem_filter.mp shown
  obtain ⟨active, _⟩ := List.mem_filter.mp (List.mem_mergeSort.mp row)
  obtain ⟨id, found⟩ := mem_values.mp active
  have key : notice.id = id := by
    obtain ⟨route, _, rfl⟩ := Option.map_eq_some_iff.mp answer
    exact tables.alertKeys id alert found
  exact ⟨alert, by rw [key]; exact found, live, answer⟩

/-- Wherever the page has an id from, it was handed out. -/
structure HandedOut (world : World K) : Prop where
  rows : ∀ id, standing world.tables (.alert id) → given world.tables (.alert id)
  feeds : ∀ feed ∈ world.feeds, ∀ notice ∈ feed, given world.tables (.alert notice.id)
  banner : ∀ notice ∈ world.banner, given world.tables (.alert notice.id)
  dismissed : ∀ id ∈ world.dismissedAlerts, given world.tables (.alert id)

variable [Field K] [LinearOrder K] [ToString K] {action : Action K} {actions : List (Action K)}

theorem step_handed (handed : HandedOut world) (taken : step world action = some after) :
    HandedOut after := by
  cases action with
  | operate now operation =>
      cases taken
      constructor
      · exact fun id => perform_rows (handed.rows id)
      · exact fun feed member notice listed => perform_given (handed.feeds feed member notice listed)
      · exact fun notice listed => perform_given (handed.banner notice listed)
      · exact fun id gone => perform_given (handed.dismissed id gone)
  | liveFeed now =>
      obtain ⟨feed, read, rfl⟩ := Option.map_eq_some_iff.mp taken
      refine ⟨handed.rows, ?_, handed.banner, handed.dismissed⟩
      intro other member notice listed
      rcases List.mem_cons.mp member with rfl | earlier
      · obtain ⟨alert, found, _⟩ := feed_rows read listed
        exact handed.rows notice.id (Option.isSome_of_mem found)
      · exact handed.feeds other earlier notice listed
  | renderAlertsBanner alerts =>
      simp only [step] at taken
      split at taken
      · rename_i known
        cases taken
        refine ⟨handed.rows, handed.feeds, ?_, handed.dismissed⟩
        intro notice listed
        exact handed.feeds alerts known notice (List.mem_filter.mp listed).1
      · cases taken
  | dismiss id =>
      simp only [step] at taken
      split at taken
      · rename_i shown
        cases taken
        obtain ⟨notice, listed, same⟩ := List.any_eq_true.mp shown
        refine ⟨handed.rows, handed.feeds, ?_, ?_⟩
        · exact fun other kept => handed.banner other (List.mem_filter.mp kept).1
        · intro other gone
          rcases List.mem_cons.mp gone with rfl | earlier
          · rw [← of_decide_eq_true same]
            exact handed.banner notice listed
          · exact handed.dismissed other earlier
      · cases taken
  | reopen =>
      cases taken
      exact ⟨handed.rows, handed.feeds, List.forall_mem_nil _, List.forall_mem_nil _⟩

omit [Field K] [LinearOrder K] [ToString K] in
theorem start_handed (db : Database K) : HandedOut (World.start db) :=
  ⟨fun id there => by simp [standing, World.start, Tables.of] at there, List.forall_mem_nil _,
    List.forall_mem_nil _, List.forall_mem_nil _⟩

def Respects (world : World K) : Prop :=
  ∀ notice ∈ world.banner, notice.id ∉ world.dismissedAlerts

theorem step_respects (respects : Respects world) (taken : step world action = some after) :
    Respects after := by
  cases action with
  | operate now operation =>
      cases taken
      exact respects
  | liveFeed now =>
      obtain ⟨feed, _, rfl⟩ := Option.map_eq_some_iff.mp taken
      exact respects
  | renderAlertsBanner alerts =>
      simp only [step] at taken
      split at taken
      · cases taken
        intro notice listed
        exact of_decide_eq_true (List.mem_filter.mp listed).2
      · cases taken
  | dismiss id =>
      simp only [step] at taken
      split at taken
      · cases taken
        intro notice listed gone
        obtain ⟨there, other⟩ := List.mem_filter.mp listed
        rcases List.mem_cons.mp gone with same | earlier
        · exact of_decide_eq_true other same
        · exact respects notice there earlier
      · cases taken
  | reopen =>
      cases taken
      exact List.forall_mem_nil _

def holds (notice : AlertResponse) (world : World K) : Prop :=
  notice ∈ world.banner ∨ ∃ feed ∈ world.feeds, notice ∈ feed

def reads (notice : AlertResponse) (world : World K) : Action K → Prop
  | .liveFeed now => IsFeedOf world.tables now notice
  | _ => False

theorem step_holds {notice : AlertResponse} (taken : step world action = some after)
    (there : holds notice after) : holds notice world ∨ reads notice world action := by
  cases action with
  | operate now operation =>
      cases taken
      exact Or.inl there
  | liveFeed now =>
      obtain ⟨feed, read, rfl⟩ := Option.map_eq_some_iff.mp taken
      rcases there with shown | ⟨other, member, listed⟩
      · exact Or.inl (Or.inl shown)
      · rcases List.mem_cons.mp member with rfl | earlier
        · exact Or.inr (feed_rows read listed)
        · exact Or.inl (Or.inr ⟨other, earlier, listed⟩)
  | renderAlertsBanner alerts =>
      simp only [step] at taken
      split at taken
      · rename_i known
        cases taken
        rcases there with shown | kept
        · exact Or.inl (Or.inr ⟨alerts, known, (List.mem_filter.mp shown).1⟩)
        · exact Or.inl (Or.inr kept)
      · cases taken
  | dismiss id =>
      simp only [step] at taken
      split at taken
      · cases taken
        rcases there with shown | kept
        · exact Or.inl (Or.inl (List.mem_filter.mp shown).1)
        · exact Or.inl (Or.inr kept)
      · cases taken
  | reopen =>
      cases taken
      rcases there with shown | kept
      · cases shown
      · exact Or.inl (Or.inr kept)

/-- Every notice on the banner was live when the service read it, stands there as it was
then, and is none that the rider has dismissed in this tab. -/
theorem banner_live (run : Run (fires step) (World.start db) actions world)
    {notice : AlertResponse} (shown : notice ∈ world.banner) :
    notice.id ∉ world.dismissedAlerts ∧
      ∃ front now rest middle, actions = front ++ .liveFeed now :: rest ∧
        Run (fires step) (World.start db) front middle ∧ IsFeedOf middle.tables now notice := by
  constructor
  · exact run_invariant Respects (fun _ _ _ taken respects => step_respects respects taken) run
      (List.forall_mem_nil _) notice shown
  · have origin := run_origin (holds notice) (reads notice)
      (fun _ _ _ taken there => step_holds taken there) run (Or.inl shown)
    rcases origin with early | ⟨front, action, rest, middle, same, run, caused⟩
    · rcases early with never | ⟨_, never, _⟩
      · cases never
      · cases never
    · cases action with
      | liveFeed now => exact ⟨front, now, rest, middle, same, run, caused⟩
      | _ => exact caused.elim

/-! ## New notices -/

theorem undismissed_step {id : Nat} (other : action ≠ .dismiss id)
    (taken : step world action = some after) (free : id ∉ world.dismissedAlerts) :
    id ∉ after.dismissedAlerts := by
  cases action with
  | operate now operation =>
      cases taken
      exact free
  | liveFeed now =>
      obtain ⟨feed, _, rfl⟩ := Option.map_eq_some_iff.mp taken
      exact free
  | renderAlertsBanner alerts =>
      simp only [step] at taken
      split at taken
      · cases taken
        exact free
      · cases taken
  | dismiss gone =>
      simp only [step] at taken
      split at taken
      · cases taken
        intro member
        rcases List.mem_cons.mp member with rfl | earlier
        · exact other rfl
        · exact free earlier
      · cases taken
  | reopen =>
      cases taken
      exact nofun

/-- A notice that is published now shows on every feed that the page renders later, whatever
the rider has dismissed before, until the rider dismisses this notice itself. -/
theorem new_notice_shown {final shown : World K} {after : Tables K} {rest : List (Action K)}
    {now : Int} {request : AlertRequest} {response notice : AlertResponse}
    {feed : List AlertResponse}
    (run : Run (fires step) (World.start db) actions world)
    (published : AlertService.create world.tables now request = .ok (after, response))
    (later : Run (guarded (fun _ action => action ≠ .dismiss response.id) (fires step))
      { world with tables := after } rest final)
    (rendered : step final (.renderAlertsBanner feed) = some shown)
    (listed : notice ∈ feed) (same : notice.id = response.id) : notice ∈ shown.banner := by
  have handed : HandedOut world :=
    run_invariant HandedOut (fun _ _ _ taken handed => step_handed handed taken) run
      (start_handed db)
  have fresh : response.id ∉ world.dismissedAlerts := by
    intro gone
    have below := handed.dismissed response.id gone
    rw [(created_alert published).1] at below
    exact Nat.lt_irrefl _ below
  have free : response.id ∉ final.dismissedAlerts :=
    run_invariant (fun world : World K => response.id ∉ world.dismissedAlerts)
      (fun _ _ _ taken free => undismissed_step taken.1 taken.2 free) later fresh
  simp only [step] at rendered
  split at rendered
  · cases rendered
    refine List.mem_filter.mpr ⟨listed, ?_⟩
    rw [same]
    exact decide_eq_true free
  · cases rendered

end Banner

/-! ## Two notices -/

def pierNotice : AlertRequest := ⟨"Pier closed", "Works until noon", .WARNING, none, none, none⟩

def pierAnswer : AlertResponse :=
  ⟨1, "Pier closed", "Works until noon", .WARNING, none, none, none, none, true, true, 1, none⟩

def quayNotice : AlertRequest := ⟨"Quay closed", "Works until noon", .WARNING, none, none, none⟩

def quayAnswer : AlertResponse :=
  ⟨2, "Quay closed", "Works until noon", .WARNING, none, none, none, none, true, true, 3, none⟩

def pierTables : Tables ℚ := perform false (Tables.of Database.empty) 1 (.createAlert pierNotice)

theorem pier_read : liveFeed pierTables 2 = some [pierAnswer] := by decide +kernel

def pierShown : World ℚ := ⟨pierTables, [[pierAnswer]], [], [pierAnswer]⟩

theorem pier_run : Run (fires step) (World.start Database.empty)
    [.operate 1 (.createAlert pierNotice), .liveFeed 2, .renderAlertsBanner [pierAnswer]]
    pierShown := by
  have published : step (World.start Database.empty) (.operate 1 (.createAlert pierNotice)) =
      some (⟨pierTables, [], [], []⟩ : World ℚ) := rfl
  have read : step (⟨pierTables, [], [], []⟩ : World ℚ) (.liveFeed 2) =
      some ⟨pierTables, [[pierAnswer]], [], []⟩ := by
    simp only [step, pier_read, Option.map_some]
  have rendered : step (⟨pierTables, [[pierAnswer]], [], []⟩ : World ℚ)
      (.renderAlertsBanner [pierAnswer]) = some pierShown := rfl
  exact Run.next published (Run.next read (Run.next rendered (Run.refl _)))

theorem pier_live : pierAnswer.id ∉ pierShown.dismissedAlerts ∧
    ∃ (front : List (Action ℚ)) (now : Int) (rest : List (Action ℚ)) (middle : World ℚ),
      [.operate 1 (.createAlert pierNotice), .liveFeed 2, .renderAlertsBanner [pierAnswer]] =
        front ++ .liveFeed now :: rest ∧
      Run (fires step) (World.start Database.empty) front middle ∧
      IsFeedOf middle.tables now pierAnswer :=
  banner_live pier_run List.mem_cons_self

def quayTables : Tables ℚ := perform false pierTables 3 (.createAlert quayNotice)

def pierGone : Tables ℚ := perform false quayTables 4 (.deleteAlert 1)

theorem quay_read : liveFeed pierGone 5 = some [quayAnswer] := by decide +kernel

/-- The rider dismisses the pier and is told of the quay. -/
theorem quay_shown :
    AlertService.create pierTables 3 quayNotice = .ok (quayTables, quayAnswer) ∧
      quayAnswer ∈ (renderAlertsBanner
        (⟨pierGone, [[quayAnswer], [pierAnswer]], [1], []⟩ : World ℚ) [quayAnswer]).banner := by
  have published : AlertService.create pierTables 3 quayNotice = .ok (quayTables, quayAnswer) := rfl
  have dismissed : step { pierShown with tables := quayTables } (.dismiss 1) =
      some ⟨quayTables, [[pierAnswer]], [1], []⟩ := rfl
  have deleted : step (⟨quayTables, [[pierAnswer]], [1], []⟩ : World ℚ)
      (.operate 4 (.deleteAlert 1)) = some ⟨pierGone, [[pierAnswer]], [1], []⟩ := rfl
  have read : step (⟨pierGone, [[pierAnswer]], [1], []⟩ : World ℚ) (.liveFeed 5) =
      some ⟨pierGone, [[quayAnswer], [pierAnswer]], [1], []⟩ := by
    simp only [step, quay_read, Option.map_some]
  have rendered : step (⟨pierGone, [[quayAnswer], [pierAnswer]], [1], []⟩ : World ℚ)
      (.renderAlertsBanner [quayAnswer]) = some (renderAlertsBanner
        (⟨pierGone, [[quayAnswer], [pierAnswer]], [1], []⟩ : World ℚ) [quayAnswer]) := rfl
  have other : (Action.dismiss 1 : Action ℚ) ≠ .dismiss quayAnswer.id := fun same =>
    absurd (Action.dismiss.inj same) (by decide)
  have later : Run (guarded (fun _ action => action ≠ .dismiss quayAnswer.id) (fires step))
      { pierShown with tables := quayTables } [.dismiss 1, .operate 4 (.deleteAlert 1), .liveFeed 5]
      ⟨pierGone, [[quayAnswer], [pierAnswer]], [1], []⟩ :=
    Run.next ⟨other, dismissed⟩ (Run.next ⟨nofun, deleted⟩ (Run.next ⟨nofun, read⟩ (Run.refl _)))
  exact ⟨published,
    new_notice_shown pier_run published later rendered List.mem_cons_self rfl⟩

end CityBus.NoticeBanner
