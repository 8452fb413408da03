import CityBus.GuardedRuns
import CityBus.JourneyGraph
import CityBus.RouteService

/-!
`graphRef` between the writers of the route table and the plan queries. A writer
publishes its event, which drops the graph, inside its transaction; a query that
misses builds under the monitor and stores what it built. The log of committed
writes and the `source` of a built graph are ghosts.
-/

namespace CityBus.GraphFreshness

open GeoUtils JourneyGraph KeyedMaps Store RouteService GuardedRuns

/-- The committed store and the writes that led to it. -/
structure Snapshot (K : Type) where
  db : Database K
  log : List (RowWrite K)

structure Built (K : Type) where
  graph : Graph K
  source : Snapshot K

/-- A transaction of `create`, `update` or `delete` before its commit. -/
inductive Writer (K : Type) where
  | wrote (row : RowWrite K)
  | published (row : RowWrite K)

inductive Stage (K : Type) where
  | started
  | missed
  | inside
  | building
  | loaded (source : Snapshot K)
  | answered (built : Built K)

/-- `seen` are the writes that had committed when the query started. -/
structure Query (K : Type) where
  seen : List (RowWrite K)
  stage : Stage K

structure Planner (K : Type) where
  committed : Snapshot K
  graphRef : Option (Built K)
  monitor : Option Nat
  writers : Nat → Option (Writer K)
  queries : Nat → Option (Query K)

inductive Action (K : Type) where
  | write (w : Nat) (mutation : Mutation K)
  | publish (w : Nat)
  | commit (w : Nat) (now : Int)
  | rollback (w : Nat)
  | start (q : Nat)
  | readRef (q : Nat)
  | enter (q : Nat)
  | recheck (q : Nat)
  | readRoutes (q : Nat)
  | store (q : Nat)

def Planner.start {K : Type} (db : Database K) : Planner K :=
  ⟨⟨db, []⟩, none, none, fun _ => none, fun _ => none⟩

section Steps
variable {K : Type} (planner : Planner K)

def Planner.setWriter (w : Nat) (writer : Option (Writer K)) : Planner K :=
  { planner with writers := Function.update planner.writers w writer }

def Planner.setQuery (q : Nat) (query : Query K) : Planner K :=
  { planner with queries := Function.update planner.queries q (some query) }

def Planner.setMonitor (holder : Option Nat) : Planner K := { planner with monitor := holder }

def onRoutesChanged : Planner K := { planner with graphRef := none }

variable [Field K] [LinearOrder K]

/-- A body that throws leaves nothing to commit. -/
def writerWrites [ToString K] (w : Nat) (mutation : Mutation K) : Option (Planner K) :=
  match planner.writers w with
  | some _ => none
  | none =>
      match mutation.body planner.committed.db with
      | .error _ => some planner
      | .ok row => some (planner.setWriter w (some (.wrote row)))

omit [Field K] [LinearOrder K] in
def writerPublishes (w : Nat) : Option (Planner K) :=
  match planner.writers w with
  | some (.wrote row) => some ((onRoutesChanged planner).setWriter w (some (.published row)))
  | _ => none

omit [Field K] [LinearOrder K] in
def writerCommits (w : Nat) (now : Int) : Option (Planner K) :=
  match planner.writers w with
  | some (.published row) =>
      match Store.commit planner.committed.db now row with
      | .error _ => some (planner.setWriter w none)
      | .ok db => some
          ({ planner with committed := ⟨db, planner.committed.log ++ [row]⟩ }.setWriter w none)
  | _ => none

def queryStep (geo : GeoDistance K) (q : Nat) (query : Query K) : Action K → Option (Planner K)
  | .readRef _ =>
      match query.stage, planner.graphRef with
      | .started, some built => some (planner.setQuery q { query with stage := .answered built })
      | .started, none => some (planner.setQuery q { query with stage := .missed })
      | _, _ => none
  | .enter _ =>
      -- `synchronized (this)`: one query builds at a time.
      match query.stage, planner.monitor with
      | .missed, none =>
          some ((planner.setMonitor (some q)).setQuery q { query with stage := .inside })
      | _, _ => none
  | .recheck _ =>
      match query.stage, planner.graphRef with
      | .inside, some built =>
          some ((planner.setMonitor none).setQuery q { query with stage := .answered built })
      | .inside, none => some (planner.setQuery q { query with stage := .building })
      | _, _ => none
  | .readRoutes _ =>
      match query.stage with
      | .building => some (planner.setQuery q { query with stage := .loaded planner.committed })
      | _ => none
  | .store _ =>
      match query.stage with
      | .loaded source =>
          -- Nothing asks whether an event came since the routes were read.
          let built : Built K := ⟨build geo (values source.db.routes), source⟩
          some (({ planner with graphRef := some built }.setMonitor none).setQuery q
            { query with stage := .answered built })
      | _ => none
  | _ => none

def step [ToString K] (geo : GeoDistance K) (planner : Planner K) (action : Action K) :
    Option (Planner K) :=
  match action with
  | .write w mutation => writerWrites planner w mutation
  | .publish w => writerPublishes planner w
  | .commit w now => writerCommits planner w now
  | .rollback w => (planner.writers w).map fun _ => planner.setWriter w none
  | .start q =>
      match planner.queries q with
      | some _ => none
      | none => some (planner.setQuery q ⟨planner.committed.log, .started⟩)
  | .readRef q | .enter q | .recheck q | .readRoutes q | .store q =>
      (planner.queries q).bind fun query => queryStep planner geo q query action

end Steps

/-! ## Freshness -/

section Fresh
variable {K : Type} [Field K] [LinearOrder K] (geo : GeoDistance K) (start : Database K)

inductive Committed : Snapshot K → Prop where
  | initial : Committed ⟨start, []⟩
  | next {before : Snapshot K} {db : Database K} {row : RowWrite K} {now : Int}
      (earlier : Committed before) (done : Store.commit before.db now row = .ok db) :
      Committed ⟨db, before.log ++ [row]⟩

def Compiled (built : Built K) : Prop :=
  built.graph = build geo (values built.source.db.routes) ∧ Committed start built.source

def Fresh (planner : Planner K) : Prop :=
  ∀ q query built, planner.queries q = some query → query.stage = .answered built →
    Compiled geo start built ∧ query.seen <+: built.source.log

/-- The windows that lose a write: a commit while a graph is held, and storing a
graph after a commit that its builder did not read. -/
def undisturbed (planner : Planner K) : Action K → Prop
  | .commit _ _ => planner.graphRef = none
  | .store q => ∀ query source, planner.queries q = some query → query.stage = .loaded source →
      source.log = planner.committed.log
  | _ => True

def QuerySound (log : List (RowWrite K)) (query : Query K) : Prop :=
  query.seen <+: log ∧
    match query.stage with
    | .loaded source => Committed start source ∧ query.seen <+: source.log
    | .answered built => Compiled geo start built ∧ query.seen <+: built.source.log
    | _ => True

structure Sound (planner : Planner K) : Prop where
  table : Committed start planner.committed
  held : ∀ built, planner.graphRef = some built →
    Compiled geo start built ∧ built.source.log = planner.committed.log
  queries : ∀ q query, planner.queries q = some query →
    QuerySound geo start planner.committed.log query

variable {geo start}

theorem sound_fresh {planner : Planner K} (sound : Sound geo start planner) :
    Fresh geo start planner := by
  intro q query built found answered
  have ok := (sound.queries q query found).2
  rw [answered] at ok
  exact ok

theorem sound_start : Sound geo start (Planner.start start) := by
  constructor
  case table => exact Committed.initial
  case held => simp [Planner.start]
  case queries => simp [Planner.start]

variable {planner after : Planner K}

theorem set_writer_sound (sound : Sound geo start planner) (w : Nat)
    (writer : Option (Writer K)) : Sound geo start (planner.setWriter w writer) :=
  ⟨sound.table, sound.held, sound.queries⟩

theorem set_monitor_sound (sound : Sound geo start planner) (holder : Option Nat) :
    Sound geo start (planner.setMonitor holder) :=
  ⟨sound.table, sound.held, sound.queries⟩

theorem routes_changed_sound (sound : Sound geo start planner) :
    Sound geo start (onRoutesChanged planner) :=
  ⟨sound.table, by simp [onRoutesChanged], sound.queries⟩

theorem set_query_sound (sound : Sound geo start planner) (q : Nat) {query : Query K}
    (ok : QuerySound geo start planner.committed.log query) :
    Sound geo start (planner.setQuery q query) := by
  refine ⟨sound.table, sound.held, fun other found at_ => ?_⟩
  simp only [Planner.setQuery, Function.update_apply] at at_
  split at at_
  · rw [← Option.some.inj at_]
    exact ok
  · exact sound.queries other found at_

theorem query_sound_grows {log : List (RowWrite K)} {query : Query K} (row : RowWrite K)
    (sound : QuerySound geo start log query) : QuerySound geo start (log ++ [row]) query :=
  ⟨sound.1.trans (List.prefix_append log [row]), sound.2⟩

/-- With no graph held, a commit leaves nothing that is out of date. -/
theorem commit_sound (sound : Sound geo start planner) (w : Nat) (now : Int)
    (dropped : planner.graphRef = none) (done : writerCommits planner w now = some after) :
    Sound geo start after := by
  unfold writerCommits at done
  split at done
  · rename_i row _
    split at done
    · rw [← Option.some.inj done]
      exact set_writer_sound sound w none
    · rename_i db ok
      rw [← Option.some.inj done]
      refine set_writer_sound ⟨Committed.next sound.table ok, ?_, ?_⟩ w none
      · intro built held
        rw [dropped] at held
        exact absurd held.symm (Option.some_ne_none built)
      · intro q query found
        exact query_sound_grows row (sound.queries q query found)
  · exact absurd done.symm (Option.some_ne_none after)

/-- One line of `graph()`. Only storing needs that nothing committed meanwhile. -/
theorem query_step_sound (sound : Sound geo start planner) {q : Nat} {query : Query K}
    {action : Action K} (found : planner.queries q = some query)
    (current : ∀ source, action = .store q → query.stage = .loaded source →
      source.log = planner.committed.log) (about : ∀ other, action = .store other → other = q)
    (done : queryStep planner geo q query action = some after) : Sound geo start after := by
  have ok := sound.queries q query found
  -- A held graph is of the whole log, so it serves whoever reads it.
  have answer : ∀ built, planner.graphRef = some built →
      QuerySound geo start planner.committed.log { query with stage := .answered built } := by
    intro built held
    obtain ⟨compiled, upToDate⟩ := sound.held built held
    exact ⟨ok.1, compiled, by rw [upToDate]; exact ok.1⟩
  unfold queryStep at done
  split at done
  · split at done
    · rename_i held
      rw [← Option.some.inj done]
      exact set_query_sound sound q (answer _ held)
    · rw [← Option.some.inj done]
      exact set_query_sound sound q ⟨ok.1, trivial⟩
    · exact absurd done.symm (Option.some_ne_none after)
  · split at done
    · rw [← Option.some.inj done]
      exact set_query_sound (set_monitor_sound sound (some q)) q ⟨ok.1, trivial⟩
    · exact absurd done.symm (Option.some_ne_none after)
  · split at done
    · rename_i held
      rw [← Option.some.inj done]
      exact set_query_sound (set_monitor_sound sound none) q (answer _ held)
    · rw [← Option.some.inj done]
      exact set_query_sound sound q ⟨ok.1, trivial⟩
    · exact absurd done.symm (Option.some_ne_none after)
  · split at done
    · rw [← Option.some.inj done]
      exact set_query_sound sound q ⟨ok.1, sound.table, ok.1⟩
    · exact absurd done.symm (Option.some_ne_none after)
  · rename_i other
    split at done
    · rename_i source loaded
      have same : Action.store other = (.store q : Action K) := by rw [about other rfl]
      have upToDate := current source same loaded
      obtain ⟨seen, stage⟩ := ok
      rw [loaded] at stage
      have compiled : Compiled geo start ⟨build geo (values source.db.routes), source⟩ :=
        ⟨rfl, stage.1⟩
      have stored : Sound geo start
          { planner with graphRef := some ⟨build geo (values source.db.routes), source⟩ } := by
        refine ⟨sound.table, fun built held => ?_, sound.queries⟩
        rw [← Option.some.inj held]
        exact ⟨compiled, upToDate⟩
      rw [← Option.some.inj done]
      exact set_query_sound (set_monitor_sound stored none) q ⟨seen, compiled, stage.2⟩
    · exact absurd done.symm (Option.some_ne_none after)
  · exact absurd done.symm (Option.some_ne_none after)

variable [ToString K]

theorem step_sound {action : Action K} (sound : Sound geo start planner)
    (quiet : undisturbed planner action) (done : step geo planner action = some after) :
    Sound geo start after := by
  have ofQuery : ∀ q, (∀ other, action = .store other → other = q) →
      ((planner.queries q).bind fun query => queryStep planner geo q query action) = some after →
      Sound geo start after := by
    intro q about taken
    obtain ⟨query, found, moved⟩ := Option.bind_eq_some_iff.mp taken
    refine query_step_sound sound found ?_ about moved
    intro source storing loaded
    rw [storing] at quiet
    exact quiet query source found loaded
  cases action with
  | write w mutation =>
      simp only [step, writerWrites] at done
      split at done
      · exact absurd done.symm (Option.some_ne_none after)
      · split at done
        · rw [← Option.some.inj done]
          exact sound
        · rw [← Option.some.inj done]
          exact set_writer_sound sound w _
  | publish w =>
      simp only [step, writerPublishes] at done
      split at done
      · rw [← Option.some.inj done]
        exact set_writer_sound (routes_changed_sound sound) w _
      · exact absurd done.symm (Option.some_ne_none after)
  | commit w now => exact commit_sound sound w now quiet done
  | rollback w =>
      simp only [step] at done
      obtain ⟨writer, _, same⟩ := Option.map_eq_some_iff.mp done
      rw [← same]
      exact set_writer_sound sound w none
  | start q =>
      simp only [step] at done
      split at done
      · exact absurd done.symm (Option.some_ne_none after)
      · rw [← Option.some.inj done]
        exact set_query_sound sound q ⟨List.prefix_refl _, trivial⟩
  | readRef q => exact ofQuery q (by simp) done
  | enter q => exact ofQuery q (by simp) done
  | recheck q => exact ofQuery q (by simp) done
  | readRoutes q => exact ofQuery q (by simp) done
  | store q => exact ofQuery q (by simp) done

/-- In a run without those windows no query answers from an outdated graph. -/
theorem undisturbed_run_fresh {actions : List (Action K)}
    (run : Run (guarded undisturbed (fires (step geo))) (Planner.start start) actions after) :
    Fresh geo start after := by
  apply sound_fresh
  exact run_invariant (Sound geo start)
    (fun _ _ _ taken sound => step_sound sound taken.1 taken.2) run sound_start

end Fresh

def oneRoute : Database ℚ := Database.empty.putRoute shortLine

def buildBy (q : Nat) : List (Action ℚ) :=
  [.start q, .readRef q, .enter q, .recheck q, .readRoutes q, .store q]

/-- A graph is held when the route is deleted; the next query builds without it. -/
theorem rebuilt_after_delete :
    ∃ after query, Run (fires (step taxicab)) (Planner.start oneRoute)
        (buildBy 1 ++ [.write 0 (.delete 1), .publish 0, .commit 0 5] ++ buildBy 2) after ∧
      after.queries 2 = some query ∧ query.seen ≠ [] ∧ Fresh taxicab oneRoute after := by
  have run : ∃ after, Run (guarded undisturbed (fires (step taxicab))) (Planner.start oneRoute)
      (buildBy 1 ++ [.write 0 (.delete 1), .publish 0, .commit 0 5] ++ buildBy 2) after := by
    refine ⟨_, Run.next ⟨trivial, rfl⟩ <| Run.next ⟨trivial, rfl⟩ <| Run.next ⟨trivial, rfl⟩ <|
      Run.next ⟨trivial, rfl⟩ <| Run.next ⟨trivial, rfl⟩ <| Run.next ⟨?first, rfl⟩ <|
      Run.next ⟨trivial, rfl⟩ <| Run.next ⟨trivial, rfl⟩ <| Run.next ⟨rfl, rfl⟩ <|
      Run.next ⟨trivial, rfl⟩ <| Run.next ⟨trivial, rfl⟩ <| Run.next ⟨trivial, rfl⟩ <|
      Run.next ⟨trivial, rfl⟩ <| Run.next ⟨trivial, rfl⟩ <| Run.next ⟨?second, rfl⟩ (Run.refl _)⟩
    case first =>
      intro query source found loaded
      cases Option.some.inj found
      cases loaded
      rfl
    case second =>
      intro query source found loaded
      cases Option.some.inj found
      cases loaded
      rfl
  obtain ⟨after, taken⟩ := run
  have fresh := undisturbed_run_fresh taken
  have forgotten := guarded_run_forget taken
  have same := fires_unique forgotten (exec_run _ _ _ _ rfl)
  subst same
  exact ⟨_, _, forgotten, rfl, by decide, fresh⟩

/-- The route is deleted, but a query that ran between the event and the commit
stored the graph of the old table: the next query answers from it. -/
theorem deleted_route_served :
    ∃ after, Run (fires (step taxicab)) (Planner.start oneRoute)
      ([.write 0 (.delete 1), .publish 0] ++ buildBy 1 ++ [.commit 0 5, .start 2, .readRef 2])
      after ∧ ¬ Fresh taxicab oneRoute after := by
  refine ⟨_, exec_run _ _ _ _ rfl, fun fresh => ?_⟩
  obtain ⟨_, contained⟩ := fresh 2 _ _ rfl rfl
  exact absurd contained (by decide)

end CityBus.GraphFreshness
