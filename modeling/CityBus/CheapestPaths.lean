import Mathlib.Algebra.Order.Monoid.WithTop
import Mathlib.Algebra.Order.Monoid.Unbundled.WithTop
import Mathlib.Algebra.BigOperators.Group.List.Basic
import Mathlib.Data.List.MinMax
import Mathlib.Data.Prod.Lex
import Mathlib.Order.Bounds.Basic

/-!
Paths of a directed multigraph entered from several sources, each at a cost of
its own. `least_of_certificate` says when a table of distances is the table of
cheapest costs; it does not depend on how the table was computed. The last
section is the contract of a priority queue whose ties are broken arbitrarily.
-/

namespace CheapestPaths

universe u v w
variable {Vertex : Type u} {Edge : Type v} {Cost : Type w}

section Paths
variable (out : Vertex → List Edge) (target : Edge → Vertex)

inductive Path : Vertex → List Edge → Vertex → Prop where
  | nil (vertex : Vertex) : Path vertex [] vertex
  | cons {source goal : Vertex} {edge : Edge} {rest : List Edge}
      (leaves : edge ∈ out source) (tail : Path (target edge) rest goal) :
      Path source (edge :: rest) goal

variable {out target}

theorem path_append {source middle goal : Vertex} {first second : List Edge}
    (left : Path out target source first middle) (right : Path out target middle second goal) :
    Path out target source (first ++ second) goal := by
  induction left with
  | nil => exact right
  | cons leaves _ ih => exact Path.cons leaves (ih right)

theorem path_concat {source middle : Vertex} {edges : List Edge} {edge : Edge}
    (path : Path out target source edges middle) (leaves : edge ∈ out middle) :
    Path out target source (edges ++ [edge]) (target edge) :=
  path_append path (Path.cons leaves (Path.nil _))

theorem path_edge {source goal : Vertex} {edges : List Edge}
    (path : Path out target source edges goal) :
    ∀ edge ∈ edges, ∃ vertex, edge ∈ out vertex := by
  induction path with
  | nil => simp
  | @cons source goal edge rest leaves _ ih =>
      intro other member
      rcases List.mem_cons.mp member with rfl | later
      · exact ⟨source, leaves⟩
      · exact ih other later

theorem path_closed {within : Vertex → Prop}
    (closed : ∀ vertex, within vertex → ∀ edge ∈ out vertex, within (target edge))
    {source goal : Vertex} {edges : List Edge} (path : Path out target source edges goal)
    (start : within source) : within goal := by
  induction path with
  | nil => exact start
  | cons leaves _ ih => exact ih (closed _ start _ leaves)

end Paths

section Costs
variable [AddCommMonoid Cost]
variable (out : Vertex → List Edge) (target : Edge → Vertex) (cost : Edge → Cost)
variable (entry : Vertex → Cost → Prop)

def pathCost (edges : List Edge) : Cost := (edges.map cost).sum

/-- What it can cost to reach `goal`: enter somewhere and follow edges. -/
def chainCosts (goal : Vertex) : Set Cost :=
  {total | ∃ source start edges, entry source start ∧ Path out target source edges goal ∧
    total = start + pathCost cost edges}

variable {out target cost entry}

@[simp] theorem path_cost_nil : pathCost cost ([] : List Edge) = 0 := rfl

@[simp] theorem path_cost_cons (edge : Edge) (rest : List Edge) :
    pathCost cost (edge :: rest) = cost edge + pathCost cost rest := by
  simp [pathCost]

@[simp] theorem path_cost_append (first second : List Edge) :
    pathCost cost (first ++ second) = pathCost cost first + pathCost cost second := by
  simp [pathCost]

theorem entry_chain_cost {vertex : Vertex} {start : Cost} (enter : entry vertex start) :
    start ∈ chainCosts out target cost entry vertex :=
  ⟨vertex, start, [], enter, Path.nil vertex, by simp⟩

theorem edge_chain_cost {source : Vertex} {total : Cost} {edge : Edge}
    (reached : total ∈ chainCosts out target cost entry source) (leaves : edge ∈ out source) :
    total + cost edge ∈ chainCosts out target cost entry (target edge) := by
  obtain ⟨origin, start, edges, enter, path, sum⟩ := reached
  exact ⟨origin, start, edges ++ [edge], enter, path_concat path leaves,
    by simp [sum, add_assoc]⟩

variable [LinearOrder Cost] [IsOrderedAddMonoid Cost]

theorem path_cost_nonneg {source goal : Vertex} {edges : List Edge}
    (nonneg : ∀ vertex, ∀ edge ∈ out vertex, 0 ≤ cost edge)
    (path : Path out target source edges goal) : 0 ≤ pathCost cost edges := by
  induction path with
  | nil => exact le_refl _
  | cons leaves _ ih =>
      rw [path_cost_cons]
      exact add_nonneg (nonneg _ _ leaves) ih

theorem chain_cost_ge {bound : Cost} (nonneg : ∀ vertex, ∀ edge ∈ out vertex, 0 ≤ cost edge)
    (entries : ∀ vertex start, entry vertex start → bound ≤ start) {goal : Vertex} {total : Cost}
    (reached : total ∈ chainCosts out target cost entry goal) : bound ≤ total := by
  obtain ⟨source, start, edges, enter, path, rfl⟩ := reached
  exact le_trans (entries source start enter)
    (le_add_of_nonneg_right (path_cost_nonneg nonneg path))

theorem certificate_bounds_path (dist : Vertex → WithTop Cost)
    (relaxed : ∀ source, ∀ edge ∈ out source, dist (target edge) ≤ dist source + cost edge)
    {source goal : Vertex} {edges : List Edge} (path : Path out target source edges goal) :
    dist goal ≤ dist source + (pathCost cost edges : Cost) := by
  induction path with
  | nil vertex => simp
  | @cons source goal edge rest leaves _ ih =>
      calc dist goal ≤ dist (target edge) + (pathCost cost rest : Cost) := ih
        _ ≤ dist source + cost edge + (pathCost cost rest : Cost) :=
            add_le_add_left (relaxed source edge leaves) _
        _ = dist source + (pathCost cost (edge :: rest) : Cost) := by
            rw [path_cost_cons, WithTop.coe_add, add_assoc]

/-- A table that no entry and no edge improves, and whose finite values are
attained by chains, holds the least chain cost of every vertex. -/
theorem least_of_certificate (dist : Vertex → WithTop Cost)
    (entered : ∀ vertex start, entry vertex start → dist vertex ≤ start)
    (relaxed : ∀ source, ∀ edge ∈ out source, dist (target edge) ≤ dist source + cost edge)
    (attained : ∀ vertex (total : Cost), dist vertex = total →
      total ∈ chainCosts out target cost entry vertex) (goal : Vertex) :
    (dist goal = ⊤ ↔ chainCosts out target cost entry goal = ∅) ∧
      ∀ total : Cost, dist goal = total →
        IsLeast (chainCosts out target cost entry goal) total := by
  have below : ∀ total ∈ chainCosts out target cost entry goal, dist goal ≤ (total : Cost) := by
    rintro total ⟨source, start, edges, enter, path, rfl⟩
    calc dist goal ≤ dist source + (pathCost cost edges : Cost) :=
          certificate_bounds_path dist relaxed path
      _ ≤ (start : WithTop Cost) + (pathCost cost edges : Cost) :=
          add_le_add_left (entered source start enter) _
      _ = ((start + pathCost cost edges : Cost) : WithTop Cost) := (WithTop.coe_add _ _).symm
  refine ⟨⟨fun unreached => ?_, fun empty => ?_⟩, fun total value => ⟨attained goal total value, ?_⟩⟩
  · apply Set.eq_empty_of_forall_notMem
    intro total member
    have bound := below total member
    rw [unreached] at bound
    exact WithTop.coe_ne_top (top_le_iff.mp bound)
  · by_contra finite
    obtain ⟨total, value⟩ := WithTop.ne_top_iff_exists.mp finite
    have member := attained goal total value.symm
    rw [empty] at member
    exact member
  · intro other member
    have bound := below other member
    rw [value] at bound
    exact WithTop.coe_le_coe.mp bound

end Costs

/-! ## Graphs that follow one another -/

section Simulation
variable {Vertex' : Type*} {Edge' : Type*} [AddCommMonoid Cost]
variable {out : Vertex → List Edge} {target : Edge → Vertex} (cost : Edge → Cost)
variable {out' : Vertex' → List Edge'} {target' : Edge' → Vertex'} (cost' : Edge' → Cost)
variable {related : Vertex → Vertex' → Prop}

theorem path_simulated
    (step : ∀ u u', related u u' → ∀ edge ∈ out u, ∃ edge' ∈ out' u',
      related (target edge) (target' edge') ∧ cost' edge' = cost edge)
    {source goal : Vertex} {edges : List Edge} (path : Path out target source edges goal)
    {source' : Vertex'} (start : related source source') :
    ∃ edges' goal', Path out' target' source' edges' goal' ∧ related goal goal' ∧
      pathCost cost' edges' = pathCost cost edges := by
  induction path generalizing source' with
  | nil vertex => exact ⟨[], source', Path.nil source', start, rfl⟩
  | @cons source goal edge rest leaves _ ih =>
      obtain ⟨edge', leaves', ends, same⟩ := step source source' start edge leaves
      obtain ⟨edges', goal', path', atGoal, total⟩ := ih ends
      refine ⟨edge' :: edges', goal', Path.cons leaves' path', atGoal, ?_⟩
      rw [path_cost_cons, path_cost_cons, same, total]

/-- Where every edge is followed by one that is not dearer, so is every path. -/
theorem path_dominated [PartialOrder Cost] [IsOrderedAddMonoid Cost]
    (step : ∀ u u', related u u' → ∀ edge ∈ out u, ∃ edge' ∈ out' u',
      related (target edge) (target' edge') ∧ cost' edge' ≤ cost edge)
    {source goal : Vertex} {edges : List Edge} (path : Path out target source edges goal)
    {source' : Vertex'} (start : related source source') :
    ∃ edges' goal', Path out' target' source' edges' goal' ∧ related goal goal' ∧
      pathCost cost' edges' ≤ pathCost cost edges := by
  induction path generalizing source' with
  | nil vertex => exact ⟨[], source', Path.nil source', start, le_refl _⟩
  | @cons source goal edge rest leaves _ ih =>
      obtain ⟨edge', leaves', ends, below⟩ := step source source' start edge leaves
      obtain ⟨edges', goal', path', atGoal, total⟩ := ih ends
      refine ⟨edge' :: edges', goal', Path.cons leaves' path', atGoal, ?_⟩
      rw [path_cost_cons, path_cost_cons]
      exact add_le_add below total

end Simulation

/-! ## Graphs that can be walked back

A way back need not cost what the way there does: it is enough that the two
differ by the levels of the ends. Along a path the levels in between cancel. -/

section Reversal
variable [AddCommMonoid Cost] {out : Vertex → List Edge} {target : Edge → Vertex}
  {cost : Edge → Cost} {level : Vertex → Cost}

theorem path_reversed
    (back : ∀ u, ∀ edge ∈ out u, ∃ edge' ∈ out (target edge), target edge' = u ∧
      cost edge + level u = cost edge' + level (target edge))
    {source goal : Vertex} {edges : List Edge} (path : Path out target source edges goal) :
    ∃ edges', Path out target goal edges' source ∧
      pathCost cost edges + level source = pathCost cost edges' + level goal := by
  induction path with
  | nil vertex => exact ⟨[], Path.nil vertex, rfl⟩
  | @cons source goal edge rest leaves _ ih =>
      obtain ⟨edges', path', total⟩ := ih
      obtain ⟨edge', leaves', ends, same⟩ := back source edge leaves
      refine ⟨edges' ++ [edge'], ends ▸ path_concat path' leaves', ?_⟩
      calc pathCost cost (edge :: rest) + level source
          = cost edge + level source + pathCost cost rest := by
            rw [path_cost_cons, add_right_comm]
        _ = cost edge' + (pathCost cost rest + level (target edge)) := by
            rw [same, add_assoc, add_comm (level _)]
        _ = pathCost cost (edges' ++ [edge']) + level goal := by
            rw [total, path_cost_append, path_cost_cons, path_cost_nil, add_zero, ← add_assoc,
              add_comm (cost edge')]

end Reversal

/-! A priority queue hands out some least entry; which one among equals is not
specified, so it is data of the environment. -/
section Polling
variable {Entry : Type u} {Key : Type v} [LinearOrder Key]

structure Polling (key : Entry → Key) where
  poll : List Entry → Option (Entry × List Entry)
  empty : ∀ queue, poll queue = none ↔ queue = []
  perm : ∀ queue entry rest, poll queue = some (entry, rest) → queue.Perm (entry :: rest)
  least : ∀ queue entry rest, poll queue = some (entry, rest) →
    ∀ other ∈ queue, key entry ≤ key other

/-- Break ties by a finer key; the first of the entries least for it is taken. -/
def Polling.refine {Fine : Type w} [DecidableEq Entry] [LinearOrder Fine] (key : Entry → Key)
    (fine : Entry → Fine) (finer : ∀ a b, fine a ≤ fine b → key a ≤ key b) : Polling key where
  poll queue := (queue.argmin fine).map fun entry => (entry, queue.erase entry)
  empty := by intro queue; simp
  perm := by
    intro queue entry rest polled
    obtain ⟨found, least, same⟩ := Option.map_eq_some_iff.mp polled
    obtain ⟨rfl, rfl⟩ := Prod.mk.inj same
    exact List.perm_cons_erase (List.argmin_mem least)
  least := by
    intro queue entry rest polled other member
    obtain ⟨found, least, same⟩ := Option.map_eq_some_iff.mp polled
    obtain ⟨rfl, rfl⟩ := Prod.mk.inj same
    exact finer _ _ (List.le_of_mem_argmin member least)

theorem refine_least {Fine : Type w} [DecidableEq Entry] [LinearOrder Fine] {key : Entry → Key}
    {fine : Entry → Fine} {finer : ∀ a b, fine a ≤ fine b → key a ≤ key b}
    {queue rest : List Entry} {entry other : Entry}
    (polled : (Polling.refine key fine finer).poll queue = some (entry, rest))
    (member : other ∈ queue) : fine entry ≤ fine other := by
  obtain ⟨found, least, same⟩ := Option.map_eq_some_iff.mp polled
  obtain ⟨rfl, rfl⟩ := Prod.mk.inj same
  exact List.le_of_mem_argmin member least

def Polling.first [DecidableEq Entry] (key : Entry → Key) : Polling key :=
  Polling.refine key key fun _ _ below => below

variable {key : Entry → Key} (polling : Polling key)

theorem polled_mem {queue rest : List Entry} {entry other : Entry}
    (polled : polling.poll queue = some (entry, rest)) :
    other ∈ queue ↔ other = entry ∨ other ∈ rest := by
  rw [(polling.perm queue entry rest polled).mem_iff, List.mem_cons]

theorem polled_length {queue rest : List Entry} {entry : Entry}
    (polled : polling.poll queue = some (entry, rest)) :
    queue.length = rest.length + 1 := by
  rw [(polling.perm queue entry rest polled).length_eq, List.length_cons]

end Polling

end CheapestPaths
