import DriverMicroServices.Graphs.Visits
import Mathlib.Data.List.Chain
import Mathlib.Data.List.Nodup
import Mathlib.Data.List.Perm.Subperm
import Mathlib.Logic.Relation

/-! Looking for a cycle by depth-first visits that carry the path they are on. A node that is
met again on the path closes the cycle from its place to the end; the search stops there, with
the path as it is. -/
namespace Graphs.CycleSearch
open Visits

variable {α : Type}

/-- Why a search stops: at a cycle, or at the bound on nested visits. -/
inductive Stop (α : Type) where
  | cycle (nodes : List α)
  | depth
deriving DecidableEq

structure Walk (α : Type) where
  visited : List α := []
  recStack : List α := []
  path : List α := []

/-- The number bounds how deep visits nest. -/
def dfs [DecidableEq α] (deps : α → List α) : Nat → α → Walk α → Except (Stop α) (Walk α)
  | 0, _, _ => .error .depth
  | fuel + 1, node, walk =>
    if node ∈ walk.recStack then .error (.cycle (walk.path.drop (walk.path.idxOf node)))
    else if node ∈ walk.visited then .ok walk
    else do
      let inside ← (deps node).foldlM (fun walk dep => dfs deps fuel dep walk)
        { visited := node :: walk.visited
          recStack := node :: walk.recStack
          path := walk.path ++ [node] }
      .ok { inside with recStack := inside.recStack.filter (· ≠ node), path := inside.path.dropLast }

section Relations

variable (deps : α → List α)

def Depends (a b : α) : Prop := b ∈ deps a

/-- Distinct nodes, each depends on the next and the last on the first. -/
structure Cycle (nodes : List α) : Prop where
  nonempty : nodes ≠ []
  nodup : nodes.Nodup
  next : nodes.IsChain (Depends deps)
  closes : ∀ last ∈ nodes.getLast?, ∀ first ∈ nodes.head?, Depends deps last first

/-- Nodes that were left, with all that they depend on. -/
def Walk.Done (walk : Walk α) (node : α) : Prop := node ∈ walk.visited ∧ node ∉ walk.path

/-- What holds of the walk between two visits. -/
structure Good (walk : Walk α) : Prop where
  stack : ∀ node, node ∈ walk.recStack ↔ node ∈ walk.path
  nodup : walk.path.Nodup
  entered : ∀ node ∈ walk.path, node ∈ walk.visited
  chain : walk.path.IsChain (Depends deps)
  closed : ∀ a, walk.Done a → ∀ b, Depends deps a b → walk.Done b
  acyclic : ∀ a, walk.Done a → ¬ Relation.TransGen (Depends deps) a a

/-- What a visit leaves: the path as it was, earlier nodes, and its targets done; or a cycle. -/
def Leaves (walk : Walk α) (targets : List α) : Except (Stop α) (Walk α) → Prop
  | .ok left => Good deps left ∧ left.path = walk.path ∧
      (∀ node, walk.Done node → left.Done node) ∧ ∀ node ∈ targets, left.Done node
  | .error (.cycle nodes) => Cycle deps nodes
  | .error .depth => False

end Relations

variable {deps : α → List α} {walk : Walk α}

theorem good_init : Good deps ({} : Walk α) where
  stack := by simp
  nodup := List.nodup_nil
  entered := by simp
  chain := .nil
  closed := by simp [Walk.Done]
  acyclic := by simp [Walk.Done]

theorem Cycle.depends_on_itself (cycle : Cycle deps nodes) :
    ∃ node ∈ nodes, Relation.TransGen (Depends deps) node node := by
  obtain ⟨first, rest, rfl⟩ := List.exists_cons_of_ne_nil cycle.nonempty
  refine ⟨first, by simp, ?_⟩
  have reach : ∀ (tail : List α) (start : α), (start :: tail).IsChain (Depends deps) →
      ∀ last ∈ (start :: tail).getLast?, Relation.ReflTransGen (Depends deps) start last := by
    intro tail
    induction tail with
    | nil =>
      intro start _ last ended
      cases ended
      exact .refl
    | cons second tail ih =>
      intro start chain last ended
      rw [List.isChain_cons_cons] at chain
      exact .head chain.1 (ih second chain.2 last (by simpa using ended))
  obtain ⟨last, ended⟩ : ∃ last, last ∈ (first :: rest).getLast? := by simp [List.getLast?_cons]
  have back := cycle.closes last ended first (by simp)
  exact Relation.TransGen.tail' (reach rest first cycle.next last ended) back

theorem Cycle.depends (cycle : Cycle deps nodes) (member : node ∈ nodes) :
    ∃ next, Depends deps node next := by
  obtain ⟨i, bound, rfl⟩ := List.getElem_of_mem member
  by_cases final : i + 1 < nodes.length
  · exact ⟨_, List.isChain_iff_getElem.mp cycle.next i final⟩
  · obtain ⟨first, rest, rfl⟩ := List.exists_cons_of_ne_nil cycle.nonempty
    refine ⟨first, cycle.closes _ ?_ first (by simp)⟩
    have last : i = (first :: rest).length - 1 := by omega
    rw [List.getLast?_eq_getElem?]
    simp [last]

/-- The cycle where a search stops. -/
def Stops (deps : α → List α) : Stop α → Prop
  | .cycle nodes => Cycle deps nodes
  | .depth => False

theorem leaves_iff (walk : Walk α) (targets : List α) (left : Except (Stop α) (Walk α)) :
    Leaves deps walk targets left ↔ Left (Good deps) (Stops deps) Walk.path Walk.Done walk targets left := by
  cases left with
  | ok left => rfl
  | error stop => cases stop <;> rfl

/-- Visits one after the other, by what each of them leaves. -/
theorem leaves_foldlM (targets : List α) (body : Walk α → α → Except (Stop α) (Walk α))
    (each : ∀ middle, Good deps middle → middle.path = walk.path →
      ∀ node ∈ targets, Leaves deps middle [node] (body middle node))
    (good : Good deps walk) : Leaves deps walk targets (targets.foldlM body walk) := by
  simp only [leaves_iff] at each ⊢
  exact left_foldlM targets body each good

/-- A loop over nodes ends at a cycle, or none of them depends on itself. -/
theorem loop_spec (targets : List α) (body : Walk α → α → Except (Stop α) (Walk α))
    (each : ∀ walk, Good deps walk → walk.path = [] →
      ∀ node ∈ targets, Leaves deps walk [node] (body walk node)) :
    (∃ nodes, targets.foldlM body {} = .error (.cycle nodes) ∧ Cycle deps nodes) ∨
    ∃ walk, targets.foldlM body {} = .ok walk ∧
      ∀ node ∈ targets, ¬ Relation.TransGen (Depends deps) node node := by
  have loop := leaves_foldlM targets body (fun walk good same => each walk good same) good_init
  cases ended : targets.foldlM body {} with
  | error stop =>
    rw [ended] at loop
    cases stop with
    | cycle nodes => exact .inl ⟨nodes, rfl, loop⟩
    | depth => exact loop.elim
  | ok walk =>
    rw [ended] at loop
    obtain ⟨good, -, -, reached⟩ := loop
    exact .inr ⟨walk, rfl, fun node member => good.acyclic node (reached node member)⟩

/-- A fresh node is put at the end of the path. -/
def enter (walk : Walk α) (node : α) : Walk α where
  visited := node :: walk.visited
  recStack := node :: walk.recStack
  path := walk.path ++ [node]

theorem done_enter (fresh : node ∉ walk.visited) (n : α) :
    (enter walk node).Done n ↔ walk.Done n := by
  simp only [Walk.Done, enter, List.mem_cons, List.mem_append, List.not_mem_nil, or_false]
  constructor
  · rintro ⟨rfl | visited, apart⟩
    · exact absurd (.inr rfl) apart
    · exact ⟨visited, fun there => apart (.inl there)⟩
  · rintro ⟨visited, apart⟩
    refine ⟨.inr visited, ?_⟩
    rintro (there | rfl)
    · exact apart there
    · exact fresh visited

theorem good_enter (good : Good deps walk) (fresh : node ∉ walk.visited)
    (below : ∀ last ∈ walk.path.getLast?, Depends deps last node) :
    Good deps (enter walk node) where
  stack := by
    intro n
    simp [enter, good.stack n, or_comm]
  nodup := by
    refine good.nodup.append (List.nodup_singleton node) ?_
    simpa using fun there => fresh (good.entered node there)
  entered := by
    intro n member
    rcases List.mem_append.mp member with member | member
    · exact List.mem_cons_of_mem _ (good.entered n member)
    · simp [enter, List.mem_singleton.mp member]
  chain := by
    refine List.IsChain.append good.chain (.singleton node) ?_
    simpa using below
  closed := by
    intro a done b edge
    rw [done_enter fresh] at done ⊢
    exact good.closed a done b edge
  acyclic := by
    intro a done
    rw [done_enter fresh] at done
    exact good.acyclic a done

/-- What starts among nodes that are closed under dependencies stays there. -/
theorem stays {done : α → Prop} (closed : ∀ a, done a → ∀ b, Depends deps a b → done b)
    (start : done a) (reaches : Relation.TransGen (Depends deps) a b) : done b := by
  induction reaches with
  | single edge => exact closed _ start _ edge
  | tail _ edge ih => exact closed _ ih _ edge

variable [DecidableEq α]

/-- The part of the path from a node that is met again. -/
theorem cycle_of_path (good : Good deps walk) (again : node ∈ walk.path)
    (back : ∀ last ∈ walk.path.getLast?, Depends deps last node) :
    Cycle deps (walk.path.drop (walk.path.idxOf node)) := by
  have bound := List.idxOf_lt_length_iff.mpr again
  have here : walk.path.drop (walk.path.idxOf node) =
      node :: walk.path.drop (walk.path.idxOf node + 1) := by
    rw [List.drop_eq_getElem_cons bound, List.getElem_idxOf]
  refine ⟨by simp [here], good.nodup.sublist (List.drop_sublist _ _), good.chain.drop _, ?_⟩
  intro last ended first started
  rw [here] at started
  cases started
  rw [List.getLast?_drop, if_neg (by omega)] at ended
  exact back last ended

def leave (walk : Walk α) (node : α) : Walk α :=
  { walk with recStack := walk.recStack.filter (· ≠ node), path := walk.path.dropLast }

theorem done_leave {inside : Walk α} (good : Good deps inside) (node : α)
    (top : inside.path = walk.path ++ [node]) (n : α) :
    (leave inside node).Done n ↔ n = node ∨ inside.Done n := by
  have nodup := good.nodup
  rw [top, List.nodup_append] at nodup
  simp only [Walk.Done, leave, top, List.dropLast_concat, List.mem_append, List.mem_singleton, not_or]
  constructor
  · rintro ⟨visited, apart⟩
    by_cases same : n = node
    · exact .inl same
    · exact .inr ⟨visited, apart, same⟩
  · rintro (rfl | ⟨visited, apart, -⟩)
    · exact ⟨good.entered n (by simp [top]), fun there => nodup.2.2 n there n (by simp) rfl⟩
    · exact ⟨visited, apart⟩

/-- The node leaves the path when all that it depends on is done. -/
theorem good_leave {inside : Walk α} (good : Good deps inside)
    (top : inside.path = walk.path ++ [node])
    (met : ∀ b, Depends deps node b → inside.Done b) : Good deps (leave inside node) := by
  have nodup := good.nodup
  rw [top, List.nodup_append] at nodup
  have apart : ¬ inside.Done node := fun done => done.2 (by simp [top])
  refine ⟨?_, ?_, ?_, ?_, ?_, ?_⟩
  · intro n
    have apart : n ∈ walk.path → n ≠ node := fun there => nodup.2.2 n there node (by simp)
    have stack : n ∈ inside.recStack ↔ n ∈ walk.path ∨ n = node := by simp [good.stack n, top]
    simp only [leave, top, List.dropLast_concat, List.mem_filter, stack, decide_eq_true_eq]
    tauto
  · simpa [leave, top] using nodup.1
  · intro n member
    exact good.entered n ((List.dropLast_sublist _).mem member)
  · exact good.chain.dropLast
  · intro a done b edge
    rw [done_leave good node top] at done ⊢
    rcases done with rfl | done
    · exact .inr (met b edge)
    · exact .inr (good.closed a done b edge)
  · intro a done cycle
    rw [done_leave good node top] at done
    rcases done with rfl | done
    · obtain ⟨b, edge, back⟩ := Relation.TransGen.head'_iff.mp cycle
      rcases Relation.reflTransGen_iff_eq_or_transGen.mp back with rfl | back
      · exact apart (met _ edge)
      · exact apart (stays good.closed (met b edge) back)
    · exact good.acyclic a done cycle

/-- A visit at the end of a path. The bound is the number of nodes below dependencies. -/
theorem dfs_leaves {nodes : List α} {fuel : Nat} {node : α} (good : Good deps walk)
    (inside : ∀ n ∈ walk.path, n ∈ nodes) (known : node ∈ nodes)
    (followed : ∀ a ∈ nodes, ∀ b, Depends deps a b → b ∈ nodes)
    (enough : nodes.length < fuel + walk.path.length)
    (below : ∀ last ∈ walk.path.getLast?, Depends deps last node) :
    Leaves deps walk [node] (dfs deps fuel node walk) := by
  induction fuel generalizing node walk with
  | zero =>
    have bound := (good.nodup.subperm inside).length_le
    omega
  | succ fuel ih =>
    unfold dfs
    split
    · rename_i again
      exact cycle_of_path good ((good.stack node).mp again) below
    · rename_i fresh
      split
      · rename_i there
        have done : walk.Done node := ⟨there, fun onPath => fresh ((good.stack node).mpr onPath)⟩
        exact ⟨good, rfl, fun _ done => done, by simpa using done⟩
      · rename_i unvisited
        have entered := good_enter good unvisited below
        have loop := leaves_foldlM (deps node) (fun walk dep => dfs deps fuel dep walk)
          (fun middle goodMiddle same dep edge => by
            refine ih goodMiddle ?_ (followed node known dep edge) ?_ ?_
            · rw [same]
              intro n member
              rcases List.mem_append.mp member with member | member
              · exact inside n member
              · exact List.mem_singleton.mp member ▸ known
            · simp only [same, enter, List.length_append, List.length_singleton]
              omega
            · rw [same]
              simpa [enter, Depends] using edge) entered
        change Leaves deps walk [node] (((deps node).foldlM
          (fun walk dep => dfs deps fuel dep walk) (enter walk node)).bind
            fun inside => .ok (leave inside node))
        cases ended : (deps node).foldlM (fun walk dep => dfs deps fuel dep walk) (enter walk node) with
        | error stop =>
          rw [ended] at loop
          cases stop <;> exact loop
        | ok left =>
          rw [ended] at loop
          obtain ⟨goodLeft, top, kept, reached⟩ := loop
          have gone := done_leave goodLeft node top
          refine ⟨good_leave goodLeft top reached, by simp [leave, top, enter], ?_, ?_⟩
          · exact fun n done => (gone n).mpr (.inr (kept n ((done_enter unvisited n).mpr done)))
          · simpa using (gone node).mpr (.inl rfl)

end Graphs.CycleSearch
