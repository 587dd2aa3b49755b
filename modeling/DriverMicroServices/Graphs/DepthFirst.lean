import DriverMicroServices.Graphs.Visits
import Mathlib.Data.List.Nodup
import Mathlib.Data.List.Perm.Subperm
import Mathlib.Logic.Relation

/-! Sorting the nodes of a graph by depth-first visits, each node after those it depends on.
A visit keeps the nodes that it is inside of on a stack; a node that is met again there
depends on itself. -/
namespace Graphs.DepthFirst
open Visits

variable {α : Type} [DecidableEq α]

/-- Why a sort stops: at a node that depends on itself, or at the bound on nested visits. -/
inductive Stop (α : Type) where
  | circular (node : α)
  | depth
deriving DecidableEq

structure Marks (α : Type) where
  visited : List α := []
  visiting : List α := []
  result : List α := []

section Sorting

variable (deps : α → List α) (nodes : List α)

/-- Only what belongs to the graph is followed. The number bounds how deep visits nest. -/
def visit : Nat → α → Marks α → Except (Stop α) (Marks α)
  | 0, _, _ => .error .depth
  | fuel + 1, node, marks =>
    if node ∈ marks.visiting then .error (.circular node)
    else if node ∈ marks.visited then .ok marks
    else do
      let inside ← ((deps node).filter (· ∈ nodes)).foldlM (fun marks dep => visit fuel dep marks)
        { marks with visiting := node :: marks.visiting }
      .ok { visited := node :: inside.visited
            visiting := inside.visiting.erase node
            result := inside.result ++ [node] }

def sort : Except (Stop α) (List α) := do
  let marks ← nodes.foldlM
    (fun marks node => if node ∈ marks.visited then .ok marks
      else visit deps nodes (nodes.length + 1) node marks) {}
  .ok marks.result

/-- The dependencies between the nodes of the graph. -/
def Edge (a b : α) : Prop := a ∈ nodes ∧ b ∈ nodes ∧ b ∈ deps a

/-- Every node once, after those it depends on. -/
structure Topological (order : List α) : Prop where
  nodup : order.Nodup
  mem_iff : ∀ node, node ∈ order ↔ node ∈ nodes
  after : ∀ a b, Edge deps nodes a b → order.idxOf b < order.idxOf a

/-- What holds of the marks between two visits. -/
structure Good (marks : Marks α) : Prop where
  visited : ∀ node, node ∈ marks.visited ↔ node ∈ marks.result
  nodup : marks.result.Nodup
  known : ∀ node ∈ marks.result, node ∈ nodes
  after : ∀ a ∈ marks.result, ∀ b, Edge deps nodes a b →
    b ∈ marks.result ∧ marks.result.idxOf b < marks.result.idxOf a
  stack : marks.visiting.Nodup
  inside : ∀ node ∈ marks.visiting, node ∈ nodes ∧ node ∉ marks.result

/-- What a visit leaves: the stack as it was, earlier results, and its targets visited; or a
node that depends on itself. -/
def Leaves (marks : Marks α) (targets : List α) : Except (Stop α) (Marks α) → Prop
  | .ok left => Good deps nodes left ∧ left.visiting = marks.visiting ∧
      (∀ node ∈ marks.result, node ∈ left.result) ∧ ∀ node ∈ targets, node ∈ left.result
  | .error (.circular node) => node ∈ nodes ∧ Relation.TransGen (Edge deps nodes) node node
  | .error .depth => False

end Sorting

variable {deps : α → List α} {nodes : List α} {marks : Marks α}

theorem good_init : Good deps nodes ({} : Marks α) where
  visited := by simp
  nodup := List.nodup_nil
  known := by simp
  after := by simp
  stack := List.nodup_nil
  inside := by simp

/-- The node where a sort stops. -/
def Circular (deps : α → List α) (nodes : List α) : Stop α → Prop
  | .circular node => node ∈ nodes ∧ Relation.TransGen (Edge deps nodes) node node
  | .depth => False

theorem leaves_iff (marks : Marks α) (targets : List α) (left : Except (Stop α) (Marks α)) :
    Leaves deps nodes marks targets left ↔
      Left (Good deps nodes) (Circular deps nodes) Marks.visiting (fun marks node => node ∈ marks.result)
        marks targets left := by
  cases left with
  | ok left => rfl
  | error stop => cases stop <;> rfl

/-- Visits one after the other, by what each of them leaves. -/
theorem leaves_foldlM (targets : List α) (body : Marks α → α → Except (Stop α) (Marks α))
    (each : ∀ middle, Good deps nodes middle → middle.visiting = marks.visiting →
      ∀ node ∈ targets, Leaves deps nodes middle [node] (body middle node))
    (good : Good deps nodes marks) : Leaves deps nodes marks targets (targets.foldlM body marks) := by
  simp only [leaves_iff] at each ⊢
  exact left_foldlM targets body each good

/-- A node enters the stack when the visit of what it depends on begins. -/
theorem good_enter (good : Good deps nodes marks) (known : node ∈ nodes)
    (fresh : node ∉ marks.visiting) (unvisited : node ∉ marks.visited) :
    Good deps nodes { marks with visiting := node :: marks.visiting } where
  visited := good.visited
  nodup := good.nodup
  known := good.known
  after := good.after
  stack := List.nodup_cons.mpr ⟨fresh, good.stack⟩
  inside := by
    intro n member
    rcases List.mem_cons.mp member with rfl | member
    · exact ⟨known, fun there => unvisited ((good.visited n).mpr there)⟩
    · exact good.inside n member

/-- It leaves the stack for the end of the result, when all that it depends on is there. -/
theorem good_leave {inside : Marks α} (good : Good deps nodes inside)
    (top : inside.visiting = node :: marks.visiting)
    (met : ∀ b, Edge deps nodes node b → b ∈ inside.result) :
    Good deps nodes { visited := node :: inside.visited
                      visiting := inside.visiting.erase node
                      result := inside.result ++ [node] } := by
  have stack := good.stack
  rw [top] at stack
  obtain ⟨known, absent⟩ := good.inside node (by simp [top])
  have rest : inside.visiting.erase node = marks.visiting := by simp [top]
  refine ⟨?_, ?_, ?_, ?_, ?_, ?_⟩
  · intro n
    simp [good.visited n, or_comm]
  · exact good.nodup.append (List.nodup_singleton node) (by simpa using absent)
  · intro n member
    rcases List.mem_append.mp member with member | member
    · exact good.known n member
    · rw [List.mem_singleton.mp member]
      exact known
  · intro a member b edge
    rcases List.mem_append.mp member with member | member
    · obtain ⟨there, before⟩ := good.after a member b edge
      rw [List.idxOf_append_of_mem there, List.idxOf_append_of_mem member]
      exact ⟨List.mem_append_left _ there, before⟩
    · obtain rfl := List.mem_singleton.mp member
      have there := met b edge
      rw [List.idxOf_append_of_mem there, List.idxOf_append_of_notMem absent]
      have bound := List.idxOf_lt_length_iff.mpr there
      exact ⟨List.mem_append_left _ there, by omega⟩
  · rw [rest]
    exact (List.nodup_cons.mp stack).2
  · intro n member
    rw [rest] at member
    obtain ⟨n_known, n_absent⟩ := good.inside n (by simp [top, member])
    refine ⟨n_known, ?_⟩
    simp only [List.mem_append, List.mem_singleton, not_or]
    exact ⟨n_absent, fun same => (List.nodup_cons.mp stack).1 (same ▸ member)⟩

/-- A visit below a stack of nodes that all depend on its node. -/
theorem visit_leaves {fuel : Nat} {node : α} (good : Good deps nodes marks) (known : node ∈ nodes)
    (enough : nodes.length < fuel + marks.visiting.length)
    (below : ∀ n ∈ marks.visiting, Relation.TransGen (Edge deps nodes) n node) :
    Leaves deps nodes marks [node] (visit deps nodes fuel node marks) := by
  induction fuel generalizing node marks with
  | zero =>
    have bound := (good.stack.subperm fun n member => (good.inside n member).1).length_le
    omega
  | succ fuel ih =>
    unfold visit
    split
    · rename_i again
      exact ⟨known, below node again⟩
    · rename_i fresh
      split
      · rename_i there
        exact ⟨good, rfl, fun _ member => member, by simpa using (good.visited node).mp there⟩
      · rename_i unvisited
        have entered := good_enter good known fresh unvisited
        have loop := leaves_foldlM ((deps node).filter (· ∈ nodes))
          (fun marks dep => visit deps nodes fuel dep marks) (fun middle goodMiddle same dep member => by
            obtain ⟨listed, inGraph⟩ := List.mem_filter.mp member
            have edge : Edge deps nodes node dep := ⟨known, by simpa using inGraph, listed⟩
            refine ih goodMiddle edge.2.1 (by rw [same]; simp; omega) fun n onStack => ?_
            rw [same] at onStack
            rcases List.mem_cons.mp onStack with rfl | onStack
            · exact .single edge
            · exact (below n onStack).tail edge) entered
        cases ended : ((deps node).filter (· ∈ nodes)).foldlM
            (fun marks dep => visit deps nodes fuel dep marks)
            { marks with visiting := node :: marks.visiting } with
        | error stop =>
          rw [ended] at loop
          cases stop <;> exact loop
        | ok inside =>
          rw [ended] at loop
          obtain ⟨goodInside, top, kept, reached⟩ := loop
          have met : ∀ b, Edge deps nodes node b → b ∈ inside.result := fun b edge =>
            reached b (List.mem_filter.mpr ⟨edge.2.2, by simpa using edge.2.1⟩)
          exact ⟨good_leave goodInside top met, by simp [top],
            fun n member => List.mem_append_left _ (kept n member), by simp⟩

/-- A sort ends at a node that depends on itself, or with all nodes in order. -/
theorem sort_spec (deps : α → List α) (nodes : List α) :
    (∃ node ∈ nodes, sort deps nodes = .error (.circular node) ∧
      Relation.TransGen (Edge deps nodes) node node) ∨
    ∃ order, sort deps nodes = .ok order ∧ Topological deps nodes order := by
  have loop := @leaves_foldlM _ _ deps nodes _ nodes
    (fun marks node => if node ∈ marks.visited then .ok marks
      else visit deps nodes (nodes.length + 1) node marks) (fun middle good same node member => by
        split
        · rename_i there
          exact ⟨good, rfl, fun _ member => member, by simpa using (good.visited node).mp there⟩
        · exact visit_leaves good member (by omega) (by simp [same])) good_init
  unfold sort
  cases ended : nodes.foldlM (fun marks node => if node ∈ marks.visited then .ok marks
      else visit deps nodes (nodes.length + 1) node marks) ({} : Marks α) with
  | error stop =>
    rw [ended] at loop
    cases stop with
    | circular node => exact .inl ⟨node, loop.1, rfl, loop.2⟩
    | depth => exact loop.elim
  | ok left =>
    rw [ended] at loop
    obtain ⟨good, -, -, reached⟩ := loop
    refine .inr ⟨left.result, rfl, good.nodup, ?_, ?_⟩
    · exact fun node => ⟨good.known node, reached node⟩
    · exact fun a b edge => (good.after a (reached a edge.1) b edge).2

/-- What is in such an order does not depend on itself. -/
theorem Topological.acyclic {order : List α} (sorted : Topological deps nodes order) (node : α) :
    ¬ Relation.TransGen (Edge deps nodes) node node := by
  have descends : ∀ a b, Relation.TransGen (Edge deps nodes) a b →
      order.idxOf b < order.idxOf a := by
    intro a b path
    induction path with
    | single edge => exact sorted.after _ _ edge
    | tail _ edge ih => exact Nat.lt_trans (sorted.after _ _ edge) ih
  exact fun cycle => Nat.lt_irrefl _ (descends node node cycle)

/-! ## The order of a sort -/

/-- A node after those it depends on, each of them after its own, down to a depth. -/
def listing (deps : α → List α) (nodes : List α) : Nat → α → List α
  | 0, _ => []
  | depth + 1, node => ((deps node).filter (· ∈ nodes)).flatMap (listing deps nodes depth) ++ [node]

/-- The nodes in their order, each one where it comes first with those it depends on before it. -/
def firstPlaces (deps : α → List α) (nodes : List α) : List α :=
  (nodes.flatMap (listing deps nodes (nodes.length + 1))).eraseDups

private theorem eraseDups_of_nodup {list : List α} (nodup : list.Nodup) : list.eraseDups = list := by
  induction list with
  | nil => rfl
  | cons first rest ih =>
    obtain ⟨absent, nodup⟩ := List.nodup_cons.mp nodup
    have others : rest.filter (fun node => !node == first) = rest := by
      refine List.filter_eq_self.mpr fun node member => ?_
      have apart : node ≠ first := by
        rintro rfl
        exact absent member
      simpa using apart
    rw [List.eraseDups_cons, others, ih nodup]

/-- What is in a list already adds nothing to it. -/
private theorem eraseDups_append_known {list more : List α} (nodup : list.Nodup)
    (known : ∀ node ∈ more, node ∈ list) : (list ++ more).eraseDups = list := by
  have none : more.removeAll list = [] := by
    refine List.filter_eq_nil_iff.mpr fun node member => ?_
    simpa using known node member
  rw [List.eraseDups_append, eraseDups_of_nodup nodup, none, List.eraseDups_nil, List.append_nil]

private theorem eraseDups_append_result {list more result : List α} (nodup : result.Nodup)
    (same : result = list.eraseDups) : (result ++ more).eraseDups = (list ++ more).eraseDups := by
  have others : more.removeAll result = more.removeAll list := by
    refine List.filter_congr fun node _ => ?_
    simp [same]
  rw [List.eraseDups_append, List.eraseDups_append, eraseDups_of_nodup nodup, others, same]

/-- Where a node has been visited, so has all that is listed with it. -/
private theorem listing_known (good : Good deps nodes marks) {depth : Nat} {node : α}
    (there : node ∈ marks.result) : ∀ other ∈ listing deps nodes depth node, other ∈ marks.result := by
  induction depth generalizing node with
  | zero => simp [listing]
  | succ depth ih =>
    intro other member
    rcases List.mem_append.mp member with member | member
    · obtain ⟨dep, listed, inside⟩ := List.mem_flatMap.mp member
      obtain ⟨listed, inGraph⟩ := List.mem_filter.mp listed
      have edge : Edge deps nodes node dep := ⟨good.known node there, by simpa using inGraph, listed⟩
      exact ih (good.after node there dep edge).1 other inside
    · rwa [List.mem_singleton.mp member]

/-- What visits add to the result, one after the other. -/
private theorem foldlM_listed {stack : List α} {depth : Nat} {targets : List α} {left : Marks α}
    {body : Marks α → α → Except (Stop α) (Marks α)}
    (each : ∀ middle, Good deps nodes middle → middle.visiting = stack → ∀ node ∈ targets, ∀ left,
      body middle node = .ok left → (Good deps nodes left ∧ left.visiting = stack) ∧
        left.result = (middle.result ++ listing deps nodes depth node).eraseDups)
    (good : Good deps nodes marks) (top : marks.visiting = stack)
    (ended : targets.foldlM body marks = .ok left) :
    left.result = (marks.result ++ targets.flatMap (listing deps nodes depth)).eraseDups := by
  induction targets generalizing marks with
  | nil =>
    cases ended
    rw [List.flatMap_nil, List.append_nil, eraseDups_of_nodup good.nodup]
  | cons node rest ih =>
    rw [List.foldlM_cons] at ended
    cases visited : body marks node with
    | error stop =>
      rw [visited] at ended
      cases ended
    | ok middle =>
      rw [visited] at ended
      obtain ⟨⟨goodMiddle, same⟩, result⟩ := each marks good top node (by simp) middle visited
      rw [ih (fun middle good top next member => each middle good top next (by simp [member])) goodMiddle same ended,
        eraseDups_append_result goodMiddle.nodup result, List.flatMap_cons, List.append_assoc]

private theorem visit_listed {fuel : Nat} {node : α} {left : Marks α} (good : Good deps nodes marks)
    (known : node ∈ nodes) (enough : nodes.length < fuel + marks.visiting.length)
    (below : ∀ n ∈ marks.visiting, Relation.TransGen (Edge deps nodes) n node)
    (visited : visit deps nodes fuel node marks = .ok left) :
    left.result = (marks.result ++ listing deps nodes fuel node).eraseDups := by
  induction fuel generalizing node marks left with
  | zero => cases visited
  | succ fuel ih =>
    unfold visit at visited
    split at visited
    · cases visited
    rename_i fresh
    split at visited
    · rename_i there
      cases visited
      have listed := @listing_known _ _ _ _ _ good (fuel + 1) _ ((good.visited node).mp there)
      rw [eraseDups_append_known good.nodup listed]
    · rename_i unvisited
      have entered := good_enter good known fresh unvisited
      have deeper (middle : Marks α) (goodMiddle : Good deps nodes middle)
          (same : middle.visiting = node :: marks.visiting) (dep : α)
          (member : dep ∈ (deps node).filter (· ∈ nodes)) :
          dep ∈ nodes ∧ nodes.length < fuel + middle.visiting.length ∧
            ∀ n ∈ middle.visiting, Relation.TransGen (Edge deps nodes) n dep := by
        obtain ⟨listed, inGraph⟩ := List.mem_filter.mp member
        have edge : Edge deps nodes node dep := ⟨known, by simpa using inGraph, listed⟩
        refine ⟨edge.2.1, by rw [same]; simp; omega, fun n onStack => ?_⟩
        rw [same] at onStack
        rcases List.mem_cons.mp onStack with rfl | onStack
        · exact .single edge
        · exact (below n onStack).tail edge
      cases ended : ((deps node).filter (· ∈ nodes)).foldlM
          (fun marks dep => visit deps nodes fuel dep marks)
          { marks with visiting := node :: marks.visiting } with
      | error stop =>
        rw [ended] at visited
        cases visited
      | ok inside =>
        rw [ended] at visited
        cases visited
        have loop := leaves_foldlM ((deps node).filter (· ∈ nodes))
          (fun marks dep => visit deps nodes fuel dep marks) (fun middle goodMiddle same dep member => by
            obtain ⟨inGraph, enough, below⟩ := deeper middle goodMiddle same dep member
            exact visit_leaves goodMiddle inGraph enough below) entered
        rw [ended] at loop
        obtain ⟨goodInside, top, -, -⟩ := loop
        have listed := foldlM_listed (fun middle goodMiddle same dep member after done => by
          obtain ⟨inGraph, enough, below⟩ := deeper middle goodMiddle same dep member
          have left := visit_leaves goodMiddle inGraph enough below
          rw [done] at left
          exact ⟨⟨left.1, left.2.1.trans same⟩, ih goodMiddle inGraph enough below done⟩) entered rfl ended
        have absent := (goodInside.inside node (by simp [top])).2
        rw [listed, List.mem_eraseDups] at absent
        have alone : [node].removeAll (marks.result ++
            ((deps node).filter (· ∈ nodes)).flatMap (listing deps nodes fuel)) = [node] :=
          List.filter_eq_self.mpr fun other member => by
            rw [List.mem_singleton.mp member]
            simpa using absent
        rw [listing, ← List.append_assoc, List.eraseDups_append, alone, ← listed]
        rfl

/-- A sort puts each node where the listings have it first. -/
theorem sort_listed {order : List α} (sorted : sort deps nodes = .ok order) : order = firstPlaces deps nodes := by
  unfold sort at sorted
  cases ended : nodes.foldlM (fun marks node => if node ∈ marks.visited then .ok marks
      else visit deps nodes (nodes.length + 1) node marks) ({} : Marks α) with
  | error stop =>
    rw [ended] at sorted
    cases sorted
  | ok left =>
    rw [ended] at sorted
    cases sorted
    have listed := @foldlM_listed _ _ deps nodes _ _ (nodes.length + 1) _ _ _
      (fun middle good same node member after done => by
      split at done
      · rename_i there
        cases done
        have known := @listing_known _ _ _ _ _ good (nodes.length + 1) _ ((good.visited node).mp there)
        exact ⟨⟨good, same⟩, (eraseDups_append_known good.nodup known).symm⟩
      · have enough : nodes.length < nodes.length + 1 + middle.visiting.length := by omega
        have below : ∀ n ∈ middle.visiting, Relation.TransGen (Edge deps nodes) n node := by simp [same]
        have left := visit_leaves good member enough below
        rw [done] at left
        exact ⟨⟨left.1, left.2.1.trans same⟩, visit_listed good member enough below done⟩) good_init rfl ended
    rw [listed]
    rfl

end Graphs.DepthFirst
