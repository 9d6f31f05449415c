import ChapOS.WhileLoops
import Mathlib.Data.List.Induction
import Mathlib.Logic.Function.Basic

/-!
# Singly linked lists in memory

Nodes hold a pointer to the next node.  A segment is the list of nodes from one
pointer to another, and a chain one that ends at the null pointer.  A chain is
determined by where it starts, so that no node is on it twice; inserting a node at
its head and unlinking one from it write one link each.  The rules for loops walk
along a chain, in at most one turn more than it has nodes.
-/

namespace LinkedLists

open WhileLoops

/-- Where nodes lie: different nodes have different pointers, none of them null. -/
structure Layout (Node Pointer : Type*) where
  pointer : Node → Pointer
  null : Pointer
  injective : Function.Injective pointer
  ne_null : ∀ node, pointer node ≠ null

variable {Node Pointer : Type*} (layout : Layout Node Pointer)

/-- The nodes from one pointer to another. -/
inductive Segment (next : Node → Pointer) : Pointer → List Node → Pointer → Prop
  | nil (start : Pointer) : Segment next start [] start
  | cons (node : Node) {nodes : List Node} {stop : Pointer}
      (rest : Segment next (next node) nodes stop) :
      Segment next (layout.pointer node) (node :: nodes) stop

/-- The nodes from a pointer to the null pointer. -/
abbrev Chain (next : Node → Pointer) (start : Pointer) (nodes : List Node) : Prop :=
  Segment layout next start nodes layout.null

variable {layout} {next : Node → Pointer} {start middle stop : Pointer} {node : Node}
  {nodes before after : List Node}

namespace Segment

theorem append (first : Segment layout next start before middle)
    (second : Segment layout next middle after stop) :
    Segment layout next start (before ++ after) stop := by
  induction first with
  | nil start => exact second
  | cons node rest ih => exact .cons node (ih second)

theorem split (segment : Segment layout next start (before ++ after) stop) :
    ∃ middle, Segment layout next start before middle ∧
      Segment layout next middle after stop := by
  induction before generalizing start with
  | nil => exact ⟨start, .nil start, segment⟩
  | cons node before ih =>
      cases segment with
      | cons _ rest =>
          obtain ⟨middle, first, second⟩ := ih rest
          exact ⟨middle, .cons node first, second⟩

/-- Only the links of its nodes make a segment. -/
theorem congr (segment : Segment layout next start nodes stop) {other : Node → Pointer}
    (same : ∀ node ∈ nodes, other node = next node) :
    Segment layout other start nodes stop := by
  induction segment with
  | nil start => exact .nil start
  | cons node rest ih =>
      have behind := ih fun later mem => same later (List.mem_cons_of_mem node mem)
      rw [← same node List.mem_cons_self] at behind
      exact .cons node behind

/-- A segment that begins at a node. -/
theorem behind (segment : Segment layout next (layout.pointer node) nodes stop)
    (goesOn : stop ≠ layout.pointer node ∨ nodes ≠ []) :
    ∃ rest, nodes = node :: rest ∧ Segment layout next (next node) rest stop := by
  generalize isStart : layout.pointer node = start at segment goesOn
  cases segment with
  | nil =>
      rcases goesOn with different | nonempty
      · exact absurd rfl different
      · exact absurd rfl nonempty
  | cons first rest =>
      obtain rfl := layout.injective isStart
      exact ⟨_, rfl, rest⟩

end Segment

namespace Chain

theorem of_pointer (chain : Chain layout next (layout.pointer node) nodes) :
    ∃ rest, nodes = node :: rest ∧ Chain layout next (next node) rest :=
  chain.behind (Or.inl (layout.ne_null node).symm)

theorem of_null (chain : Chain layout next layout.null nodes) : nodes = [] := by
  generalize isStart : layout.null = start at chain
  cases nodes with
  | nil => rfl
  | cons node rest =>
      cases chain with
      | cons => exact absurd isStart.symm (layout.ne_null node)

/-- Where a chain starts determines its nodes. -/
theorem unique (chain : Chain layout next start nodes) {others : List Node}
    (other : Chain layout next start others) : nodes = others := by
  induction nodes generalizing start others with
  | nil =>
      cases chain with
      | nil => exact (of_null other).symm
  | cons node nodes ih =>
      cases chain with
      | cons _ rest =>
          obtain ⟨otherRest, rfl, behind⟩ := of_pointer other
          rw [ih rest behind]

/-- No node is on a chain twice: the chain from it would go on forever. -/
theorem nodup (chain : Chain layout next start nodes) : nodes.Nodup := by
  induction nodes generalizing start with
  | nil => exact List.nodup_nil
  | cons node nodes ih =>
      have whole := chain
      cases chain with
      | cons _ rest =>
          refine List.nodup_cons.mpr ⟨fun again => ?_, ih rest⟩
          obtain ⟨before, after, rfl⟩ := List.append_of_mem again
          obtain ⟨middle, -, second⟩ := rest.split
          cases second with
          | cons _ behind =>
              have same := whole.unique (Segment.cons node behind)
              have lengths := congrArg List.length same
              simp only [List.length_cons, List.length_append] at lengths
              omega

/-- No chain goes through a node that links to itself. -/
theorem not_self_linked (linked : next node = layout.pointer node) :
    ¬Chain layout next (layout.pointer node) nodes := by
  intro chain
  obtain ⟨rest, rfl, behind⟩ := of_pointer chain
  rw [linked] at behind
  have lengths := congrArg List.length (chain.unique behind)
  simp only [List.length_cons] at lengths
  omega

end Chain

/-- A place that holds a pointer: the head of the list or the link of a node. -/
inductive Link (Node : Type*) where
  | head
  | behind (node : Node)
  deriving DecidableEq, Repr

/-- The link that leads on behind some nodes. -/
def linkAfter (link : Link Node) (nodes : List Node) : Link Node :=
  nodes.foldl (fun _ node => .behind node) link

/-- The head of a list and the links of the nodes. -/
structure Linked (Node Pointer : Type*) where
  head : Pointer
  next : Node → Pointer

namespace Linked

variable {list : Linked Node Pointer}

def read (list : Linked Node Pointer) : Link Node → Pointer
  | .head => list.head
  | .behind node => list.next node

def write [DecidableEq Node] (list : Linked Node Pointer) (pointer : Pointer) :
    Link Node → Linked Node Pointer
  | .head => { list with head := pointer }
  | .behind node => { list with next := Function.update list.next node pointer }

/-- The nodes of a list, in order. -/
def Holds (layout : Layout Node Pointer) (list : Linked Node Pointer)
    (nodes : List Node) : Prop :=
  Chain layout list.next list.head nodes

theorem Holds.congr (holds : list.Holds layout nodes) {other : Linked Node Pointer}
    (head : other.head = list.head) (next : ∀ node ∈ nodes, other.next node = list.next node) :
    other.Holds layout nodes := by
  unfold Holds
  rw [head]
  exact Segment.congr holds next

theorem Holds.push [DecidableEq Node] (holds : list.Holds layout nodes)
    (fresh : node ∉ nodes) :
    (Linked.mk (layout.pointer node) (Function.update list.next node list.head)).Holds layout
      (node :: nodes) := by
  apply Segment.cons
  dsimp only
  rw [Function.update_self]
  apply Segment.congr holds
  intro other mem
  apply Function.update_of_ne
  rintro rfl
  exact fresh mem

/-- Unlinking a node writes its link to the link that leads to it. -/
theorem Holds.unlink [DecidableEq Node] (holds : list.Holds layout (before ++ node :: after)) :
    (list.write (list.next node) (linkAfter .head before)).Holds layout (before ++ after) := by
  have distinct := Chain.nodup holds
  obtain ⟨middle, first, second⟩ := Segment.split holds
  obtain ⟨rest, same, behind⟩ : ∃ rest, node :: after = node :: rest ∧
      Chain layout list.next (list.next node) rest := by
    cases second with
    | cons _ rest => exact ⟨after, rfl, rest⟩
  obtain rfl := (List.cons.inj same).2
  induction before using List.reverseRecOn with
  | nil => exact behind
  | append_singleton earlier previous _ =>
      obtain ⟨link, leads, last⟩ := first.split
      have isLink : linkAfter .head (earlier ++ [previous]) = .behind previous := by
        simp [linkAfter]
      rw [isLink]
      have notEarlier : previous ∉ earlier := by
        intro mem
        simp only [List.append_assoc, List.singleton_append, List.nodup_append] at distinct
        exact distinct.2.2 previous mem previous List.mem_cons_self rfl
      have notAfter : previous ∉ after := by
        intro mem
        simp only [List.append_assoc, List.singleton_append, List.nodup_append,
          List.nodup_cons] at distinct
        exact distinct.2.1.1 (List.mem_cons_of_mem node mem)
      have kept (others : List Node) (free : previous ∉ others) :
          ∀ other ∈ others,
            Function.update list.next previous (list.next node) other = list.next other := by
        intro other mem
        apply Function.update_of_ne
        rintro rfl
        exact free mem
      cases last with
      | cons =>
          rw [List.append_assoc, List.singleton_append]
          apply (leads.congr (kept earlier notEarlier)).append
          apply Segment.cons
          rw [Function.update_self]
          exact behind.congr (kept after notAfter)

end Linked

section Walks

/-- A loop that follows the links to the first node with a property. -/
theorem search_ends {Result : Type*} {turn : Pointer → Turn Pointer Result}
    {wanted : Node → Bool} {missing : Result} {found : Node → Result}
    (chain : Chain layout next start nodes) (atNull : turn layout.null = .exit missing)
    (atNode : ∀ node ∈ nodes, turn (layout.pointer node) =
      if wanted node then .exit (found node) else .next (next node))
    {turns : Nat} (enough : nodes.length < turns) :
    runFor turn turns start = some ((nodes.find? wanted).elim missing found) := by
  induction nodes generalizing start turns with
  | nil =>
      obtain ⟨turns, rfl⟩ : ∃ rest, turns = rest + 1 := ⟨turns - 1, by omega⟩
      cases chain with
      | nil => exact runFor_exit atNull turns
  | cons node nodes ih =>
      rw [List.length_cons] at enough
      obtain ⟨turns, rfl⟩ : ∃ rest, turns = rest + 1 := ⟨turns - 1, by omega⟩
      have here := atNode node List.mem_cons_self
      cases chain with
      | cons _ rest =>
          cases isWanted : wanted node with
          | true =>
              rw [isWanted, if_pos rfl] at here
              rw [runFor_exit here, List.find?_cons, isWanted]
              rfl
          | false =>
              rw [isWanted, if_neg Bool.false_ne_true] at here
              rw [runFor_next here, List.find?_cons, isWanted]
              exact ih rest (fun later mem => atNode later (List.mem_cons_of_mem node mem))
                (by omega)

/-- A loop that looks for the link that leads to a node. -/
theorem linkSearch_ends {list : Linked Node Pointer}
    {turn : Link Node → Turn (Link Node) (Link Node)} {link : Link Node}
    (leads : Segment layout list.next (list.read link) before (layout.pointer node))
    (other : node ∉ before)
    (atTarget : ∀ link, list.read link = layout.pointer node → turn link = .exit link)
    (atOther : ∀ link, ∀ passed ∈ before, list.read link = layout.pointer passed →
      passed ≠ node → turn link = .next (.behind passed))
    {turns : Nat} (enough : before.length < turns) :
    runFor turn turns link = some (linkAfter link before) := by
  induction before generalizing link turns with
  | nil =>
      obtain ⟨turns, rfl⟩ : ∃ rest, turns = rest + 1 := ⟨turns - 1, by omega⟩
      generalize isRead : list.read link = pointer at leads
      generalize isTarget : layout.pointer node = target at leads
      cases leads with
      | nil => exact runFor_exit (atTarget link (isRead.trans isTarget.symm)) turns
  | cons passed before ih =>
      rw [List.length_cons] at enough
      obtain ⟨turns, rfl⟩ : ∃ rest, turns = rest + 1 := ⟨turns - 1, by omega⟩
      rw [List.mem_cons, not_or] at other
      generalize isRead : list.read link = pointer at leads
      cases leads with
      | cons _ rest =>
          rw [runFor_next (atOther link passed List.mem_cons_self isRead (Ne.symm other.1))]
          exact @ih (.behind passed) rest other.2
            (fun link later mem => atOther link later (List.mem_cons_of_mem passed mem))
            turns (by omega)

/-- A loop that does something with every node of a list and keeps its links. -/
theorem walk_ends {State Result : Type*}
    {turn : Pointer × State → Turn (Pointer × State) Result}
    (holds : State → Prop) (asked : Result → Prop)
    (chain : Chain layout next start nodes)
    (atNull : ∀ state, holds state →
      ∃ result, turn (layout.null, state) = .exit result ∧ asked result)
    (atNode : ∀ node ∈ nodes, ∀ state, holds state →
      ∃ after, turn (layout.pointer node, state) = .next (next node, after) ∧ holds after)
    {state : State} (starts : holds state) {turns : Nat} (enough : nodes.length < turns) :
    ∃ result, runFor turn turns (start, state) = some result ∧ asked result := by
  induction nodes generalizing start state turns with
  | nil =>
      obtain ⟨turns, rfl⟩ : ∃ rest, turns = rest + 1 := ⟨turns - 1, by omega⟩
      cases chain with
      | nil =>
          obtain ⟨result, exits, isAsked⟩ := atNull state starts
          exact ⟨result, runFor_exit exits turns, isAsked⟩
  | cons node nodes ih =>
      rw [List.length_cons] at enough
      obtain ⟨turns, rfl⟩ : ∃ rest, turns = rest + 1 := ⟨turns - 1, by omega⟩
      cases chain with
      | cons _ rest =>
          obtain ⟨after, goesOn, kept⟩ := atNode node List.mem_cons_self state starts
          rw [runFor_next goesOn]
          exact ih rest (fun later mem => atNode later (List.mem_cons_of_mem node mem)) kept
            (by omega)

/-- A loop that visits the nodes of a list one after the other. -/
theorem walk_folds {State : Type*} {turn : Pointer × State → Turn (Pointer × State) State}
    {visit : State → Node → State} (holds : State → Prop)
    (chain : Chain layout next start nodes)
    (atNull : ∀ state, turn (layout.null, state) = .exit state)
    (atNode : ∀ node ∈ nodes, ∀ state, holds state →
      turn (layout.pointer node, state) = .next (next node, visit state node) ∧
        holds (visit state node))
    {state : State} (starts : holds state) {turns : Nat} (enough : nodes.length < turns) :
    runFor turn turns (start, state) = some (nodes.foldl visit state) := by
  induction nodes generalizing start state turns with
  | nil =>
      obtain ⟨turns, rfl⟩ : ∃ rest, turns = rest + 1 := ⟨turns - 1, by omega⟩
      cases chain with
      | nil => exact runFor_exit (atNull state) turns
  | cons node nodes ih =>
      rw [List.length_cons] at enough
      obtain ⟨turns, rfl⟩ : ∃ rest, turns = rest + 1 := ⟨turns - 1, by omega⟩
      cases chain with
      | cons _ rest =>
          obtain ⟨goesOn, kept⟩ := atNode node List.mem_cons_self state starts
          rw [runFor_next goesOn, List.foldl_cons]
          exact ih rest (fun later mem => atNode later (List.mem_cons_of_mem node mem)) kept
            (by omega)

end Walks

end LinkedLists
