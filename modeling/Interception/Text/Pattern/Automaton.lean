import Interception.Text.Pattern.Basic

/-!
# Automata of patterns

A pattern becomes a graph of nodes that take characters or lead on to others. It is
run on a text with all its threads at once. They are kept in the order in which the
pattern prefers them: an earlier branch before a later one, and another round before
the end of a repetition, unless that is reluctant. A thread that has come to the end
of the pattern drops all threads behind it, as what they would find is not preferred.
Every place of a text is a start, in this order, too.
-/

set_option autoImplicit false

namespace Interception.Text

inductive PatternNode where
  | take (set : CharSet) (next : Nat)
  | pass (place : Place) (next : Nat)
  /-- Leads on to each of some nodes, in the order of preference. -/
  | split (nexts : List Nat)
  | accept
  deriving DecidableEq, Repr

structure PatternAutomaton where
  nodes : Array PatternNode
  start : Nat

namespace Pattern

abbrev Builder := StateM (Array PatternNode)

def add (node : PatternNode) : Builder Nat :=
  modifyGet fun nodes => (nodes.size, nodes.push node)

/-- A node that leads on to another round of a repetition or out of it. -/
def roundsNode (reluctant : Bool) (round behind : Nat) : PatternNode :=
  .split (if reluctant then [behind, round] else [round, behind])

mutual

/-- Adds the nodes of a pattern that goes on at the node `next`, and gives the one
that it starts at. A repetition of what may take nothing has a node of its own for
the way in: a round that takes nothing ends the repetition there, but not where it
comes back from a round before it. -/
def build : Pattern → Nat → Builder Nat
  | .empty, next => pure next
  | .one set, next => add (.take set next)
  | .place kind, next => add (.pass kind next)
  | .repeated .atMostOnce reluctant part, next => do
      let round ← build part next
      add (roundsNode reluctant round next)
  | .repeated .atLeastOnce reluctant part, next => do
      let again ← add .accept
      let round ← build part again
      modify (·.setIfInBounds again (roundsNode reluctant round next))
      pure round
  | .repeated .any reluctant part, next => do
      let again ← add .accept
      let round ← build part again
      let node := roundsNode reluctant round next
      modify (·.setIfInBounds again node)
      if part.leastLength?.any (0 < ·) then pure again else add node
  | .numbered _ part, next => build part next
  | .sequence parts, next => buildInOrder parts next
  | .choice branches, next => do
      let starts ← buildEach branches next
      add (.split starts)

def buildInOrder : List Pattern → Nat → Builder Nat
  | [], next => pure next
  | part :: parts, next => do
      let behind ← buildInOrder parts next
      build part behind

def buildEach : List Pattern → Nat → Builder (List Nat)
  | [], _ => pure []
  | branch :: branches, next => do
      let start ← build branch next
      let starts ← buildEach branches next
      pure (start :: starts)

end

/-- The automaton of a pattern, which can start at every place: it reluctantly takes
any characters in front. -/
def automaton (pattern : Pattern) : PatternAutomaton :=
  let building : Builder Nat := do
    let accepting ← add .accept
    let start ← build pattern accepting
    let front ← add .accept
    let skipping ← add (.take .all front)
    modify (·.setIfInBounds front (roundsNode true skipping start))
    pure front
  let (start, nodes) := building.run #[]
  { nodes, start }

end Pattern

namespace PatternAutomaton

/-- The nodes that a node leads to without taking characters, behind those that were
seen before, from the last on. Each is gone through once. There are fewer than
`rounds` nodes that were not seen. -/
def visit (automaton : PatternAutomaton) (holds : Place → Bool) :
    Nat → List Nat → Nat → List Nat
  | 0, seen, _ => seen
  | rounds + 1, seen, node =>
      if seen.contains node then seen
      else
        match automaton.nodes[node]? with
        | some (.split nexts) => nexts.foldl (visit automaton holds rounds) (node :: seen)
        | some (.pass place next) =>
            if holds place then visit automaton holds rounds (node :: seen) next
            else node :: seen
        | _ => node :: seen

def isSplit (automaton : PatternAutomaton) (node : Nat) : Bool :=
  match automaton.nodes[node]? with
  | some (.split _) => true
  | _ => false

/-- Where threads at some nodes can be without taking characters, in order. -/
def reach (automaton : PatternAutomaton) (holds : Place → Bool) (nodes : List Nat) : List Nat :=
  let seen := nodes.foldl (automaton.visit holds (automaton.nodes.size + 1)) []
  seen.reverse.filter (!automaton.isSplit ·)

/-- Threads, by their nodes, and the character that they have last taken. -/
structure Threads where
  nodes : List Nat
  before : Option Char

def threadsFrom (automaton : PatternAutomaton) (before : Option Char) (nodes : List Nat) :
    Threads :=
  { nodes := automaton.reach (·.holdsBehind before) nodes, before }

/-- Whether a thread waits for what comes next, which turns out to be as it needs. -/
def canPass (automaton : PatternAutomaton) (threads : Threads) (after : Option Char)
    (node : Nat) : Bool :=
  match automaton.nodes[node]? with
  | some (.pass place _) =>
      place.holds threads.before after && !place.holdsBehind threads.before
  | _ => false

def nodesBefore (automaton : PatternAutomaton) (threads : Threads) (after : Option Char) :
    List Nat :=
  if threads.nodes.any (automaton.canPass threads after) then
    automaton.reach (·.holds threads.before after) threads.nodes
  else threads.nodes

def isAccepting (automaton : PatternAutomaton) (node : Nat) : Bool :=
  automaton.nodes[node]? == some .accept

def behind? (automaton : PatternAutomaton) (character : Char) (node : Nat) : Option Nat :=
  match automaton.nodes[node]? with
  | some (.take set next) => if set.contains character then some next else none
  | _ => none

def step (automaton : PatternAutomaton) (threads : Threads) (character : Char) : Threads :=
  let nodes := automaton.nodesBefore threads (some character)
  let preferred := nodes.takeWhile (!automaton.isAccepting ·)
  automaton.threadsFrom (some character) (preferred.filterMap (automaton.behind? character))

/-- Whether some thread is at the end of the pattern at the end of the text. -/
def isMatch (automaton : PatternAutomaton) (text : String) : Bool :=
  let threads := text.toList.foldl automaton.step (automaton.threadsFrom none [automaton.start])
  (automaton.nodesBefore threads none).any automaton.isAccepting

end PatternAutomaton

end Interception.Text
