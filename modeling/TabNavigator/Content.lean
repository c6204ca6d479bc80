import TabNavigator.Collaborator
import TabNavigator.Page

/-!
# Content of a tab

Who provides the content of a tab is settled by a chain of links. Each link answers
or declines; the first answer is taken and the links behind it are not asked. If all
of them decline, the route of the item picks one of the navigator's own pages.

A link may have an effect on some state besides answering, so a chain passes a state
from link to link. For the standard chain the state is the list of the calls made.
Nothing is remembered from one resolution to the next except through that state.
-/

namespace TabNavigator

inductive Content (α μ κ : Type) where
  | native (controller : Controller κ)
  | declarative (view : Element α μ)
  | builtin (page : Page)

variable {α μ κ σ : Type}

def Content.kind : Content α μ κ → ContentKind
  | native _ => .native
  | declarative _ => .declarative
  | builtin _ => .builtin

/-- Answers for an item or declines, and leaves a new state. -/
abbrev Link (σ α μ κ : Type) := Item → σ → Option (Content α μ κ) × σ

/-- Links in the order in which they are asked. -/
abbrev Chain (σ α μ κ : Type) := List (Link σ α μ κ)

/-- What came of resolving the content of a tab. -/
structure Resolution (σ α μ κ : Type) where
  content : Content α μ κ
  state : σ
  log : List LogEntry

namespace Chain

/-- A chain with one more link at its end. -/
def link (chain : Chain σ α μ κ) (next : Link σ α μ κ) : Chain σ α μ κ :=
  chain ++ [next]

/-- The first answer of a chain, if any. -/
def tryResolve (item : Item) : Chain σ α μ κ → σ → Option (Content α μ κ) × σ
  | [], s => (none, s)
  | link :: rest, s =>
      match link item s with
      | (some content, s) => (some content, s)
      | (none, s) => tryResolve item rest s

/-- The first answer of a chain, or else the page of the item's route. -/
def resolve (chain : Chain σ α μ κ) (item : Item) (s : σ) : Resolution σ α μ κ :=
  let (answer, s) := chain.tryResolve item s
  let content := answer.getD (.builtin (.ofRoute item.route))
  { content, state := s, log := [.contentResolved content.kind item.id] }

/-- A link that makes one call and takes an answer from it. The state is the list of the
calls made in this resolution, and `past` the calls before it. -/
def asking (past : Past) (call : Item → Call)
    (answer : Past → Item → Option (Content α μ κ)) : Link (List Call) α μ κ :=
  fun item made => (answer (past ++ made) item, made ++ [call item])

/-- The standard chain: content of the host before views, and in each case the source
before the delegate. Who is not there has no link. -/
def standard (past : Past) (source : Option (DataSource α μ κ))
    (delegate : Option (Delegate α μ κ)) : Chain (List Call) α μ κ :=
  (source.map fun s =>
      asking past (fun i => .askSource (.controller i))
        (fun p i => (s.controller p i).map .native)).toList
    ++ (delegate.map fun d =>
      asking past (fun i => .askDelegate (.controller i))
        (fun p i => (d.controller p i).map .native)).toList
    ++ (source.map fun s =>
      asking past (fun i => .askSource (.view i))
        (fun p i => (s.view p i).map .declarative)).toList
    ++ (delegate.map fun d =>
      asking past (fun i => .askDelegate (.view i))
        (fun p i => (d.view p i).map .declarative)).toList

end Chain

/-- A resolution in a journal: the calls, and then what is worth noting. -/
def Resolution.journal (r : Resolution (List Call) α μ κ) : Journal :=
  r.state.map .called ++ r.log.map .logged

/-- The content of an item with these collaborators, and the calls made to find it. -/
def resolveContent (past : Past) (source : Option (DataSource α μ κ))
    (delegate : Option (Delegate α μ κ)) (item : Item) : Resolution (List Call) α μ κ :=
  (Chain.standard past source delegate).resolve item []

end TabNavigator
