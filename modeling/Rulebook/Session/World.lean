import Rulebook.Distinct
import Rulebook.Session.Registry
import Rulebook.Session.Step

/-!
# The course of a session

A `World` is everything that a session has made. Each step takes it to the next and leaves a reply and events; a step
that fails leaves what it did until then. Rules keep their places in the registry for good, so that a rule can be
followed through a session even if its name is given to another one.
-/

namespace Rulebook.Session

open Log (Event)

structure Store where
  cache : Cache
  limits : Limits
deriving DecidableEq

/-- Everything that a session has made, and the next free tag. -/
structure World where
  stores : Registry Store
  instances : Registry Instance
  sources : Registry Source
  rules : Registry Rule
  nextTag : Nat

structure Turn where
  world : World
  reply : Except StepError Reply
  events : List Event

namespace World

variable {α : Type}

def initial : World := ⟨.empty, .empty, .empty, .empty, 0⟩

def replies (w : World) (reply : Reply) : Turn := ⟨w, .ok reply, []⟩

def fails (w : World) (error : StepError) : Turn := ⟨w, .error error, []⟩

/-- Go on with something that is specified. Tags it took stay taken if it is wrong. -/
def building (w : World) (b : Build α) (next : α → World → Turn) : Turn :=
  match b.runFrom w.nextTag with
  | (.ok x, tag) => next x { w with nextTag := tag }
  | (.error e, tag) => { w with nextTag := tag }.fails (.spec e)

/-- Go on with the place and the thing that a name stands for. -/
def finding (w : World) (r : Registry α) (name : String) (next : Nat → α → Turn) : Turn :=
  match r.find? name with
  | some (place, x) => next place x
  | none => w.fails (.spec (.unknownName name))

/-- Go on with the driver that has a value and a type. -/
def typing (w : World) (value type : String) (next : Driver → Turn) : Turn :=
  match DriverType.ofName type with
  | .ok t => next ⟨value, t⟩
  | .error e => w.fails (.spec (.driverType e))

def setCache (w : World) (place : Nat) (store : Store) (cache : Cache) : World :=
  { w with stores := w.stores.replace place { store with cache } }

/-- The rules that names stand for, or the first name that stands for none. -/
def rulesNamed (w : World) : List String → Except String (List (String × Rule))
  | [] => .ok []
  | name :: rest => do
    match w.rules.get? name with
    | some r => return (name, r) :: (← w.rulesNamed rest)
    | none => throw name

def normalizing (w : World) (rulePlace : Nat) (rule : Rule) (storePlace : Nat) (store : Store) : Turn :=
  let n := rule.normalize store.limits.refuses store.cache
  let w := { w.setCache storePlace store n.cache with rules := w.rules.replace rulePlace n.rule }
  ⟨w, .ok (.normalized (n.rule.slots.map Instance.tag) n.error n.cache.counts), n.events⟩

def comparing (w : World) (rule : Rule) : Other → Turn
  | .rule name => w.finding w.rules name fun _ other => w.replies (.same (rule.same other))
  | .nothing => w.replies (.same false)
  | .text _ => w.replies (.same false)
  | .identifier text =>
    match Uuid.parse text with
    | .ok _ => w.replies (.same false)
    | .error e => w.fails (.spec (.identifier e))

/-- Why a caller cannot change something of the rule that a name stands for. -/
def assignError (w : World) (rule : String) (target : Target) : AssignError :=
  match w.rules.get? rule with
  | none => .unknownRule rule
  | some r => if target = .driver ∧ r.slots = [] then .noDriver else .immutable target

def turn (w : World) : Step → Turn
  | .makeCache name limits => { w with stores := w.stores.add name ⟨.empty, limits⟩ }.replies .done
  | .makeDriver name spec =>
    w.building (spec.build w.instances.get?) fun i w =>
      { w with instances := w.instances.add name i }.replies (.tag i.tag)
  | .makeSource name drivers outputs =>
    w.building (DriverSpec.buildAll w.instances.get? drivers) fun is w =>
      { w with sources := w.sources.add name ⟨is, .ofPairs outputs⟩ }.replies .done
  | .mutateSource name clear drivers outputs =>
    w.finding w.sources name fun place source =>
      let kept : Source := if clear then ⟨[], .empty⟩ else source
      { w with sources := w.sources.replace place kept }.building
        (DriverSpec.buildAll w.instances.get? drivers) fun is w =>
          let grown : Source := ⟨kept.instances ++ is, kept.outputs.setAll outputs⟩
          { w with sources := w.sources.replace place grown }.replies
            (.sizes grown.instances.length grown.outputs.size)
  | .makeRule name spec =>
    w.building (spec.build w.instances.get? w.sources.get?) fun r w =>
      { w with rules := w.rules.add name r }.replies (.tags (r.slots.map Instance.tag))
  | .get cache value type =>
    w.finding w.stores cache fun place store =>
      w.typing value type fun d =>
        let (i, c) := store.cache.get d
        (w.setCache place store c).replies (.found (i.map Instance.tag) c.counts)
  | .put cache spec =>
    w.finding w.stores cache fun place store =>
      w.building (spec.build w.instances.get?) fun i w =>
        let (c, events) := store.cache.put store.limits.refuses i
        ⟨w.setCache place store c, .ok (.given i.tag c.counts), events⟩
  | .contains cache value type =>
    w.finding w.stores cache fun _ store =>
      w.typing value type fun d => w.replies (.held (store.cache.contains d) store.cache.counts)
  | .clear cache =>
    w.finding w.stores cache fun place store =>
      let (c, events) := store.cache.clear
      ⟨w.setCache place store c, .ok (.cleared c.counts), events⟩
  | .count cache => w.finding w.stores cache fun _ store => w.replies (.counted store.cache.counts)
  | .normalize rule cache =>
    w.finding w.rules rule fun rulePlace r =>
      w.finding w.stores cache fun storePlace store => w.normalizing rulePlace r storePlace store
  | .describe rule => w.finding w.rules rule fun _ r => w.replies (.description r)
  | .tags rule => w.finding w.rules rule fun _ r => w.replies (.tags (r.slots.map Instance.tag))
  | .weight rule => w.finding w.rules rule fun _ r => w.replies (.weight r.weight)
  | .outputs rule => w.finding w.rules rule fun _ r => w.replies (.outputs r.outputs)
  | .isActive rule time =>
    w.finding w.rules rule fun _ r =>
      match TimeSpec.buildOptional time with
      | .error e => w.fails (.spec (.time e))
      | .ok t =>
        match r.isActiveAt t with
        | .ok isActive => w.replies (.verdict isActive)
        | .error e => w.fails (.order e)
  | .duplication rule none => w.finding w.rules rule fun _ r => w.replies (.duplication (r.duplication none))
  | .duplication rule (some other) =>
    w.finding w.rules rule fun _ r =>
      w.finding w.rules other fun _ o => w.replies (.duplication (r.duplication (some o)))
  | .same rule other => w.finding w.rules rule fun _ r => w.comparing r other
  | .distinct names =>
    match w.rulesNamed names with
    | .ok rules => w.replies (.names ((distinctBy (fun p => p.2.identifier) rules).map Prod.fst))
    | .error name => w.fails (.spec (.unknownName name))
  | .assign rule target => w.fails (.assign (w.assignError rule target))

/-- The steps of a session, each with what comes of it. -/
def run (w : World) : List Step → List Turn
  | [] => []
  | s :: rest =>
    let t := w.turn s
    t :: t.world.run rest

def after (w : World) (steps : List Step) : World :=
  steps.foldl (fun w s => (w.turn s).world) w

end World

end Rulebook.Session
