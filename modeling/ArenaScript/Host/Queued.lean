import ArenaScript.Host.Basic

/-!
A host whose sensors answer from queues, so that the same sensor may answer differently each time.
A read takes the next answer of the sensor's queue. The last answer stays, and an empty queue
answers zero. Barrel sensors have one queue for each axis, whatever the index.
-/

namespace ArenaScript

inductive Channel
  | gauge (gauge : Gauge)
  | barrel (axis : Axis)
deriving DecidableEq, Repr

def Query.channel : Query → Channel
  | .gauge g => .gauge g
  | .barrel axis _ => .barrel axis

abbrev Queues := Channel → List Value

namespace Queues

def take : List Value → Value × List Value
  | [] => (0, [])
  | [last] => (last, [last])
  | answer :: rest => (answer, rest)

def ofList (l : List (Channel × List Value)) : Queues := fun c => (l.lookup c).getD []

def put (q : Queues) (channel : Channel) (answers : List Value) : Queues :=
  fun c => if c = channel then answers else q c

def host : Host Queues where
  perform _ q := q
  sense query q :=
    let (answer, rest) := take (q query.channel)
    (answer, q.put query.channel rest)

end Queues

end ArenaScript
