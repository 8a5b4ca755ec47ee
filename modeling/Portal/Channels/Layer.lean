import Portal.Json.Basic
/-! The in-memory channel layer: named groups of channels and a queue of messages per
channel. Sending to a group appends the message to the queue of every member, in the
order the members joined; a queue holds at most `capacity` messages and drops the rest. -/
namespace Portal

structure Layer where
  groups : List (String × List String) := []
  queues : List (String × List Json) := []
  deriving Inhabited

namespace Layer

def capacity : Nat := 100

def members (l : Layer) (g : String) : List String :=
  ((l.groups.find? (·.1 == g)).map (·.2)).getD []

def queue (l : Layer) (ch : String) : List Json :=
  ((l.queues.find? (·.1 == ch)).map (·.2)).getD []

def setQueue (l : Layer) (ch : String) (q : List Json) : Layer :=
  { l with queues := if l.queues.any (·.1 == ch) then
      l.queues.map fun p => if p.1 == ch then (ch, q) else p
    else l.queues ++ [(ch, q)] }

def groupAdd (l : Layer) (g ch : String) : Layer :=
  let ms := l.members g
  let ms := if ms.contains ch then ms else ms ++ [ch]
  { l with groups := if l.groups.any (·.1 == g) then
      l.groups.map fun p => if p.1 == g then (g, ms) else p
    else l.groups ++ [(g, ms)] }

def groupDiscard (l : Layer) (g ch : String) : Layer :=
  let gs := l.groups.map fun p => if p.1 == g then (g, p.2.erase ch) else p
  { l with groups := gs.filter fun p => !p.2.isEmpty }

def send (l : Layer) (ch : String) (msg : Json) : Layer :=
  let q := l.queue ch
  if q.length ≥ capacity then l else l.setQueue ch (q ++ [msg])

def groupSend (l : Layer) (g : String) (msg : Json) : Layer :=
  (l.members g).foldl (fun l ch => l.send ch msg) l

def drain (l : Layer) (ch : String) : List Json × Layer :=
  (l.queue ch, l.setQueue ch [])

def validName (s : String) : Bool :=
  let cs := s.toList
  let body := if cs.getLast? == some '\n' then cs.dropLast else cs
  cs.length < 100 && !body.isEmpty && body.all fun c =>
    c.isAlphanum && c.toNat < 128 || c = '-' || c = '_' || c = '.'

def pop (l : Layer) (ch : String) : Option (Json × Layer) :=
  match l.queue ch with
  | [] => none
  | m :: rest => some (m, l.setQueue ch rest)

end Layer
end Portal
