import Whiteboard.Participant

/-!
# Members of a session and their relay

The members of a session begin transactions and put them on their links to the relay. The relay
rules on the transactions one at a time: what it accepts goes to its log, and every member hears
of it; of a rejection only the author hears. Links and inboxes deliver in order, but nothing is
said about which of them moves next.

## Main definitions

- `Participant.replica?`, `Participant.begin` — the session's document at a member
- `Ruling`, `Ruling.message?` — a decision of the relay and what a member hears of it
- `Ruling.accepted`, `Ruling.ownOf`, `Ruling.messages` — what several rulings come to
- `Site`, `Network` — a member with its link and its inbox, and all of them with the relay's log
- `Move`, `Network.step`, `Network.run` — what can happen next
- `Network.start` — all members have joined with one snapshot
-/

namespace Whiteboard

namespace Participant

/-- The replica of the session's document, for a participant that is in a session. -/
def replica? (p : Participant) : Option Replica := p.session?.map (·.document)

/-- Begins a transaction of the session's document. -/
def begin (p : Participant) (tx : Transaction) : Participant :=
  match p.session? with
  | some s => p.setDocument s (s.document.begin tx).1 (s.document.begin tx).2
  | none => p

end Participant

/-- The transaction that an event answers, if it is an answer. -/
def SessionEvent.answered? : SessionEvent → Option Uuid
  | .accepted tx | .rejected tx _ => some tx
  | _ => none

/-- Whether an event adds a transaction to the committed document. -/
def SessionEvent.commits : SessionEvent → Bool
  | .accepted _ | .othersTransaction _ => true
  | _ => false

/-- A decision of the relay. -/
structure Ruling (ι : Type) where
  /-- Who began the transaction. -/
  author : ι
  /-- The transaction. -/
  tx : Transaction
  /-- Why it is rejected; it is accepted if there is no reason. -/
  refusal? : Option RollbackReason

/-- A member of the session, with its link to the relay and its inbox. -/
structure Site where
  /-- The member. -/
  participant : Participant
  /-- The transactions on the way to the relay, oldest first. -/
  link : List Transaction
  /-- The events on the way from the relay, oldest first. -/
  inbox : List SessionEvent
  /-- All transactions begun here, oldest first. -/
  begun : List Transaction
  /-- The events handled, oldest first, with what became of them. -/
  handled : List (SessionEvent × Except CoreError Unit)

/-- All members of the session and the log of the relay. -/
structure Network (ι : Type) where
  /-- The members. -/
  sites : ι → Site
  /-- The transactions accepted, oldest first. -/
  log : List Transaction

/-- What can happen next. -/
inductive Move (ι : Type)
  /-- A member begins a transaction and puts it on its link. -/
  | begin (i : ι) (tx : Transaction)
  /-- The relay takes the oldest transaction of a link and rules on it. -/
  | rule (i : ι) (refusal? : Option RollbackReason)
  /-- A member handles the oldest event of its inbox. -/
  | deliver (i : ι)

namespace Site

/-- The member begins a transaction. -/
def begin (s : Site) (tx : Transaction) : Site :=
  { s with
    participant := s.participant.begin tx
    link := s.link ++ [tx]
    begun := s.begun ++ [tx] }

/-- The member handles the oldest event of its inbox, if there is one. -/
def deliver (s : Site) : Site :=
  match s.inbox with
  | [] => s
  | e :: rest =>
    { s with
      participant := (s.participant.applyEvent (.session e)).1
      inbox := rest
      handled := s.handled ++ [(e, (s.participant.applyEvent (.session e)).2)] }

def events (s : Site) : List SessionEvent := s.handled.map Prod.fst

end Site

variable {ι : Type} [DecidableEq ι]

namespace Ruling

/-- What a member hears of a ruling. -/
def message? (r : Ruling ι) (i : ι) : Option SessionEvent :=
  match r.refusal? with
  | none => some (if r.author = i then .accepted r.tx.id else .othersTransaction r.tx)
  | some reason => if r.author = i then some (.rejected r.tx.id reason) else none

/-- The transaction, if it is accepted. -/
def accepted? (r : Ruling ι) : Option Transaction := if r.refusal?.isNone then some r.tx else none

/-- The transaction, if a member began it. -/
def ownOf? (r : Ruling ι) (i : ι) : Option Transaction := if r.author = i then some r.tx else none

/-- The transactions accepted among some rulings, in order. -/
def accepted (rulings : List (Ruling ι)) : List Transaction := rulings.filterMap accepted?

/-- The transactions of one member among some rulings, in order. -/
def ownOf (i : ι) (rulings : List (Ruling ι)) : List Transaction := rulings.filterMap (·.ownOf? i)

/-- What one member hears of some rulings, in order. -/
def messages (i : ι) (rulings : List (Ruling ι)) : List SessionEvent :=
  rulings.filterMap (·.message? i)

end Ruling

namespace Network

def update (net : Network ι) (i : ι) (change : Site → Site) : Network ι :=
  { net with sites := fun j => if j = i then change (net.sites j) else net.sites j }

/-- The relay announces a ruling on the transaction at the head of its author's link. -/
def announce (net : Network ι) (r : Ruling ι) : Network ι where
  sites j :=
    { net.sites j with
      link := if j = r.author then (net.sites j).link.tail else (net.sites j).link
      inbox := (net.sites j).inbox ++ (r.message? j).toList }
  log := net.log ++ r.accepted?.toList

/-- What a move does. A move for which there is no transaction or no event does nothing. -/
def step (net : Network ι) : Move ι → Network ι
  | .begin i tx => net.update i (·.begin tx)
  | .rule i refusal? =>
    match (net.sites i).link with
    | [] => net
    | tx :: _ => net.announce ⟨i, tx, refusal?⟩
  | .deliver i => net.update i Site.deliver

def run (net : Network ι) (moves : List (Move ι)) : Network ι := moves.foldl step net

/-- Given participants have joined a session with one snapshot, and nothing happened since. -/
def start (members : ι → Participant) (session : SessionId) (rosters : ι → Roster)
    (snapshot : Snapshot) : Network ι where
  sites i :=
    { participant := ((members i).applyEvent (.joinedSession session (rosters i) snapshot)).1
      link := [], inbox := [], begun := [], handled := [] }
  log := []

end Network

end Whiteboard
