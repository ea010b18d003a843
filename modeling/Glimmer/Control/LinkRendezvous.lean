import Glimmer.Control.LinkHints

namespace Glimmer.Control

open Glimmer.Core

namespace LinkParty

open SharedControlChannel

-- Nothing has gone wrong at this end.
def Fresh (me : LinkParty) : Prop :=
  match me.channel.mode with
  | .v2 => me.refused = false
  | .replyHintV3 => me.channel.hasTransportError = false

namespace Linked

variable {client server : LinkParty} {wire : LinkWire} (linked : Linked client server wire)
include linked
variable {place : LinkPlace} {after : LinkWire}

section
variable (worse : wire.Worse after) (writes : place.Writes server.slot server.sent client.got)
  (reads : place.Reads client.sent server.got) (stands : server.ServerStands place)
  (clear : server.place.owesHint = false) (free : place.owesHint = false)
include worse writes reads stands clear free

theorem server_place (due : server.channel.isPending = true → server.got.length = server.sent.length →
    Spent { server with place := place }) : Linked client { server with place := place } after :=
  ⟨linked.turns.server_moves (same_turn _) writes reads stands due,
    linked.hinted.server_moves worse rfl (fun owes => absurd (free.symm.trans owes) Bool.false_ne_true)
      (fun _ _ fine => ⟨clear, fine⟩)⟩

theorem server_reads_on (idle : server.channel.isPending = false) : Linked client { server with place := place } after :=
  linked.server_place worse writes reads stands clear free
    (fun pending => absurd (idle.symm.trans pending) Bool.false_ne_true)

end

theorem server_errs (worse : wire.Worse after)
    (mode : server.channel.mode = .replyHintV3) : Linked client server.erring after := by
  refine ⟨linked.turns.server_moves (same_turn_error (same_turn _)) trivial trivial trivial (fun _ _ => ?_),
    linked.hinted.server_moves worse rfl nofun (fun _ _ fine => absurd fine nofun)⟩
  refine .inr (.inr ?_)
  simp [SharedControlChannel.withError, mode]

theorem server_notifies (i : LinkInput) (shape : server.place = .notifying) :
    Linked client (server.notifyDone i.notified) (wire.notify i) := by
  obtain ⟨turns, hinted⟩ := linked
  have worse := wire.worse_notify i
  have stands := turns.serverStands
  rw [shape] at stands
  unfold notifyDone
  rw [turns.serverSide]
  cases mode : server.channel.mode with
  | v2 =>
    have plain : client.channel.mode ≠ .replyHintV3 := by
      rw [turns.modes, mode]
      decide
    cases i.notified with
    | true => exact ⟨turns.server_settles stands.2, hinted.server_moves worse rfl nofun (fun hints => absurd hints plain)⟩
    | false =>
      refine ⟨turns.server_moves (same_turn _) trivial trivial trivial (fun _ _ => .inr (.inr ?_)),
        hinted.server_moves worse rfl nofun (fun hints => absurd hints plain)⟩
      simp [mode]
  | replyHintV3 =>
    cases i.notified with
    | true =>
      exact ⟨turns.server_moves (same_turn _) trivial trivial ⟨mode, stands⟩ (fun _ _ => .inr (.inl rfl)),
        hinted.server_moves worse rfl (fun _ => by rw [shape]; rfl) (fun _ => nofun)⟩
    | false => exact server_errs ⟨turns, hinted⟩ worse mode

theorem server_awaits (i : LinkInput) (shape : server.place = .awaiting ∨ server.place = .rechecking) :
    Linked client (server.advance client.slot wire i).1 (server.advance client.slot wire i).2 := by
  have idle : server.channel.isPending = false := by
    have stands := linked.turns.serverStands
    rcases shape with shape | shape <;> rw [shape] at stands <;> exact stands
  have clear : server.place.owesHint = false := by rcases shape with shape | shape <;> rw [shape] <;> rfl
  have expected : server.expected = server.got.length + 1 := linked.turns.server_expected
  have rests : Linked client server.rest wire :=
    linked.server_reads_on wire.worse_same trivial trivial trivial clear rfl idle
  have found : client.slot.sequence = server.expected →
      Linked client { server with place := .measuring true } wire := fun seen =>
    linked.server_reads_on wire.worse_same trivial (linked.turns.requests.due (seen.trans expected)) idle clear rfl idle
  rcases shape with shape | shape
  · simp only [advance, shape]
    split
    · next seen => exact found seen
    split
    · exact rests
    split
    · exact rests
    · split
      · exact linked.server_reads_on (wire.worse_check i) trivial trivial idle clear rfl idle
      · exact linked
  · simp only [advance, shape]
    split
    · next seen => exact found seen
    · exact rests

theorem server_advances (i : LinkInput) :
    Linked client (server.advance client.slot wire i).1 (server.advance client.slot wire i).2 := by
  obtain ⟨turns, hinted⟩ := linked
  have linked : Linked client server wire := ⟨turns, hinted⟩
  have stands := turns.serverStands
  have requests := turns.requests
  have answers := turns.answers
  cases shape : server.place with
  | idle =>
    simp only [advance, shape]
    exact linked
  | draining | checking | pollDraining | pollChecking | looking =>
    rw [shape] at stands
    exact stands.elim
  | storing line index =>
    rw [shape] at stands answers
    simp only [advance, shape]
    split
    · next value due =>
      refine ⟨{ turns with
        requests := requests.reader_moved trivial, answers := answers.stores due, serverStands := stands, due := ?_ },
        hinted.server_moves wire.worse_same rfl (fun owes => by cases owes) (fun _ _ fine => ⟨by rw [shape]; rfl, fine⟩)⟩
      exact fun _ level => absurd level (Nat.ne_of_gt stands.2.1)
    · next complete =>
      refine ⟨{ turns with
        requests := requests.reader_moved trivial, answers := answers.lengthens complete,
        serverStands := stands, due := ?_ },
        hinted.server_moves wire.worse_same rfl (fun owes => by cases owes) (fun _ _ fine => ⟨by rw [shape]; rfl, fine⟩)⟩
      exact fun _ level => absurd level (Nat.ne_of_gt stands.2.1)
  | committing line =>
    simp only [advance, shape]
    exact ⟨turns.server_commits shape, hinted.server_commits turns shape⟩
  | notifying =>
    simp only [advance, shape]
    exact linked.server_notifies i shape
  | hinting =>
    rw [shape] at stands
    simp only [advance, shape]
    split
    · next broken =>
      simp only [LinkWire.send, broken, if_true]
      exact linked.server_errs ⟨rfl, fun _ => rfl, id⟩ stands.1
    · next whole =>
      simp only [LinkWire.send, if_neg whole]
      exact ⟨turns.server_settles stands.2.2, hinted.server_sends (by rw [shape]; rfl)⟩
  | awaiting => exact linked.server_awaits i (.inl shape)
  | rechecking => exact linked.server_awaits i (.inr shape)
  | measuring isHealthy =>
    have clear : server.place.owesHint = false := by rw [shape]; rfl
    rw [shape] at stands requests
    obtain ⟨⟨long, short⟩, reading⟩ := requests.measures
    simp only [advance, shape]
    rw [if_neg (not_or.mpr ⟨long, Nat.not_lt.mpr short⟩)]
    exact linked.server_reads_on wire.worse_same trivial reading.reading stands clear rfl stands
  | loading isHealthy remaining read =>
    have clear : server.place.owesHint = false := by rw [shape]; rfl
    rw [shape] at stands requests
    cases remaining with
    | succ remaining =>
      simp only [advance, shape]
      exact linked.server_reads_on wire.worse_same trivial requests.loads.reading stands clear rfl stands
    | zero =>
      simp only [advance, shape]
      rw [if_pos (by rw [turns.server_expected]; exact requests.finishes.1), readDone, if_pos turns.serverSide]
      exact ⟨turns.server_reads shape, hinted.server_moves wire.worse_same rfl (fun owes => by cases owes)
        (fun _ _ fine => ⟨clear, fine⟩)⟩

theorem client_calls (call : ClientCall) (idle : client.place = .idle) :
    Linked (client.beginClient call) server wire := by
  have same := wire.worse_same
  cases call with
  | publishRequest line =>
    simp only [beginClient]
    split
    · exact linked
    next accepted =>
    simp only [not_or, Bool.not_eq_true, sendsReplyHints, decide_eq_false_iff_not] at accepted
    obtain ⟨plain, _, _, settled, _⟩ := accepted
    split
    · next valid =>
      exact ⟨linked.turns.client_begins line settled (.inl ⟨rfl, valid⟩),
        linked.hinted.client_begins rfl (fun hints => absurd hints plain)⟩
    · exact ⟨linked.turns.client_begins line settled (.inr idle),
        linked.hinted.client_begins (by rw [idle]; rfl) (fun hints => absurd hints plain)⟩
  | receiveResponse =>
    simp only [beginClient]
    split
    · exact linked
    · next accepted =>
      simp only [not_or, Bool.not_eq_true, Bool.not_eq_true', Bool.not_eq_false] at accepted
      exact linked.client_place same trivial trivial accepted.2.2.2 rfl nofun
  | beginRequest line =>
    simp only [beginClient]
    split
    · exact linked
    next accepted =>
    simp only [refusesRequest, sendsReplyHints, Bool.or_eq_true, not_or, Bool.not_eq_true, Bool.not_eq_false',
      decide_eq_true_eq] at accepted
    obtain ⟨⟨⟨⟨⟨⟨⟨_, hints⟩, _⟩, settled⟩, _⟩, _⟩, valid⟩, _⟩ := accepted
    exact linked.client_place same trivial trivial ⟨hints, settled, valid⟩ rfl nofun
  | pollResponse =>
    simp only [beginClient]
    split
    · exact linked
    next accepted =>
    simp only [refusesPoll, sendsReplyHints, Bool.or_eq_true, not_or, Bool.not_eq_true, Bool.not_eq_false',
      decide_eq_true_eq] at accepted
    obtain ⟨⟨⟨⟨⟨_, hints⟩, _⟩, pending⟩, _⟩, _⟩ := accepted
    exact linked.client_place same trivial trivial ⟨hints, pending⟩ rfl nofun

section
variable (idle : server.place = .idle) (pending : server.channel.isPending = true) (fresh : server.Fresh)
include idle pending fresh

theorem server_owes : server.sent.length < server.got.length := by
  refine Nat.lt_of_le_of_ne linked.turns.ordered (fun level => ?_)
  rcases linked.turns.due pending level.symm with notifies | hints | spent
  · rw [idle] at notifies
    cases notifies
  · rw [idle] at hints
    cases hints
  · cases mode : server.channel.mode <;> simp [Fresh, mode] at spent fresh <;> simp [spent] at fresh

theorem server_begins {line : Bytes} (valid : validLine line = true) :
    Linked client { server with place := .storing line 0 } wire := by
  have owes := linked.server_owes idle pending fresh
  obtain ⟨_, level, _⟩ := linked.turns.unanswered_pending owes
  have writes := linked.turns.answers.begins level.symm valid
  refine linked.server_place wire.worse_same writes.writing trivial ⟨pending, owes, fun mode => ?_⟩
    (by rw [idle]; rfl) rfl (fun _ equal => absurd equal (Nat.ne_of_gt owes))
  rw [Fresh, mode] at fresh
  exact fresh

end

theorem server_calls (call : ServerCall) (idle : server.place = .idle) :
    Linked client (server.beginServer call) wire := by
  cases call with
  | receiveRequest =>
    simp only [beginServer]
    split
    · exact linked
    · next accepted =>
      simp only [not_or, Bool.not_eq_true] at accepted
      exact linked.server_reads_on wire.worse_same trivial trivial accepted.2.2.1 (by rw [idle]; rfl) rfl accepted.2.2.1
  | publishResponse line =>
    simp only [beginServer]
    split
    · exact linked
    next accepted =>
    simp only [not_or, Bool.not_eq_true, Bool.not_eq_true', Bool.not_eq_false, sendsReplyHints,
      decide_eq_false_iff_not] at accepted
    obtain ⟨plain, _, _, pending, _, fresh⟩ := accepted
    split
    · next valid =>
      refine linked.server_begins idle pending ?_ valid
      unfold Fresh
      cases mode : server.channel.mode with
      | v2 => exact fresh
      | replyHintV3 => exact absurd mode plain
    · exact linked
  | publishResponseWithHint line =>
    simp only [beginServer]
    split
    · exact linked
    next accepted =>
    simp only [not_or, Bool.not_eq_true, Bool.not_eq_true', Bool.not_eq_false, sendsReplyHints,
      decide_eq_true_eq] at accepted
    obtain ⟨_, hints, _, pending, fresh⟩ := accepted
    split
    · next valid => exact linked.server_begins idle pending (by rw [Fresh, hints]; exact fresh) valid
    · exact linked.server_errs wire.worse_same hints

end Linked

-- The party's own next steps while the other one rests and nothing breaks.
def alone (me : LinkParty) (slot : MessageSlot) (wire : LinkWire) : Nat → LinkParty
  | 0 => me
  | count + 1 => (me.advance slot wire {}).1.alone slot (me.advance slot wire {}).2 count

def Reaches (me : LinkParty) (slot : MessageSlot) (wire : LinkWire) (goal : LinkParty → Prop) : Prop :=
  ∃ count, goal (me.alone slot wire count)

section Alone
variable {me later : LinkParty} {slot : MessageSlot} {wire after : LinkWire} {line : Bytes}

theorem reaches_later {goal : LinkParty → Prop} (next : me.advance slot wire {} = (later, after))
    (rest : later.Reaches slot after goal) : me.Reaches slot wire goal := by
  obtain ⟨count, reached⟩ := rest
  exact ⟨count + 1, by rw [alone, next]; exact reached⟩

theorem storing_commits {index : Nat} (shape : me.place = .storing line index) :
    me.Reaches slot wire fun done => done.sent = me.sent ++ [(me.channel.sequence, line)] := by
  induction left : line.length - index generalizing me index with
  | zero =>
    have complete : (line)[index]? = none := List.getElem?_eq_none_iff.mpr (by omega)
    exact ⟨2, by simp [alone, advance, shape, complete]⟩
  | succ left ih =>
    have due := List.getElem?_eq_getElem (show index < line.length by omega)
    have next : me.advance slot wire {} =
        ({ me with slot := me.slot.storeByte index (line)[index], place := .storing line (index + 1) }, wire) := by
      simp only [advance, shape, due]
    exact reaches_later next (ih rfl (by omega))

section
variable {sent : List (Nat × Bytes)} {writer : LinkPlace} {isHealthy : Bool} (number : me.expected = me.got.length + 1)
  (faces : Faces slot sent writer me.got me.place)
include number faces

theorem loading_reads {remaining : Nat} {read : Bytes} (shape : me.place = .loading isHealthy remaining read) :
    me.Reaches slot wire fun done => done.got = sent := by
  rw [shape] at faces
  induction remaining generalizing me read with
  | zero =>
    have ⟨whole, done⟩ := faces.finishes
    refine reaches_later (by simp only [advance, shape]; rw [if_pos (number ▸ whole)]) ⟨0, ?_⟩
    show me.got ++ [(me.expected, read)] = sent
    rw [number]
    exact done.delivered.eq_of_length_le (by rw [List.length_append]; exact faces.oneAhead)
  | succ remaining ih =>
    have next : me.advance slot wire {} =
        ({ me with place := .loading isHealthy remaining (read ++ [slot.bytes read.length]) }, wire) := by
      simp only [advance, shape]
    exact reaches_later next (ih number faces.loads rfl)

theorem measuring_reads (shape : me.place = .measuring isHealthy) :
    me.Reaches slot wire fun done => done.got = sent := by
  rw [shape] at faces
  obtain ⟨⟨long, short⟩, reading⟩ := faces.measures
  have next : me.advance slot wire {} = ({ me with place := .loading isHealthy slot.length [] }, wire) := by
    simp only [advance, shape]
    rw [if_neg (not_or.mpr ⟨long, Nat.not_lt.mpr short⟩)]
  exact reaches_later next (loading_reads number reading rfl)

-- A message that was not read shows its number.
theorem looking_reads
    (next : slot.sequence = me.expected → me.advance slot wire {} = ({ me with place := .measuring true }, wire)) :
    me.Reaches slot wire fun done => done.got = sent := by
  rcases Nat.lt_or_ge me.got.length sent.length with unread | all
  · have seen : slot.sequence = me.expected := by
      rw [number, faces.committed]
      exact Nat.le_antisymm faces.oneAhead unread
    exact reaches_later (next seen) (measuring_reads number (faces.reader_moved unread) rfl)
  · exact ⟨0, faces.delivered.eq_of_length_le all⟩

theorem awaiting_reads (shape : me.place = .awaiting) : me.Reaches slot wire fun done => done.got = sent :=
  looking_reads number faces fun seen => by
    simp only [advance, shape]
    exact if_pos seen

end

end Alone

def publish (line : Bytes) : SharedControlMode → ClientCall
  | .v2 => .publishRequest line
  | .replyHintV3 => .beginRequest line

def respond (line : Bytes) : SharedControlMode → ServerCall
  | .v2 => .publishResponse line
  | .replyHintV3 => .publishResponseWithHint line

def readAnswer : SharedControlMode → ClientCall
  | .v2 => .receiveResponse
  | .replyHintV3 => .pollResponse

-- Between two calls, with or without a request that waits for its answer.
structure Ready (me : LinkParty) (pending : Bool) : Prop where
  idle : me.place = .idle
  turn : me.channel.isPending = pending
  fresh : me.Fresh

namespace Linked

variable {client server : LinkParty} {wire : LinkWire} {line : Bytes} (linked : Linked client server wire)
include linked

theorem client_drained (mode : client.channel.mode = .replyHintV3) : ∃ count,
    client.channel.drained (wire.receive {}).1 =
      (.healthy, { client.channel with receivedHints := client.channel.receivedHints + count }) := by
  rcases linked.drains mode {} with ⟨broken, _⟩ | ⟨count, _, _, _, _, drained, _⟩
  · cases broken
  · exact ⟨count, drained⟩

theorem client_publishes (valid : validLine line = true) (ready : client.Ready false)
    (room : client.channel.sequence ≠ maxSequence) :
    (client.beginClient (publish line client.channel.mode)).Reaches server.slot wire
      fun done => done.sent = client.sent ++ [(client.sent.length + 1, line)] := by
  obtain ⟨idle, settled, fresh⟩ := ready
  have ⟨mapped, socket⟩ := linked.turns.clientOpen
  have side := linked.turns.clientSide
  have number : client.channel.sequence = client.sent.length := by
    rw [linked.turns.asked, settled, (linked.turns.settled_counts settled).1]
    rfl
  rw [← number]
  cases mode : client.channel.mode with
  | v2 =>
    have begins : client.beginClient (.publishRequest line) =
        { client with channel := client.channel.advanced, place := .storing line 0 } := by
      simp [beginClient, sendsReplyHints, mode, mapped, side, settled, socket, room, valid]
    rw [publish, begins]
    exact storing_commits rfl
  | replyHintV3 =>
    rw [Fresh, mode] at fresh
    have begins : client.beginClient (.beginRequest line) = { client with place := .draining line } := by
      simp [beginClient, refusesRequest, sendsReplyHints, mode, mapped, side, settled, room, valid, fresh]
    obtain ⟨count, drained⟩ := linked.client_drained mode
    rw [publish, begins]
    refine reaches_later (by simp only [advance, drained]; rfl) ?_
    exact reaches_later (by simp only [advance]; rfl) (storing_commits rfl)

theorem server_receives (ready : server.Ready false) (room : server.channel.sequence ≠ maxSequence) :
    (server.beginServer .receiveRequest).Reaches client.slot wire fun done => done.got = client.sent := by
  obtain ⟨idle, settled, fresh⟩ := ready
  have begins : server.beginServer .receiveRequest = { server with place := .awaiting } := by
    unfold Fresh at fresh
    cases mode : server.channel.mode <;> rw [mode] at fresh <;>
      simp [beginServer, sendsReplyHints, mode, linked.turns.serverOpen.1, linked.turns.serverSide, settled, room, fresh]
  rw [begins]
  exact awaiting_reads linked.turns.server_expected (linked.turns.requests.reader_moved trivial) rfl

theorem server_responds (valid : validLine line = true) (ready : server.Ready true) :
    (server.beginServer (respond line server.channel.mode)).Reaches client.slot wire
      fun done => done.sent = server.sent ++ [(server.sent.length + 1, line)] := by
  obtain ⟨idle, pending, fresh⟩ := ready
  have ⟨mapped, socket⟩ := linked.turns.serverOpen
  rw [← (linked.turns.unanswered_pending (linked.server_owes idle pending fresh)).2.2, ← linked.turns.served]
  have begins : server.beginServer (respond line server.channel.mode) = { server with place := .storing line 0 } := by
    unfold Fresh at fresh
    cases mode : server.channel.mode <;> rw [mode] at fresh <;>
      simp [respond, beginServer, sendsReplyHints, mode, mapped, linked.turns.serverSide, pending, socket, fresh, valid]
  rw [begins]
  exact storing_commits rfl

theorem client_reads (ready : client.Ready true) :
    (client.beginClient (readAnswer client.channel.mode)).Reaches server.slot wire
      fun done => done.got = server.sent := by
  obtain ⟨idle, pending, fresh⟩ := ready
  have mapped := linked.turns.clientOpen.1
  have side := linked.turns.clientSide
  have number := linked.turns.client_expected pending
  cases mode : client.channel.mode with
  | v2 =>
    have begins : client.beginClient .receiveResponse = { client with place := .awaiting } := by
      simp [beginClient, sendsReplyHints, mode, mapped, side, pending]
    rw [readAnswer, begins]
    exact awaiting_reads number (linked.turns.answers.reader_moved trivial) rfl
  | replyHintV3 =>
    rw [Fresh, mode] at fresh
    have begins : client.beginClient .pollResponse = { client with place := .pollDraining } := by
      simp [beginClient, refusesPoll, sendsReplyHints, mode, mapped, side, pending, fresh]
    obtain ⟨count, drained⟩ := linked.client_drained mode
    rw [readAnswer, begins]
    refine reaches_later (by simp only [advance, drained]; rfl) ?_
    refine reaches_later (by simp only [advance]; rfl) ?_
    refine looking_reads number (linked.turns.answers.reader_moved trivial) fun seen => ?_
    have current : server.slot.sequence = client.channel.sequence := by
      rw [seen, expected, side]
      rfl
    simp [advance, linked.turns.home, current]

end Linked

end LinkParty

namespace ControlLink

open LinkParty

def Linked (link : ControlLink) : Prop := LinkParty.Linked link.client link.server link.wire

variable {link : ControlLink}

theorem step_linked (linked : link.Linked) (event : LinkEvent) : (link.step event).Linked := by
  cases event with
  | clientCall call =>
    simp only [step]
    split
    · next idle => exact linked.client_calls call idle
    · exact linked
  | serverCall call =>
    simp only [step]
    split
    · next idle => exact linked.server_calls call idle
    · exact linked
  | clientStep i => exact linked.client_advances i
  | serverStep i => exact linked.server_advances i

theorem run_linked (linked : link.Linked) (events : List LinkEvent) : (link.run events).Linked := by
  induction events generalizing link with
  | nil => exact linked
  | cons event rest ih => exact ih (step_linked linked event)

theorem new_linked (mode : SharedControlMode) (incarnation : ServiceIncarnation) (socket : Nat) :
    (new mode incarnation socket).Linked where
  turns :=
    { clientSide := rfl, serverSide := rfl, clientOpen := ⟨rfl, nofun⟩, serverOpen := ⟨rfl, nofun⟩, modes := rfl
      home := rfl, requests := Faces.fresh _ rfl
      answers := Faces.fresh _ rfl, asked := rfl, within := Nat.le_refl _, served := rfl, ordered := Nat.le_refl _
      kept := fun _ => rfl, due := nofun, clientStands := trivial, serverStands := trivial }
  hinted :=
    { bytes := nofun, unhealthy := nofun, errors := nofun
      lag := fun _ =>
        { counted := Nat.le_refl _, close := Nat.zero_le _, owed := nofun, current := fun _ _ => rfl
          behind := Nat.zero_le _, fresh := fun _ _ => Nat.zero_le _ } }

-- What the two endpoints can rely on at any moment: the messages of each direction are numbered one by one, read whole,
-- in order and at most one late, a request is answered after it was read, and only what really went wrong is reported.
structure Rendezvous (link : ControlLink) : Prop where
  valid : ∀ message ∈ link.client.sent, validLine message.2 = true
  requestNumbers : link.client.sent.map Prod.fst = List.range' 1 link.client.sent.length
  received : link.server.got <+: link.client.sent
  oneAhead : link.client.sent.length ≤ link.server.got.length + 1
  answerNumbers : link.server.sent.map Prod.fst = List.range' 1 link.server.sent.length
  answered : link.server.sent.length ≤ link.server.got.length
  read : link.client.got <+: link.server.sent
  wellFormed : link.client.channel.mode = .replyHintV3 → ∀ i,
    (link.client.channel.drained (link.wire.receive i).1).1 ≠ .malformed
  errors : link.client.channel.hasTransportError = true → link.wire.failed = true ∨ link.wire.unheard = true

theorem linked_rendezvous (linked : link.Linked) : link.Rendezvous := by
  have requests := linked.turns.requests
  have answers := linked.turns.answers
  refine ⟨requests.valid, requests.numbered, requests.delivered, requests.oneAhead, answers.numbered,
    linked.turns.ordered, answers.delivered, fun mode i => ?_, linked.hinted.errors⟩
  rcases linked.drains mode i with ⟨_, read, _⟩ | ⟨_, _, _, _, _, read, _⟩
  · rw [read]
    nofun
  · rw [read]
    nofun

def clientAlone (link : ControlLink) (count : Nat) : ControlLink := link.run (List.replicate count (.clientStep {}))

def serverAlone (link : ControlLink) (count : Nat) : ControlLink := link.run (List.replicate count (.serverStep {}))

theorem client_alone (link : ControlLink) (count : Nat) :
    (link.clientAlone count).client = link.client.alone link.server.slot link.wire count := by
  induction count generalizing link with
  | zero => rfl
  | succ count ih => exact ih (link.step (.clientStep {}))

theorem server_alone (link : ControlLink) (count : Nat) :
    (link.serverAlone count).server = link.server.alone link.client.slot link.wire count := by
  induction count generalizing link with
  | zero => rfl
  | succ count ih => exact ih (link.step (.serverStep {}))

-- A call of an endpoint that is ready for it does what it is for, by the endpoint's own steps.
structure Progresses (link : ControlLink) : Prop where
  publishes : ∀ line, validLine line = true → link.client.Ready false → link.client.channel.sequence ≠ maxSequence →
    ∃ count, ((link.step (.clientCall (publish line link.client.channel.mode))).clientAlone count).client.sent =
      link.client.sent ++ [(link.client.sent.length + 1, line)]
  receives : link.server.Ready false → link.server.channel.sequence ≠ maxSequence →
    ∃ count, ((link.step (.serverCall .receiveRequest)).serverAlone count).server.got = link.client.sent
  responds : ∀ line, validLine line = true → link.server.Ready true →
    ∃ count, ((link.step (.serverCall (respond line link.server.channel.mode))).serverAlone count).server.sent =
      link.server.sent ++ [(link.server.sent.length + 1, line)]
  reads : link.client.Ready true →
    ∃ count, ((link.step (.clientCall (readAnswer link.client.channel.mode))).clientAlone count).client.got =
      link.server.sent

theorem linked_progresses (linked : link.Linked) : link.Progresses := by
  have client : ∀ {call}, link.client.place = .idle →
      link.step (.clientCall call) = { link with client := link.client.beginClient call } := fun idle => if_pos idle
  have server : ∀ {call}, link.server.place = .idle →
      link.step (.serverCall call) = { link with server := link.server.beginServer call } := fun idle => if_pos idle
  refine ⟨fun line valid ready room => ?_, fun ready room => ?_, fun line valid ready => ?_, fun ready => ?_⟩
  · obtain ⟨count, reached⟩ := linked.client_publishes valid ready room
    exact ⟨count, by rw [client ready.idle, client_alone]; exact reached⟩
  · obtain ⟨count, reached⟩ := linked.server_receives ready room
    exact ⟨count, by rw [server ready.idle, server_alone]; exact reached⟩
  · obtain ⟨count, reached⟩ := linked.server_responds valid ready
    exact ⟨count, by rw [server ready.idle, server_alone]; exact reached⟩
  · obtain ⟨count, reached⟩ := linked.client_reads ready
    exact ⟨count, by rw [client ready.idle, client_alone]; exact reached⟩

theorem awaiting_catches_up (linked : link.Linked) (shape : link.server.place = .awaiting) :
    ∃ count, (link.serverAlone count).server.got = link.client.sent := by
  obtain ⟨count, reached⟩ := awaiting_reads linked.turns.server_expected linked.turns.requests shape
  exact ⟨count, by rw [server_alone]; exact reached⟩

def publishing : List LinkEvent := .clientCall (.beginRequest [65, 10]) :: List.replicate 6 (.clientStep {})

end ControlLink

end Glimmer.Control
