import Glimmer.Control.LinkSlots

namespace Glimmer.Control

open Glimmer.Core

namespace LinkPlace

def isUnhealthy : LinkPlace → Bool
  | .looking isHealthy | .measuring isHealthy | .loading isHealthy _ _ => !isHealthy
  | _ => false

def owesHint : LinkPlace → Bool
  | .notifying | .hinting => true
  | _ => false

def hasDrained : LinkPlace → Bool
  | .checking _ => true
  | _ => false

end LinkPlace

structure LinkWire.Worse (wire after : LinkWire) : Prop where
  hints : after.hints = wire.hints
  failed : wire.failed = true → after.failed = true
  unheard : wire.unheard = true → after.unheard = true

namespace LinkParty

open SharedControlChannel

-- One hint may be owed, and the client has at most two to read, one once it has looked for its request.
structure Lag (client server : LinkParty) (unread : Nat) : Prop where
  counted : client.channel.receivedHints + unread ≤ server.sent.length
  close : server.sent.length ≤ client.channel.receivedHints + unread + 1
  owed : server.place.owesHint = true → server.sent.length = client.channel.receivedHints + unread + 1
  current : server.place.owesHint = false → server.channel.hasTransportError = false →
    server.sent.length = client.channel.receivedHints + unread
  behind : server.sent.length ≤ client.channel.receivedHints + 2
  fresh : client.channel.isPending = true ∨ client.place.hasDrained = true → server.sent.length = client.got.length →
    server.sent.length ≤ client.channel.receivedHints + 1

structure Hinted (client server : LinkParty) (wire : LinkWire) : Prop where
  bytes : ∀ hint ∈ wire.hints, hint = kReplyHint
  lag : client.channel.mode = .replyHintV3 → Lag client server wire.hints.length
  unhealthy : client.place.isUnhealthy = true → wire.failed = true
  errors : client.channel.hasTransportError = true → wire.failed = true ∨ wire.unheard = true

namespace Hinted

variable {client server : LinkParty} {wire : LinkWire} (hinted : Hinted client server wire)
include hinted
variable {channel : SharedControlChannel} {place : LinkPlace} {after : LinkWire} {slot : MessageSlot}

theorem client_moves (same : SameTurn client.channel channel)
    (received : channel.receivedHints = client.channel.receivedHints) (worse : wire.Worse after)
    (undrained : place.hasDrained = false) (unhealthy : place.isUnhealthy = true → after.failed = true)
    (errors : channel.hasTransportError = true → after.failed = true ∨ after.unheard = true) :
    Hinted { client with channel := channel, place := place } server after := by
  refine ⟨by rw [worse.hints]; exact hinted.bytes, fun hints => ?_, unhealthy, errors⟩
  have lag := hinted.lag (same.mode ▸ hints)
  rw [worse.hints]
  refine ⟨?_, ?_, ?_, ?_, ?_, ?_⟩ <;> rw [received]
  · exact lag.counted
  · exact lag.close
  · exact lag.owed
  · exact lag.current
  · exact lag.behind
  · rw [same.pending, undrained]
    exact fun drained => lag.fresh (.inl (drained.resolve_right Bool.false_ne_true))

theorem client_begins (healthy : place.isUnhealthy = false)
    (looked : client.channel.mode = .replyHintV3 → client.place.hasDrained = true) :
    Hinted { client with channel := client.channel.advanced, place := place } server wire := by
  refine ⟨hinted.bytes, fun hints => ?_, fun unhealthy => absurd (healthy.symm.trans unhealthy) Bool.false_ne_true,
    hinted.errors⟩
  have lag := hinted.lag hints
  exact { lag with fresh := fun _ => lag.fresh (.inr (looked hints)) }

theorem client_writes
    {sent : List (Nat × Bytes)} (healthy : place.isUnhealthy = false) (undrained : place.hasDrained = false) :
    Hinted { client with slot := slot, place := place, sent := sent } server wire := by
  have moved := hinted.client_moves (same_turn client.channel) rfl ⟨rfl, id, id⟩ undrained
    (fun unhealthy => absurd (healthy.symm.trans unhealthy) Bool.false_ne_true) hinted.errors
  exact ⟨moved.bytes, fun hints => { moved.lag hints with }, moved.unhealthy, moved.errors⟩

theorem client_reads {got : List (Nat × Bytes)} (same : SameTurn { client.channel with isPending := false } channel)
    (received : channel.receivedHints = client.channel.receivedHints)
    (errors : channel.hasTransportError = true → wire.failed = true ∨ wire.unheard = true) :
    Hinted { client with channel := channel, place := .idle, got := got } server wire := by
  refine ⟨hinted.bytes, fun hints => ?_, nofun, errors⟩
  have lag := hinted.lag (same.mode ▸ hints)
  have unread : channel.isPending = false := same.pending
  refine ⟨?_, ?_, ?_, ?_, ?_, fun looked => ?_⟩ <;> simp only [received]
  · exact lag.counted
  · exact lag.close
  · exact lag.owed
  · exact lag.current
  · exact lag.behind
  · rcases looked with pending | drained
    · exact absurd (unread.symm.trans pending) Bool.false_ne_true
    · exact absurd drained Bool.false_ne_true

theorem server_moves {next : LinkParty} (worse : wire.Worse after) (sent : next.sent = server.sent)
    (owed : next.place.owesHint = true → server.place.owesHint = true)
    (current : client.channel.mode = .replyHintV3 → next.place.owesHint = false →
      next.channel.hasTransportError = false → server.place.owesHint = false ∧ server.channel.hasTransportError = false) :
    Hinted client next after := by
  refine ⟨by rw [worse.hints]; exact hinted.bytes, fun hints => ?_,
    fun unhealthy => worse.failed (hinted.unhealthy unhealthy),
    fun erred => (hinted.errors erred).imp worse.failed worse.unheard⟩
  have lag := hinted.lag hints
  rw [worse.hints]
  refine ⟨?_, ?_, fun owes => ?_, fun free fine => ?_, ?_, ?_⟩ <;> rw [sent]
  · exact lag.counted
  · exact lag.close
  · exact lag.owed (owed owes)
  · obtain ⟨clear, fine⟩ := current hints free fine
    exact lag.current clear fine
  · exact lag.behind
  · exact lag.fresh

theorem server_commits (turns : Turns client server) {line : Bytes}
    {message : Nat × Bytes} (shape : server.place = .committing line) :
    Hinted client { server with slot := slot, place := .notifying, sent := server.sent ++ [message] } wire := by
  refine ⟨hinted.bytes, fun hints => ?_, hinted.unhealthy, hinted.errors⟩
  have stands := turns.serverStands
  rw [shape] at stands
  obtain ⟨pending, unanswered, _⟩ := turns.unanswered_pending stands.2.1
  have lag := hinted.lag hints
  have current := lag.current (by rw [shape]; rfl) (stands.2.2 (turns.modes ▸ hints))
  have fresh := lag.fresh (.inl pending) unanswered
  constructor <;> simp only [List.length_append, List.length_singleton]
  · omega
  · omega
  · intro _
    omega
  · nofun
  · omega
  · intro _ level
    omega

theorem server_sends (owes : server.place.owesHint = true) :
    Hinted client { server with channel := channel, place := .idle }
      { wire with hints := wire.hints ++ [kReplyHint] } := by
  refine ⟨fun hint listed => ?_, fun hints => ?_, hinted.unhealthy, hinted.errors⟩
  · rcases List.mem_append.mp listed with old | new
    · exact hinted.bytes hint old
    · exact List.mem_singleton.mp new
  have lag := hinted.lag hints
  have owed := lag.owed owes
  constructor <;> simp only [List.length_append, List.length_singleton]
  · omega
  · omega
  · nofun
  · intro _ _
    omega
  · exact lag.behind
  · exact lag.fresh

theorem drained_moves {count : Nat} {left : Bytes}
    (part : ∀ hint ∈ left, hint ∈ wire.hints) (lengths : count + left.length = wire.hints.length)
    (some : wire.hints ≠ [] → 0 < count) (healthy : place.isUnhealthy = false) :
    Hinted
      { client with
        channel := { client.channel with receivedHints := client.channel.receivedHints + count }, place := place }
      server { wire with hints := left } := by
  refine ⟨fun hint listed => hinted.bytes hint (part hint listed), fun hints => ?_,
    fun unhealthy => absurd (healthy.symm.trans unhealthy) Bool.false_ne_true, hinted.errors⟩
  have lag := hinted.lag hints
  have counted := lag.counted
  have close := lag.close
  have behind := lag.behind
  have looked : wire.hints.length = 0 ∨ 0 < count := by
    rcases Nat.eq_zero_or_pos wire.hints.length with none | any
    · exact .inl none
    · exact .inr (some (List.ne_nil_of_length_pos any))
  constructor <;> simp only
  · omega
  · omega
  · intro owes
    have owed := lag.owed owes
    omega
  · intro clear fine
    have current := lag.current clear fine
    omega
  · omega
  · intro _ _
    omega

end Hinted

theorem receive_drained {c : SharedControlChannel} {wire : LinkWire} (i : LinkInput)
    (bytes : ∀ hint ∈ wire.hints, hint = kReplyHint) (few : wire.hints.length ≤ 2)
    (due : c.receivedHints + wire.hints.length ≤ c.sequence) :
    (i.broken = true ∧ c.drained (wire.receive i).1 = (.closed, c) ∧
        (wire.receive i).2 = { wire with failed := true }) ∨
      ∃ count left, (∀ hint ∈ left, hint ∈ wire.hints) ∧ count + left.length = wire.hints.length ∧
        (wire.hints ≠ [] → 0 < count) ∧
        c.drained (wire.receive i).1 = (.healthy, { c with receivedHints := c.receivedHints + count }) ∧
        (wire.receive i).2 = { wire with hints := left } := by
  unfold LinkWire.receive
  split
  · next broken => exact .inl ⟨broken, rfl, rfl⟩
  split
  · next none =>
    exact .inr ⟨0, wire.hints, fun _ => id, Nat.zero_add _, fun any => absurd none any, rfl, rfl⟩
  next any =>
  have pos : 0 < wire.hints.length := List.length_pos_iff.mpr any
  refine .inr ⟨(wire.hints.take (max 1 (min 3 i.count))).length, wire.hints.drop (max 1 (min 3 i.count)),
    fun hint => List.mem_of_mem_drop, ?_, fun _ => ?_, ?_, rfl⟩
  · rw [List.length_take, List.length_drop]
    omega
  · rw [List.length_take]
    omega
  have taken : (wire.hints.take (max 1 (min 3 i.count))).length ≤ wire.hints.length := List.length_take_le' _ _
  have some : wire.hints.take (max 1 (min 3 i.count)) ≠ [] := by
    rw [Ne, List.take_eq_nil_iff]
    exact not_or.mpr ⟨by omega, any⟩
  have good : (wire.hints.take (max 1 (min 3 i.count))).any (· ≠ kReplyHint) = false := by
    rw [List.any_eq_false]
    intro hint listed
    simp [bytes hint (List.mem_of_mem_take listed)]
  simp only [SharedControlChannel.drained, drainReplyHints, if_neg some, good, Bool.false_eq_true, if_false]
  rw [if_neg (by omega)]

end LinkParty

theorem LinkWire.worse_same (wire : LinkWire) : wire.Worse wire := ⟨rfl, id, id⟩

theorem LinkWire.worse_check (wire : LinkWire) (i : LinkInput) : wire.Worse (wire.check i) :=
  ⟨rfl, fun failed => by simp [check, failed], id⟩

theorem LinkWire.worse_notify (wire : LinkWire) (i : LinkInput) : wire.Worse (wire.notify i) :=
  ⟨rfl, id, fun unheard => by simp [notify, unheard]⟩

namespace LinkParty

open SharedControlChannel

structure Linked (client server : LinkParty) (wire : LinkWire) : Prop where
  turns : Turns client server
  hinted : Hinted client server wire

namespace Linked

variable {client server : LinkParty} {wire : LinkWire} (linked : Linked client server wire)
include linked
variable {place : LinkPlace} {after : LinkWire}

section
variable (worse : wire.Worse after) (writes : place.Writes client.slot client.sent server.got)
  (reads : place.Reads server.sent client.got) (stands : client.ClientStands place)
  (undrained : place.hasDrained = false) (unhealthy : place.isUnhealthy = true → after.failed = true)
include worse writes reads stands undrained unhealthy

theorem client_moves {channel : SharedControlChannel}
    (same : SameTurn client.channel channel) (received : channel.receivedHints = client.channel.receivedHints)
    (errors : channel.hasTransportError = true → after.failed = true ∨ after.unheard = true) :
    Linked { client with channel := channel, place := place } server after :=
  ⟨linked.turns.client_moves same writes reads stands,
    linked.hinted.client_moves same received worse undrained unhealthy errors⟩

theorem client_place : Linked { client with place := place } server after :=
  linked.client_moves worse writes reads stands undrained unhealthy (same_turn _) rfl
    (fun erred => (linked.hinted.errors erred).imp worse.failed worse.unheard)

end

theorem client_rests (worse : wire.Worse after) : Linked client.rest server after :=
  linked.client_place worse trivial trivial trivial rfl nofun

theorem client_errs (worse : wire.Worse after)
    (earned : after.failed = true ∨ after.unheard = true) : Linked client.erring server after :=
  linked.client_moves worse (by trivial) (by trivial) (by trivial) (by rfl) (fun broken => by cases broken)
    (same_turn_error (same_turn _)) rfl (fun _ => earned)

theorem drains (mode : client.channel.mode = .replyHintV3) (i : LinkInput) :
    (i.broken = true ∧ client.channel.drained (wire.receive i).1 = (.closed, client.channel) ∧
        (wire.receive i).2 = { wire with failed := true }) ∨
      ∃ count left, (∀ hint ∈ left, hint ∈ wire.hints) ∧ count + left.length = wire.hints.length ∧
        (wire.hints ≠ [] → 0 < count) ∧
        client.channel.drained (wire.receive i).1 =
          (.healthy, { client.channel with receivedHints := client.channel.receivedHints + count }) ∧
        (wire.receive i).2 = { wire with hints := left } := by
  obtain ⟨turns, hinted⟩ := linked
  have lag := hinted.lag mode
  have counted := lag.counted
  have behind := lag.behind
  have ordered := turns.ordered
  have within := turns.within
  have first := turns.requests.behind
  exact receive_drained i hinted.bytes (by omega) (by omega)

section
variable (i : LinkInput)
include i

theorem client_drains {line : Bytes} (shape : client.place = .draining line ∨ client.place = .pollDraining) :
    Linked (client.advance server.slot wire i).1 server (client.advance server.slot wire i).2 := by
  have stands := linked.turns.clientStands
  rcases shape with shape | shape
  all_goals
    rw [shape] at stands
    simp only [advance, shape]
    rcases linked.drains stands.1 i with ⟨_, read, after⟩ | ⟨count, left, part, lengths, some, read, after⟩
    all_goals rw [read, after]
  · exact linked.client_errs ⟨rfl, fun _ => rfl, id⟩ (.inl rfl)
  rotate_left
  · exact linked.client_place ⟨rfl, fun _ => rfl, id⟩ trivial trivial stands rfl (fun _ => rfl)
  all_goals
    exact ⟨linked.turns.client_moves ⟨rfl, rfl, rfl, rfl, rfl, rfl, rfl⟩ trivial trivial stands,
      linked.hinted.drained_moves part lengths some rfl⟩

theorem client_notifies : Linked (client.notifyDone i.notified) server (wire.notify i) := by
  have worse := wire.worse_notify i
  unfold notifyDone
  rw [linked.turns.clientSide]
  cases client.channel.mode with
  | v2 => exact linked.client_rests worse
  | replyHintV3 =>
    cases heard : i.notified with
    | true => exact linked.client_rests worse
    | false => exact linked.client_errs worse (.inr (by simp [LinkWire.notify, heard]))

theorem client_looks {isHealthy : Bool} (shape : client.place = .looking isHealthy) :
    Linked (client.advance server.slot wire i).1 server (client.advance server.slot wire i).2 := by
  obtain ⟨turns, hinted⟩ := linked
  have linked : Linked client server wire := ⟨turns, hinted⟩
  have stands := turns.clientStands
  have unhealthy := hinted.unhealthy
  rw [shape] at stands unhealthy
  have number := turns.pending_sequence stands.2
  have committed := turns.answers.committed
  have behind := turns.answers.behind
  have ahead := turns.answers.oneAhead
  simp only [advance, shape]
  rw [if_neg (by rw [turns.home, committed, number]; simp only [ne_eq, not_true_eq_false, false_or]; omega)]
  split
  · next seen =>
    exact linked.client_place wire.worse_same trivial (turns.answers.due (seen.trans number)) stands.2 rfl unhealthy
  · split
    · next broken => exact linked.client_errs wire.worse_same (.inl (unhealthy broken))
    · exact linked.client_rests wire.worse_same

theorem client_awaits (shape : client.place = .awaiting ∨ client.place = .rechecking) :
    Linked (client.advance server.slot wire i).1 server (client.advance server.slot wire i).2 := by
  have pending : client.channel.isPending = true := by
    have stands := linked.turns.clientStands
    rcases shape with shape | shape <;> rw [shape] at stands <;> exact stands
  have found : server.slot.sequence = client.expected →
      Linked { client with place := .measuring true } server wire := fun seen =>
    linked.client_place wire.worse_same trivial
      (linked.turns.answers.due (seen.trans (linked.turns.client_expected pending))) pending rfl nofun
  rcases shape with shape | shape
  · simp only [advance, shape]
    split
    · next seen => exact found seen
    split
    · exact linked.client_rests wire.worse_same
    split
    · exact linked.client_rests wire.worse_same
    · split
      · exact linked.client_place (wire.worse_check i) trivial trivial pending rfl nofun
      · exact linked
  · simp only [advance, shape]
    split
    · next seen => exact found seen
    · exact linked.client_rests wire.worse_same

theorem client_advances :
    Linked (client.advance server.slot wire i).1 server (client.advance server.slot wire i).2 := by
  obtain ⟨turns, hinted⟩ := linked
  have linked : Linked client server wire := ⟨turns, hinted⟩
  have stands := turns.clientStands
  have requests := turns.requests
  have answers := turns.answers
  have unhealthy := hinted.unhealthy
  cases shape : client.place with
  | idle =>
    simp only [advance, shape]
    exact linked
  | draining line => exact linked.client_drains i (.inl shape)
  | checking line =>
    rw [shape] at stands
    simp only [advance, shape]
    split
    · next broken => exact linked.client_errs (wire.worse_check i) (.inl (by simp [LinkWire.check, broken]))
    · exact ⟨turns.client_begins line stands.2.1 (.inl ⟨rfl, stands.2.2⟩),
        hinted.client_begins rfl (fun _ => by rw [shape]; rfl)⟩
  | storing line index =>
    rw [shape] at stands requests
    simp only [advance, shape]
    split
    · next value due =>
      exact ⟨{ turns with
        requests := requests.stores due, answers := answers.reader_moved trivial, clientStands := stands },
        hinted.client_writes rfl rfl⟩
    · next complete =>
      exact ⟨{ turns with
        requests := requests.lengthens complete, answers := answers.reader_moved trivial, clientStands := stands },
        hinted.client_writes rfl rfl⟩
  | committing line =>
    rw [shape] at stands requests
    simp only [advance, shape]
    refine ⟨?_, hinted.client_writes rfl rfl⟩
    have number : client.channel.sequence = client.sent.length + 1 := by rw [turns.pending_sequence stands.1, stands.2]
    simp only [number]
    exact { turns with
      requests := requests.commits
      answers := answers.reader_moved trivial
      within := by rw [List.length_append, number]; exact Nat.le_refl _
      clientStands := trivial }
  | notifying =>
    simp only [advance, shape]
    exact linked.client_notifies i
  | hinting =>
    rw [shape] at stands
    exact stands.elim
  | awaiting => exact linked.client_awaits i (.inl shape)
  | rechecking => exact linked.client_awaits i (.inr shape)
  | pollDraining => exact @client_drains _ _ _ linked i [] (.inr shape)
  | pollChecking =>
    rw [shape] at stands
    simp only [advance, shape]
    refine linked.client_place (wire.worse_check i) trivial trivial stands rfl (fun broken => ?_)
    rw [LinkPlace.isUnhealthy, Bool.not_not] at broken
    simp [LinkWire.check, broken]
  | looking isHealthy => exact linked.client_looks i shape
  | measuring isHealthy =>
    rw [shape] at stands answers unhealthy
    obtain ⟨⟨long, short⟩, reading⟩ := answers.measures
    simp only [advance, shape]
    rw [if_neg (not_or.mpr ⟨long, Nat.not_lt.mpr short⟩)]
    exact linked.client_place wire.worse_same trivial reading.reading stands rfl unhealthy
  | loading isHealthy remaining read =>
    rw [shape] at stands answers unhealthy
    cases remaining with
    | succ remaining =>
      simp only [advance, shape]
      exact linked.client_place wire.worse_same trivial answers.loads.reading stands rfl unhealthy
    | zero =>
      simp only [advance, shape]
      rw [if_pos (by rw [turns.client_expected stands]; exact answers.finishes.1), readDone, turns.clientSide]
      simp only [Bool.false_eq_true, if_false]
      split
      · exact ⟨turns.client_reads shape ⟨rfl, rfl, rfl, rfl, rfl, rfl, rfl⟩,
          hinted.client_reads ⟨rfl, rfl, rfl, rfl, rfl, rfl, rfl⟩ rfl (fun erred => .inl (unhealthy erred))⟩
      · exact ⟨turns.client_reads shape (same_turn _), hinted.client_reads (same_turn _) rfl hinted.errors⟩

end

end Linked

end LinkParty

end Glimmer.Control
