import Glimmer.Control.SharedChannel

namespace Glimmer.Control

open Glimmer.Core MessageSlot

variable {slot : MessageSlot} {line : Bytes} {index : Nat} {value : UInt8} {sent got : List (Nat × Bytes)}

namespace MessageSlot

def Written (slot : MessageSlot) (line : Bytes) (count : Nat) : Prop :=
  ∀ index < count, (line)[index]? = some (slot.bytes index)

structure Shows (slot : MessageSlot) (line : Bytes) : Prop where
  length : slot.length = line.length
  bytes : slot.Written line line.length

theorem written_zero (slot : MessageSlot) (line : Bytes) : slot.Written line 0 := nofun

end MessageSlot

theorem valid_line_ne_nil (valid : validLine line = true) : line ≠ [] := by
  simp only [validLine, Bool.and_eq_true, decide_eq_true_eq] at valid
  exact valid.1.1.1.1

theorem valid_line_length (valid : validLine line = true) : line.length ≤ kTaskProtocolMaxLineBytes := by
  simp only [validLine, Bool.and_eq_true, decide_eq_true_eq] at valid
  exact valid.1.1.1.2

def Latest (sent : List (Nat × Bytes)) (line : Bytes) : Prop := sent.getLast? = some (sent.length, line)

theorem latest_mem (latest : Latest sent line) : (sent.length, line) ∈ sent :=
  List.mem_of_getLast? latest

theorem prefix_latest (delivered : got <+: sent)
    (behind : sent.length = got.length + 1) (latest : Latest sent line) : got ++ [(got.length + 1, line)] = sent := by
  obtain ⟨rest, together⟩ := delivered
  have single : rest.length = 1 := by
    have lengths := congrArg List.length together
    rw [List.length_append] at lengths
    omega
  obtain ⟨message, alone⟩ := List.length_eq_one_iff.mp single
  subst alone
  have last : message = (sent.length, line) := by
    rw [Latest, ← together, List.getLast?_concat, together] at latest
    exact Option.some.inj latest
  rw [← together, last, behind]

namespace LinkPlace

def Writes (slot : MessageSlot) (sent got : List (Nat × Bytes)) : LinkPlace → Prop
  | .storing line index =>
    got.length = sent.length ∧ validLine line = true ∧ index ≤ line.length ∧ slot.Written line index
  | .committing line => got.length = sent.length ∧ validLine line = true ∧ slot.Shows line
  | _ => True

def Reads (sent got : List (Nat × Bytes)) : LinkPlace → Prop
  | .measuring _ => got.length < sent.length
  | .loading _ remaining read =>
    got.length < sent.length ∧
      ∃ line, Latest sent line ∧ read = line.take read.length ∧ read.length + remaining = line.length
  | _ => True

variable {sent' got' : List (Nat × Bytes)} {place : LinkPlace}

theorem writes_kept {slot' : MessageSlot}
    (writes : Writes slot sent got place) (busy : got.length < sent.length) : Writes slot' sent' got' place := by
  cases place with
  | storing line index | committing line => exact absurd writes.1 (Nat.ne_of_lt busy)
  | _ => trivial

theorem reads_kept (reads : Reads sent got place) (free : got.length = sent.length) : Reads sent' got' place := by
  cases place with
  | measuring isHealthy => exact absurd reads (Nat.not_lt_of_ge (Nat.le_of_eq free.symm))
  | loading isHealthy remaining read => exact absurd reads.1 (Nat.not_lt_of_ge (Nat.le_of_eq free.symm))
  | _ => trivial

end LinkPlace

-- One direction, with the messages written and read; at most the last one is unread.
structure Faces (slot : MessageSlot) (sent : List (Nat × Bytes)) (writer : LinkPlace) (got : List (Nat × Bytes))
    (reader : LinkPlace) : Prop where
  numbered : sent.map Prod.fst = List.range' 1 sent.length
  valid : ∀ message ∈ sent, validLine message.2 = true
  delivered : got <+: sent
  oneAhead : sent.length ≤ got.length + 1
  committed : slot.sequence = sent.length
  shown : got.length < sent.length → ∃ line, Latest sent line ∧ slot.Shows line
  writing : writer.Writes slot sent got
  reading : reader.Reads sent got

namespace Faces

variable {writer reader : LinkPlace}

theorem fresh (slot : MessageSlot) (unused : slot.sequence = 0) : Faces slot [] .idle [] .idle :=
  ⟨rfl, nofun, List.nil_prefix, Nat.zero_le _, unused, nofun, trivial, trivial⟩

section
variable (faces : Faces slot sent writer got reader)
include faces

theorem behind : got.length ≤ sent.length := faces.delivered.length_le

theorem due (seen : slot.sequence = got.length + 1) : got.length < sent.length := by
  rw [← faces.committed, seen]
  exact Nat.lt_succ_self _

theorem writer_moved {writer' : LinkPlace}
    (writing : writer'.Writes slot sent got) : Faces slot sent writer' got reader :=
  { faces with writing := writing }

theorem reader_moved {reader' : LinkPlace} (reading : reader'.Reads sent got) : Faces slot sent writer got reader' :=
  { faces with reading := reading }

theorem begins (free : got.length = sent.length)
    (valid : validLine line = true) : Faces slot sent (.storing line 0) got reader :=
  faces.writer_moved ⟨free, valid, Nat.zero_le _, written_zero slot line⟩

end

theorem stores (faces : Faces slot sent (.storing line index) got reader) (due : (line)[index]? = some value) :
    Faces (slot.storeByte index value) sent (.storing line (index + 1)) got reader := by
  obtain ⟨free, valid, _, written⟩ := faces.writing
  have below : index + 1 ≤ line.length := (List.getElem?_eq_some_iff.mp due).choose
  refine
    { faces with
      shown := fun unread => absurd free (Nat.ne_of_lt unread)
      writing := ⟨free, valid, below, fun other before => ?_⟩ }
  by_cases same : other = index
  · subst same
    simp [storeByte, due]
  · simp only [storeByte, Function.update_of_ne same]
    exact written other (by omega)

theorem lengthens (faces : Faces slot sent (.storing line index) got reader)
    (complete : (line)[index]? = none) : Faces (slot.storeLength line.length) sent (.committing line) got reader := by
  obtain ⟨free, valid, within, written⟩ := faces.writing
  have stored : index = line.length := Nat.le_antisymm within (List.getElem?_eq_none_iff.mp complete)
  exact
    { faces with
      shown := fun unread => absurd free (Nat.ne_of_lt unread)
      writing := ⟨free, valid, rfl, stored ▸ written⟩ }

theorem commits (faces : Faces slot sent (.committing line) got reader) :
    Faces (slot.storeSequence (sent.length + 1)) (sent ++ [(sent.length + 1, line)]) .notifying got reader := by
  obtain ⟨free, valid, shows⟩ := faces.writing
  refine ⟨?_, ?_, ?_, ?_, ?_, ?_, trivial, LinkPlace.reads_kept faces.reading free⟩
  · rw [List.map_append, faces.numbered, List.length_append, List.length_singleton, List.range'_concat]
    simp [Nat.add_comm]
  · intro message found
    rcases List.mem_append.mp found with earlier | new
    · exact faces.valid message earlier
    · rw [List.mem_singleton.mp new]
      exact valid
  · exact faces.delivered.trans (List.prefix_append _ _)
  · rw [List.length_append, free]
    exact Nat.le_refl _
  · simp [storeSequence]
  · exact fun _ => ⟨line, by simp [Latest], shows.length, shows.bytes⟩

variable {isHealthy : Bool} {read : Bytes}

theorem measures (faces : Faces slot sent writer got (.measuring isHealthy)) :
    (slot.length ≠ 0 ∧ slot.length ≤ kTaskProtocolMaxLineBytes) ∧
      Faces slot sent writer got (.loading isHealthy slot.length []) := by
  obtain ⟨line, latest, shows⟩ := faces.shown faces.reading
  have valid := faces.valid _ (latest_mem latest)
  refine ⟨⟨?_, ?_⟩, faces.reader_moved ⟨faces.reading, line, latest, rfl, ?_⟩⟩
  · rw [shows.length]
    exact fun empty => valid_line_ne_nil valid (List.length_eq_zero_iff.mp empty)
  · rw [shows.length]
    exact valid_line_length valid
  · rw [shows.length, List.length_nil, Nat.zero_add]

theorem loads {remaining : Nat} (faces : Faces slot sent writer got (.loading isHealthy (remaining + 1) read)) :
    Faces slot sent writer got (.loading isHealthy remaining (read ++ [slot.bytes read.length])) := by
  obtain ⟨unread, line, latest, taken, lengths⟩ := faces.reading
  obtain ⟨line', latest', shows⟩ := faces.shown unread
  obtain rfl : line = line' := by
    rw [Latest, latest] at latest'
    exact (Prod.mk.inj (Option.some.inj latest')).2
  have below : read.length < line.length := by omega
  have next := shows.bytes read.length below
  refine faces.reader_moved ⟨unread, line, latest, ?_, ?_⟩
  · rw [List.length_append, List.length_singleton, List.take_add_one, next, ← taken]
    rfl
  · rw [List.length_append, List.length_singleton]
    omega

theorem finishes (faces : Faces slot sent writer got (.loading isHealthy 0 read)) :
    (slot.sequence = got.length + 1 ∧ validLine read = true) ∧
      Faces slot sent writer (got ++ [(got.length + 1, read)]) .idle := by
  obtain ⟨unread, line, latest, taken, lengths⟩ := faces.reading
  have ahead : sent.length = got.length + 1 := Nat.le_antisymm faces.oneAhead unread
  obtain rfl : read = line := by rw [taken, show read.length = line.length by omega, List.take_length]
  have together := prefix_latest faces.delivered ahead latest
  refine ⟨⟨by rw [faces.committed, ahead], faces.valid _ (latest_mem latest)⟩, ?_⟩
  have equal : (got ++ [(got.length + 1, read)]).length = sent.length := congrArg List.length together
  refine
    { faces with
      delivered := ⟨[], by rw [List.append_nil, together]⟩
      oneAhead := by omega
      shown := fun behind => by omega
      writing := LinkPlace.writes_kept faces.writing unread
      reading := trivial }

end Faces

-- Only the hints received or the transport's error may differ.
structure SharedControlChannel.SameTurn (c d : SharedControlChannel) : Prop where
  side : d.isServer = c.isServer
  mode : d.mode = c.mode
  incarnation : d.incarnation = c.incarnation
  sequence : d.sequence = c.sequence
  pending : d.isPending = c.isPending
  mapped : d.mapped = c.mapped
  socket : d.negotiatedSocket = c.negotiatedSocket

namespace SharedControlChannel

theorem same_turn (c : SharedControlChannel) : SameTurn c c := ⟨rfl, rfl, rfl, rfl, rfl, rfl, rfl⟩

theorem same_turn_error {c d : SharedControlChannel} (same : SameTurn c d) : SameTurn c d.withError :=
  { same with }

end SharedControlChannel

namespace LinkParty

open SharedControlChannel

def ClientStands (client : LinkParty) : LinkPlace → Prop
  | .idle | .notifying => True
  | .draining line | .checking line =>
    client.channel.mode = .replyHintV3 ∧ client.channel.isPending = false ∧ validLine line = true
  | .storing _ _ | .committing _ => client.channel.isPending = true ∧ client.sent.length = client.got.length
  | .pollDraining | .pollChecking | .looking _ =>
    client.channel.mode = .replyHintV3 ∧ client.channel.isPending = true
  | .awaiting | .rechecking | .measuring _ | .loading _ _ _ => client.channel.isPending = true
  | .hinting => False

def ServerStands (server : LinkParty) : LinkPlace → Prop
  | .idle => True
  | .storing _ _ | .committing _ =>
    server.channel.isPending = true ∧ server.sent.length < server.got.length ∧
      (server.channel.mode = .replyHintV3 → server.channel.hasTransportError = false)
  | .notifying => server.channel.isPending = true ∧ server.sent.length = server.got.length
  | .hinting =>
    server.channel.mode = .replyHintV3 ∧ server.channel.isPending = true ∧ server.sent.length = server.got.length
  | .awaiting | .rechecking | .measuring _ | .loading _ _ _ => server.channel.isPending = false
  | .draining _ | .checking _ | .pollDraining | .pollChecking | .looking _ => False

def Spent (server : LinkParty) : Prop :=
  server.place = .notifying ∨ server.place = .hinting ∨
    match server.channel.mode with
    | .v2 => server.refused = true
    | .replyHintV3 => server.channel.hasTransportError = true

-- Requests and answers alternate: each of the four counts is at most one ahead of the next, one at a time.
structure Turns (client server : LinkParty) : Prop where
  clientSide : client.channel.isServer = false
  serverSide : server.channel.isServer = true
  clientOpen : client.channel.mapped = true ∧ client.channel.negotiatedSocket ≠ none
  serverOpen : server.channel.mapped = true ∧ server.channel.negotiatedSocket ≠ none
  modes : client.channel.mode = server.channel.mode
  home : server.slot.incarnation = client.channel.incarnation
  requests : Faces client.slot client.sent client.place server.got server.place
  answers : Faces server.slot server.sent server.place client.got client.place
  asked : client.channel.sequence = client.got.length + client.channel.isPending.toNat
  within : client.sent.length ≤ client.channel.sequence
  served : server.channel.sequence = server.got.length
  ordered : server.sent.length ≤ server.got.length
  kept : server.channel.isPending = false → server.got.length = server.sent.length
  due : server.channel.isPending = true → server.got.length = server.sent.length → Spent server
  clientStands : client.ClientStands client.place
  serverStands : server.ServerStands server.place

namespace Turns

variable {client server : LinkParty} (turns : Turns client server)
include turns

theorem pending_sequence (pending : client.channel.isPending = true) :
    client.channel.sequence = client.got.length + 1 := by
  rw [turns.asked, pending]
  rfl

theorem client_expected (pending : client.channel.isPending = true) : client.expected = client.got.length + 1 := by
  rw [expected, turns.clientSide]
  exact turns.pending_sequence pending

theorem server_expected : server.expected = server.got.length + 1 := by
  rw [expected, turns.serverSide, turns.served]
  rfl

theorem settled_counts (settled : client.channel.isPending = false) :
    client.sent.length = client.got.length ∧ server.got.length = client.sent.length := by
  have asked := turns.asked
  have within := turns.within
  have first := turns.requests.behind
  have second := turns.answers.behind
  have third := turns.ordered
  rw [settled, Bool.toNat_false] at asked
  omega

theorem unanswered_pending (owes : server.sent.length < server.got.length) :
    client.channel.isPending = true ∧ server.sent.length = client.got.length ∧
      server.got.length = server.sent.length + 1 := by
  have asked := turns.asked
  have within := turns.within
  have first := turns.requests.behind
  have second := turns.answers.behind
  cases pending : client.channel.isPending with
  | false =>
    rw [pending, Bool.toNat_false] at asked
    omega
  | true =>
    rw [pending, Bool.toNat_true] at asked
    exact ⟨rfl, by omega, by omega⟩

variable {channel : SharedControlChannel} {place : LinkPlace} {read : Bytes} {isHealthy : Bool}

theorem client_moves (same : SameTurn client.channel channel)
    (writes : place.Writes client.slot client.sent server.got) (reads : place.Reads server.sent client.got)
    (stands : client.ClientStands place) : Turns { client with channel := channel, place := place } server := by
  obtain ⟨_, _, _, _, _, _⟩ := channel
  obtain ⟨side, mode, incarnation, sequence, pending, mapped, socket⟩ := same
  subst side mode incarnation sequence pending mapped socket
  exact
    { turns with
      requests := turns.requests.writer_moved writes
      answers := turns.answers.reader_moved reads
      clientStands := by cases place <;> exact stands }

theorem server_moves {refused : Bool}
    (same : SameTurn server.channel channel) (writes : place.Writes server.slot server.sent client.got)
    (reads : place.Reads client.sent server.got) (stands : ServerStands { server with channel := channel } place)
    (due : server.channel.isPending = true → server.got.length = server.sent.length →
      Spent { server with channel := channel, place := place, refused := refused }) :
    Turns client { server with channel := channel, place := place, refused := refused } := by
  obtain ⟨_, _, _, _, _, _⟩ := channel
  obtain ⟨side, mode, incarnation, sequence, pending, mapped, socket⟩ := same
  subst side mode incarnation sequence pending mapped socket
  exact
    { turns with
      requests := turns.requests.reader_moved reads
      answers := turns.answers.writer_moved writes
      due := due
      serverStands := by cases place <;> exact stands }

theorem client_begins (line : Bytes) (settled : client.channel.isPending = false)
    (start : (place = .storing line 0 ∧ validLine line = true) ∨ place = .idle) :
    Turns { client with channel := client.channel.advanced, place := place } server := by
  obtain ⟨own, others⟩ := turns.settled_counts settled
  have asked := turns.asked
  rw [settled, Bool.toNat_false] at asked
  have within := Nat.le_succ_of_le turns.within
  rcases start with ⟨rfl, valid⟩ | rfl
  · exact { turns with
      requests := turns.requests.begins others valid
      answers := turns.answers.reader_moved trivial
      asked := congrArg (· + 1) asked
      within := within
      clientStands := ⟨rfl, own⟩ }
  · exact { turns with
      requests := turns.requests.writer_moved trivial
      answers := turns.answers.reader_moved trivial
      asked := congrArg (· + 1) asked
      within := within
      clientStands := trivial }

theorem client_reads (shape : client.place = .loading isHealthy 0 read)
    (same : SameTurn { client.channel with isPending := false } channel) :
    Turns { client with channel := channel, place := .idle, got := client.got ++ [(client.expected, read)] } server := by
  obtain ⟨_, _, _, _, _, _⟩ := channel
  obtain ⟨side, mode, incarnation, sequence, pending, mapped, socket⟩ := same
  subst side mode incarnation sequence pending mapped socket
  have stands := turns.clientStands
  have answers := turns.answers
  rw [shape] at stands answers
  rw [turns.client_expected stands]
  exact { turns with
    requests := turns.requests.writer_moved trivial
    answers := answers.finishes.2
    asked := by rw [List.length_append]; exact turns.pending_sequence stands
    clientStands := trivial }

theorem server_commits (shape : server.place = .committing line) :
    Turns client { server with
      slot := server.slot.storeSequence server.channel.sequence
      place := .notifying
      sent := server.sent ++ [(server.channel.sequence, line)] } := by
  have stands := turns.serverStands
  have answers := turns.answers
  rw [shape] at stands answers
  have ahead := (turns.unanswered_pending stands.2.1).2.2
  have number : server.channel.sequence = server.sent.length + 1 := by rw [turns.served, ahead]
  have level : (server.sent ++ [(server.sent.length + 1, line)]).length = server.got.length := by
    rw [List.length_append, ahead]
    rfl
  simp only [number]
  exact { turns with
    requests := turns.requests.reader_moved trivial
    answers := answers.commits
    ordered := Nat.le_of_eq level
    kept := fun settled => absurd (settled.symm.trans stands.1) Bool.false_ne_true
    due := fun _ _ => .inl rfl
    serverStands := ⟨stands.1, level⟩ }

theorem server_settles (level : server.sent.length = server.got.length) :
    Turns client { server with channel := { server.channel with isPending := false }, place := .idle } :=
  { turns with
    requests := turns.requests.reader_moved trivial
    answers := turns.answers.writer_moved trivial
    kept := fun _ => level.symm
    due := nofun
    serverStands := trivial }

theorem server_reads (shape : server.place = .loading isHealthy 0 read) :
    Turns client { server with
      channel := server.channel.advanced, place := .idle, got := server.got ++ [(server.expected, read)] } := by
  have requests := turns.requests
  rw [shape] at requests
  have longer : (server.got ++ [(server.got.length + 1, read)]).length = server.got.length + 1 := List.length_append
  rw [turns.server_expected]
  have ordered := turns.ordered
  exact { turns with
    requests := requests.finishes.2
    answers := turns.answers.writer_moved trivial
    served := by rw [longer]; exact congrArg (· + 1) turns.served
    ordered := by rw [longer]; exact Nat.le_succ_of_le ordered
    kept := nofun
    due := fun _ level =>
      absurd (show server.got.length + 1 = server.sent.length from longer.symm.trans level) (by omega)
    serverStands := trivial }

end Turns

end LinkParty

end Glimmer.Control
