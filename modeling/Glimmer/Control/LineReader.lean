import Glimmer.Control.TaskProtocol

namespace Glimmer.Control

inductive SocketLineStatus where
  | line | tooLong | idle | closed | error
deriving DecidableEq

-- What a poll and the recv behind it come to. No bytes are the end of the stream.
inductive WaitOutcome where
  | idle | interrupted | failed | stopped | received (bytes : Bytes)

-- The flag is what the next turn of the loop reads from stopping.
structure SocketWait where
  outcome : WaitOutcome
  stopping : Bool := false

-- Of the buffer only the bytes between begin and end are read again.
structure SocketLineReader where
  fileDescriptor : Int := -1
  pending : Bytes := []

structure LineRead where
  status : SocketLineStatus
  line : Bytes
  reader : SocketLineReader
  waits : List SocketWait

namespace SocketLineReader

def reset (fileDescriptor : Int) : SocketLineReader := { fileDescriptor := fileDescriptor }

def newline : UInt8 := 10

def taken (pending line : Bytes) : Nat :=
  min (((pending.idxOf? newline).map (· + 1)).getD pending.length) (kTaskProtocolMaxLineBytes + 1 - line.length)

-- After the listed waits the peer has closed its side, so that every recv returns no bytes.
def readLoop (r : SocketLineReader) (line : Bytes) (stopping : Bool) (waits : List SocketWait) : LineRead :=
  if stopping then ⟨.error, line, r, waits⟩
  else
    let count := taken r.pending line
    let line := line ++ r.pending.take count
    let left := { r with pending := r.pending.drop count }
    if r.pending ≠ [] ∧ line.length > kTaskProtocolMaxLineBytes then ⟨.tooLong, line, left, waits⟩
    else if newline ∈ r.pending then ⟨.line, line, left, waits⟩
    else match waits with
      | [] => ⟨if line = [] then .closed else .line, line, left, []⟩
      | wait :: rest => match wait.outcome with
        | .idle => ⟨if line = [] then .idle else .error, line, left, rest⟩
        | .failed | .stopped => ⟨.error, line, left, rest⟩
        | .interrupted => left.readLoop line wait.stopping rest
        | .received [] => ⟨if line = [] then .closed else .line, line, left, rest⟩
        | .received bytes => { r with pending := bytes }.readLoop line wait.stopping rest

def readLine (r : SocketLineReader) (timeoutMs : UInt32) (stopping : Bool) (waits : List SocketWait) : LineRead :=
  if r.fileDescriptor < 0 ∨ timeoutMs = 0 ∨ timeoutMs > 60000 then ⟨.error, [], r, waits⟩
  else r.readLoop [] stopping waits

def readLines (r : SocketLineReader) : List UInt32 → List SocketWait → List (SocketLineStatus × Bytes)
  | [], _ => []
  | timeoutMs :: later, waits =>
    let read := r.readLine timeoutMs false waits
    (read.status, read.line) :: if read.status = .line then read.reader.readLines later read.waits else []

-- The stream split after each newline.
def pieces : Bytes → List Bytes
  | [] => []
  | byte :: rest =>
    if byte = newline then [byte] :: pieces rest
    else match pieces rest with
      | [] => [[byte]]
      | first :: others => (byte :: first) :: others

def reports : List Bytes → List (SocketLineStatus × Bytes)
  | [] => [(.closed, [])]
  | piece :: rest =>
    if piece.length ≤ kTaskProtocolMaxLineBytes then (.line, piece) :: reports rest
    else [(.tooLong, piece.take (kTaskProtocolMaxLineBytes + 1))]

-- A cut of the stream; its empty parts are interrupted calls.
def waitOf (part : Bytes) : SocketWait := { outcome := if part = [] then .interrupted else .received part }

abbrev Fits (line : Bytes) : Prop := line.length ≤ kTaskProtocolMaxLineBytes

def Reports (read : LineRead) (descriptor : Int) (text : Bytes) : Prop :=
  ∃ tail, reports (pieces text) = (read.status, read.line) :: tail ∧
    if read.status = .line then read.reader.fileDescriptor = descriptor ∧ ∃ cut : List Bytes,
      read.waits = cut.map waitOf ∧ tail = reports (pieces (read.reader.pending ++ cut.flatten))
    else tail = []

variable {r : SocketLineReader} {line text rest : Bytes} {cut : List Bytes}

theorem pieces_flatten (stream : Bytes) : (pieces stream).flatten = stream := by
  induction stream with
  | nil => rfl
  | cons byte rest ih =>
    unfold pieces
    split
    · simp [ih]
    · split <;> simp_all

theorem pieces_line (plain : newline ∉ text) :
    pieces (text ++ newline :: rest) = (text ++ [newline]) :: pieces rest := by
  induction text with
  | nil => simp [pieces]
  | cons byte text ih =>
    obtain ⟨other, plain⟩ := not_or.mp (List.mem_cons.not.mp plain)
    simp [pieces, ih plain, Ne.symm other]

theorem pieces_open (plain : newline ∉ text) (filled : text ≠ []) (rest : Bytes) :
    ∃ tail others, pieces (text ++ rest) = (text ++ tail) :: others ∧ (rest = [] → tail = [] ∧ others = []) := by
  induction text with
  | nil => exact absurd rfl filled
  | cons byte text ih =>
    obtain ⟨other, plain⟩ := not_or.mp (List.mem_cons.not.mp plain)
    by_cases last : text = []
    · subst last
      cases split : pieces rest with
      | nil => exact ⟨[], [], by simp [pieces, split, Ne.symm other], fun _ => ⟨rfl, rfl⟩⟩
      | cons first others =>
        refine ⟨first, others, by simp [pieces, split, Ne.symm other], fun ended => ?_⟩
        rw [ended] at split
        cases split
    · obtain ⟨tail, others, split, ended⟩ := ih plain last
      exact ⟨tail, others, by simp [pieces, split, Ne.symm other], ended⟩

theorem idx_newline {before after : Bytes} (plain : newline ∉ before) :
    (before ++ newline :: after).idxOf? newline = some before.length := by
  induction before with
  | nil => simp [List.idxOf?_cons]
  | cons byte before ih =>
    obtain ⟨other, plain⟩ := not_or.mp (List.mem_cons.not.mp plain)
    simp [List.idxOf?_cons, ih plain, Ne.symm other]

section Pending
variable {first left : Bytes} (most : ((r.pending.idxOf? newline).map (· + 1)).getD r.pending.length = first.length)
include most

theorem short_count (short : Fits (line ++ first)) : taken r.pending line = first.length := by
  rw [Fits, List.length_append] at short
  rw [taken, most]
  omega

-- A piece that is too long is seen to be so before its end.
theorem long_reports {waits : List SocketWait} {piece : Bytes} {others : List Bytes} (fits : Fits line)
    (whole : r.pending = first ++ left) (long : ¬ Fits (line ++ first)) (begins : line ++ first <+: piece)
    (split : pieces text = piece :: others) (descriptor : Int) :
    Reports (r.readLoop line false waits) descriptor text := by
  have filled : r.pending ≠ [] := by
    intro empty
    obtain ⟨rfl, _⟩ := List.append_eq_nil_iff.mp (whole.symm.trans empty)
    exact long (by rwa [List.append_nil])
  have cut : line ++ r.pending.take (taken r.pending line) = (line ++ first).take (kTaskProtocolMaxLineBytes + 1) := by
    rw [taken, most, whole, Nat.min_comm, ← List.take_take, List.take_left, List.take_append,
      List.take_of_length_le (Nat.le_succ_of_le fits)]
  have past : kTaskProtocolMaxLineBytes + 1 ≤ (line ++ first).length := Nat.not_le.mp long
  rw [readLoop, if_neg (by simp)]
  dsimp only
  rw [cut, if_pos ⟨filled, (List.length_take_of_le past).ge⟩]
  obtain ⟨tail, rfl⟩ := begins
  refine ⟨[], ?_, rfl⟩
  rw [split, reports, if_neg, List.take_append_of_le_length past]
  rw [List.length_append]
  omega

end Pending

theorem pending_reports (plain : newline ∉ line) (fits : Fits line)
    (later : newline ∉ line ++ r.pending → Fits (line ++ r.pending) →
      Reports ({ r with pending := [] }.readLoop (line ++ r.pending) false (cut.map waitOf)) r.fileDescriptor
        (line ++ r.pending ++ cut.flatten)) :
    Reports (r.readLoop line false (cut.map waitOf)) r.fileDescriptor (line ++ r.pending ++ cut.flatten) := by
  by_cases ended : newline ∈ r.pending
  · obtain ⟨before, after, whole, early⟩ := List.eq_append_cons_of_mem ended
    have split : pieces (line ++ r.pending ++ cut.flatten) =
        (line ++ (before ++ [newline])) :: pieces (after ++ cut.flatten) := by
      rw [whole, ← List.append_assoc, List.append_assoc, List.cons_append,
        pieces_line (List.not_mem_append plain early), List.append_assoc]
    have most : ((r.pending.idxOf? newline).map (· + 1)).getD r.pending.length = (before ++ [newline]).length := by
      simp [whole, idx_newline early]
    rw [List.append_cons] at whole
    by_cases short : Fits (line ++ (before ++ [newline]))
    · have result : r.readLoop line false (cut.map waitOf) =
          ⟨.line, line ++ (before ++ [newline]), { r with pending := after }, cut.map waitOf⟩ := by
        rw [readLoop, if_neg (by simp)]
        simp only [short_count most short]
        rw [whole, List.take_left, List.drop_left, if_neg (fun past => Nat.not_lt.mpr short past.2),
          if_pos (whole ▸ ended)]
      rw [result]
      exact ⟨_, by rw [split, reports, if_pos short], rfl, cut, rfl, rfl⟩
    · exact long_reports most fits whole short (List.prefix_refl _) split _
  · have open_ := List.not_mem_append plain ended
    have most : ((r.pending.idxOf? newline).map (· + 1)).getD r.pending.length = r.pending.length := by
      simp [List.idxOf?_eq_none_iff.mpr ended]
    by_cases short : Fits (line ++ r.pending)
    · convert later open_ short using 1
      rw [readLoop, readLoop]
      simp [short_count most short, ended, Nat.not_lt.mpr short, -List.length_append]
    · obtain ⟨tail, others, split, _⟩ := pieces_open open_ (by rintro empty; simp [empty, Fits] at short) cut.flatten
      exact long_reports most fits (List.append_nil r.pending).symm short (List.prefix_append _ _) split _

theorem loop_reports (plain : newline ∉ line) (fits : Fits line) (descriptor : Int) :
    Reports ((reset descriptor).readLoop line false (cut.map waitOf)) descriptor (line ++ cut.flatten) := by
  induction cut generalizing line with
  | nil =>
    have result : (reset descriptor).readLoop line false [] =
        ⟨if line = [] then .closed else .line, line, reset descriptor, []⟩ := by
      simp [readLoop, reset, taken]
    rw [List.map_nil, result]
    by_cases empty : line = []
    · subst empty
      exact ⟨[], rfl, rfl⟩
    · obtain ⟨tail, others, split, none⟩ := pieces_open plain empty []
      obtain ⟨rfl, rfl⟩ := none rfl
      rw [List.append_nil] at split
      rw [if_neg empty, List.flatten_nil, List.append_nil]
      refine ⟨_, ?_, rfl, [], rfl, rfl⟩
      rw [split, reports, if_pos fits]
      rfl
  | cons part rest ih =>
    have turn : (reset descriptor).readLoop line false ((part :: rest).map waitOf) =
        { fileDescriptor := descriptor, pending := part : SocketLineReader }.readLoop line false (rest.map waitOf) := by
      rw [readLoop, List.map_cons, waitOf]
      by_cases empty : part = [] <;> simp [reset, taken, empty]
    rw [turn, List.flatten_cons, ← List.append_assoc]
    exact pending_reports plain fits fun plain fits => ih plain fits

theorem calls_report (descriptor : Int) (open_ : 0 ≤ descriptor) (timeouts : List UInt32)
    (timed : ∀ timeoutMs ∈ timeouts, timeoutMs ≠ 0 ∧ timeoutMs ≤ 60000) (same : r.fileDescriptor = descriptor) :
    r.readLines timeouts (cut.map waitOf) = (reports (pieces (r.pending ++ cut.flatten))).take timeouts.length := by
  induction timeouts generalizing r cut with
  | nil => rfl
  | cons timeoutMs later ih =>
    obtain ⟨tail, reported, continues⟩ := @pending_reports r [] cut List.not_mem_nil (Nat.zero_le _)
      fun plain fits => by simpa [same, reset] using loop_reports plain fits descriptor
    obtain ⟨pos, bounded⟩ := timed timeoutMs List.mem_cons_self
    rw [List.nil_append] at reported
    rw [readLines, readLine, if_neg (by simp [same, open_, pos, bounded]), reported, List.length_cons,
      List.take_succ_cons]
    split at continues
    · next lined =>
      obtain ⟨kept, cut, left, rfl⟩ := continues
      rw [if_pos lined, left,
        ih (fun timeoutMs mem => timed timeoutMs (List.mem_cons_of_mem _ mem)) (kept.trans same)]
    · next other => rw [continues, if_neg other, List.take_nil]

theorem lines_independent_of_cut (descriptor : Int) (open_ : 0 ≤ descriptor) (timeouts : List UInt32)
    (timed : ∀ timeoutMs ∈ timeouts, timeoutMs ≠ 0 ∧ timeoutMs ≤ 60000) (cut : List Bytes) :
    (reset descriptor).readLines timeouts (cut.map waitOf) = (reports (pieces cut.flatten)).take timeouts.length ∧
      (pieces cut.flatten).flatten = cut.flatten :=
  ⟨calls_report descriptor open_ timeouts timed rfl, pieces_flatten cut.flatten⟩

theorem chunked_lines_read :
    (reset 3).readLines [1000, 1000, 1000] ([[97], [], [98, 10, 99]].map waitOf) =
      [(.line, [97, 98, 10]), (.line, [99]), (.closed, [])] :=
  (lines_independent_of_cut 3 (by decide) [1000, 1000, 1000] (by simp) [[97], [], [98, 10, 99]]).1.trans (by decide)

end SocketLineReader

end Glimmer.Control
