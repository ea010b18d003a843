import Glimmer.Control.OwnedExchange
import Glimmer.Lib.Transcripts

namespace Glimmer.Control

open Glimmer.Core Lib CallTree OwnedControlExchange SharedControlChannel ServiceIncarnationBinding BindingOp

variable {α : Type} {op : BindingOp} {ticket : OwnedExchangeTicket} {history : List (ExchangeCall × ExchangeResult)}

section Binding

open ServiceIncarnationBinding

def Held (before after : BindingWords) : Prop :=
  (before.1 ≠ 0 → after.1 = before.1) ∧ (before.2 ≠ 0 → after.2 = before.2)

variable {known : BindingWords → Prop}

theorem Held.refl (words : BindingWords) : Held words words := ⟨fun _ => rfl, fun _ => rfl⟩

theorem serve_held (op : BindingOp) (words : BindingWords) : Held words (op.serve () words).2 := by
  cases op with
  | loadFirst | loadSecond => exact Held.refl words
  | claimFirst desired =>
    simp only [serve]
    split
    · next free => exact ⟨fun taken => absurd free taken, fun _ => rfl⟩
    · exact Held.refl words
  | claimSecond desired =>
    simp only [serve]
    split
    · next free => exact ⟨fun _ => rfl, fun taken => absurd free taken⟩
    · exact Held.refl words

def Names (incarnation : ServiceIncarnation) (words : BindingWords) : Prop :=
  words = incarnation ∧ nonzeroWords incarnation = true

variable {incarnation : ServiceIncarnation}

theorem nonzero_words (nonzero : nonzeroWords incarnation = true) : incarnation.1 ≠ 0 ∧ incarnation.2 ≠ 0 := by
  simpa [nonzeroWords] using nonzero

theorem names_lasting (incarnation : ServiceIncarnation) : Lasting Held (Names incarnation) := by
  rintro before after held ⟨rfl, nonzero⟩
  obtain ⟨first, second⟩ := nonzero_words nonzero
  exact ⟨Prod.ext (held.1 first) (held.2 second), nonzero⟩

abbrev Vouches {α : Type} (post : α → (BindingWords → Prop) → Prop) (known : BindingWords → Prop)
    (tree : BindingCall α) : Prop :=
  Upholds BindingOp.serve (fun _ => True) Held (fun _ _ => True) post known tree

variable {post : α → (BindingWords → Prop) → Prop} {next : Nat → BindingCall α} {words after : BindingWords}
  {desired found : Nat}

theorem vouches_load (lasting : Lasting Held known) (tail : ∀ reply, Vouches post known (next reply)) :
    Vouches post known (.enter op next) :=
  upholds_enter lasting (fun _ _ _ => trivial) (fun _ words _ _ => serve_held op words) tail

section Looks
variable {post : Bool → (BindingWords → Prop) → Prop} {known : BindingWords → Prop} (lasting : Lasting Held known)
  (ends : ∀ answer, post answer known)

include lasting ends

theorem agrees_vouches (incarnation : ServiceIncarnation) : Vouches post known (agrees incarnation) := by
  unfold agrees
  simp only [perform_bind]
  split
  · exact ends false
  refine vouches_load lasting fun first => ?_
  split
  · exact ends false
  · exact vouches_load lasting fun second => ends _

theorem is_bound_vouches : Vouches post known isBound := by
  unfold isBound
  simp only [perform_bind]
  refine vouches_load lasting fun first => ?_
  split
  · exact ends true
  · exact vouches_load lasting fun second => ends _

end Looks

theorem vouches_enter (onward : ∀ words found after, known words → op.serve () words = (found, after) →
      ∃ learnt, Lasting Held learnt ∧ learnt after ∧ Vouches post learnt (next found)) :
    Vouches post known (.enter op next) :=
  ⟨fun _ _ _ => trivial, fun _ words _ here => onward words _ _ here rfl⟩

theorem bind_vouches :
    Vouches (fun bound after => bound = true → ∀ words, after words → Names incarnation words) known
      (ServiceIncarnationBinding.bind incarnation) := by
  have fails : ∀ learnt : BindingWords → Prop,
      Vouches (fun bound after => bound = true → ∀ words, after words → Names incarnation words) learnt (pure false) :=
    fun _ => nofun
  unfold ServiceIncarnationBinding.bind
  simp only [perform_bind]
  split
  · exact fails known
  next named =>
  have nonzero : nonzeroWords incarnation = true := by simpa using named
  have first := (nonzero_words nonzero).1
  refine vouches_enter fun words found after _ served => ?_
  split
  · exact ⟨fun _ => True, fun _ _ _ _ => trivial, trivial, fails _⟩
  next own =>
  refine ⟨fun now => now.1 = incarnation.1, fun before later held same => ?_, ?_, ?_⟩
  · exact (held.1 (same.symm ▸ first)).trans same
  · simp only [serve] at served
    split at served
    · cases served
      rfl
    · next taken =>
      cases served
      exact not_not.mp fun differs => own ⟨taken, differs⟩
  refine vouches_enter fun now other later same claimed => ?_
  split
  · exact ⟨fun _ => True, fun _ _ _ _ => trivial, trivial, fails _⟩
  next mine =>
  have shape : later.2 = incarnation.2 ∧ later.1 = now.1 := by
    simp only [serve] at claimed
    split at claimed
    · cases claimed
      exact ⟨rfl, rfl⟩
    · next taken =>
      cases claimed
      exact ⟨not_not.mp fun differs => mine ⟨taken, differs⟩, rfl⟩
  refine ⟨Names incarnation, names_lasting incarnation, ⟨Prod.ext (shape.2.trans same) shape.1, nonzero⟩, ?_⟩
  exact agrees_vouches (names_lasting incarnation) (fun _ _ _ named => named) incarnation

end Binding

namespace OwnedControlExchange

def Anchors (e : OwnedControlExchange) (words : BindingWords) : Prop :=
  e.state = .ready ∨ e.state = .pending → Names e.channel.incarnation words

variable {after e : OwnedControlExchange} {words : BindingWords}

theorem anchors_lasting (e : OwnedControlExchange) : Lasting Held (Anchors e) :=
  fun before after held anchored live => names_lasting _ before after held (anchored live)

def Anchored {α : Type} (leaves : α → OwnedControlExchange) (answer : α) (known : BindingWords → Prop) : Prop :=
  ∀ words, known words → Anchors (leaves answer) words

theorem cold_end_anchors (idle : e.state = .disconnected) {status : OwnedExchangeColdStatus}
    {closes : Bool} (words : BindingWords) : Anchors (e.coldEnd status closes).2 words := by
  intro live
  have state : (e.coldEnd status closes).2.state = .disconnected := idle
  rw [state] at live
  rcases live with ready | pending
  · cases ready
  · cases pending

theorem initialize_endpoint_vouches (e : OwnedControlExchange) (i : ColdInput) :
    Vouches (Anchored Prod.snd) (Anchors e) (e.initializeEndpoint i) := by
  unfold initializeEndpoint
  split
  · exact fun words known => known
  next fresh =>
  have idle : e.state = .disconnected := not_not.mp (not_or.mp fresh).1
  split
  · exact fun words known => known
  split
  · exact fun words _ => cold_end_anchors (by exact idle) words
  · have looked : Vouches (fun _ _ => True) (Anchors e) isBound :=
      is_bound_vouches (anchors_lasting e) fun _ => trivial
    refine upholds_bind (fun bound known _ => ?_) _ _ looked
    exact fun words _ => cold_end_anchors (by exact idle) words
  split
  · exact fun words _ => cold_end_anchors (by exact idle) words
  · split
    · exact fun words _ => cold_end_anchors (by exact idle) words
    · refine upholds_bind (fun bound known named => ?_) _ _ (bind_vouches)
      cases bound with
      | false => exact fun words _ => cold_end_anchors (by exact idle) words
      | true => exact fun words here _ => named rfl words here

theorem observe_response_incarnation {c : SharedControlChannel} {isHealthy : Bool} {view : ResponseView} :
    (c.observeResponse isHealthy view).2.2.incarnation = c.incarnation := by
  unfold observeResponse
  split
  · rfl
  · split
    · split <;> rfl
    · split <;> rfl

theorem anchors_idle (unready : e.state ≠ .ready) (settled : e.state ≠ .pending) : Anchors e words := by
  rintro (ready | pending)
  · exact absurd ready unready
  · exact absurd pending settled

theorem anchors_kept (anchored : Anchors e words) (live : e.state = .ready ∨ e.state = .pending)
    (same : after.channel.incarnation = e.channel.incarnation) : Anchors after words := fun _ => same ▸ anchored live

theorem publish_anchors {i : BeginInput} {bound : Bool}
    (anchored : Anchors e words) (ready : e.state = .ready) : Anchors (e.publish i bound).2 words := by
  have kept : (e.channel.beginRequest e.slot i.inProcess e.socket i.line i.hints i.isHealthy i.notified).2.1.incarnation =
      e.channel.incarnation := by
    unfold beginRequest drained
    split
    · rfl
    split
    · next same =>
      obtain ⟨_, rfl⟩ := Prod.mk.inj same
      split
      · rfl
      · split <;> rfl
    · next _ same =>
      obtain ⟨_, rfl⟩ := Prod.mk.inj same
      rfl
  unfold publish
  split
  · exact anchored
  split
  · exact anchors_idle nofun nofun
  next _ same =>
  rw [same] at kept
  split
  · exact anchors_idle nofun nofun
  · exact anchors_kept anchored (.inl ready) kept

theorem begin_vouches (e : OwnedControlExchange) (i : BeginInput) :
    Vouches (Anchored Prod.snd) (Anchors e) (e.begin i) := by
  unfold begin
  split
  · exact fun words known => known
  next usable =>
  have ready : e.state = .ready := not_not.mp (not_or.mp usable).1
  have looked : Vouches (fun _ known => known = Anchors e) (Anchors e)
      (agrees e.channel.incarnation) :=
    agrees_vouches (anchors_lasting e) (by exact fun _ => rfl) _
  refine upholds_bind (fun bound known same => ?_) _ _ looked
  subst same
  exact fun words here => publish_anchors here ready

theorem poll_anchors (i : ExchangePollInput) (anchored : Anchors e words) : Anchors (e.poll i).2.2 words := by
  have kept : (e.channel.pollResponse i.inProcess e.socket i.hints i.isHealthy i.view).2.2.incarnation =
      e.channel.incarnation := by
    unfold pollResponse drained
    split
    · rfl
    split
    · next same =>
      obtain ⟨_, rfl⟩ := Prod.mk.inj same
      rfl
    · next same =>
      obtain ⟨_, rfl⟩ := Prod.mk.inj same
      exact observe_response_incarnation
    · next same =>
      obtain ⟨_, rfl⟩ := Prod.mk.inj same
      exact observe_response_incarnation
  unfold poll
  split
  · exact anchored
  split
  · exact anchored
  · exact anchored
  · exact anchored
  next pending =>
  split
  · exact anchors_idle nofun nofun
  split
  · next same =>
    rw [same] at kept
    exact anchors_kept anchored (.inr pending) kept
  · next same =>
    rw [same] at kept
    split
    · exact anchors_kept anchored (.inr pending) kept
    · exact anchors_idle nofun nofun
  · exact anchors_idle nofun nofun

theorem abandon_anchors (inProcess : Bool) (ticket : OwnedExchangeTicket) (closes : Bool) (anchored : Anchors e words) :
    Anchors (e.abandon inProcess ticket closes).2 words := by
  unfold abandon
  split
  · exact anchored
  · exact anchors_idle nofun nofun

theorem close_idle_anchors (closes : Bool) (anchored : Anchors e words) : Anchors (e.closeIdle closes).2 words := by
  unfold closeIdle
  split
  · exact anchored
  · exact anchors_idle nofun nofun

theorem call_vouches {e : OwnedControlExchange} (call : ExchangeCall) :
    Vouches (Anchored Prod.snd) (Anchors e) (e.call call) := by
  cases call with
  | initializeEndpoint i =>
    exact upholds_bind (fun answer known anchored => anchored) _ _ (initialize_endpoint_vouches e i)
  | begin i => exact upholds_bind (fun answer known anchored => anchored) _ _ (begin_vouches e i)
  | poll i => exact fun words known => poll_anchors i known
  | abandon inProcess ticket closes => exact fun words known => abandon_anchors inProcess ticket closes known
  | closeIdle closes => exact fun words known => close_idle_anchors closes known

structure Certain (e : OwnedControlExchange) (history : List (ExchangeCall × ExchangeResult)) : Prop where
  numbered : e.written.map Prod.fst = List.range' 1 e.generation
  ticketed : history.filterMap (fun said => said.2.ticket) =
    (List.range' 1 e.generation).map fun generation => ⟨e.identity, generation⟩
  once : (history.filterMap answeredBy).Nodup
  answered : ∀ ticket ∈ history.filterMap answeredBy,
    ticket.generation ≤ e.generation ∧ (e.state = .pending → ticket.generation ≠ e.generation)
  doubted : ∀ ticket ∈ history.filterMap doubtedBy, e.owns ticket = true ∧ e.state = .uncertain

theorem owns_congr (same : Same e after) (ticket : OwnedExchangeTicket) :
    after.owns ticket = e.owns ticket := by rw [owns, owns, same.identity, same.generation]

theorem owns_generation (owned : e.owns ticket = true) : ticket.generation = e.generation := by
  simp only [owns, Bool.and_eq_true, decide_eq_true_eq] at owned
  exact owned.2

theorem move_certain {said : ExchangeCall × ExchangeResult}
    (certain : Certain e history) (move : ExchangeMove e said after) : Certain after (history ++ [said]) := by
  cases move with
  | quiet unticketed unanswered undoubted same drifts =>
    refine ⟨by rw [same.written, same.generation]; exact certain.numbered, ?_, ?_, ?_, ?_⟩
    · rw [filter_map_snoc_none (by exact unticketed), same.identity, same.generation]
      exact certain.ticketed
    · rw [filter_map_snoc_none unanswered]
      exact certain.once
    · rw [filter_map_snoc_none unanswered, same.generation]
      intro ticket listed
      refine ⟨(certain.answered ticket listed).1, fun pending => (certain.answered ticket listed).2 ?_⟩
      rcases drifts with equal | ⟨_, idle | idle⟩ | ⟨_, uncertain⟩
      · rw [← equal]
        exact pending
      · exact absurd (pending.symm.trans idle) nofun
      · exact absurd (pending.symm.trans idle) nofun
      · exact absurd (pending.symm.trans uncertain) nofun
    · rw [filter_map_snoc_none undoubted]
      intro ticket listed
      obtain ⟨own, uncertain⟩ := certain.doubted ticket listed
      refine ⟨(owns_congr same ticket).trans own, ?_⟩
      rcases drifts with equal | ⟨idle | idle, _⟩ | ⟨pending, _⟩
      · exact equal.trans uncertain
      · exact absurd (uncertain.symm.trans idle) nofun
      · exact absurd (uncertain.symm.trans idle) nofun
      · exact absurd (uncertain.symm.trans pending) nofun
  | begun ready identity generation written state =>
    refine ⟨?_, ?_, ?_, ?_, ?_⟩
    · rw [written, generation, List.map_append, certain.numbered, List.range'_1_concat, Nat.add_comm 1]
      rfl
    · rw [filter_map_snoc, certain.ticketed, identity, generation, List.range'_1_concat, List.map_append, Nat.add_comm 1]
      rfl
    · rw [filter_map_snoc_none (by rfl)]
      exact certain.once
    · rw [filter_map_snoc_none (by rfl), generation]
      intro ticket listed
      have before := (certain.answered ticket listed).1
      exact ⟨Nat.le_succ_of_le before, fun _ => Nat.ne_of_lt (Nat.lt_succ_of_le before)⟩
    · rw [filter_map_snoc_none (by rfl)]
      intro ticket listed
      have uncertain := (certain.doubted ticket listed).2
      exact absurd (ready.symm.trans uncertain) nofun
  | responded owned pending same state =>
    refine ⟨by rw [same.written, same.generation]; exact certain.numbered, ?_, ?_, ?_, ?_⟩
    · rw [filter_map_snoc_none (by rfl), same.identity, same.generation]
      exact certain.ticketed
    · rw [filter_map_snoc]
      exact nodup_snoc certain.once fun old => (certain.answered _ old).2 pending (owns_generation owned)
    · rw [filter_map_snoc, same.generation]
      intro ticket listed
      refine ⟨?_, fun waiting => absurd (state.symm.trans waiting) nofun⟩
      rcases mem_snoc.mp listed with old | rfl
      · exact (certain.answered ticket old).1
      · exact Nat.le_of_eq (owns_generation owned)
    · rw [filter_map_snoc_none (by rfl)]
      intro ticket listed
      have uncertain := (certain.doubted ticket listed).2
      exact absurd (pending.symm.trans uncertain) nofun
  | doubted owned unsettled same state =>
    refine ⟨by rw [same.written, same.generation]; exact certain.numbered, ?_, ?_, ?_, ?_⟩
    · rw [filter_map_snoc_none (by rfl), same.identity, same.generation]
      exact certain.ticketed
    · rw [filter_map_snoc_none (by rfl)]
      exact certain.once
    · rw [filter_map_snoc_none (by rfl), same.generation]
      intro ticket listed
      exact ⟨(certain.answered ticket listed).1, fun waiting => absurd (state.symm.trans waiting) nofun⟩
    · rw [filter_map_snoc]
      intro ticket listed
      refine ⟨(owns_congr same ticket).trans ?_, state⟩
      rcases mem_snoc.mp listed with old | rfl
      · exact (certain.doubted ticket old).1
      · exact owned

end OwnedControlExchange

namespace ExchangeSession

structure Sound (s : ExchangeSession) : Prop where
  certain : ∀ i, Certain (s.exchanges i) (s.history i)
  anchored : ∀ i, Anchors (s.exchanges i) s.words
  honest : ∀ i call tree, s.calls i = some (call, tree) →
    ∀ answer, tree.Returns answer → ((s.exchanges i).call call).Returns answer
  vouched : ∀ i call tree, s.calls i = some (call, tree) →
    ∃ known, Lasting Held known ∧ known s.words ∧ Vouches (Anchored Prod.snd) known tree

variable {s : ExchangeSession} {exchange : Nat}

theorem update_some {β : Type} [DecidableEq α] {f : α → Option β} {spot i : α} {value : Option β} {found : β}
    (here : Function.update f spot value i = some found) :
    (i = spot ∧ value = some found) ∨ (i ≠ spot ∧ f i = some found) := by
  by_cases same : i = spot
  · subst same
    rw [Function.update_self] at here
    exact .inl ⟨rfl, here⟩
  · rw [Function.update_of_ne same] at here
    exact .inr ⟨same, here⟩

theorem start_sound (sound : Sound s) (exchange : Nat) (call : ExchangeCall) :
    Sound (s.step (.start exchange call)) := by
  simp only [step]
  split
  · exact sound
  refine ⟨sound.certain, sound.anchored, fun i said tree here answer returns => ?_, fun i said tree here => ?_⟩
  · rcases update_some here with ⟨rfl, own⟩ | ⟨_, other⟩
    · cases own
      exact returns
    · exact sound.honest i said tree other answer returns
  · rcases update_some here with ⟨rfl, own⟩ | ⟨_, other⟩
    · cases own
      exact ⟨Anchors (s.exchanges i), anchors_lasting _, sound.anchored i, call_vouches call⟩
    · exact sound.vouched i said tree other

variable {call : ExchangeCall} {before : ExchangeSession} {e : OwnedControlExchange}

theorem enter_sound (sound : Sound s) {next : Nat → BindingCall (ExchangeResult × OwnedControlExchange)}
    (here : s.calls exchange = some (call, .enter op next)) :
    Sound { s with
      words := (op.serve () s.words).2
      calls := Function.update s.calls exchange (some (call, next (op.serve () s.words).1)) } := by
  have moved := serve_held op s.words
  refine ⟨sound.certain, fun i => anchors_lasting _ _ _ moved (sound.anchored i),
    fun i said tree found answer returns => ?_, fun i said tree found => ?_⟩
  · rcases update_some found with ⟨rfl, own⟩ | ⟨_, other⟩
    · cases own
      exact sound.honest i call _ here answer (.enter _ returns)
    · exact sound.honest i said tree other answer returns
  · rcases update_some found with ⟨rfl, own⟩ | ⟨_, other⟩
    · cases own
      obtain ⟨known, _, now, _, onward⟩ := sound.vouched i call _ here
      exact onward () s.words trivial now
    · obtain ⟨known, lasting, now, rest⟩ := sound.vouched i said tree other
      exact ⟨known, lasting, lasting _ _ moved now, rest⟩

theorem done_sound (sound : Sound s)
    {answer : ExchangeResult × OwnedControlExchange} (here : s.calls exchange = some (call, .done answer)) :
    Sound { s with
      exchanges := Function.update s.exchanges exchange answer.2
      calls := Function.update s.calls exchange none
      history := Function.update s.history exchange (s.history exchange ++ [(call, answer.1)]) } := by
  have move := call_moves (sound.honest exchange call _ here answer (.done answer))
  refine ⟨fun i => ?_, fun i => ?_, fun i said tree found other returns => ?_, fun i said tree found => ?_⟩
  · by_cases same : i = exchange
    · subst same
      simp only [Function.update_self]
      exact move_certain (sound.certain i) move
    · simp only [Function.update_of_ne same]
      exact sound.certain i
  · by_cases same : i = exchange
    · subst same
      simp only [Function.update_self]
      obtain ⟨known, _, now, anchored⟩ := sound.vouched i call _ here
      exact anchored s.words now
    · simp only [Function.update_of_ne same]
      exact sound.anchored i
  · rcases update_some found with ⟨_, own⟩ | ⟨differs, old⟩
    · cases own
    · simp only [Function.update_of_ne differs]
      exact sound.honest i said tree old other returns
  · rcases update_some found with ⟨_, own⟩ | ⟨_, old⟩
    · cases own
    · exact sound.vouched i said tree old

theorem step_sound (sound : Sound s) (event : SessionEvent) : Sound (s.step event) := by
  cases event with
  | start exchange call => exact start_sound sound exchange call
  | advance exchange =>
    simp only [step]
    split
    · exact sound
    · next here => exact enter_sound sound here
    · next here => exact done_sound sound here

theorem run_sound (sound : Sound s) (events : List SessionEvent) : Sound (s.run events) := by
  induction events generalizing s with
  | nil => exact sound
  | cons event rest ih => exact ih (step_sound sound event)

theorem fresh_sound : Sound {} := by
  refine ⟨fun i => ⟨rfl, rfl, List.nodup_nil, ?_, ?_⟩, fun i => anchors_idle nofun nofun, ?_, ?_⟩
  · exact fun _ listed => nomatch listed
  · exact fun _ listed => nomatch listed
  · exact fun _ _ _ here => nomatch here
  · exact fun _ _ _ here => nomatch here

theorem step_exchange (sound : Sound s) (event : SessionEvent) (i : Nat) :
    ((s.step event).exchanges i = s.exchanges i ∧ (s.step event).history i = s.history i) ∨
      ∃ call answer, ((s.exchanges i).call call).Returns answer ∧ (s.step event).exchanges i = answer.2 ∧
        (s.step event).history i = s.history i ++ [(call, answer.1)] := by
  cases event with
  | start exchange call =>
    simp only [step]
    split <;> exact .inl ⟨rfl, rfl⟩
  | advance exchange =>
    simp only [step]
    split
    · exact .inl ⟨rfl, rfl⟩
    · exact .inl ⟨rfl, rfl⟩
    next call result after here =>
    by_cases same : i = exchange
    · subst same
      exact .inr ⟨call, (result, after), sound.honest i call _ here _ (.done _), Function.update_self ..,
        Function.update_self ..⟩
    · exact .inl ⟨Function.update_of_ne same _ _, Function.update_of_ne same _ _⟩

structure Doubts (exchange : Nat) (before s : ExchangeSession) : Prop where
  sound : Sound s
  kept : s.exchanges exchange = before.exchanges exchange
  said : ∃ rest, s.history exchange = before.history exchange ++ rest ∧ ∀ i result,
    (ExchangeCall.poll i, result) ∈ rest →
    (before.exchanges exchange).owns i.ticket = true → i.inProcess = true → result = .progress .uncertain []

section
variable (doubts : Doubts exchange before s) (uncertain : (before.exchanges exchange).state = .uncertain)
include doubts uncertain

theorem step_doubts (event : SessionEvent) : Doubts exchange before (s.step event) := by
  rcases step_exchange doubts.sound event exchange with ⟨same, silent⟩ | ⟨call, answer, returns, after, said⟩
  · exact ⟨step_sound doubts.sound event, same.trans doubts.kept, silent ▸ doubts.said⟩
  rw [doubts.kept] at returns
  obtain ⟨unchanged, honest⟩ := call_uncertain uncertain returns
  obtain ⟨rest, before, polls⟩ := doubts.said
  refine ⟨step_sound doubts.sound event, after.trans unchanged, rest ++ [(call, answer.1)], ?_, fun i result listed => ?_⟩
  · rw [said, before, List.append_assoc]
  · rcases mem_snoc.mp listed with old | new
    · exact polls i result old
    · obtain ⟨rfl, rfl⟩ := Prod.mk.inj new
      exact honest i rfl

theorem run_doubts (events : List SessionEvent) : Doubts exchange before (s.run events) := by
  induction events generalizing s with
  | nil => exact doubts
  | cons event rest ih => exact ih (step_doubts doubts uncertain event)

end

theorem owned_newest (certain : Certain e history) (owned : e.owns ticket = true) :
    (history.filterMap fun said => said.2.ticket).getLast? = some ticket := by
  simp only [owns, Bool.and_eq_true, decide_eq_true_eq] at owned
  obtain ⟨⟨identity, issued⟩, generation⟩ := owned
  rw [certain.ticketed, List.getLast?_map, List.getLast?_range', if_neg (by omega)]
  simp only [Option.map_some, Option.some.injEq]
  cases ticket
  simp only at identity generation issued
  rw [identity, generation]
  congr 1
  omega

end ExchangeSession

end Glimmer.Control
