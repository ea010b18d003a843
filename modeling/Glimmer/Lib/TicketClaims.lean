import Glimmer.Lib.RangeSums

namespace Glimmer.Lib

-- Tickets below a limit, drawn one by one from a counter by members of a team.
structure Claims (tickets : Nat → List Nat) (limit counter : Nat) : Prop where
  drawn : ∀ mem ticket, ticket ∈ tickets mem → ticket < counter ∧ ticket < limit
  once : ∀ mem, (tickets mem).Nodup
  apart : ∀ mem other ticket, ticket ∈ tickets mem → ticket ∈ tickets other → mem = other
  all : ∀ ticket, ticket < counter → ticket < limit → ∃ mem, ticket ∈ tickets mem

variable {tickets : Nat → List Nat} {limit counter : Nat}

theorem claims_start {limit : Nat} : Claims (fun _ => []) limit 0 :=
  ⟨by simp, by simp, by simp, fun ticket drawn => absurd drawn (Nat.not_lt_zero ticket)⟩

variable (claims : Claims tickets limit counter)
include claims

theorem claims_draw (mem : Nat) (left : counter < limit) :
    Claims (Function.update tickets mem (tickets mem ++ [counter])) limit (counter + 1) := by
  have cases_of : ∀ other ticket, ticket ∈ Function.update tickets mem (tickets mem ++ [counter]) other →
      ticket ∈ tickets other ∨ (other = mem ∧ ticket = counter) := by
    intro other ticket listed
    by_cases same : other = mem
    · subst same
      rw [Function.update_self] at listed
      rcases List.mem_append.mp listed with old | new
      · exact .inl old
      · exact .inr ⟨rfl, List.mem_singleton.mp new⟩
    · rw [Function.update_of_ne same] at listed
      exact .inl listed
  have fresh : ∀ other, counter ∉ tickets other := fun other listed =>
    Nat.lt_irrefl _ (claims.drawn other counter listed).1
  refine ⟨?_, ?_, ?_, ?_⟩
  · intro other ticket listed
    rcases cases_of other ticket listed with old | ⟨_, rfl⟩
    · have bounds := claims.drawn other ticket old
      exact ⟨Nat.lt_succ_of_lt bounds.1, bounds.2⟩
    · exact ⟨Nat.lt_succ_self _, left⟩
  · intro other
    by_cases same : other = mem
    · subst same
      rw [Function.update_self]
      refine (claims.once other).append (List.nodup_singleton _) ?_
      simpa using fresh other
    · rw [Function.update_of_ne same]
      exact claims.once other
  · intro first second ticket one two
    rcases cases_of first ticket one with old | ⟨same, rfl⟩
    · rcases cases_of second ticket two with old' | ⟨_, rfl⟩
      · exact claims.apart first second ticket old old'
      · exact absurd old (fresh first)
    · rcases cases_of second _ two with old' | ⟨same', _⟩
      · exact absurd old' (fresh second)
      · exact same.trans same'.symm
  · intro ticket drawn within
    rcases Nat.lt_succ_iff_lt_or_eq.mp drawn with earlier | rfl
    · obtain ⟨owner, listed⟩ := claims.all ticket earlier within
      refine ⟨owner, ?_⟩
      by_cases same : owner = mem
      · subst same
        rw [Function.update_self]
        exact List.mem_append.mpr (.inl listed)
      · rwa [Function.update_of_ne same]
    · exact ⟨mem, by rw [Function.update_self]; exact List.mem_append.mpr (.inr (List.mem_singleton.mpr rfl))⟩

theorem claims_overrun (closed : limit ≤ counter) : Claims tickets limit (counter + 1) := by
  refine ⟨fun mem ticket listed => ?_, claims.once, claims.apart, fun ticket _ within => ?_⟩
  · have bounds := claims.drawn mem ticket listed
    exact ⟨Nat.lt_succ_of_lt bounds.1, bounds.2⟩
  · exact claims.all ticket (Nat.lt_of_lt_of_le within closed) within

theorem claims_count {members : Nat} (outside : ∀ mem, members ≤ mem → tickets mem = []) {ticket : Nat} :
    ((List.range members).map (fun mem => (tickets mem).count ticket)).sum =
      if ticket < counter ∧ ticket < limit then 1 else 0 := by
  by_cases drawn : ticket < counter ∧ ticket < limit
  · obtain ⟨owner, listed⟩ := claims.all ticket drawn.1 drawn.2
    have inside : owner < members := by
      refine Nat.lt_of_not_le (fun beyond => ?_)
      rw [outside owner beyond] at listed
      exact absurd listed (by simp)
    have others : ∀ mem, mem < members → mem ≠ owner → (tickets mem).count ticket = 0 := by
      intro mem _ other
      exact List.count_eq_zero.mpr (fun met => other (claims.apart mem owner ticket met listed))
    rw [sum_range_single others, if_pos inside, if_pos drawn, (claims.once owner).count, if_pos listed]
  · have none : ∀ mem, (tickets mem).count ticket = 0 := fun mem =>
      List.count_eq_zero.mpr (fun met => drawn (claims.drawn mem ticket met))
    simp [none, drawn]

end Glimmer.Lib
