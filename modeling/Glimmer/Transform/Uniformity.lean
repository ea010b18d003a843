import Glimmer.Transform.ThreadRuns

namespace Glimmer.Transform

open Lib BitVec

namespace Bits

variable {words : Nat}

theorem contains_mask (index other : Nat) : (mask index : Bits words).contains other = true → other = index := by
  intro held
  simp only [contains, mask, getLsbD_shiftLeft, getLsbD_one, Bool.and_eq_true, decide_eq_true_eq,
    Bool.not_eq_true', decide_eq_false_iff_not] at held
  omega

variable {bits : Bits words} {index other : Nat}

theorem contains_insert (held : (bits.insert index).contains other = true) :
    other = index ∨ bits.contains other = true := by
  simp only [insert, contains, getLsbD_or, Bool.or_eq_true] at held
  exact held.symm.imp_left (contains_mask index other)

theorem contains_remove (held : (bits.remove index).contains other = true) :
    other ≠ index ∧ bits.contains other = true := by
  simp only [remove, contains, mask, getLsbD_and, getLsbD_not, getLsbD_shiftLeft, getLsbD_one,
    Bool.and_eq_true, Bool.not_eq_true', decide_eq_true_eq] at held
  refine ⟨?_, held.1⟩
  rintro rfl
  simp [held.2.1] at held
  omega

theorem contains_assigned (outputs : List Nat) (value : Bool) (bits : Bits words) (other : Nat)
    (held : (outputs.foldl (fun state output => state.assign output value) bits).contains other = true) :
    (value = true ∧ other ∈ outputs) ∨ (bits.contains other = true ∧ (value = false → other ∉ outputs)) := by
  induction outputs generalizing bits with
  | nil => exact .inr ⟨held, by simp⟩
  | cons output rest ih =>
    rcases ih (bits.assign output value) held with ⟨uniform, later⟩ | ⟨kept, absent⟩
    · exact .inl ⟨uniform, List.mem_cons_of_mem _ later⟩
    cases value with
    | true =>
      rcases contains_insert kept with here | before
      · exact .inl ⟨rfl, here ▸ List.mem_cons_self⟩
      · exact .inr ⟨before, by simp⟩
    | false =>
      obtain ⟨ne, before⟩ := contains_remove kept
      refine .inr ⟨before, fun _ mem => ?_⟩
      rcases List.mem_cons.mp mem with same | later
      · exact ne same
      · exact absent rfl later

end Bits

namespace PtxBody

variable {body : PtxBody} {graph : Graph} {reachable : List Nat} {words : Nat}

section Flow
variable {facts : List UniformStatement} {interiors : List Nat} {outputs : Nat → Bits words} {id index : Nat}

theorem mem_predecessors (source index : Nat) :
    source ∈ predecessorsOf graph reachable index ↔ source ∈ reachable ∧ index ∈ graph source := by
  simp only [predecessorsOf, List.mem_flatMap, List.mem_map, List.mem_filter, decide_eq_true_eq]
  constructor
  · rintro ⟨_, known, _, ⟨edge, rfl⟩, rfl⟩
    exact ⟨known, edge⟩
  · rintro ⟨known, edge⟩
    exact ⟨source, known, index, ⟨edge, rfl⟩, rfl⟩

theorem meet_contains (held : (meetAt graph reachable outputs index).contains id = true) :
    index ≠ 0 ∧ ∀ source ∈ predecessorsOf graph reachable index, (outputs source).contains id = true := by
  have folded : ∀ (sources : List Nat) (start : Bits words),
      (sources.foldl (fun state source => state &&& outputs source) start).contains id = true →
        start.contains id = true ∧ ∀ source ∈ sources, (outputs source).contains id = true := by
    intro sources
    induction sources with
    | nil => exact fun start held => ⟨held, by simp⟩
    | cons first rest ih =>
      intro start held
      obtain ⟨both, later⟩ := ih _ held
      simp only [Bits.contains, getLsbD_and, Bool.and_eq_true] at both
      refine ⟨both.1, fun source mem => ?_⟩
      rcases List.mem_cons.mp mem with same | tail
      · exact same ▸ both.2
      · exact later source tail
  obtain ⟨start, all⟩ := folded _ _ held
  refine ⟨?_, all⟩
  rintro rfl
  simp [Bits.contains] at start

theorem transfer_contains (held : (transferAt facts graph reachable interiors index outputs).contains id = true) :
    (uniformResult (factAt facts index) (index ∈ interiors) (meetAt graph reachable outputs index) = true ∧
        id ∈ (factAt facts index).outputs) ∨
      ((meetAt graph reachable outputs index).contains id = true ∧
        (uniformResult (factAt facts index) (index ∈ interiors) (meetAt graph reachable outputs index) = false →
          id ∉ (factAt facts index).outputs)) :=
  Bits.contains_assigned _ _ _ _ held

theorem flow_local : (uniformFlow facts graph reachable interiors words).Local := by
  intro index before after agree
  have same : meetAt graph reachable after index = meetAt graph reachable before index := by
    refine List.foldl_ext _ _ _ fun state source mem => ?_
    rw [agree source ((mem_predecessors source index).mp mem).2]
  simp [uniformFlow, transferAt, same]

end Flow

section Facts
variable {ids : List String}

theorem name_of_id {name : String} {id : Nat} (found : registerId ids name = some id) : nameOf ids id = name := by
  obtain ⟨inside, same, _⟩ := List.idxOf?_eq_some_iff.mp found
  rw [nameOf, List.getElem?_eq_getElem inside]
  exact same

theorem destination_ids {texts : List String} {outputs : List Nat} (found : destinationIds ids texts = some outputs) :
    ∀ id ∈ outputs, registerId ids (nameOf ids id) = some id := by
  induction texts generalizing outputs with
  | nil =>
    cases found
    simp
  | cons text rest ih =>
    simp only [destinationIds] at found
    split at found
    · next id here =>
      obtain ⟨tail, later, rfl⟩ := Option.map_eq_some_iff.mp found
      intro other mem
      rcases List.mem_cons.mp mem with same | tailed
      · rw [same, name_of_id here]
        exact here
      · exact ih later other tailed
    · split at found
      · exact ih found
      · cases found

structure Described (body : PtxBody) (ids : List String) (stmt : BodyStatement) (fact : UniformStatement) : Prop where
  predicate : predicateId ids stmt = some fact.predicate
  outputs : ∀ id ∈ fact.outputs, registerId ids (nameOf ids id) = some id
  inputs : ∀ id ∈ fact.inputs, registerId ids (nameOf ids id) = some id
  silent : writesNothing (body.opcodeText stmt) = true → fact.outputs = []

theorem uniform_statement_described {stmt : BodyStatement} {fact : UniformStatement}
    (stated : body.uniformStatement ids stmt = some fact) : body.Described ids stmt fact := by
  simp only [uniformStatement] at stated
  obtain ⟨predicate, named, stated⟩ := Option.bind_eq_some_iff.mp stated
  split at stated
  · cases stated
    exact ⟨named, by simp, by simp, fun _ => rfl⟩
  next writes =>
  split at stated
  · cases stated
  split at stated
  · cases stated
  obtain ⟨outputs, written, stated⟩ := Option.bind_eq_some_iff.mp stated
  have known := destination_ids written
  split at stated
  · cases stated
    exact ⟨named, known, by simp, fun silent => absurd silent writes⟩
  cases stated
  refine ⟨named, known, fun id mem => ?_, fun silent => absurd silent writes⟩
  obtain ⟨text, _, found⟩ := List.mem_filterMap.mp mem
  rw [name_of_id found]
  exact found

end Facts

variable {work spent : Nat} {regions : ReconvergentRegions}

section Regions

-- From the branch, every way leads through the members to the join; the members neither return nor synchronise.
structure Region (body : PtxBody) (graph : Graph) (branch join : Nat) (members : List Nat) : Prop where
  enters : ∀ next ∈ graph branch, next = join ∨ next ∈ members
  stays : ∀ index ∈ members, ∀ next ∈ graph index, next = join ∨ next ∈ members
  plain : ∀ index ∈ members, body.barrierAt index = false ∧ body.returnAt index = false

variable {branch : Nat} {members : List Nat} {table : PostdominatorTable words}

theorem explored_region {join : Nat}
    (explored : Explored graph (fun index => decide (index = join)) (body.endsRegion graph branch)
      (graph branch).reverse [] members) :
    body.Region graph branch join members := by
  have inside : ∀ index ∈ members, body.endsRegion graph branch index = false ∧
      ∀ next ∈ graph index, next = join ∨ next ∈ members := by
    intro index mem
    rcases explored.closed index mem with before | ⟨_, ends, closed⟩
    · cases before
    · exact ⟨ends, fun next edge => (closed next edge).imp_left of_decide_eq_true⟩
  refine ⟨fun next edge => ?_, fun index mem => (inside index mem).2, fun index mem => ?_⟩
  · exact (explored.asked next (List.mem_reverse.mpr edge)).imp_left of_decide_eq_true
  · have ends := (inside index mem).1
    simp only [endsRegion, Bool.or_eq_false_iff] at ends
    exact ⟨ends.1.1.1.2, ends.1.2⟩

theorem region_of_accepted (accepted : body.regionOf graph table branch work = some (some members, spent)) :
    ∃ join, body.Region graph branch join members := by
  simp only [regionOf] at accepted
  obtain ⟨_, _, accepted⟩ := Option.bind_eq_some_iff.mp accepted
  split at accepted
  · cases accepted
  split at accepted
  · cases accepted
  obtain ⟨_, _, accepted⟩ := Option.bind_eq_some_iff.mp accepted
  split at accepted
  · cases accepted
  · cases accepted
  next visited _ explored =>
  obtain ⟨_, _, accepted⟩ := Option.bind_eq_some_iff.mp accepted
  split at accepted
  · cases accepted
  obtain ⟨_, _, accepted⟩ := Option.bind_eq_some_iff.mp accepted
  split at accepted
  · cases accepted
  · cases accepted
    exact ⟨_, explored_region (explore_done _ _ _ _ _ _ explored)⟩

-- Every accepted branch has its region, and the members of all regions are kept as interiors.
structure Reconvergent (body : PtxBody) (graph : Graph) (regions : ReconvergentRegions) : Prop where
  branches : ∀ branch ∈ regions.branches, isBranch (body.opcodeAt branch) = true
  regions : ∀ branch ∈ regions.branches, ∃ join members, body.Region graph branch join members ∧
    ∀ index ∈ members, index ∈ regions.interiors

theorem reconvergent_empty : body.Reconvergent graph {} := ⟨by simp, by simp⟩

theorem add_region_reconvergent {state next : ReconvergentRegions × Nat} (before : body.Reconvergent graph state.1)
    (added : body.addRegion graph reachable table state branch = some next) : body.Reconvergent graph next.1 := by
  simp only [addRegion] at added
  split at added
  · cases added
    exact before
  next candidate =>
  obtain ⟨⟨members, work⟩, accepted, added⟩ := Option.bind_eq_some_iff.mp added
  cases members with
  | none =>
    cases added
    exact before
  | some members =>
    cases added
    obtain ⟨join, region⟩ := region_of_accepted accepted
    simp only [regionCandidate, Bool.not_eq_true', Bool.not_eq_false, Bool.and_eq_true] at candidate
    refine ⟨fun other mem => ?_, fun other mem => ?_⟩
    · rcases List.mem_append.mp mem with old | new
      · exact before.branches other old
      · exact List.mem_singleton.mp new ▸ candidate.1.2
    · rcases List.mem_append.mp mem with old | new
      · obtain ⟨target, inner, known, kept⟩ := before.regions other old
        exact ⟨target, inner, known, fun index inside => List.mem_append_left _ (kept index inside)⟩
      · exact ⟨join, members, List.mem_singleton.mp new ▸ region, fun index inside => List.mem_append_right _ inside⟩

theorem reconvergent_regions_sound
    (found : body.reconvergentRegions graph reachable = some regions) : body.Reconvergent graph regions := by
  obtain ⟨_, _, found⟩ := Option.bind_eq_some_iff.mp found
  split at found
  · split at found
    · cases found
    · obtain ⟨_, _, found⟩ := Option.bind_eq_some_iff.mp found
      obtain ⟨_, _, found⟩ := Option.bind_eq_some_iff.mp found
      obtain ⟨_, _, found⟩ := Option.bind_eq_some_iff.mp found
      obtain ⟨last, folded, found⟩ := Option.bind_eq_some_iff.mp found
      cases found
      exact foldlM_some_invariant (fun state => body.Reconvergent graph state.1) folded reconvergent_empty
        fun state branch next _ before => add_region_reconvergent before
  · cases found

end Regions

variable {table : List (List Nat)}

structure Uniform (body : PtxBody) (graph : Graph) (ids : List String) (facts : List UniformStatement)
    (reachable : List Nat) (regions : ReconvergentRegions) {words : Nat} (outputs : Nat → Bits words) : Prop where
  named : body.registerIds = some ids
  stated : ∀ (index : Nat) stmt, body.statements[index]? = some stmt →
    body.uniformStatement ids stmt = some (factAt facts index)
  entry : 0 < body.count → 0 ∈ reachable
  closed : ∀ index ∈ reachable, ∀ next ∈ graph index, next ∈ reachable
  solved : ∀ index ∈ reachable, index < body.count →
    outputs index = transferAt facts graph reachable regions.interiors index outputs
  decided : body.decisionsUniform facts reachable regions.branches outputs = true
  reconvergent : body.Reconvergent graph regions

variable (built : body.successorTable = some table) (filled : 0 < body.count)
include built filled

theorem reachable_from_closed :
    0 ∈ body.reachableFrom (graphOf table) ∧
      ∀ index ∈ body.reachableFrom (graphOf table), ∀ next ∈ graphOf table index,
        next ∈ body.reachableFrom (graphOf table) := by
  have known : ∀ node ∈ [0], node ∈ List.range body.count := by simpa using filled
  obtain ⟨visited, work, searched, explored⟩ : ∃ visited work,
      search (graphOf table) (fun _ => false) (fun _ => false) (List.range body.count) [0] = .done visited work ∧
        Explored (graphOf table) (fun _ => false) (fun _ => false) [0] [] visited :=
    search_finishes List.nodup_range (range_inside built) known fun _ => rfl
  have found : body.reachableFrom (graphOf table) = visited := by
    simp only [reachableFrom]
    rw [searched]
  rw [found]
  refine ⟨(explored.asked 0 (by simp)).resolve_left (by simp), fun index mem next edge => ?_⟩
  rcases explored.closed index mem with before | ⟨_, _, closed⟩
  · cases before
  · exact (closed next edge).resolve_left (by simp)

theorem validated_uniform (valid : body.validateUniformControlFlow (graphOf table) = true) :
    ∃ ids facts reachable regions words, ∃ outputs : Nat → Bits words,
      body.Uniform (graphOf table) ids facts reachable regions outputs := by
  simp only [validateUniformControlFlow, Bool.and_eq_true, decide_eq_true_eq] at valid
  replace valid := valid.2
  obtain ⟨ids, named, valid⟩ := Option.bind_eq_some_iff.mp valid
  obtain ⟨facts, mapped, valid⟩ := Option.bind_eq_some_iff.mp valid
  obtain ⟨⟨first, evaluations, work⟩, passed, valid⟩ := Option.bind_eq_some_iff.mp valid
  obtain ⟨entry, closed⟩ := reachable_from_closed built filled
  have proof : ∀ {regions : ReconvergentRegions} {evaluations work left spent : Nat},
      body.Reconvergent (graphOf table) regions →
      body.uniformPass facts (graphOf table)
        (body.reachableFrom (graphOf table)) regions (wordsFor ids.length) evaluations work =
        some (true, left, spent) →
      ∃ ids facts reachable regions words, ∃ outputs : Nat → Bits words,
        body.Uniform (graphOf table) ids facts reachable regions outputs := by
    intro regions _ _ _ _ reconvergent passed
    obtain ⟨⟨outputs, _, _⟩, settled, passed⟩ := Option.bind_eq_some_iff.mp passed
    simp only [Option.some.injEq, Prod.mk.injEq] at passed
    refine ⟨ids, facts, _, regions, _, outputs, named, fun index stmt here => ?_, fun _ => entry, closed,
      fun index known inside => ?_, passed.1, reconvergent⟩
    · obtain ⟨fact, listed, computed⟩ := mapM_some_entry mapped here
      rw [computed, factAt, listed]
      rfl
    refine Dataflow.settle_solves flow_local _ (fun index => index ∈ body.reachableFrom (graphOf table) ∧
      index < body.count) _ _ _ _ _ _ _ ⟨?_⟩ settled index ⟨known, inside⟩
    exact fun other ⟨reached, bound⟩ => .inl (List.mem_filter.mpr ⟨List.mem_range.mpr bound, decide_eq_true reached⟩)
  cases first with
  | true => exact proof reconvergent_empty passed
  | false =>
    obtain ⟨regions, found, valid⟩ := Option.bind_eq_some_iff.mp valid
    obtain ⟨⟨second, _, _⟩, repeated, valid⟩ := Option.bind_eq_some_iff.mp valid
    cases valid
    exact proof (reconvergent_regions_sound found) repeated

end PtxBody

end Glimmer.Transform
